-- Values and their JSON text. What is written of a value reads back as that value, in front of
-- any text that does not go on with a number, so long as the value has no fractions in it.
import Mathlib
import IsoServer.Json.Reader
import IsoServer.Json.Writer
import IsoServer.Proofs.Digits

namespace IsoServer.Json

/-! ## Whole numbers -/

/-- What stands behind a number does not go on with it. -/
def Stops (rest : List Char) : Prop :=
  ∀ c ∈ rest.head?, c.isDigit = false ∧ c ≠ '.' ∧ c ≠ 'e' ∧ c ≠ 'E'

theorem digitsValue_toDigits (n : Nat) : digitsValue (Nat.toDigits 10 n) = n := by
  have h := Nat.ofDigitChars_toDigits (b := 10) (n := n) (by decide) (by decide)
  rw [Nat.ofDigitChars_eq_foldl] at h
  unfold digitsValue
  simpa only [Nat.mul_comm, Char.reduceToNat] using h

theorem isDigit_of_mem {n : Nat} {c : Char} (h : c ∈ Nat.toDigits 10 n) : c.isDigit = true :=
  Nat.isDigit_of_mem_toDigits (by decide) (by decide) h

theorem noLeadingZero (n : Nat) :
    (decide ((Nat.toDigits 10 n).length > 1) && (Nat.toDigits 10 n).head? == some '0') = false := by
  by_cases hn : 0 < n
  · simp [Bytes.head?_toDigits hn]
  · rw [Nat.eq_zero_of_not_pos hn]
    decide

theorem takeWhile_digits {n : Nat} {rest : List Char} (h : Stops rest) :
    (Nat.toDigits 10 n ++ rest).takeWhile Char.isDigit = Nat.toDigits 10 n := by
  rw [List.takeWhile_append_of_pos fun c => isDigit_of_mem]
  cases rest with
  | nil => simp
  | cons c cs => simp [(h c rfl).1]

theorem dropWhile_digits {n : Nat} {rest : List Char} (h : Stops rest) :
    (Nat.toDigits 10 n ++ rest).dropWhile Char.isDigit = rest := by
  rw [List.dropWhile_append_of_pos fun c => isDigit_of_mem]
  cases rest with
  | nil => rfl
  | cons c cs => simp [(h c rfl).1]

theorem readExponent_of_stops {rest : List Char} (h : Stops rest) :
    readExponent rest = some (none, rest) := by
  cases rest with
  | nil => rfl
  | cons c cs =>
    obtain ⟨-, -, he, hE⟩ := h c rfl
    simp [readExponent, he, hE]

/-- The sign before the digits of a number. -/
def sign (negative : Bool) : List Char := if negative then ['-'] else []

theorem toDigits_ne_minus {n : Nat} {r rest : List Char} :
    Nat.toDigits 10 n ++ rest ≠ '-' :: r := by
  intro h
  have hhead : (Nat.toDigits 10 n).head? = some '-' := by
    rw [← List.head?_append_of_ne_nil _ Nat.toDigits_ne_nil, h, List.head?_cons]
  exact absurd (isDigit_of_mem (List.mem_of_mem_head? hhead)) (by decide)

/-- Digits with or without a sign, and no zero with one, are a whole number if it fits. -/
theorem readNumber_of_sign {negative : Bool} {n : Nat} {rest : List Char} (hrest : Stops rest)
    (hfits : fitsInteger (if negative then -(n : Int) else n) = true)
    (hzero : negative = true → n ≠ 0) :
    readNumber (sign negative ++ (Nat.toDigits 10 n ++ rest)) =
      some (.integer (if negative then -(n : Int) else n), rest) := by
  unfold readNumber
  split
  rename_i negative' cs heq
  have hsign : negative' = negative ∧ cs = Nat.toDigits 10 n ++ rest := by
    cases negative with
    | false =>
      simp only [sign, Bool.false_eq_true, if_false, List.nil_append] at heq
      split at heq
      · exact absurd ‹_› toDigits_ne_minus
      · exact ⟨(congrArg Prod.fst heq).symm, (congrArg Prod.snd heq).symm⟩
    | true => exact ⟨(congrArg Prod.fst heq).symm, (congrArg Prod.snd heq).symm⟩
  obtain ⟨rfl, rfl⟩ := hsign
  simp only [takeWhile_digits hrest, dropWhile_digits hrest, noLeadingZero, Bool.or_false,
    List.isEmpty_iff, Nat.toDigits_ne_nil, if_false, digitsValue_toDigits]
  split
  · exact absurd rfl (hrest '.' rfl).2.1
  · simp only [Option.bind_some, Option.bind_eq_bind, readExponent_of_stops hrest, hfits,
      Bool.true_and]
    cases negative' <;> simp_all

theorem toString_toList (n : Int) :
    (toString n).toList = sign (decide (n < 0)) ++ Nat.toDigits 10 n.natAbs := by
  rw [Int.toString_eq_repr, Int.repr_eq_if]
  by_cases hn : 0 ≤ n
  · rw [if_pos hn, Nat.toList_repr, decide_eq_false (by omega), (by omega : n.toNat = n.natAbs)]
    rfl
  · rw [if_neg hn, String.toList_append, Nat.toList_repr, decide_eq_true (by omega),
      (by omega : (-n).toNat = n.natAbs)]
    rfl

/-- A whole number that fits reads back. -/
theorem readNumber_toString {n : Int} {rest : List Char} (hfits : fitsInteger n = true)
    (hrest : Stops rest) :
    readNumber ((toString n).toList ++ rest) = some (.integer n, rest) := by
  have hvalue : (if decide (n < 0) = true then -(n.natAbs : Int) else n.natAbs) = n := by
    by_cases hn : n < 0
    · rw [if_pos (decide_eq_true hn)]
      omega
    · rw [if_neg (by simpa using hn)]
      omega
  have hzero : decide (n < 0) = true → n.natAbs ≠ 0 := by
    intro h
    have hn : n < 0 := of_decide_eq_true h
    omega
  rw [toString_toList, List.append_assoc, readNumber_of_sign hrest (hvalue.symm ▸ hfits) hzero,
    hvalue]

theorem fitsInteger_natural {n : Nat} (h : n < UInt64.size) : fitsInteger n = true := by
  have hn : (n : Int) < 0x10000000000000000 := by exact_mod_cast h
  rw [fitsInteger, Bool.and_eq_true]
  exact ⟨decide_eq_true (by omega), decide_eq_true hn⟩

/-! ## Strings -/

theorem hexDigit?_digitChar {d : Nat} (h : d < 16) : Text.hexDigit? (Nat.digitChar d) = some d := by
  interval_cases d <;> rfl

theorem fourHex_eq {n : Nat} (h : n < 0x10000) :
    fourHex n = [Nat.digitChar (n / 4096), Nat.digitChar (n / 256 % 16),
      Nat.digitChar (n / 16 % 16), Nat.digitChar (n % 16)] := by
  have hdigits (m : Nat) := Nat.toDigits_eq_if (b := 16) (n := m) (by decide)
  unfold fourHex
  -- the number of digits decides how many zeros stand in front
  rcases Nat.lt_or_ge n 16 with h₁ | h₁
  · rw [hdigits, if_pos h₁]
    simp [(by omega : n / 4096 = 0), (by omega : n / 256 = 0), (by omega : n / 16 = 0),
      Nat.mod_eq_of_lt h₁]
  rcases Nat.lt_or_ge n 256 with h₂ | h₂
  · rw [hdigits, if_neg (by omega), hdigits, if_pos (by omega)]
    simp [(by omega : n / 4096 = 0), (by omega : n / 256 = 0), (by omega : n / 16 % 16 = n / 16)]
  rcases Nat.lt_or_ge n 4096 with h₃ | h₃
  · rw [hdigits, if_neg (by omega), hdigits, if_neg (by omega), hdigits, if_pos (by omega)]
    simp [(by omega : n / 4096 = 0), (by omega : n / 256 % 16 = n / 256), Nat.div_div_eq_div_mul]
  · rw [hdigits, if_neg (by omega), hdigits, if_neg (by omega), hdigits, if_neg (by omega),
      hdigits, if_pos (by omega)]
    simp [Nat.div_div_eq_div_mul]

/-- Four digits are read as the number they were written for. -/
theorem readUnit_fourHex {n : Nat} {rest : List Char} (h : n < 0x10000) :
    readUnit (fourHex n ++ rest) = some (n, rest) := by
  rw [fourHex_eq h]
  simp only [List.cons_append, List.nil_append, readUnit]
  rw [hexDigit?_digitChar (by omega), hexDigit?_digitChar (by omega),
    hexDigit?_digitChar (by omega), hexDigit?_digitChar (by omega)]
  simp
  omega

theorem breaksLine_iff {c : Char} :
    breaksLine c = true ↔ c.toNat < 0x20 ∨ 0x7F ≤ c.toNat ∧ c.toNat < 0xA0 ∨
      c.toNat = 0x2028 ∨ c.toNat = 0x2029 := by
  simp [breaksLine, or_assoc]

/-- The reader takes back one character. -/
theorem readString_writeChar (fuel : Nat) (done rest : List Char) (c : Char) :
    readString (fuel + 1) done (writeChar c ++ rest) = readString fuel (c :: done) rest := by
  unfold writeChar
  split_ifs with hquoted hbreaks
  · rcases (by simpa using hquoted : c = '"' ∨ c = '\\') with rfl | rfl <;> rfl
  · -- no character that is written as a number is half of a surrogate pair
    have hsmall : c.toNat < 0xD800 := by
      rw [breaksLine_iff] at hbreaks
      omega
    simp only [List.cons_append, List.nil_append, readString,
      readUnit_fourHex (by omega : c.toNat < 0x10000), Option.bind_eq_bind, Option.bind_some]
    rw [if_neg (by simp; omega), if_neg (by simp; omega), Char.ofNat_toNat]
  · have hplain : c ≠ '"' ∧ c ≠ '\\' := by simpa using hquoted
    rw [breaksLine_iff] at hbreaks
    rw [List.singleton_append, readString]
    · rw [if_neg (by omega)]
    · exact hplain.1
    · exact fun _ h => absurd h hplain.2
    · exact fun _ _ h => absurd h hplain.2

theorem length_writeChar_pos (c : Char) : 0 < (writeChar c).length := by
  unfold writeChar
  split_ifs <;> simp

/-- Each character costs one unit of fuel and at least one character of text. -/
theorem readString_characters {cs : List Char} (rest : List Char) :
    ∀ {fuel : Nat} {done : List Char}, (cs.flatMap writeChar).length < fuel →
      readString fuel done (cs.flatMap writeChar ++ '"' :: rest) =
        some (String.ofList (done.reverse ++ cs), rest) := by
  induction cs with
  | nil =>
    intro fuel done hfuel
    cases fuel with
    | zero => simp at hfuel
    | succ fuel => simp [readString]
  | cons c cs ih =>
    intro fuel done hfuel
    rw [List.flatMap_cons, List.length_append] at hfuel
    have hpos := length_writeChar_pos c
    cases fuel with
    | zero => omega
    | succ fuel =>
      rw [List.flatMap_cons, List.append_assoc, readString_writeChar, ih (by omega)]
      simp

/-- What is written of a text reads back, with any fuel that reaches over what is left. -/
theorem readString_writeString (s : String) (rest : List Char) :
    ∃ text, writeString s = '"' :: text ∧
      readString ((text ++ rest).length + 1) [] (text ++ rest) = some (s, rest) := by
  refine ⟨s.toList.flatMap writeChar ++ ['"'], rfl, ?_⟩
  rw [List.append_assoc, List.singleton_append,
    readString_characters rest (by simp only [List.length_append]; omega)]
  simp

/-! ## Values -/

mutual

/-- Every number in the value is whole and fits. -/
def isIntegral : Json → Bool
  | .null => true
  | .bool _ => true
  | .integer n => fitsInteger n
  | .float _ => false
  | .text _ => true
  | .array items => areIntegral items
  | .object members => holdIntegral members

def areIntegral : List Json → Bool
  | [] => true
  | item :: items => isIntegral item && areIntegral items

def holdIntegral : List (String × Json) → Bool
  | [] => true
  | (_, value) :: members => isIntegral value && holdIntegral members

end

theorem areIntegral_iff {items : List Json} :
    areIntegral items = true ↔ ∀ item ∈ items, isIntegral item = true := by
  induction items with
  | nil => simp [areIntegral]
  | cons item items ih => simp [areIntegral, ih]

theorem holdIntegral_iff {members : List (String × Json)} :
    holdIntegral members = true ↔ ∀ member ∈ members, isIntegral member.2 = true := by
  induction members with
  | nil => simp [holdIntegral]
  | cons member members ih => simp [holdIntegral, ih]

theorem stops_cons {c : Char} {rest : List Char} (h : c = ',' ∨ c = ']' ∨ c = '\x7d') :
    Stops (c :: rest) := by
  intro c' hc'
  cases hc'
  rcases h with rfl | rfl | rfl <;> decide

theorem skipBlanks_cons {c : Char} {cs : List Char} (h : isBlankChar c = false) :
    skipBlanks (c :: cs) = c :: cs := by
  simp [skipBlanks, h]

/-- A whole number begins with no other character than the minus sign or a digit. -/
theorem toString_head (n : Int) :
    ∃ c cs, (toString n).toList = c :: cs ∧ ∀ x, x ≠ '-' → x.isDigit = false → c ≠ x := by
  rw [toString_toList]
  by_cases hn : n < 0
  · exact ⟨'-', Nat.toDigits 10 n.natAbs, by simp [sign, hn], fun x hx _ => hx.symm⟩
  · obtain ⟨c, cs, hcs⟩ :=
      List.exists_cons_of_ne_nil (Nat.toDigits_ne_nil (n := n.natAbs) (b := 10))
    refine ⟨c, cs, by simp [sign, hn, hcs], ?_⟩
    rintro x - hx rfl
    rw [isDigit_of_mem (n := n.natAbs) (hcs ▸ List.mem_cons_self)] at hx
    cases hx

/-- A value begins with neither a blank nor the end of an array. -/
theorem write_head {v : Json} (h : isIntegral v = true) :
    ∃ c cs, write v = c :: cs ∧ isBlankChar c = false ∧ c ≠ ']' := by
  cases v with
  | null => exact ⟨_, _, by rw [write], by decide⟩
  | bool b => cases b <;> exact ⟨_, _, by rw [write], by decide⟩
  | integer n =>
    obtain ⟨c, cs, htext, hc⟩ := toString_head n
    refine ⟨c, cs, by rw [write, htext], ?_, hc ']' (by decide) (by decide)⟩
    simp [isBlankChar, hc]
  | float x => simp [isIntegral] at h
  | text s => exact ⟨_, _, by rw [write, writeString], by decide⟩
  | array items => exact ⟨_, _, by rw [write], by decide⟩
  | object members => exact ⟨_, _, by rw [write], by decide⟩

theorem readValue_integer {n : Int} {rest : List Char} (fuel : Nat) (hfits : fitsInteger n = true)
    (hrest : Stops rest) :
    readValue (fuel + 1) ((toString n).toList ++ rest) = some (.integer n, rest) := by
  obtain ⟨c, cs, htext, hc⟩ := toString_head n
  rw [readValue, htext, List.cons_append, skipBlanks_cons (by simp [isBlankChar, hc])]
  simp only [beq_iff_eq, hc '"' (by decide) (by decide), hc '[' (by decide) (by decide),
    hc '\x7b' (by decide) (by decide), hc 't' (by decide) (by decide),
    hc 'f' (by decide) (by decide), hc 'n' (by decide) (by decide), if_false]
  rw [← List.cons_append, ← htext, readNumber_toString hfits hrest]

theorem separated_cons (sep : Char) (part : List Char) (parts : List (List Char)) :
    ∃ more, separated sep (part :: parts) = part ++ more := by
  cases parts with
  | nil => exact ⟨[], by simp [separated]⟩
  | cons next parts => exact ⟨_, by rw [separated]; simp⟩

theorem separated_items (item next : Json) (items : List Json) :
    separated ',' (writeItems (item :: next :: items)) =
      write item ++ ',' :: separated ',' (writeItems (next :: items)) := by
  simp only [writeItems, separated]

theorem separated_members (name : String) (value : Json) (next : String × Json)
    (members : List (String × Json)) :
    separated ',' (writeMembers ((name, value) :: next :: members)) =
      writeString name ++ ':' :: (write value ++
        ',' :: separated ',' (writeMembers (next :: members))) := by
  simp only [writeMembers, separated, List.append_assoc, List.cons_append]

/-- With this fuel, each reader takes back what is written of its values if the fuel reaches over
the text. -/
structure ReadsBack (fuel : Nat) : Prop where
  value {v : Json} (rest : List Char) :
    isIntegral v = true → (write v).length ≤ fuel → Stops rest →
      readValue fuel (write v ++ rest) = some (v, rest)
  items {item : Json} {items : List Json} (rest : List Char) :
    areIntegral (item :: items) = true →
      (separated ',' (writeItems (item :: items))).length < fuel →
      readItems fuel (separated ',' (writeItems (item :: items)) ++ ']' :: rest) =
        some (item :: items, rest)
  members {member : String × Json} {members : List (String × Json)} (rest : List Char) :
    holdIntegral (member :: members) = true →
      (separated ',' (writeMembers (member :: members))).length < fuel →
      readMembers fuel (separated ',' (writeMembers (member :: members)) ++ '\x7d' :: rest) =
        some (member :: members, rest)

variable {fuel : Nat} {rest : List Char}

theorem ReadsBack.array (h : ReadsBack fuel) {items : List Json} (hitems : areIntegral items = true)
    (hfuel : (write (.array items)).length ≤ fuel + 1) :
    readValue (fuel + 1) (write (.array items) ++ rest) = some (.array items, rest) := by
  rw [write, List.length_cons, List.length_append, List.length_singleton] at hfuel
  rw [write, List.cons_append, List.append_assoc, List.singleton_append, readValue,
    skipBlanks_cons (by decide)]
  simp only [Char.reduceBEq, Bool.false_eq_true, if_false, if_true]
  cases items with
  | nil => rfl
  | cons item items =>
    have hread := h.items rest hitems (by omega)
    rw [areIntegral, Bool.and_eq_true] at hitems
    obtain ⟨c, cs, htext, hblank, hend⟩ := write_head hitems.1
    obtain ⟨more, hmore⟩ := separated_cons ',' (write item) (writeItems items)
    rw [writeItems, hmore, htext, List.cons_append, List.cons_append] at hread ⊢
    rw [skipBlanks_cons hblank]
    split
    · rename_i heq
      exact absurd (List.cons.inj heq).1 hend
    · rw [hread]
      rfl

theorem ReadsBack.object (h : ReadsBack fuel) {members : List (String × Json)}
    (hmembers : holdIntegral members = true)
    (hfuel : (write (.object members)).length ≤ fuel + 1) :
    readValue (fuel + 1) (write (.object members) ++ rest) = some (.object members, rest) := by
  rw [write, List.length_cons, List.length_append, List.length_singleton] at hfuel
  rw [write, List.cons_append, List.append_assoc, List.singleton_append, readValue,
    skipBlanks_cons (by decide)]
  simp only [Char.reduceBEq, Bool.false_eq_true, if_false, if_true]
  cases members with
  | nil => rfl
  | cons member members =>
    have hread := h.members rest hmembers (by omega)
    obtain ⟨name, value⟩ := member
    obtain ⟨more, hmore⟩ :=
      separated_cons ',' (writeString name ++ ':' :: write value) (writeMembers members)
    rw [writeMembers, hmore, writeString] at hread ⊢
    simp only [List.cons_append] at hread ⊢
    rw [skipBlanks_cons (by decide)]
    split
    · rename_i heq
      exact absurd (List.cons.inj heq).1 (by decide)
    · rw [hread]
      rfl

theorem ReadsBack.value_succ (h : ReadsBack fuel) {v : Json} (hv : isIntegral v = true)
    (hfuel : (write v).length ≤ fuel + 1) (hrest : Stops rest) :
    readValue (fuel + 1) (write v ++ rest) = some (v, rest) := by
  cases v with
  | null => rw [write]; rfl
  | bool b => cases b <;> rw [write] <;> rfl
  | integer n =>
    rw [write]
    exact readValue_integer fuel (by simpa [isIntegral] using hv) hrest
  | float x => simp [isIntegral] at hv
  | text s =>
    obtain ⟨text, htext, hread⟩ := readString_writeString s rest
    rw [write, htext, List.cons_append, readValue, skipBlanks_cons (by decide)]
    simp only [beq_self_eq_true, if_true, hread, Option.map_some]
  | array items => exact h.array (by simpa only [isIntegral] using hv) hfuel
  | object members => exact h.object (by simpa only [isIntegral] using hv) hfuel

theorem ReadsBack.items_succ (h : ReadsBack fuel) {item : Json} {items : List Json}
    (hitems : areIntegral (item :: items) = true)
    (hfuel : (separated ',' (writeItems (item :: items))).length < fuel + 1) :
    readItems (fuel + 1) (separated ',' (writeItems (item :: items)) ++ ']' :: rest) =
      some (item :: items, rest) := by
  rw [areIntegral, Bool.and_eq_true] at hitems
  cases items with
  | nil =>
    simp only [writeItems, separated] at hfuel ⊢
    rw [readItems, h.value _ hitems.1 (by omega) (stops_cons (by decide))]
    rfl
  | cons next items =>
    rw [separated_items, List.length_append, List.length_cons] at hfuel
    have hread := h.items rest hitems.2 (by omega)
    rw [separated_items, List.append_assoc, List.cons_append, readItems,
      h.value _ hitems.1 (by omega) (stops_cons (by decide))]
    simp only [Option.bind_eq_bind, Option.bind_some]
    rw [skipBlanks_cons (by decide)]
    simp only [hread]
    rfl

theorem ReadsBack.members_succ (h : ReadsBack fuel) {member : String × Json}
    {members : List (String × Json)} (hmembers : holdIntegral (member :: members) = true)
    (hfuel : (separated ',' (writeMembers (member :: members))).length < fuel + 1) :
    readMembers (fuel + 1) (separated ',' (writeMembers (member :: members)) ++ '\x7d' :: rest) =
      some (member :: members, rest) := by
  obtain ⟨name, value⟩ := member
  rw [holdIntegral, Bool.and_eq_true] at hmembers
  cases members with
  | nil =>
    obtain ⟨text, htext, hname⟩ :=
      readString_writeString name (':' :: (write value ++ '\x7d' :: rest))
    simp only [writeMembers, separated, List.length_append, List.length_cons] at hfuel
    simp only [writeMembers, separated, List.append_assoc, List.cons_append, htext]
    rw [readMembers, skipBlanks_cons (by decide)]
    simp only [hname, Option.bind_eq_bind, Option.bind_some]
    rw [skipBlanks_cons (by decide)]
    simp only
    rw [h.value _ hmembers.1 (by omega) (stops_cons (by decide))]
    rfl
  | cons next members =>
    rw [separated_members, List.length_append, List.length_cons, List.length_append,
      List.length_cons] at hfuel
    have hread := h.members rest hmembers.2 (by omega)
    rw [separated_members, List.append_assoc, List.cons_append, List.append_assoc, List.cons_append]
    obtain ⟨text, htext, hname⟩ := readString_writeString name (':' :: (write value ++ ',' ::
      (separated ',' (writeMembers (next :: members)) ++ '\x7d' :: rest)))
    rw [htext, List.cons_append, readMembers, skipBlanks_cons (by decide)]
    simp only [hname, Option.bind_eq_bind, Option.bind_some]
    rw [skipBlanks_cons (by decide)]
    simp only
    rw [h.value _ hmembers.1 (by omega) (stops_cons (by decide)), Option.bind_some,
      skipBlanks_cons (by decide)]
    simp only [hread]
    rfl

theorem readsBack (fuel : Nat) : ReadsBack fuel := by
  -- all readers call each other with less fuel, and always on a shorter text
  induction fuel with
  | zero =>
    refine ⟨fun _ hv hfuel _ => ?_, fun _ _ hfuel => by omega, fun _ _ hfuel => by omega⟩
    obtain ⟨c, cs, htext, -⟩ := write_head hv
    rw [htext, List.length_cons] at hfuel
    omega
  | succ fuel ih => exact ⟨fun _ => ih.value_succ, fun _ => ih.items_succ, fun _ => ih.members_succ⟩

/-- The text of a value with only whole numbers in it has that value. -/
theorem parse?_render {v : Json} (hv : isIntegral v = true) : parse? (render v) = some v := by
  have hend : Stops [] := by
    intro c hc
    cases hc
  have hread := (readsBack ((write v).length + 1)).value [] hv (by omega) hend
  rw [List.append_nil] at hread
  unfold parse? render
  simp only [String.toList_ofList, hread]
  rfl

end IsoServer.Json
