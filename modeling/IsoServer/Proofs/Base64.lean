-- Base64 in both directions: reading accepts what writing gives, for every byte string, and
-- nothing else. Whole groups are three bytes and four symbols, and the last group has one to
-- three bytes.
import Mathlib
import IsoServer.Base64

namespace IsoServer

theorem map_eq_ok_iff {ε α β : Type} {x : Except ε α} {f : α → β} {b : β} :
    x.map f = .ok b ↔ ∃ a, x = .ok a ∧ f a = b := by
  cases x <;> simp [Except.map]

namespace Base64

/-! ## The alphabet -/

theorem value?_symbol {n : Nat} (h : n < 64) : value? (symbol n) = some n := by
  have hall : ∀ n < 64, value? (symbol n) = some n := by decide
  exact hall n h

theorem symbol_value? {b : UInt8} {n : Nat} (h : value? b = some n) : symbol n = b ∧ n < 64 := by
  have hall : ∀ k < 256, (value? (UInt8.ofNat k)).all
      (fun n => symbol n == UInt8.ofNat k && n < 64) = true := by decide +kernel
  have hb := hall b.toNat b.toNat_lt
  rw [UInt8.ofNat_toNat, h] at hb
  simpa using hb

/-- The symbols in the order of their values. -/
def alphabet : Bytes :=
  Bytes.ofString "ABCDEFGHIJKLMNOPQRSTUVWXYZabcdefghijklmnopqrstuvwxyz0123456789+/"

theorem symbol_eq {n : Nat} (h : n < 64) : symbol n = alphabet.getD n pad := by
  have hall : ∀ n < 64, symbol n = alphabet.getD n pad := by decide +kernel
  exact hall n h

theorem symbol_ne_pad {n : Nat} (h : n < 64) : symbol n ≠ pad := by
  intro hpad
  have hvalue := value?_symbol h
  rw [hpad] at hvalue
  cases hvalue

/-! ## Rows of symbols -/

theorem values_eq_ok_iff {offset : Nat} {s : Bytes} {vs : List Nat} :
    values offset s = .ok vs ↔ s = vs.map symbol ∧ ∀ v ∈ vs, v < 64 := by
  induction s generalizing offset vs with
  | nil => cases vs <;> simp [values]
  | cons b rest ih =>
    unfold values
    cases hb : value? b with
    | none =>
      simp only [reduceCtorEq, false_iff, not_and]
      intro hs hlt
      cases vs with
      | nil => cases hs
      | cons v vs =>
        obtain ⟨rfl, -⟩ := List.cons.inj hs
        rw [value?_symbol (hlt v (List.mem_cons_self ..))] at hb
        cases hb
    | some v =>
      obtain ⟨hsymbol, hv⟩ := symbol_value? hb
      constructor
      · intro h
        obtain ⟨ws, hrest, rfl⟩ := map_eq_ok_iff.mp h
        obtain ⟨hrow, hlt⟩ := ih.mp hrest
        exact ⟨by simp [hsymbol, ← hrow], by simpa [hv] using hlt⟩
      · rintro ⟨hs, hlt⟩
        cases vs with
        | nil => cases hs
        | cons w ws =>
          obtain ⟨hw, hrow⟩ := List.cons.inj hs
          have hwv : value? b = some w := by
            rw [hw]
            exact value?_symbol (hlt w (List.mem_cons_self ..))
          rw [hb] at hwv
          cases hwv
          rw [ih.mpr ⟨hrow, fun x hx => hlt x (List.mem_cons_of_mem _ hx)⟩]
          rfl

/-! ## Whole groups -/

/-- The values of whole groups of three bytes. -/
def sextets : Bytes → List Nat
  | a :: b :: c :: rest =>
    a.toNat / 4 :: (a.toNat % 4 * 16 + b.toNat / 16) :: (b.toNat % 16 * 4 + c.toNat / 64) ::
      c.toNat % 64 :: sextets rest
  | _ => []

theorem sextets_lt (s : Bytes) : ∀ v ∈ sextets s, v < 64 := by
  fun_induction sextets s with
  | case1 a b c rest ih =>
    have ha := a.toNat_lt
    have hb := b.toNat_lt
    have hc := c.toNat_lt
    intro v hv
    simp only [List.mem_cons] at hv
    rcases hv with rfl | rfl | rfl | rfl | hv
    · omega
    · omega
    · omega
    · omega
    · exact ih v hv
  | case2 => simp

theorem length_lt_three {s : Bytes} (h : ∀ a b c rest, s = a :: b :: c :: rest → False) :
    s.length < 3 := by
  rcases s with _ | ⟨a, _ | ⟨b, _ | ⟨c, rest⟩⟩⟩
  · simp
  · simp
  · simp
  · exact absurd rfl (h a b c rest)

theorem length_sextets (s : Bytes) : (sextets s).length = s.length / 3 * 4 := by
  fun_induction sextets s with
  | case1 a b c rest ih =>
    simp only [List.length_cons, ih]
    omega
  | case2 s hs => simp [Nat.div_eq_of_lt (length_lt_three hs)]

/-- Whole groups are written apart from what follows them. -/
theorem encode_append {s : Bytes} (h : s.length % 3 = 0) (t : Bytes) :
    encode (s ++ t) = (sextets s).map symbol ++ encode t := by
  fun_induction sextets s with
  | case1 a b c rest ih =>
    have hrest : rest.length % 3 = 0 := by
      simp only [List.length_cons] at h
      omega
    simp [encode, ih hrest]
  | case2 s hs =>
    have hlt := length_lt_three hs
    obtain rfl : s = [] := List.length_eq_zero_iff.mp (by omega)
    rfl

theorem join_sextets {s : Bytes} (h : s.length % 3 = 0) : join (sextets s) = s := by
  fun_induction sextets s with
  | case1 a b c rest ih =>
    have ha := a.toNat_lt
    have hb := b.toNat_lt
    have hc := c.toNat_lt
    have hrest : rest.length % 3 = 0 := by
      simp only [List.length_cons] at h
      omega
    have h₁ : a.toNat / 4 * 4 + (a.toNat % 4 * 16 + b.toNat / 16) / 16 = a.toNat := by omega
    have h₂ : (a.toNat % 4 * 16 + b.toNat / 16) % 16 * 16 +
        (b.toNat % 16 * 4 + c.toNat / 64) / 4 = b.toNat := by omega
    have h₃ : (b.toNat % 16 * 4 + c.toNat / 64) % 4 * 64 + c.toNat % 64 = c.toNat := by omega
    rw [join, ih hrest, h₁, h₂, h₃]
    simp only [UInt8.ofNat_toNat]
  | case2 s hs =>
    have hlt := length_lt_three hs
    obtain rfl : s = [] := List.length_eq_zero_iff.mp (by omega)
    rfl

theorem sextets_join {vs : List Nat} (h : vs.length % 4 = 0) (hlt : ∀ v ∈ vs, v < 64) :
    sextets (join vs) = vs ∧ (join vs).length % 3 = 0 := by
  fun_induction join vs with
  | case1 a b c d rest ih =>
    have hrest : rest.length % 4 = 0 := by
      simp only [List.length_cons] at h
      omega
    simp only [List.mem_cons, forall_eq_or_imp] at hlt
    obtain ⟨ha, hb, hc, hd, hlt⟩ := hlt
    obtain ⟨hback, hlen⟩ := ih hrest hlt
    simp only [sextets, hback, List.length_cons, UInt8.toNat_ofNat', List.cons.injEq, and_true]
    omega
  | case2 vs hvs =>
    rcases vs with _ | ⟨a, _ | ⟨b, _ | ⟨c, _ | ⟨d, rest⟩⟩⟩⟩
    · simp [sextets]
    · simp at h
    · simp at h
    · simp at h
    · exact absurd rfl (hvs a b c d rest)

/-! ## The last group -/

/-- Behind the first padding sign there are only more of them. -/
theorem tailValues_pads {offset index p : Nat} {s : Bytes} {vs : List Nat} {pads : Nat}
    (h : tailValues offset index (some p) s = .ok (vs, pads)) :
    vs = [] ∧ s = List.replicate pads pad := by
  induction s generalizing offset index vs pads with
  | nil =>
    cases h
    exact ⟨rfl, rfl⟩
  | cons b rest ih =>
    unfold tailValues at h
    split_ifs at h with hpad hindex
    obtain ⟨⟨ws, n⟩, hrest, hresult⟩ := map_eq_ok_iff.mp h
    obtain ⟨rfl, hs⟩ := ih hrest
    cases hresult
    exact ⟨rfl, by rw [eq_of_beq hpad, hs, List.replicate_succ]⟩

/-- The last group is a row of symbols and then padding signs, of which none stands in its first
two places. -/
theorem tailValues_eq_ok {offset index : Nat} {s : Bytes} {vs : List Nat} {pads : Nat}
    (h : tailValues offset index none s = .ok (vs, pads)) :
    s = vs.map symbol ++ List.replicate pads pad ∧ (∀ v ∈ vs, v < 64) ∧
      (pads = 0 ∨ 2 ≤ index + vs.length) := by
  induction s generalizing offset index vs pads with
  | nil =>
    cases h
    simp
  | cons b rest ih =>
    unfold tailValues at h
    split_ifs at h with hpad hindex
    · obtain ⟨⟨ws, n⟩, hrest, hresult⟩ := map_eq_ok_iff.mp h
      obtain ⟨rfl, hs⟩ := tailValues_pads hrest
      cases hresult
      refine ⟨by simp [eq_of_beq hpad, hs, List.replicate_succ], by simp, .inr ?_⟩
      simp only [List.length_nil]
      omega
    · cases hb : value? b with
      | none => simp [hb] at h
      | some v =>
        simp only [hb] at h
        obtain ⟨⟨ws, n⟩, hrest, hresult⟩ := map_eq_ok_iff.mp h
        obtain ⟨hs, hlt, hplace⟩ := ih hrest
        obtain ⟨hsymbol, hv⟩ := symbol_value? hb
        cases hresult
        refine ⟨by simp [hsymbol, hs], by simpa [hv] using hlt, ?_⟩
        simp only [List.length_cons]
        omega

theorem decodeTail_eq_ok {start : Nat} {tail bytes : Bytes} (hlen : tail.length ≤ 4)
    (h : decodeTail start tail = .ok bytes) : tail = encode bytes := by
  unfold decodeTail at h
  cases hvalues : tailValues start 0 none tail with
  | error e => simp [hvalues] at h
  | ok r =>
    obtain ⟨vs, pads⟩ := r
    obtain ⟨rfl, hlt, hplace⟩ := tailValues_eq_ok hvalues
    simp only [hvalues] at h
    rcases vs with _ | ⟨a, _ | ⟨b, _ | ⟨c, _ | ⟨d, rest⟩⟩⟩⟩
    · obtain rfl : pads = 0 := by simpa using hplace
      cases h
      rfl
    · cases h
    · simp only at h
      split_ifs at h with hpads hbits
      cases h
      obtain rfl : pads = 2 := by simpa using hpads
      have hzero : b % 16 = 0 := by simpa using hbits
      have ha := hlt a (by simp)
      have hb := hlt b (by simp)
      have h₁ : (a * 4 + b / 16) % 256 / 4 = a := by omega
      have h₂ : (a * 4 + b / 16) % 256 % 4 * 16 = b := by omega
      simp only [encode, UInt8.toNat_ofNat', h₁, h₂]
      rfl
    · simp only at h
      split_ifs at h with hpads hbits
      cases h
      obtain rfl : pads = 1 := by simpa using hpads
      have hzero : c % 4 = 0 := by simpa using hbits
      have ha := hlt a (by simp)
      have hb := hlt b (by simp)
      have hc := hlt c (by simp)
      have h₁ : (a * 4 + b / 16) % 256 / 4 = a := by omega
      have h₂ : (a * 4 + b / 16) % 256 % 4 * 16 + (b % 16 * 16 + c / 4) % 256 / 16 = b := by omega
      have h₃ : (b % 16 * 16 + c / 4) % 256 % 16 * 4 = c := by omega
      simp only [encode, UInt8.toNat_ofNat', h₁, h₂, h₃]
      rfl
    · -- four symbols fill the group, so it is a whole one
      simp only [List.length_append, List.length_map, List.length_cons,
        List.length_replicate] at hlen
      obtain rfl : rest = [] := List.length_eq_zero_iff.mp (by omega)
      obtain rfl : pads = 0 := by omega
      cases h
      obtain ⟨hback, hwhole⟩ := sextets_join (by simp) hlt
      have hwritten := encode_append hwhole []
      rw [hback, List.append_nil] at hwritten
      rw [hwritten]
      rfl

theorem tailValues_symbol {v : Nat} (h : v < 64) (offset index : Nat) (rest : Bytes) :
    tailValues offset index none (symbol v :: rest) =
      (tailValues (offset + 1) (index + 1) none rest).map fun (vs, pads) => (v :: vs, pads) := by
  rw [tailValues, if_neg (by simpa using symbol_ne_pad h), value?_symbol h]

theorem decodeTail_encode (start : Nat) {bytes : Bytes} (hne : bytes ≠ [])
    (hlen : bytes.length ≤ 3) : decodeTail start (encode bytes) = .ok bytes := by
  rcases bytes with _ | ⟨a, _ | ⟨b, _ | ⟨c, rest⟩⟩⟩
  · exact absurd rfl hne
  · have ha := a.toNat_lt
    have hvalues : tailValues start 0 none (encode [a]) =
        .ok ([a.toNat / 4, a.toNat % 4 * 16], 2) := by
      rw [encode, tailValues_symbol (by omega), tailValues_symbol (by omega)]
      rfl
    have h₁ : a.toNat / 4 * 4 + a.toNat % 4 * 16 / 16 = a.toNat := by omega
    simp only [decodeTail, hvalues, h₁, UInt8.ofNat_toNat]
    rw [if_neg (by simp), if_neg (by simp)]
  · have ha := a.toNat_lt
    have hb := b.toNat_lt
    have hvalues : tailValues start 0 none (encode [a, b]) =
        .ok ([a.toNat / 4, a.toNat % 4 * 16 + b.toNat / 16, b.toNat % 16 * 4], 1) := by
      rw [encode, tailValues_symbol (by omega), tailValues_symbol (by omega),
        tailValues_symbol (by omega)]
      rfl
    have h₁ : a.toNat / 4 * 4 + (a.toNat % 4 * 16 + b.toNat / 16) / 16 = a.toNat := by omega
    have h₂ : (a.toNat % 4 * 16 + b.toNat / 16) % 16 * 16 + b.toNat % 16 * 4 / 4 = b.toNat := by
      omega
    simp only [decodeTail, hvalues, h₁, h₂, UInt8.ofNat_toNat]
    rw [if_neg (by simp), if_neg (by simp)]
  · obtain rfl : rest = [] := List.length_eq_zero_iff.mp (by simp at hlen; omega)
    have hlt := sextets_lt [a, b, c]
    simp only [sextets, List.mem_cons, List.not_mem_nil, or_false, forall_eq_or_imp,
      forall_eq] at hlt
    obtain ⟨h₁, h₂, h₃, h₄⟩ := hlt
    have hvalues : tailValues start 0 none (encode [a, b, c]) = .ok (sextets [a, b, c], 0) := by
      rw [encode, tailValues_symbol h₁, tailValues_symbol h₂, tailValues_symbol h₃, encode,
        tailValues_symbol h₄]
      rfl
    have hjoin : join (sextets [a, b, c]) = [a, b, c] := join_sextets (by simp)
    simp only [sextets] at hvalues hjoin
    simp only [decodeTail, hvalues, hjoin]

/-! ## Reading and writing -/

theorem length_encode_last {bytes : Bytes} (hne : bytes ≠ []) (hlen : bytes.length ≤ 3) :
    (encode bytes).length = 4 := by
  rcases bytes with _ | ⟨a, _ | ⟨b, _ | ⟨c, rest⟩⟩⟩
  · exact absurd rfl hne
  · simp [encode]
  · simp [encode]
  · obtain rfl : rest = [] := List.length_eq_zero_iff.mp (by simp at hlen; omega)
    simp [encode]

/-- A row of whole groups with a last group behind it is read in these two parts. -/
theorem decode_append {vs : List Nat} (hwhole : vs.length % 4 = 0) (hlt : ∀ v ∈ vs, v < 64)
    {tail : Bytes} (hlen : tail.length = 4) :
    decode (vs.map symbol ++ tail) = (decodeTail vs.length tail).map (join vs ++ ·) := by
  have hstart : tailStart (vs.map symbol ++ tail) = (vs.map symbol).length := by
    simp only [tailStart, List.length_append, List.length_map]
    omega
  have hvalues : values 0 (vs.map symbol) = .ok vs := values_eq_ok_iff.mpr ⟨rfl, hlt⟩
  have hfull : ((vs.map symbol ++ tail).length % 4 == 1) = false := by
    simp only [List.length_append, List.length_map, beq_eq_false_iff_ne]
    omega
  unfold decode
  cases hlast : (vs.map symbol ++ tail).getLast? with
  | none =>
    have hnil := congrArg List.length (List.getLast?_eq_none_iff.mp hlast)
    simp only [List.length_append, List.length_nil] at hnil
    omega
  | some last =>
    simp only [hfull, Bool.false_and, Bool.false_eq_true, if_false, hstart]
    rw [List.take_left, List.drop_left, hvalues, List.length_map]

theorem decode_encode (bytes : Bytes) : decode (encode bytes) = .ok bytes := by
  by_cases hne : bytes = []
  · rw [hne]
    rfl
  · -- all groups but the last one are whole
    have hpos : bytes.length ≠ 0 := fun h => hne (List.length_eq_zero_iff.mp h)
    obtain ⟨front, last, rfl, hwhole, hlast, hshort⟩ : ∃ front last, bytes = front ++ last ∧
        front.length % 3 = 0 ∧ last ≠ [] ∧ last.length ≤ 3 := by
      refine ⟨bytes.take ((bytes.length - 1) / 3 * 3), bytes.drop ((bytes.length - 1) / 3 * 3),
        (List.take_append_drop ..).symm, ?_, ?_, ?_⟩
      · simp only [List.length_take]
        omega
      · simp only [ne_eq, List.drop_eq_nil_iff]
        omega
      · simp only [List.length_drop]
        omega
    have hfour : (sextets front).length % 4 = 0 := by
      rw [length_sextets]
      omega
    rw [encode_append hwhole, decode_append hfour (sextets_lt front)
      (length_encode_last hlast hshort), decodeTail_encode _ hlast hshort, join_sextets hwhole]
    rfl

theorem eq_encode_of_decode {s bytes : Bytes} (h : decode s = .ok bytes) : s = encode bytes := by
  unfold decode at h
  cases hlast : s.getLast? with
  | none =>
    rw [hlast] at h
    cases h
    exact List.getLast?_eq_none_iff.mp hlast
  | some last =>
    rw [hlast] at h
    simp only at h
    split_ifs at h
    cases hvalues : values 0 (s.take (tailStart s)) with
    | error e => simp [hvalues] at h
    | ok vs =>
      simp only [hvalues] at h
      obtain ⟨bytes', htail, rfl⟩ := map_eq_ok_iff.mp h
      obtain ⟨hfront, hlt⟩ := values_eq_ok_iff.mp hvalues
      have hlen : s.length ≠ 0 := by
        intro hzero
        rw [List.length_eq_zero_iff.mp hzero] at hlast
        cases hlast
      have hshort : (s.drop (tailStart s)).length ≤ 4 := by
        simp only [List.length_drop, tailStart]
        omega
      have hwhole : vs.length % 4 = 0 := by
        have := congrArg List.length hfront
        simp only [List.length_take, List.length_map, tailStart] at this
        omega
      obtain ⟨hback, hthree⟩ := sextets_join hwhole hlt
      rw [encode_append hthree, hback, ← decodeTail_eq_ok hshort htail, ← hfront,
        List.take_append_drop]

theorem decode_eq_ok_iff {s bytes : Bytes} : decode s = .ok bytes ↔ s = encode bytes :=
  ⟨eq_encode_of_decode, fun h => h ▸ decode_encode bytes⟩

/-! ## The standard form -/

/-- The number that digits stand for, the highest first. -/
def number (base : Nat) (digits : List Nat) : Nat := Nat.ofDigits base digits.reverse

theorem number_append (base : Nat) (front rest : List Nat) :
    number base (front ++ rest) = number base front * base ^ rest.length + number base rest := by
  unfold number
  rw [List.reverse_append, Nat.ofDigits_append, List.length_reverse]
  ring

/-- Values of six bits spell bytes of eight, with two zero bits for each padding sign behind
them. -/
structure Spells (bytes : Bytes) (vs : List Nat) (pads : Nat) : Prop where
  below : ∀ v ∈ vs, v < 64
  pads_lt : pads < 3
  bits : 6 * vs.length = 8 * bytes.length + 2 * pads
  value : number 64 vs = number 256 (bytes.map UInt8.toNat) * 4 ^ pads

/-- The standard form of bytes: the symbols of the values that spell them, and padding. -/
def IsStandard (bytes s : Bytes) : Prop :=
  ∃ vs pads, Spells bytes vs pads ∧ s = vs.map (alphabet.getD · pad) ++ List.replicate pads pad

/-- A whole group in front leaves the padding as it is. -/
theorem spells_group (a b c : UInt8) {rest : Bytes} {vs : List Nat} {pads : Nat}
    (h : Spells rest vs pads) : Spells (a :: b :: c :: rest) (sextets [a, b, c] ++ vs) pads := by
  have ha := a.toNat_lt
  have hb := b.toNat_lt
  have hc := c.toNat_lt
  have hpow : 64 ^ vs.length = 256 ^ rest.length * 4 ^ pads :=
    calc 64 ^ vs.length
        = (2 ^ 6) ^ vs.length := by norm_num
      _ = 2 ^ (8 * rest.length + 2 * pads) := by rw [← pow_mul, h.bits]
      _ = (2 ^ 8) ^ rest.length * (2 ^ 2) ^ pads := by rw [pow_add, pow_mul, pow_mul]
      _ = 256 ^ rest.length * 4 ^ pads := by norm_num
  have hgroup : number 64 (sextets [a, b, c]) = number 256 ([a, b, c].map UInt8.toNat) := by
    simp only [number, sextets, List.map_cons, List.map_nil, List.reverse_cons, List.reverse_nil,
      List.nil_append, List.cons_append, Nat.ofDigits_cons, Nat.ofDigits_nil]
    omega
  constructor
  · intro v hv
    rcases List.mem_append.mp hv with hv | hv
    · exact sextets_lt _ v hv
    · exact h.below v hv
  · exact h.pads_lt
  · have hbits := h.bits
    simp only [List.length_append, length_sextets, List.length_cons, List.length_nil]
    omega
  · have hbytes : (a :: b :: c :: rest).map UInt8.toNat =
        [a, b, c].map UInt8.toNat ++ rest.map UInt8.toNat := rfl
    rw [hbytes, number_append, number_append, hgroup, h.value, hpow, List.length_map]
    ring

theorem isStandard_encode (bytes : Bytes) : IsStandard bytes (encode bytes) := by
  fun_induction encode bytes with
  | case1 => exact ⟨[], 0, ⟨by simp, by simp, by simp, rfl⟩, rfl⟩
  | case2 a =>
    have ha := a.toNat_lt
    refine ⟨[a.toNat / 4, a.toNat % 4 * 16], 2, ⟨?_, by simp, by simp, ?_⟩, ?_⟩
    · simp only [List.mem_cons, List.not_mem_nil, or_false, forall_eq_or_imp, forall_eq]
      omega
    · simp only [number, List.map_cons, List.map_nil, List.reverse_cons, List.reverse_nil,
        List.nil_append, List.cons_append, Nat.ofDigits_cons, Nat.ofDigits_nil]
      omega
    · simp only [List.map_cons, List.map_nil]
      rw [← symbol_eq (by omega), ← symbol_eq (by omega)]
      rfl
  | case3 a b =>
    have ha := a.toNat_lt
    have hb := b.toNat_lt
    refine ⟨[a.toNat / 4, a.toNat % 4 * 16 + b.toNat / 16, b.toNat % 16 * 4], 1,
      ⟨?_, by simp, by simp, ?_⟩, ?_⟩
    · simp only [List.mem_cons, List.not_mem_nil, or_false, forall_eq_or_imp, forall_eq]
      omega
    · simp only [number, List.map_cons, List.map_nil, List.reverse_cons, List.reverse_nil,
        List.nil_append, List.cons_append, Nat.ofDigits_cons, Nat.ofDigits_nil]
      omega
    · simp only [List.map_cons, List.map_nil]
      rw [← symbol_eq (by omega), ← symbol_eq (by omega), ← symbol_eq (by omega)]
      rfl
  | case4 a b c rest ih =>
    obtain ⟨vs, pads, hspells, hs⟩ := ih
    have hlt := sextets_lt [a, b, c]
    refine ⟨_, pads, spells_group a b c hspells, ?_⟩
    have hsymbols : (sextets [a, b, c]).map (alphabet.getD · pad) =
        (sextets [a, b, c]).map symbol :=
      List.map_congr_left fun v hv => (symbol_eq (hlt v hv)).symm
    rw [List.map_append, hsymbols, List.append_assoc, ← hs]
    rfl

/-- Bytes have one standard form only: their number and their length fix all values, and their
length fixes the padding. -/
theorem isStandard_unique {bytes s t : Bytes} (hs : IsStandard bytes s)
    (ht : IsStandard bytes t) : s = t := by
  obtain ⟨vs, pads, hvs, rfl⟩ := hs
  obtain ⟨ws, pads', hws, rfl⟩ := ht
  have hbits := hvs.bits
  have hbits' := hws.bits
  have hlow := hvs.pads_lt
  have hlow' := hws.pads_lt
  obtain rfl : pads = pads' := by omega
  have hlen : vs.reverse.length = ws.reverse.length := by
    rw [List.length_reverse, List.length_reverse]
    omega
  have hrev : vs.reverse = ws.reverse :=
    Nat.ofDigits_inj_of_len_eq (by decide) hlen (by simpa using hvs.below)
      (by simpa using hws.below) (hvs.value.trans hws.value.symm)
  rw [List.reverse_injective hrev]

theorem isStandard_iff {bytes s : Bytes} : IsStandard bytes s ↔ s = encode bytes :=
  ⟨fun h => isStandard_unique h (isStandard_encode bytes), fun h => h ▸ isStandard_encode bytes⟩

end Base64

end IsoServer
