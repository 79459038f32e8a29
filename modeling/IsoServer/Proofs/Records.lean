-- Records in JSON. Each setting of a record is a place of its own with a kind of values, and
-- reading an object fills the places that it has keys for. The first value that cannot be read is
-- reported, and keys without a place change nothing.
import Mathlib
import IsoServer.Config.Format

namespace IsoServer.Config

/-! ## Meanings -/

/-- The meaning of a key: which JSON values stand for which values of a type, and what is reported
of a value that stands for none. -/
structure Meaning (β : Type) where
  means : Json → β → Prop
  complaint : Json → ReadError

namespace Meaning

variable {β : Type}

def text : Meaning String where
  means v s := v = .text s
  complaint v := .invalidType v "a string"

def path : Meaning Bytes where
  means v p := ∃ s, v = .text s ∧ p = Bytes.ofString s
  complaint v := .invalidType v "path string"

def truth : Meaning Bool where
  means v b := v = .bool b
  complaint v := .invalidType v "a boolean"

/-- A whole number in the range of a type of words; errors call the type by a name. -/
def whole (toNat : β → Nat) (name : String) : Meaning β where
  means v n := v = .integer (toNat n)
  complaint
    | .integer n => .invalidValue n name
    | v => .invalidType v name

/-- Null for nothing, and else what the value itself means. -/
def orNull (m : Meaning β) : Meaning (Option β) where
  means v x := (v = .null ∧ x = none) ∨ ∃ y, m.means v y ∧ x = some y
  complaint := m.complaint

/-- A value fits if it stands for something. -/
def Fits (m : Meaning β) (v : Json) : Prop := ∃ x, m.means v x

end Meaning

/-! ## Kinds and meanings -/

/-- A kind reads what the meaning says, and reports what it says of anything else. -/
structure Kind.Follows {β : Type} (k : Kind β) (m : Meaning β) : Prop where
  ok_iff : ∀ v x, k.read v = .ok x ↔ m.means v x
  error_eq : ∀ v, ¬ m.Fits v → k.read v = .error (m.complaint v)

namespace Kind

variable {β : Type}

theorem Follows.exists_ok_iff {k : Kind β} {m : Meaning β} (h : k.Follows m) {v : Json} :
    (∃ x, k.read v = .ok x) ↔ m.Fits v := exists_congr (h.ok_iff v)

theorem Follows.of_error {k : Kind β} {m : Meaning β} (h : k.Follows m) {v : Json} {e : ReadError}
    (he : k.read v = .error e) : ¬ m.Fits v ∧ e = m.complaint v := by
  have hfits : ¬ m.Fits v := by
    rw [← h.exists_ok_iff, he]
    rintro ⟨x, hx⟩
    cases hx
  exact ⟨hfits, Except.error.inj (he.symm.trans (h.error_eq v hfits))⟩

theorem follows_text : text.Follows .text where
  ok_iff v x := by cases v <;> simp [text, Meaning.text]
  error_eq v h := by
    cases v with
    | text s => exact absurd ⟨s, rfl⟩ h
    | _ => rfl

theorem follows_path : path.Follows .path where
  ok_iff v x := by cases v <;> simp [path, Meaning.path, eq_comm]
  error_eq v h := by
    cases v with
    | text s => exact absurd ⟨_, s, rfl, rfl⟩ h
    | _ => rfl

theorem follows_bool : bool.Follows .truth where
  ok_iff v x := by cases v <;> simp [bool, Meaning.truth]
  error_eq v h := by
    cases v with
    | bool b => exact absurd ⟨b, rfl⟩ h
    | _ => rfl

theorem readNat_integer {n bound : Nat} (h : n < bound) (expected : String) :
    readNat bound expected (.integer n) = .ok n :=
  (if_pos ⟨by omega, by omega⟩).trans (congrArg Except.ok (Int.toNat_natCast n))

/-- A kind of words takes the numbers of its words, if these are the numbers below its bound. -/
theorem follows_of_word {k : Kind β} {toNat : β → Nat} {ofNat : Nat → β} {bound : Nat}
    {name : String} (hread : ∀ v, k.read v = (readNat bound name v).map ofNat)
    (hbound : ∀ x, toNat x < bound) (hword : ∀ x, ofNat (toNat x) = x)
    (hnumber : ∀ n < bound, toNat (ofNat n) = n) : k.Follows (.whole toNat name) := by
  have hinteger {n : Int} (hn : 0 ≤ n ∧ n < bound) : (toNat (ofNat n.toNat) : Int) = n := by
    rw [hnumber _ (by omega)]
    exact Int.toNat_of_nonneg hn.1
  refine ⟨fun v x => ⟨fun h => ?_, fun h => ?_⟩, fun v h => ?_⟩
  · rw [hread] at h
    cases v with
    | integer n =>
      rw [readNat] at h
      split_ifs at h with hn
      · cases h
        exact congrArg Json.integer (hinteger hn).symm
      · cases h
    | _ => cases h
  · rw [hread, show v = .integer (toNat x) from h, readNat_integer (hbound x), Except.map, hword]
  · rw [hread]
    cases v with
    | integer n =>
      have hn : ¬ (0 ≤ n ∧ n < bound) := fun hn =>
        h ⟨ofNat n.toNat, congrArg Json.integer (hinteger hn).symm⟩
      rw [readNat, if_neg hn]
      rfl
    | _ => rfl

theorem follows_word16 : word16.Follows (.whole UInt16.toNat "u16") :=
  follows_of_word (fun _ => rfl) UInt16.toNat_lt_size (fun _ => UInt16.ofNat_toNat)
    fun _ => UInt16.toNat_ofNat_of_lt'

theorem follows_word32 : word32.Follows (.whole UInt32.toNat "u32") :=
  follows_of_word (fun _ => rfl) UInt32.toNat_lt_size (fun _ => UInt32.ofNat_toNat)
    fun _ => UInt32.toNat_ofNat_of_lt'

theorem follows_word64 : word64.Follows (.whole UInt64.toNat "u64") :=
  follows_of_word (fun _ => rfl) UInt64.toNat_lt_size (fun _ => UInt64.ofNat_toNat)
    fun _ => UInt64.toNat_ofNat_of_lt'

theorem follows_count : count.Follows (.whole UInt64.toNat "usize") :=
  follows_of_word (fun _ => rfl) UInt64.toNat_lt_size (fun _ => UInt64.ofNat_toNat)
    fun _ => UInt64.toNat_ofNat_of_lt'

theorem read_optional {k : Kind β} {v : Json} (h : v ≠ .null) :
    (optional k).read v = (k.read v).map some := by
  cases v with
  | null => exact absurd rfl h
  | _ => rfl

theorem follows_optional {k : Kind β} {m : Meaning β} (h : k.Follows m)
    (hnull : ¬ m.Fits .null) : (optional k).Follows m.orNull := by
  refine ⟨fun v x => ?_, fun v hv => ?_⟩
  · by_cases hv : v = .null
    · subst hv
      have hnone : ∀ y, ¬ m.means .null y := fun y hy => hnull ⟨y, hy⟩
      simp [optional, Meaning.orNull, hnone, eq_comm]
    · rw [read_optional hv]
      cases hread : k.read v with
      | ok y =>
        have hy := (h.ok_iff v y).mp hread
        have hsame (z : β) : m.means v z ↔ z = y := by
          rw [← h.ok_iff, hread, Except.ok.injEq, eq_comm]
        simp [Except.map, Meaning.orNull, hv, hsame, eq_comm]
      | error e =>
        have hnone (z : β) : ¬ m.means v z := by
          simp [← h.ok_iff, hread]
        simp [Except.map, Meaning.orNull, hv, hnone]
  · have hne : v ≠ .null := fun hnull => hv ⟨none, .inl ⟨hnull, rfl⟩⟩
    have hfits : ¬ m.Fits v := fun ⟨y, hy⟩ => hv ⟨some y, .inr ⟨y, hy, rfl⟩⟩
    rw [read_optional hne, h.error_eq v hfits]
    rfl

end Kind

/-! ## Records by their settings -/

/-- A setting is found under its name if no other has that name. -/
theorem find?_name {α : Type} {settings : List (Setting α)} {s : Setting α}
    (hnames : (settings.map (·.name)).Nodup) (hs : s ∈ settings) :
    settings.find? (·.name == s.name) = some s := by
  induction settings with
  | nil => cases hs
  | cons t settings ih =>
    rw [List.map_cons, List.nodup_cons] at hnames
    rcases List.mem_cons.mp hs with rfl | hs
    · simp
    · have hne : t.name ≠ s.name := fun h => hnames.1 (h ▸ List.mem_map_of_mem hs)
      rw [List.find?_cons_of_neg (by simpa using hne)]
      exact ih hnames.2 hs

theorem readMembers_append {α : Type} (settings : List (Setting α))
    (front rest : List (String × Json)) (x : α) :
    readMembers settings (front ++ rest) x =
      (readMembers settings front x).bind (readMembers settings rest) := by
  induction front generalizing x with
  | nil => rfl
  | cons m front ih =>
    obtain ⟨name, v⟩ := m
    rw [List.cons_append, readMembers, readMembers]
    cases settings.find? (·.name == name) with
    | none => exact ih x
    | some s =>
      cases hs : s.kind.read v with
      | error e => simp only [hs, Except.bind]
      | ok y => simp only [hs]; exact ih _

namespace Record

variable {α : Type} (r : Record α)

/-- The members have the value of a place in `y` at its name; without one, `y` has there what `x`
has. -/
def Gives (members : List (String × Json)) (p : Setting α) (x y : α) : Prop :=
  (∀ v, (p.name, v) ∈ members → p.kind.read v = .ok (p.get y)) ∧
    ((∀ v, (p.name, v) ∉ members) → p.get y = p.get x)

/-- Every value at the name of a place can be read. -/
def Readable (members : List (String × Json)) : Prop :=
  ∀ p ∈ r.settings, ∀ v, (p.name, v) ∈ members → ∃ y, p.kind.read v = .ok y

variable {r} {members : List (String × Json)} {p : Setting α} {v : Json}

theorem readMembers_unknown {name : String} (h : ∀ p ∈ r.settings, p.name ≠ name) (v : Json)
    (members : List (String × Json)) (x : α) :
    readMembers r.settings ((name, v) :: members) x = readMembers r.settings members x := by
  have hnone : r.settings.find? (·.name == name) = none := by
    rw [List.find?_eq_none]
    exact fun s hs => by simpa using h s hs
  rw [readMembers, hnone]

theorem readMembers_of_ok (hp : p ∈ r.settings) {y : p.β} (hv : p.kind.read v = .ok y)
    (members : List (String × Json)) (x : α) :
    readMembers r.settings ((p.name, v) :: members) x =
      readMembers r.settings members (p.set y x) := by
  rw [readMembers, find?_name r.names hp]
  simp only [hv]

theorem readMembers_of_error (hp : p ∈ r.settings) {e : ReadError} (hv : p.kind.read v = .error e)
    (members : List (String × Json)) (x : α) :
    readMembers r.settings ((p.name, v) :: members) x = .error e := by
  rw [readMembers, find?_name r.names hp]
  simp only [hv]

/-- What becomes of the first member: it is passed over, put in its place, or reported. -/
theorem readMembers_cases (name : String) (v : Json) :
    (∀ p ∈ r.settings, p.name ≠ name) ∨
      ∃ p ∈ r.settings, p.name = name ∧
        ((∃ y, p.kind.read v = .ok y) ∨ ∃ e, p.kind.read v = .error e) := by
  by_cases h : ∃ p ∈ r.settings, p.name = name
  · obtain ⟨p, hp, hname⟩ := h
    refine .inr ⟨p, hp, hname, ?_⟩
    cases hv : p.kind.read v with
    | ok y => exact .inl ⟨y, rfl⟩
    | error e => exact .inr ⟨e, rfl⟩
  · exact .inl fun p hp hname => h ⟨p, hp, hname⟩

theorem exists_readMembers (h : r.Readable members) (x : α) :
    ∃ y, readMembers r.settings members x = .ok y := by
  induction members generalizing x with
  | nil => exact ⟨x, rfl⟩
  | cons m members ih =>
    obtain ⟨name, v⟩ := m
    have hrest : r.Readable members := fun p hp w hw => h p hp w (List.mem_cons_of_mem _ hw)
    rcases readMembers_cases (r := r) name v with hnone | ⟨p, hp, rfl, ⟨y, hy⟩ | ⟨e, he⟩⟩
    · rw [readMembers_unknown hnone]
      exact ih hrest x
    · rw [readMembers_of_ok hp hy]
      exact ih hrest _
    · obtain ⟨y, hy⟩ := h p hp v List.mem_cons_self
      rw [he] at hy
      cases hy

/-- The first value that cannot be read is reported, whatever follows it. -/
theorem readMembers_first (hfront : r.Readable members) (hp : p ∈ r.settings) {e : ReadError}
    (hv : p.kind.read v = .error e) (rest : List (String × Json)) (x : α) :
    readMembers r.settings (members ++ (p.name, v) :: rest) x = .error e := by
  obtain ⟨y, hy⟩ := exists_readMembers hfront x
  rw [readMembers_append, hy]
  exact readMembers_of_error hp hv rest y

/-- What is reported is the first value that cannot be read. -/
theorem exists_of_readMembers_error {x : α} {e : ReadError}
    (h : readMembers r.settings members x = .error e) :
    ∃ front p v rest, members = front ++ (Setting.name p, v) :: rest ∧ p ∈ r.settings ∧
      p.kind.read v = .error e ∧ r.Readable front := by
  induction members generalizing x with
  | nil => cases h
  | cons m members ih =>
    obtain ⟨name, w⟩ := m
    -- a member that is passed over or can be read joins the front of the one that is reported
    have hjoin {y : α} (hm : ∀ p ∈ r.settings, p.name = name → ∃ z, p.kind.read w = .ok z)
        (hy : readMembers r.settings members y = .error e) :
        ∃ front p v rest, (name, w) :: members = front ++ (Setting.name p, v) :: rest ∧
          p ∈ r.settings ∧ p.kind.read v = .error e ∧ r.Readable front := by
      obtain ⟨front, p, v, rest, rfl, hp, hv, hfront⟩ := ih hy
      refine ⟨(name, w) :: front, p, v, rest, rfl, hp, hv, fun q hq u hu => ?_⟩
      rcases List.mem_cons.mp hu with hu | hu
      · cases hu
        exact hm q hq rfl
      · exact hfront q hq u hu
    rcases readMembers_cases (r := r) name w with hnone | ⟨p, hp, rfl, ⟨y, hy⟩ | ⟨e', he⟩⟩
    · rw [readMembers_unknown hnone] at h
      exact hjoin (fun p hp hname => absurd hname (hnone p hp)) h
    · rw [readMembers_of_ok hp hy] at h
      refine hjoin (fun q hq hname => ?_) h
      have hsame : q = p := List.inj_on_of_nodup_map r.names hq hp hname
      subst hsame
      exact ⟨y, hy⟩
    · rw [readMembers_of_error hp he] at h
      cases h
      exact ⟨[], p, w, members, rfl, hp, he, fun q hq u hu => absurd hu List.not_mem_nil⟩

theorem gives_cons_of_ne {name : String} (h : p.name ≠ name) {x y : α} :
    Gives ((name, v) :: members) p x y ↔ Gives members p x y := by
  simp [Gives, h]

/-- The one value at the name of a place is what the place has. -/
theorem gives_cons_self (habsent : ∀ w, (p.name, w) ∉ members) {x y : α}
    (hv : p.kind.read v = .ok (p.get y)) : Gives ((p.name, v) :: members) p x y := by
  refine ⟨fun w hw => ?_, fun hw => absurd List.mem_cons_self (hw v)⟩
  rcases List.mem_cons.mp hw with hw | hw
  · cases hw
    exact hv
  · exact absurd hw (habsent w)

/-- After reading, every place has what the members give it. -/
theorem gives_of_readMembers (hkeys : (members.map (·.1)).Nodup) {x y : α}
    (h : readMembers r.settings members x = .ok y) : ∀ p ∈ r.settings, Gives members p x y := by
  -- the record `x` that is read into changes on the way, at one place with each known member
  induction members generalizing x with
  | nil =>
    cases h
    exact fun p hp => ⟨fun v hv => absurd hv List.not_mem_nil, fun _ => rfl⟩
  | cons m members ih =>
    obtain ⟨name, w⟩ := m
    rw [List.map_cons, List.nodup_cons] at hkeys
    have habsent (v : Json) : (name, v) ∉ members := fun hv =>
      hkeys.1 (List.mem_map.mpr ⟨(name, v), hv, rfl⟩)
    intro q hq
    rcases readMembers_cases (r := r) name w with hnone | ⟨p, hp, rfl, ⟨z, hz⟩ | ⟨e, he⟩⟩
    · rw [readMembers_unknown hnone] at h
      exact (gives_cons_of_ne (hnone q hq)).mpr (ih hkeys.2 h q hq)
    · rw [readMembers_of_ok hp hz] at h
      obtain ⟨hthere, helse⟩ := ih hkeys.2 h q hq
      by_cases hname : q.name = p.name
      · have hsame : q = p := List.inj_on_of_nodup_map r.names hq hp hname
        subst hsame
        refine gives_cons_self habsent ?_
        rw [hz, helse habsent, q.get_set]
      · refine (gives_cons_of_ne hname).mpr ⟨hthere, fun hv => ?_⟩
        rw [helse hv, r.apart p hp q hq (Ne.symm hname)]
    · rw [readMembers_of_error hp he] at h
      cases h

theorem readable_of_readMembers (hkeys : (members.map (·.1)).Nodup) {x y : α}
    (h : readMembers r.settings members x = .ok y) : r.Readable members :=
  fun p hp v hv => ⟨_, (gives_of_readMembers hkeys h p hp).1 v hv⟩

/-- An object is read as the record that has at every place what the object gives it. -/
theorem readMembers_eq_ok_iff (hkeys : (members.map (·.1)).Nodup) {x y : α} :
    readMembers r.settings members x = .ok y ↔ ∀ p ∈ r.settings, Gives members p x y := by
  refine ⟨gives_of_readMembers hkeys, fun h => ?_⟩
  obtain ⟨z, hz⟩ := exists_readMembers (fun p hp v hv => ⟨_, (h p hp).1 v hv⟩) x
  rw [hz, r.complete z y fun p hp => ?_]
  obtain ⟨hthere, helse⟩ := gives_of_readMembers hkeys hz p hp
  by_cases hmem : ∃ v, (p.name, v) ∈ members
  · obtain ⟨v, hv⟩ := hmem
    exact Except.ok.inj ((hthere v hv).symm.trans ((h p hp).1 v hv))
  · have habsent : ∀ v, (p.name, v) ∉ members := fun v hv => hmem ⟨v, hv⟩
    rw [helse habsent, (h p hp).2 habsent]

/-- Members that no place has the name of can be left out. -/
theorem readMembers_filter (known : String → Bool) (h : ∀ p ∈ r.settings, known p.name = true)
    (members : List (String × Json)) (x : α) :
    readMembers r.settings (members.filter fun m => known m.1) x =
      readMembers r.settings members x := by
  induction members generalizing x with
  | nil => rfl
  | cons m members ih =>
    obtain ⟨name, v⟩ := m
    cases hknown : known name with
    | true =>
      rw [List.filter_cons, if_pos hknown]
      change readMembers _ ([(name, v)] ++ _) x = readMembers _ ([(name, v)] ++ _) x
      rw [readMembers_append, readMembers_append, funext ih]
    | false =>
      have hnone : ∀ p ∈ r.settings, p.name ≠ name := by
        rintro p hp rfl
        rw [h p hp] at hknown
        cases hknown
      rw [List.filter_cons, if_neg (by simp [hknown]), readMembers_unknown hnone]
      exact ih x

/-- Values can be exchanged for others that are read alike. -/
theorem readMembers_map {f : String → Json → Json}
    (h : ∀ p ∈ r.settings, ∀ v, p.kind.read (f p.name v) = p.kind.read v)
    (members : List (String × Json)) (x : α) :
    readMembers r.settings (members.map fun m => (m.1, f m.1 m.2)) x =
      readMembers r.settings members x := by
  induction members generalizing x with
  | nil => rfl
  | cons m members ih =>
    obtain ⟨name, v⟩ := m
    rw [List.map_cons]
    rcases readMembers_cases (r := r) name v with hnone | ⟨p, hp, rfl, ⟨y, hy⟩ | ⟨e, he⟩⟩
    · rw [readMembers_unknown hnone, readMembers_unknown hnone]
      exact ih x
    · rw [readMembers_of_ok hp hy, readMembers_of_ok hp ((h p hp v).trans hy)]
      exact ih _
    · rw [readMembers_of_error hp he, readMembers_of_error hp ((h p hp v).trans he)]

end Record

end IsoServer.Config
