-- The JSON forms of a configuration. The whole and each of its sections is an object or an array;
-- in every choice of these forms a configuration reads back, and where an array ends early the
-- settings it leaves out have their defaults.
import Mathlib
import IsoServer.Config.Format
import IsoServer.Proofs.Characters
import IsoServer.Proofs.JsonText
import IsoServer.Proofs.Keys

namespace IsoServer

namespace Config

/-! ## Single values -/

/-- A value is read from what is written of it. -/
def Kind.Restores {α : Type} (k : Kind α) (x : α) : Prop := k.read (k.write x) = .ok x

namespace Kind

theorem Follows.restores {β : Type} {k : Kind β} {m : Meaning β} (h : k.Follows m) {x : β}
    (hmeans : m.means (k.write x) x) : k.Restores x := (h.ok_iff _ _).mpr hmeans

theorem restores_text (s : String) : text.Restores s := rfl

theorem restores_bool (b : Bool) : bool.Restores b := rfl

theorem restores_word16 (n : UInt16) : word16.Restores n := follows_word16.restores rfl

theorem restores_word32 (n : UInt32) : word32.Restores n := follows_word32.restores rfl

theorem restores_word64 (n : UInt64) : word64.Restores n := follows_word64.restores rfl

theorem restores_count (n : UInt64) : count.Restores n := follows_count.restores rfl

/-- A value that may be missing is restored if what is there is not written as null. -/
theorem restores_optional {β : Type} {k : Kind β} (hnull : ∀ y, k.write y ≠ .null)
    (hk : ∀ y, k.Restores y) (x : Option β) : (optional k).Restores x := by
  cases x with
  | none => rfl
  | some y => exact (read_optional (hnull y)).trans (congrArg (Except.map some) (hk y))

theorem restores_path {s : Bytes} (h : Utf8.isValid s = true) : path.Restores s :=
  congrArg Except.ok (Utf8.ofString_decodeLossy h)

end Kind

/-! ## Records -/

section Records

variable {α : Type}

/-- The record with some settings taken over from another one. -/
def takeOver (settings : List (Setting α)) (c x : α) : α :=
  settings.foldl (fun x s => s.set (s.get c) x) x

theorem get_takeOver_of_not_mem {r : Record α} {s : Setting α} {settings : List (Setting α)}
    (hsub : settings ⊆ r.settings) (hs : s ∈ r.settings)
    (hnot : s.name ∉ settings.map (·.name)) (c x : α) :
    s.get (takeOver settings c x) = s.get x := by
  induction settings generalizing x with
  | nil => rfl
  | cons t settings ih =>
    rw [List.cons_subset] at hsub
    rw [List.map_cons, List.mem_cons, not_or] at hnot
    calc s.get (takeOver settings c (t.set (t.get c) x))
        = s.get (t.set (t.get c) x) := ih hsub.2 hnot.2 _
      _ = s.get x := r.apart t hsub.1 s hs (Ne.symm hnot.1) _ _

theorem get_takeOver_of_mem {r : Record α} {s : Setting α} {settings : List (Setting α)}
    (hsub : settings ⊆ r.settings) (hnames : (settings.map (·.name)).Nodup) (hs : s ∈ settings)
    (c x : α) : s.get (takeOver settings c x) = s.get c := by
  induction settings generalizing x with
  | nil => cases hs
  | cons t settings ih =>
    rw [List.map_cons, List.nodup_cons] at hnames
    rcases List.mem_cons.mp hs with rfl | hs
    · rw [List.cons_subset] at hsub
      calc s.get (takeOver settings c (s.set (s.get c) x))
          = s.get (s.set (s.get c) x) := get_takeOver_of_not_mem hsub.2 hsub.1 hnames.1 _ _
        _ = s.get c := s.get_set _ _
    · exact ih (List.cons_subset.mp hsub).2 hnames.2 hs _

/-- The members are those of a row of settings, with values that are read as the settings of `c`. -/
inductive Readings (c : α) : List (Setting α) → List (String × Json) → Prop where
  | nil : Readings c [] []
  | cons {s : Setting α} {settings : List (Setting α)} {v : Json} {members : List (String × Json)}
      (hread : s.kind.read v = .ok (s.get c)) (rest : Readings c settings members) :
      Readings c (s :: settings) ((s.name, v) :: members)

variable {c : α} {settings : List (Setting α)} {members : List (String × Json)}

theorem readings_members {r : Record α} (h : ∀ s ∈ r.settings, s.kind.Restores (s.get c)) :
    Readings c r.settings (r.members c) := by
  unfold Record.members
  generalize r.settings = settings at h
  induction settings with
  | nil => exact .nil
  | cons s settings ih =>
    rw [List.forall_mem_cons] at h
    exact .cons h.1 (ih h.2)

theorem Readings.take (h : Readings c settings members) (n : Nat) :
    Readings c (settings.take n) (members.take n) := by
  induction h generalizing n with
  | nil => simpa using Readings.nil
  | cons hread _ ih =>
    cases n with
    | zero => exact .nil
    | succ n => exact .cons hread (ih n)

/-- Reading the values in a row takes over the settings that they are for. -/
theorem readItems_of_readings (h : Readings c settings members) (length : Nat)
    (rest : List (Setting α)) (x : α) :
    readItems length (settings ++ rest) (members.map (·.2)) x = .ok (takeOver settings c x) := by
  induction h generalizing x with
  | nil => rw [List.map_nil, readItems]; rfl
  | cons hread _ ih =>
    rw [List.cons_append, List.map_cons, readItems, hread]
    exact ih _

/-- Reading the members of an object does the same, since each finds its own setting. -/
theorem readMembers_of_readings {r : Record α} (h : Readings c settings members)
    (hsub : settings ⊆ r.settings) (x : α) :
    readMembers r.settings members x = .ok (takeOver settings c x) := by
  induction h generalizing x with
  | nil => rw [readMembers]; rfl
  | cons hread _ ih =>
    rw [List.cons_subset] at hsub
    rw [Record.readMembers_of_ok hsub.1 hread]
    exact ih hsub.2 _

/-! ## Forms -/

/-- How a record is written. -/
inductive Form where
  /-- An object with all settings under their names. -/
  | named
  /-- An array of the first settings in their order: so many, or all if there are fewer. -/
  | listed (count : Nat)
  deriving DecidableEq, Repr

namespace Form

/-- What the form shows of a list with one entry for each setting. -/
def shown {β : Type*} : Form → List β → List β
  | named, entries => entries
  | listed count, entries => entries.take count

/-- The record with these members. -/
def arrange (form : Form) (members : List (String × Json)) : Json :=
  match form with
  | named => .object members
  | listed _ => .array ((form.shown members).map (·.2))

/-- Whether the setting at a place is shown. -/
def shows : Form → Nat → Bool
  | named, _ => true
  | listed count, i => i < count

/-- The record that has the settings that the form shows from `c`, and all others from
`initial`. -/
def kept (form : Form) (r : Record α) (c initial : α) : α :=
  takeOver (form.shown r.settings) c initial

theorem get_kept {r : Record α} {s : Setting α} {i : Nat} (hs : r.settings[i]? = some s)
    (form : Form) (c initial : α) :
    s.get (form.kept r c initial) = if form.shows i then s.get c else s.get initial := by
  cases form with
  | named =>
    exact get_takeOver_of_mem (List.Subset.refl _) r.names (List.mem_of_getElem? hs) c initial
  | listed count =>
    have hsub : r.settings.take count ⊆ r.settings := List.take_subset count _
    have hnames := r.names
    rw [← List.take_append_drop count r.settings, List.map_append, List.nodup_append] at hnames
    by_cases hi : i < count
    · have hmem : s ∈ r.settings.take count :=
        List.mem_of_getElem? ((List.getElem?_take_of_lt hi).trans hs)
      rw [shows, if_pos (by simpa using hi)]
      exact get_takeOver_of_mem hsub hnames.1 hmem c initial
    · -- a setting behind the count shares its name with none before it
      have hmem : s ∈ r.settings.drop count := by
        refine List.mem_of_getElem? (i := i - count) ?_
        rw [List.getElem?_drop, Nat.add_sub_cancel' (by omega), hs]
      rw [shows, if_neg (by simpa using hi)]
      exact get_takeOver_of_not_mem hsub (List.mem_of_getElem? hs)
        (fun hin => hnames.2.2 _ hin _ (List.mem_map_of_mem hmem) rfl) c initial

theorem isIntegral_arrange (form : Form) {members : List (String × Json)}
    (h : ∀ member ∈ members, member.2.isIntegral = true) :
    (form.arrange members).isIntegral = true := by
  cases form with
  | named => rw [arrange, Json.isIntegral, Json.holdIntegral_iff]; exact h
  | listed count =>
    rw [arrange, Json.isIntegral, Json.areIntegral_iff]
    intro item hitem
    obtain ⟨member, hmember, rfl⟩ := List.mem_map.mp hitem
    exact h member (List.mem_of_mem_take hmember)

end Form

/-- A record reads back in either form, with the settings that are shown. -/
theorem read_arrange (title : String) {r : Record α} (h : Readings c r.settings members)
    (form : Form) (initial : α) :
    (Kind.record title r initial).read (form.arrange members) = .ok (form.kept r c initial) := by
  cases form with
  | named => exact readMembers_of_readings h (List.Subset.refl _) initial
  | listed count =>
    have hread := readItems_of_readings (h.take count)
      ((members.take count).map (·.2)).length (r.settings.drop count) initial
    rwa [List.take_append_drop] at hread

end Records

end Config

open Config

/-! ## Sections -/

theorem ListenerConfig.restores (c : ListenerConfig) :
    ∀ s ∈ record.settings, s.kind.Restores (s.get c) := by
  have hnull (n : UInt32) : Kind.word32.write n ≠ .null := Json.noConfusion
  simp [record, Kind.restores_text, Kind.restores_word16, Kind.restores_word64,
    Kind.restores_optional hnull Kind.restores_word32]

theorem FilesConfig.restores {c : FilesConfig} (hroot : Utf8.isValid c.root = true) :
    ∀ s ∈ record.settings, s.kind.Restores (s.get c) := by
  simp [record, Kind.restores_path hroot, Kind.restores_bool]

theorem ProxyConfig.restores (c : ProxyConfig) :
    ∀ s ∈ record.settings, s.kind.Restores (s.get c) := by
  simp [record, Kind.restores_text, Kind.restores_word64, Kind.restores_count, Kind.restores_bool]

theorem LogConfig.restores (c : LogConfig) :
    ∀ s ∈ record.settings, s.kind.Restores (s.get c) := by
  simp [record, Kind.restores_text]

namespace ServeConfig

variable {c : ServeConfig}

theorem restores (hroot : Utf8.isValid c.files.root = true) :
    ∀ s ∈ sections, ∀ p ∈ s.record.settings, p.kind.Restores (p.get (s.get c)) := by
  simp only [sections, parts, Each.entries, List.forall_mem_cons]
  exact ⟨c.listener.restores, FilesConfig.restores hroot, c.proxy.restores,
    c.observability.restores, by simp⟩

/-- What is written of a configuration has each setting at its key. -/
theorem holds_members (hroot : Utf8.isValid c.files.root = true) : ∀ key ∈ keys, ∃ v,
    Holds (record.members c) key.part key.name v ∧ key.meaning.means v (key.get c) := by
  refine forall_keys_iff.mpr fun s hs slot hslot => ?_
  have hslot' : slot.toSetting ∈ s.record.settings := s.more.meanings.toSetting_mem hslot
  refine ⟨slot.kind.write (slot.get (s.get c)), ⟨s.record.members (s.get c), ?_, ?_⟩, ?_⟩
  · rw [← s.write_eq]
    exact List.mem_map_of_mem (parts.toSetting_mem hs)
  · exact List.mem_map_of_mem hslot'
  · exact (slot.more.follows.ok_iff _ _).mp (restores hroot s hs _ hslot')

end ServeConfig

/-! ## Layouts -/

/-- The forms of a configuration and its sections. -/
structure Layout where
  whole : Form := .named
  listener : Form := .named
  files : Form := .named
  proxy : Form := .named
  observability : Form := .named
  deriving DecidableEq, Repr

namespace Layout

variable (l : Layout) (c : ServeConfig)

/-- The sections in their forms, in their order. -/
def fields : List (String × Json) := [
  ("listener", l.listener.arrange (ListenerConfig.record.members c.listener)),
  ("files", l.files.arrange (FilesConfig.record.members c.files)),
  ("proxy", l.proxy.arrange (ProxyConfig.record.members c.proxy)),
  ("observability", l.observability.arrange (LogConfig.record.members c.observability))]

/-- The configuration in this layout. -/
def write : Json := l.whole.arrange (l.fields c)

/-- The configuration with each section as its form shows it. -/
def sections : ServeConfig where
  listener := l.listener.kept ListenerConfig.record c.listener {}
  files := l.files.kept FilesConfig.record c.files {}
  proxy := l.proxy.kept ProxyConfig.record c.proxy {}
  observability := l.observability.kept LogConfig.record c.observability {}

/-- What the layout shows of a configuration, and the defaults of what it leaves out. -/
def kept : ServeConfig := l.whole.kept ServeConfig.record (l.sections c) {}

/-- The form of a section. -/
def form (part : String) : Form :=
  if part = "listener" then l.listener else if part = "files" then l.files
  else if part = "proxy" then l.proxy else l.observability

/-- Whether the setting of a key is shown: the section is one of those that the whole shows, and the
setting one of those that the section shows, by the order of the keys. -/
def shows (key : Key ServeConfig) : Bool :=
  l.whole.shows ((ServeConfig.keys.map (·.part)).eraseDups.idxOf key.part) &&
    (l.form key.part).shows
      (((ServeConfig.keys.filter (·.part == key.part)).map (·.name)).idxOf key.name)

/-- No setting is left out. -/
def IsComplete : Prop := ∀ key ∈ ServeConfig.keys, l.shows key = true

variable {l c}

theorem readings_fields (hroot : Utf8.isValid c.files.root = true) :
    Readings (l.sections c) ServeConfig.record.settings (l.fields c) :=
  .cons (read_arrange _ (readings_members c.listener.restores) l.listener {}) <|
  .cons (read_arrange _ (readings_members (FilesConfig.restores hroot)) l.files {}) <|
  .cons (read_arrange _ (readings_members c.proxy.restores) l.proxy {}) <|
  .cons (read_arrange _ (readings_members c.observability.restores) l.observability {}) .nil

theorem ofJson_write (hroot : Utf8.isValid c.files.root = true) :
    ServeConfig.ofJson (l.write c) = .ok (l.kept c) :=
  read_arrange _ (readings_fields hroot) l.whole {}

theorem get_sections {s : Section ServeConfig} (hs : s ∈ ServeConfig.sections) :
    s.get (l.sections c) = (l.form s.name).kept s.record (s.get c) s.initial := by
  revert s
  simp [ServeConfig.sections, ServeConfig.parts, Each.entries, sections, form, Section.record,
    Section.initial]

/-- The position of a setting by the order of the keys is its position in the records. -/
theorem shows_key {s : Section ServeConfig} {slot : Slot s.β} {i j : Nat}
    (hs : ServeConfig.sections[i]? = some s) (hslot : s.slots[j]? = some slot) :
    l.shows (s.key slot) = (l.whole.shows i && (l.form s.name).shows j) := by
  have hpart := ServeConfig.parts.idxOf_name ServeConfig.record.names hs
  have hname := s.more.meanings.idxOf_name s.record.names hslot
  have hnames := ServeConfig.names_eq (List.mem_of_getElem? hs)
  simp only [shows, Section.key, ServeConfig.parts_eq, hnames]
  exact congrArg₂ (l.whole.shows · && (l.form s.name).shows ·) hpart hname

/-- Each setting is kept if it is shown, and has its default if it is not. -/
theorem get_kept (l : Layout) (c : ServeConfig) : ∀ key ∈ ServeConfig.keys,
    key.get (l.kept c) = if l.shows key then key.get c else key.initial := by
  refine ServeConfig.forall_keys_iff.mpr fun s hs slot hslot => ?_
  obtain ⟨i, hi⟩ := List.mem_iff_getElem?.mp hs
  obtain ⟨j, hj⟩ := List.mem_iff_getElem?.mp hslot
  have hwhole : s.get (l.kept c) = if l.whole.shows i then s.get (l.sections c) else s.get {} :=
    Form.get_kept (ServeConfig.parts.getElem?_settings hi) l.whole _ _
  have hpart := Form.get_kept (s.more.meanings.getElem?_settings hj) (l.form s.name)
    (s.get c) s.initial
  rw [shows_key hi hj]
  change slot.get (s.get (l.kept c)) = if _ then slot.get (s.get c) else slot.get s.initial
  cases hshows : l.whole.shows i with
  | true =>
    rw [hwhole, if_pos hshows, get_sections hs, Bool.true_and]
    exact hpart
  | false =>
    rw [hwhole, if_neg (by simp [hshows]), ServeConfig.get_default hs]
    rfl

theorem kept_of_isComplete (h : l.IsComplete) : l.kept c = c :=
  ServeConfig.eq_of_keys fun key hkey => (get_kept l c key hkey).trans (if_pos (h key hkey))

theorem isComplete_named : IsComplete {} := by
  simp [IsComplete, shows, form, Form.shows]

/-- A configuration is written with everything under its name. -/
theorem write_named (c : ServeConfig) : write {} c = c.toJson := rfl

/-- No number in a configuration is too large to be read from text. -/
theorem isIntegral_write (l : Layout) (c : ServeConfig) : (l.write c).isIntegral = true := by
  have hword16 (n : UInt16) := Json.fitsInteger_natural (n.toNat_lt_size.trans (by decide))
  have hword32 (n : UInt32) := Json.fitsInteger_natural (n.toNat_lt_size.trans (by decide))
  have hword64 (n : UInt64) := Json.fitsInteger_natural n.toNat_lt_size
  have hattempts (attempts : Option UInt32) :
      ((Kind.optional .word32).write attempts).isIntegral = true := by
    cases attempts with
    | none => rfl
    | some n => exact hword32 n
  refine l.whole.isIntegral_arrange ?_
  simp only [fields, List.forall_mem_cons, List.not_mem_nil, false_imp_iff, forall_const, and_true]
  refine ⟨l.listener.isIntegral_arrange ?_, l.files.isIntegral_arrange ?_,
    l.proxy.isIntegral_arrange ?_, l.observability.isIntegral_arrange ?_⟩
  · simp [Record.members, ListenerConfig.record, Kind.text, Kind.word16, Kind.word64,
      Json.isIntegral, hword16, hword64, hattempts]
  · simp [Record.members, FilesConfig.record, Kind.path, Kind.bool, Json.isIntegral]
  · simp [Record.members, ProxyConfig.record, Kind.text, Kind.word64, Kind.count, Kind.bool,
      Json.isIntegral, hword64]
  · simp [Record.members, LogConfig.record, Kind.text, Json.isIntegral]

end Layout

/-- A configuration whose root is text reads back from what is written of it, which has each setting
at its key. In every layout it reads back as what the layout shows of it, key by key, with the
defaults of all else, and that is the configuration itself if the layout is complete; the text of
what is written loses nothing. -/
theorem a_configuration_reads_back_in_every_layout (c : ServeConfig)
    (hroot : Utf8.isValid c.files.root = true) :
    ServeConfig.ofJson c.toJson = .ok c ∧
    (∃ members, c.toJson = .object members ∧ ∀ key ∈ ServeConfig.keys,
      ∃ v, Holds members key.part key.name v ∧ key.meaning.means v (key.get c)) ∧
    Layout.write {} c = c.toJson ∧
      ∀ l : Layout,
        ServeConfig.ofJson (l.write c) = .ok (l.kept c) ∧
        (∀ key ∈ ServeConfig.keys,
          key.get (l.kept c) = if l.shows key then key.get c else key.initial) ∧
        (l.IsComplete → l.kept c = c) ∧ Json.parse? (l.write c).render = some (l.write c) := by
  refine ⟨?_, ⟨_, rfl, ServeConfig.holds_members hroot⟩, Layout.write_named c, fun l =>
    ⟨Layout.ofJson_write hroot, l.get_kept c, Layout.kept_of_isComplete,
      Json.parse?_render (l.isIntegral_write c)⟩⟩
  rw [← Layout.write_named, Layout.ofJson_write hroot,
    Layout.kept_of_isComplete Layout.isComplete_named]

/-- The largest numbers, characters that are escaped and a root with a letter of two bytes. -/
def extremeConfig : ServeConfig where
  listener := {
    host := "::"
    port := 65535
    bindRetryDelayMs := 18446744073709551615
    maxBindAttempts := some 4294967295 }
  files := { root := [0x2F, 0xC3, 0xA9], directoryListing := false }
  proxy := {
    userAgent := "\"\\\n"
    connectTimeoutSecs := 0
    readTimeoutSecs := 18446744073709551615
    maxRedirects := 18446744073709551615
    useEnvProxy := false }
  observability := { logLevel := "" }

/-- Three sections in an array, of which the first shows two of its four settings. -/
def endingEarly : Layout where
  whole := .listed 3
  listener := .listed 2
  proxy := .listed 5

theorem the_largest_numbers_read_back_and_an_early_end_gives_defaults :
    Utf8.isValid extremeConfig.files.root = true ∧
      ServeConfig.ofJson extremeConfig.toJson = .ok extremeConfig ∧
      ServeConfig.ofJson (endingEarly.write extremeConfig) = .ok { extremeConfig with
        listener := { host := "::", port := 65535 }
        observability := {} } := by
  have hroot : Utf8.isValid extremeConfig.files.root = true := by decide
  obtain ⟨hwhole, -, -, hevery⟩ := a_configuration_reads_back_in_every_layout extremeConfig hroot
  exact ⟨hroot, hwhole, (hevery endingEarly).1.trans rfl⟩

end IsoServer
