-- A configuration is read key by key. Each setting has the value at its own key, or its default if
-- the key is absent, whatever the order of the keys and whatever else the object holds; and of
-- several values that do not fit, the first one is reported.
import Mathlib
import IsoServer.Config.Format
import IsoServer.Proofs.Records

namespace IsoServer

namespace Config

/-! ## The keys -/

/-- A key of a section with its meaning, its default and the setting that it is for. -/
structure Key (α : Type) where
  part : String
  name : String
  {β : Type}
  meaning : Meaning β
  initial : β
  get : α → β

/-- A value stands at a key of a section, which is an object. -/
def Holds (members : List (String × Json)) (part name : String) (v : Json) : Prop :=
  ∃ fields, (part, .object fields) ∈ members ∧ (name, v) ∈ fields

end Config

open Config

namespace ServeConfig

/-- The keys of a configuration. -/
def keys : List (Key ServeConfig) := [
  ⟨"listener", "host", .text, "0.0.0.0", (·.listener.host)⟩,
  ⟨"listener", "port", .whole UInt16.toNat "u16", 8000, (·.listener.port)⟩,
  ⟨"listener", "bind_retry_delay_ms", .whole UInt64.toNat "u64", 2000,
    (·.listener.bindRetryDelayMs)⟩,
  ⟨"listener", "max_bind_attempts", .orNull (.whole UInt32.toNat "u32"), none,
    (·.listener.maxBindAttempts)⟩,
  ⟨"files", "root", .path, [0x2E], (·.files.root)⟩,
  ⟨"files", "directory_listing", .truth, true, (·.files.directoryListing)⟩,
  ⟨"proxy", "user_agent", .text, "curl/7.88.1", (·.proxy.userAgent)⟩,
  ⟨"proxy", "connect_timeout_secs", .whole UInt64.toNat "u64", 10, (·.proxy.connectTimeoutSecs)⟩,
  ⟨"proxy", "read_timeout_secs", .whole UInt64.toNat "u64", 30, (·.proxy.readTimeoutSecs)⟩,
  ⟨"proxy", "max_redirects", .whole UInt64.toNat "usize", 10, (·.proxy.maxRedirects)⟩,
  ⟨"proxy", "use_env_proxy", .truth, true, (·.proxy.useEnvProxy)⟩,
  ⟨"observability", "log_level", .text, "info", (·.observability.logLevel)⟩]

variable (members : List (String × Json))

/-- Every section that is present is an object, and no object has a key twice. -/
structure IsRegular : Prop where
  nodup : (members.map (·.1)).Nodup
  objects : ∀ key ∈ keys, ∀ v, (key.part, v) ∈ members →
    ∃ fields, v = .object fields ∧ (fields.map (·.1)).Nodup

/-- The value at every key that is present fits the key. -/
def Fits : Prop :=
  ∀ key ∈ keys, ∀ v, Holds members key.part key.name v → key.meaning.Fits v

/-- Every setting is what the value at its key means, or its default if the key is absent. -/
def IsReadFrom (c : ServeConfig) : Prop :=
  ∀ key ∈ keys, (∀ v, Holds members key.part key.name v → key.meaning.means v (key.get c)) ∧
    ((∀ v, ¬ Holds members key.part key.name v) → key.get c = key.initial)

/-- The objects differ only in the order of their keys and in keys that are not known, each at
either level. -/
inductive Rearranged : List (String × Json) → List (String × Json) → Prop
  | move {ms ms' : List (String × Json)} (h : ms.Perm ms') : Rearranged ms ms'
  | moveWithin {before after fields fields' : List (String × Json)} {part : String}
      (h : fields.Perm fields') :
      Rearranged (before ++ (part, .object fields) :: after)
        (before ++ (part, .object fields') :: after)
  | add {ms : List (String × Json)} {part : String} {v : Json} (h : ∀ key ∈ keys, key.part ≠ part) :
      Rearranged ms ((part, v) :: ms)
  | addWithin {before after fields : List (String × Json)} {part name : String} {v : Json}
      (h : ∀ key ∈ keys, key.part = part → key.name ≠ name) :
      Rearranged (before ++ (part, .object fields) :: after)
        (before ++ (part, .object ((name, v) :: fields)) :: after)
  | symm {ms ms' : List (String × Json)} (h : Rearranged ms ms') : Rearranged ms' ms
  | trans {ms ms' ms'' : List (String × Json)} (h : Rearranged ms ms') (h' : Rearranged ms' ms'') :
      Rearranged ms ms''

/-- A section without the keys that are not known. -/
def knownWithin (part : String) : Json → Json
  | .object fields =>
    .object (fields.filter fun field => keys.any fun key => key.part == part && key.name == field.1)
  | v => v

/-- A configuration without the keys that are not known, at either level. -/
def knownPart : List (String × Json) :=
  (members.filter fun m => keys.any (·.part == m.1)).map fun m => (m.1, knownWithin m.1 m.2)

end ServeConfig

namespace Config

/-! ## Sections -/

/-- Something to add to each setting of a list. -/
inductive Each {α : Type} (F : Setting α → Type*) : List (Setting α) → Type _
  | nil : Each F []
  | cons {s : Setting α} {settings : List (Setting α)} (here : F s) (rest : Each F settings) :
      Each F (s :: settings)

/-- A setting with what is added to it. -/
structure Entry {α : Type} (F : Setting α → Type*) extends Setting α where
  more : F toSetting

namespace Each

variable {α : Type} {F : Setting α → Type*} {settings : List (Setting α)}

def entries {settings : List (Setting α)} : Each F settings → List (Entry F)
  | nil => []
  | cons here rest => ⟨_, here⟩ :: rest.entries

theorem toSetting_entries (e : Each F settings) : e.entries.map Entry.toSetting = settings := by
  induction e with
  | nil => rfl
  | cons here rest ih => exact congrArg (_ :: ·) ih

theorem forall_settings_iff (e : Each F settings) {Q : Setting α → Prop} :
    (∀ s ∈ settings, Q s) ↔ ∀ entry ∈ e.entries, Q entry.toSetting := by
  rw [← List.forall_mem_map (f := Entry.toSetting), toSetting_entries]

theorem toSetting_mem (e : Each F settings) {entry : Entry F} (h : entry ∈ e.entries) :
    entry.toSetting ∈ settings := e.forall_settings_iff.mp (fun _ hs => hs) entry h

theorem getElem?_settings (e : Each F settings) {i : Nat} {entry : Entry F}
    (h : e.entries[i]? = some entry) : settings[i]? = some entry.toSetting := by
  rw [← e.toSetting_entries, List.getElem?_map, h]
  rfl

/-- The position of a name is that of its entry. -/
theorem idxOf_name (e : Each F settings) (hnames : (settings.map (·.name)).Nodup) {i : Nat}
    {entry : Entry F} (h : e.entries[i]? = some entry) :
    (e.entries.map (·.name)).idxOf entry.name = i := by
  have hsame : e.entries.map (·.name) = settings.map (·.name) := by
    rw [← congrArg (List.map (·.name)) e.toSetting_entries, List.map_map]
    rfl
  have hat : (e.entries.map (·.name))[i]? = some entry.name := by
    rw [List.getElem?_map, h]
    rfl
  obtain ⟨hi, hget⟩ := List.getElem?_eq_some_iff.mp hat
  rw [← hget]
  exact (hsame ▸ hnames).idxOf_getElem i hi

theorem exists_entry (e : Each F settings) {s : Setting α} (h : s ∈ settings) :
    ∃ entry ∈ e.entries, entry.toSetting = s := by
  rwa [← List.mem_map, toSetting_entries]

end Each

/-- What the values of a setting mean. -/
structure Meant {α : Type} (s : Setting α) where
  meaning : Meaning s.β
  follows : s.kind.Follows meaning

/-- What a setting that is a section consists of: a record and the values that it starts from. -/
structure Made {α : Type} (s : Setting α) where
  title : String
  record : Record s.β
  initial : s.β
  kind_eq : s.kind = .record title record initial
  meanings : Each Meant record.settings

/-- A setting whose values have a meaning. -/
abbrev Slot (α : Type) := Entry (@Meant α)

/-- A setting that is a record of slots. -/
abbrev Section (α : Type) := Entry (@Made α)

namespace Section

variable {α : Type} (s : Section α)

def record : Record s.β := s.more.record

def initial : s.β := s.more.initial

def slots : List (Slot s.β) := s.more.meanings.entries

def key (slot : Slot s.β) : Key α where
  part := s.name
  name := slot.name
  meaning := slot.more.meaning
  initial := slot.get s.initial
  get x := slot.get (s.get x)

theorem read_object (fields : List (String × Json)) :
    s.kind.read (.object fields) = readMembers s.record.settings fields s.initial := by
  rw [s.more.kind_eq]
  rfl

theorem write_eq (x : s.β) : s.kind.write x = .object (s.record.members x) := by
  rw [s.more.kind_eq]
  rfl

theorem forall_settings_iff {s : Section α} {Q : Setting s.β → Prop} :
    (∀ p ∈ s.record.settings, Q p) ↔ ∀ slot ∈ s.slots, Q slot.toSetting :=
  s.more.meanings.forall_settings_iff

variable {s} {members fields : List (String × Json)}

/-- In an object that has no key twice, what a section holds is what its one object has. -/
theorem holds_iff_mem (hnodup : (members.map (·.1)).Nodup) {part : String}
    (hpart : (part, .object fields) ∈ members) {name : String} {v : Json} :
    Holds members part name v ↔ (name, v) ∈ fields := by
  refine ⟨fun ⟨fields', hpart', hv⟩ => ?_, fun hv => ⟨fields, hpart, hv⟩⟩
  have hsame := List.inj_on_of_nodup_map hnodup hpart hpart' rfl
  cases hsame
  exact hv

theorem readable_iff :
    s.record.Readable fields ↔
      ∀ slot ∈ s.slots, ∀ v, (slot.name, v) ∈ fields → slot.more.meaning.Fits v := by
  rw [Record.Readable, forall_settings_iff]
  exact forall₄_congr fun slot _ v _ => slot.more.follows.exists_ok_iff

/-- A section of an object that has no key twice is read from the values that it holds. -/
theorem gives_iff (hnodup : (members.map (·.1)).Nodup)
    (hobject : ∀ v, (s.name, v) ∈ members →
      ∃ fields, v = .object fields ∧ (fields.map (·.1)).Nodup)
    {x c : α} (hx : s.get x = s.initial) :
    Record.Gives members s.toSetting x c ↔
      ∀ slot ∈ s.slots,
        (∀ v, Holds members s.name slot.name v → slot.more.meaning.means v (slot.get (s.get c))) ∧
          ((∀ v, ¬ Holds members s.name slot.name v) →
            slot.get (s.get c) = slot.get s.initial) := by
  by_cases hpresent : ∃ v, (s.name, v) ∈ members
  · obtain ⟨v, hv⟩ := hpresent
    obtain ⟨fields, rfl, hfields⟩ := hobject v hv
    have honly (w : Json) : (s.name, w) ∈ members ↔ w = .object fields :=
      ⟨fun hw => congrArg Prod.snd (List.inj_on_of_nodup_map hnodup hw hv rfl), fun hw => hw ▸ hv⟩
    have hread : Record.Gives members s.toSetting x c ↔
        readMembers s.record.settings fields s.initial = .ok (s.get c) := by
      simp [Record.Gives, honly, read_object]
    rw [hread, Record.readMembers_eq_ok_iff hfields, forall_settings_iff]
    have hmeans (slot : Slot s.β) := slot.more.follows.ok_iff
    simp only [Record.Gives, holds_iff_mem hnodup hv, hmeans]
  · have habsent (v : Json) : (s.name, v) ∉ members := fun hv => hpresent ⟨v, hv⟩
    have hnothing (name : String) (v : Json) : ¬ Holds members s.name name v := by
      rintro ⟨fields, hv, -⟩
      exact habsent _ hv
    have hread : Record.Gives members s.toSetting x c ↔ s.get c = s.initial := by
      simp [Record.Gives, habsent, hx]
    simp only [hread, hnothing, false_imp_iff, forall_const, true_and, not_false_eq_true]
    exact ⟨fun h slot _ => by rw [h], fun h => s.record.complete _ _ (forall_settings_iff.mpr h)⟩

end Section

end Config

/-! ## The sections of a configuration -/

def ListenerConfig.meanings : Each Meant record.settings :=
  .cons ⟨_, Kind.follows_text⟩ <| .cons ⟨_, Kind.follows_word16⟩ <|
  .cons ⟨_, Kind.follows_word64⟩ <|
  .cons ⟨_, Kind.follows_optional Kind.follows_word32 fun ⟨_, h⟩ => Json.noConfusion h⟩ .nil

def FilesConfig.meanings : Each Meant record.settings :=
  .cons ⟨_, Kind.follows_path⟩ <| .cons ⟨_, Kind.follows_bool⟩ .nil

def ProxyConfig.meanings : Each Meant record.settings :=
  .cons ⟨_, Kind.follows_text⟩ <| .cons ⟨_, Kind.follows_word64⟩ <|
  .cons ⟨_, Kind.follows_word64⟩ <| .cons ⟨_, Kind.follows_count⟩ <|
  .cons ⟨_, Kind.follows_bool⟩ .nil

def LogConfig.meanings : Each Meant record.settings := .cons ⟨_, Kind.follows_text⟩ .nil

namespace ServeConfig

/-- How the sections are made. -/
def parts : Each Made record.settings :=
  .cons ⟨_, _, _, rfl, ListenerConfig.meanings⟩ <| .cons ⟨_, _, _, rfl, FilesConfig.meanings⟩ <|
  .cons ⟨_, _, _, rfl, ProxyConfig.meanings⟩ <| .cons ⟨_, _, _, rfl, LogConfig.meanings⟩ .nil

def sections : List (Section ServeConfig) := parts.entries

theorem ofJson_object (members : List (String × Json)) :
    ofJson (.object members) = readMembers record.settings members {} := rfl

/-- The keys are those of the slots of all sections. -/
theorem keys_eq : keys = sections.flatMap fun s => s.slots.map s.key := rfl

theorem mem_keys_iff {key : Key ServeConfig} :
    key ∈ keys ↔ ∃ s ∈ sections, ∃ slot ∈ s.slots, s.key slot = key := by
  simp only [keys_eq, List.mem_flatMap, List.mem_map]

theorem forall_keys_iff {Q : Key ServeConfig → Prop} :
    (∀ key ∈ keys, Q key) ↔ ∀ s ∈ sections, ∀ slot ∈ s.slots, Q (s.key slot) := by
  simp only [keys_eq, List.forall_mem_flatMap, List.forall_mem_map]

theorem exists_slot {s : Section ServeConfig} (hs : s ∈ sections) : ∃ slot, slot ∈ s.slots := by
  refine List.exists_mem_of_ne_nil _ ?_
  revert s
  simp [sections, parts, Each.entries, Section.slots, ListenerConfig.meanings,
    FilesConfig.meanings, ProxyConfig.meanings, LogConfig.meanings]

theorem eq_of_name_eq {s s' : Section ServeConfig} (hs : s ∈ sections) (hs' : s' ∈ sections)
    (h : s.name = s'.name) : s = s' := by
  have hnames : (sections.map (·.name)).Nodup := by decide
  exact List.inj_on_of_nodup_map hnames hs hs' h

/-- A configuration has nothing but the settings of its keys. -/
theorem eq_of_keys {c c' : ServeConfig} (h : ∀ key ∈ keys, key.get c = key.get c') : c = c' := by
  refine record.complete _ _ (parts.forall_settings_iff.mpr fun (s : Section ServeConfig) hs => ?_)
  exact s.record.complete _ _ (Section.forall_settings_iff.mpr (forall_keys_iff.mp h s hs))

theorem parts_eq : (keys.map (·.part)).eraseDups = sections.map (·.name) := by decide

theorem names_eq {s : Section ServeConfig} (hs : s ∈ sections) :
    (keys.filter (·.part == s.name)).map (·.name) = s.slots.map (·.name) := by
  revert s
  simp [sections, parts, Each.entries, Section.slots, ListenerConfig.meanings,
    FilesConfig.meanings, ProxyConfig.meanings, LogConfig.meanings, keys]

theorem get_default {s : Section ServeConfig} (hs : s ∈ sections) : s.get {} = s.initial := by
  revert s
  simp [sections, parts, Each.entries, Section.initial]

variable {members : List (String × Json)}

theorem IsRegular.object (h : IsRegular members) {s : Section ServeConfig} (hs : s ∈ sections)
    {v : Json} (hv : (s.name, v) ∈ members) :
    ∃ fields, v = .object fields ∧ (fields.map (·.1)).Nodup := by
  obtain ⟨slot, hslot⟩ := exists_slot hs
  exact forall_keys_iff.mp h.objects s hs slot hslot v hv

/-- A regular object is read as the configuration that has all its settings from it. -/
theorem ofJson_eq_ok_iff (h : IsRegular members) {c : ServeConfig} :
    ofJson (.object members) = .ok c ↔ IsReadFrom members c := by
  rw [ofJson_object, Record.readMembers_eq_ok_iff h.nodup, IsReadFrom, forall_keys_iff,
    parts.forall_settings_iff]
  exact forall₂_congr fun s hs =>
    Section.gives_iff h.nodup (fun v hv => h.object hs hv) (get_default hs)

/-- Sections that are objects can be read if all that they hold fits. -/
theorem readable_of_fits
    (hobject : ∀ s ∈ sections, ∀ v, (s.name, v) ∈ members → ∃ fields, v = .object fields)
    (h : Fits members) : record.Readable members := by
  refine parts.forall_settings_iff.mpr fun (s : Section ServeConfig) hs v hv => ?_
  obtain ⟨fields, rfl⟩ := hobject s hs v hv
  rw [Section.read_object]
  refine Record.exists_readMembers (Section.readable_iff.mpr fun slot hslot w hw => ?_) s.initial
  exact forall_keys_iff.mp h s hs slot hslot w ⟨fields, hv, hw⟩

theorem exists_ofJson_iff (h : IsRegular members) :
    (∃ c, ofJson (.object members) = .ok c) ↔ Fits members := by
  constructor
  · rintro ⟨c, hc⟩ key hkey v hv
    exact ⟨key.get c, ((ofJson_eq_ok_iff h).mp hc key hkey).1 v hv⟩
  · intro hfits
    refine Record.exists_readMembers (readable_of_fits (fun s hs v hv => ?_) hfits) _
    obtain ⟨fields, hv, -⟩ := h.object hs hv
    exact ⟨fields, hv⟩

/-! ## Order and unknown keys -/

theorem holds_append_cons {before after fields : List (String × Json)} {part part' name : String}
    {v : Json} :
    Holds (before ++ (part, .object fields) :: after) part' name v ↔
      Holds before part' name v ∨ (part' = part ∧ (name, v) ∈ fields) ∨
        Holds after part' name v := by
  simp [Holds, or_and_right, exists_or, and_assoc]

/-- A change of order or of unknown keys moves no value to or from a known key. -/
theorem Rearranged.holds_iff {ms ms' : List (String × Json)} (h : Rearranged ms ms') :
    ∀ key ∈ keys, ∀ v, Holds ms key.part key.name v ↔ Holds ms' key.part key.name v := by
  induction h with
  | move h => exact fun key _ v => exists_congr fun fields => and_congr_left' h.mem_iff
  | @moveWithin before after fields fields' part h =>
    intro key hkey v
    rw [holds_append_cons, holds_append_cons, h.mem_iff]
  | @add ms part v h =>
    intro key hkey w
    simp [Holds, h key hkey]
  | @addWithin before after fields part name v h =>
    intro key hkey w
    have hfields (hpart : key.part = part) :
        (key.name, w) ∈ fields ↔ (key.name, w) ∈ (name, v) :: fields := by
      simp [h key hkey hpart]
    rw [holds_append_cons, holds_append_cons, and_congr_right hfields]
  | symm _ ih => exact fun key hkey v => (ih key hkey v).symm
  | trans _ _ ih ih' => exact fun key hkey v => (ih key hkey v).trans (ih' key hkey v)

theorem ofJson_rearranged {members' : List (String × Json)} (h : IsRegular members)
    (h' : IsRegular members') (hmoved : Rearranged members members') (c : ServeConfig) :
    ofJson (.object members) = .ok c ↔ ofJson (.object members') = .ok c := by
  rw [ofJson_eq_ok_iff h, ofJson_eq_ok_iff h']
  refine forall₂_congr fun key hkey => ?_
  simp only [hmoved.holds_iff key hkey]

/-- Unknown keys change nothing, not even what is reported. -/
theorem ofJson_knownPart (members : List (String × Json)) :
    ofJson (.object (knownPart members)) = ofJson (.object members) := by
  rw [ofJson_object, ofJson_object, knownPart, Record.readMembers_map,
    Record.readMembers_filter fun name => keys.any (·.part == name)]
  · refine parts.forall_settings_iff.mpr fun (s : Section ServeConfig) hs => ?_
    obtain ⟨slot, hslot⟩ := exists_slot hs
    exact List.any_eq_true.mpr ⟨s.key slot, mem_keys_iff.mpr ⟨s, hs, slot, hslot, rfl⟩, by
      simp [Section.key]⟩
  · refine parts.forall_settings_iff.mpr fun (s : Section ServeConfig) hs v => ?_
    cases v with
    | object fields =>
      rw [knownWithin, Section.read_object, Section.read_object]
      refine Record.readMembers_filter
        (fun name => keys.any fun key => key.part == s.name && key.name == name) ?_ fields s.initial
      refine Section.forall_settings_iff.mpr fun slot hslot => ?_
      exact List.any_eq_true.mpr ⟨s.key slot, mem_keys_iff.mpr ⟨s, hs, slot, hslot, rfl⟩, by
        simp [Section.key]⟩
    | _ => rfl

/-! ## The first value that does not fit -/

/-- The first value that does not fit its key, with all that stands before it. -/
structure Offence where
  before : List (String × Json)
  key : Key ServeConfig
  inner : List (String × Json)
  value : Json
  key_mem : key ∈ keys
  wrong : ¬ key.meaning.Fits value
  first : Fits (before ++ [(key.part, .object inner)])

namespace Offence

variable (o : Offence)

/-- The object with the offence, and what follows it in its section and behind that. -/
def followedBy (inner after : List (String × Json)) : List (String × Json) :=
  o.before ++ (o.key.part, .object (o.inner ++ (o.key.name, o.value) :: inner)) :: after

/-- What is reported. -/
def report : ReadError := o.key.meaning.complaint o.value

end Offence

theorem Fits.of_subset {members' : List (String × Json)} (h : Fits members')
    (hsub : members ⊆ members') : Fits members :=
  fun key hkey v ⟨fields, hpart, hv⟩ => h key hkey v ⟨fields, hsub hpart, hv⟩

/-- The first value that does not fit is reported, whatever follows it. -/
theorem ofJson_followedBy {o : Offence} {inner after : List (String × Json)}
    (h : IsRegular (o.followedBy inner after)) (inner' after' : List (String × Json)) :
    ofJson (.object (o.followedBy inner' after')) = .error o.report := by
  obtain ⟨before, key, inside, value, hkey, hwrong, hfirst⟩ := o
  obtain ⟨s, hs, slot, hslot, rfl⟩ := mem_keys_iff.mp hkey
  have hbefore : record.Readable before := by
    refine readable_of_fits (fun s' hs' v hv => ?_)
      (hfirst.of_subset (List.subset_append_left _ _))
    obtain ⟨fields, hfields, -⟩ := h.object hs' (List.mem_append_left _ hv)
    exact ⟨fields, hfields⟩
  have hinside : s.record.Readable inside := by
    refine Section.readable_iff.mpr fun slot' hslot' v hv => ?_
    exact forall_keys_iff.mp hfirst s hs slot' hslot' v
      ⟨inside, List.mem_append_right _ List.mem_cons_self, hv⟩
  have hread : s.kind.read (.object (inside ++ (slot.name, value) :: inner')) =
      .error (slot.more.meaning.complaint value) := by
    rw [Section.read_object]
    exact Record.readMembers_first hinside (s.more.meanings.toSetting_mem hslot)
      (slot.more.follows.error_eq value hwrong) inner' s.initial
  exact Record.readMembers_first hbefore (parts.toSetting_mem hs) hread after' {}

/-- What is reported of a regular object is the first value that does not fit. -/
theorem exists_offence (h : IsRegular members) {e : ReadError}
    (he : ofJson (.object members) = .error e) :
    ∃ (o : Offence) (inner after : List (String × Json)),
      members = o.followedBy inner after ∧ e = o.report := by
  rw [ofJson_object] at he
  obtain ⟨before, p, v, after, rfl, hp, hv, hbefore⟩ := Record.exists_of_readMembers_error he
  obtain ⟨(s : Section ServeConfig), hs, rfl⟩ := parts.exists_entry hp
  obtain ⟨fields, rfl, hfields⟩ := h.object hs (List.mem_append_right _ List.mem_cons_self)
  obtain ⟨inside, q, value, inner, rfl, hq, hvalue, hinside⟩ :=
    Record.exists_of_readMembers_error ((Section.read_object s fields).symm.trans hv)
  obtain ⟨slot, hslot, rfl⟩ := s.more.meanings.exists_entry hq
  obtain ⟨hwrong, rfl⟩ := slot.more.follows.of_error hvalue
  refine ⟨⟨before, s.key slot, inside, value, mem_keys_iff.mpr ⟨s, hs, slot, hslot, rfl⟩, hwrong,
    ?_⟩, inner, after, rfl, rfl⟩
  refine forall_keys_iff.mpr fun s' hs' slot' hslot' w ⟨fields, hpart, hw⟩ => ?_
  rcases List.mem_append.mp hpart with hpart | hpart
  · -- a section in front was read, so all that it holds fits
    obtain ⟨y, hy⟩ := hbefore s'.toSetting (parts.toSetting_mem hs') _ hpart
    rw [Section.read_object] at hy
    obtain ⟨_, hsame, hnodup⟩ := h.object hs' (List.mem_append_left _ hpart)
    cases hsame
    have hreadable : s'.record.Readable fields := Record.readable_of_readMembers hnodup hy
    exact Section.readable_iff.mp hreadable slot' hslot' w hw
  · rw [List.mem_singleton] at hpart
    obtain ⟨hname, hfields⟩ := Prod.mk.inj hpart
    cases hfields
    have hsame : s' = s := eq_of_name_eq hs' hs hname
    subst hsame
    exact Section.readable_iff.mp hinside slot' hslot' w hw

end ServeConfig

/-! ## The law of the keys -/

/-- An object is read if and only if every value at a known key fits it, and then each setting is
what stands at its key, or its default. Neither the order of the keys nor unknown keys matter to the
configuration, and unknown keys do not matter to what is reported. That is the first value that does
not fit, whatever follows it. -/
theorem a_configuration_is_read_key_by_key (members : List (String × Json))
    (h : ServeConfig.IsRegular members) :
    ((∃ c, ServeConfig.ofJson (.object members) = .ok c) ↔ ServeConfig.Fits members) ∧
    (∀ c, ServeConfig.ofJson (.object members) = .ok c ↔ ServeConfig.IsReadFrom members c) ∧
    (∀ members', ServeConfig.IsRegular members' → ServeConfig.Rearranged members members' →
      ∀ c, ServeConfig.ofJson (.object members) = .ok c ↔
        ServeConfig.ofJson (.object members') = .ok c) ∧
    ServeConfig.ofJson (.object (ServeConfig.knownPart members)) =
      ServeConfig.ofJson (.object members) ∧
    (∀ e, ServeConfig.ofJson (.object members) = .error e ↔
      ∃ (o : ServeConfig.Offence) (inner after : List (String × Json)),
        members = o.followedBy inner after ∧ e = o.report) ∧
    ∀ (o : ServeConfig.Offence) (inner after : List (String × Json)),
      members = o.followedBy inner after →
        ∀ inner' after', ServeConfig.ofJson (.object (o.followedBy inner' after')) =
          .error o.report := by
  refine ⟨ServeConfig.exists_ofJson_iff h, fun c => ServeConfig.ofJson_eq_ok_iff h,
    fun members' h' hmoved => ServeConfig.ofJson_rearranged h h' hmoved,
    ServeConfig.ofJson_knownPart members, fun e => ⟨ServeConfig.exists_offence h, ?_⟩, ?_⟩
  · rintro ⟨o, inner, after, rfl, rfl⟩
    exact ServeConfig.ofJson_followedBy h inner after
  · rintro o inner after rfl
    exact ServeConfig.ofJson_followedBy h

/-- Two sections with unknown keys beside them and in them. -/
def scatteredMembers : List (String × Json) := [
  ("note", .array [.null]),
  ("proxy", .object [("colour", .text "red"), ("max_redirects", .integer 3)]),
  ("listener", .object [("max_bind_attempts", .null), ("port", .integer 65535)])]

/-- The same settings in order and alone. -/
def tidyMembers : List (String × Json) := [
  ("listener", .object [("port", .integer 65535), ("max_bind_attempts", .null)]),
  ("proxy", .object [("max_redirects", .integer 3)])]

/-- A port that is too large by one, behind a host that fits. -/
def largePort : ServeConfig.Offence where
  before := [("proxy", .object [("max_redirects", .integer 3)])]
  key := ⟨"listener", "port", .whole UInt16.toNat "u16", 8000, (·.listener.port)⟩
  inner := [("host", .text "::")]
  value := .integer 65536
  key_mem := by simp [ServeConfig.keys]
  wrong := by
    rintro ⟨n, hn⟩
    have hsize : (65536 : Int) = n.toNat := Json.integer.inj hn
    have hlt := n.toNat_lt
    omega
  first := by
    have hthree : (Meaning.whole UInt64.toNat "usize").Fits (.integer 3) := ⟨3, rfl⟩
    have hhost : Meaning.text.Fits (.text "::") := ⟨"::", rfl⟩
    simp [ServeConfig.Fits, ServeConfig.keys, Holds, hthree, hhost]

theorem scattered_keys_are_found_and_a_large_port_is_reported :
    ServeConfig.IsRegular tidyMembers ∧ ServeConfig.IsRegular scatteredMembers ∧
    ServeConfig.Rearranged tidyMembers scatteredMembers ∧
    ServeConfig.ofJson (.object scatteredMembers) =
      .ok { listener := { port := 65535 }, proxy := { maxRedirects := 3 } } ∧
    ServeConfig.IsRegular (largePort.followedBy [] []) ∧
    ∀ inner after, ServeConfig.ofJson (.object (largePort.followedBy inner after)) =
      .error (.invalidValue 65536 "u16") := by
  have htidy : ServeConfig.IsRegular tidyMembers :=
    ⟨by decide, by simp [ServeConfig.keys, tidyMembers]⟩
  have hscattered : ServeConfig.IsRegular scatteredMembers :=
    ⟨by decide, by simp [ServeConfig.keys, scatteredMembers]⟩
  have hmoved : ServeConfig.Rearranged tidyMembers scatteredMembers := by
    refine .trans (@ServeConfig.Rearranged.moveWithin [] _ _ _ _ (.swap _ _ _)) ?_
    refine .trans (@ServeConfig.Rearranged.addWithin [_] _ _ _ "colour" (.text "red") ?_) ?_
    · simp [ServeConfig.keys]
    refine .trans (.move (.swap _ _ _)) ?_
    exact .add (by simp [ServeConfig.keys])
  have hlarge : ServeConfig.IsRegular (largePort.followedBy [] []) :=
    ⟨by decide, by simp [ServeConfig.keys, largePort, ServeConfig.Offence.followedBy]⟩
  obtain ⟨-, -, hany, -⟩ := a_configuration_is_read_key_by_key tidyMembers htidy
  obtain ⟨-, -, -, -, -, hreport⟩ :=
    a_configuration_is_read_key_by_key (largePort.followedBy [] []) hlarge
  exact ⟨htidy, hscattered, hmoved, (hany scatteredMembers hscattered hmoved _).mp rfl, hlarge,
    hreport largePort [] [] rfl⟩

end IsoServer
