-- The names of a path. A path cut at its slashes gives its names, a path with one more name
-- has that name behind the others, and a request path only ever adds names that lead
-- downwards.
import Mathlib
import IsoServer.Files.Resolve

namespace IsoServer

/-! ## Cutting at a separator -/

namespace Bytes

theorem splitOn_ne_nil (sep : UInt8) (s : Bytes) : splitOn sep s ≠ [] := by
  cases s with
  | nil => simp [splitOn]
  | cons b rest =>
    unfold splitOn
    split
    · simp
    · split <;> simp

theorem splitOn_of_not_mem {sep : UInt8} {s : Bytes} (h : sep ∉ s) : splitOn sep s = [s] := by
  induction s with
  | nil => rfl
  | cons b rest ih =>
    simp only [List.mem_cons, not_or] at h
    obtain ⟨hb, hrest⟩ := h
    unfold splitOn
    rw [if_neg (by simpa using Ne.symm hb), ih hrest]

theorem splitOn_append (sep : UInt8) (s t : Bytes) :
    splitOn sep (s ++ sep :: t) = splitOn sep s ++ splitOn sep t := by
  induction s with
  | nil => simp [splitOn]
  | cons b rest ih =>
    rw [List.cons_append, splitOn, splitOn, ih]
    split
    · rfl
    · cases h : splitOn sep rest with
      | nil => exact absurd h (splitOn_ne_nil sep rest)
      | cons piece pieces => rfl

theorem not_mem_of_mem_splitOn {sep : UInt8} {s piece : Bytes} (h : piece ∈ splitOn sep s) :
    sep ∉ piece := by
  induction s generalizing piece with
  | nil => simp_all [splitOn]
  | cons b rest ih =>
    unfold splitOn at h
    split at h
    · rcases List.mem_cons.mp h with rfl | h
      · simp
      · exact ih h
    · rename_i hb
      cases hsplit : splitOn sep rest with
      | nil => exact absurd hsplit (splitOn_ne_nil sep rest)
      | cons first pieces =>
        rw [hsplit] at h ih
        rcases List.mem_cons.mp h with rfl | h
        · have hfirst := ih (List.mem_cons_self ..)
          simp only [beq_iff_eq] at hb
          simpa [Ne.symm hb] using hfirst
        · exact ih (List.mem_cons_of_mem _ h)

theorem endsWith_iff {s : Bytes} {b : UInt8} :
    endsWith s b = true ↔ ∃ front, s = front ++ [b] := by
  simp [endsWith, List.getLast?_eq_some_iff]

theorem endsWith_append {s t : Bytes} {b : UInt8} (ht : t ≠ []) (hb : b ∉ t) :
    endsWith (s ++ t) b = false := by
  cases h : endsWith (s ++ t) b with
  | false => rfl
  | true =>
    obtain ⟨front, hfront⟩ := endsWith_iff.mp h
    have hlast := congrArg List.getLast? hfront
    rw [List.getLast?_append_of_ne_nil _ ht, List.getLast?_concat] at hlast
    exact absurd (List.mem_of_getLast? hlast) hb

end Bytes

/-! ## Names of directory members -/

namespace FileSystem

/-- A name that a member of a directory can have: one or more bytes without a slash, and not one
of the two names by which a directory calls itself and the one above it. -/
structure IsName (name : Bytes) : Prop where
  nonempty : name ≠ []
  no_slash : 0x2F ∉ name
  not_dot : name ≠ dot
  not_dotDot : name ≠ dotDot

/-- The names of a path, with no regard to a slash at its end. -/
def partsOf (path : Bytes) : List Bytes := (Bytes.splitOn 0x2F path).filter (!·.isEmpty)

theorem namesOf_eq (path : Bytes) :
    namesOf path = if Bytes.endsWith path 0x2F then partsOf path ++ [[]] else partsOf path := rfl

theorem partsOf_append (s t : Bytes) : partsOf (s ++ 0x2F :: t) = partsOf s ++ partsOf t := by
  simp [partsOf, Bytes.splitOn_append]

theorem partsOf_name {name : Bytes} (h : IsName name) : partsOf name = [name] := by
  unfold partsOf
  rw [Bytes.splitOn_of_not_mem h.no_slash]
  simp [h.nonempty]

/-! ## A path with one more name -/

theorem partsOf_child (path : Bytes) {name : Bytes} (h : IsName name) :
    partsOf (child path name) = partsOf path ++ [name] := by
  unfold child
  split
  · rename_i hempty
    rw [List.isEmpty_iff.mp hempty, partsOf_name h]
    rfl
  · split
    · rename_i hslash
      obtain ⟨front, rfl⟩ := Bytes.endsWith_iff.mp hslash
      rw [List.append_assoc, List.singleton_append, partsOf_append, partsOf_append,
        partsOf_name h]
      simp [partsOf, Bytes.splitOn]
    · rw [partsOf_append, partsOf_name h]

theorem endsWith_child (path : Bytes) {name : Bytes} (h : IsName name) :
    Bytes.endsWith (child path name) 0x2F = false := by
  unfold child
  split
  · exact Bytes.endsWith_append (s := []) h.nonempty h.no_slash
  · split
    · exact Bytes.endsWith_append h.nonempty h.no_slash
    · rw [List.append_cons]
      exact Bytes.endsWith_append h.nonempty h.no_slash

theorem isAbsolute_child (path : Bytes) {name : Bytes} (h : IsName name) :
    isAbsolute (child path name) = isAbsolute path := by
  unfold child isAbsolute
  cases path with
  | nil =>
    cases name with
    | nil => exact absurd rfl h.nonempty
    | cons b rest =>
      have hb : b ≠ 0x2F := fun he => h.no_slash (he ▸ List.mem_cons_self ..)
      simp [hb]
  | cons b rest =>
    rw [if_neg (by simp)]
    split <;> rfl

end FileSystem

/-! ## A path with more names -/

namespace Files

open FileSystem

theorem extend_concat (root : Bytes) (names : List Bytes) (name : Bytes) :
    extend root (names ++ [name]) = child (extend root names) name := by
  simp [extend]

theorem isAbsolute_extend (root : Bytes) {names : List Bytes} (h : ∀ name ∈ names, IsName name) :
    isAbsolute (extend root names) = isAbsolute root := by
  induction names using List.reverseRecOn with
  | nil => rfl
  | append_singleton names name ih =>
    rw [extend_concat, isAbsolute_child _ (h name (by simp))]
    exact ih fun n hn => h n (List.mem_append_left _ hn)

theorem partsOf_extend (root : Bytes) {names : List Bytes} (h : ∀ name ∈ names, IsName name) :
    partsOf (extend root names) = partsOf root ++ names := by
  induction names using List.reverseRecOn with
  | nil => simp [extend]
  | append_singleton names name ih =>
    rw [extend_concat, partsOf_child _ (h name (by simp)),
      ih fun n hn => h n (List.mem_append_left _ hn), List.append_assoc]

/-- The names of a longer path are those of the root, and then the new ones. A slash behind the
root asks for nothing more once a name follows it. -/
theorem namesOf_extend (root : Bytes) {names : List Bytes} (h : ∀ name ∈ names, IsName name)
    (hne : names ≠ []) : namesOf (extend root names) = partsOf root ++ names := by
  obtain ⟨front, last, rfl⟩ := List.eq_nil_or_concat names |>.resolve_left hne
  rw [List.concat_eq_append] at h ⊢
  rw [namesOf_eq, partsOf_extend root h, extend_concat,
    endsWith_child _ (h last (by simp)), if_neg (by simp)]

/-! ## What a request path adds -/

theorem isName_of_names? {s : Bytes} {names : List Bytes} (h : names? s = some names) :
    ∀ name ∈ names, IsName name := by
  unfold names? at h
  simp only at h
  split at h
  · cases h
  · rename_i hup
    cases h
    intro name hname
    have hplain := hname
    simp only [plainNames, List.mem_filter, Bool.and_eq_true, Bool.not_eq_true',
      List.isEmpty_eq_false_iff, bne_iff_ne] at hplain
    obtain ⟨hpiece, hempty, hdot⟩ := hplain
    refine ⟨hempty, Bytes.not_mem_of_mem_splitOn hpiece, hdot, ?_⟩
    rintro rfl
    exact hup (List.contains_iff_mem.mpr hname)

/-- What a listing is asked for is the root with names that lead downwards. -/
theorem resolve_eq_extend {root path dir : Bytes} (h : resolve root path = some dir) :
    ∃ names, (∀ name ∈ names, IsName name) ∧ dir = extend root names := by
  unfold resolve at h
  simp only at h
  split at h
  · cases h
  · obtain ⟨names, hnames, rfl⟩ := Option.map_eq_some_iff.mp h
    exact ⟨names, isName_of_names? hnames, rfl⟩

/-- What the file service is asked for is the root with names that lead downwards. -/
theorem servedPath_eq_extend {root path file : Bytes} (h : servedPath root path = some file) :
    ∃ names, (∀ name ∈ names, IsName name) ∧ file = extend root names := by
  unfold servedPath at h
  simp only at h
  split at h
  · cases h
  · obtain ⟨names, hnames, rfl⟩ := Option.map_eq_some_iff.mp h
    exact ⟨names, isName_of_names? hnames, rfl⟩

end Files

end IsoServer
