-- The way of a listing from a request path to a directory. Escapes are undone once, and the text
-- that comes of it is cut at its slashes: the pieces are the names to go down, but for empty pieces
-- and single dots, and a piece of two dots leads nowhere. Taking the path apart into components,
-- and putting these behind the root one by one, comes to the same.
import Mathlib
import IsoServer.Proofs.Characters
import IsoServer.Proofs.Resolution

namespace IsoServer

/-! ## Undoing escapes once -/

namespace Percent

/-- A byte string starts with an escape. -/
def StartsEscape (s : Bytes) : Prop :=
  ∃ h l rest, s = 0x25 :: h :: l :: rest ∧ Bytes.hexValue? h ≠ none ∧ Bytes.hexValue? l ≠ none

/-- Escapes are undone from the front, each of them once; every byte that does not start an escape
stays as it is. -/
inductive Undone : Bytes → Bytes → Prop
  | nil : Undone [] []
  | escape {h l : UInt8} {hi lo : Nat} {rest t : Bytes} : Bytes.hexValue? h = some hi →
      Bytes.hexValue? l = some lo → Undone rest t →
      Undone (0x25 :: h :: l :: rest) (UInt8.ofNat (hi * 16 + lo) :: t)
  | plain {b : UInt8} {rest t : Bytes} : ¬ StartsEscape (b :: rest) → Undone rest t →
      Undone (b :: rest) (b :: t)

theorem decode_of_not_startsEscape {b : UInt8} {rest : Bytes} (h : ¬ StartsEscape (b :: rest)) :
    decode (b :: rest) = b :: decode rest := by
  by_cases hb : b = 0x25
  · subst hb
    rcases rest with _ | ⟨h₁, _ | ⟨h₂, rest⟩⟩
    · simp [decode]
    · rw [decode]
      rfl
    · rw [decode]
      cases hx : Bytes.hexValue? h₁ with
      | none => simp
      | some hi =>
        cases hy : Bytes.hexValue? h₂ with
        | none => simp
        | some lo => exact absurd ⟨h₁, h₂, rest, rfl, by simp [hx], by simp [hy]⟩ h
  · exact decode_cons_of_ne hb rest

theorem Undone.eq_decode {s t : Bytes} (h : Undone s t) : t = decode s := by
  induction h with
  | nil => rfl
  | escape hh hl _ ih => rw [decode_escape hh hl, ih]
  | plain hplain _ ih => rw [decode_of_not_startsEscape hplain, ih]

theorem undone_decode (s : Bytes) : Undone s (decode s) := by
  -- on the length: an escape takes three bytes off the front, anything else one
  induction hn : s.length using Nat.strong_induction_on generalizing s with
  | _ n ih =>
    subst hn
    by_cases hescape : StartsEscape s
    · obtain ⟨h, l, rest, rfl, hh, hl⟩ := hescape
      obtain ⟨hi, hhi⟩ := Option.ne_none_iff_exists'.mp hh
      obtain ⟨lo, hlo⟩ := Option.ne_none_iff_exists'.mp hl
      rw [decode_escape hhi hlo]
      refine .escape hhi hlo (ih rest.length ?_ rest rfl)
      simp only [List.length_cons]
      omega
    · cases s with
      | nil => exact .nil
      | cons b rest =>
        rw [decode_of_not_startsEscape hescape]
        exact .plain hescape (ih rest.length (by simp) rest rfl)

end Percent

/-! ## Pieces of a path -/

namespace Bytes

/-- Cutting at a separator is what the library calls splitting. -/
theorem splitOn_eq_list (sep : UInt8) (s : Bytes) : splitOn sep s = List.splitOn sep s := by
  unfold List.splitOn
  induction s with
  | nil => rfl
  | cons b rest ih =>
    rw [splitOn, ih, List.splitOnP_cons_eq_if_modifyHead]
    split
    · rfl
    · cases h : List.splitOnP (fun x => x == sep) rest with
      | nil => exact absurd h (List.splitOnP_ne_nil _ rest)
      | cons piece pieces => rfl

theorem splitOn_sep (sep : UInt8) (s : Bytes) : splitOn sep (sep :: s) = [] :: splitOn sep s :=
  splitOn_append sep [] s

/-- Of what is read of the pieces, that of the first comes first and that of the rest behind it, if
nothing is read of an empty piece. -/
theorem filterMap_splitOn {α : Type} {read : Bytes → Option α} (sep : UInt8)
    (hempty : read [] = none) (s : Bytes) :
    (splitOn sep s).filterMap read = (read (s.takeWhile (· != sep))).toList ++
      (splitOn sep ((s.dropWhile (· != sep)).drop 1)).filterMap read := by
  have hpiece : sep ∉ s.takeWhile (· != sep) := fun hmem => by
    simpa using List.mem_takeWhile_imp hmem
  have hcut := List.takeWhile_append_dropWhile (p := (· != sep)) (l := s)
  cases htail : s.dropWhile (· != sep) with
  | nil =>
    rw [htail, List.append_nil] at hcut
    rw [hcut] at hpiece ⊢
    rw [splitOn_of_not_mem hpiece]
    simp [splitOn, hempty, List.filterMap_eq_flatMap_toList]
  | cons c tail =>
    have hsep : c = sep := by
      have hhead := List.head?_dropWhile_not (· != sep) s
      simpa [htail] using hhead
    rw [htail, hsep] at hcut
    conv_lhs => rw [← hcut, splitOn_append, splitOn_of_not_mem hpiece]
    simp [List.filterMap_eq_flatMap_toList]

end Bytes

namespace FileSystem

/-- A piece that leads somewhere: neither empty nor a single dot. -/
def leads (piece : Bytes) : Bool := !piece.isEmpty && piece != dot

theorem plainNames_eq (path : Bytes) :
    plainNames path = (Bytes.splitOn 0x2F path).filter leads := rfl

theorem plainNames_dropSlashes (s : Bytes) : plainNames (Files.dropSlashes s) = plainNames s := by
  induction s with
  | nil => rfl
  | cons b rest ih =>
    by_cases hb : b = 0x2F
    · subst hb
      rw [Files.dropSlashes_slash, ih, plainNames_eq, plainNames_eq, Bytes.splitOn_sep]
      rfl
    · rw [Files.dropSlashes_cons_of_ne hb]

theorem dotDot_mem_plainNames {path : Bytes} :
    dotDot ∈ plainNames path ↔ dotDot ∈ Bytes.splitOn 0x2F path := by
  rw [plainNames_eq, List.mem_filter]
  simp [leads, dotDot, dot]

/-! ## Components -/

/-- What a path is made of. -/
inductive Component where
  /-- A drive, which paths of this system do not have. -/
  | drive (name : Bytes)
  /-- The slash that a path starts with. -/
  | root
  | current
  | parent
  | normal (name : Bytes)
  deriving DecidableEq, Repr

/-- The component that a piece between slashes stands for. A single dot counts at the start of a
path only, where it is no concern of the piece. -/
def Component.ofPiece? (piece : Bytes) : Option Component :=
  if !leads piece then none else if piece == dotDot then some .parent else some (.normal piece)

/-- The components behind the start, piece by piece. -/
def bodyComponents : Bytes → List Component
  | [] => []
  | b :: rest =>
    (Component.ofPiece? ((b :: rest).takeWhile (· != 0x2F))).toList ++
      bodyComponents (((b :: rest).dropWhile (· != 0x2F)).drop 1)
  termination_by s => s.length
  decreasing_by
    have hdrop := List.length_dropWhile_le (· != 0x2F) (b :: rest)
    simp only [List.length_drop, List.length_cons] at *
    omega

/-- Whether a path starts with a piece that is a single dot. -/
def startsAtDot (path : Bytes) : Bool :=
  path.head? == some 0x2E && (path.tail.isEmpty || path.tail.head? == some 0x2F)

/-- The components of a path: the slash or the single dot that it starts with, and then the rest. -/
def components (path : Bytes) : List Component :=
  if isAbsolute path then .root :: bodyComponents path.tail
  else if startsAtDot path then .current :: bodyComponents path.tail
  else bodyComponents path

theorem ofPiece?_of_not_leads {piece : Bytes} (h : leads piece = false) :
    Component.ofPiece? piece = none := by
  simp [Component.ofPiece?, h]

theorem ofPiece?_of_leads {piece : Bytes} (h : leads piece = true) (hup : piece ≠ dotDot) :
    Component.ofPiece? piece = some (.normal piece) := by
  simp [Component.ofPiece?, h, hup]

theorem ofPiece?_ne_start {piece : Bytes} {c : Component}
    (h : Component.ofPiece? piece = some c) :
    c ≠ .current ∧ c ≠ .root ∧ ∀ name, c ≠ .drive name := by
  unfold Component.ofPiece? at h
  split_ifs at h <;> cases h <;> simp

/-- Taking a path apart piece by piece gives the pieces between its slashes. -/
theorem bodyComponents_eq (s : Bytes) :
    bodyComponents s = (Bytes.splitOn 0x2F s).filterMap Component.ofPiece? := by
  fun_induction bodyComponents s with
  | case1 => rfl
  | case2 b rest ih => rw [ih, Bytes.filterMap_splitOn 0x2F rfl (b :: rest)]

/-- What a path starts with, apart from its pieces. -/
def startOf (path : Bytes) : List Component :=
  if isAbsolute path then [.root] else if startsAtDot path then [.current] else []

/-- A path is its start and its pieces. -/
theorem components_eq (path : Bytes) :
    components path = startOf path ++ (Bytes.splitOn 0x2F path).filterMap Component.ofPiece? := by
  unfold components startOf
  split_ifs with hroot hdot
  · obtain ⟨rest, rfl⟩ : ∃ rest, path = 0x2F :: rest :=
      List.head?_eq_some_iff.mp (by simpa [isAbsolute] using hroot)
    rw [bodyComponents_eq, List.tail_cons, Bytes.splitOn_sep]
    rfl
  · unfold startsAtDot at hdot
    simp only [Bool.and_eq_true, Bool.or_eq_true, beq_iff_eq, List.isEmpty_iff] at hdot
    obtain ⟨hhead, hrest⟩ := hdot
    obtain ⟨rest, rfl⟩ := List.head?_eq_some_iff.mp hhead
    rw [bodyComponents_eq, List.tail_cons]
    rcases hrest with hrest | hrest
    · rw [List.tail_cons] at hrest
      rw [hrest]
      rfl
    · obtain ⟨rest', hrest'⟩ := List.head?_eq_some_iff.mp hrest
      rw [List.tail_cons] at hrest'
      have hsplit : Bytes.splitOn 0x2F (0x2E :: 0x2F :: rest') = dot :: Bytes.splitOn 0x2F rest' :=
        Bytes.splitOn_append 0x2F dot rest'
      rw [hrest', Bytes.splitOn_sep, hsplit]
      rfl
  · rw [bodyComponents_eq]
    rfl

/-- A path that does not start with a slash has neither a root nor a drive. -/
theorem relative_of_mem_components {path : Bytes} (hrelative : path.head? ≠ some 0x2F)
    {c : Component} (h : c ∈ components path) : c ≠ .root ∧ ∀ name, c ≠ .drive name := by
  rw [components_eq, List.mem_append] at h
  rcases h with h | h
  · have habsolute : isAbsolute path = false := by simpa [isAbsolute] using hrelative
    rw [startOf, if_neg (by simp [habsolute])] at h
    split_ifs at h
    · rw [List.mem_singleton.mp h]
      simp
    · cases h
  · obtain ⟨piece, -, hpiece⟩ := List.mem_filterMap.mp h
    exact (ofPiece?_ne_start hpiece).2

/-! ## One more name -/

theorem startOf_slash (front rest : Bytes) :
    startOf (front ++ 0x2F :: rest) = startOf (front ++ [0x2F]) := by
  rcases front with _ | ⟨b, _ | ⟨b', front⟩⟩ <;> simp [startOf, isAbsolute, startsAtDot]

theorem startOf_of_ne_nil {front : Bytes} (h : front ≠ []) :
    startOf (front ++ [0x2F]) = startOf front := by
  rcases front with _ | ⟨b, _ | ⟨b', front⟩⟩
  · exact absurd rfl h
  · simp [startOf, isAbsolute, startsAtDot]
  · simp [startOf, isAbsolute, startsAtDot]

theorem startOf_name {name : Bytes} (h : IsName name) : startOf name = [] := by
  obtain ⟨b, rest, rfl⟩ := List.exists_cons_of_ne_nil h.nonempty
  have hb : b ≠ 0x2F := fun he => h.no_slash (he ▸ List.mem_cons_self ..)
  have hrest : rest.head? ≠ some 0x2F := fun he =>
    h.no_slash (List.mem_cons_of_mem _ (List.mem_of_mem_head? he))
  have hdot : b = 0x2E → rest ≠ [] := by
    rintro rfl rfl
    exact h.not_dot rfl
  simp only [startOf, isAbsolute, startsAtDot, List.head?_cons, List.tail_cons]
  simpa [hb, hrest] using hdot

theorem ofPiece?_name {name : Bytes} (h : IsName name) :
    Component.ofPiece? name = some (.normal name) :=
  ofPiece?_of_leads (by simp [leads, h.nonempty, h.not_dot]) h.not_dotDot

/-- A slash behind a path adds nothing to it. -/
theorem components_concat_slash {front : Bytes} (h : front ≠ []) :
    components (front ++ [0x2F]) = components front := by
  rw [components_eq, components_eq front, startOf_of_ne_nil h, Bytes.splitOn_append,
    List.filterMap_append]
  exact congrArg _ (List.append_nil _)

theorem components_append (front : Bytes) {name : Bytes} (h : IsName name) :
    components (front ++ 0x2F :: name) = components (front ++ [0x2F]) ++ [.normal name] := by
  rw [components_eq, components_eq (front ++ [0x2F]), startOf_slash, Bytes.splitOn_append,
    Bytes.splitOn_append, Bytes.splitOn_of_not_mem h.no_slash, List.filterMap_append,
    List.filterMap_append, List.append_assoc, List.append_assoc,
    List.filterMap_cons_some (ofPiece?_name h)]
  rfl

/-- A path with one more name has one more component. -/
theorem components_child (path : Bytes) {name : Bytes} (h : IsName name) :
    components (child path name) = components path ++ [.normal name] := by
  unfold child
  split_ifs with hempty hslash
  · rw [List.isEmpty_iff.mp hempty, components_eq, startOf_name h,
      Bytes.splitOn_of_not_mem h.no_slash]
    simp [ofPiece?_name h, components, isAbsolute, startsAtDot, bodyComponents]
  · obtain ⟨front, rfl⟩ := Bytes.endsWith_iff.mp hslash
    rw [List.append_assoc, List.singleton_append]
    exact components_append front h
  · rw [components_append path h, components_concat_slash (by simpa using hempty)]

end FileSystem

/-! ## Following components -/

namespace Files

open FileSystem

/-- A path with a part pushed onto it. A part that starts at the top takes its place. -/
def push (path part : Bytes) : Bytes := if isAbsolute part then part else child path part

/-- Goes down from a path along components. -/
def follow : Bytes → List Component → Option Bytes
  | path, [] => some path
  | path, .normal name :: rest => follow (push path name) rest
  | path, .current :: rest => follow path rest
  | _, .parent :: _ => none
  | _, .root :: _ => none
  | _, .drive _ :: _ => none

theorem push_of_no_slash (path : Bytes) {part : Bytes} (h : 0x2F ∉ part) :
    push path part = child path part := by
  have hrelative : isAbsolute part = false := by
    unfold isAbsolute
    simpa using fun hhead => h (List.mem_of_mem_head? hhead)
  unfold push
  rw [hrelative]
  rfl

/-- Following pieces goes down those that lead somewhere, unless one of them leads upwards. -/
theorem follow_pieces {pieces : List Bytes} (h : ∀ piece ∈ pieces, 0x2F ∉ piece) (path : Bytes) :
    follow path (pieces.filterMap Component.ofPiece?) =
      if dotDot ∈ pieces then none else some (extend path (pieces.filter leads)) := by
  induction pieces generalizing path with
  | nil => rfl
  | cons piece rest ih =>
    have hrest := ih fun p hp => h p (List.mem_cons_of_mem _ hp)
    cases hleads : leads piece with
    | false =>
      have hup : dotDot ≠ piece := by
        rintro rfl
        cases hleads
      rw [List.filterMap_cons_none (ofPiece?_of_not_leads hleads), hrest]
      simp [hup, hleads]
    | true =>
      by_cases hup : piece = dotDot
      · subst hup
        simp [Component.ofPiece?, hleads, follow]
      · rw [List.filterMap_cons_some (ofPiece?_of_leads hleads hup), follow,
          push_of_no_slash path (h piece (List.mem_cons_self ..)), hrest]
        simp [Ne.symm hup, hleads, extend]

theorem follow_current_append (path : Bytes) (start : Bool) (rest : List Component) :
    follow path ((if start then [.current] else []) ++ rest) = follow path rest := by
  cases start <;> rfl

theorem names?_eq (s : Bytes) :
    names? s = if dotDot ∈ Bytes.splitOn 0x2F s then none
      else some ((Bytes.splitOn 0x2F s).filter leads) := by
  unfold names?
  simp only [List.contains_iff_mem, dotDot_mem_plainNames]
  rfl

theorem names?_dropSlashes (s : Bytes) : names? (dropSlashes s) = names? s := by
  unfold names?
  rw [plainNames_dropSlashes]

theorem follow_components {s : Bytes} (h : s.head? ≠ some 0x2F) (root : Bytes) :
    follow root (components s) = (names? s).map (extend root) := by
  have hrelative : isAbsolute s = false := by simpa [isAbsolute] using h
  rw [components_eq, startOf, hrelative, if_neg (by simp), follow_current_append,
    follow_pieces fun piece => Bytes.not_mem_of_mem_splitOn, names?_eq]
  split_ifs <;> rfl

/-- The way of a listing is to follow the components behind the slashes in front. -/
theorem resolve_eq_follow (root path : Bytes) :
    resolve root path =
      if Utf8.isValid (Percent.decode path) then
        follow root (components (dropSlashes (Percent.decode path)))
      else none := by
  rw [follow_components (head?_dropSlashes _)]
  unfold resolve
  simp only
  cases Utf8.isValid (Percent.decode path) <;> rfl

/-- A listing is asked for what the pieces of the text without escapes lead to. -/
theorem resolve_eq_some_iff {root path dir : Bytes} :
    resolve root path = some dir ↔
      Utf8.isValid (Percent.decode path) = true ∧
        dotDot ∉ Bytes.splitOn 0x2F (Percent.decode path) ∧
        dir = extend root ((Bytes.splitOn 0x2F (Percent.decode path)).filter leads) := by
  unfold resolve
  simp only
  rw [names?_dropSlashes, names?_eq]
  cases hvalid : Utf8.isValid (Percent.decode path) with
  | false => simp
  | true =>
    by_cases hup : dotDot ∈ Bytes.splitOn 0x2F (Percent.decode path)
    · simp [hup]
    · simp only [hup, if_false, Option.map_some, Option.some.injEq, Bool.not_true,
        Bool.false_eq_true, not_false_eq_true, true_and]
      exact eq_comm

theorem resolve_eq_none_iff {root path : Bytes} :
    resolve root path = none ↔
      Utf8.isValid (Percent.decode path) = false ∨
        dotDot ∈ Bytes.splitOn 0x2F (Percent.decode path) := by
  rw [Option.eq_none_iff_forall_ne_some]
  constructor
  · intro hnone
    by_contra hno
    obtain ⟨hvalid, hup⟩ := not_or.mp hno
    exact hnone _ (resolve_eq_some_iff.mpr ⟨by simpa using hvalid, hup, rfl⟩)
  · rintro hrefused dir hdir
    obtain ⟨hvalid, hup, -⟩ := resolve_eq_some_iff.mp hdir
    rcases hrefused with hinvalid | hdots
    · rw [hvalid] at hinvalid
      cases hinvalid
    · exact hup hdots

theorem isPrefix_child (path name : Bytes) : path <+: child path name := by
  unfold child
  split_ifs with hempty
  · rw [List.isEmpty_iff.mp hempty]
    exact List.nil_prefix
  · exact List.prefix_append path name
  · exact List.prefix_append path (0x2F :: name)

theorem isPrefix_extend (root : Bytes) (names : List Bytes) : root <+: extend root names := by
  induction names using List.reverseRecOn with
  | nil => exact List.prefix_rfl
  | append_singleton names name ih =>
    rw [extend_concat]
    exact ih.trans (isPrefix_child _ name)

theorem components_extend (root : Bytes) {names : List Bytes} (h : ∀ name ∈ names, IsName name) :
    components (extend root names) = components root ++ names.map .normal := by
  induction names using List.reverseRecOn with
  | nil => simp [extend]
  | append_singleton names name ih =>
    rw [extend_concat, components_child _ (h name (by simp)),
      ih fun n hn => h n (List.mem_append_left _ hn), List.append_assoc, List.map_append]
    rfl

end Files

/-! ## The law -/

/-- A listing goes down the pieces of the request path. The escapes of the path are undone once, in
the one way there is; the path is refused if and only if what comes of it is not UTF-8 or has two
dots between slashes, and else the root is followed by the pieces that are neither empty nor a
single dot. So the root stays in front, and what is added are names. This is what following the
components behind the slashes in front comes to, none of which is a root or a drive. -/
theorem a_request_path_leads_down_its_pieces (root path : Bytes) :
    ∃ t, Percent.Undone path t ∧ (∀ other, Percent.Undone path other → other = t) ∧
      (Files.resolve root path = none ↔
        (¬ ∃ text, t = Bytes.ofString text) ∨ FileSystem.dotDot ∈ List.splitOn 0x2F t) ∧
      (∀ dir, Files.resolve root path = some dir ↔
        (∃ text, t = Bytes.ofString text) ∧ FileSystem.dotDot ∉ List.splitOn 0x2F t ∧
          dir = Files.extend root
            ((List.splitOn 0x2F t).filter fun piece => piece ≠ [] ∧ piece ≠ FileSystem.dot)) ∧
      (∀ dir, Files.resolve root path = some dir → root <+: dir ∧
        ∃ names : List Bytes, (∀ name ∈ names, FileSystem.IsName name) ∧
          FileSystem.components dir = FileSystem.components root ++ names.map .normal) ∧
      Files.resolve root path = (if Utf8.isValid t then
        Files.follow root (FileSystem.components (Files.dropSlashes t)) else none) ∧
      ∀ c ∈ FileSystem.components (Files.dropSlashes t), c ≠ .root ∧ ∀ name, c ≠ .drive name := by
  have hleads : (fun piece : Bytes => decide (piece ≠ [] ∧ piece ≠ FileSystem.dot)) =
      FileSystem.leads := by
    funext piece
    rw [Bool.eq_iff_iff]
    simp [FileSystem.leads]
  refine ⟨Percent.decode path, Percent.undone_decode path, fun other h => h.eq_decode, ?_,
    fun dir => ?_, fun dir hdir => ?_, Files.resolve_eq_follow root path, fun c =>
      FileSystem.relative_of_mem_components (Files.head?_dropSlashes _)⟩
  · rw [← Utf8.isValid_iff, Bool.not_eq_true, ← Bytes.splitOn_eq_list]
    exact Files.resolve_eq_none_iff
  · rw [← Utf8.isValid_iff, hleads, ← Bytes.splitOn_eq_list]
    exact Files.resolve_eq_some_iff
  · obtain ⟨names, hnames, rfl⟩ := Files.resolve_eq_extend hdir
    exact ⟨Files.isPrefix_extend root names, names, hnames, Files.components_extend root hnames⟩

/-- An escape of a percent sign leaves what looks like an escape, one that is cut off stays as it
is, and two escaped dots are refused. -/
theorem an_escaped_path_is_undone_once :
    Files.resolve (Bytes.ofString "/srv") (Bytes.ofString "//a/./%2541%4/%62") =
      some (Bytes.ofString "/srv/a/%41%4/b") ∧
    Files.resolve (Bytes.ofString "/srv") (Bytes.ofString "/a/%2e%2E") = none := by
  obtain ⟨t, ht, -, -, hsome, -⟩ := a_request_path_leads_down_its_pieces
    (Bytes.ofString "/srv") (Bytes.ofString "//a/./%2541%4/%62")
  obtain ⟨t', ht', -, hnone, -⟩ := a_request_path_leads_down_its_pieces
    (Bytes.ofString "/srv") (Bytes.ofString "/a/%2e%2E")
  rw [ht.eq_decode] at hsome
  rw [ht'.eq_decode] at hnone
  exact ⟨(hsome _).mpr ⟨⟨"//a/./%41%4/b", by decide +kernel⟩, by decide +kernel, by decide +kernel⟩,
    hnone.mpr (.inr (by decide +kernel))⟩

end IsoServer
