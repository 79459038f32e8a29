-- Rows of a directory. Reading a directory gives one row for each member, in the order of their
-- names without case; members that tie stay as they were enumerated. A row tells of a member
-- whether it is a link, and whether following it leads to a directory. If no two members tie, it
-- does not matter in which order a directory enumerates them.
import Mathlib
import IsoServer.Proofs.Following
import IsoServer.Proofs.Listings
import IsoServer.Proofs.Reachability

namespace IsoServer

/-! ## The order of rows -/

namespace Entry

/-- What a name is sorted by: its bytes without case. -/
def lowered (name : String) : Bytes := Bytes.ofString (Text.toLowercase name)

/-- Keys are in the order of the dictionary. -/
theorem keyLe_iff {a b : Bytes} : keyLe a b = true ↔ a ≤ b := by
  induction a generalizing b with
  | nil => simp [keyLe]
  | cons x xs ih =>
    cases b with
    | nil => simp [keyLe]
    | cons y ys => simp [keyLe, List.cons_le_cons_iff, ih]

/-- Whether a row comes before another or ties with it. -/
def comesBefore (a b : Entry) : Bool := keyLe a.key b.key

theorem comesBefore_iff {a b : Entry} :
    comesBefore a b = true ↔ lowered a.name ≤ lowered b.name := keyLe_iff

theorem comesBefore_trans (a b c : Entry) (hab : comesBefore a b = true)
    (hbc : comesBefore b c = true) : comesBefore a c = true :=
  comesBefore_iff.mpr (List.le_trans (comesBefore_iff.mp hab) (comesBefore_iff.mp hbc))

theorem comesBefore_total (a b : Entry) : (comesBefore a b || comesBefore b a) = true := by
  rw [Bool.or_eq_true, comesBefore_iff, comesBefore_iff]
  exact List.le_total _ _

/-- Keys are computed once for each row, but that does not show. -/
theorem sort_eq (es : List Entry) : sort es = es.mergeSort comesBefore := by
  unfold sort
  have hkeys : (es.mergeSort comesBefore).map (fun e => (e.key, e)) =
      (es.map fun e => (e.key, e)).mergeSort fun a b => keyLe a.1 b.1 := by
    apply List.map_mergeSort
    intro a _ b _
    simp only [comesBefore]
  rw [← hkeys, List.map_map]
  exact List.map_id _

/-- Rows are sorted: none is lost or added, they are in the order of their names without case, and
those that tie are in the order in which they were. -/
structure IsSorted (es rows : List Entry) : Prop where
  perm : rows.Perm es
  ordered : rows.Pairwise fun a b => lowered a.name ≤ lowered b.name
  stable : ∀ key, rows.filter (fun e => lowered e.name = key) =
    es.filter fun e => lowered e.name = key

theorem isSorted_sort (es : List Entry) : IsSorted es (sort es) := by
  have hperm : (sort es).Perm es := by
    rw [sort_eq]
    exact List.mergeSort_perm es comesBefore
  refine ⟨hperm, ?_, fun key => ?_⟩
  · have hordered := List.pairwise_mergeSort comesBefore_trans comesBefore_total es
    rw [sort_eq]
    exact hordered.imp comesBefore_iff.mp
  · -- rows that tie are in order as they are, and so they are found in the same order again
    have hties : (es.filter fun e => lowered e.name = key).Pairwise
        fun a b => comesBefore a b = true := by
      refine List.pairwise_of_forall_mem_list fun a ha b hb => ?_
      have hsame : lowered a.name = lowered b.name := by
        rw [of_decide_eq_true (List.mem_filter.mp ha).2,
          of_decide_eq_true (List.mem_filter.mp hb).2]
      rw [comesBefore_iff, hsame]
      exact List.le_refl _
    have hfound : (es.filter fun e => lowered e.name = key).Sublist (sort es) := by
      rw [sort_eq]
      exact List.sublist_mergeSort comesBefore_trans comesBefore_total hties List.filter_sublist
    have hagain := hfound.filter fun e => decide (lowered e.name = key)
    rw [List.filter_filter] at hagain
    simp only [Bool.and_self] at hagain
    exact (hagain.eq_of_length (hperm.filter _).length_eq.symm).symm

/-- If no two rows tie, their order before they are sorted does not matter. -/
theorem IsSorted.eq_of_perm {es es' rows rows' : List Entry} (h : IsSorted es rows)
    (h' : IsSorted es' rows') (hperm : es.Perm es')
    (hties : (es.map fun e => lowered e.name).Nodup) : rows = rows' := by
  have hrows : rows.Perm rows' := h.perm.trans (hperm.trans h'.perm.symm)
  refine List.Perm.eq_of_pairwise (fun a b ha hb hab hba => ?_) h.ordered h'.ordered hrows
  have hmem : b ∈ rows := hrows.mem_iff.mpr hb
  exact List.inj_on_of_nodup_map hties (h.perm.mem_iff.mp ha) (h.perm.mem_iff.mp hmem)
    (List.le_antisymm hab hba)

end Entry

/-! ## Rows of members -/

/-- The row of a member of the directory that a path reaches: it has the name of the member, tells
whether the member is a link, and tells whether following it leads to a directory. -/
structure IsRowOf (fs : FileSystem) (who : Visitor) (dir : Bytes) (loc : Location) (used : Nat)
    (m : Bytes × Node) (e : Entry) : Prop where
  name : e.name = Utf8.decodeLossy m.1
  isSymlink : e.isSymlink = true ↔ ∃ target, m.2 = .link target
  isDir : e.isDir = true ↔
    (FileSystem.child dir m.1).length ≤ FileSystem.maxPath ∧
    ∃ place n inner, fs.Leads who loc [m.1] place n ∧ used + n ≤ FileSystem.maxLinks ∧
      fs.node? place = some inner ∧ inner.isDir = true

theorem Node.isLink_iff {node : Node} : node.isLink = true ↔ ∃ target, node = .link target := by
  cases node <;> simp [Node.isLink]

/-- If the path of a directory can be walked, that of a member can be unless it is too long. -/
theorem FileSystem.pathError?_child {dir name : Bytes} (hdir : pathError? dir = none)
    (hname : IsMemberName name) :
    pathError? (child dir name) = none ↔ (child dir name).length ≤ maxPath := by
  obtain ⟨hzero, hsome, -⟩ := pathError?_eq_none_iff.mp hdir
  have hlength := length_child_le dir name
  have hpositive := List.length_pos_of_ne_nil hsome
  rw [pathError?_eq_none_iff]
  refine ⟨fun h => h.2.2, fun h => ⟨not_mem_child (by decide) hzero hname.no_nul, ?_, h⟩⟩
  exact List.ne_nil_of_length_pos (by omega)

theorem FileSystem.pathError?_of_stat {fs : FileSystem} {who : Visitor} {path : Bytes}
    {here : Node} (h : fs.stat who path = .ok here) : pathError? path = none := by
  rw [stat_eq, walk_eq] at h
  cases hpath : pathError? path with
  | none => rfl
  | some e => simp [hpath, reached] at h

theorem isRowOf_ofMember {fs : FileSystem} {who : Visitor} {dir : Bytes} {loc : Location}
    {used : Nat} {here : Node} (hreaches : fs.Reaches who dir loc used here)
    (hdir : FileSystem.pathError? dir = none) {m : Bytes × Node}
    (hname : FileSystem.IsMemberName m.1) :
    IsRowOf fs who dir loc used m (Entry.ofMember fs who dir m) where
  name := rfl
  isSymlink := Node.isLink_iff
  isDir := by
    unfold Entry.ofMember
    simp only [FileSystem.isDir_iff, hreaches.stat_child hname.toIsName,
      FileSystem.pathError?_child hdir hname]
    constructor
    · rintro ⟨inner, ⟨hshort, place, n, hleads, hn, hinner⟩, hisDir⟩
      exact ⟨hshort, place, n, inner, hleads, hn, hinner, hisDir⟩
    · rintro ⟨hshort, place, n, inner, hleads, hn, hinner, hisDir⟩
      exact ⟨inner, ⟨hshort, place, n, hleads, hn, hinner⟩, hisDir⟩

theorem Entry.readAll_eq {fs : FileSystem} {who : Visitor} {dir : Bytes} {mode : Nat}
    {modified : Int} {members : List (Bytes × Node)}
    (hstat : fs.stat who dir = .ok (.dir mode modified members))
    (hreadable : (Node.dir mode modified members).readable who = true) :
    readAll fs who dir = .ok (sort (members.map (ofMember fs who dir))) := by
  unfold readAll FileSystem.members
  simp only [hstat, hreadable, if_true]
  rfl

/-! ## Other orders of enumeration -/

/-- The same thing, but a directory may enumerate its members in another order. -/
inductive Node.Reordered : Node → Node → Prop
  | file (mode : Nat) (modified : Int) (content : Bytes) :
      Reordered (.file mode modified content) (.file mode modified content)
  | link (target : Bytes) : Reordered (.link target) (.link target)
  | dir (mode : Nat) (modified : Int) {members members' : List (Bytes × Node)} :
      (members.map (·.1)).Perm (members'.map (·.1)) →
      Reordered (.dir mode modified members) (.dir mode modified members')

/-- Two file systems hold the same at every place, but for the order of enumeration. -/
structure FileSystem.Reordered (fs fs' : FileSystem) : Prop where
  workingDirectory : fs.workingDirectory = fs'.workingDirectory
  nodes : ∀ loc, Option.Rel Node.Reordered (fs.node? loc) (fs'.node? loc)

namespace Node.Reordered

variable {node node' : Node} (h : node.Reordered node')

include h

protected theorem symm : node'.Reordered node := by
  cases h with
  | file mode modified content => exact .file mode modified content
  | link target => exact .link target
  | dir mode modified hperm => exact .dir mode modified hperm.symm

theorem isDir_eq : node.isDir = node'.isDir := by cases h <;> rfl

theorem isLink_eq : node.isLink = node'.isLink := by cases h <;> rfl

theorem searchable_eq (who : Visitor) : node.searchable who = node'.searchable who := by
  cases h <;> rfl

end Node.Reordered

namespace FileSystem.Reordered

variable {fs fs' : FileSystem} (h : fs.Reordered fs')

include h

protected theorem symm : fs'.Reordered fs where
  workingDirectory := h.workingDirectory.symm
  nodes loc := by
    have hrel := h.nodes loc
    generalize fs.node? loc = here at hrel ⊢
    generalize fs'.node? loc = here' at hrel ⊢
    cases hrel with
    | some hsame => exact .some hsame.symm
    | none => exact .none

theorem exists_node {loc : Location} {here : Node} (hnode : fs.node? loc = some here) :
    ∃ here', fs'.node? loc = some here' ∧ here.Reordered here' := by
  have hrel := h.nodes loc
  rw [hnode] at hrel
  cases hnode' : fs'.node? loc with
  | none =>
    rw [hnode'] at hrel
    cases hrel
  | some here' =>
    rw [hnode'] at hrel
    cases hrel with
    | some hsame => exact ⟨here', rfl, hsame⟩

theorem turn_eq {loc : Location} {here here' : Node} (who : Visitor) (name : Bytes)
    (hnode : fs.node? loc = some here) (hnode' : fs'.node? loc = some here')
    (hsame : here.Reordered here') : turn who loc name here = turn who loc name here' := by
  -- a member is what lies one place further down, and there the two hold the same
  have hmember := h.nodes (loc ++ [name])
  rw [node?_concat name hnode, node?_concat name hnode'] at hmember
  unfold turn
  rw [hsame.isDir_eq, hsame.searchable_eq who]
  generalize here.member? name = inner at hmember
  generalize here'.member? name = inner' at hmember
  cases hmember with
  | none => rfl
  | some hinner => cases hinner <;> rfl

theorem advance_eq (who : Visitor) (loc : Location) (names : List Bytes) :
    fs.advance who .behind loc names = fs'.advance who .behind loc names := by
  induction names generalizing loc with
  | nil => rfl
  | cons name rest ih =>
    cases hnode : fs.node? loc with
    | none =>
      cases hnode' : fs'.node? loc with
      | none => simp [advance, hnode, hnode']
      | some here' =>
        obtain ⟨here, hhere, -⟩ := h.symm.exists_node hnode'
        rw [hnode] at hhere
        cases hhere
    | some here =>
      obtain ⟨here', hnode', hsame⟩ := h.exists_node hnode
      rw [advance_cons who name rest hnode, advance_cons who name rest hnode',
        h.turn_eq who name hnode hnode' hsame]
      cases turn who loc name here' with
      | goes loc' => exact ih loc'
      | missing => rfl
      | follows target => rfl
      | fails e => rfl

theorem walkFrom_same (who : Visitor) (links : Nat) (loc : Location) (names : List Bytes) :
    fs.walkFrom who .behind links loc names = fs'.walkFrom who .behind links loc names := by
  induction links generalizing loc names with
  | zero =>
    rw [walkFrom_eq, walkFrom_eq, h.advance_eq]
    cases fs'.advance who .behind loc names <;> rfl
  | succ links ih =>
    rw [walkFrom_eq, walkFrom_eq, h.advance_eq]
    cases fs'.advance who .behind loc names with
    | link dir target rest =>
      unfold Stop.settle
      simp only [ih]
    | _ => rfl

theorem walk_same (who : Visitor) (path : Bytes) :
    fs.walk who .behind path = fs'.walk who .behind path := by
  have hstart : fs.start path = fs'.start path := by
    unfold start
    rw [h.workingDirectory]
  rw [walk_eq, walk_eq, hstart, h.walkFrom_same]

/-- A path leads to the same place in both. -/
theorem exists_stat {who : Visitor} {path : Bytes} {here : Node}
    (hstat : fs.stat who path = .ok here) :
    ∃ loc here', fs.node? loc = some here ∧ fs'.node? loc = some here' ∧
      fs'.stat who path = .ok here' ∧ here.Reordered here' := by
  rw [stat_eq, reached_eq_ok_iff] at hstat
  obtain ⟨loc, hwalk, hnode⟩ := hstat
  obtain ⟨here', hnode', hsame⟩ := h.exists_node hnode
  refine ⟨loc, here', hnode, hnode', ?_, hsame⟩
  rw [stat_eq, reached_eq_ok_iff]
  exact ⟨loc, (h.walk_same who path).symm.trans hwalk, hnode'⟩

theorem isDir_of_isDir {who : Visitor} {path : Bytes} (hdir : fs.isDir who path = true) :
    fs'.isDir who path = true := by
  obtain ⟨here, hstat, hhere⟩ := isDir_iff.mp hdir
  obtain ⟨loc, here', -, -, hstat', hsame⟩ := h.exists_stat hstat
  exact isDir_iff.mpr ⟨here', hstat', hsame.isDir_eq ▸ hhere⟩

theorem isDir_same (who : Visitor) (path : Bytes) : fs.isDir who path = fs'.isDir who path :=
  Bool.eq_iff_iff.mpr ⟨h.isDir_of_isDir, h.symm.isDir_of_isDir⟩

end FileSystem.Reordered

/-- If no two members of a directory have the same name, a name finds the member that has it. -/
theorem Node.lookup_iff_mem {members : List (Bytes × Node)} (hnodup : (members.map (·.1)).Nodup)
    {name : Bytes} {node : Node} :
    members.lookup name = some node ↔ (name, node) ∈ members := by
  constructor
  · intro h
    obtain ⟨before, after, hsplit, -⟩ := List.lookup_eq_some_iff.mp h
    rw [hsplit]
    exact List.mem_append_right _ (List.mem_cons_self ..)
  · intro h
    obtain ⟨before, after, rfl⟩ := List.append_of_mem h
    refine List.lookup_eq_some_iff.mpr ⟨before, after, rfl, fun p hp => ?_⟩
    rw [List.map_append, List.nodup_append] at hnodup
    have hne := hnodup.2.2 p.1 (List.mem_map_of_mem hp) name (by simp)
    simpa using hne.symm

/-- The row of a name in the directory at a place. -/
def Entry.ofName (fs : FileSystem) (who : Visitor) (dir : Bytes) (loc : Location) (name : Bytes) :
    Entry where
  name := Utf8.decodeLossy name
  isDir := fs.isDir who (FileSystem.child dir name)
  isSymlink := (fs.node? (loc ++ [name])).any Node.isLink

theorem FileSystem.Reordered.ofName_eq {fs fs' : FileSystem} (h : fs.Reordered fs')
    (who : Visitor) (dir : Bytes) (loc : Location) :
    Entry.ofName fs who dir loc = Entry.ofName fs' who dir loc := by
  funext name
  have hlink : (fs.node? (loc ++ [name])).any Node.isLink =
      (fs'.node? (loc ++ [name])).any Node.isLink := by
    have hrel := h.nodes (loc ++ [name])
    generalize fs.node? (loc ++ [name]) = here at hrel ⊢
    generalize fs'.node? (loc ++ [name]) = here' at hrel ⊢
    cases hrel with
    | some hsame => exact hsame.isLink_eq
    | none => rfl
  unfold Entry.ofName
  rw [h.isDir_same, hlink]

/-- The names of a directory tell its rows, if they are distinct. -/
theorem Entry.map_ofMember {fs : FileSystem} {loc : Location} {mode : Nat} {modified : Int}
    {members : List (Bytes × Node)} (who : Visitor) (dir : Bytes)
    (hnode : fs.node? loc = some (.dir mode modified members))
    (hnodup : (members.map (·.1)).Nodup) :
    members.map (ofMember fs who dir) = (members.map (·.1)).map (ofName fs who dir loc) := by
  rw [List.map_map]
  refine List.map_congr_left fun m hm => ?_
  have hmember : fs.node? (loc ++ [m.1]) = some m.2 := by
    rw [FileSystem.node?_concat m.1 hnode]
    exact (Node.lookup_iff_mem hnodup).mpr hm
  simp [ofMember, ofName, hmember]

/-- If no two names of a directory tie, its rows are the same in every order of enumeration. -/
theorem FileSystem.Reordered.readAll_eq {fs fs' : FileSystem} (h : fs.Reordered fs')
    {who : Visitor} {dir : Bytes} {mode : Nat} {modified : Int} {members : List (Bytes × Node)}
    (hstat : fs.stat who dir = .ok (.dir mode modified members))
    (hreadable : (Node.dir mode modified members).readable who = true)
    (hties : (members.map fun m => Entry.lowered (Utf8.decodeLossy m.1)).Nodup) :
    Entry.readAll fs' who dir = Entry.readAll fs who dir := by
  obtain ⟨loc, here', hnode, hnode', hstat', hsame⟩ := h.exists_stat hstat
  cases hsame with
  | dir _ _ hperm =>
    rename_i members'
    have hnodup : (members.map (·.1)).Nodup := by
      refine List.Nodup.of_map (fun name => Entry.lowered (Utf8.decodeLossy name)) ?_
      rw [List.map_map, Function.comp_def]
      exact hties
    have hrows := Entry.map_ofMember who dir hnode hnodup
    have hrows' := Entry.map_ofMember who dir hnode' (hperm.nodup_iff.mp hnodup)
    have hsame : (members.map (Entry.ofMember fs who dir)).Perm
        (members'.map (Entry.ofMember fs' who dir)) := by
      rw [hrows, hrows', h.ofName_eq]
      exact hperm.map _
    have hkeys : ((members.map (Entry.ofMember fs who dir)).map
        fun e => Entry.lowered e.name).Nodup := by
      rw [List.map_map, Function.comp_def]
      exact hties
    rw [Entry.readAll_eq hstat hreadable, Entry.readAll_eq hstat' hreadable,
      (Entry.isSorted_sort _).eq_of_perm (Entry.isSorted_sort _) hsame hkeys]

/-! ## Reading a directory -/

/-- A directory that can be read gives one row for each of its members and no other: each tells of
its member what it is and where it leads, and the rows are sorted by name without case, with ties
as they were enumerated. So without ties, no order of enumeration gives other rows. A member that
leads nowhere is a row like the others. -/
theorem a_directory_is_read_without_loss {fs : FileSystem} {who : Visitor} {dir : Bytes}
    {mode : Nat} {modified : Int} {members : List (Bytes × Node)}
    (hstat : fs.stat who dir = .ok (.dir mode modified members))
    (hreadable : (Node.dir mode modified members).readable who = true)
    (hnames : ∀ m ∈ members, FileSystem.IsMemberName m.1) :
    ∃ loc used unsorted rows,
      fs.Reaches who dir loc used (.dir mode modified members) ∧
      Entry.readAll fs who dir = .ok rows ∧
      List.Forall₂ (IsRowOf fs who dir loc used) members unsorted ∧
      Entry.IsSorted unsorted rows ∧
      ((members.map fun m => Entry.lowered (Utf8.decodeLossy m.1)).Nodup →
        ∀ fs', fs.Reordered fs' → Entry.readAll fs' who dir = .ok rows) := by
  obtain ⟨loc, used, hreaches⟩ := FileSystem.exists_reaches hstat
  have hread := Entry.readAll_eq hstat hreadable
  refine ⟨loc, used, _, _, hreaches, hread, ?_, Entry.isSorted_sort _, ?_⟩
  · rw [List.forall₂_map_right_iff, List.forall₂_same]
    intro m hm
    exact isRowOf_ofMember hreaches (FileSystem.pathError?_of_stat hstat) (hnames m hm)
  · intro hties fs' hreordered
    rw [hreordered.readAll_eq hstat hreadable hties, hread]

/-! A directory with a link to itself, a link to nothing and a link to a directory. -/

def tangledMembers : List (Bytes × Node) :=
  [(Bytes.ofString "b", .link (Bytes.ofString "b")),
   (Bytes.ofString "gone", .link (Bytes.ofString "nowhere")),
   (Bytes.ofString "A", .dir 0o755 0 []),
   (Bytes.ofString "c", .link (Bytes.ofString "A"))]

def topSystem (members : List (Bytes × Node)) : FileSystem where
  top := .dir 0o755 0 members

theorem Node.reordered_refl (node : Node) : node.Reordered node := by
  cases node with
  | file mode modified content => exact .file mode modified content
  | link target => exact .link target
  | dir mode modified members => exact .dir mode modified (List.Perm.refl _)

theorem reordered_topSystem {members members' : List (Bytes × Node)}
    (hperm : members.Perm members') (hnodup : (members.map (·.1)).Nodup) :
    (topSystem members).Reordered (topSystem members') where
  workingDirectory := rfl
  nodes loc := by
    cases loc with
    | nil => exact .some (.dir _ _ (hperm.map _))
    | cons name rest =>
      have hnodup' : (members'.map (·.1)).Nodup := (hperm.map _).nodup_iff.mp hnodup
      have hlookup : members.lookup name = members'.lookup name := by
        refine Option.ext fun node => ?_
        rw [Node.lookup_iff_mem hnodup, Node.lookup_iff_mem hnodup', hperm.mem_iff]
      have hsame : (topSystem members).node? (name :: rest) =
          (topSystem members').node? (name :: rest) := by
        simp [topSystem, FileSystem.node?, Node.at?, Node.member?, hlookup]
      rw [hsame]
      cases (topSystem members').node? (name :: rest) with
      | none => exact .none
      | some node => exact .some node.reordered_refl

/-- In whatever order its members are enumerated, the link to itself and the link to nothing are
rows that are no directories, and the link to a directory is one that is. -/
theorem a_tangled_directory_is_read_in_any_order :
    (∀ m ∈ tangledMembers, FileSystem.IsMemberName m.1) ∧
    ∀ members, tangledMembers.Perm members →
      Entry.readAll (topSystem members) .other [0x2F] =
        .ok [⟨"A", true, false⟩, ⟨"b", false, true⟩, ⟨"c", true, true⟩, ⟨"gone", false, true⟩] := by
  have hnames : ∀ m ∈ tangledMembers, FileSystem.IsMemberName m.1 := by
    intro m hm
    fin_cases hm <;> exact ⟨⟨by decide, by decide, by decide, by decide⟩, by decide, by decide⟩
  refine ⟨hnames, fun members hperm => ?_⟩
  have hstat : (topSystem tangledMembers).stat .other [0x2F] = .ok (.dir 0o755 0 tangledMembers) :=
    rfl
  obtain ⟨loc, used, unsorted, rows, -, hread, -, -, hreordered⟩ :=
    a_directory_is_read_without_loss hstat rfl hnames
  have hrows : Entry.readAll (topSystem tangledMembers) .other [0x2F] =
      .ok [⟨"A", true, false⟩, ⟨"b", false, true⟩, ⟨"c", true, true⟩, ⟨"gone", false, true⟩] := by
    cbv
  rw [hreordered (by decide +kernel) _ (reordered_topSystem hperm (by decide +kernel)), ← hread,
    hrows]

end IsoServer
