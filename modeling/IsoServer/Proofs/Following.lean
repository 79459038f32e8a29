-- Following links. Names lead from one place of a file system to another, link by link; a walk
-- finds a place if the names lead there with no more links than it may follow. What a name leads
-- to in the directory behind a path is what the longer path leads to.
import Mathlib
import IsoServer.Proofs.Walks

namespace IsoServer.FileSystem

/-! ## Where names lead -/

/-- A name that is looked up in a directory. -/
structure IsLookedUp (name : Bytes) : Prop where
  nonempty : name ≠ []
  not_dot : name ≠ dot
  not_dotDot : name ≠ dotDot
  short : name.length ≤ maxName

/-- Names lead from one place to another, with a number of links on the way. -/
inductive Leads (fs : FileSystem) (who : Visitor) : Location → List Bytes → Location → Nat → Prop
  | nil {loc : Location} : Leads fs who loc [] loc 0
  /-- Behind a slash there has to be a directory. -/
  | slash {loc place : Location} {rest : List Bytes} {n : Nat} {here : Node} :
      fs.node? loc = some here → here.isDir = true → Leads fs who loc rest place n →
      Leads fs who loc ([] :: rest) place n
  | dot {loc place : Location} {rest : List Bytes} {n : Nat} {here : Node} :
      fs.node? loc = some here → here.searchable who = true → Leads fs who loc rest place n →
      Leads fs who loc (dot :: rest) place n
  | dotDot {loc place : Location} {rest : List Bytes} {n : Nat} {here : Node} :
      fs.node? loc = some here → here.searchable who = true →
      Leads fs who loc.dropLast rest place n → Leads fs who loc (dotDot :: rest) place n
  | member {loc place : Location} {name : Bytes} {rest : List Bytes} {n : Nat}
      {here inner : Node} :
      fs.node? loc = some here → here.searchable who = true → IsLookedUp name →
      here.member? name = some inner → inner.isLink = false →
      Leads fs who (loc ++ [name]) rest place n → Leads fs who loc (name :: rest) place n
  /-- A link puts its own names in front of those that are left. -/
  | link {loc place : Location} {name target : Bytes} {rest : List Bytes} {n : Nat}
      {here : Node} :
      fs.node? loc = some here → here.searchable who = true → IsLookedUp name →
      here.member? name = some (.link target) → target ≠ [] →
      Leads fs who (if isAbsolute target then [] else loc) (namesOf target ++ rest) place n →
      Leads fs who loc (name :: rest) place (n + 1)

/-! ## One name -/

section Turns

variable {who : Visitor} {loc : Location} {here : Node}

theorem isDir_of_searchable (h : here.searchable who = true) : here.isDir = true := by
  cases here with
  | dir mode modified members => rfl
  | file mode modified content => cases h
  | link target => cases h

theorem turn_slash (h : here.isDir = true) : turn who loc [] here = .goes loc := by
  rw [turn_nil, h]
  rfl

theorem turn_dot (h : here.searchable who = true) : turn who loc dot here = .goes loc := by
  simp [turn, isDir_of_searchable h, h]

theorem turn_dotDot (h : here.searchable who = true) :
    turn who loc dotDot here = .goes loc.dropLast := by
  have hne : (dotDot == dot) = false := by decide
  have hempty : dotDot.isEmpty = false := rfl
  simp [turn, isDir_of_searchable h, h, hne, hempty]

variable {name : Bytes} (hname : IsLookedUp name) (h : here.searchable who = true)

include hname h

theorem turn_member {inner : Node} (hmember : here.member? name = some inner)
    (hinner : inner.isLink = false) : turn who loc name here = .goes (loc ++ [name]) := by
  have hshort : ¬ name.length > maxName := Nat.not_lt.mpr hname.short
  cases inner with
  | link target => cases hinner
  | _ =>
    simp [turn, isDir_of_searchable h, h, hname.nonempty, hname.not_dot, hname.not_dotDot, hshort,
      hmember]

theorem turn_link {target : Bytes} (hmember : here.member? name = some (.link target)) :
    turn who loc name here = .follows target := by
  have hshort : ¬ name.length > maxName := Nat.not_lt.mpr hname.short
  simp [turn, isDir_of_searchable h, h, hname.nonempty, hname.not_dot, hname.not_dotDot, hshort,
    hmember]

end Turns

section Walking

variable {fs : FileSystem} {who : Visitor} {loc loc' : Location} {here : Node} {name : Bytes}

theorem walkFrom_of_goes (hnode : fs.node? loc = some here)
    (hturn : turn who loc name here = .goes loc') (links : Nat) (rest : List Bytes) :
    fs.walkFrom who .behind links loc (name :: rest) =
      fs.walkFrom who .behind links loc' rest := by
  rw [walkFrom_eq, walkFrom_eq, advance_cons who name rest hnode, hturn]
  rfl

theorem walkFrom_of_follows {target : Bytes} (hnode : fs.node? loc = some here)
    (hturn : turn who loc name here = .follows target) (htarget : target ≠ []) (links : Nat)
    (rest : List Bytes) :
    fs.walkFrom who .behind (links + 1) loc (name :: rest) =
      fs.walkFrom who .behind links (if isAbsolute target then [] else loc)
        (namesOf target ++ rest) := by
  rw [walkFrom_eq, advance_cons who name rest hnode, hturn]
  simp [Turn.stop, Stop.settle, htarget]

/-- A walk goes on from where its first names lead, with the links that it has left. -/
theorem walkFrom_of_leads {names : List Bytes} {place : Location} {n : Nat}
    (h : fs.Leads who loc names place n) {links : Nat} (hlinks : n ≤ links) (more : List Bytes) :
    fs.walkFrom who .behind links loc (names ++ more) =
      fs.walkFrom who .behind (links - n) place more := by
  induction h generalizing links with
  | nil => rfl
  | slash hnode hdir _ ih =>
    rw [List.cons_append, walkFrom_of_goes hnode (turn_slash hdir), ih hlinks]
  | dot hnode hsearch _ ih =>
    rw [List.cons_append, walkFrom_of_goes hnode (turn_dot hsearch), ih hlinks]
  | dotDot hnode hsearch _ ih =>
    rw [List.cons_append, walkFrom_of_goes hnode (turn_dotDot hsearch), ih hlinks]
  | member hnode hsearch hname hmember hinner _ ih =>
    rw [List.cons_append, walkFrom_of_goes hnode (turn_member hname hsearch hmember hinner),
      ih hlinks]
  | link hnode hsearch hname hmember htarget _ ih =>
    obtain ⟨links, rfl⟩ : ∃ k, links = k + 1 := ⟨links - 1, by omega⟩
    rw [List.cons_append,
      walkFrom_of_follows hnode (turn_link hname hsearch hmember) htarget, ← List.append_assoc,
      ih (by omega), Nat.add_sub_add_right]

/-! ## Walks that find a place -/

theorem Leads.cons_of_goes {place : Location} {rest : List Bytes} {n : Nat}
    (hnode : fs.node? loc = some here) (hturn : turn who loc name here = .goes loc')
    (h : fs.Leads who loc' rest place n) : fs.Leads who loc (name :: rest) place n := by
  unfold turn at hturn
  split_ifs at hturn with hdir hempty hsearch hdot hup hlong
  · cases hturn
    rw [List.isEmpty_iff.mp hempty]
    exact .slash hnode (by simpa using hdir) h
  · cases hturn
    rw [beq_iff_eq.mp hdot]
    exact .dot hnode (by simpa using hsearch) h
  · cases hturn
    rw [beq_iff_eq.mp hup]
    exact .dotDot hnode (by simpa using hsearch) h
  · have hname : IsLookedUp name :=
      ⟨by simpa using hempty, by simpa using hdot, by simpa using hup, Nat.not_lt.mp hlong⟩
    cases hmember : here.member? name with
    | none => simp [hmember] at hturn
    | some inner =>
      cases inner with
      | link target => simp [hmember] at hturn
      | _ =>
        simp only [hmember, Turn.goes.injEq] at hturn
        subst hturn
        exact .member hnode (by simpa using hsearch) hname hmember rfl h

theorem Leads.cons_of_follows {place : Location} {target : Bytes} {rest : List Bytes} {n : Nat}
    (hnode : fs.node? loc = some here) (hturn : turn who loc name here = .follows target)
    (htarget : target ≠ [])
    (h : fs.Leads who (if isAbsolute target then [] else loc) (namesOf target ++ rest) place n) :
    fs.Leads who loc (name :: rest) place (n + 1) := by
  unfold turn at hturn
  split_ifs at hturn with hdir hempty hsearch hdot hup hlong
  have hname : IsLookedUp name :=
    ⟨by simpa using hempty, by simpa using hdot, by simpa using hup, Nat.not_lt.mp hlong⟩
  cases hmember : here.member? name with
  | none => simp [hmember] at hturn
  | some inner =>
    cases inner with
    | link found =>
      simp only [hmember, Turn.follows.injEq] at hturn
      subst hturn
      exact .link hnode (by simpa using hsearch) hname hmember htarget h
    | _ => simp [hmember] at hturn

/-- If a walk arrives without a link, its names lead there; and if it comes to a link, they lead to
where the link and the rest lead. -/
theorem leads_of_advance (fs : FileSystem) (who : Visitor) (loc : Location) (names : List Bytes) :
    (∀ place, fs.advance who .behind loc names = .arrived place →
      fs.Leads who loc names place 0) ∧
    ∀ dir target rest, fs.advance who .behind loc names = .link dir target rest → target ≠ [] →
      ∀ place n, fs.Leads who (if isAbsolute target then [] else dir) (namesOf target ++ rest)
        place n → fs.Leads who loc names place (n + 1) := by
  induction names generalizing loc with
  | nil =>
    constructor
    · intro place h
      cases h
      exact .nil
    · intro dir target rest h
      cases h
  | cons name rest ih =>
    cases hnode : fs.node? loc with
    | none => simp [advance, hnode]
    | some here =>
      rw [advance_cons who name rest hnode]
      cases hturn : turn who loc name here with
      | goes loc' =>
        obtain ⟨harrived, hlink⟩ := ih loc'
        refine ⟨fun place h => (harrived place h).cons_of_goes hnode hturn, ?_⟩
        intro dir target rest' h htarget place n hleads
        exact (hlink dir target rest' h htarget place n hleads).cons_of_goes hnode hturn
      | missing => cases rest <;> simp [Turn.stop]
      | follows found =>
        constructor
        · intro place h
          cases h
        · intro dir target rest' h htarget place n hleads
          cases h
          exact hleads.cons_of_follows hnode hturn htarget
      | fails e => simp [Turn.stop]

theorem exists_leads_of_walkFrom {links : Nat} {loc place : Location} {names : List Bytes}
    (h : fs.walkFrom who .behind links loc names = .ok (.found place)) :
    ∃ n ≤ links, fs.Leads who loc names place n := by
  obtain ⟨harrived, hlink⟩ := leads_of_advance fs who loc names
  rw [walkFrom_eq] at h
  cases hstop : fs.advance who .behind loc names with
  | arrived found =>
    rw [hstop] at h
    cases h
    exact ⟨0, Nat.zero_le _, harrived place hstop⟩
  | absent dir name =>
    rw [hstop] at h
    cases h
  | failed e =>
    rw [hstop] at h
    cases h
  | link dir target rest =>
    rw [hstop] at h
    cases links with
    | zero => cases h
    | succ links =>
      by_cases htarget : target = []
      · simp [Stop.settle, htarget] at h
      · have hrest : fs.walkFrom who .behind links (if isAbsolute target then [] else dir)
            (namesOf target ++ rest) = .ok (.found place) := by
          simpa [Stop.settle, htarget] using h
        obtain ⟨n, hn, hleads⟩ := exists_leads_of_walkFrom hrest
        exact ⟨n + 1, Nat.succ_le_succ hn, hlink dir target rest hstop htarget place n hleads⟩

/-- A walk finds the places to which its names lead with no more links than it may follow. -/
theorem walkFrom_found_iff {links : Nat} {names : List Bytes} {place : Location} :
    fs.walkFrom who .behind links loc names = .ok (.found place) ↔
      ∃ n ≤ links, fs.Leads who loc names place n := by
  refine ⟨exists_leads_of_walkFrom, ?_⟩
  rintro ⟨n, hn, h⟩
  have hwalk := walkFrom_of_leads h hn []
  rw [List.append_nil] at hwalk
  rw [hwalk, walkFrom_eq]
  rfl

end Walking

/-! ## A path with one more name -/

theorem reached_eq_ok_iff {fs : FileSystem} {walked : Except FileError Place} {node : Node} :
    fs.reached walked = .ok node ↔
      ∃ place, walked = .ok (.found place) ∧ fs.node? place = some node := by
  unfold reached
  cases walked with
  | error e => simp
  | ok place =>
    cases place with
    | free dir name => simp
    | found loc =>
      cases hnode : fs.node? loc with
      | none => simp [hnode]
      | some found => simp [hnode]

/-- The names of a path lead to a node, with a number of links that a walk may follow. -/
structure Reaches (fs : FileSystem) (who : Visitor) (path : Bytes) (loc : Location) (used : Nat)
    (here : Node) : Prop where
  leads : fs.Leads who (fs.start path) (partsOf path) loc used
  few : used ≤ maxLinks
  found : fs.node? loc = some here

theorem exists_reaches {fs : FileSystem} {who : Visitor} {path : Bytes} {here : Node}
    (h : fs.stat who path = .ok here) : ∃ loc used, fs.Reaches who path loc used here := by
  obtain ⟨loc, hwalk, hnode⟩ := denotes_of_stat h
  obtain ⟨left, hmore⟩ := walkFrom_partsOf hwalk
  have hparts : fs.walkFrom who .behind maxLinks (fs.start path) (partsOf path) =
      .ok (.found loc) := by
    rw [← List.append_nil (partsOf path), hmore, walkFrom_eq]
    rfl
  obtain ⟨used, hused, hleads⟩ := walkFrom_found_iff.mp hparts
  exact ⟨loc, used, hleads, hused, hnode⟩

/-- What a member of a directory leads to is what the path of the directory with its name leads
to, if that path can be walked. The links on both parts of the way count. -/
theorem Reaches.stat_child {fs : FileSystem} {who : Visitor} {path : Bytes} {loc : Location}
    {used : Nat} {here : Node} (h : fs.Reaches who path loc used here) {name : Bytes}
    (hname : IsName name) {node : Node} :
    fs.stat who (child path name) = .ok node ↔
      pathError? (child path name) = none ∧ ∃ place n, fs.Leads who loc [name] place n ∧
        used + n ≤ maxLinks ∧ fs.node? place = some node := by
  have hstart : fs.start (child path name) = fs.start path := by
    unfold start
    rw [isAbsolute_child path hname]
  have hnames : namesOf (child path name) = partsOf path ++ [name] := by
    rw [namesOf_eq, endsWith_child path hname, partsOf_child path hname, if_neg (by simp)]
  have hfew := h.few
  rw [stat_eq, walk_eq]
  cases pathError? (child path name) with
  | some e => simp [reached]
  | none =>
    dsimp only
    rw [hstart, hnames, walkFrom_of_leads h.leads h.few, reached_eq_ok_iff]
    simp only [walkFrom_found_iff, true_and]
    constructor
    · rintro ⟨place, ⟨n, hn, hleads⟩, hnode⟩
      exact ⟨place, n, hleads, by omega, hnode⟩
    · rintro ⟨place, n, hleads, hn, hnode⟩
      exact ⟨place, ⟨n, by omega, hleads⟩, hnode⟩

/-- A path can be walked if it has no zero byte, is not empty and is not too long. -/
theorem pathError?_eq_none_iff {path : Bytes} :
    pathError? path = none ↔ 0 ∉ path ∧ path ≠ [] ∧ path.length ≤ maxPath := by
  unfold pathError?
  split_ifs with hzero hempty hlong
  · simpa using fun h => absurd (List.contains_iff_mem.mp hzero) h
  · simp [List.isEmpty_iff.mp hempty]
  · simp only [false_iff]
    rintro ⟨-, -, hshort⟩
    omega
  · simp only [true_iff]
    exact ⟨by simpa using hzero, by simpa using hempty, Nat.not_lt.mp hlong⟩

end IsoServer.FileSystem
