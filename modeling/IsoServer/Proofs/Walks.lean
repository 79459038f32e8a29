-- How walks go on. A walk over the names of one path and then those of another is the first
-- walk and then the second from where it came to. Below a place without links the walk only
-- looks at what lies there.
import Mathlib
import IsoServer.Proofs.Names

namespace IsoServer

namespace FileSystem

/-! ## One name -/

/-- What one name of a walk does. -/
inductive Turn where
  | goes (loc : Location)
  | missing
  | follows (target : Bytes)
  | fails (error : FileError)

/-- What a name does in the node at `loc` if links are followed. -/
def turn (who : Visitor) (loc : Location) (name : Bytes) (here : Node) : Turn :=
  if !here.isDir then .fails .notADirectory
  else if name.isEmpty then .goes loc
  else if !here.searchable who then .fails .permissionDenied
  else if name == dot then .goes loc
  else if name == dotDot then .goes loc.dropLast
  else if name.length > maxName then .fails .nameTooLong
  else
    match here.member? name with
    | none => .missing
    | some (.link target) => .follows target
    | some _ => .goes (loc ++ [name])

/-- The empty name behind a slash asks for a directory and stays where it is. -/
theorem turn_nil (who : Visitor) (loc : Location) (here : Node) :
    turn who loc [] here = if !here.isDir then .fails .notADirectory else .goes loc := by
  simp [turn]

/-- Where the walk comes to after a name and those behind it. -/
def Turn.stop (fs : FileSystem) (who : Visitor) (dir : Location) (name : Bytes)
    (rest : List Bytes) : Turn → Stop
  | .goes loc => fs.advance who .behind loc rest
  | .missing => if rest.isEmpty then .absent dir name else .failed .notFound
  | .follows target => .link dir target rest
  | .fails e => .failed e

theorem advance_cons {fs : FileSystem} {loc : Location} {here : Node} (who : Visitor)
    (name : Bytes) (rest : List Bytes) (h : fs.node? loc = some here) :
    fs.advance who .behind loc (name :: rest) =
      (turn who loc name here).stop fs who loc name rest := by
  have hfile : (Aim.behind == Aim.file) = false := rfl
  have hself : (Aim.behind == Aim.itself) = false := rfl
  unfold turn
  simp only [advance, h, hfile, hself, Bool.false_and, Bool.and_false, Bool.false_eq_true,
    if_false]
  split_ifs
  all_goals try rfl
  all_goals
    cases here.member? name with
    | none => simp_all [Turn.stop]
    | some inner => cases inner <;> rfl

/-! ## Walks in two parts -/

/-- Where a walk comes to that goes on with more names. -/
def Stop.onward (fs : FileSystem) (who : Visitor) (more : List Bytes) : Stop → Stop
  | .arrived loc => fs.advance who .behind loc more
  | .absent dir name => if more.isEmpty then .absent dir name else .failed .notFound
  | .link dir target rest => .link dir target (rest ++ more)
  | .failed e => .failed e

theorem advance_append (fs : FileSystem) (who : Visitor) (loc : Location)
    (names more : List Bytes) :
    fs.advance who .behind loc (names ++ more) =
      (fs.advance who .behind loc names).onward fs who more := by
  induction names generalizing loc with
  | nil => rfl
  | cons name rest ih =>
    rw [List.cons_append]
    cases hnode : fs.node? loc with
    | none => simp [advance, hnode, Stop.onward]
    | some here =>
      rw [advance_cons who name _ hnode, advance_cons who name _ hnode]
      cases turn who loc name here with
      | goes loc' => exact ih loc'
      | missing => cases rest <;> simp [Turn.stop, Stop.onward]
      | follows target => rfl
      | fails e => rfl

/-- Where a walk leads that stopped, with the links that it may still follow. -/
def Stop.settle (fs : FileSystem) (who : Visitor) (links : Nat) : Stop → Except FileError Place
  | .arrived loc => .ok (.found loc)
  | .absent dir name => .ok (.free dir name)
  | .failed e => .error e
  | .link dir target rest =>
    match links with
    | 0 => .error .tooManyLinks
    | links + 1 =>
      if target.isEmpty then .error .notFound
      else
        fs.walkFrom who .behind links (if isAbsolute target then [] else dir)
          (namesOf target ++ rest)

theorem walkFrom_eq (fs : FileSystem) (who : Visitor) (links : Nat) (loc : Location)
    (names : List Bytes) :
    fs.walkFrom who .behind links loc names =
      (fs.advance who .behind loc names).settle fs who links := by
  cases links <;> rw [walkFrom] <;> cases fs.advance who .behind loc names <;> rfl

/-- A walk that comes to a place goes on from there, with the links that it has left. Any other
walk comes to no place, whatever names follow. -/
theorem walkFrom_append (fs : FileSystem) (who : Visitor) (links : Nat) (loc : Location)
    (names : List Bytes) :
    (∃ place left, fs.walkFrom who .behind links loc names = .ok (.found place) ∧
      ∀ more, fs.walkFrom who .behind links loc (names ++ more) =
        fs.walkFrom who .behind left place more) ∨
    ∀ place more, fs.walkFrom who .behind links loc (names ++ more) ≠ .ok (.found place) := by
  simp only [walkFrom_eq fs who links, advance_append]
  cases fs.advance who .behind loc names with
  | arrived place => exact .inl ⟨place, links, rfl, fun more => (walkFrom_eq ..).symm⟩
  | absent dir name =>
    refine .inr fun place more => ?_
    unfold Stop.onward
    split_ifs <;> simp [Stop.settle]
  | failed e => exact .inr fun place more => by simp [Stop.onward, Stop.settle]
  | link dir target rest =>
    simp only [Stop.onward, Stop.settle]
    cases links with
    | zero => exact .inr fun place more => by simp
    | succ links =>
      by_cases hempty : target.isEmpty
      · exact .inr fun place more => by simp [hempty]
      · -- the names of the target come in front of those that are left
        simp only [hempty, Bool.false_eq_true, if_false, ← List.append_assoc]
        exact walkFrom_append fs who links _ (namesOf target ++ rest)

end FileSystem

/-! ## Walks without links -/

namespace Node

theorem at?_append (loc rest : Location) (node : Node) :
    node.at? (loc ++ rest) = (node.at? loc).bind (at? rest) := by
  induction loc generalizing node with
  | nil => rfl
  | cons name loc ih =>
    rw [List.cons_append, at?, at?]
    cases node.member? name with
    | none => rfl
    | some inner => exact ih inner

/-- What names lead to from a node if there is no link on the way. -/
def descend (who : Visitor) : List Bytes → Node → Except FileError Node
  | [], here => .ok here
  | name :: rest, here =>
    if !here.isDir then .error .notADirectory
    else if !here.searchable who then .error .permissionDenied
    else if name.length > FileSystem.maxName then .error .nameTooLong
    else
      match here.member? name with
      | none => .error .notFound
      | some inner => inner.descend who rest

/-- There is no link on the way down the names, at neither of its ends either. -/
def NoLinkAlong : List Bytes → Node → Prop
  | [], here => here.isLink = false
  | name :: rest, here =>
    here.isLink = false ∧ ∀ inner, here.member? name = some inner → inner.NoLinkAlong rest

theorem NoLinkAlong.not_link {names : List Bytes} {here : Node} (h : here.NoLinkAlong names) :
    here.isLink = false := by
  cases names with
  | nil => exact h
  | cons name rest => exact h.1

theorem at?_of_descend {who : Visitor} {names : List Bytes} {here node : Node}
    (h : here.descend who names = .ok node) : here.at? names = some node := by
  induction names generalizing here with
  | nil => simpa [descend, at?] using h
  | cons name rest ih =>
    unfold descend at h
    split_ifs at h
    cases hmember : here.member? name with
    | none => simp [hmember] at h
    | some inner =>
      rw [hmember] at h
      rw [at?, hmember]
      exact ih h

end Node

namespace FileSystem

theorem node?_concat {fs : FileSystem} {loc : Location} {here : Node} (name : Bytes)
    (h : fs.node? loc = some here) : fs.node? (loc ++ [name]) = here.member? name := by
  unfold node? at h ⊢
  rw [Node.at?_append, h]
  simp [Node.at?]

theorem advance_below {fs : FileSystem} {loc : Location} {here : Node} {names : List Bytes}
    (who : Visitor) (hnode : fs.node? loc = some here) (hnames : ∀ name ∈ names, IsName name)
    (hclear : here.NoLinkAlong names) :
    (∃ place node, fs.advance who .behind loc names = .arrived place ∧
      fs.node? place = some node ∧ here.descend who names = .ok node) ∨
    (∃ dir name, fs.advance who .behind loc names = .absent dir name ∧
      here.descend who names = .error .notFound) ∨
    ∃ e, fs.advance who .behind loc names = .failed e ∧ here.descend who names = .error e := by
  induction names generalizing loc here with
  | nil => exact .inl ⟨loc, here, rfl, hnode, rfl⟩
  | cons name rest ih =>
    have hname := hnames name (List.mem_cons_self ..)
    rw [advance_cons who name rest hnode]
    unfold turn Node.descend
    have hempty : name.isEmpty = false := by simpa using hname.nonempty
    have hdot : (name == dot) = false := by simpa using hname.not_dot
    have hup : (name == dotDot) = false := by simpa using hname.not_dotDot
    simp only [hempty, hdot, hup, Bool.false_eq_true, if_false]
    split_ifs
    · exact .inr (.inr ⟨_, rfl, rfl⟩)
    · exact .inr (.inr ⟨_, rfl, rfl⟩)
    · exact .inr (.inr ⟨_, rfl, rfl⟩)
    · cases hmember : here.member? name with
      | none =>
        cases rest with
        | nil => exact .inr (.inl ⟨loc, name, rfl, rfl⟩)
        | cons next rest => exact .inr (.inr ⟨_, rfl, rfl⟩)
      | some inner =>
        have hinner := hclear.2 inner hmember
        have hnext : fs.node? (loc ++ [name]) = some inner := by
          rw [node?_concat name hnode, hmember]
        have hrest := ih hnext (fun n hn => hnames n (List.mem_cons_of_mem _ hn)) hinner
        cases inner with
        | link target => exact absurd hinner.not_link (by simp [Node.isLink])
        | file mode modified content => exact hrest
        | dir mode modified members => exact hrest

/-! ## The node behind a path -/

/-- The node at the end of a walk. -/
def reached (fs : FileSystem) : Except FileError Place → Except FileError Node
  | .error e => .error e
  | .ok (.free _ _) => .error .notFound
  | .ok (.found loc) =>
    match fs.node? loc with
    | some node => .ok node
    | none => .error .notFound

theorem reached_below {fs : FileSystem} {loc : Location} {here : Node} {names : List Bytes}
    (who : Visitor) (links : Nat) (hnode : fs.node? loc = some here)
    (hnames : ∀ name ∈ names, IsName name) (hclear : here.NoLinkAlong names) :
    fs.reached (fs.walkFrom who .behind links loc names) = here.descend who names := by
  rw [walkFrom_eq]
  rcases advance_below who hnode hnames hclear with
    ⟨place, node, hstop, hplace, hdown⟩ | ⟨dir, name, hstop, hdown⟩ | ⟨e, hstop, hdown⟩
  · rw [hstop, hdown]
    simp [Stop.settle, reached, hplace]
  · rw [hstop, hdown]
    rfl
  · rw [hstop, hdown]
    rfl

/-- Why a path cannot be walked, whatever there is in the file system. -/
def pathError? (path : Bytes) : Option FileError :=
  if path.contains 0 then some .nulInPath
  else if path.isEmpty then some .notFound
  else if path.length > maxPath then some .nameTooLong
  else none

/-- Where the walk of a path starts. -/
def start (fs : FileSystem) (path : Bytes) : Location :=
  if isAbsolute path then [] else fs.workingDirectory

theorem walk_eq (fs : FileSystem) (who : Visitor) (aim : Aim) (path : Bytes) :
    fs.walk who aim path =
      match pathError? path with
      | some e => .error e
      | none => fs.walkFrom who aim maxLinks (fs.start path) (namesOf path) := by
  unfold walk pathError?
  by_cases hzero : path.contains 0
  · simp only [hzero, if_true]
  · by_cases hempty : path.isEmpty
    · simp only [hzero, hempty, Bool.false_eq_true, if_true, if_false]
    · by_cases hlong : path.length > maxPath
      · simp only [hzero, hempty, hlong, Bool.false_eq_true, if_true, if_false]
      · simp only [hzero, hempty, hlong, Bool.false_eq_true, if_false]
        rfl

theorem stat_eq (fs : FileSystem) (who : Visitor) (path : Bytes) :
    fs.stat who path = fs.reached (fs.walk who .behind path) := by
  unfold stat find
  cases fs.walk who .behind path with
  | error e => rfl
  | ok place => cases place <;> rfl

/-- The walk of a path comes to a node. The empty path denotes the directory from which relative
paths start. -/
def Denotes (fs : FileSystem) (who : Visitor) (path : Bytes) (node : Node) : Prop :=
  ∃ loc, fs.walkFrom who .behind maxLinks (fs.start path) (namesOf path) = .ok (.found loc) ∧
    fs.node? loc = some node

theorem denotes_of_stat {fs : FileSystem} {who : Visitor} {path : Bytes} {node : Node}
    (h : fs.stat who path = .ok node) : fs.Denotes who path node := by
  rw [stat_eq, walk_eq] at h
  unfold Denotes
  cases hpath : pathError? path with
  | some e => simp [hpath, reached] at h
  | none =>
    rw [hpath] at h
    cases hwalk : fs.walkFrom who .behind maxLinks (fs.start path) (namesOf path) with
    | error e => simp [hwalk, reached] at h
    | ok place =>
      cases place with
      | free dir name => simp [hwalk, reached] at h
      | found loc =>
        refine ⟨loc, rfl, ?_⟩
        cases hnode : fs.node? loc with
        | none => simp [hwalk, reached, hnode] at h
        | some node' => simpa [hwalk, reached, hnode] using h

theorem walkFrom_slash {fs : FileSystem} {who : Visitor} {links : Nat} {loc place : Location}
    (h : fs.walkFrom who .behind links loc [[]] = .ok (.found place)) : place = loc := by
  rw [walkFrom_eq] at h
  cases hnode : fs.node? loc with
  | none => simp [advance, hnode, Stop.settle] at h
  | some here =>
    rw [advance_cons who [] [] hnode, turn_nil] at h
    split_ifs at h
    · cases h
    · cases h
      rfl

/-- A path that leads somewhere leads there without the slashes at its end, and goes on from
there. -/
theorem walkFrom_partsOf {fs : FileSystem} {who : Visitor} {path : Bytes} {links : Nat}
    {loc place : Location}
    (h : fs.walkFrom who .behind links loc (namesOf path) = .ok (.found place)) :
    ∃ left, ∀ more, fs.walkFrom who .behind links loc (partsOf path ++ more) =
      fs.walkFrom who .behind left place more := by
  rw [namesOf_eq] at h
  rcases walkFrom_append fs who links loc (partsOf path) with ⟨mid, left, hmid, hmore⟩ | hno
  · refine ⟨left, ?_⟩
    split_ifs at h
    · rw [hmore] at h
      rwa [walkFrom_slash h]
    · rw [hmid] at h
      cases h
      exact hmore
  · split_ifs at h
    · exact absurd h (hno place [[]])
    · exact absurd (by simpa using h) (hno place [])

end FileSystem

namespace Files

open FileSystem

/-- The node behind a path below the root. With no link on the way, all that decides is the path
itself and what the root denotes. -/
theorem stat_extend {fs : FileSystem} {who : Visitor} {root : Bytes} {here : Node}
    {names : List Bytes} (hroot : fs.Denotes who root here) (hnames : ∀ name ∈ names, IsName name)
    (hclear : here.NoLinkAlong names) :
    fs.stat who (extend root names) =
      match pathError? (extend root names) with
      | some e => .error e
      | none => here.descend who names := by
  obtain ⟨loc, hwalk, hnode⟩ := hroot
  rw [stat_eq, walk_eq]
  cases pathError? (extend root names) with
  | some e => rfl
  | none =>
    by_cases hne : names = []
    · subst hne
      have hself : extend root [] = root := rfl
      simp [hself, hwalk, reached, hnode, Node.descend]
    · obtain ⟨left, hmore⟩ := walkFrom_partsOf hwalk
      have hstart : fs.start (extend root names) = fs.start root := by
        unfold start
        rw [isAbsolute_extend root hnames]
      simp only [hstart, namesOf_extend root hnames hne, hmore]
      exact reached_below who left hnode hnames hclear

end Files

end IsoServer
