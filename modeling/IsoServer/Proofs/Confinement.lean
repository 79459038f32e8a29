-- The law of the served directory: an answer that is not forwarded depends on nothing but the
-- request and what lies at and below the root. Two file systems that agree there cannot be told
-- apart, by whatever path.
import Mathlib
import IsoServer.Proofs.Walks
import IsoServer.Server.Respond

namespace IsoServer

/-! ## Trees without links -/

namespace Node

/-- A tree with no link at or below its top, in which directories hold names only that members
can have. -/
structure Plain (top : Node) : Prop where
  no_link : ∀ loc node, top.at? loc = some node → node.isLink = false
  names : ∀ loc mode modified members, top.at? loc = some (.dir mode modified members) →
    ∀ m ∈ members, FileSystem.IsName m.1

theorem Plain.member {top inner : Node} {name : Bytes} (h : top.Plain)
    (hmember : top.member? name = some inner) : inner.Plain := by
  have hat : ∀ loc, top.at? (name :: loc) = inner.at? loc := fun loc => by simp [at?, hmember]
  constructor
  · intro loc node hnode
    exact h.no_link (name :: loc) node (by rw [hat, hnode])
  · intro loc mode modified members hnode
    exact h.names (name :: loc) mode modified members (by rw [hat, hnode])

theorem Plain.noLinkAlong {top : Node} (h : top.Plain) (names : List Bytes) :
    top.NoLinkAlong names := by
  have hself : top.isLink = false := h.no_link [] top rfl
  induction names generalizing top with
  | nil => exact hself
  | cons name rest ih =>
    refine ⟨hself, fun inner hmember => ?_⟩
    have hinner := h.member hmember
    exact ih hinner (hinner.no_link [] inner rfl)

theorem plain_file (mode : Nat) (modified : Int) (content : Bytes) :
    (file mode modified content).Plain := by
  constructor
  · intro loc node h
    cases loc with
    | nil => cases h; rfl
    | cons name rest => simp [at?, member?] at h
  · intro loc mode' modified' members h
    cases loc with
    | nil => cases h
    | cons name rest => simp [at?, member?] at h

theorem plain_dir {mode : Nat} {modified : Int} {members : List (Bytes × Node)}
    (h : ∀ m ∈ members, FileSystem.IsName m.1 ∧ m.2.Plain) : (dir mode modified members).Plain := by
  have hinner : ∀ name inner, members.lookup name = some inner → inner.Plain := by
    intro name inner hlookup
    obtain ⟨before, after, hsplit, -⟩ := List.lookup_eq_some_iff.mp hlookup
    exact (h (name, inner) (by simp [hsplit])).2
  constructor
  · intro loc node hnode
    cases loc with
    | nil => cases hnode; rfl
    | cons name rest =>
      obtain ⟨inner, hlookup, hrest⟩ := Option.bind_eq_some_iff.mp hnode
      exact (hinner name inner hlookup).no_link rest node hrest
  · intro loc mode' modified' members' hnode
    cases loc with
    | nil =>
      cases hnode
      exact fun m hm => (h m hm).1
    | cons name rest =>
      obtain ⟨inner, hlookup, hrest⟩ := Option.bind_eq_some_iff.mp hnode
      exact (hinner name inner hlookup).names rest mode' modified' members' hrest

end Node

namespace Files

open FileSystem

/-! ## File systems that agree below a path -/

/-- Whatever names follow the root, both file systems lead to the same node, and the directories
there hold names that members can have. -/
structure AlikeBelow (who : Visitor) (root : Bytes) (fs₁ fs₂ : FileSystem) : Prop where
  stat_eq : ∀ names, (∀ name ∈ names, IsName name) →
    fs₁.stat who (extend root names) = fs₂.stat who (extend root names)
  names : ∀ names mode modified members, (∀ name ∈ names, IsName name) →
    fs₁.stat who (extend root names) = .ok (.dir mode modified members) →
    ∀ m ∈ members, IsName m.1

theorem alikeBelow_of_denotes {who : Visitor} {root : Bytes} {fs₁ fs₂ : FileSystem} {top : Node}
    (h₁ : fs₁.Denotes who root top) (h₂ : fs₂.Denotes who root top) (hplain : top.Plain) :
    AlikeBelow who root fs₁ fs₂ := by
  constructor
  · intro names hnames
    have hclear := hplain.noLinkAlong names
    rw [stat_extend h₁ hnames hclear, stat_extend h₂ hnames hclear]
  · intro names mode modified members hnames hstat
    rw [stat_extend h₁ hnames (hplain.noLinkAlong names)] at hstat
    cases herr : pathError? (extend root names) with
    | some e => simp [herr] at hstat
    | none =>
      rw [herr] at hstat
      exact hplain.names names mode modified members (Node.at?_of_descend hstat)

/-! ## Questions about one path -/

section OnePath

variable {who : Visitor} {fs₁ fs₂ : FileSystem} {path : Bytes}
  (h : fs₁.stat who path = fs₂.stat who path)

include h

theorem isDir_congr : fs₁.isDir who path = fs₂.isDir who path := by
  unfold FileSystem.isDir
  rw [h]

theorem isThere_congr : fs₁.isThere who path = fs₂.isThere who path := by
  unfold FileSystem.isThere
  rw [h]

theorem members_congr : fs₁.members who path = fs₂.members who path := by
  unfold FileSystem.members
  rw [h]

theorem openFor_congr (method : Method) :
    openFor fs₁ who method path = openFor fs₂ who method path := by
  unfold openFor FileSystem.openFile
  rw [h]

theorem serveAt_congr (request : Request) :
    serveAt fs₁ who request path = serveAt fs₂ who request path := by
  unfold serveAt
  rw [openFor_congr h]

end OnePath

/-! ## Answers -/

theorem isName_indexName : IsName indexName := by
  constructor <;> decide

theorem listable?_eq_extend {fs : FileSystem} {who : Visitor} {root path dir : Bytes}
    (h : listable? fs who root path = some dir) :
    ∃ names, (∀ name ∈ names, IsName name) ∧ dir = extend root names := by
  unfold listable? at h
  split_ifs at h
  cases hresolve : resolve root path with
  | none => simp [hresolve] at h
  | some found =>
    simp only [hresolve] at h
    split_ifs at h
    cases h
    exact resolve_eq_extend hresolve

section Answers

variable {who : Visitor} {root : Bytes} {fs₁ fs₂ : FileSystem} (h : AlikeBelow who root fs₁ fs₂)

include h

theorem AlikeBelow.stat_child {names : List Bytes} {name : Bytes}
    (hnames : ∀ n ∈ names, IsName n) (hname : IsName name) :
    fs₁.stat who (child (extend root names) name) =
      fs₂.stat who (child (extend root names) name) := by
  rw [← extend_concat]
  apply h.stat_eq
  intro n hn
  rcases List.mem_append.mp hn with hn | hn
  · exact hnames n hn
  · exact List.mem_singleton.mp hn ▸ hname

theorem readAll_congr {names : List Bytes} (hnames : ∀ n ∈ names, IsName n) :
    Entry.readAll fs₁ who (extend root names) = Entry.readAll fs₂ who (extend root names) := by
  unfold Entry.readAll
  rw [← members_congr (h.stat_eq names hnames)]
  cases hmembers : fs₁.members who (extend root names) with
  | error e => rfl
  | ok members =>
    have hreal : ∀ m ∈ members, IsName m.1 := by
      unfold FileSystem.members at hmembers
      split at hmembers
      · cases hmembers
      · rename_i mode modified ms hstat
        split_ifs at hmembers
        cases hmembers
        exact h.names names mode modified _ hnames hstat
      · cases hmembers
    have hrow : ∀ m ∈ members, Entry.ofMember fs₁ who (extend root names) m =
        Entry.ofMember fs₂ who (extend root names) m := by
      intro m hm
      unfold Entry.ofMember
      rw [isDir_congr (h.stat_child hnames (hreal m hm))]
    simp only [Except.map, List.map_congr_left hrow]

theorem listable?_congr (path : Bytes) :
    listable? fs₁ who root path = listable? fs₂ who root path := by
  unfold listable?
  cases hdir : resolve root path with
  | none => rfl
  | some dir =>
    obtain ⟨names, hnames, rfl⟩ := resolve_eq_extend hdir
    simp only [isDir_congr (h.stat_eq names hnames),
      isThere_congr (h.stat_child hnames isName_indexName)]

theorem listing_congr {path dir : Bytes} (hdir : listable? fs₁ who root path = some dir) :
    listing fs₁ who path dir = listing fs₂ who path dir := by
  obtain ⟨names, hnames, rfl⟩ := listable?_eq_extend hdir
  unfold listing
  rw [readAll_congr h hnames]

theorem serveFile_congr (request : Request) :
    serveFile fs₁ who root request = serveFile fs₂ who root request := by
  unfold serveFile
  cases hpath : servedPath root request.uri.path with
  | none => rfl
  | some path =>
    obtain ⟨names, hnames, rfl⟩ := servedPath_eq_extend hpath
    simp only [isDir_congr (h.stat_eq names hnames), serveAt_congr (h.stat_eq names hnames),
      serveAt_congr (h.stat_child hnames isName_indexName)]

end Answers

theorem serve_congr {config : FilesConfig} {who : Visitor} {fs₁ fs₂ : FileSystem}
    (h : AlikeBelow who config.root fs₁ fs₂) (request : Request) :
    serve config fs₁ who request = serve config fs₂ who request := by
  unfold serve
  simp only
  rw [← listable?_congr h, ← serveFile_congr h]
  split
  · rename_i dir hdir
    split_ifs at hdir
    rw [listing_congr h hdir]
  · rfl

end Files

/-! ## The law -/

/-- Nothing outside the root shows. If the root denotes the same tree without links in two file
systems, then the server gives the same response to every request that is not forwarded,
whatever else the two hold and whatever the request asks for. -/
theorem what_lies_outside_the_root_never_shows (server : Server) (world₁ world₂ : Server.World)
    (request : Request) (top : Node) (hstatic : Server.forwarded? request = none)
    (hwho : world₁.who = world₂.who)
    (h₁ : world₁.fs.Denotes world₁.who server.files.root top)
    (h₂ : world₂.fs.Denotes world₂.who server.files.root top) (hplain : top.Plain) :
    server.respond world₁ request = server.respond world₂ request := by
  have halike : Files.AlikeBelow world₁.who server.files.root world₁.fs world₂.fs :=
    Files.alikeBelow_of_denotes h₁ (hwho ▸ h₂) hplain
  unfold Server.respond Server.dispatch
  simp only [hstatic]
  rw [← hwho, Files.serve_congr halike]

/-- A directory to serve, with one page in a directory of its own. -/
def sampleTop : Node :=
  .dir 0o755 0 [(Bytes.ofString "docs", .dir 0o755 0
    [(Bytes.ofString "a.txt", .file 0o644 1700000000 (Bytes.ofString "hello"))])]

/-- The directory at `/srv`, and a file beside it. -/
def sampleSystem : FileSystem :=
  { top := .dir 0o755 0 [(Bytes.ofString "srv", sampleTop),
      (Bytes.ofString "secret", .file 0o644 0 (Bytes.ofString "!"))] }

/-- The same directory behind a link, and no file beside it. -/
def linkedSystem : FileSystem :=
  { top := .dir 0o755 0 [(Bytes.ofString "data", sampleTop),
      (Bytes.ofString "srv", .link (Bytes.ofString "data"))] }

def sampleServer : Server :=
  { files := { root := Bytes.ofString "/srv/" }
    client := { userAgent := Bytes.ofString "curl/7.88.1", maxRedirects := 10 } }

theorem plain_sampleTop : sampleTop.Plain := by
  have hpage : ∀ m ∈ [(Bytes.ofString "a.txt",
      Node.file 0o644 1700000000 (Bytes.ofString "hello"))],
      FileSystem.IsName m.1 ∧ m.2.Plain := by
    intro m hm
    rw [List.mem_singleton.mp hm]
    exact ⟨by constructor <;> decide, Node.plain_file ..⟩
  refine Node.plain_dir fun m hm => ?_
  rw [List.mem_singleton.mp hm]
  exact ⟨by constructor <;> decide, Node.plain_dir hpage⟩

/-- A request with escaped dots for a file beside the root is answered alike, be the file there
or not. -/
theorem a_secret_beside_the_root_never_shows :
    sampleSystem.isThere .other (Bytes.ofString "/srv/../secret") = true ∧
    linkedSystem.isThere .other (Bytes.ofString "/srv/../secret") = false ∧
    sampleServer.respond { fs := sampleSystem }
        { method := .get, uri := { path := Bytes.ofString "/docs/%2e%2e/..%2fsecret" } } =
      sampleServer.respond { fs := linkedSystem }
        { method := .get, uri := { path := Bytes.ofString "/docs/%2e%2e/..%2fsecret" } } := by
  refine ⟨by decide, by decide, ?_⟩
  exact what_lies_outside_the_root_never_shows sampleServer _ _ _ sampleTop rfl rfl
    (FileSystem.denotes_of_stat rfl) (FileSystem.denotes_of_stat rfl) plain_sampleTop

end IsoServer
