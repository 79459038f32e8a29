-- Listings on and off. A server without listings differs from one with them only where a listing
-- would be shown: for a path with a slash at its end that leads to a directory without an index
-- page. There it has an error to give and nothing else.
import Mathlib
import IsoServer.Proofs.Discretion
import IsoServer.Proofs.Heads

namespace IsoServer

/-! ## Directories and index pages -/

namespace FileSystem

theorem isDir_iff {fs : FileSystem} {who : Visitor} {path : Bytes} :
    fs.isDir who path = true ↔ ∃ here, fs.stat who path = .ok here ∧ here.isDir = true := by
  unfold isDir
  cases fs.stat who path with
  | error e => simp
  | ok here => simp

theorem isThere_eq_false_iff {fs : FileSystem} {who : Visitor} {path : Bytes} :
    fs.isThere who path = false ↔ ∃ e, fs.stat who path = .error e := by
  unfold isThere
  cases fs.stat who path with
  | error e => simp
  | ok here => simp

end FileSystem

/-- The rows of a directory are there if it can be read, and not otherwise. -/
theorem Entry.readAll_of_stat {fs : FileSystem} {who : Visitor} {dir : Bytes} {here : Node}
    (hstat : fs.stat who dir = .ok here) (hdir : here.isDir = true) :
    (here.readable who = true → ∃ rows, readAll fs who dir = .ok rows) ∧
    (here.readable who = false → readAll fs who dir = .error .permissionDenied) := by
  cases here with
  | file mode modified content => cases hdir
  | link target => cases hdir
  | dir mode modified members =>
    have hmembers : fs.members who dir =
        if (Node.dir mode modified members).readable who then .ok members
        else .error .permissionDenied := by
      unfold FileSystem.members
      rw [hstat]
    unfold readAll
    rw [hmembers]
    refine ⟨fun hreadable => ?_, fun hreadable => ?_⟩
    · rw [if_pos hreadable]
      exact ⟨_, rfl⟩
    · rw [if_neg (by simp [hreadable])]
      rfl

namespace Files

theorem listable?_eq_some_iff {fs : FileSystem} {who : Visitor} {root path dir : Bytes} :
    listable? fs who root path = some dir ↔
      Bytes.endsWith path 0x2F = true ∧ resolve root path = some dir ∧
      fs.isDir who dir = true ∧ fs.isThere who (FileSystem.child dir indexName) = false := by
  unfold listable?
  cases Bytes.endsWith path 0x2F with
  | false => simp
  | true =>
    cases resolve root path with
    | none => simp
    | some found =>
      constructor
      · intro h
        simp only [Bool.not_true, Bool.false_eq_true, if_false] at h
        split_ifs at h with hnot
        cases h
        simpa using hnot
      · rintro ⟨-, hfound, hdir, hindex⟩
        cases hfound
        simp [hdir, hindex]

/-- Asking for what is not there gives an error without a body. -/
theorem serveAt_of_error {fs : FileSystem} {who : Visitor} {path : Bytes} {e : FileError}
    (h : fs.stat who path = .error e) (request : Request) :
    ∃ status, (status = 404 ∨ status = 500) ∧
      serveAt fs who request path = some (.ofStatus status) := by
  have hopen : openFor fs who request.method path = .error e := by
    unfold openFor FileSystem.openFile
    rw [h]
    split <;> rfl
  unfold serveAt
  rw [hopen]
  cases e with
  | nulInPath =>
    dsimp only
    split
    · exact ⟨500, .inr rfl, rfl⟩
    · exact ⟨404, .inl rfl, rfl⟩
  | notFound => exact ⟨404, .inl rfl, rfl⟩
  | permissionDenied => exact ⟨404, .inl rfl, rfl⟩
  | notADirectory => exact ⟨404, .inl rfl, rfl⟩
  | _ => exact ⟨500, .inr rfl, rfl⟩

end Files

/-! ## Requests that lead to a listing -/

/-- A request leads to a listing of a directory, if listings are on: it is for a file or for the
head of one, its path has a slash at the end and leads to the directory, and there no index page is
found, links followed. -/
structure Request.LeadsToListing (request : Request) (fs : FileSystem) (who : Visitor)
    (root dir : Bytes) (here : Node) : Prop where
  forFile : request.IsForFile
  method : request.method = .get ∨ request.method = .head
  slash : ∃ front, request.uri.path = front ++ [0x2F]
  resolves : Files.resolve root request.uri.path = some dir
  found : fs.stat who dir = .ok here
  directory : here.isDir = true
  noIndex : ∀ node, fs.stat who (FileSystem.child dir Files.indexName) ≠ .ok node

/-- The page that shows rows to a request for a path. -/
def pageFor (path : Bytes) (rows : List Entry) : Bytes :=
  Bytes.ofString (Listing.render (Utf8.decodeLossy (Percent.decode path)) rows)

/-- A response that shows rows, or says how long their page is if only the head was asked for. -/
structure ShowsRows (request : Request) (rows : List Entry) (r : Response) : Prop where
  status : r.status = 200
  mediaType : r.headers.values "content-type" = [Bytes.ofString "text/html; charset=utf-8"]
  length : r.headers.values "content-length" =
    [Bytes.decimal (pageFor request.uri.path rows).length]
  content : r.body.content =
    if request.method = .head then [] else pageFor request.uri.path rows
  uncut : r.body.cut = false

/-- A response that says that a directory may not be listed. -/
structure RefusesRows (request : Request) (r : Response) : Prop where
  status : r.status = 404
  content : r.body.content =
    if request.method = .head then [] else Bytes.ofString "No permission to list directory"
  uncut : r.body.cut = false

/-- A response with the status of an error and without a body. -/
structure IsBareError (r : Response) : Prop where
  status : 400 ≤ r.status ∧ r.status ≤ 599
  content : r.body.content = []
  uncut : r.body.cut = false

namespace Request.LeadsToListing

variable {request : Request} {fs : FileSystem} {who : Visitor} {root dir : Bytes} {here : Node}

theorem endsWith (h : request.LeadsToListing fs who root dir here) :
    Bytes.endsWith request.uri.path 0x2F = true := Bytes.endsWith_iff.mpr h.slash

theorem isDir (h : request.LeadsToListing fs who root dir here) : fs.isDir who dir = true :=
  FileSystem.isDir_iff.mpr ⟨here, h.found, h.directory⟩

theorem index_error (h : request.LeadsToListing fs who root dir here) :
    ∃ e, fs.stat who (FileSystem.child dir Files.indexName) = .error e := by
  cases hindex : fs.stat who (FileSystem.child dir Files.indexName) with
  | error e => exact ⟨e, rfl⟩
  | ok node => exact absurd hindex (h.noIndex node)

theorem listable? (h : request.LeadsToListing fs who root dir here) :
    Files.listable? fs who root request.uri.path = some dir :=
  Files.listable?_eq_some_iff.mpr ⟨h.endsWith, h.resolves, h.isDir,
    FileSystem.isThere_eq_false_iff.mpr h.index_error⟩

/-- With listings on, the directory is listed. -/
theorem serve_on (h : request.LeadsToListing fs who root dir here) :
    Files.serve { root, directoryListing := true } fs who request =
      some (Files.listing fs who request.uri.path dir) := by
  unfold Files.serve
  rcases h.method with hmethod | hmethod <;> simp [hmethod, h.listable?]

/-- With listings off, the missing index page is an error, and so is a path that the file service
does not accept. -/
theorem serve_off (h : request.LeadsToListing fs who root dir here) :
    ∃ status, (status = 404 ∨ status = 500) ∧
      Files.serve { root, directoryListing := false } fs who request =
        some (.ofStatus status) := by
  have hfile : Files.serve { root, directoryListing := false } fs who request =
      Files.serveFile fs who root request := rfl
  rw [hfile]
  have hasked : (request.method != .get && request.method != .head) = false := by
    rcases h.method with hmethod | hmethod <;> simp [hmethod]
  unfold Files.serveFile
  rw [hasked]
  cases hpath : Files.servedPath root request.uri.path with
  | none => exact ⟨404, .inl rfl, rfl⟩
  | some path =>
    have hsame := Files.resolve_of_servedPath hpath
    rw [h.resolves] at hsame
    cases hsame
    obtain ⟨e, hindex⟩ := h.index_error
    simpa [h.isDir, h.endsWith] using Files.serveAt_of_error hindex request

end Request.LeadsToListing

/-- Where no listing is shown, it does not matter whether listings are on. -/
theorem Files.serve_eq_of_no_listing {fs : FileSystem} {who : Visitor} {root : Bytes}
    {request : Request} (hfile : request.IsForFile)
    (h : ¬ ∃ dir here, request.LeadsToListing fs who root dir here) :
    serve { root, directoryListing := true } fs who request =
      serve { root, directoryListing := false } fs who request := by
  by_cases hmethod : request.method = .get ∨ request.method = .head
  · have hnone : listable? fs who root request.uri.path = none := by
      by_contra hsome
      obtain ⟨dir, hdir⟩ := Option.ne_none_iff_exists'.mp hsome
      obtain ⟨hends, hresolve, hisDir, hindex⟩ := listable?_eq_some_iff.mp hdir
      obtain ⟨here, hfound, hhere⟩ := FileSystem.isDir_iff.mp hisDir
      obtain ⟨e, herror⟩ := FileSystem.isThere_eq_false_iff.mp hindex
      refine h ⟨dir, here, hfile, hmethod, Bytes.endsWith_iff.mp hends, hresolve, hfound, hhere, ?_⟩
      intro node hnode
      rw [herror] at hnode
      cases hnode
    unfold serve
    simp [hnone]
  · obtain ⟨hget, hhead⟩ := not_or.mp hmethod
    rw [serve_of_other_method _ _ _ hget hhead, serve_of_other_method _ _ _ hget hhead]

/-! ## Responses -/

namespace Server

/-- What is delivered of an answer of the file service. -/
theorem delivered_of_serve {server : Server} {world : World} {request : Request}
    {plain : Response} (hfile : request.IsForFile)
    (h : Files.serve server.files world.fs world.who request = some plain) :
    ∃ response, server.respond world request = (some response, []) ∧
      Delivered request.method plain response := by
  rw [respond_of_isForFile server world hfile, h]
  exact ⟨_, rfl, delivered_isolate (Files.allLower_serve h) (Files.not_tunnel h)⟩

end Server

section Delivering

theorem Delivered.content {method : Method} {plain r : Response} (h : Delivered method plain r) :
    r.body.content = if method = .head then [] else plain.body.content := by
  rw [h.body]
  split_ifs <;> rfl

theorem Delivered.uncut {method : Method} {plain r : Response} (h : Delivered method plain r)
    (hwhole : plain.body.cut = false) : r.body.cut = false := by
  rw [h.body]
  split_ifs
  · rfl
  · exact hwhole

variable {request : Request} {r : Response}

theorem showsRows_of_delivered {fs : FileSystem} {who : Visitor} {dir : Bytes} {rows : List Entry}
    (hrows : Entry.readAll fs who dir = .ok rows)
    (h : Delivered request.method (Files.listing fs who request.uri.path dir) r) :
    ShowsRows request rows r := by
  have hplain : Files.listing fs who request.uri.path dir =
      { status := 200
        headers := [("content-type", Bytes.ofString "text/html; charset=utf-8")]
        body := { content := pageFor request.uri.path rows } } := by
    unfold Files.listing
    rw [hrows]
    rfl
  rw [hplain] at h
  refine ⟨h.status, ?_, ?_, ?_, h.uncut rfl⟩
  · exact h.others "content-type" (by decide) (by decide) (by decide)
  · rw [h.lengths]
    generalize pageFor request.uri.path rows = page
    rfl
  · rw [h.content]

theorem refusesRows_of_delivered {fs : FileSystem} {who : Visitor} {dir : Bytes} {e : FileError}
    (hrows : Entry.readAll fs who dir = .error e)
    (h : Delivered request.method (Files.listing fs who request.uri.path dir) r) :
    RefusesRows request r := by
  have hplain : Files.listing fs who request.uri.path dir =
      .plainText 404 "No permission to list directory" := by
    unfold Files.listing
    rw [hrows]
  rw [hplain] at h
  refine ⟨h.status, ?_, h.uncut rfl⟩
  rw [h.content]
  rfl

theorem isBareError_of_delivered {status : Nat} (hstatus : status = 404 ∨ status = 500)
    (h : Delivered request.method (.ofStatus status) r) : IsBareError r := by
  refine ⟨?_, ?_, h.uncut rfl⟩
  · have hsame : r.status = status := h.status
    omega
  · rw [h.content]
    split_ifs <;> rfl

end Delivering

/-! ## The law -/

/-- A configuration with listings on or off. -/
def ServeConfig.withListings (config : ServeConfig) (listed : Bool) : ServeConfig :=
  { config with files := { config.files with directoryListing := listed } }

/-- Switching listings off removes listings and nothing else. Two servers that are set up alike,
one with listings on and one with listings off, respond alike to every request that does not lead
to a listing. To one that does, the first responds with the rows of the directory, or says that it
may not be listed if it cannot be read; the second responds with an error and nothing else. -/
theorem switching_listings_off_removes_nothing_else (config : ServeConfig)
    (env : Proxy.Environment) (on off : Server)
    (hon : Server.create (config.withListings true) env = .ok on)
    (hoff : Server.create (config.withListings false) env = .ok off) (world : Server.World)
    (request : Request) :
    ((¬ ∃ dir here, request.LeadsToListing world.fs world.who config.files.root dir here) →
      on.respond world request = off.respond world request) ∧
    ∀ dir here, request.LeadsToListing world.fs world.who config.files.root dir here →
      ∃ listed plain, on.respond world request = (some listed, []) ∧
        off.respond world request = (some plain, []) ∧
        (here.readable world.who = true →
          ∃ rows, Entry.readAll world.fs world.who dir = .ok rows ∧
            ShowsRows request rows listed) ∧
        (here.readable world.who = false → RefusesRows request listed) ∧
        IsBareError plain := by
  have hfiles₁ : on.files = { root := config.files.root, directoryListing := true } :=
    Server.files_of_create hon
  have hfiles₂ : off.files = { root := config.files.root, directoryListing := false } :=
    Server.files_of_create hoff
  have hclient : on.client = off.client := by
    have hsame := Server.client_of_create hon
    have hother := Server.client_of_create hoff
    exact Option.some.inj (hsame.symm.trans hother)
  refine ⟨fun hnone => ?_, fun dir here h => ?_⟩
  · by_cases hfile : request.IsForFile
    · rw [Server.respond_of_isForFile on world hfile, Server.respond_of_isForFile off world hfile,
        hfiles₁, hfiles₂, Files.serve_eq_of_no_listing hfile hnone]
    · unfold Request.IsForFile at hfile
      push Not at hfile
      obtain ⟨hget, segment, hsegment⟩ := hfile
      rw [Server.respond_of_forwarded hget hsegment.symm on world,
        Server.respond_of_forwarded hget hsegment.symm off world, hclient]
  · obtain ⟨status, hstatus, hserve⟩ := h.serve_off
    obtain ⟨listed, hlisted, hrows⟩ :=
      Server.delivered_of_serve h.forFile (hfiles₁ ▸ h.serve_on)
    obtain ⟨plain, hplain, herror⟩ := Server.delivered_of_serve h.forFile (hfiles₂ ▸ hserve)
    obtain ⟨hreads, hrefused⟩ := Entry.readAll_of_stat h.found h.directory
    refine ⟨listed, plain, hlisted, hplain, fun hreadable => ?_, fun hreadable => ?_,
      isBareError_of_delivered hstatus herror⟩
    · obtain ⟨rows, hread⟩ := hreads hreadable
      exact ⟨rows, hread, showsRows_of_delivered hread hrows⟩
    · exact refusesRows_of_delivered (hrefused hreadable) hrows

/-- Two directories: one with an index page that is a link to nothing, and one that can be searched
but not read. -/
def danglingSystem : FileSystem :=
  { top := .dir 0o755 0
      [(Bytes.ofString "docs", .dir 0o755 0
        [(Files.indexName, .link (Bytes.ofString "gone")),
          (Bytes.ofString "a.txt", .file 0o644 1700000000 (Bytes.ofString "hello"))]),
        (Bytes.ofString "shut", .dir 0o711 0 [])] }

/-- A configuration that serves the whole file system. -/
def topConfig : ServeConfig := { files := { root := [0x2F] } }

/-- A request to get a path. -/
def getPath (path : String) : Request := { method := .get, uri := { path := Bytes.ofString path } }

theorem leadsToListing_docs : ∃ here, here.readable .other = true ∧
    (getPath "/docs/").LeadsToListing danglingSystem .other [0x2F] (Bytes.ofString "/docs")
      here := by
  refine ⟨_, rfl, .inr ?_, .inl rfl, Bytes.endsWith_iff.mp ?_, ?_, rfl, rfl, nofun⟩ <;>
    decide +kernel

theorem leadsToListing_shut : ∃ here, here.readable .other = false ∧
    (getPath "/shut/").LeadsToListing danglingSystem .other [0x2F] (Bytes.ofString "/shut")
      here := by
  refine ⟨_, rfl, .inr ?_, .inl rfl, Bytes.endsWith_iff.mp ?_, ?_, rfl, rfl, nofun⟩ <;>
    decide +kernel

/-- A directory whose index page is a link to nothing is listed, one that cannot be read is not;
with listings off both are errors. Without the slash, listings do not matter. -/
theorem a_link_to_nothing_is_no_index_page :
    ∃ on off, Server.create (topConfig.withListings true) [] = .ok on ∧
      Server.create (topConfig.withListings false) [] = .ok off ∧
      on.respond { fs := danglingSystem } (getPath "/docs") =
        off.respond { fs := danglingSystem } (getPath "/docs") ∧
      (∃ listed plain rows,
        on.respond { fs := danglingSystem } (getPath "/docs/") = (some listed, []) ∧
        off.respond { fs := danglingSystem } (getPath "/docs/") = (some plain, []) ∧
        ShowsRows (getPath "/docs/") rows listed ∧ IsBareError plain) ∧
      ∃ listed plain,
        on.respond { fs := danglingSystem } (getPath "/shut/") = (some listed, []) ∧
        off.respond { fs := danglingSystem } (getPath "/shut/") = (some plain, []) ∧
        RefusesRows (getPath "/shut/") listed ∧ IsBareError plain := by
  have hon : Server.create (topConfig.withListings true) [] = .ok _ := rfl
  have hoff : Server.create (topConfig.withListings false) [] = .ok _ := rfl
  have hlaw := switching_listings_off_removes_nothing_else topConfig [] _ _ hon hoff
    { fs := danglingSystem }
  obtain ⟨docs, hdocs, hleads⟩ := leadsToListing_docs
  obtain ⟨shut, hshut, hleads'⟩ := leadsToListing_shut
  refine ⟨_, _, hon, hoff, (hlaw (getPath "/docs")).1 ?_, ?_, ?_⟩
  · rintro ⟨dir, here, hleads⟩
    exact absurd hleads.endsWith (by decide +kernel)
  · obtain ⟨listed, plain, hlisted, hplain, hrows, -, herror⟩ := (hlaw _).2 _ docs hleads
    obtain ⟨rows, -, hshows⟩ := hrows hdocs
    exact ⟨listed, plain, rows, hlisted, hplain, hshows, herror⟩
  · obtain ⟨listed, plain, hlisted, hplain, -, hrefuses, herror⟩ := (hlaw _).2 _ shut hleads'
    exact ⟨listed, plain, hlisted, hplain, hrefuses hshut, herror⟩

end IsoServer
