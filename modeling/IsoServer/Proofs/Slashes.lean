-- Slashes at the end. Only a directory that is asked for without its slash is redirected, and that
-- to its path with the slash. There the way ends: a path with a slash at its end is never
-- redirected, and it leads to the same directory.
import Mathlib
import IsoServer.Proofs.Following
import IsoServer.Proofs.Links
import IsoServer.Proofs.Listings

namespace IsoServer

/-! ## Responses that send nobody elsewhere -/

/-- Neither the status of a response nor a field of it sends the client elsewhere. -/
structure Response.Stays (r : Response) : Prop where
  status : Proxy.isRedirect r.status = false
  location : r.headers.values "location" = []

theorem Delivered.stays_iff {method : Method} {plain r : Response} (h : Delivered method plain r) :
    r.Stays ↔ plain.Stays := by
  have hlocation : r.headers.values "location" = plain.headers.values "location" :=
    h.others "location" (by decide) (by decide) (by decide)
  constructor
  · rintro ⟨hstatus, hnone⟩
    exact ⟨h.status ▸ hstatus, hlocation ▸ hnone⟩
  · rintro ⟨hstatus, hnone⟩
    exact ⟨h.status ▸ hstatus, hlocation ▸ hnone⟩

theorem stays_ofStatus {status : Nat} (h : Proxy.isRedirect status = false) :
    (Response.ofStatus status).Stays := ⟨h, rfl⟩

namespace Files

theorem stays_failure (e : FileError) : (failure e).Stays := by
  cases e <;> exact stays_ofStatus rfl

theorem stays_precondition {headers : Headers} {modified : Nat} {r : Response}
    (h : precondition? headers modified = some r) : r.Stays := by
  unfold precondition? at h
  simp only at h
  split_ifs at h
  · cases h
    exact stays_ofStatus rfl
  · cases h
    exact stays_ofStatus rfl

theorem stays_contents (method : Method) (headers : Headers) (mediaType : String)
    (modified : Bytes) (o : Opened) : (contents method headers mediaType modified o).Stays := by
  unfold contents
  simp only
  split
  · exact ⟨rfl, by simp [Headers.values]⟩
  · split
    · exact ⟨rfl, by simp [Headers.values]⟩
    · exact ⟨rfl, by simp [Headers.values]⟩
    · exact ⟨rfl, by simp [Headers.values]⟩

theorem stays_listing (fs : FileSystem) (who : Visitor) (path dir : Bytes) :
    (listing fs who path dir).Stays := by
  unfold listing
  split
  · exact ⟨rfl, rfl⟩
  · exact ⟨rfl, rfl⟩

theorem stays_serveAt {fs : FileSystem} {who : Visitor} {request : Request} {path : Bytes}
    {r : Response} (h : serveAt fs who request path = some r) : r.Stays := by
  unfold serveAt at h
  split at h
  · cases h
    split <;> exact stays_ofStatus rfl
  · cases h
    exact stays_failure _
  · split at h
    · cases h
      exact stays_ofStatus rfl
    · split at h
      · cases h
      · split at h
        · rename_i hcondition
          cases h
          exact stays_precondition hcondition
        · cases h
          exact stays_contents _ _ _ _ _

/-- Only a directory without its slash is redirected. -/
theorem redirect_of_serveFile {fs : FileSystem} {who : Visitor} {root : Bytes} {request : Request}
    {r : Response} (h : serveFile fs who root request = some r) :
    r.Stays ∨ r = redirect request.uri ∧ Bytes.endsWith request.uri.path 0x2F = false ∧
      ∃ dir, servedPath root request.uri.path = some dir ∧ fs.isDir who dir = true := by
  unfold serveFile at h
  split at h
  · cases h
    exact .inl ⟨rfl, rfl⟩
  · split at h
    · cases h
      exact .inl (stays_ofStatus rfl)
    · rename_i dir hdir
      split_ifs at h with hplain hslash
      · exact .inl (stays_serveAt h)
      · exact .inl (stays_serveAt h)
      · cases h
        exact .inr ⟨rfl, by simpa using hslash, dir, hdir, by simpa using hplain⟩

theorem redirect_of_serve {config : FilesConfig} {fs : FileSystem} {who : Visitor}
    {request : Request} {r : Response} (h : serve config fs who request = some r) :
    r.Stays ∨ r = redirect request.uri ∧ Bytes.endsWith request.uri.path 0x2F = false ∧
      ∃ dir, servedPath config.root request.uri.path = some dir ∧ fs.isDir who dir = true := by
  unfold serve at h
  simp only at h
  split at h
  · cases h
    exact .inl (stays_listing _ _ _ _)
  · exact redirect_of_serveFile h

/-! ## The path with the slash -/

/-- A slash at the end changes nothing about where a path leads. -/
theorem resolve_append_slash {root path dir : Bytes} (h : resolve root path = some dir) :
    resolve root (path ++ [0x2F]) = some dir := by
  obtain ⟨hvalid, hup, rfl⟩ := resolve_eq_some_iff.mp h
  have hdecoded : Percent.decode (path ++ [0x2F]) = Percent.decode path ++ [0x2F] :=
    Percent.decode_append_slash path []
  rw [resolve_eq_some_iff, hdecoded, Bytes.splitOn_append]
  refine ⟨?_, ?_, ?_⟩
  · rw [Utf8.isValid_append hvalid]
    rfl
  · rw [List.mem_append, not_or]
    exact ⟨hup, by decide⟩
  · simp [Bytes.splitOn, FileSystem.leads]

/-- The request target of a directory with its slash, if it is a path with or without a query. -/
theorem redirect_eq {uri : Uri} (hscheme : uri.scheme = none) (haddress : uri.authority = none)
    (hpath : uri.path.head? = some 0x2F) :
    redirect uri =
      { status := 307
        headers := [("location",
          uri.path ++ 0x2F :: (uri.query.map fun query => 0x3F :: query).getD [])] } := by
  unfold redirect slashed?
  cases uri.query with
  | none => simp [haddress, hscheme, hpath, Uri.text]
  | some query => simp [haddress, hscheme, hpath, Uri.text]

end Files

/-- The path with the slash is forwarded only if it is the fixed start of all those that are. -/
theorem Request.IsForFile.append_slash {request again : Request} (h : request.IsForFile)
    (hget : request.method = .get) (hpath : again.uri.path = request.uri.path ++ [0x2F])
    (hstart : request.uri.path ≠ Bytes.ofString "/proxy") : again.IsForFile := by
  have hplain : ¬ Proxy.pathStart <+: request.uri.path := by
    rcases h with hother | hplain
    · exact absurd hget hother
    · exact hplain
  refine .inr ?_
  rw [hpath, List.prefix_concat_iff]
  rintro (hsame | hprefix)
  · have hcut : Proxy.pathStart = Bytes.ofString "/proxy" ++ [0x2F] := by decide
    rw [hcut] at hsame
    exact hstart (List.append_cancel_right hsame).symm
  · exact hplain hprefix

/-- In a directory that has no member of a name, nothing is found under it. -/
theorem FileSystem.stat_child_of_no_member {fs : FileSystem} {who : Visitor} {dir name : Bytes}
    {here : Node} (hstat : fs.stat who dir = .ok here) (hname : IsName name)
    (h : here.member? name = none) (node : Node) : fs.stat who (child dir name) ≠ .ok node := by
  intro hnode
  obtain ⟨loc, used, hreaches⟩ := exists_reaches hstat
  obtain ⟨-, place, n, hleads, -⟩ := (hreaches.stat_child hname).mp hnode
  have hhere := hreaches.found
  cases hleads with
  | slash => exact hname.nonempty rfl
  | dot => exact hname.not_dot rfl
  | dotDot => exact hname.not_dotDot rfl
  | member hfound _ _ hmember =>
    rw [hhere] at hfound
    cases hfound
    rw [h] at hmember
    cases hmember
  | link hfound _ _ hmember =>
    rw [hhere] at hfound
    cases hfound
    rw [h] at hmember
    cases hmember

/-! ## The law -/

namespace Server

variable {server : Server} {world : World} {request : Request} {response : Response}

/-- What is sent is the redirect of a directory without its slash, or it sends nobody elsewhere. -/
theorem redirect_of_respond (hfile : request.IsForFile)
    (h : (server.respond world request).1 = some response) :
    response.Stays ∨ Delivered request.method (Files.redirect request.uri) response ∧
      Bytes.endsWith request.uri.path 0x2F = false ∧
      ∃ dir, Files.servedPath server.files.root request.uri.path = some dir ∧
        world.fs.isDir world.who dir = true := by
  cases hserve : Files.serve server.files world.fs world.who request with
  | none =>
    rw [respond_of_isForFile server world hfile, hserve] at h
    cases h
  | some plain =>
    obtain ⟨found, hfound, hdelivered⟩ := delivered_of_serve hfile hserve
    rw [hfound] at h
    cases h
    rcases Files.redirect_of_serve hserve with hstays | ⟨rfl, hslash⟩
    · exact .inl (hdelivered.stays_iff.mpr hstays)
    · exact .inr ⟨hdelivered, hslash⟩

theorem stays_of_forwarded (hget : request.method = .get) {segment : Bytes}
    (hpath : request.uri.path = Proxy.pathStart ++ segment)
    (h : (server.respond world request).1 = some response) : response.Stays := by
  cases htarget : Proxy.readTarget segment with
  | error e =>
    rw [respond_of_misread hget hpath (Proxy.misread_of_readTarget htarget)] at h
    cases h
    exact ⟨rfl, rfl⟩
  | ok url =>
    cases hfetched : (server.client.fetch world.network world.sent url).1 with
    | failed =>
      rw [respond_of_failed hget hpath htarget server world hfetched] at h
      cases h
      exact ⟨rfl, rfl⟩
    | replied status headers body =>
      rw [respond_of_replied hget hpath htarget hfetched] at h
      cases h
      cases headers.get? "content-length" with
      | none => exact ⟨rfl, rfl⟩
      | some value => exact ⟨rfl, rfl⟩

/-- A path with a slash at its end is never redirected. -/
theorem stays_of_slash (hget : request.method = .get)
    (hslash : Bytes.endsWith request.uri.path 0x2F = true)
    (h : (server.respond world request).1 = some response) : response.Stays := by
  by_cases hfile : request.IsForFile
  · rcases redirect_of_respond hfile h with hstays | ⟨-, hnone, -⟩
    · exact hstays
    · rw [hslash] at hnone
      cases hnone
  · unfold Request.IsForFile at hfile
    push Not at hfile
    obtain ⟨-, segment, hsegment⟩ := hfile
    exact stays_of_forwarded hget hsegment.symm h

end Server

/-- A redirect leads to its directory in one step. Let a request to get a path, with or without a
query, be sent elsewhere. Then its path has no slash at the end and leads to a directory, and it is
sent to the path with the slash and the same query. Unless that is the fixed start of forwarded
requests, the path with the slash is not redirected again; and if listings are on and the directory
can be read and has no index page, it is answered with the rows of that same directory. No request
to get a path with a slash at its end is ever redirected. -/
theorem a_redirect_leads_to_its_directory_in_one_step (config : ServeConfig)
    (env : Proxy.Environment) (server : Server) (hserver : Server.create config env = .ok server)
    (world : Server.World) :
    (∀ (request : Request) (response : Response), request.method = .get → request.IsForFile →
      request.uri.scheme = none → request.uri.authority = none →
      request.uri.path.head? = some 0x2F →
      (server.respond world request).1 = some response → ¬ response.Stays →
      response.status = 307 ∧
      response.headers.values "location" = [request.uri.path ++ 0x2F ::
        (request.uri.query.map fun query => 0x3F :: query).getD []] ∧
      (¬ ∃ front, request.uri.path = front ++ [0x2F]) ∧
      ∃ dir here, Files.resolve config.files.root request.uri.path = some dir ∧
        world.fs.stat world.who dir = .ok here ∧ here.isDir = true ∧
        (request.uri.path ≠ Bytes.ofString "/proxy" →
          ∀ again : Request, again.method = .get → again.uri.path = request.uri.path ++ [0x2F] →
            (∀ next, (server.respond world again).1 = some next → next.Stays) ∧
            (config.files.directoryListing = true → here.readable world.who = true →
              (here.member? Files.indexName = none ∨
                ∀ node, world.fs.stat world.who (FileSystem.child dir Files.indexName) ≠
                  .ok node) →
              ∃ rows next, Entry.readAll world.fs world.who dir = .ok rows ∧
                server.respond world again = (some next, []) ∧ ShowsRows again rows next))) ∧
    ∀ (request : Request) (response : Response), request.method = .get →
      (∃ front, request.uri.path = front ++ [0x2F]) →
      (server.respond world request).1 = some response → response.Stays := by
  refine ⟨?_, fun request response hget hslash h =>
    Server.stays_of_slash hget (Bytes.endsWith_iff.mpr hslash) h⟩
  intro request response hget hfile hscheme haddress hpath hrespond hgoes
  rcases Server.redirect_of_respond hfile hrespond with hstays | ⟨hsent, hslash, dir, hdir, hisDir⟩
  · exact absurd hstays hgoes
  rw [Files.redirect_eq hscheme haddress hpath] at hsent
  rw [Server.files_of_create hserver] at hdir
  have hresolve := Files.resolve_of_servedPath hdir
  obtain ⟨here, hhere, hdirectory⟩ := FileSystem.isDir_iff.mp hisDir
  refine ⟨hsent.status, ?_, ?_, dir, here, hresolve, hhere, hdirectory, ?_⟩
  · exact hsent.others "location" (by decide) (by decide) (by decide)
  · rw [← Bytes.endsWith_iff, hslash]
    simp
  intro hstart again hagain hagainPath
  have hend : Bytes.endsWith again.uri.path 0x2F = true :=
    Bytes.endsWith_iff.mpr ⟨_, hagainPath⟩
  refine ⟨fun next hnext => Server.stays_of_slash hagain hend hnext, ?_⟩
  intro hlisted hreadable hindex
  have hnoIndex : ∀ node, world.fs.stat world.who (FileSystem.child dir Files.indexName) ≠
      .ok node := by
    rcases hindex with hnone | hnot
    · exact FileSystem.stat_child_of_no_member hhere Files.isName_indexName hnone
    · exact hnot
  have hleads : again.LeadsToListing world.fs world.who config.files.root dir here :=
    { forFile := hfile.append_slash hget hagainPath hstart
      method := .inl hagain
      slash := ⟨_, hagainPath⟩
      resolves := hagainPath ▸ Files.resolve_append_slash hresolve
      found := hhere
      directory := hdirectory
      noIndex := hnoIndex }
  have hfiles : server.files = { root := config.files.root, directoryListing := true } := by
    rw [Server.files_of_create hserver, ← hlisted]
  obtain ⟨next, hnext, hrows⟩ :=
    Server.delivered_of_serve hleads.forFile (hfiles ▸ hleads.serve_on)
  obtain ⟨rows, hread⟩ := (Entry.readAll_of_stat hhere hdirectory).1 hreadable
  exact ⟨rows, next, hread, hnext, showsRows_of_delivered hread hrows⟩

/-- A directory that is asked for with a query but without its slash is found in one step, although
its index page is a link to nothing. -/
theorem a_directory_with_a_query_is_found_in_one_step :
    ∃ server response rows next, Server.create topConfig [] = .ok server ∧
      (server.respond { fs := danglingSystem }
        { method := .get
          uri := { path := Bytes.ofString "/docs", query := some (Bytes.ofString "x=1") } }).1 =
        some response ∧
      response.status = 307 ∧
      response.headers.values "location" = [Bytes.ofString "/docs/?x=1"] ∧
      server.respond { fs := danglingSystem } (getPath "/docs/") = (some next, []) ∧
      ShowsRows (getPath "/docs/") rows next := by
  have hserver : Server.create topConfig [] = .ok (serverOf topConfig []) := rfl
  have hstatus : ((serverOf topConfig []).respond { fs := danglingSystem }
      { method := .get
        uri := { path := Bytes.ofString "/docs", query := some (Bytes.ofString "x=1") } }).1.map
        (·.status) = some 307 := by
    decide +kernel
  obtain ⟨response, hresponse, hmoved⟩ := Option.map_eq_some_iff.mp hstatus
  obtain ⟨hlaw, -⟩ := a_redirect_leads_to_its_directory_in_one_step topConfig [] _ hserver
    { fs := danglingSystem }
  obtain ⟨-, hlocation, -, dir, here, hdir, hhere, -, hagain⟩ :=
    hlaw _ response rfl (.inr (by decide +kernel)) rfl rfl (by decide +kernel) hresponse (by
      rintro ⟨hstays, -⟩
      rw [hmoved] at hstays
      cases hstays)
  have hdocs : Files.resolve topConfig.files.root (Bytes.ofString "/docs") =
      some (Bytes.ofString "/docs") := by
    decide +kernel
  rw [hdocs] at hdir
  cases hdir
  cases hhere
  obtain ⟨-, hlisting⟩ := hagain (by decide +kernel) (getPath "/docs/") rfl (by decide +kernel)
  obtain ⟨rows, next, -, hnext, hshows⟩ := hlisting rfl rfl (.inr nofun)
  exact ⟨_, response, rows, next, hserver, hresponse, hmoved, hlocation, hnext, hshows⟩

end IsoServer
