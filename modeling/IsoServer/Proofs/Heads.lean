-- Asking for the head alone. It comes with the status and the fields of the whole and without a
-- body, be it a file, a part of it, a listing, a redirect or a refusal. One kind of path is an
-- exception: a path with a zero byte in it is not there, but its head is an error.
import Mathlib
import IsoServer.Proofs.Dispatch
import IsoServer.Proofs.Resolution

namespace IsoServer

/-! ## Paths with a zero byte -/

namespace FileSystem

/-- A walk never finds fault with a zero byte; that is done before it starts. -/
theorem advance_ne_nulInPath (fs : FileSystem) (who : Visitor) (loc : Location)
    (names : List Bytes) : fs.advance who .behind loc names ≠ .failed .nulInPath := by
  induction names generalizing loc with
  | nil => simp [advance]
  | cons name rest ih =>
    cases hnode : fs.node? loc with
    | none => simp [advance, hnode]
    | some here =>
      rw [advance_cons who name rest hnode]
      unfold turn
      split_ifs
      · simp [Turn.stop]
      · exact ih loc
      · simp [Turn.stop]
      · exact ih loc
      · exact ih loc.dropLast
      · simp [Turn.stop]
      · cases here.member? name with
        | none => cases rest <;> simp [Turn.stop]
        | some inner =>
          cases inner with
          | link target => simp [Turn.stop]
          | file mode modified content => exact ih (loc ++ [name])
          | dir mode modified members => exact ih (loc ++ [name])

theorem walkFrom_ne_nulInPath (fs : FileSystem) (who : Visitor) (links : Nat) (loc : Location)
    (names : List Bytes) : fs.walkFrom who .behind links loc names ≠ .error .nulInPath := by
  have hstop := advance_ne_nulInPath fs who loc names
  rw [walkFrom_eq]
  cases h : fs.advance who .behind loc names with
  | arrived place => simp [Stop.settle]
  | absent dir name => simp [Stop.settle]
  | failed e =>
    intro herror
    cases herror
    exact hstop h
  | link dir target rest =>
    cases links with
    | zero => simp [Stop.settle]
    | succ links =>
      simp only [Stop.settle]
      split_ifs
      · simp
      · exact walkFrom_ne_nulInPath fs who links _ _
      · exact walkFrom_ne_nulInPath fs who links _ _

theorem stat_of_zero {path : Bytes} (h : 0 ∈ path) (fs : FileSystem) (who : Visitor) :
    fs.stat who path = .error .nulInPath := by
  have hpath : pathError? path = some .nulInPath := by simp [pathError?, h]
  rw [stat_eq, walk_eq, hpath]
  rfl

/-- Only a zero byte in the path makes looking for it fail in this way. -/
theorem zero_mem_of_stat {fs : FileSystem} {who : Visitor} {path : Bytes}
    (h : fs.stat who path = .error .nulInPath) : 0 ∈ path := by
  by_contra hzero
  rw [stat_eq, walk_eq] at h
  cases hpath : pathError? path with
  | some e =>
    have hother : pathError? path ≠ some .nulInPath := by
      unfold pathError?
      split_ifs <;> simp_all
    simp only [hpath, reached, Except.error.injEq] at h
    exact hother (h ▸ hpath)
  | none =>
    simp only [hpath] at h
    have hwalk := walkFrom_ne_nulInPath fs who maxLinks (fs.start path) (namesOf path)
    unfold reached at h
    split at h
    · rename_i e he
      cases h
      exact hwalk he
    · cases h
    · split at h <;> cases h

end FileSystem

/-! ## Heads and wholes before they are sent -/

/-- A response to a request for the head goes with one to a request for the whole: it says the
same, and where the length is left to be counted, it has the same body. -/
structure Response.GoesWith (head whole : Response) : Prop where
  status : head.status = whole.status
  headers : head.headers = whole.headers
  counted : whole.headers.contains "content-length" = true ∨ head.body = whole.body

/-- A response that is the head of another: it says the same and has no body. -/
structure Response.IsHeadOf (head whole : Response) : Prop where
  status : head.status = whole.status
  headers : head.headers = whole.headers
  content : head.body.content = []
  uncut : head.body.cut = false

theorem Response.GoesWith.refl (r : Response) : r.GoesWith r := ⟨rfl, rfl, .inr rfl⟩

/-- On their way to the client, the head loses its body and both say the same length. -/
theorem Response.GoesWith.isHeadOf {head whole : Response} (h : head.GoesWith whole) :
    (isolate (deliver .head head)).IsHeadOf (isolate (deliver .get whole)) := by
  have hlength : (deliver .head head).headers = (deliver .get whole).headers := by
    rw [deliver_eq (by simp), deliver_eq (by simp)]
    simp only [h.headers]
    rcases h.counted with hcounted | hbody
    · simp [hcounted]
    · rw [hbody]
  refine ⟨?_, ?_, ?_, ?_⟩
  · rw [deliver_eq (by simp), deliver_eq (by simp)]
    exact h.status
  · unfold isolate
    rw [hlength]
  · rw [deliver_eq (by simp)]
    rfl
  · rw [deliver_eq (by simp)]
    rfl

theorem rel_isHeadOf {head whole : Option Response} (h : Option.Rel Response.GoesWith head whole) :
    Option.Rel Response.IsHeadOf (head.map fun plain => isolate (deliver .head plain))
      (whole.map fun plain => isolate (deliver .get plain)) := by
  cases h with
  | none => exact .none
  | some hpair => exact .some hpair.isHeadOf

namespace Files

/-- What is said of a file does not depend on whether it is sent. -/
theorem contents_goesWith (headers : Headers) (mediaType : String) (modified : Bytes)
    (o : Opened) :
    (contents .head headers mediaType modified o).GoesWith
      (contents .get headers mediaType modified o) := by
  unfold contents
  cases (headers.get? "range").bind Headers.visible? with
  | none => exact ⟨rfl, rfl, .inl rfl⟩
  | some value =>
    cases hselect : ByteRange.select? value o.size with
    | none => simpa only [hselect] using .refl _
    | some ranges =>
      match ranges with
      | [] => simpa only [hselect] using .refl _
      | [r] => simpa only [hselect] using ⟨rfl, rfl, .inl rfl⟩
      | _ :: _ :: _ => simpa only [hselect] using .refl _

/-! ## Trees that show all their files -/

/-- A tree in which every file can be read and has a time from 1970 on, and in which no index page
leads to a directory. -/
structure ShowsAll (fs : FileSystem) (who : Visitor) : Prop where
  readable : ∀ loc mode modified content, fs.node? loc = some (.file mode modified content) →
    (Node.file mode modified content).readable who = true
  dated : ∀ loc mode modified content, fs.node? loc = some (.file mode modified content) →
    0 ≤ modified
  pages : ∀ dir, fs.isDir who (FileSystem.child dir indexName) = false

/-- If all index pages are files, none leads to a directory. -/
theorem isDir_index {fs : FileSystem}
    (hfiles : ∀ loc here inner, fs.node? loc = some here → here.member? indexName = some inner →
      ∃ mode modified content, inner = .file mode modified content)
    (who : Visitor) (dir : Bytes) : fs.isDir who (FileSystem.child dir indexName) = false := by
  rw [← Bool.not_eq_true]
  intro hdir
  unfold FileSystem.isDir at hdir
  cases hstat : fs.stat who (FileSystem.child dir indexName) with
  | error e => simp [hstat] at hdir
  | ok node =>
    simp only [hstat] at hdir
    obtain ⟨place, hwalk, hnode⟩ := FileSystem.denotes_of_stat hstat
    have hends : Bytes.endsWith (FileSystem.child dir indexName) 0x2F = false :=
      FileSystem.endsWith_child dir isName_indexName
    rw [FileSystem.namesOf_eq, hends, FileSystem.partsOf_child dir isName_indexName] at hwalk
    simp only [Bool.false_eq_true, if_false] at hwalk
    -- the walk comes to a place where the page is looked up
    rcases FileSystem.walkFrom_append fs who FileSystem.maxLinks
        (fs.start (FileSystem.child dir indexName)) (FileSystem.partsOf dir) with
      ⟨loc, left, -, hmore⟩ | hno
    · rw [hmore, FileSystem.walkFrom_eq] at hwalk
      cases hhere : fs.node? loc with
      | none => simp [FileSystem.advance, hhere, FileSystem.Stop.settle] at hwalk
      | some here =>
        rw [FileSystem.advance_cons who indexName [] hhere] at hwalk
        unfold FileSystem.turn at hwalk
        split_ifs at hwalk with h1 h2 h3 h4 h5 h6
        · cases hwalk
        · exact absurd h2 (by decide)
        · cases hwalk
        · exact absurd h4 (by decide)
        · exact absurd h5 (by decide)
        · cases hwalk
        · cases hmember : here.member? indexName with
          | none => simp [hmember, FileSystem.Turn.stop, FileSystem.Stop.settle] at hwalk
          | some inner =>
            obtain ⟨mode, modified, content, rfl⟩ := hfiles loc here inner hhere hmember
            rw [hmember] at hwalk
            cases hwalk
            rw [FileSystem.node?_concat indexName hhere, hmember] at hnode
            cases hnode
            cases hdir
    · exact hno place _ hwalk

section Shown

variable {fs : FileSystem} {who : Visitor} {path : Bytes} (hplain : fs.isDir who path = false)

include hplain

/-- What is opened at a path that is not a directory is a file of the tree. -/
theorem file_of_stat {node : Node} {o : Opened} (hstat : fs.stat who path = .ok node)
    (ho : Opened.ofNode? node = some o) :
    ∃ loc mode, fs.node? loc = some (.file mode o.modified o.content) ∧
      node = .file mode o.modified o.content := by
  have hnode : openFor fs who .head path = .ok node := hstat
  obtain ⟨loc, hloc⟩ := node?_of_openFor hnode
  cases node with
  | file mode modified content =>
    cases ho
    exact ⟨loc, mode, hloc, rfl⟩
  | dir mode modified members => simp [FileSystem.isDir, hstat, Node.isDir] at hplain
  | link target => cases ho

/-- The whole can be opened where the head can be looked at. -/
theorem openFor_eq_stat (hshows : ShowsAll fs who) (method : Method) :
    openFor fs who method path = fs.stat who path := by
  unfold openFor FileSystem.openFile
  split_ifs
  · rfl
  · cases hstat : fs.stat who path with
    | error e => rfl
    | ok node =>
      have hreadable : node.readable who = true := by
        cases node with
        | file mode modified content =>
          obtain ⟨loc, mode', hloc, hnode⟩ := file_of_stat hplain hstat rfl
          exact hshows.readable loc mode modified content (by rw [hloc, ← hnode])
        | dir mode modified members => simp [FileSystem.isDir, hstat, Node.isDir] at hplain
        | link target => rfl
      simp [hreadable]

theorem serveAt_goesWith (hshows : ShowsAll fs who) (hzero : 0 ∉ path) (request : Request) :
    Option.Rel Response.GoesWith (serveAt fs who { request with method := .head } path)
      (serveAt fs who { request with method := .get } path) := by
  unfold serveAt
  simp only [openFor_eq_stat hplain hshows]
  cases hstat : fs.stat who path with
  | error e =>
    cases e with
    | nulInPath => exact absurd (FileSystem.zero_mem_of_stat hstat) hzero
    | _ => exact .some (.refl _)
  | ok node =>
    simp only
    cases Opened.ofNode? node with
    | none => exact .some (.refl _)
    | some o =>
      simp only
      cases Date.textOf? o.modified with
      | none => exact .none
      | some modified =>
        simp only
        cases precondition? request.headers o.modified.toNat with
        | some response => exact .some (.refl _)
        | none => exact .some (contents_goesWith ..)

/-- There is an answer unless the file has a time that is too late to be written. -/
theorem late_of_serveAt (hshows : ShowsAll fs who) {request : Request}
    (h : serveAt fs who request path = none) :
    ∃ loc mode modified content, fs.node? loc = some (.file mode modified content) ∧
      253402300800 ≤ modified := by
  unfold serveAt at h
  rw [openFor_eq_stat hplain hshows] at h
  cases hstat : fs.stat who path with
  | error e => cases e <;> simp [hstat] at h
  | ok node =>
    simp only [hstat] at h
    cases ho : Opened.ofNode? node with
    | none => simp [ho] at h
    | some o =>
      obtain ⟨loc, mode, hloc, -⟩ := file_of_stat hplain hstat ho
      refine ⟨loc, mode, o.modified, o.content, hloc, ?_⟩
      have hearly := hshows.dated loc mode o.modified o.content hloc
      by_contra hlate
      have hdate : Date.textOf? o.modified = some (Date.ofSeconds o.modified.toNat).text := by
        simp [Date.textOf?, hearly, Int.lt_of_not_ge hlate]
      simp only [ho, hdate] at h
      split at h <;> cases h

end Shown

/-! ## Heads of files and listings -/

/-- What the file service accepts, the listing accepts as well. -/
theorem resolve_of_servedPath {root path file : Bytes} (h : servedPath root path = some file) :
    resolve root path = some file := by
  have hplain : ¬ ∃ rest, EscapedSlash path rest := by
    rintro ⟨rest, hrest⟩
    rw [servedPath_of_escapedSlash hrest root] at h
    cases h
  rw [resolve_eq_servedPath hplain root, h]

/-- Whether a request path leads to a path with a zero byte. -/
def LeadsToZero (root path : Bytes) : Prop := ∃ file, servedPath root path = some file ∧ 0 ∈ file

theorem zero_not_mem_index {dir : Bytes} (h : 0 ∉ dir) :
    0 ∉ FileSystem.child dir indexName := by
  have hindex : 0 ∉ indexName := by decide
  unfold FileSystem.child
  split_ifs <;> simp [h, hindex]

section Served

variable {fs : FileSystem} {who : Visitor} (hshows : ShowsAll fs who)

include hshows

theorem serveFile_goesWith {root : Bytes} {request : Request}
    (hzero : ¬ LeadsToZero root request.uri.path) :
    Option.Rel Response.GoesWith (serveFile fs who root { request with method := .head })
      (serveFile fs who root { request with method := .get }) := by
  unfold serveFile
  cases hpath : servedPath root request.uri.path with
  | none => exact .some (.refl _)
  | some path =>
    have hnone : 0 ∉ path := fun h => hzero ⟨path, hpath, h⟩
    cases hdir : fs.isDir who path with
    | false => simpa [hdir, hpath] using serveAt_goesWith hdir hshows hnone request
    | true =>
      cases hslash : Bytes.endsWith request.uri.path 0x2F with
      | true =>
        simpa [hdir, hpath, hslash] using
          serveAt_goesWith (hshows.pages path) hshows (zero_not_mem_index hnone) request
      | false => simpa [hdir, hpath, hslash] using Response.GoesWith.refl (redirect request.uri)

/-- Where there is no answer, the tree has a file with a time that is too late to be written. -/
theorem late_of_serveFile {root : Bytes} {request : Request}
    (h : serveFile fs who root request = none) :
    ∃ loc mode modified content, fs.node? loc = some (.file mode modified content) ∧
      253402300800 ≤ modified := by
  unfold serveFile at h
  cases hpath : servedPath root request.uri.path with
  | none =>
    simp only [hpath] at h
    split_ifs at h
  | some path =>
    simp only [hpath] at h
    split_ifs at h with _ hdir
    · exact late_of_serveAt (by simpa using hdir) hshows h
    · exact late_of_serveAt (hshows.pages path) hshows h

theorem serve_goesWith {config : FilesConfig} {request : Request}
    (hzero : ¬ LeadsToZero config.root request.uri.path) :
    Option.Rel Response.GoesWith (serve config fs who { request with method := .head })
      (serve config fs who { request with method := .get }) := by
  have hfile := serveFile_goesWith hshows hzero
  unfold serve
  cases config.directoryListing with
  | false => exact hfile
  | true =>
    have hhead : (Method.head == Method.get || Method.head == Method.head) = true := rfl
    have hget : (Method.get == Method.get || Method.get == Method.head) = true := rfl
    simp only [hhead, hget, Bool.and_self, if_true]
    cases listable? fs who config.root request.uri.path with
    | none => exact hfile
    | some dir => exact .some (.refl _)

theorem late_of_serve {config : FilesConfig} {request : Request}
    (h : serve config fs who request = none) :
    ∃ loc mode modified content, fs.node? loc = some (.file mode modified content) ∧
      253402300800 ≤ modified := by
  unfold serve at h
  simp only at h
  split at h
  · cases h
  · exact late_of_serveFile hshows h

end Served

/-- With a zero byte in the path, the head is an error and the whole is not there. -/
theorem serve_of_zero (request : Request) {config : FilesConfig}
    (hzero : LeadsToZero config.root request.uri.path)
    (hmethod : request.method = .get ∨ request.method = .head) (fs : FileSystem) (who : Visitor) :
    serve config fs who request =
      some (.ofStatus (if request.method = .head then 500 else 404)) := by
  obtain ⟨path, hpath, hmem⟩ := hzero
  have hstat := FileSystem.stat_of_zero hmem fs who
  have hdir : fs.isDir who path = false := by simp [FileSystem.isDir, hstat]
  have hlisted : listable? fs who config.root request.uri.path = none := by
    simp [listable?, resolve_of_servedPath hpath, hdir]
  have hopen : openFor fs who request.method path = .error .nulInPath := by
    simp [openFor, FileSystem.openFile, hstat]
  have hfile : serveFile fs who config.root request = serveAt fs who request path := by
    rcases hmethod with hmethod | hmethod <;> simp [serveFile, hmethod, hpath, hdir]
  simp only [serve, hlisted, ite_self, hfile, serveAt, hopen, beq_iff_eq]

end Files

/-! ## The law -/

/-- For a path that is not forwarded, in a tree that shows all its files, the head is the head of
the whole: it has the same status and the same fields and no body. There is no response to the one
where there is none to the other, and then the tree has a file of the year 10000 or later. But with
a zero byte in the path the head has status 500 and the whole status 404. -/
theorem a_head_is_that_of_the_whole_but_for_a_zero_byte (server : Server) (world : Server.World)
    (request : Request) (hpath : ¬ Proxy.pathStart <+: request.uri.path)
    (hshows : Files.ShowsAll world.fs world.who) :
    (¬ Files.LeadsToZero server.files.root request.uri.path →
      Option.Rel Response.IsHeadOf (server.respond world { request with method := .head }).1
        (server.respond world { request with method := .get }).1 ∧
      ((server.respond world { request with method := .get }).1 = none →
        ∃ loc mode modified content, world.fs.node? loc = some (.file mode modified content) ∧
          253402300800 ≤ modified)) ∧
    (Files.LeadsToZero server.files.root request.uri.path →
      ∃ head whole, (server.respond world { request with method := .head }).1 = some head ∧
        (server.respond world { request with method := .get }).1 = some whole ∧
        head.status = 500 ∧ whole.status = 404 ∧ head.headers = whole.headers ∧
        head.body.content = [] ∧ whole.body.content = []) := by
  have hhead : server.respond world { request with method := .head } = _ :=
    Server.respond_of_isForFile server world (.inr hpath)
  have hget : server.respond world { request with method := .get } = _ :=
    Server.respond_of_isForFile server world (.inr hpath)
  rw [hhead, hget]
  refine ⟨fun hzero => ⟨?_, fun hnone => ?_⟩, fun hzero => ?_⟩
  · exact rel_isHeadOf (Files.serve_goesWith hshows hzero)
  · exact Files.late_of_serve hshows (Option.map_eq_none_iff.mp hnone)
  · have herror : Files.serve server.files world.fs world.who { request with method := .head } =
        some (.ofStatus 500) :=
      Files.serve_of_zero { request with method := .head } hzero (.inr rfl) _ _
    have hmissing : Files.serve server.files world.fs world.who { request with method := .get } =
        some (.ofStatus 404) :=
      Files.serve_of_zero { request with method := .get } hzero (.inl rfl) _ _
    rw [herror, hmissing]
    exact ⟨_, _, rfl, rfl, rfl, rfl, rfl, rfl, rfl⟩

/-- The index page of a directory. -/
def indexPage : Node := .file 0o644 1700000000 (Bytes.ofString "hello")

/-- A directory with an index page and nothing else. -/
def pageSystem : FileSystem := { top := .dir 0o755 0 [(Files.indexName, indexPage)] }

def pageServer : Server :=
  { files := { root := [0x2F] }, client := { userAgent := [], maxRedirects := 0 } }

theorem member?_pageSystem {name : Bytes} {inner : Node}
    (h : pageSystem.top.member? name = some inner) : inner = indexPage := by
  cases hname : name == Files.indexName with
  | true =>
    simp only [pageSystem, Node.member?, List.lookup, hname] at h
    exact (Option.some.inj h).symm
  | false => simp [pageSystem, Node.member?, List.lookup, hname] at h

theorem node?_pageSystem {loc : Location} {node : Node} (h : pageSystem.node? loc = some node) :
    node = pageSystem.top ∨ node = indexPage := by
  cases loc with
  | nil => exact .inl (Option.some.inj h).symm
  | cons name rest =>
    obtain ⟨inner, hinner, hrest⟩ := Option.bind_eq_some_iff.mp h
    obtain rfl := member?_pageSystem hinner
    cases rest with
    | nil => exact .inr (Option.some.inj hrest).symm
    | cons name rest => cases hrest

theorem showsAll_pageSystem : Files.ShowsAll pageSystem .other where
  readable loc mode modified content h := by
    rcases node?_pageSystem h with hnode | hnode <;> cases hnode
    rfl
  dated loc mode modified content h := by
    rcases node?_pageSystem h with hnode | hnode <;> cases hnode
    decide
  pages := Files.isDir_index (fun loc here inner hhere hinner => by
    rcases node?_pageSystem hhere with rfl | rfl
    · exact ⟨_, _, _, member?_pageSystem hinner⟩
    · cases hinner) .other

/-- The second and the third byte of an index page are asked for. -/
def partOfPage (method : Method) : Request :=
  { method, uri := { path := [0x2F] }, headers := [("range", Bytes.ofString "bytes=1-2")] }

/-- The head of a part of a page says the same as the part. -/
theorem the_head_of_a_part_is_that_of_the_part :
    ∃ head whole, (pageServer.respond { fs := pageSystem } (partOfPage .head)).1 = some head ∧
      (pageServer.respond { fs := pageSystem } (partOfPage .get)).1 = some whole ∧
      head.IsHeadOf whole ∧ whole.status = 206 ∧ whole.body.content = Bytes.ofString "el" := by
  have hpath : ¬ Proxy.pathStart <+: [0x2F] := by decide
  have hzero : ¬ Files.LeadsToZero pageServer.files.root [0x2F] := by
    rintro ⟨file, hfile, hmem⟩
    cases hfile
    revert hmem
    decide
  have hpart : ((pageServer.respond { fs := pageSystem } (partOfPage .get)).1.map fun r =>
      (r.status, r.body.content)) = some (206, Bytes.ofString "el") := by
    decide +kernel
  obtain ⟨whole, hwhole, hsaid⟩ := Option.map_eq_some_iff.mp hpart
  obtain ⟨hstatus, hcontent⟩ := Prod.mk.inj hsaid
  have hrel : Option.Rel Response.IsHeadOf
      (pageServer.respond { fs := pageSystem } (partOfPage .head)).1
      (pageServer.respond { fs := pageSystem } (partOfPage .get)).1 :=
    ((a_head_is_that_of_the_whole_but_for_a_zero_byte pageServer { fs := pageSystem }
      (partOfPage .get) hpath showsAll_pageSystem).1 hzero).1
  rw [hwhole] at hrel ⊢
  generalize (pageServer.respond { fs := pageSystem } (partOfPage .head)).1 = answer at hrel ⊢
  cases hrel with
  | some hpair => exact ⟨_, whole, rfl, rfl, hpair, hstatus, hcontent⟩

/-- A zero byte in the path tells the head from the whole. -/
theorem a_zero_byte_tells_the_head_from_the_whole :
    ¬ Proxy.pathStart <+: Bytes.ofString "/%00" ∧ Files.ShowsAll pageSystem .other ∧
    ∃ head whole,
      (pageServer.respond { fs := pageSystem }
        { method := .head, uri := { path := Bytes.ofString "/%00" } }).1 = some head ∧
      (pageServer.respond { fs := pageSystem }
        { method := .get, uri := { path := Bytes.ofString "/%00" } }).1 = some whole ∧
      head.status = 500 ∧ whole.status = 404 := by
  have hhead : ((pageServer.respond { fs := pageSystem }
      { method := .head, uri := { path := Bytes.ofString "/%00" } }).1.map (·.status)) =
      some 500 := by
    decide +kernel
  have hwhole : ((pageServer.respond { fs := pageSystem }
      { method := .get, uri := { path := Bytes.ofString "/%00" } }).1.map (·.status)) =
      some 404 := by
    decide +kernel
  obtain ⟨head, hhead, herror⟩ := Option.map_eq_some_iff.mp hhead
  obtain ⟨whole, hwhole, hmissing⟩ := Option.map_eq_some_iff.mp hwhole
  exact ⟨by decide, showsAll_pageSystem, head, whole, hhead, hwhole, herror, hmissing⟩

end IsoServer
