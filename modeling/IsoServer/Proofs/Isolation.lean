-- Isolation of every response. Names are compared in any letter case: a response has each of the
-- two policies once, with the value that isolates, and nothing else of it changes.
import Mathlib
import IsoServer.Proofs.Walks
import IsoServer.Server.Respond

namespace IsoServer

namespace Headers

/-! ## Names in any letter case -/

/-- A name in small letters. -/
def lower (name : String) : String := String.ofList (name.toList.map Char.toLower)

/-- All values of a name in any letter case, in order. -/
def valuesAnyCase (name : String) (headers : Headers) : List Bytes :=
  (headers.filter fun f => lower f.1 == lower name).map (·.2)

/-- Whether all names are in small letters. -/
def AllLower (headers : Headers) : Prop := ∀ f ∈ headers, lower f.1 = f.1

theorem lower_lower (name : String) : lower (lower name) = lower name := by
  have htwice : Char.toLower ∘ Char.toLower = Char.toLower :=
    funext Char.toLower_toLower_eq_toLower
  unfold lower
  simp [htwice]

theorem valuesAnyCase_eq {headers : Headers} (h : AllLower headers) (name : String) :
    headers.valuesAnyCase name = headers.values (lower name) := by
  have hfilter : headers.filter (fun f => lower f.1 == lower name) =
      headers.filter (·.1 == lower name) := by
    refine List.filter_congr fun f hf => ?_
    rw [h f hf]
  unfold valuesAnyCase values
  rw [hfilter]

theorem allLower_of_names {headers : Headers} (names : List String)
    (hnames : headers.map (·.1) = names) (h : ∀ name ∈ names, lower name = name) :
    AllLower headers := by
  intro f hf
  exact h f.1 (hnames ▸ List.mem_map_of_mem hf)

/-! ## Adding and setting -/

theorem allLower_add {headers : Headers} {name : String} (value : Bytes) (h : AllLower headers)
    (hname : lower name = name) : AllLower (headers.add name value) := by
  intro f hf
  rcases List.mem_append.mp hf with hf | hf
  · exact h f hf
  · rw [List.mem_singleton.mp hf]
    exact hname

theorem allLower_set {headers : Headers} {name : String} (value : Bytes) (h : AllLower headers)
    (hname : lower name = name) : AllLower (headers.set name value) := by
  refine allLower_add value (fun f hf => ?_) hname
  exact h f (List.mem_filter.mp hf).1

theorem values_set_self (headers : Headers) (name : String) (value : Bytes) :
    (headers.set name value).values name = [value] := by
  have hgone : (headers.filter (·.1 != name)).filter (·.1 == name) = [] := by
    rw [List.filter_filter, List.filter_eq_nil_iff]
    intro f _
    simp
  unfold values set
  rw [List.filter_append, hgone]
  simp

theorem values_set_of_ne (headers : Headers) {name other : String} (value : Bytes)
    (h : other ≠ name) : (headers.set name value).values other = headers.values other := by
  have hkept : (headers.filter (·.1 != name)).filter (·.1 == other) =
      headers.filter (·.1 == other) := by
    rw [List.filter_filter]
    refine List.filter_congr fun f _ => ?_
    by_cases hf : f.1 = other
    · simp [hf, h]
    · simp [hf]
  unfold values set
  rw [List.filter_append, hkept]
  simp [h.symm]

/-! ## Reading fields -/

/-- Header fields of names in any letter case, if all of them can be sent. -/
def ofFields? (fields : List (String × Bytes)) : Except HeaderError Headers :=
  fields.foldlM (fun headers f => headers.add? f.1 f.2) []

theorem name?_eq_some {name written : String} (h : name? name = some written) :
    written = lower name := by
  unfold name? at h
  simp only at h
  split_ifs at h
  cases h
  rfl

theorem add?_eq_ok {headers headers' : Headers} {name : String} {value : Bytes}
    (h : headers.add? name value = .ok headers') : headers' = headers.add (lower name) value := by
  unfold add? at h
  cases hname : name? name with
  | none =>
    rw [hname] at h
    cases h
  | some written =>
    rw [hname] at h
    simp only at h
    split_ifs at h
    cases h
    rw [name?_eq_some hname]

theorem valuesAnyCase_add (headers : Headers) (field : String × Bytes) (name : String) :
    (headers.add (lower field.1) field.2).valuesAnyCase name =
      headers.valuesAnyCase name ++ valuesAnyCase name [field] := by
  unfold valuesAnyCase add
  rw [List.filter_append, List.map_append]
  by_cases h : lower field.1 = lower name <;> simp [lower_lower, h]

/-- Reading fields loses no value and leaves no large letter. -/
theorem read_fields {fields : List (String × Bytes)} {start headers : Headers}
    (hstart : AllLower start)
    (h : fields.foldlM (fun headers f => headers.add? f.1 f.2) start = .ok headers) :
    AllLower headers ∧ ∀ name,
      headers.valuesAnyCase name = start.valuesAnyCase name ++ valuesAnyCase name fields := by
  -- what was read so far is in `start`, so the fields that are left are read behind anything
  induction fields generalizing start with
  | nil =>
    cases h
    exact ⟨hstart, fun name => by simp [valuesAnyCase]⟩
  | cons field fields ih =>
    rw [List.foldlM_cons] at h
    cases hadd : start.add? field.1 field.2 with
    | error e =>
      rw [hadd] at h
      cases h
    | ok next =>
      rw [hadd] at h
      have hnext := add?_eq_ok hadd
      have hlower : AllLower next := hnext ▸ allLower_add _ hstart (lower_lower _)
      obtain ⟨hheaders, hvalues⟩ := ih hlower h
      refine ⟨hheaders, fun name => ?_⟩
      have hsplit : valuesAnyCase name (field :: fields) =
          valuesAnyCase name [field] ++ valuesAnyCase name fields := by
        simp only [valuesAnyCase, ← List.map_append, ← List.filter_append, List.singleton_append]
      rw [hvalues, hnext, valuesAnyCase_add, hsplit, List.append_assoc]

end Headers

/-! ## Setting the policies -/

/-- Whether a response has both policies, each once and with the value that isolates. -/
structure Isolated (r : Response) : Prop where
  embedder : r.headers.valuesAnyCase embedderPolicy = [Bytes.ofString "require-corp"]
  opener : r.headers.valuesAnyCase openerPolicy = [Bytes.ofString "same-origin"]

/-- Whether two responses agree in all but the policies. -/
structure SameApart (plain wrapped : Response) : Prop where
  status : wrapped.status = plain.status
  body : wrapped.body = plain.body
  values : ∀ name, Headers.lower name ≠ embedderPolicy → Headers.lower name ≠ openerPolicy →
    wrapped.headers.valuesAnyCase name = plain.headers.valuesAnyCase name

theorem lower_embedderPolicy : Headers.lower embedderPolicy = embedderPolicy := by decide

theorem lower_openerPolicy : Headers.lower openerPolicy = openerPolicy := by decide

theorem openerPolicy_ne_embedderPolicy : openerPolicy ≠ embedderPolicy := by decide

theorem allLower_isolate {r : Response} (h : r.headers.AllLower) :
    (isolate r).headers.AllLower :=
  Headers.allLower_set _ (Headers.allLower_set _ h lower_openerPolicy) lower_embedderPolicy

theorem isolated_isolate {r : Response} (h : r.headers.AllLower) : Isolated (isolate r) := by
  constructor
  · rw [Headers.valuesAnyCase_eq (allLower_isolate h), lower_embedderPolicy]
    exact Headers.values_set_self ..
  · rw [Headers.valuesAnyCase_eq (allLower_isolate h), lower_openerPolicy]
    unfold isolate
    rw [Headers.values_set_of_ne _ _ openerPolicy_ne_embedderPolicy, Headers.values_set_self]

theorem sameApart_isolate {r : Response} (h : r.headers.AllLower) :
    SameApart r (isolate r) := by
  refine ⟨rfl, rfl, fun name hembedder hopener => ?_⟩
  rw [Headers.valuesAnyCase_eq (allLower_isolate h), Headers.valuesAnyCase_eq h]
  unfold isolate
  rw [Headers.values_set_of_ne _ _ hembedder, Headers.values_set_of_ne _ _ hopener]

/-- The policies stand last, behind all fields of other names. -/
theorem isolate_headers (r : Response) :
    (isolate r).headers =
      r.headers.filter (fun f => f.1 != embedderPolicy && f.1 != openerPolicy) ++
        [(openerPolicy, Bytes.ofString "same-origin"),
          (embedderPolicy, Bytes.ofString "require-corp")] := by
  unfold isolate Headers.set
  rw [List.filter_append, List.filter_filter, List.append_assoc]
  simp [openerPolicy_ne_embedderPolicy]

theorem isolate_isolate (r : Response) : isolate (isolate r) = isolate r := by
  have hheaders : (isolate (isolate r)).headers = (isolate r).headers := by
    rw [isolate_headers (isolate r), isolate_headers r, List.filter_append, List.filter_filter]
    simp only [Bool.and_self]
    simp
  calc isolate (isolate r)
      = { isolate r with headers := (isolate (isolate r)).headers } := rfl
    _ = isolate r := by rw [hheaders]

theorem allLower_deliver {r : Response} (method : Method) (h : r.headers.AllLower) :
    (deliver method r).headers.AllLower := by
  have hlength : ∀ value, (r.headers.add "content-length" value).AllLower :=
    fun value => Headers.allLower_add value h (by decide)
  unfold deliver
  split
  · exact h
  · dsimp only
    split
    · exact hlength _
    · exact h

/-! ## What the server writes -/

theorem allLower_ofStatus (status : Nat) : (Response.ofStatus status).headers.AllLower :=
  Headers.allLower_of_names [] rfl (by decide)

namespace Files

theorem allLower_failure (e : FileError) : (failure e).headers.AllLower := by
  unfold failure
  split <;> exact allLower_ofStatus _

theorem allLower_redirect (uri : Uri) : (redirect uri).headers.AllLower := by
  unfold redirect
  split
  · exact Headers.allLower_of_names ["location"] rfl (by decide)
  · exact allLower_ofStatus _

theorem allLower_precondition {headers : Headers} {modified : Nat} {r : Response}
    (h : precondition? headers modified = some r) : r.headers.AllLower := by
  unfold precondition? at h
  simp only at h
  split_ifs at h
  · cases h
    exact allLower_ofStatus _
  · cases h
    exact allLower_ofStatus _

theorem allLower_contents (method : Method) (headers : Headers) (mediaType : String)
    (modified : Bytes) (o : Opened) :
    (contents method headers mediaType modified o).headers.AllLower := by
  unfold contents
  simp only
  split
  · exact Headers.allLower_of_names
      ["content-type", "accept-ranges", "last-modified", "content-length"] rfl (by decide)
  · split
    · exact Headers.allLower_of_names ["content-type", "accept-ranges", "last-modified",
        "content-range", "content-length"] rfl (by decide)
    · exact Headers.allLower_of_names
        ["content-type", "accept-ranges", "last-modified", "content-range"] rfl (by decide)
    · exact Headers.allLower_of_names
        ["content-type", "accept-ranges", "last-modified", "content-range"] rfl (by decide)

theorem allLower_listing (fs : FileSystem) (who : Visitor) (path dir : Bytes) :
    (listing fs who path dir).headers.AllLower := by
  unfold listing
  split <;> exact Headers.allLower_of_names ["content-type"] rfl (by decide)

theorem allLower_serveAt {fs : FileSystem} {who : Visitor} {request : Request} {path : Bytes}
    {r : Response} (h : serveAt fs who request path = some r) : r.headers.AllLower := by
  unfold serveAt at h
  split at h
  · cases h
    exact allLower_ofStatus _
  · cases h
    exact allLower_failure _
  · split at h
    · cases h
      exact allLower_ofStatus _
    · split at h
      · cases h
      · split at h
        · rename_i hcondition
          cases h
          exact allLower_precondition hcondition
        · cases h
          exact allLower_contents _ _ _ _ _

theorem allLower_serveFile {fs : FileSystem} {who : Visitor} {root : Bytes} {request : Request}
    {r : Response} (h : serveFile fs who root request = some r) : r.headers.AllLower := by
  unfold serveFile at h
  split at h
  · cases h
    exact Headers.allLower_of_names ["allow"] rfl (by decide)
  · split at h
    · cases h
      exact allLower_ofStatus _
    · split at h
      · exact allLower_serveAt h
      · split at h
        · exact allLower_serveAt h
        · cases h
          exact allLower_redirect _

theorem allLower_serve {config : FilesConfig} {fs : FileSystem} {who : Visitor}
    {request : Request} {r : Response} (h : serve config fs who request = some r) :
    r.headers.AllLower := by
  unfold serve at h
  simp only at h
  split at h
  · cases h
    exact allLower_listing _ _ _ _
  · exact allLower_serveFile h

end Files

namespace Proxy

theorem allLower_answer (fetched : Fetched) : (answer fetched).headers.AllLower := by
  cases fetched with
  | failed => exact allLower_ofStatus _
  | replied status headers body =>
    simp only [answer, passOn]
    split
    · exact Headers.allLower_of_names ["content-length"] rfl (by decide)
    · exact Headers.allLower_of_names [] rfl (by decide)

theorem allLower_forward (client : Client) (network : Network) (before : List Outgoing)
    (segment : Bytes) : (forward client network before segment).1.headers.AllLower := by
  unfold forward
  split
  · exact Headers.allLower_of_names ["content-type"] rfl (by decide)
  · exact allLower_answer _

end Proxy

/-- Whichever part of the server answers, all names are in small letters. -/
theorem Server.allLower_dispatch {server : Server} {world : World} {request : Request}
    {inner : Response} (h : (server.dispatch world request).1 = some inner) :
    inner.headers.AllLower := by
  unfold dispatch at h
  split at h
  · cases h
    exact Proxy.allLower_forward _ _ _ _
  · exact Files.allLower_serve h

/-! ## When there is a response -/

/-- Whether everything that can be opened is dated from 1970 to 9999. -/
def FileSystem.Dated (fs : FileSystem) : Prop :=
  ∀ loc node o, fs.node? loc = some node → Files.Opened.ofNode? node = some o →
    0 ≤ o.modified ∧ o.modified < 253402300800

namespace Files

theorem node?_of_openFor {fs : FileSystem} {who : Visitor} {method : Method} {path : Bytes}
    {node : Node} (h : openFor fs who method path = .ok node) :
    ∃ loc, fs.node? loc = some node := by
  have hstat : fs.stat who path = .ok node := by
    unfold openFor FileSystem.openFile at h
    split_ifs at h
    · exact h
    · cases hfound : fs.stat who path with
      | error e => simp [hfound] at h
      | ok found =>
        simp only [hfound] at h
        split_ifs at h
        exact h
  obtain ⟨loc, -, hnode⟩ := FileSystem.denotes_of_stat hstat
  exact ⟨loc, hnode⟩

theorem exists_serveAt {fs : FileSystem} (hdated : fs.Dated) (who : Visitor) (request : Request)
    (path : Bytes) : ∃ r, serveAt fs who request path = some r := by
  unfold serveAt
  split
  · exact ⟨_, rfl⟩
  · exact ⟨_, rfl⟩
  · rename_i node hnode
    obtain ⟨loc, hloc⟩ := node?_of_openFor hnode
    split
    · exact ⟨_, rfl⟩
    · rename_i o ho
      obtain ⟨hlow, hhigh⟩ := hdated loc node o hloc ho
      have hdate : Date.textOf? o.modified = some (Date.ofSeconds o.modified.toNat).text := by
        simp [Date.textOf?, hlow, hhigh]
      rw [hdate]
      simp only
      split <;> exact ⟨_, rfl⟩

theorem exists_serve {fs : FileSystem} (hdated : fs.Dated) (config : FilesConfig) (who : Visitor)
    (request : Request) : ∃ r, serve config fs who request = some r := by
  unfold serve serveFile
  simp only
  split
  · exact ⟨_, rfl⟩
  · split
    · exact ⟨_, rfl⟩
    · split
      · exact ⟨_, rfl⟩
      · split_ifs
        · exact exists_serveAt hdated who request _
        · exact exists_serveAt hdated who request _
        · exact ⟨_, rfl⟩

end Files

theorem Server.exists_respond (server : Server) {world : World} {request : Request}
    (hdated : forwarded? request = none → world.fs.Dated) :
    ∃ response, (server.respond world request).1 = some response := by
  unfold respond dispatch
  cases hforwarded : forwarded? request with
  | some segment => exact ⟨_, rfl⟩
  | none =>
    obtain ⟨r, hr⟩ := Files.exists_serve (hdated hforwarded) server.files world.who request
    simp only [hr]
    exact ⟨_, rfl⟩

/-! ## The law -/

/-- Every response is isolated, whichever part of the server answers, and is otherwise what that
part gave. There is a response unless a file has a time that cannot be written. Fields of any
names, repeated and in any letter case, are treated alike, and isolating twice is isolating
once. -/
theorem every_response_is_isolated :
    (∀ (server : Server) (world : Server.World) (request : Request) (response : Response),
      (server.respond world request).1 = some response →
      Isolated response ∧ ∃ inner, (server.dispatch world request).1 = some inner ∧
        SameApart (deliver request.method inner) response) ∧
    (∀ (server : Server) (world : Server.World) (request : Request),
      (Server.forwarded? request = none → world.fs.Dated) →
      ∃ response, (server.respond world request).1 = some response) ∧
    (∀ (method : Method) (inner : Response) (fields : List (String × Bytes)),
      Headers.ofFields? fields = .ok inner.headers →
      (∀ name, inner.headers.valuesAnyCase name = Headers.valuesAnyCase name fields) ∧
      Isolated (isolate (deliver method inner)) ∧
      SameApart (deliver method inner) (isolate (deliver method inner)) ∧
      isolate (isolate (deliver method inner)) = isolate (deliver method inner)) := by
  refine ⟨?_, fun server world request => Server.exists_respond server, ?_⟩
  · intro server world request response h
    obtain ⟨inner, hinner, rfl⟩ := Option.map_eq_some_iff.mp h
    have hlower := allLower_deliver request.method (Server.allLower_dispatch hinner)
    exact ⟨isolated_isolate hlower, inner, hinner, sameApart_isolate hlower⟩
  · intro method inner fields hfields
    obtain ⟨hinner, hvalues⟩ := Headers.read_fields (fun f hf => by cases hf) hfields
    have hlower := allLower_deliver method hinner
    exact ⟨hvalues, isolated_isolate hlower, sameApart_isolate hlower, isolate_isolate _⟩

/-- Fields that ask for no isolation, twice and in two letter cases, among others. -/
def looseFields : List (String × Bytes) :=
  [("Cross-Origin-Opener-Policy", Bytes.ofString "unsafe-none"), ("X-Trace", [0x31]),
    ("cross-origin-OPENER-policy", Bytes.ofString "unsafe-none"), ("x-trace", [0x32])]

/-- An empty directory at the top. -/
def bareSystem : FileSystem := { top := .dir 0o755 0 [] }

def bareServer : Server := { files := {}, client := { userAgent := [], maxRedirects := 0 } }

theorem dated_bareSystem : bareSystem.Dated := by
  intro loc node o hnode ho
  cases loc with
  | nil =>
    cases hnode
    cases ho
    decide
  | cons name rest => cases hnode

/-- Loose policies are replaced and other fields stay in order; and a page that is not there is
isolated too. -/
theorem loose_policies_are_replaced :
    (∃ headers, Headers.ofFields? looseFields = .ok headers ∧
      Isolated (isolate (deliver .get { status := 404, headers })) ∧
      (isolate (deliver .get { status := 404, headers })).headers.valuesAnyCase "X-TRACE" =
        [[0x31], [0x32]]) ∧
    ∃ response,
      (bareServer.respond { fs := bareSystem }
        { method := .get, uri := { path := Bytes.ofString "/a" } }).1 = some response ∧
      Isolated response := by
  obtain ⟨hrespond, hexists, hfields⟩ := every_response_is_isolated
  constructor
  · have hread : ∃ headers, Headers.ofFields? looseFields = .ok headers := ⟨_, rfl⟩
    obtain ⟨headers, hheaders⟩ := hread
    obtain ⟨-, hisolated, hsame, -⟩ :=
      hfields .get { status := 404, headers } looseFields hheaders
    refine ⟨headers, hheaders, hisolated, ?_⟩
    rw [hsame.values "X-TRACE" (by decide) (by decide)]
    cases hheaders
    decide
  · obtain ⟨response, hresponse⟩ := hexists bareServer { fs := bareSystem }
      { method := .get, uri := { path := Bytes.ofString "/a" } } fun _ => dated_bareSystem
    exact ⟨response, hresponse, (hrespond _ _ _ _ hresponse).1⟩

end IsoServer
