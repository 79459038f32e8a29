-- How a request for an encoded target ends. A target that cannot be read is refused with a text
-- that says why; whatever fails behind it shows as one and the same empty success.
import Mathlib
import IsoServer.Proofs.Fetching
import IsoServer.Server.Respond

namespace IsoServer

/-! ## Reading the target -/

theorem Bytes.dropStart?_append (start rest : Bytes) :
    Bytes.dropStart? start (start ++ rest) = some rest := by
  induction start with
  | nil => rfl
  | cons b start ih => simpa [Bytes.dropStart?] using ih

namespace Proxy

/-- The two ways in which a segment is no target. -/
inductive Misread (segment : Bytes) : TargetError → Prop
  /-- No text can be read of it. -/
  | text {e : TargetError} : decodeTarget segment = .error e → Misread segment e
  /-- The text is not an address. -/
  | address {target : String} {cause : UrlError} : decodeTarget segment = .ok target →
      Url.parse target = .error cause → Misread segment (.invalidUrl cause)

theorem readTarget_of_misread {segment : Bytes} {e : TargetError} (h : Misread segment e) :
    readTarget segment = .error e := by
  cases h with
  | text htext => simp only [readTarget, htext]
  | address htext hurl => simp only [readTarget, htext, hurl]

theorem misread_of_readTarget {segment : Bytes} {e : TargetError}
    (h : readTarget segment = .error e) : Misread segment e := by
  unfold readTarget at h
  cases htext : decodeTarget segment with
  | error cause =>
    rw [htext] at h
    cases h
    exact .text htext
  | ok target =>
    rw [htext] at h
    cases hurl : Url.parse target with
    | error cause =>
      simp only [hurl] at h
      cases h
      exact .address htext hurl
    | ok url =>
      simp only [hurl] at h
      cases h

theorem readTarget_of_parse {segment : Bytes} {target : String} {url : Url}
    (htext : decodeTarget segment = .ok target) (hurl : Url.parse target = .ok url) :
    readTarget segment = .ok url := by
  simp only [readTarget, htext, hurl]

theorem forward_of_misread {segment : Bytes} {e : TargetError} (h : Misread segment e)
    (client : Client) (network : Network) (before : List Outgoing) :
    forward client network before segment = (.plainText 400 e.message, []) := by
  simp only [forward, readTarget_of_misread h]

theorem forward_of_readTarget {segment : Bytes} {url : Url} (h : readTarget segment = .ok url)
    (client : Client) (network : Network) (before : List Outgoing) :
    forward client network before segment =
      (answer (client.fetch network before url).1, (client.fetch network before url).2) := by
  simp only [forward, h]

theorem answer_status (fetched : Fetched) : (answer fetched).status = 200 := by
  cases fetched <;> rfl

end Proxy

/-! ## The response -/

theorem deliver_status (method : Method) (r : Response) :
    (deliver method r).status = r.status := by
  unfold deliver
  split <;> rfl

namespace Server

/-- The response to a target that cannot be read. -/
def refusal (e : Proxy.TargetError) : Response :=
  isolate (deliver .get (.plainText 400 e.message))

/-- The response when fetching failed. -/
def failedFetch : Response := isolate (deliver .get Proxy.emptySuccess)

section Forwarded

variable {request : Request} {segment : Bytes} (hget : request.method = .get)
  (hpath : request.uri.path = Proxy.pathStart ++ segment)

include hget hpath

theorem forwarded?_of_path : forwarded? request = some segment := by
  unfold forwarded? Proxy.segment?
  rw [hget, hpath, Bytes.dropStart?_append]
  rfl

theorem respond_of_forwarded (server : Server) (world : World) :
    server.respond world request =
      (some (isolate (deliver .get
        (Proxy.forward server.client world.network world.sent segment).1)),
      (Proxy.forward server.client world.network world.sent segment).2) := by
  unfold respond dispatch
  rw [forwarded?_of_path hget hpath, hget]
  rfl

theorem respond_of_misread {e : Proxy.TargetError} (h : Proxy.Misread segment e) (server : Server)
    (world : World) : server.respond world request = (some (refusal e), []) := by
  rw [respond_of_forwarded hget hpath, Proxy.forward_of_misread h]
  rfl

theorem respond_of_readTarget {url : Url} (h : Proxy.readTarget segment = .ok url)
    (server : Server) (world : World) :
    (server.respond world request).1 =
      some (isolate (deliver .get
        (Proxy.answer (server.client.fetch world.network world.sent url).1))) := by
  rw [respond_of_forwarded hget hpath, Proxy.forward_of_readTarget h]

theorem respond_of_failed {url : Url} (h : Proxy.readTarget segment = .ok url) (server : Server)
    (world : World) (hfailed : (server.client.fetch world.network world.sent url).1 = .failed) :
    (server.respond world request).1 = some failedFetch := by
  rw [respond_of_readTarget hget hpath h, hfailed]
  rfl

/-- A forwarded request is refused if its target cannot be read, and succeeds if it can. -/
theorem status_of_forwarded (server : Server) (world : World) :
    ∃ response, (server.respond world request).1 = some response ∧
      ((response.status = 400 ∧ ∃ e, Proxy.Misread segment e) ∨
        (response.status = 200 ∧ ¬ ∃ e, Proxy.Misread segment e)) := by
  cases htarget : Proxy.readTarget segment with
  | error e =>
    have hmisread := Proxy.misread_of_readTarget htarget
    refine ⟨refusal e, ?_, .inl ⟨rfl, e, hmisread⟩⟩
    rw [respond_of_misread hget hpath hmisread]
  | ok url =>
    refine ⟨_, respond_of_readTarget hget hpath htarget server world, .inr ⟨?_, ?_⟩⟩
    · exact (deliver_status ..).trans (Proxy.answer_status _)
    · rintro ⟨e, hmisread⟩
      rw [Proxy.readTarget_of_misread hmisread] at htarget
      cases htarget

end Forwarded

end Server

/-! ## The law -/

/-- A forwarded request ends in 400 or 200. It is 400 exactly if the target cannot be read; then
the body says why, nothing is sent, and the response is the same for every server in every
world. Otherwise it is 200, and all ways of failing to fetch the target give the same empty
response. -/
theorem a_forwarded_request_ends_in_400_or_200 (request : Request) (segment : Bytes)
    (hget : request.method = .get) (hpath : request.uri.path = Proxy.pathStart ++ segment) :
    (∀ (server : Server) (world : Server.World), ∃ response,
      (server.respond world request).1 = some response ∧
      (response.status = 400 ∨ response.status = 200) ∧
      (response.status = 400 ↔ ∃ e, Proxy.Misread segment e)) ∧
    (∀ e, Proxy.Misread segment e → ∃ response : Response,
      response.status = 400 ∧ response.body.content = Bytes.ofString e.message ∧
      response.body.cut = false ∧
      ∀ (server : Server) (world : Server.World),
        server.respond world request = (some response, [])) ∧
    (∀ (server : Server) (world : Server.World) (target : String) (url : Url),
      Proxy.decodeTarget segment = .ok target → Url.parse target = .ok url →
      ((server.client.fetch world.network world.sent url).1 = .failed ↔
        server.client.Fails world.network server.client.maxRedirects world.sent
          (.start url)) ∧
      ((server.client.fetch world.network world.sent url).1 = .failed →
        (server.respond world request).1 = some Server.failedFetch)) ∧
    Server.failedFetch.status = 200 ∧ Server.failedFetch.body.content = [] ∧
      Server.failedFetch.body.cut = false := by
  refine ⟨fun server world => ?_, fun e hmisread => ?_,
    fun server world target url htext hurl => ?_, rfl, rfl, rfl⟩
  · obtain ⟨response, hresponse, ⟨hstatus, he⟩ | ⟨hstatus, hnone⟩⟩ :=
      Server.status_of_forwarded hget hpath server world
    · exact ⟨response, hresponse, .inl hstatus, fun _ => he, fun _ => hstatus⟩
    · refine ⟨response, hresponse, .inr hstatus, fun h => ?_, fun he => absurd he hnone⟩
      rw [hstatus] at h
      cases h
  · exact ⟨Server.refusal e, rfl, rfl, rfl, Server.respond_of_misread hget hpath hmisread⟩
  · have htarget := Proxy.readTarget_of_parse htext hurl
    exact ⟨Proxy.fetchFrom_failed_iff,
      Server.respond_of_failed hget hpath htarget server world⟩

/-- A server that follows no redirect. -/
def unmovedServer : Server :=
  { files := {}, client := { userAgent := Bytes.ofString "curl/7.88.1", maxRedirects := 0 } }

/-- A world without files in which every host gives the same reply. -/
def echoWorld (reply : Proxy.Reply) : Server.World :=
  { fs := { top := .dir 0o755 0 [] }, network := fun _ _ => reply }

/-- The request for an encoded target. -/
def askFor (segment : String) : Request :=
  { method := .get, uri := { path := Proxy.pathStart ++ Bytes.ofString segment } }

/-- The address `http://127.0.0.1/`. -/
def loopback : Url :=
  { scheme := "http", host := some (.ipv4 (.ofNat 0x7F000001)), path := .segments [""] }

theorem decodeTarget_loopback :
    Proxy.decodeTarget (Bytes.ofString "aHR0cDovLzEyNy4wLjAuMS8=") = .ok "http://127.0.0.1/" := by
  decide +kernel

theorem parse_loopback : Url.parse "http://127.0.0.1/" = .ok loopback := by
  decide +kernel

theorem errand?_loopback (client : Proxy.Client) (hplain : client.routing.plain = none)
    (hsecure : client.routing.secure = none) :
    ∃ out, client.errand? (.start loopback) = some { out } :=
  Proxy.exists_errand?_of_no_gateway hplain hsecure (by decide +kernel) (by decide +kernel)

/-- A host that refuses, a host that does not know the page and a host that redirects once too
often look the same; a segment without its last character is refused. -/
theorem a_refused_a_missing_and_a_moved_page_look_alike :
    (unmovedServer.respond (echoWorld .refused) (askFor "aHR0cDovLzEyNy4wLjAuMS8=")).1 =
      some Server.failedFetch ∧
    (unmovedServer.respond (echoWorld (.answer 404 [] [0x21]))
      (askFor "aHR0cDovLzEyNy4wLjAuMS8=")).1 = some Server.failedFetch ∧
    (unmovedServer.respond (echoWorld (.answer 302 [("location", [0x2F])] []))
      (askFor "aHR0cDovLzEyNy4wLjAuMS8=")).1 = some Server.failedFetch ∧
    ∃ response, response.status = 400 ∧
      unmovedServer.respond (echoWorld .refused) (askFor "aHR0cDovLzEyNy4wLjAuMS8") =
        (some response, []) := by
  obtain ⟨out, herrand⟩ := errand?_loopback unmovedServer.client rfl rfl
  have hredirect : ∃ next, Proxy.redirect? loopback 302 [("location", [0x2F])] = some next := by
    rw [← Option.isSome_iff_exists]
    decide +kernel
  obtain ⟨next, hnext⟩ := hredirect
  have hmisread : Proxy.Misread (Bytes.ofString "aHR0cDovLzEyNy4wLjAuMS8")
      (.invalidBase64 .invalidPadding) := .text (by decide +kernel)
  obtain ⟨-, -, hfetch, -⟩ :=
    a_forwarded_request_ends_in_400_or_200 (askFor "aHR0cDovLzEyNy4wLjAuMS8=") _ rfl rfl
  obtain ⟨-, hrefused, -⟩ :=
    a_forwarded_request_ends_in_400_or_200 (askFor "aHR0cDovLzEyNy4wLjAuMS8") _ rfl rfl
  have hlook : ∀ reply, unmovedServer.client.Fails (echoWorld reply).network 0 []
      (.start loopback) →
      (unmovedServer.respond (echoWorld reply) (askFor "aHR0cDovLzEyNy4wLjAuMS8=")).1 =
        some Server.failedFetch := by
    intro reply hfails
    obtain ⟨hiff, hsame⟩ := hfetch unmovedServer (echoWorld reply) _ _ decodeTarget_loopback
      parse_loopback
    exact hsame (hiff.mpr hfails)
  refine ⟨hlook _ (.unanswered herrand ?_), hlook _ (.status herrand rfl ?_ ?_),
    hlook _ (.tooManyRedirects herrand rfl hnext), ?_⟩
  · exact List.mem_cons_self
  · decide
  · decide
  · obtain ⟨response, hstatus, -, -, hresponse⟩ := hrefused _ hmisread
    exact ⟨response, hstatus, hresponse unmovedServer (echoWorld .refused)⟩

end IsoServer
