-- Bodies that are passed on. A client gets the body of the last reply as far as it came, and knows
-- whether it is whole. Of the fields of the reply it gets the length only, and that as it was
-- written.
import Mathlib
import IsoServer.Proofs.Delivery
import IsoServer.Proofs.Forwarding

namespace IsoServer

/-! ## The response to a reply -/

/-- The policies that every response carries. -/
def policies : Headers :=
  [(openerPolicy, Bytes.ofString "same-origin"), (embedderPolicy, Bytes.ofString "require-corp")]

/-- The response that passes a body on, with the length that was found in the reply. -/
def passedOn (length : Option Bytes) (body : Proxy.Received) : Response :=
  { status := 200
    headers := length.toList.map (fun value => ("content-length", value)) ++ policies
    body := { content := body.content, sized := false, cut := body.cut } }

theorem isolate_passOn (headers : Headers) (body : Proxy.Received) :
    isolate (deliver .get (Proxy.passOn headers body)) =
      passedOn (headers.get? "content-length") body := by
  unfold Proxy.passOn
  cases headers.get? "content-length" with
  | none => rfl
  | some value => rfl

theorem values_passedOn (length : Option Bytes) (body : Proxy.Received) :
    (passedOn length body).headers.values "content-length" = length.toList := by
  cases length with
  | none => rfl
  | some value => rfl

namespace Server

/-- What the server answers if the last reply of a fetch is a success. -/
theorem respond_of_replied {request : Request} {segment : Bytes} {url : Url} {status : Nat}
    {headers : Headers} {body : Proxy.Received} {server : Server} {world : World}
    (hget : request.method = .get) (hpath : request.uri.path = Proxy.pathStart ++ segment)
    (htarget : Proxy.readTarget segment = .ok url)
    (hreplied : (server.client.fetch world.network world.sent url).1 =
      .replied status headers body) :
    (server.respond world request).1 = some (passedOn (headers.get? "content-length") body) := by
  rw [respond_of_readTarget hget hpath htarget, hreplied]
  simp only [Proxy.answer, isolate_passOn]

end Server

/-! ## Fidelity -/

/-- The length that a framing declares, as it is written. -/
def Proxy.Framing.length? : Framing → Option Bytes
  | .length declared => some (Bytes.decimal declared)
  | .chunked _ | .chunkedCut _ | .close => none

theorem Proxy.get?_framed {framing : Framing} {own more : Headers}
    (hown : ∀ f ∈ own ++ more, f.1 ≠ "content-length") :
    (own ++ framing.fields ++ more).get? "content-length" = framing.length? := by
  rw [Headers.get?_eq_head?, values_framed hown]
  cases framing <;> rfl

/-- A body arrives as it was framed. Let fetching end in a success that can have a body and whose
other fields say nothing of it. With a declared length the client gets that length and as many
bytes as it says, or all that came if they are fewer; then, and only then, the body breaks off. In
chunks, or up to the end of the connection, the client gets the whole body and no length; if the
last chunk is missing, the body breaks off behind the others. No other field of the reply gets
through. -/
theorem a_body_arrives_as_it_was_framed (server : Server) (world : Server.World)
    (request : Request) (segment : Bytes) (url : Url) (status : Nat) (own more : Headers)
    (framing : Proxy.Framing) (body : Bytes) (hget : request.method = .get)
    (hpath : request.uri.path = Proxy.pathStart ++ segment)
    (htarget : Proxy.readTarget segment = .ok url)
    (hends : server.client.EndsIn world.network status (own ++ framing.fields ++ more)
      (framing.write body) server.client.maxRedirects world.sent (.start url))
    (hsuccess : 200 ≤ status ∧ status ≤ 299) (hcontent : status ≠ 204)
    (hown : ∀ f ∈ own ++ more, f.1 ≠ "content-length" ∧ f.1 ≠ "transfer-encoding")
    (hfits : framing.Fits body) :
    ∃ response, (server.respond world request).1 = some response ∧ response.status = 200 ∧
      match framing with
      | .length declared =>
        response.headers = ("content-length", Bytes.decimal declared) :: policies ∧
        response.body.content = body.take (min declared body.length) ∧
        (response.body.cut = true ↔ body.length < declared)
      | .chunked _ | .close =>
        response.headers = policies ∧ response.body.content = body ∧ response.body.cut = false
      | .chunkedCut _ =>
        response.headers = policies ∧ response.body.content = body ∧
        response.body.cut = true := by
  have hfinal : Proxy.isFinal status = true := by
    simp only [Proxy.isFinal, Bool.or_eq_true, Bool.and_eq_true, decide_eq_true_eq]
    omega
  have hnot : Proxy.isFailure status = false := by
    simp only [Proxy.isFailure, Bool.and_eq_false_iff, decide_eq_false_iff_not]
    omega
  have hextent := Proxy.ofReply?_framed hsuccess hcontent hown hfits
  have hreplied := Proxy.fetchFrom_of_endsIn hends hextent hfinal hnot
  have hrespond := Server.respond_of_replied hget hpath htarget hreplied
  rw [Proxy.read_write hfits, Proxy.get?_framed fun f hf => (hown f hf).1] at hrespond
  refine ⟨_, hrespond, rfl, ?_⟩
  cases framing with
  | length declared =>
    refine ⟨rfl, ?_, ?_⟩
    · simp [passedOn, Proxy.Framing.received, List.take_eq_take_iff]
    · simp [passedOn, Proxy.Framing.received]
  | chunked size => exact ⟨rfl, rfl, rfl⟩
  | chunkedCut size => exact ⟨rfl, rfl, rfl⟩
  | close => exact ⟨rfl, rfl, rfl⟩

/-- A server that follows one redirect. -/
def movedServer : Server :=
  { files := {}, client := { userAgent := Bytes.ofString "curl/7.88.1", maxRedirects := 1 } }

/-- A world without files in which every host redirects at first, and then sends a body with a
cookie. -/
def movedWorld (framing : Proxy.Framing) (body : Bytes) : Server.World :=
  { fs := bareSystem
    network := fun before _ =>
      if before.isEmpty then .answer 302 [("location", Bytes.ofString "/b")] []
      else
        .answer 203 ([("set-cookie", Bytes.ofString "a=b")] ++ framing.fields ++
          [("connection", Bytes.ofString "close")]) (framing.write body) }

/-- The address `http://127.0.0.1/b`. -/
def loopbackPage : Url := { loopback with path := .segments ["b"] }

theorem endsIn_movedWorld (framing : Proxy.Framing) (body : Bytes) :
    movedServer.client.EndsIn (movedWorld framing body).network 203
      ([("set-cookie", Bytes.ofString "a=b")] ++ framing.fields ++
        [("connection", Bytes.ofString "close")]) (framing.write body) 1 [] (.start loopback) := by
  have hsecond : ∃ out, movedServer.client.errand?
      ((Proxy.Hop.start loopback).follow loopbackPage) = some { out } :=
    Proxy.exists_errand?_of_no_gateway rfl rfl (by decide +kernel) (by decide +kernel)
  have hnext : Proxy.redirect? loopback 302 [("location", Bytes.ofString "/b")] =
      some loopbackPage := by
    decide +kernel
  obtain ⟨out, hfirst⟩ := errand?_loopback movedServer.client rfl rfl
  obtain ⟨out', hsecond⟩ := hsecond
  exact .redirected hfirst rfl rfl hnext (.here hsecond rfl rfl)

/-- A body that looks like the end of itself arrives whole in chunks, and breaks off where the last
chunk or some of the declared bytes are missing. -/
theorem a_body_like_a_last_chunk_arrives :
    (∃ response, (movedServer.respond (movedWorld (.chunked 3) Proxy.Framing.lastChunk)
        (askFor "aHR0cDovLzEyNy4wLjAuMS8=")).1 = some response ∧ response.status = 200 ∧
      response.headers = policies ∧ response.body.content = Proxy.Framing.lastChunk ∧
      response.body.cut = false) ∧
    (∃ response, (movedServer.respond (movedWorld (.chunkedCut 3) Proxy.Framing.lastChunk)
        (askFor "aHR0cDovLzEyNy4wLjAuMS8=")).1 = some response ∧ response.status = 200 ∧
      response.headers = policies ∧ response.body.content = Proxy.Framing.lastChunk ∧
      response.body.cut = true) ∧
    ∃ response, (movedServer.respond (movedWorld (.length 9) Proxy.Framing.lastChunk)
        (askFor "aHR0cDovLzEyNy4wLjAuMS8=")).1 = some response ∧ response.status = 200 ∧
      response.headers = ("content-length", Bytes.decimal 9) :: policies ∧
      response.body.content = Proxy.Framing.lastChunk.take (min 9 5) ∧
      (response.body.cut = true ↔ 5 < 9) := by
  have htarget := Proxy.readTarget_of_parse decodeTarget_loopback parse_loopback
  have hother : ∀ f ∈ [("set-cookie", Bytes.ofString "a=b")] ++
      [("connection", Bytes.ofString "close")],
      f.1 ≠ "content-length" ∧ f.1 ≠ "transfer-encoding" := by
    intro f hf
    simp only [List.cons_append, List.nil_append, List.mem_cons, List.not_mem_nil, or_false] at hf
    rcases hf with rfl | rfl <;> decide
  refine ⟨?_, ?_, ?_⟩
  · exact a_body_arrives_as_it_was_framed movedServer _ _ _ loopback 203 _ _ (.chunked 3) _ rfl rfl
      htarget (endsIn_movedWorld _ _) (by decide) (by decide) hother (by decide)
  · exact a_body_arrives_as_it_was_framed movedServer _ _ _ loopback 203 _ _ (.chunkedCut 3) _ rfl
      rfl htarget (endsIn_movedWorld _ _) (by decide) (by decide) hother (by decide)
  · exact a_body_arrives_as_it_was_framed movedServer _ _ _ loopback 203 _ _ (.length 9) _ rfl rfl
      htarget (endsIn_movedWorld _ _) (by decide) (by decide) hother (by decide)

/-! ## Lengths -/

/-- Whether the length of a response is the number of bytes of its body, unless the body breaks
off. -/
def CountsItsBody (r : Response) : Prop :=
  r.body.cut = false → ∀ value ∈ r.headers.values "content-length",
    Bytes.decimal? value = some r.body.content.length

/-- The statuses whose replies have no body. -/
def bodiless : List Nat := [101, 204, 304]

theorem content_of_not_bodiless {status : Nat} (hfinal : Proxy.isFinal status = true)
    (h : status ∉ bodiless) : 200 ≤ status ∧ status ≠ 204 ∧ status ≠ 304 := by
  simp only [Proxy.isFinal, Bool.or_eq_true, Bool.and_eq_true, decide_eq_true_eq, beq_iff_eq]
    at hfinal
  simp only [bodiless, List.mem_cons, List.not_mem_nil, or_false, not_or] at h
  omega

/-- A response whose length is known counts its body. -/
theorem says_of_sized {r : Response} (hlength : r.headers.values "content-length" = [])
    (hsized : r.body.sized = true) {value : Bytes}
    (hvalue : value ∈ (isolate (deliver .get r)).headers.values "content-length") :
    Proxy.Says value r.body.content.length := by
  have hannounced : announced r = [Bytes.decimal r.body.content.length] := by
    simp [announced, hlength, hsized]
  rw [values_isolate (by decide) (by decide), values_deliver_length (by simp), hannounced,
    List.mem_singleton] at hvalue
  rw [hvalue]
  exact Proxy.says_decimal _

/-- A length that is passed on counts the body, if the body goes by it. -/
theorem a_length_counts_the_body_that_goes_by_it (server : Server) (world : Server.World)
    (request : Request) (segment : Bytes) (hget : request.method = .get)
    (hpath : request.uri.path = Proxy.pathStart ++ segment) :
    ∃ response, (server.respond world request).1 = some response ∧
      (response.body.cut = false →
        (∀ url status headers body, Proxy.readTarget segment = .ok url →
          (server.client.fetch world.network world.sent url).1 = .replied status headers body →
          status ∉ bodiless ∧ headers.values "transfer-encoding" = []) →
        ∀ value ∈ response.headers.values "content-length",
          Proxy.Says value response.body.content.length) := by
  cases htarget : Proxy.readTarget segment with
  | error e =>
    refine ⟨Server.refusal e, ?_, fun _ _ value hvalue => ?_⟩
    · rw [Server.respond_of_misread hget hpath (Proxy.misread_of_readTarget htarget)]
    · exact says_of_sized (r := .plainText 400 e.message) rfl rfl hvalue
  | ok url =>
    cases hfetched : (server.client.fetch world.network world.sent url).1 with
    | failed =>
      refine ⟨Server.failedFetch,
        Server.respond_of_failed hget hpath htarget server world hfetched,
        fun _ _ value hvalue => ?_⟩
      exact says_of_sized (r := Proxy.emptySuccess) rfl rfl hvalue
    | replied status headers body =>
      refine ⟨_, Server.respond_of_replied hget hpath htarget hfetched,
        fun hwhole hframed value hvalue => ?_⟩
      obtain ⟨hcontent, hcodings⟩ := hframed url status headers body rfl hfetched
      obtain ⟨extent, rest, hextent, hfinal, rfl⟩ := Proxy.read_of_replied hfetched
      obtain ⟨hlow, hempty, hunchanged⟩ := content_of_not_bodiless hfinal hcontent
      rw [values_passedOn, Headers.get?_eq_head?, Option.mem_toList] at hvalue
      exact Proxy.says_of_whole hlow hempty hunchanged hcodings
        (List.mem_of_mem_head? hvalue) hextent hwhole

/-- Fetching from a host that always gives the same answer. -/
theorem fetch_loopback {status : Nat} {headers : Headers} {rest : Bytes} {extent : Proxy.Extent}
    (hextent : Proxy.Extent.ofReply? status headers = some extent)
    (hfinal : Proxy.isFinal status = true) (hsuccess : Proxy.isFailure status = false)
    (hstay : Proxy.redirect? loopback status headers = none) :
    (unmovedServer.client.fetch (echoWorld (.answer status headers rest)).network [] loopback).1 =
      .replied status headers (extent.read rest) := by
  obtain ⟨out, herrand⟩ := errand?_loopback unmovedServer.client rfl rfl
  exact Proxy.fetchFrom_of_endsIn (.here herrand rfl hstay) hextent hfinal hsuccess

theorem readTarget_loopback :
    Proxy.readTarget (Bytes.ofString "aHR0cDovLzEyNy4wLjAuMS8=") = .ok loopback :=
  Proxy.readTarget_of_parse decodeTarget_loopback parse_loopback

theorem respond_loopback {status : Nat} {headers : Headers} {rest : Bytes} {extent : Proxy.Extent}
    (hextent : Proxy.Extent.ofReply? status headers = some extent)
    (hfinal : Proxy.isFinal status = true) (hsuccess : Proxy.isFailure status = false)
    (hstay : Proxy.redirect? loopback status headers = none) :
    (unmovedServer.respond (echoWorld (.answer status headers rest))
      (askFor "aHR0cDovLzEyNy4wLjAuMS8=")).1 =
        some (passedOn (headers.get? "content-length") (extent.read rest)) :=
  Server.respond_of_replied rfl rfl readTarget_loopback
    (fetch_loopback hextent hfinal hsuccess hstay)

/-- A length that is written twice in one field. -/
def repeatedLength : Headers := [("content-length", Bytes.ofString "2, 2")]

/-- A length beside a transfer coding. -/
def codedLength : Headers :=
  [("content-length", Bytes.ofString "5"), ("transfer-encoding", Bytes.ofString "chunked")]

theorem ofReply?_repeatedLength :
    Proxy.Extent.ofReply? 200 repeatedLength = some (.bytes 2) := by
  decide +kernel

/-- A length that is written twice counts two of three bytes that came. -/
theorem a_repeated_length_counts_the_body :
    ∃ response,
      (unmovedServer.respond (echoWorld (.answer 200 repeatedLength [0x68, 0x69, 0x21]))
        (askFor "aHR0cDovLzEyNy4wLjAuMS8=")).1 = some response ∧
      response.body = { content := [0x68, 0x69], sized := false } ∧
      Bytes.ofString "2, 2" ∈ response.headers.values "content-length" ∧
      Proxy.Says (Bytes.ofString "2, 2") 2 := by
  obtain ⟨response, hresponse, hcounts⟩ := a_length_counts_the_body_that_goes_by_it unmovedServer
    (echoWorld (.answer 200 repeatedLength [0x68, 0x69, 0x21]))
    (askFor "aHR0cDovLzEyNy4wLjAuMS8=") _ rfl rfl
  have hpassed := hresponse
  rw [respond_loopback ofReply?_repeatedLength rfl rfl rfl] at hpassed
  cases hpassed
  refine ⟨_, hresponse, rfl, by decide, hcounts rfl ?_ _ (by decide)⟩
  -- the reply that was passed on is the one above
  intro url status headers body hurl hfetched
  rw [readTarget_loopback] at hurl
  cases hurl
  rw [show (echoWorld (.answer 200 repeatedLength [0x68, 0x69, 0x21])).sent = [] from rfl,
    fetch_loopback ofReply?_repeatedLength rfl rfl rfl] at hfetched
  cases hfetched
  decide

/-- A length need not be that of the body. Replies that have no body can still say one, a transfer
coding does not go by it, and a length that is written twice is no number. -/
theorem a_length_can_miscount_the_body :
    (∀ status ∈ bodiless, ∃ response,
      (unmovedServer.respond (echoWorld (.answer status [("content-length", [0x35])] []))
        (askFor "aHR0cDovLzEyNy4wLjAuMS8=")).1 = some response ∧ ¬ CountsItsBody response) ∧
    (∃ response,
      (unmovedServer.respond
        (echoWorld (.answer 200 codedLength (Proxy.Framing.write [0x68, 0x69] (.chunked 2))))
        (askFor "aHR0cDovLzEyNy4wLjAuMS8=")).1 = some response ∧ ¬ CountsItsBody response) ∧
    ∃ response,
      (unmovedServer.respond (echoWorld (.answer 200 repeatedLength [0x68, 0x69]))
        (askFor "aHR0cDovLzEyNy4wLjAuMS8=")).1 = some response ∧ ¬ CountsItsBody response := by
  refine ⟨fun status hstatus => ?_, ?_, ?_⟩
  · have hempty : Proxy.Extent.ofReply? status [("content-length", [0x35])] = some .empty ∧
        Proxy.isFinal status = true ∧ Proxy.isFailure status = false ∧
        Proxy.redirect? loopback status [("content-length", [0x35])] = none := by
      simp only [bodiless, List.mem_cons, List.not_mem_nil, or_false] at hstatus
      rcases hstatus with rfl | rfl | rfl <;> exact ⟨rfl, rfl, rfl, rfl⟩
    obtain ⟨hextent, hfinal, hsuccess, hstay⟩ := hempty
    refine ⟨_, respond_loopback hextent hfinal hsuccess hstay, fun hcounts => ?_⟩
    exact absurd (hcounts rfl [0x35] (by decide)) (by decide)
  · refine ⟨_, respond_loopback (show _ = some Proxy.Extent.chunks from rfl) rfl rfl rfl, ?_⟩
    have hread : Proxy.Extent.chunks.read (Proxy.Framing.write [0x68, 0x69] (.chunked 2)) =
        ⟨[0x68, 0x69], false⟩ := Proxy.read_write (by decide)
    rw [hread]
    intro hcounts
    exact absurd (hcounts rfl (Bytes.ofString "5") (by decide)) (by decide)
  · refine ⟨_, respond_loopback ofReply?_repeatedLength rfl rfl rfl, fun hcounts => ?_⟩
    exact absurd (hcounts rfl (Bytes.ofString "2, 2") (by decide)) (by decide)

end IsoServer
