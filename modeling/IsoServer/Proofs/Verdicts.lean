-- Which replies count as failures. Fetching stops at a reply that it does not follow. Of a reply
-- with the status of an error, or one that makes no sense, the client learns nothing; every other
-- reply is passed on, be its status that of a success or not.
import Mathlib
import IsoServer.Proofs.Bodies

namespace IsoServer

namespace Proxy

/-! ## The reply at which fetching stops -/

/-- Fetching from a hop stops at an answer, which redirects to `next` if it redirects at all. -/
inductive Client.StopsAt (client : Client) (network : Network) (status : Nat) (headers : Headers)
    (rest : Bytes) (next : Option Url) : Nat → List Outgoing → Hop → Prop
  /-- The answer redirects nowhere, or to an address of a scheme that cannot be fetched, or makes
  no sense, or no redirect may be followed any more. -/
  | here {left : Nat} {before : List Outgoing} {hop : Hop} {errand : Errand} :
      client.errand? hop = some errand →
      (network.carry before errand).1 = .answer status headers rest →
      redirect? hop.url status headers = next →
      (∀ url ∈ next, isWeb url = false) ∨ Extent.ofReply? status headers = none ∨ left = 0 →
      StopsAt client network status headers rest next left before hop
  /-- An answer that makes sense redirects to where fetching stops. -/
  | redirected {left : Nat} {before : List Outgoing} {hop : Hop} {errand : Errand} {status' : Nat}
      {headers' : Headers} {rest' : Bytes} {extent : Extent} {next' : Url} :
      client.errand? hop = some errand →
      (network.carry before errand).1 = .answer status' headers' rest' →
      Extent.ofReply? status' headers' = some extent →
      redirect? hop.url status' headers' = some next' →
      StopsAt client network status headers rest next left (before ++ errand.requests)
        (hop.follow next') →
      StopsAt client network status headers rest next (left + 1) before hop

/-- The replies that count as failures: those with the status of an error, those whose lengths make
no sense, those that are not final, and those whose redirect is not followed. -/
def CountsAsFailure (status : Nat) (headers : Headers) (next : Option Url) : Prop :=
  (400 ≤ status ∧ status ≤ 599) ∨ Extent.ofReply? status headers = none ∨
    ¬ (status = 101 ∨ 200 ≤ status ∧ status ≤ 999) ∨ next ≠ none

theorem isFinal_iff {status : Nat} :
    isFinal status = true ↔ status = 101 ∨ 200 ≤ status ∧ status ≤ 999 := by
  simp only [isFinal, Bool.or_eq_true, Bool.and_eq_true, beq_iff_eq, decide_eq_true_eq]
  omega

section Stops

variable {client : Client} {network : Network} {status : Nat} {headers : Headers} {rest : Bytes}
  {next : Option Url} {left : Nat} {before : List Outgoing} {hop : Hop}

/-- If the reply counts as a failure, fetching fails. -/
theorem fails_of_stopsAt (h : client.StopsAt network status headers rest next left before hop)
    (hcounts : CountsAsFailure status headers next) : client.Fails network left before hop := by
  induction h with
  | @here left _ _ _ herrand hreply hnext hstop =>
    rcases hcounts with ⟨hlow, hhigh⟩ | hsense | hfinal | hmoves
    · exact .status herrand hreply hlow hhigh
    · exact .malformed herrand hreply (.inl hsense)
    · refine .malformed herrand hreply (.inr ?_)
      rwa [← isFinal_iff, Bool.not_eq_true] at hfinal
    · obtain ⟨url, rfl⟩ := Option.ne_none_iff_exists'.mp hmoves
      rcases hstop with hother | hsense | rfl
      · cases left with
        | zero => exact .tooManyRedirects herrand hreply hnext
        | succ left =>
          have hscheme := hother url rfl
          rw [← Bool.not_eq_true, isWeb_iff, not_or] at hscheme
          exact .redirected herrand hreply hnext (.scheme hscheme.1 hscheme.2)
      · exact .malformed herrand hreply (.inl hsense)
      · exact .tooManyRedirects herrand hreply hnext
  | redirected herrand hreply _ hnext _ ih => exact .redirected herrand hreply hnext ih

/-- A reply that does not count as a failure ends the fetch. -/
theorem endsIn_of_stopsAt (h : client.StopsAt network status headers rest next left before hop)
    (hcounts : ¬ CountsAsFailure status headers next) :
    client.EndsIn network status headers rest left before hop := by
  induction h with
  | here herrand hreply hnext _ =>
    have hstays : next = none := by
      by_contra hmoves
      exact hcounts (.inr (.inr (.inr hmoves)))
    exact .here herrand hreply (hnext.trans hstays)
  | redirected herrand hreply hsense hnext _ ih =>
    exact .redirected herrand hreply hsense hnext ih

end Stops

end Proxy

/-! ## The law -/

/-- Let fetching stop at a reply whose status is not that of a success. If the reply counts as a
failure, the client gets an empty response, which is the same for all such replies and all their
fields and bodies. But a reply with status 101, or with one from 300 to 399 or from 600 to 999,
need not count as a failure; then its length and its body are passed on. -/
theorem a_reply_without_success_fails_by_the_status_of_an_error (server : Server)
    (world : Server.World) (request : Request) (segment : Bytes) (url : Url) (status : Nat)
    (headers : Headers) (rest : Bytes) (next : Option Url) (hget : request.method = .get)
    (hpath : request.uri.path = Proxy.pathStart ++ segment)
    (htarget : Proxy.readTarget segment = .ok url)
    (hstops : server.client.StopsAt world.network status headers rest next
      server.client.maxRedirects world.sent (.start url))
    (hstatus : ¬ (200 ≤ status ∧ status ≤ 299)) :
    (Proxy.CountsAsFailure status headers next →
      (server.respond world request).1 = some Server.failedFetch ∧
      Server.failedFetch.status = 200 ∧
      Server.failedFetch.headers = ("content-length", Bytes.ofString "0") :: policies ∧
      Server.failedFetch.body.content = [] ∧ Server.failedFetch.body.cut = false) ∧
    (¬ Proxy.CountsAsFailure status headers next →
      (status = 101 ∨ (300 ≤ status ∧ status ≤ 399) ∨ (600 ≤ status ∧ status ≤ 999)) ∧
      ∃ extent, Proxy.Extent.ofReply? status headers = some extent ∧
        (server.respond world request).1 =
          some (passedOn (headers.get? "content-length") (extent.read rest))) := by
  refine ⟨fun hcounts => ⟨?_, rfl, rfl, rfl, rfl⟩, fun hcounts => ⟨?_, ?_⟩⟩
  · have hfailed := Proxy.fetchFrom_of_fails (Proxy.fails_of_stopsAt hstops hcounts)
    exact Server.respond_of_failed hget hpath htarget server world hfailed
  · unfold Proxy.CountsAsFailure at hcounts
    push Not at hcounts
    omega
  · have hends := Proxy.endsIn_of_stopsAt hstops hcounts
    unfold Proxy.CountsAsFailure at hcounts
    push Not at hcounts
    obtain ⟨herror, hsense, hfinal, -⟩ := hcounts
    obtain ⟨extent, hextent⟩ := Option.ne_none_iff_exists'.mp hsense
    have hnot : Proxy.isFailure status = false := by
      rw [← Bool.not_eq_true, Proxy.isFailure_iff]
      omega
    exact ⟨extent, hextent, Server.respond_of_replied hget hpath htarget
      (Proxy.fetchFrom_of_endsIn hends hextent (Proxy.isFinal_iff.mpr hfinal) hnot)⟩

/-- Of a page that is not there, and of a redirect once too often, the client learns nothing; but
it gets the length and the body of a reply that offers a choice. -/
theorem a_missing_page_is_hidden_and_a_choice_is_not :
    (unmovedServer.respond (echoWorld (.answer 404 [("content-length", [0x31])] [0x21]))
      (askFor "aHR0cDovLzEyNy4wLjAuMS8=")).1 = some Server.failedFetch ∧
    (unmovedServer.respond (echoWorld (.answer 302 [("location", [0x2F])] [0x21]))
      (askFor "aHR0cDovLzEyNy4wLjAuMS8=")).1 = some Server.failedFetch ∧
    (unmovedServer.respond (echoWorld (.answer 300 [("content-length", [0x31])] [0x21]))
      (askFor "aHR0cDovLzEyNy4wLjAuMS8=")).1 = some (passedOn (some [0x31]) ⟨[0x21], false⟩) := by
  obtain ⟨out, herrand⟩ := errand?_loopback unmovedServer.client rfl rfl
  have hredirect : ∃ next, Proxy.redirect? loopback 302 [("location", [0x2F])] = some next := by
    rw [← Option.isSome_iff_exists]
    decide +kernel
  obtain ⟨next, hnext⟩ := hredirect
  have hlaw := fun status headers next hstops =>
    a_reply_without_success_fails_by_the_status_of_an_error unmovedServer
      (echoWorld (.answer status headers [0x21])) (askFor "aHR0cDovLzEyNy4wLjAuMS8=") _ loopback
      status headers [0x21] next rfl rfl readTarget_loopback hstops
  refine ⟨?_, ?_, ?_⟩
  · have hstops := hlaw 404 [("content-length", [0x31])] none
      (.here herrand rfl rfl (.inl (by simp))) (by decide)
    exact (hstops.1 (.inl (by decide))).1
  · have hstops := hlaw 302 [("location", [0x2F])] (some next)
      (.here herrand rfl hnext (.inr (.inr rfl))) (by decide)
    exact (hstops.1 (.inr (.inr (.inr (by simp))))).1
  · have hstops := hlaw 300 [("content-length", [0x31])] none
      (.here herrand rfl rfl (.inl (by simp))) (by decide)
    have hcounts : ¬ Proxy.CountsAsFailure 300 [("content-length", [0x31])] none := by
      unfold Proxy.CountsAsFailure
      decide
    obtain ⟨-, extent, hextent, hrespond⟩ := hstops.2 hcounts
    cases hextent
    exact hrespond

/-- A reply that offers a choice is not a success, and still its body is passed on. -/
theorem a_reply_that_offers_a_choice_is_passed_on :
    (unmovedServer.client.StopsAt (echoWorld (.answer 300 [] [0x68, 0x69])).network 300 []
      [0x68, 0x69] none unmovedServer.client.maxRedirects [] (.start loopback)) ∧
    ∃ response, (unmovedServer.respond (echoWorld (.answer 300 [] [0x68, 0x69]))
        (askFor "aHR0cDovLzEyNy4wLjAuMS8=")).1 = some response ∧
      response.body.content = [0x68, 0x69] := by
  obtain ⟨out, herrand⟩ := errand?_loopback unmovedServer.client rfl rfl
  refine ⟨.here herrand rfl rfl (.inl (by simp)), ?_⟩
  exact ⟨_, respond_loopback (show _ = some Proxy.Extent.untilClose from rfl) rfl rfl rfl, rfl⟩

end IsoServer
