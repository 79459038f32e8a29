-- Fetching leg by leg. One leg is an errand and what comes of it; fetching is a leg, and more of
-- them as long as replies redirect and redirects are left. From this follows when fetching
-- fails.
import Mathlib
import IsoServer.Proxy.Client

namespace IsoServer.Proxy

/-! ## Errands -/

theorem Reply.sent_of_ne_refused (out : Outgoing) {reply : Reply} (h : reply ≠ .refused) :
    reply.sent out = [out] := by
  cases reply with
  | refused => exact absurd rfl h
  | _ => rfl

theorem Reply.sent_prefix (out : Outgoing) (reply : Reply) : reply.sent out <+: [out] := by
  cases reply with
  | refused => exact List.nil_prefix
  | _ => exact List.prefix_refl _

/-- An errand gets as far as its connections let it. -/
theorem carry_prefix (network : Network) (before : List Outgoing) (errand : Errand) :
    (network.carry before errand).2 <+: errand.requests := by
  unfold Network.carry Errand.requests
  cases errand.tunnel with
  | none => exact Reply.sent_prefix ..
  | some connect =>
    dsimp only
    split_ifs
    · exact List.prefix_append_right_inj [connect] |>.mpr (Reply.sent_prefix ..)
    · exact (Reply.sent_prefix ..).trans (List.prefix_append _ _)

/-- If there is a connection at the end, all requests were sent. -/
theorem carry_of_ne_refused {network : Network} {before : List Outgoing} {errand : Errand}
    (h : (network.carry before errand).1 ≠ .refused) :
    (network.carry before errand).2 = errand.requests := by
  unfold Network.carry Errand.requests at *
  cases htunnel : errand.tunnel with
  | none =>
    simp only [htunnel] at h
    exact Reply.sent_of_ne_refused _ h
  | some connect =>
    simp only [htunnel] at h
    split_ifs at h with hopens
    · simp only [hopens, if_true, Reply.sent_of_ne_refused _ h]
      rfl
    · exact absurd rfl h

theorem carry_of_answer {network : Network} {before : List Outgoing} {errand : Errand}
    {status : Nat} {headers : Headers} {rest : Bytes}
    (h : (network.carry before errand).1 = .answer status headers rest) :
    (network.carry before errand).2 = errand.requests :=
  carry_of_ne_refused (by simp [h])

/-- An address can be fetched if its scheme and its text are fit for it. -/
theorem errand?_eq_none_iff {client : Client} {hop : Hop} :
    client.errand? hop = none ↔ isWeb hop.url = false ∨ isTarget hop.url = false := by
  unfold Client.errand?
  dsimp only
  cases isWeb hop.url with
  | false => simp
  | true =>
    cases isTarget hop.url with
    | false => simp
    | true =>
      simp only [Bool.and_self, Bool.not_true, Bool.false_eq_true, if_false, or_self]
      split
      · simp
      · split_ifs <;> simp

/-- Where the environment names no gateway, an address is fetched by one request to its host. -/
theorem exists_errand?_of_no_gateway {client : Client} {hop : Hop}
    (hplain : client.routing.plain = none) (hsecure : client.routing.secure = none)
    (hweb : isWeb hop.url = true) (htarget : isTarget hop.url = true) :
    ∃ out, client.errand? hop = some { out } := by
  have hdirect (secure : Bool) (host : Bytes) :
      client.routing.gatewayFor? secure host = none := by
    unfold Routing.gatewayFor?
    dsimp only
    rw [hplain, hsecure]
    split_ifs <;> rfl
  unfold Client.errand?
  dsimp only
  rw [hweb, htarget, hdirect]
  exact ⟨_, rfl⟩

theorem gatewayFor?_secure {routing : Routing} {host : Bytes} {gateway : Gateway}
    (h : routing.gatewayFor? true host = some gateway) : routing.secure = some gateway := by
  unfold Routing.gatewayFor? at h
  simp only [if_true] at h
  split_ifs at h <;> exact h

/-- What an errand is made of: the request gets something, and where secure requests have a
gateway it may need a tunnel. -/
theorem errand?_spec {client : Client} {hop : Hop} {errand : Errand}
    (h : client.errand? hop = some errand) :
    errand.out.method = .get ∧
    (∃ gateway, errand.out.headers = client.fields hop gateway) ∧
    ∀ connect ∈ errand.tunnel, ∃ gateway, client.routing.secure = some gateway ∧
      hop.url.scheme = "https" ∧ connect = client.connect gateway hop.url := by
  unfold Client.errand? at h
  dsimp only at h
  split at h
  · cases h
  split at h
  · cases h
    exact ⟨rfl, ⟨none, rfl⟩, by simp⟩
  · rename_i gateway hgateway
    split_ifs at h with hsecure
    · cases h
      rw [hsecure] at hgateway
      refine ⟨rfl, ⟨none, rfl⟩, fun connect hconnect => ?_⟩
      cases hconnect
      exact ⟨gateway, gatewayFor?_secure hgateway, by simpa using hsecure, rfl⟩
    · cases h
      exact ⟨rfl, ⟨some gateway, rfl⟩, by simp⟩

/-! ## One leg -/

/-- What a reply on the way comes to. -/
inductive Leg where
  | failed
  | moved (next : Url)
  | ended (status : Nat) (headers : Headers) (body : Received)

/-- What a reply comes to at an address. -/
def Reply.leg (url : Url) : Reply → Leg
  | .refused | .closed | .garbage | .silent => .failed
  | .answer status headers rest =>
    match Extent.ofReply? status headers with
    | none => .failed
    | some extent =>
      if !isFinal status then .failed
      else
        match redirect? url status headers with
        | some next => .moved next
        | none => if isFailure status then .failed else .ended status headers (extent.read rest)

/-- What fetching comes to after a leg on which requests were sent. -/
def Leg.onward (client : Client) (network : Network) (left : Nat) (before sent : List Outgoing)
    (hop : Hop) : Leg → Fetched × List Outgoing
  | .failed => (.failed, sent)
  | .ended status headers body => (.replied status headers body, sent)
  | .moved next =>
    match left with
    | 0 => (.failed, sent)
    | left + 1 =>
      let later := client.fetchFrom network left (before ++ sent) (hop.follow next)
      (later.1, sent ++ later.2)

section Legs

variable {client : Client} {hop : Hop} {errand : Errand} (network : Network) (left : Nat)
  (before : List Outgoing)

theorem fetchFrom_of_no_errand (h : client.errand? hop = none) :
    client.fetchFrom network left before hop = (.failed, []) := by
  cases left <;> rw [Client.fetchFrom, h]

theorem fetchFrom_of_errand (h : client.errand? hop = some errand) :
    client.fetchFrom network left before hop =
      ((network.carry before errand).1.leg hop.url).onward client network left before
        (network.carry before errand).2 hop := by
  cases left <;> rw [Client.fetchFrom, h]
  all_goals
    dsimp only
    cases (network.carry before errand).1 with
    | answer status headers rest =>
      simp only [Reply.leg]
      cases Extent.ofReply? status headers with
      | none => rfl
      | some extent =>
        cases isFinal status with
        | false => rfl
        | true =>
          cases redirect? hop.url status headers with
          | some next => rfl
          | none => cases isFailure status <;> rfl
    | _ => rfl

end Legs

/-- Everything that a reply can come to. -/
theorem leg_cases (url : Url) (reply : Reply) :
    (reply ∈ [.refused, .closed, .garbage, .silent] ∧ reply.leg url = .failed) ∨
    ∃ status headers rest, reply = .answer status headers rest ∧
      (((Extent.ofReply? status headers = none ∨ isFinal status = false) ∧
        reply.leg url = .failed) ∨
      (∃ extent next, Extent.ofReply? status headers = some extent ∧
        redirect? url status headers = some next ∧ reply.leg url = .moved next) ∨
      (redirect? url status headers = none ∧ isFailure status = true ∧
        reply.leg url = .failed) ∨
      ∃ extent, Extent.ofReply? status headers = some extent ∧ isFinal status = true ∧
        redirect? url status headers = none ∧ isFailure status = false ∧
        reply.leg url = .ended status headers (extent.read rest)) := by
  cases reply with
  | answer status headers rest =>
    refine .inr ⟨status, headers, rest, rfl, ?_⟩
    simp only [Reply.leg]
    cases Extent.ofReply? status headers with
    | none => exact .inl ⟨.inl rfl, rfl⟩
    | some extent =>
      cases hfinal : isFinal status with
      | false => exact .inl ⟨.inr rfl, rfl⟩
      | true =>
        cases redirect? url status headers with
        | some next => exact .inr (.inl ⟨extent, next, rfl, rfl, rfl⟩)
        | none =>
          cases hfailure : isFailure status with
          | true => exact .inr (.inr (.inl ⟨rfl, rfl, rfl⟩))
          | false => exact .inr (.inr (.inr ⟨extent, rfl, rfl, rfl, rfl, rfl⟩))
  | _ => exact .inl ⟨by simp, rfl⟩

/-- All that a fetch sends, redirects included, is sent for errands, and there is at most one more
of them than redirects are left. The last may break off. -/
theorem exists_errands_of_fetchFrom (client : Client) (network : Network) (left : Nat)
    (before : List Outgoing) (hop : Hop) :
    ∃ errands : List Errand, errands.length ≤ left + 1 ∧
      (∀ errand ∈ errands, ∃ hop', client.errand? hop' = some errand) ∧
      (client.fetchFrom network left before hop).2 <+: errands.flatMap Errand.requests := by
  cases herrand : client.errand? hop with
  | none =>
    rw [fetchFrom_of_no_errand network left before herrand]
    exact ⟨[], by simp⟩
  | some errand =>
    rw [fetchFrom_of_errand network left before herrand]
    have hone : (network.carry before errand).2 <+: [errand].flatMap Errand.requests := by
      simpa using carry_prefix network before errand
    have hmade : ∀ made ∈ [errand], ∃ hop', client.errand? hop' = some made := by
      simpa using ⟨hop, herrand⟩
    cases hleg : (network.carry before errand).1.leg hop.url with
    | failed => exact ⟨[errand], by simp, hmade, hone⟩
    | ended status headers body => exact ⟨[errand], by simp, hmade, hone⟩
    | moved next =>
      cases left with
      | zero => exact ⟨[errand], by simp, hmade, hone⟩
      | succ left =>
        have hcarry : (network.carry before errand).2 = errand.requests :=
          carry_of_ne_refused fun hrefused => by simp [hrefused, Reply.leg] at hleg
        obtain ⟨later, hlength, hlater, hsent⟩ := exists_errands_of_fetchFrom client network left
          (before ++ errand.requests) (hop.follow next)
        refine ⟨errand :: later, by simpa using hlength, ?_, ?_⟩
        · simpa using ⟨⟨hop, herrand⟩, hlater⟩
        · rw [hcarry, List.flatMap_cons]
          exact (List.prefix_append_right_inj _).mpr hsent

/-! ## When fetching fails -/

/-- The ways in which fetching from a hop fails, with the number of redirects that may still be
followed and the requests that were sent before. -/
inductive Client.Fails (client : Client) (network : Network) :
    Nat → List Outgoing → Hop → Prop
  /-- The address is of neither scheme that can be fetched. -/
  | scheme {left : Nat} {before : List Outgoing} {hop : Hop} :
      hop.url.scheme ≠ "http" → hop.url.scheme ≠ "https" → Fails client network left before hop
  /-- The address is no request target. -/
  | target {left : Nat} {before : List Outgoing} {hop : Hop} {e : UriError} :
      Uri.parse (Bytes.ofString hop.url.text) = .error e → Fails client network left before hop
  /-- The connection, or the tunnel that it needs, is refused, or it is closed, or it brings no
  answer or nothing in time. -/
  | unanswered {left : Nat} {before : List Outgoing} {hop : Hop} {errand : Errand} :
      client.errand? hop = some errand →
      (network.carry before errand).1 ∈ [.refused, .closed, .garbage, .silent] →
      Fails client network left before hop
  /-- The answer has lengths that make no sense, or no final status. -/
  | malformed {left : Nat} {before : List Outgoing} {hop : Hop} {errand : Errand} {status : Nat}
      {headers : Headers} {rest : Bytes} :
      client.errand? hop = some errand →
      (network.carry before errand).1 = .answer status headers rest →
      Extent.ofReply? status headers = none ∨ isFinal status = false →
      Fails client network left before hop
  /-- The status says so. -/
  | status {left : Nat} {before : List Outgoing} {hop : Hop} {errand : Errand} {status : Nat}
      {headers : Headers} {rest : Bytes} :
      client.errand? hop = some errand →
      (network.carry before errand).1 = .answer status headers rest →
      400 ≤ status → status ≤ 599 → Fails client network left before hop
  /-- The answer redirects, and no redirect may be followed any more. -/
  | tooManyRedirects {before : List Outgoing} {hop : Hop} {errand : Errand} {status : Nat}
      {headers : Headers} {rest : Bytes} {next : Url} :
      client.errand? hop = some errand →
      (network.carry before errand).1 = .answer status headers rest →
      redirect? hop.url status headers = some next → Fails client network 0 before hop
  /-- The answer redirects to where fetching fails. -/
  | redirected {left : Nat} {before : List Outgoing} {hop : Hop} {errand : Errand} {status : Nat}
      {headers : Headers} {rest : Bytes} {next : Url} :
      client.errand? hop = some errand →
      (network.carry before errand).1 = .answer status headers rest →
      redirect? hop.url status headers = some next →
      Fails client network left (before ++ errand.requests) (hop.follow next) →
      Fails client network (left + 1) before hop

theorem isWeb_iff {url : Url} : isWeb url = true ↔ url.scheme = "http" ∨ url.scheme = "https" := by
  simp [isWeb]

theorem isTarget_eq_false_iff {url : Url} :
    isTarget url = false ↔ ∃ e, Uri.parse (Bytes.ofString url.text) = .error e := by
  unfold isTarget
  cases Uri.parse (Bytes.ofString url.text) with
  | ok uri => simp
  | error e => simp

/-- A status that says that the request failed redirects nowhere. -/
theorem redirect?_of_isFailure (url : Url) {status : Nat} (headers : Headers)
    (h : isFailure status = true) : redirect? url status headers = none := by
  have hnot : isRedirect status = false := by
    simp only [isFailure, Bool.and_eq_true, decide_eq_true_eq] at h
    simp only [isRedirect, List.contains_eq_mem, List.mem_cons, List.not_mem_nil, or_false,
      decide_eq_false_iff_not]
    omega
  simp [redirect?, hnot]

theorem isFailure_iff {status : Nat} : isFailure status = true ↔ 400 ≤ status ∧ status ≤ 599 := by
  simp only [isFailure, Bool.and_eq_true, decide_eq_true_eq]
  omega

theorem fails_of_fetchFrom {client : Client} {network : Network} {left : Nat}
    {before : List Outgoing} {hop : Hop}
    (h : (client.fetchFrom network left before hop).1 = .failed) :
    client.Fails network left before hop := by
  cases herrand : client.errand? hop with
  | none =>
    rcases errand?_eq_none_iff.mp herrand with hweb | htarget
    · rw [← Bool.not_eq_true, isWeb_iff, not_or] at hweb
      exact .scheme hweb.1 hweb.2
    · obtain ⟨e, he⟩ := isTarget_eq_false_iff.mp htarget
      exact .target he
  | some errand =>
    rw [fetchFrom_of_errand network left before herrand] at h
    rcases leg_cases hop.url (network.carry before errand).1 with
      ⟨hreply, -⟩ | ⟨status, headers, rest, hreply, ⟨hbad, -⟩ | ⟨_, next, -, hnext, hmoved⟩ |
      ⟨-, hfailure, -⟩ | ⟨extent, -, -, -, -, hended⟩⟩
    · exact .unanswered herrand hreply
    · exact .malformed herrand hreply hbad
    · cases left with
      | zero => exact .tooManyRedirects herrand hreply hnext
      | succ left =>
        -- the redirect was followed, so it is what came behind it that failed
        rw [hmoved, carry_of_answer hreply] at h
        exact .redirected herrand hreply hnext (fails_of_fetchFrom h)
    · obtain ⟨hlow, hhigh⟩ := isFailure_iff.mp hfailure
      exact .status herrand hreply hlow hhigh
    · rw [hended] at h
      cases h

theorem leg_of_malformed (url : Url) {status : Nat} {headers : Headers} (rest : Bytes)
    (h : Extent.ofReply? status headers = none ∨ isFinal status = false) :
    (Reply.answer status headers rest).leg url = .failed := by
  simp only [Reply.leg]
  rcases h with h | h
  · rw [h]
  · rw [h]
    cases Extent.ofReply? status headers <;> rfl

theorem leg_of_isFailure (url : Url) {status : Nat} (headers : Headers) (rest : Bytes)
    (h : isFailure status = true) : (Reply.answer status headers rest).leg url = .failed := by
  simp only [Reply.leg]
  rw [redirect?_of_isFailure url headers h, h]
  cases Extent.ofReply? status headers with
  | none => rfl
  | some extent => cases isFinal status <;> rfl

/-- An answer that redirects is followed, unless it is malformed. -/
theorem leg_of_redirect {url next : Url} {status : Nat} {headers : Headers} (rest : Bytes)
    (h : redirect? url status headers = some next) :
    (Reply.answer status headers rest).leg url = .failed ∨
      (Reply.answer status headers rest).leg url = .moved next := by
  simp only [Reply.leg]
  rw [h]
  cases Extent.ofReply? status headers with
  | none => exact .inl rfl
  | some extent =>
    cases isFinal status with
    | false => exact .inl rfl
    | true => exact .inr rfl

theorem fetchFrom_of_leg {client : Client} {network : Network} {before : List Outgoing}
    {hop : Hop} {errand : Errand} (left : Nat) (herrand : client.errand? hop = some errand)
    (hleg : (network.carry before errand).1.leg hop.url = .failed) :
    (client.fetchFrom network left before hop).1 = .failed := by
  rw [fetchFrom_of_errand network left before herrand, hleg]
  rfl

theorem fetchFrom_of_fails {client : Client} {network : Network} {left : Nat}
    {before : List Outgoing} {hop : Hop} (h : client.Fails network left before hop) :
    (client.fetchFrom network left before hop).1 = .failed := by
  induction h with
  | @scheme _ _ hop hplain hsecure =>
    have hweb : isWeb hop.url = false := by
      rw [← Bool.not_eq_true, isWeb_iff, not_or]
      exact ⟨hplain, hsecure⟩
    rw [fetchFrom_of_no_errand _ _ _ (errand?_eq_none_iff.mpr (.inl hweb))]
  | target he =>
    have htarget := isTarget_eq_false_iff.mpr ⟨_, he⟩
    rw [fetchFrom_of_no_errand _ _ _ (errand?_eq_none_iff.mpr (.inr htarget))]
  | @unanswered _ _ hop _ herrand hreply =>
    refine fetchFrom_of_leg _ herrand ?_
    rcases leg_cases hop.url _ with ⟨-, hleg⟩ | ⟨status, headers, rest, hanswer, -⟩
    · exact hleg
    · rw [hanswer] at hreply
      simp at hreply
  | malformed herrand hreply hbad =>
    exact fetchFrom_of_leg _ herrand (by rw [hreply, leg_of_malformed _ _ hbad])
  | status herrand hreply hlow hhigh =>
    have hfailure := isFailure_iff.mpr ⟨hlow, hhigh⟩
    exact fetchFrom_of_leg _ herrand (by rw [hreply, leg_of_isFailure _ _ _ hfailure])
  | @tooManyRedirects _ _ _ _ _ rest _ herrand hreply hnext =>
    rw [fetchFrom_of_errand _ _ _ herrand, hreply]
    rcases leg_of_redirect rest hnext with hleg | hleg <;> rw [hleg] <;> rfl
  | @redirected _ _ _ _ _ _ rest _ herrand hreply hnext _ ih =>
    rw [fetchFrom_of_errand _ _ _ herrand, carry_of_answer hreply, hreply]
    rcases leg_of_redirect rest hnext with hleg | hleg <;> rw [hleg]
    · rfl
    · exact ih

/-- Fetching fails in the ways that were listed and in no other. -/
theorem fetchFrom_failed_iff {client : Client} {network : Network} {left : Nat}
    {before : List Outgoing} {hop : Hop} :
    (client.fetchFrom network left before hop).1 = .failed ↔
      client.Fails network left before hop :=
  ⟨fails_of_fetchFrom, fetchFrom_of_fails⟩

/-! ## Where fetching ends -/

/-- Fetching from a hop comes to a last answer, with the number of redirects that may still be
followed and the requests that were sent before. -/
inductive Client.EndsIn (client : Client) (network : Network) (status : Nat) (headers : Headers)
    (rest : Bytes) : Nat → List Outgoing → Hop → Prop
  /-- The answer redirects nowhere. -/
  | here {left : Nat} {before : List Outgoing} {hop : Hop} {errand : Errand} :
      client.errand? hop = some errand →
      (network.carry before errand).1 = .answer status headers rest →
      redirect? hop.url status headers = none →
      EndsIn client network status headers rest left before hop
  /-- An answer that makes sense redirects to where the last one is. -/
  | redirected {left : Nat} {before : List Outgoing} {hop : Hop} {errand : Errand} {status' : Nat}
      {headers' : Headers} {rest' : Bytes} {extent : Extent} {next : Url} :
      client.errand? hop = some errand →
      (network.carry before errand).1 = .answer status' headers' rest' →
      Extent.ofReply? status' headers' = some extent →
      redirect? hop.url status' headers' = some next →
      EndsIn client network status headers rest left (before ++ errand.requests)
        (hop.follow next) →
      EndsIn client network status headers rest (left + 1) before hop

/-- A status that redirects is final. -/
theorem isFinal_of_redirect? {url next : Url} {status : Nat} {headers : Headers}
    (h : redirect? url status headers = some next) : isFinal status = true := by
  have hredirect : isRedirect status = true := by
    cases hstatus : isRedirect status with
    | true => rfl
    | false => simp [redirect?, hstatus] at h
  simp only [isRedirect, List.contains_eq_mem, List.mem_cons, List.not_mem_nil, or_false,
    decide_eq_true_eq] at hredirect
  simp only [isFinal, Bool.or_eq_true, Bool.and_eq_true, decide_eq_true_eq]
  omega

/-- If the last answer is a success, it is what fetching gives. -/
theorem fetchFrom_of_endsIn {client : Client} {network : Network} {status : Nat}
    {headers : Headers} {rest : Bytes} {extent : Extent} {left : Nat} {before : List Outgoing}
    {hop : Hop} (h : client.EndsIn network status headers rest left before hop)
    (hextent : Extent.ofReply? status headers = some extent) (hfinal : isFinal status = true)
    (hsuccess : isFailure status = false) :
    (client.fetchFrom network left before hop).1 =
      .replied status headers (extent.read rest) := by
  induction h with
  | here herrand hreply hstay =>
    rw [fetchFrom_of_errand _ _ _ herrand, hreply]
    simp [Reply.leg, hextent, hfinal, hstay, hsuccess, Leg.onward]
  | redirected herrand hreply hsense hnext _ ih =>
    rw [fetchFrom_of_errand _ _ _ herrand, carry_of_answer hreply, hreply]
    simpa [Reply.leg, hsense, isFinal_of_redirect? hnext, hnext, Leg.onward] using ih

/-- What fetching gives is read from an answer by the extent that its fields tell. -/
theorem read_of_replied {client : Client} {network : Network} {status : Nat} {headers : Headers}
    {body : Received} {left : Nat} {before : List Outgoing} {hop : Hop}
    (h : (client.fetchFrom network left before hop).1 = .replied status headers body) :
    ∃ extent rest, Extent.ofReply? status headers = some extent ∧ isFinal status = true ∧
      body = extent.read rest := by
  cases herrand : client.errand? hop with
  | none =>
    rw [fetchFrom_of_no_errand network left before herrand] at h
    cases h
  | some errand =>
    rw [fetchFrom_of_errand network left before herrand] at h
    rcases leg_cases hop.url (network.carry before errand).1 with
      ⟨-, hleg⟩ | ⟨status', headers', rest, -, ⟨-, hleg⟩ | ⟨_, next, -, -, hmoved⟩ |
      ⟨-, -, hleg⟩ | ⟨extent, hextent, hfinal, -, -, hended⟩⟩
    · rw [hleg] at h
      cases h
    · rw [hleg] at h
      cases h
    · rw [hmoved] at h
      cases left with
      | zero => cases h
      | succ left => exact read_of_replied h
    · rw [hleg] at h
      cases h
    · rw [hended] at h
      cases h
      exact ⟨extent, rest, hextent, hfinal, rfl⟩

end IsoServer.Proxy
