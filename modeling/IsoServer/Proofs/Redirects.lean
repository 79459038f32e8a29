-- Redirects. A fetch follows a chain of them as far as the limit allows, and runs one errand for
-- each. Behind a chain that ends in time, only the last reply counts: it gives what it would
-- give in place of the first, unless it would be followed there. A chain that is longer than the
-- limit gives nothing.
import Mathlib
import IsoServer.Proofs.Characters
import IsoServer.Proofs.Discretion
import IsoServer.Proofs.Targets

namespace IsoServer

/-! ## Where a location leads -/

namespace Url

theorem scheme_of_afterSlashes {scheme : String} {cs : List Char} {url : Url}
    (h : afterSlashes scheme cs = .ok url) : url.scheme = scheme := by
  unfold afterSlashes at h
  dsimp only at h
  generalize cutAtSign _ = cut at h
  -- with and without user information
  rcases cut with _ | ⟨user, hostPort⟩ <;> dsimp only at h
  all_goals
    repeat' split at h
    all_goals cases h
    rfl

theorem scheme_of_relative {base url : Url} {cs : List Char} (h : relative base cs = .ok url) :
    url.scheme = base.scheme := by
  unfold relative at h
  split at h
  · cases h
    rfl
  · dsimp only at h
    split at h <;> cases h <;> rfl
  · dsimp only at h
    split at h <;> cases h <;> rfl
  · exact scheme_of_afterSlashes h
  · split at h
    · split at h
      · split at h
        · exact scheme_of_afterSlashes h
        · cases h
          rfl
      · cases h
        rfl
    · cases h
      rfl

theorem scheme_of_readFile {cs : List Char} {url : Url} (h : readFile cs = .ok url) :
    url.scheme = "file" := by
  unfold readFile at h
  dsimp only at h
  repeat' split at h
  all_goals cases h
  all_goals rfl

theorem scheme_of_readOther {scheme : String} {cs : List Char} {url : Url}
    (h : readOther scheme cs = .ok url) : url.scheme = scheme := by
  unfold readOther at h
  split at h
  · exact scheme_of_afterSlashes h
  · cases h
    rfl
  · cases h
    rfl

theorem scheme_of_readAbsolute {scheme : String} {cs : List Char} {url : Url}
    (h : readAbsolute scheme cs = .ok url) : url.scheme = scheme := by
  unfold readAbsolute at h
  split_ifs at h with hfile
  · rw [scheme_of_readFile h, beq_iff_eq.mp hfile]
  · exact scheme_of_afterSlashes h
  · exact scheme_of_readOther h

/-- A location that leads to another scheme leads to the same address from everywhere. -/
theorem join_of_other_scheme {base base' next : Url} {s : String} (h : join base s = .ok next)
    (hne : next.scheme ≠ base.scheme) (hne' : next.scheme ≠ base'.scheme) :
    join base' s = .ok next := by
  unfold join at h ⊢
  dsimp only at h ⊢
  cases hsplit : splitScheme? (clean s) with
  | none =>
    rw [hsplit] at h
    exact absurd (scheme_of_relative h) hne
  | some split =>
    obtain ⟨scheme, rest⟩ := split
    simp only [hsplit] at h ⊢
    split_ifs at h with hsame
    · exact absurd (scheme_of_relative h) hne
    · have hscheme := scheme_of_readAbsolute h
      rw [if_neg (by simp [← hscheme, hne']), h]

end Url

namespace Proxy

theorem redirect?_of_other_scheme {url url' next : Url} {status : Nat} {headers : Headers}
    (h : redirect? url status headers = some next) (hne : next.scheme ≠ url.scheme)
    (hne' : next.scheme ≠ url'.scheme) : redirect? url' status headers = some next := by
  unfold redirect? at h ⊢
  split_ifs at h ⊢ with hstatus
  cases hlocation : (headers.get? "location").bind Utf8.decode? with
  | none => simp [hlocation] at h
  | some location =>
    simp only [hlocation] at h ⊢
    cases hjoin : url.join location with
    | error e => simp [hjoin] at h
    | ok found =>
      simp only [hjoin, Option.ite_none_right_eq_some, Option.some.injEq] at h
      obtain ⟨htarget, rfl⟩ := h
      simp [Url.join_of_other_scheme hjoin hne hne', htarget]

/-! ## Replies that are followed -/

/-- A reply to a request for an address sends the client on to another that it can fetch. -/
def Follows (url : Url) (reply : Reply) (next : Url) : Prop :=
  ∃ status headers rest extent, reply = .answer status headers rest ∧
    Extent.ofReply? status headers = some extent ∧ redirect? url status headers = some next ∧
    isWeb next = true

theorem leg_of_follows {url next : Url} {reply : Reply} (h : Follows url reply next) :
    reply.leg url = .moved next := by
  obtain ⟨status, headers, rest, extent, rfl, hextent, hnext, -⟩ := h
  simp [Reply.leg, hextent, isFinal_of_redirect? hnext, hnext]

theorem follows_of_leg {url next : Url} {reply : Reply} (h : reply.leg url = .moved next)
    (hweb : isWeb next = true) : Follows url reply next := by
  rcases leg_cases url reply with
    ⟨-, hleg⟩ | ⟨status, headers, rest, hreply, ⟨-, hleg⟩ | ⟨extent, _, hextent, hnext, hleg⟩ |
    ⟨-, -, hleg⟩ | ⟨_, -, -, -, -, hleg⟩⟩
  all_goals rw [h] at hleg
  all_goals cases hleg
  exact ⟨status, headers, rest, extent, hreply, hextent, hnext, hweb⟩

/-- What fetching gives if it stops after a leg. -/
def Leg.outcome : Leg → Fetched
  | .failed | .moved _ => .failed
  | .ended status headers body => .replied status headers body

section Elsewhere

variable {url₁ url₂ : Url} {reply : Reply} (hweb₁ : isWeb url₁ = true) (hweb₂ : isWeb url₂ = true)
  (h₂ : ∀ next, ¬ Follows url₂ reply next)

include hweb₁ hweb₂ h₂

/-- What a reply redirects to where it is not followed, it redirects to elsewhere as well. -/
theorem redirect?_of_not_follows {status : Nat} {headers : Headers} {rest : Bytes}
    {extent : Extent} {next : Url} (hreply : reply = .answer status headers rest)
    (hextent : Extent.ofReply? status headers = some extent)
    (hnext : redirect? url₂ status headers = some next) :
    redirect? url₁ status headers = some next ∧ isWeb next = false := by
  have hother : isWeb next = false := by
    by_contra hweb
    exact h₂ next ⟨status, headers, rest, extent, hreply, hextent, hnext, by simpa using hweb⟩
  have hne : ∀ url, isWeb url = true → next.scheme ≠ url.scheme := by
    intro url hurl hsame
    simp only [isWeb, hsame] at hother hurl
    rw [hother] at hurl
    cases hurl
  exact ⟨redirect?_of_other_scheme hnext (hne url₂ hweb₂) (hne url₁ hweb₁), hother⟩

/-- A reply that is followed from neither of two addresses comes to the same at both. -/
theorem leg_eq_of_not_follows (h₁ : ∀ next, ¬ Follows url₁ reply next) :
    reply.leg url₁ = reply.leg url₂ := by
  cases hreply : reply with
  | answer status headers rest =>
    cases hextent : Extent.ofReply? status headers with
    | none => rw [leg_of_malformed _ _ (.inl hextent), leg_of_malformed _ _ (.inl hextent)]
    | some extent =>
      have hsame : redirect? url₁ status headers = redirect? url₂ status headers :=
        Option.ext fun next =>
          ⟨fun hnext => (redirect?_of_not_follows hweb₂ hweb₁ h₁ hreply hextent hnext).1,
            fun hnext => (redirect?_of_not_follows hweb₁ hweb₂ h₂ hreply hextent hnext).1⟩
      simp only [Reply.leg, hsame]
  | _ => rfl

/-- A reply that is followed from one address and not from another is passed on at the other. -/
theorem leg_of_follows_elsewhere {next : Url} (h₁ : Follows url₁ reply next) :
    ∃ status headers rest extent, reply = .answer status headers rest ∧
      Extent.ofReply? status headers = some extent ∧
      reply.leg url₂ = .ended status headers (extent.read rest) := by
  obtain ⟨status, headers, rest, extent, hreply, hextent, hnext, hweb⟩ := h₁
  refine ⟨status, headers, rest, extent, hreply, hextent, ?_⟩
  have hstays : redirect? url₂ status headers = none := by
    rw [Option.eq_none_iff_forall_ne_some]
    intro other hother
    obtain ⟨hsame, hscheme⟩ := redirect?_of_not_follows hweb₁ hweb₂ h₂ hreply hextent hother
    rw [hnext] at hsame
    cases hsame
    rw [hweb] at hscheme
    cases hscheme
  have hsuccess : isFailure status = false := by
    by_contra hfailure
    rw [redirect?_of_isFailure url₁ headers (by simpa using hfailure)] at hnext
    cases hnext
  simp [hreply, Reply.leg, hextent, isFinal_of_redirect? hnext, hstays, hsuccess]

end Elsewhere

theorem isWeb_of_errand? {client : Client} {hop : Hop} {errand : Errand}
    (h : client.errand? hop = some errand) : isWeb hop.url = true := by
  by_contra hweb
  rw [errand?_eq_none_iff.mpr (.inl (by simpa using hweb))] at h
  cases h

/-- At a reply that is not followed a fetch stops, whatever redirects are left. -/
theorem fetchFrom_of_stop {client : Client} {network : Network} {before : List Outgoing}
    {hop : Hop} {errand : Errand} (herrand : client.errand? hop = some errand)
    (hopen : (network.carry before errand).1 ≠ .refused)
    (hstop : ∀ next, ¬ Follows hop.url (network.carry before errand).1 next) (left : Nat) :
    client.fetchFrom network left before hop =
      (((network.carry before errand).1.leg hop.url).outcome, errand.requests) := by
  rw [fetchFrom_of_errand network left before herrand, carry_of_ne_refused hopen]
  cases hleg : (network.carry before errand).1.leg hop.url with
  | failed => rfl
  | ended status headers body => rfl
  | moved next =>
    cases left with
    | zero => rfl
    | succ left =>
      have hother : isWeb next = false := by
        by_contra hweb
        exact hstop next (follows_of_leg hleg (by simpa using hweb))
      have hnone : client.errand? (hop.follow next) = none := errand?_eq_none_iff.mpr (.inl hother)
      simp [Leg.onward, fetchFrom_of_no_errand network left _ hnone, Leg.outcome]

/-! ## Chains of redirects -/

/-- A chain of redirects from one hop to another, with the errands that are run on the way. -/
inductive Client.Chain (client : Client) (network : Network) :
    List Outgoing → Hop → List Errand → Hop → Prop
  | nil {before : List Outgoing} {hop : Hop} : Chain client network before hop [] hop
  | cons {before : List Outgoing} {errands : List Errand} {hop last : Hop} {errand : Errand}
      {next : Url} :
      client.errand? hop = some errand →
      Follows hop.url (network.carry before errand).1 next →
      Chain client network (before ++ errand.requests) (hop.follow next) errands last →
      Chain client network before hop (errand :: errands) last

theorem carry_of_follows {network : Network} {before : List Outgoing} {errand : Errand}
    {url next : Url} (h : Follows url (network.carry before errand).1 next) :
    (network.carry before errand).2 = errand.requests := by
  obtain ⟨status, headers, rest, -, hreply, -⟩ := h
  exact carry_of_answer hreply

section Chains

variable {client : Client} {network : Network} {before : List Outgoing} {errands : List Errand}
  {hop last : Hop}

/-- Where a chain leads from a hop to one with an errand, the first hop has one as well. -/
theorem exists_errand?_of_chain (h : client.Chain network before hop errands last)
    {errand : Errand} (herrand : client.errand? last = some errand) :
    ∃ first, client.errand? hop = some first := by
  cases h with
  | nil => exact ⟨errand, herrand⟩
  | cons hfirst _ _ => exact ⟨_, hfirst⟩

theorem exists_hop_of_chain (h : client.Chain network before hop errands last) :
    ∀ errand ∈ errands, ∃ hop', client.errand? hop' = some errand := by
  induction h with
  | nil => simp
  | cons herrand _ _ ih => simpa using ⟨⟨_, herrand⟩, ih⟩

/-- A fetch follows a chain that is not longer than the redirects that are left, and goes on from
its end. -/
theorem fetchFrom_of_chain (h : client.Chain network before hop errands last) {left : Nat}
    (hleft : errands.length ≤ left) :
    client.fetchFrom network left before hop =
      ((client.fetchFrom network (left - errands.length)
          (before ++ errands.flatMap Errand.requests) last).1,
        errands.flatMap Errand.requests ++
          (client.fetchFrom network (left - errands.length)
            (before ++ errands.flatMap Errand.requests) last).2) := by
  induction h generalizing left with
  | nil => simp
  | cons herrand hfollows _ ih =>
    obtain ⟨left, rfl⟩ : ∃ n, left = n + 1 := ⟨left - 1, by simp at hleft; omega⟩
    have hrest := @ih left (by simpa using hleft)
    rw [fetchFrom_of_errand _ _ _ herrand, leg_of_follows hfollows, carry_of_follows hfollows]
    simp only [Leg.onward, hrest, List.length_cons, Nat.add_sub_add_right, List.append_assoc,
      List.flatMap_cons]

/-- A chain that is longer than the redirects that are left is followed to the limit, and then
nothing comes of it. -/
theorem fetchFrom_of_long_chain (h : client.Chain network before hop errands last) {left : Nat}
    (hleft : errands.length = left + 1) :
    client.fetchFrom network left before hop =
      (.failed, errands.flatMap Errand.requests) := by
  induction h generalizing left with
  | nil => simp at hleft
  | cons herrand hfollows _ ih =>
    rw [fetchFrom_of_errand _ _ _ herrand, leg_of_follows hfollows, carry_of_follows hfollows]
    cases left with
    | zero =>
      have hnone : _ = [] := List.length_eq_zero_iff.mp (by simpa using hleft)
      simp [hnone, Leg.onward]
    | succ left =>
      have hrest := @ih left (by simpa using hleft)
      simp only [Leg.onward, hrest, List.flatMap_cons]

end Chains

/-! ## Counting requests -/

/-- How many requests get something. -/
def gets (sent : List Outgoing) : Nat := sent.countP (·.method == .get)

/-- How many requests ask for a tunnel. -/
def tunnels (sent : List Outgoing) : Nat := sent.countP (·.method == .connect)

theorem gets_append (sent more : List Outgoing) : gets (sent ++ more) = gets sent + gets more :=
  List.countP_append

theorem tunnels_append (sent more : List Outgoing) :
    tunnels (sent ++ more) = tunnels sent + tunnels more :=
  List.countP_append

section Counts

variable {client : Client} {errands : List Errand}

/-- An errand gets something once, and asks for a tunnel at most once. -/
theorem count_of_errand? {hop : Hop} {errand : Errand} (h : client.errand? hop = some errand) :
    gets errand.requests = 1 ∧ tunnels errand.requests ≤ 1 := by
  obtain ⟨hget, -, htunnel⟩ := errand?_spec h
  unfold Errand.requests
  cases hconnect : errand.tunnel with
  | none => simp [gets, tunnels, hget]
  | some connect =>
    obtain ⟨gateway, -, -, rfl⟩ := htunnel connect hconnect
    simp [gets, tunnels, hget, Client.connect]

theorem count_of_errands (h : ∀ errand ∈ errands, ∃ hop, client.errand? hop = some errand) :
    gets (errands.flatMap Errand.requests) = errands.length ∧
      tunnels (errands.flatMap Errand.requests) ≤ errands.length := by
  induction errands with
  | nil => simp [gets, tunnels]
  | cons errand errands ih =>
    obtain ⟨hop, herrand⟩ := h errand List.mem_cons_self
    obtain ⟨hget, htunnel⟩ := count_of_errand? herrand
    obtain ⟨hgets, htunnels⟩ := ih fun e he => h e (List.mem_cons_of_mem _ he)
    simp only [List.flatMap_cons, gets_append, tunnels_append, List.length_cons]
    omega

/-- A fetch gets something once more than redirects are left, at most, and asks for no more
tunnels than that. -/
theorem count_fetchFrom_le (client : Client) (network : Network) (left : Nat)
    (before : List Outgoing) (hop : Hop) :
    gets (client.fetchFrom network left before hop).2 ≤ left + 1 ∧
      tunnels (client.fetchFrom network left before hop).2 ≤ left + 1 := by
  obtain ⟨errands, hlength, hmade, hsent⟩ :=
    exists_errands_of_fetchFrom client network left before hop
  obtain ⟨hgets, htunnels⟩ := count_of_errands hmade
  constructor
  · calc gets (client.fetchFrom network left before hop).2
        ≤ gets (errands.flatMap Errand.requests) := hsent.sublist.countP_le
      _ ≤ left + 1 := hgets.trans_le hlength
  · calc tunnels (client.fetchFrom network left before hop).2
        ≤ tunnels (errands.flatMap Errand.requests) := hsent.sublist.countP_le
      _ ≤ left + 1 := htunnels.trans hlength

/-- Requests that a client may send get something or ask for a tunnel. -/
theorem length_eq_of_maySend {sent : List Outgoing} (h : ∀ out ∈ sent, client.MaySend out) :
    sent.length = gets sent + tunnels sent := by
  rw [List.length_eq_countP_add_countP (·.method == .get)]
  congr 1
  refine List.countP_congr fun out hout => ?_
  rcases (h out hout).purpose with hget | ⟨gateway, url, -, -, rfl⟩
  · simp [hget]
  · simp [Client.connect]

/-- Without a gateway for secure requests no tunnel is asked for. -/
theorem tunnels_eq_zero {sent : List Outgoing} (h : ∀ out ∈ sent, client.MaySend out)
    (hsecure : client.routing.secure = none) : tunnels sent = 0 := by
  refine List.countP_eq_zero.mpr fun out hout => ?_
  rcases (h out hout).purpose with hget | ⟨gateway, url, hgateway, -⟩
  · simp [hget]
  · rw [hsecure] at hgateway
    cases hgateway

end Counts

end Proxy

/-! ## The law -/

namespace Server

theorem maxRedirects_of_create {config : ServeConfig} {env : Proxy.Environment} {server : Server}
    (h : create config env = .ok server) :
    server.client.maxRedirects = config.proxy.maxRedirects.toNat := by
  rw [client_eq_of_create h]

theorem secure_eq_none_of_create {config : ServeConfig} {env : Proxy.Environment}
    {server : Server} (h : create config env = .ok server)
    (hnone : config.proxy.useEnvProxy = false ∨
      (Proxy.Routing.ofEnvironment env).secure = none) :
    server.client.routing.secure = none := by
  rw [Option.eq_none_iff_forall_ne_some]
  intro gateway hgateway
  obtain ⟨heeds, hnamed⟩ := secure_of_create h hgateway
  rcases hnone with hnone | hnone
  · rw [heeds] at hnone
    cases hnone
  · rw [hnamed] at hnone
    cases hnone

section Forwarded

variable {request : Request} {segment : Bytes} (hget : request.method = .get)
  (hpath : request.uri.path = Proxy.pathStart ++ segment)

include hget hpath

theorem maySend_of_respond (server : Server) (world : World) :
    ∀ out ∈ (server.respond world request).2, server.client.MaySend out := by
  rw [respond_of_forwarded hget hpath]
  exact fun out hout => Proxy.maySend_of_mem_forward hout

/-- For a forwarded request something is got once more than redirects may be followed, at most. -/
theorem count_sent_le (server : Server) (world : World) :
    Proxy.gets (server.respond world request).2 ≤ server.client.maxRedirects + 1 ∧
      Proxy.tunnels (server.respond world request).2 ≤ server.client.maxRedirects + 1 := by
  cases htarget : Proxy.readTarget segment with
  | error e =>
    rw [respond_of_misread hget hpath (Proxy.misread_of_readTarget htarget)]
    exact ⟨Nat.zero_le _, Nat.zero_le _⟩
  | ok url =>
    rw [respond_of_forwarded hget hpath, Proxy.forward_of_readTarget htarget]
    exact Proxy.count_fetchFrom_le ..

/-- If a chain of redirects within the limit comes to a reply that is not followed, the client gets
what comes of that reply. -/
theorem respond_of_chain {url : Url} (htarget : Proxy.readTarget segment = .ok url)
    {server : Server} {world : World} {errands : List Proxy.Errand} {last : Proxy.Hop}
    {errand : Proxy.Errand} {reply : Proxy.Reply} {leg : Proxy.Leg}
    (hchain : server.client.Chain world.network world.sent (.start url) errands last)
    (hlimit : errands.length ≤ server.client.maxRedirects)
    (herrand : server.client.errand? last = some errand)
    (hreply : (world.network.carry
      (world.sent ++ errands.flatMap Proxy.Errand.requests) errand).1 = reply)
    (hopen : reply ≠ .refused) (hstop : ∀ next, ¬ Proxy.Follows last.url reply next)
    (hleg : reply.leg last.url = leg) :
    server.respond world request =
      (some (isolate (deliver .get (Proxy.answer leg.outcome))),
        (errands ++ [errand]).flatMap Proxy.Errand.requests) := by
  subst hreply hleg
  rw [respond_of_forwarded hget hpath, Proxy.forward_of_readTarget htarget]
  unfold Proxy.Client.fetch
  rw [Proxy.fetchFrom_of_chain hchain hlimit, Proxy.fetchFrom_of_stop herrand hopen hstop]
  simp

end Forwarded

end Server

/-- Redirects are followed up to the limit and no further. For a forwarded request something is got
at most once more than the limit says. All other requests ask for tunnels; there are no more of
them, and none if the environment names no gateway for secure requests.
If a chain of redirects within the limit leads from the target to a reply that is not followed,
something is got once for each redirect and once for that reply, and the response is the one that
it would give in answer to the target itself. Only if it would be followed from the target, it is
its own body that is passed on. If the chain is longer than the limit, something is got once more
than the limit says, and the client gets an empty response. -/
theorem redirects_are_followed_up_to_the_limit (config : ServeConfig) (env : Proxy.Environment)
    (server : Server) (world : Server.World) (request : Request) (segment : Bytes)
    (hserver : Server.create config env = .ok server) (hget : request.method = .get)
    (hpath : request.uri.path = Proxy.pathStart ++ segment) :
    (Proxy.gets (server.respond world request).2 ≤ config.proxy.maxRedirects.toNat + 1 ∧
      Proxy.tunnels (server.respond world request).2 ≤ config.proxy.maxRedirects.toNat + 1 ∧
      (server.respond world request).2.length =
        Proxy.gets (server.respond world request).2 +
          Proxy.tunnels (server.respond world request).2 ∧
      (config.proxy.useEnvProxy = false ∨ (Proxy.Routing.ofEnvironment env).secure = none →
        Proxy.tunnels (server.respond world request).2 = 0)) ∧
    (∀ url, Proxy.readTarget segment = .ok url →
      (∀ errands last errand reply,
        server.client.Chain world.network world.sent (.start url) errands last →
        errands.length ≤ config.proxy.maxRedirects.toNat →
        server.client.errand? last = some errand →
        (world.network.carry
          (world.sent ++ errands.flatMap Proxy.Errand.requests) errand).1 = reply →
        reply ≠ .refused → (∀ next, ¬ Proxy.Follows last.url reply next) →
        (server.respond world request).2 =
          (errands ++ [errand]).flatMap Proxy.Errand.requests ∧
        Proxy.gets (server.respond world request).2 = errands.length + 1 ∧
        ((∀ next, ¬ Proxy.Follows url.withoutUser reply next) → ∀ network : Proxy.Network,
          (∀ first, server.client.errand? (.start url) = some first →
            (network.carry world.sent first).1 = reply) →
          (server.respond world request).1 =
            (server.respond { world with network } request).1) ∧
        ∀ next, Proxy.Follows url.withoutUser reply next →
          ∃ status headers rest extent, reply = .answer status headers rest ∧
            Proxy.Extent.ofReply? status headers = some extent ∧
            (server.respond world request).1 =
              some (passedOn (headers.get? "content-length") (extent.read rest))) ∧
      ∀ errands last,
        server.client.Chain world.network world.sent (.start url) errands last →
        errands.length = config.proxy.maxRedirects.toNat + 1 →
        server.respond world request =
          (some Server.failedFetch, errands.flatMap Proxy.Errand.requests) ∧
        Proxy.gets (server.respond world request).2 = errands.length) ∧
    Server.failedFetch.status = 200 ∧ Server.failedFetch.body.content = [] ∧
      Server.failedFetch.body.cut = false := by
  rw [← Server.maxRedirects_of_create hserver]
  have hmay := Server.maySend_of_respond hget hpath server world
  obtain ⟨hgets, htunnels⟩ := Server.count_sent_le hget hpath server world
  refine ⟨⟨hgets, htunnels, Proxy.length_eq_of_maySend hmay, fun hnone => ?_⟩,
    fun url htarget => ⟨?_, fun errands last hchain hlong => ?_⟩, rfl, rfl, rfl⟩
  · exact Proxy.tunnels_eq_zero hmay (Server.secure_eq_none_of_create hserver hnone)
  · intro errands last errand reply hchain hlimit herrand hreply hopen hstop
    have hrespond := Server.respond_of_chain hget hpath htarget hchain hlimit herrand hreply hopen
      hstop rfl
    obtain ⟨first, hfirst⟩ := Proxy.exists_errand?_of_chain hchain herrand
    have hweb : Proxy.isWeb url.withoutUser = true := Proxy.isWeb_of_errand? hfirst
    have hlast := Proxy.isWeb_of_errand? herrand
    refine ⟨by rw [hrespond], ?_, fun hstays network hanswer => ?_, fun next hfollows => ?_⟩
    · have hmade : ∀ made ∈ errands ++ [errand], ∃ hop, server.client.errand? hop = some made := by
        simpa [or_imp, forall_and] using ⟨Proxy.exists_hop_of_chain hchain, last, herrand⟩
      rw [hrespond, (Proxy.count_of_errands hmade).1, List.length_append, List.length_singleton]
    · -- in answer to the target the reply is the end of an empty chain
      have hdirect : server.respond { world with network } request = _ :=
        Server.respond_of_chain hget hpath htarget .nil (Nat.zero_le _) hfirst
          (by simpa using hanswer first hfirst) hopen hstays
          (Proxy.leg_eq_of_not_follows hweb hlast hstop hstays)
      rw [hrespond, hdirect]
    · obtain ⟨status, headers, rest, extent, hshape, hextent, hleg⟩ :=
        Proxy.leg_of_follows_elsewhere hweb hlast hstop hfollows
      refine ⟨status, headers, rest, extent, hshape, hextent, ?_⟩
      rw [hrespond, hleg]
      simp only [Proxy.Leg.outcome, Proxy.answer, isolate_passOn]
  · have hrespond : server.respond world request =
        (some Server.failedFetch, errands.flatMap Proxy.Errand.requests) := by
      rw [Server.respond_of_forwarded hget hpath, Proxy.forward_of_readTarget htarget]
      unfold Proxy.Client.fetch
      rw [Proxy.fetchFrom_of_long_chain hchain hlong]
      rfl
    refine ⟨hrespond, ?_⟩
    rw [hrespond, (Proxy.count_of_errands (Proxy.exists_hop_of_chain hchain)).1]

/-- A configuration that follows one redirect. -/
def onceMoved : ServeConfig := { proxy := { maxRedirects := 1 } }

/-- With one redirect allowed, a host that redirects to itself for ever is asked twice, and nothing
comes of it; but a page that has moved once is the same as if it had not. -/
theorem a_cycle_is_left_and_a_moved_page_is_found :
    Server.create onceMoved [] = .ok (serverOf onceMoved []) ∧
    (∃ first second,
      (serverOf onceMoved []).respond (echoWorld (.answer 302 [("location", [0x2F])] []))
        (askFor "aHR0cDovLzEyNy4wLjAuMS8=") = (some Server.failedFetch, [first, second])) ∧
    (∃ first second,
      ((serverOf onceMoved []).respond (movedWorld .close [0x21])
        (askFor "aHR0cDovLzEyNy4wLjAuMS8=")).2 = [first, second]) ∧
    ((serverOf onceMoved []).respond (movedWorld .close [0x21])
      (askFor "aHR0cDovLzEyNy4wLjAuMS8=")).1 =
      ((serverOf onceMoved []).respond
        { movedWorld .close [0x21] with
          network := fun _ _ => .answer 203 ([("set-cookie", Bytes.ofString "a=b")] ++
            Proxy.Framing.close.fields ++ [("connection", Bytes.ofString "close")]) [0x21] }
        (askFor "aHR0cDovLzEyNy4wLjAuMS8=")).1 := by
  have hcreate : Server.create onceMoved [] = .ok (serverOf onceMoved []) := rfl
  have hagain : ∃ out, (serverOf onceMoved []).client.errand?
      ((Proxy.Hop.start loopback).follow loopback) = some { out } :=
    Proxy.exists_errand?_of_no_gateway rfl rfl (by decide +kernel) (by decide +kernel)
  have hpage : ∃ out, (serverOf onceMoved []).client.errand?
      ((Proxy.Hop.start loopback).follow loopbackPage) = some { out } :=
    Proxy.exists_errand?_of_no_gateway rfl rfl (by decide +kernel) (by decide +kernel)
  have hself : Proxy.redirect? loopback 302 [("location", [0x2F])] = some loopback := by
    decide +kernel
  have hmoved : Proxy.redirect? loopback 302 [("location", Bytes.ofString "/b")] =
      some loopbackPage := by
    decide +kernel
  obtain ⟨first, hfirst⟩ := errand?_loopback (serverOf onceMoved []).client rfl rfl
  obtain ⟨second, hagain⟩ := hagain
  obtain ⟨page, hpage⟩ := hpage
  have hlaw := fun world => redirects_are_followed_up_to_the_limit onceMoved [] _ world
    (askFor "aHR0cDovLzEyNy4wLjAuMS8=") _ hcreate rfl rfl
  obtain ⟨-, hcycle, -⟩ := hlaw (echoWorld (.answer 302 [("location", [0x2F])] []))
  obtain ⟨-, hchain, -⟩ := hlaw (movedWorld .close [0x21])
  have hstays : ∀ url next, ¬ Proxy.Follows url
      (.answer 203 ([("set-cookie", Bytes.ofString "a=b")] ++ Proxy.Framing.close.fields ++
        [("connection", Bytes.ofString "close")]) [0x21]) next := by
    rintro url next ⟨status, headers, rest, extent, hreply, -, hnext, -⟩
    cases hreply
    cases hnext
  obtain ⟨hsent, -, hsame, -⟩ := (hchain loopback readTarget_loopback).1 [{ out := first }] _ _ _
    (.cons hfirst ⟨_, _, _, _, rfl, rfl, hmoved, by decide⟩ .nil) (Nat.le_refl 1) hpage rfl
    (by simp [Proxy.Network.carry, movedWorld, Proxy.Errand.requests]) (hstays _)
  refine ⟨hcreate, ⟨first, second, ?_⟩, ⟨first, page, hsent⟩,
    hsame (hstays _) _ fun errand herrand => ?_⟩
  · exact ((hcycle loopback readTarget_loopback).2 [{ out := first }, { out := second }] _
      (.cons hfirst ⟨_, _, _, _, rfl, rfl, hself, by decide⟩
        (.cons hagain ⟨_, _, _, _, rfl, rfl, hself, by decide⟩ .nil)) rfl).1
  · rw [hfirst] at herrand
    cases herrand
    rfl

/-! ## A location that is too long -/

theorem Url.clean_of_visible {s : String} (h : ∀ c ∈ s.toList, 0x20 < c.toNat) :
    Url.clean s = s.toList := by
  have hkeeps (cs : List Char) (h : ∀ c ∈ cs, 0x20 < c.toNat) :
      cs.dropWhile (fun c => decide (c.toNat ≤ 0x20)) = cs := by
    cases cs with
    | nil => rfl
    | cons c rest =>
      have hc := h c List.mem_cons_self
      rw [List.dropWhile_cons_of_neg (by simpa using hc)]
  unfold Url.clean
  dsimp only
  rw [hkeeps s.toList h, hkeeps _ (by simpa using h), List.reverse_reverse, List.filter_eq_self]
  intro c hc
  have hlow := h c hc
  have hne (d : Char) (hd : d.toNat ≤ 0x20) : c ≠ d := by
    rintro rfl
    omega
  simp [hne '\t' (by decide), hne '\n' (by decide), hne '\r' (by decide)]

/-- A query of `n` letters. -/
def longQuery (n : Nat) : String := String.ofList (List.replicate n 'a')

/-- The address `http://127.0.0.1/` with a query of `n` letters. -/
def farPage (n : Nat) : Url := { loopback with query := some (longQuery n) }

theorem ofString_longQuery (n : Nat) : Bytes.ofString (longQuery n) = List.replicate n 0x61 := by
  simp only [Bytes.ofString, longQuery, String.toList_ofList, List.flatMap_replicate]
  exact List.flatten_replicate_singleton

theorem escapeWith_letters (n : Nat) :
    Url.escapeWith (Url.querySet true) (List.replicate n 'a') = longQuery n := by
  have hbytes : Host.bytesOf (List.replicate n 'a') = List.replicate n 0x61 := by
    rw [← ofString_longQuery, Host.bytesOf, Bytes.ofString, longQuery, String.toList_ofList]
  simp only [Url.escapeWith, hbytes, Percent.encode, List.flatMap_replicate]
  rw [if_pos (by decide), List.flatten_replicate_singleton]
  simp [Bytes.asciiText, longQuery]

theorem join_farPage (n : Nat) :
    loopback.join (String.ofList ('?' :: List.replicate n 'a')) = .ok (farPage n) := by
  have hclean : Url.clean (String.ofList ('?' :: List.replicate n 'a')) =
      '?' :: List.replicate n 'a' := by
    rw [Url.clean_of_visible (by simp [List.mem_replicate]), String.toList_ofList]
  have htail : Url.splitTail ('?' :: List.replicate n 'a') =
      ([], some (List.replicate n 'a'), none) := by
    simp [Url.splitTail]
  have hrelative : Url.relative loopback ('?' :: List.replicate n 'a') = .ok (farPage n) := by
    simp only [Url.relative, htail, farPage, ← escapeWith_letters]
    rfl
  unfold Url.join
  dsimp only
  rw [hclean]
  exact hrelative

theorem text_farPage (n : Nat) :
    (farPage n).text = "http:" ++ "//127.0.0.1" ++ ("/" ++ ("?" ++ longQuery n)) :=
  String.append_empty

theorem ofString_farPage (n : Nat) :
    Bytes.ofString (farPage n).text =
      Bytes.ofString "http://127.0.0.1/?" ++ List.replicate n 0x61 := by
  rw [text_farPage, ← String.append_assoc, ← String.append_assoc, Bytes.ofString_concat,
    ofString_longQuery]
  rfl

theorem readPathAndQuery_letters (n : Nat) :
    Uri.readPathAndQuery (Bytes.ofString "/?" ++ List.replicate n 0x61) =
      .ok (Bytes.ofString "/", some (List.replicate n 0x61)) := by
  have htake : (List.replicate n (0x61 : UInt8)).takeWhile (· != 0x23) =
      List.replicate n 0x61 := by
    simp
  have hall : (List.replicate n (0x61 : UInt8)).all Uri.isQueryByte = true := by
    rw [List.all_eq_true]
    intro b hb
    rw [List.eq_of_mem_replicate hb]
    decide
  have hvalid : Utf8.isValid (List.replicate n 0x61) = true := by
    rw [← ofString_longQuery]
    exact Utf8.isValid_ofString _
  have hread : Uri.readPathAndQuery (Bytes.ofString "/?" ++ List.replicate n 0x61) =
      (let query := (List.replicate n (0x61 : UInt8)).takeWhile (· != 0x23)
        if !query.all Uri.isQueryByte then .error .invalidCharacter
        else if !Utf8.isValid query then .error .invalidCharacter
        else .ok (Bytes.ofString "/", some query)) := rfl
  rw [hread]
  simp only [htake, hall, hvalid]
  rfl

theorem Uri.parse_of_absolute {a b : UInt8} {s scheme rest address tail path : Bytes}
    {query : Option Bytes} (hlength : (a :: b :: s).length ≤ maxLength) (hslash : a ≠ 0x2F)
    (hscheme : readScheme (a :: b :: s) = .ok (some (scheme, rest))) (hrest : rest ≠ [])
    (haddress : readAddress rest = .ok (address, tail)) (hne : address ≠ [])
    (hpath : readPathAndQuery tail = .ok (path, query)) :
    ∃ uri, parse (a :: b :: s) = .ok uri := by
  unfold parse
  rw [if_neg (Nat.not_lt.mpr hlength)]
  split
  · contradiction
  · simp at *
  · simp at *
  · rename_i heq
    cases heq
    exact absurd rfl hslash
  · simp [hscheme, haddress, hpath]

theorem isTarget_farPage {n : Nat} (h : n ≤ 65516) : Proxy.isTarget (farPage n) = true := by
  have hlength : (Bytes.ofString "http://127.0.0.1/?" ++
      List.replicate n (0x61 : UInt8)).length ≤ Uri.maxLength := by
    have hfront : (Bytes.ofString "http://127.0.0.1/?").length = 18 := rfl
    simp only [List.length_append, List.length_replicate, hfront, Uri.maxLength]
    omega
  have hscheme : Uri.readScheme (Bytes.ofString "http://127.0.0.1/?" ++ List.replicate n 0x61) =
      .ok (some (Bytes.ofString "http", Bytes.ofString "127.0.0.1/?" ++ List.replicate n 0x61)) :=
    rfl
  have haddress : Uri.readAddress (Bytes.ofString "127.0.0.1/?" ++ List.replicate n 0x61) =
      .ok (Bytes.ofString "127.0.0.1", Bytes.ofString "/?" ++ List.replicate n 0x61) :=
    rfl
  obtain ⟨uri, hread⟩ := Uri.parse_of_absolute hlength (by decide) hscheme
    (List.cons_ne_nil _ _) haddress (by decide) (readPathAndQuery_letters n)
  have hparse : Uri.parse (Bytes.ofString (farPage n).text) = .ok uri := by
    rw [ofString_farPage]
    exact hread
  simp only [Proxy.isTarget, hparse]

/-- The location `?` with a query of `n` letters. -/
def farLocation (n : Nat) : Headers := [("location", 0x3F :: List.replicate n 0x61)]

/-- A location that only adds a fragment. -/
def nearLocation : Headers := [("location", Bytes.ofString "#bbbbbbbbbbbbbbbbbbbb")]

theorem redirect?_farLocation {n : Nat} (h : n ≤ 65516) :
    Proxy.redirect? loopback 302 (farLocation n) = some (farPage n) := by
  have hlocation : ((farLocation n).get? "location").bind Utf8.decode? =
      some (String.ofList ('?' :: List.replicate n 'a')) := by
    have hascii : (0x3F :: List.replicate n (0x61 : UInt8)).all Bytes.isAscii = true := by
      rw [List.all_eq_true]
      intro b hb
      rcases List.mem_cons.mp hb with rfl | hb
      · decide
      · rw [List.eq_of_mem_replicate hb]
        decide
    have hread := Utf8.decode?_of_ascii hascii
    simpa [farLocation, Headers.get?, Bytes.asciiText] using hread
  unfold Proxy.redirect?
  rw [if_neg (by decide), hlocation]
  simp only [join_farPage, isTarget_farPage h, if_true]

/-- Where `nearLocation` leads from a page with a long query. -/
def fartherPage (n : Nat) : Url := { farPage n with fragment := some "bbbbbbbbbbbbbbbbbbbb" }

theorem Uri.parse_of_long {s : Bytes} (h : maxLength < s.length) : parse s = .error .tooLong := by
  unfold parse
  rw [if_pos h]

theorem isTarget_fartherPage {n : Nat} (h : 65496 ≤ n) :
    Proxy.isTarget (fartherPage n) = false := by
  have htext : (fartherPage n).text = (farPage n).text ++ "#bbbbbbbbbbbbbbbbbbbb" := by
    rw [text_farPage]
    rfl
  refine Proxy.isTarget_eq_false_iff.mpr ⟨.tooLong, Uri.parse_of_long ?_⟩
  have hfront : (Bytes.ofString "http://127.0.0.1/?").length = 18 := rfl
  have hback : (Bytes.ofString "#bbbbbbbbbbbbbbbbbbbb").length = 21 := rfl
  rw [htext, Bytes.ofString_concat, ofString_farPage]
  simp only [List.length_append, List.length_replicate, hfront, hback, Uri.maxLength]
  omega

theorem redirect?_nearLocation {n : Nat} (h : 65496 ≤ n) :
    Proxy.redirect? (farPage n) 302 nearLocation = none := by
  have hlocation : (nearLocation.get? "location").bind Utf8.decode? =
      some "#bbbbbbbbbbbbbbbbbbbb" := by
    decide +kernel
  have hjoin : (farPage n).join "#bbbbbbbbbbbbbbbbbbbb" = .ok (fartherPage n) := rfl
  unfold Proxy.redirect?
  rw [if_neg (by decide), hlocation]
  simp only [hjoin, isTarget_fartherPage h]
  rfl

/-- A world without files in which every host redirects to a query of `n` letters at first, and
then adds a fragment. -/
def farWorld (n : Nat) : Server.World :=
  { fs := bareSystem
    network := fun before _ =>
      if before.isEmpty then .answer 302 (farLocation n) []
      else .answer 302 nearLocation [0x68, 0x69] }

/-- A redirect that would be followed from the target is not followed behind another one, where the
address gets too long. So it is passed on, and does not give what it gives in answer to the
target. -/
theorem a_fragment_can_make_an_address_too_long :
    Server.create onceMoved [] = .ok (serverOf onceMoved []) ∧
    (∃ first second, (serverOf onceMoved []).respond (farWorld 65500)
      (askFor "aHR0cDovLzEyNy4wLjAuMS8=") =
        (some (passedOn none ⟨[0x68, 0x69], false⟩), [first, second])) ∧
    ((serverOf onceMoved []).respond (echoWorld (.answer 302 nearLocation [0x68, 0x69]))
      (askFor "aHR0cDovLzEyNy4wLjAuMS8=")).1 = some Server.failedFetch ∧
    passedOn none ⟨[0x68, 0x69], false⟩ ≠ Server.failedFetch := by
  obtain ⟨first, hfirst⟩ := errand?_loopback (serverOf onceMoved []).client rfl rfl
  have hfar : 65496 ≤ 65500 ∧ 65500 ≤ 65516 := by decide
  generalize 65500 = n at hfar ⊢
  have hsecond : ∃ out, (serverOf onceMoved []).client.errand?
      ((Proxy.Hop.start loopback).follow (farPage n)) = some { out } :=
    Proxy.exists_errand?_of_no_gateway rfl rfl rfl (isTarget_farPage hfar.2)
  have hnear : ∃ next, Proxy.redirect? loopback 302 nearLocation = some next ∧
      Proxy.redirect? next 302 nearLocation = some next ∧ Proxy.isWeb next = true ∧
      Proxy.isTarget next = true :=
    ⟨{ loopback with fragment := some "bbbbbbbbbbbbbbbbbbbb" }, by decide +kernel⟩
  obtain ⟨second, hsecond⟩ := hsecond
  obtain ⟨next, hnext, hagain, hweb, htarget⟩ := hnear
  have hthird : ∃ out, (serverOf onceMoved []).client.errand?
      ((Proxy.Hop.start loopback).follow next) = some { out } :=
    Proxy.exists_errand?_of_no_gateway rfl rfl hweb htarget
  obtain ⟨third, hthird⟩ := hthird
  refine ⟨rfl, ⟨first, second, ?_⟩, ?_, by decide⟩
  · have hstop : ∀ next, ¬ Proxy.Follows (farPage n) (.answer 302 nearLocation [0x68, 0x69])
        next := by
      rintro next ⟨status, headers, rest, extent, hreply, -, hnext, -⟩
      cases hreply
      rw [redirect?_nearLocation hfar.1] at hnext
      cases hnext
    have hchain : (serverOf onceMoved []).client.Chain (farWorld n).network [] (.start loopback)
        [{ out := first }] ((Proxy.Hop.start loopback).follow (farPage n)) :=
      .cons hfirst ⟨_, _, _, _, rfl, rfl, redirect?_farLocation hfar.2, rfl⟩ .nil
    have hleg : (Proxy.Reply.answer 302 nearLocation [0x68, 0x69]).leg (farPage n) =
        .ended 302 nearLocation ⟨[0x68, 0x69], false⟩ := by
      have hextent : Proxy.Extent.ofReply? 302 nearLocation = some .untilClose := rfl
      simp only [Proxy.Reply.leg, hextent, redirect?_nearLocation hfar.1]
      rfl
    have hrespond : (serverOf onceMoved []).respond (farWorld n)
        (askFor "aHR0cDovLzEyNy4wLjAuMS8=") = _ :=
      Server.respond_of_chain rfl rfl readTarget_loopback hchain (Nat.le_refl 1) hsecond rfl
        (by simp [Proxy.Network.carry, farWorld, Proxy.Errand.requests]) hstop hleg
    rw [hrespond]
    simp only [Proxy.Leg.outcome, Proxy.answer, isolate_passOn]
    rfl
  · have hfails : (serverOf onceMoved []).client.Fails
        (echoWorld (.answer 302 nearLocation [0x68, 0x69])).network 1 [] (.start loopback) :=
      .redirected hfirst rfl hnext (.tooManyRedirects hthird rfl hagain)
    exact Server.respond_of_failed rfl rfl readTarget_loopback _ _
      (Proxy.fetchFrom_of_fails hfails)

end IsoServer
