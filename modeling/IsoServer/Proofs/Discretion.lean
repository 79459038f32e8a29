-- What other hosts learn of a client. Of a forwarded request only the encoded target counts: what
-- is sent for it, and what the client gets, is the same whatever else the request says and
-- whatever files there are. All that is sent is sent in the name of the configured agent, to get
-- something or to have a tunnel opened.
import Mathlib
import IsoServer.Proofs.Bodies
import IsoServer.Proofs.Confinement

namespace IsoServer

namespace Proxy

/-! ## One request -/

/-- Whether a client may send a request. It names the agent of the client and no other, and it
gets something, or it asks the gateway for secure requests for a tunnel and tells it where to. -/
structure Client.MaySend (client : Client) (out : Outgoing) : Prop where
  agent : out.headers.values "user-agent" = [client.userAgent]
  purpose : out.method = .get ∨ ∃ gateway url, client.routing.secure = some gateway ∧
    url.scheme = "https" ∧ out = client.connect gateway url

theorem values_optionalField {field name : String} (h : field ≠ name) (value : Option Bytes) :
    (optionalField field value).values name = [] := by
  cases value with
  | none => rfl
  | some v => simp [optionalField, Headers.values, h]

theorem values_fields_agent (client : Client) (hop : Hop) (gateway : Option Gateway) :
    (client.fields hop gateway).values "user-agent" = [client.userAgent] := by
  -- the fields in front hold the agent once, and those that may follow have other names
  simp (disch := decide) only [Client.fields, Headers.values_append, values_optionalField,
    List.append_nil]
  rfl

theorem values_connect_agent (client : Client) (gateway : Gateway) (url : Url) :
    (client.connect gateway url).headers.values "user-agent" = [client.userAgent] := by
  simp (disch := decide) only [Client.connect, Headers.values_append, values_optionalField,
    List.append_nil]
  rfl

theorem maySend_of_errand? {client : Client} {hop : Hop} {errand : Errand} {out : Outgoing}
    (h : client.errand? hop = some errand) (hout : out ∈ errand.requests) : client.MaySend out := by
  obtain ⟨hget, ⟨gateway, hfields⟩, htunnel⟩ := errand?_spec h
  rcases List.mem_append.mp hout with hconnect | hout
  · obtain ⟨gateway, hgateway, hscheme, rfl⟩ := htunnel out (Option.mem_toList.mp hconnect)
    exact ⟨values_connect_agent .., .inr ⟨gateway, hop.url, hgateway, hscheme, rfl⟩⟩
  · rw [List.mem_singleton.mp hout]
    exact ⟨hfields ▸ values_fields_agent .., .inl hget⟩

/-! ## All requests of a fetch -/

theorem maySend_of_mem_fetch {client : Client} {network : Network} {before : List Outgoing}
    {url : Url} {out : Outgoing} (h : out ∈ (client.fetch network before url).2) :
    client.MaySend out := by
  obtain ⟨errands, -, hmade, hsent⟩ := exists_errands_of_fetchFrom client network
    client.maxRedirects before (.start url)
  obtain ⟨errand, herrand, hout⟩ := List.mem_flatMap.mp (hsent.subset h)
  obtain ⟨hop, hhop⟩ := hmade errand herrand
  exact maySend_of_errand? hhop hout

theorem maySend_of_mem_forward {client : Client} {network : Network} {before : List Outgoing}
    {segment : Bytes} {out : Outgoing} (h : out ∈ (forward client network before segment).2) :
    client.MaySend out := by
  unfold forward at h
  cases htarget : readTarget segment with
  | error e =>
    rw [htarget] at h
    cases h
  | ok url =>
    simp only [htarget] at h
    exact maySend_of_mem_fetch h

end Proxy

/-! ## Servers that forward alike -/

namespace Server

theorem client_of_create {config : ServeConfig} {env : Proxy.Environment} {server : Server}
    (h : create config env = .ok server) :
    Proxy.Client.create? config.proxy env = some server.client := by
  unfold create at h
  split at h
  · rename_i client hclient
    cases h
    exact hclient
  · cases h

/-- The client of a server goes by the configuration in all its parts. -/
theorem client_eq_of_create {config : ServeConfig} {env : Proxy.Environment} {server : Server}
    (h : create config env = .ok server) :
    server.client =
      { userAgent := Bytes.ofString config.proxy.userAgent
        maxRedirects := config.proxy.maxRedirects.toNat
        routing := if config.proxy.useEnvProxy then .ofEnvironment env else {} } := by
  have hclient := client_of_create h
  unfold Proxy.Client.create? at hclient
  split at hclient
  · exact (Option.some.inj hclient).symm
  · cases hclient

theorem userAgent_of_create {config : ServeConfig} {env : Proxy.Environment} {server : Server}
    (h : create config env = .ok server) :
    server.client.userAgent = Bytes.ofString config.proxy.userAgent := by
  rw [client_eq_of_create h]

/-- Secure requests have a gateway only if the configuration heeds the environment, and that names
one. -/
theorem secure_of_create {config : ServeConfig} {env : Proxy.Environment} {server : Server}
    (h : create config env = .ok server) {gateway : Proxy.Gateway}
    (hgateway : server.client.routing.secure = some gateway) :
    config.proxy.useEnvProxy = true ∧ (Proxy.Routing.ofEnvironment env).secure = some gateway := by
  rw [client_eq_of_create h] at hgateway
  dsimp only at hgateway
  split_ifs at hgateway with heeds
  exact ⟨heeds, hgateway⟩

end Server

/-! ## The law -/

/-- Nothing of a client but its target reaches other hosts. Two requests for the same encoded
target, with whatever queries, fields and bodies, to two servers that are set up to forward alike
but serve whatever files, have the same requests sent for them in the same order, and get the same
response. Each request that is sent, redirects included, is sent in the name of the configured
agent. It gets something, or else it asks the gateway that the environment names for secure requests
for a tunnel to the host of an address, and tells it nothing more. -/
theorem other_hosts_learn_nothing_but_the_target (config₁ config₂ : ServeConfig)
    (env : Proxy.Environment) (server₁ server₂ : Server) (world₁ world₂ : Server.World)
    (request₁ request₂ : Request) (h₁ : Server.create config₁ env = .ok server₁)
    (h₂ : Server.create config₂ env = .ok server₂) (hproxy : config₁.proxy = config₂.proxy)
    (hnetwork : world₁.network = world₂.network) (hsent : world₁.sent = world₂.sent)
    (hget₁ : request₁.method = .get) (hget₂ : request₂.method = .get)
    (hstart : Proxy.pathStart <+: request₁.uri.path)
    (hpath : request₁.uri.path = request₂.uri.path) :
    ∃ response sent, server₁.respond world₁ request₁ = (some response, sent) ∧
      server₂.respond world₂ request₂ = (some response, sent) ∧
      ∀ out ∈ sent,
        out.headers.values "user-agent" = [Bytes.ofString config₁.proxy.userAgent] ∧
        (out.method = .get ∨ ∃ gateway url, config₁.proxy.useEnvProxy = true ∧
          (Proxy.Routing.ofEnvironment env).secure = some gateway ∧ url.scheme = "https" ∧
          out = server₁.client.connect gateway url) := by
  obtain ⟨segment, hsegment⟩ := hstart
  have hclient : server₁.client = server₂.client := by
    have hsame := Server.client_of_create h₁
    rw [hproxy, Server.client_of_create h₂] at hsame
    exact (Option.some.inj hsame).symm
  refine ⟨_, _, Server.respond_of_forwarded hget₁ hsegment.symm server₁ world₁, ?_, ?_⟩
  · rw [Server.respond_of_forwarded hget₂ (hpath ▸ hsegment.symm) server₂ world₂, hclient,
      hnetwork, hsent]
  · intro out hout
    obtain ⟨hagent, hpurpose⟩ := Proxy.maySend_of_mem_forward hout
    rw [Server.userAgent_of_create h₁] at hagent
    refine ⟨hagent, hpurpose.imp_right ?_⟩
    rintro ⟨gateway, url, hgateway, hsecure, heq⟩
    obtain ⟨heeds, hnamed⟩ := Server.secure_of_create h₁ hgateway
    exact ⟨gateway, url, heeds, hnamed, hsecure, heq⟩

/-- The same target as `askFor` has, with much else that could give the client away. -/
def tellingRequest : Request :=
  { method := .get
    uri :=
      { path := Proxy.pathStart ++ Bytes.ofString "aHR0cDovLzEyNy4wLjAuMS8="
        query := some (Bytes.ofString "from=me") }
    headers := [("cookie", Bytes.ofString "id=1"), ("range", Bytes.ofString "bytes=0-1")]
    body := [0x21] }

/-- A configuration that serves other files. -/
def otherFiles : ServeConfig :=
  { files := { root := Bytes.ofString "/srv", directoryListing := false } }

/-- The server of a configuration that heeds the environment. -/
def serverOf (config : ServeConfig) (env : Proxy.Environment) : Server :=
  { files := config.files
    client :=
      { userAgent := Bytes.ofString config.proxy.userAgent
        maxRedirects := config.proxy.maxRedirects.toNat
        routing := .ofEnvironment env } }

/-- With a query, a cookie, a range and a body, and with other files, a redirected fetch sends the
same two requests as without. -/
theorem a_cookie_is_not_passed_on :
    Server.create {} [] = .ok (serverOf {} []) ∧
    Server.create otherFiles [] = .ok (serverOf otherFiles []) ∧
    ∃ response sent,
      (serverOf {} []).respond (movedWorld .close [0x21]) (askFor "aHR0cDovLzEyNy4wLjAuMS8=") =
        (some response, sent) ∧
      (serverOf otherFiles []).respond { movedWorld .close [0x21] with fs := sampleSystem }
        tellingRequest = (some response, sent) ∧
      sent.map (·.target) = ["/", "/b"].map Bytes.ofString ∧
      ∀ out ∈ sent, out.method = .get ∧
        out.headers.values "user-agent" = [Bytes.ofString "curl/7.88.1"] := by
  have h₁ : Server.create {} [] = .ok (serverOf {} []) := rfl
  have h₂ : Server.create otherFiles [] = .ok (serverOf otherFiles []) := rfl
  obtain ⟨response, sent, hfirst, hsecond, hall⟩ :=
    other_hosts_learn_nothing_but_the_target {} otherFiles [] _ _ (movedWorld .close [0x21])
      { movedWorld .close [0x21] with fs := sampleSystem }
      (askFor "aHR0cDovLzEyNy4wLjAuMS8=") tellingRequest h₁ h₂ rfl rfl rfl rfl rfl ⟨_, rfl⟩ rfl
  refine ⟨h₁, h₂, response, sent, hfirst, hsecond, ?_, fun out hout => ?_⟩
  · have htargets : ((serverOf {} []).respond (movedWorld .close [0x21])
        (askFor "aHR0cDovLzEyNy4wLjAuMS8=")).2.map (·.target) =
        ["/", "/b"].map Bytes.ofString := by
      decide +kernel
    rw [hfirst] at htargets
    exact htargets
  · obtain ⟨hagent, hget | ⟨gateway, url, -, hgateway, -⟩⟩ := hall out hout
    · exact ⟨hget, hagent⟩
    · -- this environment names no gateway
      cases hgateway

/-- An environment that names a gateway for secure requests. -/
def gatewayEnvironment : Proxy.Environment := [("HTTPS_PROXY", "http://127.0.0.1:3128")]

/-- For `https://127.0.0.1/` a gateway is asked for a tunnel first, and that is not done by
getting something. -/
theorem a_gateway_is_asked_for_a_tunnel :
    Server.create {} gatewayEnvironment = .ok (serverOf {} gatewayEnvironment) ∧
    (((serverOf {} gatewayEnvironment).respond (echoWorld (.answer 200 [] []))
      (askFor "aHR0cHM6Ly8xMjcuMC4wLjEv")).2.map fun out => (out.method, out.port)) =
        [(.connect, 3128), (.get, 443)] :=
  ⟨rfl, by decide +kernel⟩

end IsoServer
