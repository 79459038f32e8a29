-- Which part of the server answers. Only a request to get a path with the fixed start is
-- forwarded. Every other request is answered from the files alone: nothing is sent for it, and
-- what the server knows of other hosts does not show.
import Mathlib
import IsoServer.Proofs.Delivery

namespace IsoServer

/-! ## Requests that are not forwarded -/

theorem Bytes.eq_append_of_dropStart? {start s rest : Bytes} (h : dropStart? start s = some rest) :
    s = start ++ rest := by
  induction start generalizing s with
  | nil =>
    cases h
    rfl
  | cons p start ih =>
    cases s with
    | nil => cases h
    | cons b s =>
      unfold dropStart? at h
      split_ifs at h with hb
      rw [ih h, beq_iff_eq.mp hb]
      rfl

/-- Whether a request is for a file: its method is not that for getting something, or its path
does not start, byte by byte, as those of forwarded requests do. -/
def Request.IsForFile (request : Request) : Prop :=
  request.method ≠ .get ∨ ¬ Proxy.pathStart <+: request.uri.path

theorem Request.IsForFile.forwarded?_eq_none {request : Request} (h : request.IsForFile) :
    Server.forwarded? request = none := by
  unfold Server.forwarded? Proxy.segment?
  split_ifs with hget
  · rcases h with h | h
    · exact absurd (beq_iff_eq.mp hget) h
    · cases hdrop : Bytes.dropStart? Proxy.pathStart request.uri.path with
      | none => rfl
      | some rest =>
        have hpath := Bytes.eq_append_of_dropStart? hdrop
        exact absurd ⟨rest, hpath.symm⟩ h
  · rfl

theorem Server.files_of_create {config : ServeConfig} {env : Proxy.Environment} {server : Server}
    (h : create config env = .ok server) : server.files = config.files := by
  unfold create at h
  split at h
  · cases h
    rfl
  · cases h

/-- A server can be set up if its user agent can be sent. -/
theorem Server.exists_create {config : ServeConfig} (h : config.proxy.agentIsValue = true)
    (env : Proxy.Environment) : ∃ server, create config env = .ok server := by
  unfold create Proxy.Client.create?
  rw [h]
  exact ⟨_, rfl⟩

/-- A request for a file is answered by the file service, and nothing is sent for it. -/
theorem Server.respond_of_isForFile (server : Server) (world : World) {request : Request}
    (h : request.IsForFile) :
    server.respond world request =
      ((Files.serve server.files world.fs world.who request).map fun plain =>
        isolate (deliver request.method plain), []) := by
  unfold respond dispatch
  rw [h.forwarded?_eq_none]

/-! ## Other methods -/

/-- The answer to a method that files do not have. -/
def notAllowed : Response := { status := 405, headers := [("allow", Bytes.ofString "GET,HEAD")] }

theorem Files.serve_of_other_method (config : FilesConfig) (fs : FileSystem) (who : Visitor)
    {request : Request} (hget : request.method ≠ .get) (hhead : request.method ≠ .head) :
    serve config fs who request = some notAllowed := by
  unfold serve serveFile
  simp [hget, hhead, notAllowed]

/-- The file service opens no tunnel. -/
theorem Files.not_tunnel {config : FilesConfig} {fs : FileSystem} {who : Visitor}
    {request : Request} {plain : Response} (h : serve config fs who request = some plain) :
    ¬ (request.method = .connect ∧ plain.isSuccess = true) := by
  rintro ⟨hconnect, hsuccess⟩
  rw [serve_of_other_method config fs who (by simp [hconnect]) (by simp [hconnect])] at h
  cases h
  cases hsuccess

theorem Server.respond_of_other_method (server : Server) (world : World) {request : Request}
    (hget : request.method ≠ .get) (hhead : request.method ≠ .head) :
    server.respond world request = (some (isolate (deliver request.method notAllowed)), []) := by
  rw [respond_of_isForFile server world (.inl hget),
    Files.serve_of_other_method server.files world.fs world.who hget hhead]
  rfl

/-! ## The law -/

/-- A request for a file is answered as if nothing was ever forwarded. The response is that of the
file service as it is delivered, and there is none exactly if the file service has none. Nothing
is sent to other hosts, and servers with the same files respond alike, however they are set up to
forward, in whatever environment and to whatever network. Methods other than the two of files are
not allowed on any path. -/
theorem a_request_for_a_file_is_never_forwarded (request : Request) (hfile : request.IsForFile) :
    (∀ (config : ServeConfig) (env : Proxy.Environment) (server : Server) (world : Server.World),
      Server.create config env = .ok server →
      (server.respond world request).2 = [] ∧
      ((server.respond world request).1 = none ↔
        Files.serve config.files world.fs world.who request = none) ∧
      ∀ plain, Files.serve config.files world.fs world.who request = some plain →
        ∃ response, (server.respond world request).1 = some response ∧
          Delivered request.method plain response) ∧
    (∀ (config₁ config₂ : ServeConfig) (env₁ env₂ : Proxy.Environment) (server₁ server₂ : Server)
      (world₁ world₂ : Server.World), Server.create config₁ env₁ = .ok server₁ →
      Server.create config₂ env₂ = .ok server₂ → config₁.files = config₂.files →
      world₁.fs = world₂.fs → world₁.who = world₂.who →
      server₁.respond world₁ request = server₂.respond world₂ request) ∧
    (request.method ≠ .get → request.method ≠ .head →
      ∀ (server : Server) (world : Server.World), ∃ response,
        server.respond world request = (some response, []) ∧ response.status = 405) := by
  refine ⟨fun config env server world hserver => ?_, ?_, fun hget hhead server world => ?_⟩
  · rw [Server.respond_of_isForFile server world hfile, Server.files_of_create hserver]
    refine ⟨rfl, Option.map_eq_none_iff, fun plain hplain => ?_⟩
    have hdelivered := delivered_isolate (Files.allLower_serve hplain) (Files.not_tunnel hplain)
    exact ⟨_, by rw [hplain]; rfl, hdelivered⟩
  · intro config₁ config₂ env₁ env₂ server₁ server₂ world₁ world₂ h₁ h₂ hfiles hfs hwho
    rw [Server.respond_of_isForFile server₁ world₁ hfile,
      Server.respond_of_isForFile server₂ world₂ hfile, Server.files_of_create h₁,
      Server.files_of_create h₂, hfiles, hfs, hwho]
  · refine ⟨_, Server.respond_of_other_method server world hget hhead, ?_⟩
    have hclosed : ¬ (request.method = .connect ∧ notAllowed.isSuccess = true) := by
      rintro ⟨-, hsuccess⟩
      cases hsuccess
    rw [deliver_eq hclosed]
    rfl

/-- A configuration that forwards in another way. -/
def otherConfig : ServeConfig := { proxy := { userAgent := "x", maxRedirects := 0 } }

/-- A request for what would be an encoded target, were it not for a second slash in front. -/
def doubledSlash : Request :=
  { method := .get, uri := { path := Bytes.ofString "//proxy/aHR0cDovLzEyNy4wLjAuMS8=" } }

/-- The same target, for a method that is not forwarded. -/
def posted : Request :=
  { method := .other "POST", uri := { path := Bytes.ofString "/proxy/aHR0cDovLzEyNy4wLjAuMS8=" } }

theorem doubledSlash_isForFile : doubledSlash.IsForFile := by
  refine .inr ?_
  rw [← List.isPrefixOf_iff_prefix]
  decide

/-- With a second slash in front nothing is sent, and two servers that forward in different ways
respond alike; and nothing can be posted to an encoded target. -/
theorem a_doubled_slash_is_not_forwarded :
    ∃ server₁ server₂, Server.create {} [] = .ok server₁ ∧
      Server.create otherConfig [("HTTP_PROXY", "http://127.0.0.1:1/")] = .ok server₂ ∧
      server₁.respond { fs := bareSystem } doubledSlash =
        server₂.respond { fs := bareSystem, network := fun _ _ => .answer 200 [] [0x21] }
          doubledSlash ∧
      (server₁.respond { fs := bareSystem } doubledSlash).2 = [] ∧
      ∃ response, server₂.respond { fs := bareSystem } posted = (some response, []) ∧
        response.status = 405 := by
  have hfirst : ({} : ServeConfig).proxy.agentIsValue = true := by decide
  have hsecond : otherConfig.proxy.agentIsValue = true := by decide
  obtain ⟨server₁, h₁⟩ := Server.exists_create hfirst []
  obtain ⟨server₂, h₂⟩ :=
    Server.exists_create hsecond [("HTTP_PROXY", "http://127.0.0.1:1/")]
  obtain ⟨hplain, hsame, -⟩ :=
    a_request_for_a_file_is_never_forwarded doubledSlash doubledSlash_isForFile
  obtain ⟨-, -, hother⟩ :=
    a_request_for_a_file_is_never_forwarded posted (.inl (by decide))
  exact ⟨server₁, server₂, h₁, h₂, hsame _ _ _ _ _ _ _ _ h₁ h₂ rfl rfl rfl, (hplain _ _ _ _ h₁).1,
    hother (by decide) (by decide) server₂ _⟩

end IsoServer
