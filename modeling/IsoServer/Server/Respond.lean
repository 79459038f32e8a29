-- The server: it forwards requests for encoded addresses and serves files for all others.
import IsoServer.Config.Fault
import IsoServer.Proxy.Forward
import IsoServer.Server.Isolation

namespace IsoServer

/-- Why a server cannot be set up. -/
inductive ServerError where
  /-- The client that fetches addresses cannot be made. -/
  | client
  deriving DecidableEq, Repr

/-- The text of an error. -/
def ServerError.message : ServerError → String
  | .client => "Failed to build upstream client: builder error"

/-- A server that is set up. -/
structure Server where
  files : FilesConfig
  client : Proxy.Client

namespace Server

/-- Sets a server up in an environment. -/
def create (config : ServeConfig) (env : Proxy.Environment) : Except ServerError Server :=
  match Proxy.Client.create? config.proxy env with
  | some client => .ok { files := config.files, client }
  | none => .error .client

/-- All that a server finds outside itself. -/
structure World where
  fs : FileSystem
  /-- As whom the server reads files. -/
  who : Visitor := .other
  network : Proxy.Network := .unreachable
  /-- The requests that were sent to other hosts so far. -/
  sent : List Proxy.Outgoing := []

/-- The encoded target of a request that is forwarded. -/
def forwarded? (request : Request) : Option Bytes :=
  if request.method == .get then Proxy.segment? request.uri.path else none

/-- The answer of the part that a request belongs to, and the requests that were sent for it. There
is no answer if a file has a time that cannot be written. -/
def dispatch (server : Server) (world : World) (request : Request) :
    Option Response × List Proxy.Outgoing :=
  match forwarded? request with
  | some segment =>
    let r := Proxy.forward server.client world.network world.sent segment
    (some r.1, r.2)
  | none => (Files.serve server.files world.fs world.who request, [])

/-- The response that a client gets, and the requests that were sent for it. -/
def respond (server : Server) (world : World) (request : Request) :
    Option Response × List Proxy.Outgoing :=
  let r := server.dispatch world request
  (r.1.map fun response => isolate (deliver request.method response), r.2)

end Server

end IsoServer
