-- What passes between the server and the hosts that it fetches from. The network is a
-- function: it answers a request in the light of all requests before it.
import IsoServer.Http.Message
import IsoServer.Url.Basic

namespace IsoServer.Proxy

/-- A request that is sent to another host, or to a proxy on the way to it. -/
structure Outgoing where
  method : Method := .get
  /-- Whether it is encrypted on its way. -/
  secure : Bool := false
  /-- The host and the port that are connected to, perhaps through a tunnel. -/
  host : String
  port : UInt16
  /-- The target in the request line. -/
  target : Bytes
  headers : Headers
  deriving DecidableEq, Repr

/-- What comes back on a connection. -/
inductive Reply where
  /-- No connection could be opened, or none that is secure. -/
  | refused
  /-- The connection was closed without an answer. -/
  | closed
  /-- The answer was not one. -/
  | garbage
  /-- Nothing came before the time was over. -/
  | silent
  /-- A status and header fields, and all bytes behind them until the connection was closed. -/
  | answer (status : Nat) (headers : Headers) (rest : Bytes)
  deriving DecidableEq, Repr

/-- The reply to a request, given all requests that were sent before. -/
def Network := List Outgoing → Outgoing → Reply

/-- The network in which no connection can be opened. -/
def Network.unreachable : Network := fun _ _ => .refused

/-! ## Errands -/

/-- What is sent for an address: the request for it, and before it perhaps one to a proxy, which
asks for a tunnel to the host. -/
structure Errand where
  tunnel : Option Outgoing := none
  out : Outgoing
  deriving DecidableEq, Repr

/-- All requests of an errand. -/
def Errand.requests (errand : Errand) : List Outgoing := errand.tunnel.toList ++ [errand.out]

/-- The requests that were sent to get a reply: the one it is for, if there was a connection. -/
def Reply.sent (out : Outgoing) : Reply → List Outgoing
  | .refused => []
  | .closed | .garbage | .silent | .answer .. => [out]

/-- Whether a proxy opened a tunnel. It says so, and then it is silent. -/
def Reply.opensTunnel : Reply → Bool
  | .answer 200 _ [] => true
  | _ => false

/-- Runs an errand after the requests that were sent before. Gives the reply to its last request,
and the requests that were sent. Without its tunnel the host cannot be connected to. -/
def Network.carry (network : Network) (before : List Outgoing) (errand : Errand) :
    Reply × List Outgoing :=
  match errand.tunnel with
  | none =>
    let reply := network before errand.out
    (reply, reply.sent errand.out)
  | some connect =>
    let opening := network before connect
    if opening.opensTunnel then
      let reply := network (before ++ [connect]) errand.out
      (reply, connect :: reply.sent errand.out)
    else (.refused, opening.sent connect)

end IsoServer.Proxy
