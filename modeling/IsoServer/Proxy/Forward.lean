-- Forwarding: the answer to a client that asks for an address. Only the body and its length
-- are passed on, and a failure shows as an empty success.
import IsoServer.Proxy.Client
import IsoServer.Proxy.Target

namespace IsoServer.Proxy

/-- The answer when fetching failed. -/
def emptySuccess : Response := .ofStatus 200

/-- The answer that passes a body on. -/
def passOn (headers : Headers) (body : Received) : Response :=
  { status := 200
    headers :=
      match headers.get? "content-length" with
      | some n => [("content-length", n)]
      | none => []
    body := { content := body.content, sized := false, cut := body.cut } }

/-- The answer to what fetching gave. -/
def answer : Fetched → Response
  | .failed => emptySuccess
  | .replied _ headers body => passOn headers body

/-- The answer to a request for an encoded target, and the requests that were sent for it. -/
def forward (client : Client) (network : Network) (before : List Outgoing) (segment : Bytes) :
    Response × List Outgoing :=
  match readTarget segment with
  | .error e => (.plainText 400 e.message, [])
  | .ok url =>
    let fetched := client.fetch network before url
    (answer fetched.1, fetched.2)

end IsoServer.Proxy
