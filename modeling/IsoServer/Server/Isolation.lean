-- Isolation: the two header fields that let a page share memory between threads. Every
-- response carries them, whatever it is.
import IsoServer.Http.Message

namespace IsoServer

/-- The field that keeps foreign content out of a page unless it agrees. -/
def embedderPolicy : String := "cross-origin-embedder-policy"

/-- The field that cuts the page off from the windows that opened it. -/
def openerPolicy : String := "cross-origin-opener-policy"

/-- Sets both fields, each in place of all values that it had. -/
def isolate (r : Response) : Response :=
  { r with
    headers := (r.headers.set openerPolicy (Bytes.ofString "same-origin")).set embedderPolicy
      (Bytes.ofString "require-corp") }

/-- A response on its way to the client. One that opens a tunnel has no body. Any other says its
length if it is known, and loses its body if only the head was asked for. -/
def deliver (method : Method) (r : Response) : Response :=
  if method == .connect && r.isSuccess then { r with body := {} }
  else
    let length := Bytes.decimal r.body.content.length
    let headers :=
      if r.body.sized && !r.headers.contains "content-length" then
        r.headers.add "content-length" length
      else r.headers
    { r with headers, body := if method == .head then {} else r.body }

end IsoServer
