-- Requests and responses.
import IsoServer.Http.Headers
import IsoServer.Http.Uri

namespace IsoServer

/-- A request method. Methods are told apart by case. -/
inductive Method where
  | get
  | head
  | connect
  | other (name : String)
  deriving DecidableEq, Repr

/-- The name of a method. -/
def Method.name : Method → String
  | .get => "GET"
  | .head => "HEAD"
  | .connect => "CONNECT"
  | .other name => name

/-- The method of the given name; none if the name is not a token. -/
def Method.ofName? (name : String) : Option Method :=
  let bytes := Bytes.ofString name
  if bytes.isEmpty || !bytes.all Bytes.isToken then none
  else if name == "GET" then some .get
  else if name == "HEAD" then some .head
  else if name == "CONNECT" then some .connect
  else some (.other name)

/-- A request. Its body is there, but nothing that answers requests reads it. -/
structure Request where
  method : Method
  uri : Uri
  headers : Headers := []
  body : Bytes := []

/-- The body of a response as far as it gets to the client. -/
structure Body where
  content : Bytes := []
  /-- Whether the length is known before the first byte is sent. -/
  sized : Bool := true
  /-- Whether sending breaks off behind the content. -/
  cut : Bool := false
  deriving DecidableEq, Repr

/-- A response. -/
structure Response where
  status : Nat
  headers : Headers := []
  body : Body := {}
  deriving DecidableEq, Repr

namespace Response

/-- A response with a status and nothing else. -/
def ofStatus (status : Nat) : Response := { status }

/-- A response with a body of plain text. -/
def plainText (status : Nat) (s : String) : Response :=
  { status
    headers := [("content-type", Bytes.ofString "text/plain; charset=utf-8")]
    body := { content := Bytes.ofString s } }

/-- Whether the status says that the request succeeded. -/
def isSuccess (r : Response) : Bool := 200 ≤ r.status && r.status < 300

end Response

end IsoServer
