-- Messages as bytes on a connection: how requests are read and responses written, and the
-- same for the requests that go out and the replies that come back.
import IsoServer.Proxy.Exchange
import IsoServer.Proxy.Framing

namespace IsoServer.Wire

open Proxy.Framing (lineEnd)

/-! ## Heads -/

/-- Splits a message behind the empty line that ends its head. -/
def cutHead? : Bytes → Option (Bytes × Bytes)
  | 0x0D :: 0x0A :: 0x0D :: 0x0A :: rest => some ([], rest)
  | b :: rest => (cutHead? rest).map fun (head, rest) => (b :: head, rest)
  | [] => none

theorem length_lt_of_cutHead? {s head rest : Bytes} (h : cutHead? s = some (head, rest)) :
    rest.length < s.length := by
  fun_induction cutHead? s generalizing head rest with
  | case1 after =>
    cases h
    simp only [List.length_cons]
    omega
  | case2 b after _ ih =>
    obtain ⟨⟨head', rest'⟩, hcut, heq⟩ := Option.map_eq_some_iff.mp h
    cases heq
    exact Nat.lt_succ_of_lt (ih hcut)
  | case3 => cases h

/-- The lines of a head. -/
def lines : Bytes → List Bytes
  | 0x0D :: 0x0A :: rest => [] :: lines rest
  | b :: rest =>
    match lines rest with
    | [] => [[b]]
    | l :: ls => (b :: l) :: ls
  | [] => [[]]

/-- One header field: a name, a colon and a value with blanks around it. -/
def field? (line : Bytes) : Option (String × Bytes) :=
  let name := line.takeWhile (· != 0x3A)
  match line.dropWhile (· != 0x3A) with
  | _ :: value =>
    let value := Bytes.trimBy Bytes.isBlank value
    match (Utf8.decode? name).bind Headers.name? with
    | some name => if Headers.isValue value then some (name, value) else none
    | none => none
  | [] => none

/-- A name as it is written in front of its value. -/
def writeField (f : String × Bytes) : Bytes :=
  Bytes.ofString f.1 ++ [0x3A, 0x20] ++ f.2 ++ lineEnd

/-- A head: a line, the header fields and an empty line. -/
def writeHead (start : Bytes) (headers : Headers) : Bytes :=
  start ++ lineEnd ++ headers.flatMap writeField ++ lineEnd

/-! ## Requests -/

/-- Whether a request line ends in a version that is understood. -/
def isVersion (s : Bytes) : Bool :=
  s == Bytes.ofString "HTTP/1.1" || s == Bytes.ofString "HTTP/1.0"

/-- Reads the head of a request. -/
def readRequest? (head : Bytes) : Option Request :=
  match lines head with
  | [] => none
  | start :: rest =>
    match Bytes.splitOn 0x20 start with
    | [name, target, version] =>
      match (Utf8.decode? name).bind Method.ofName?, Uri.parse target, rest.mapM field? with
      | some method, .ok uri, some headers =>
        if isVersion version then some { method, uri, headers } else none
      | _, _, _ => none
    | _ => none

/-- Writes a request that goes out. -/
def writeOutgoing (out : Proxy.Outgoing) : Bytes :=
  writeHead (Bytes.ofString (out.method.name ++ " ") ++ out.target ++ Bytes.ofString " HTTP/1.1")
    (out.headers ++ [("connection", Bytes.ofString "close")])

/-! ## Responses -/

/-- The words for the statuses that the server answers with. -/
def reason (status : Nat) : String :=
  match status with
  | 200 => "OK"
  | 206 => "Partial Content"
  | 304 => "Not Modified"
  | 307 => "Temporary Redirect"
  | 400 => "Bad Request"
  | 404 => "Not Found"
  | 405 => "Method Not Allowed"
  | 412 => "Precondition Failed"
  | 416 => "Range Not Satisfiable"
  | 500 => "Internal Server Error"
  | _ => "Unknown"

/-- Writes a response; the connection is closed behind it. A body of unknown length is sent in
chunks, without the last one if it broke off, and a page that has not changed has no length. -/
def writeResponse (r : Response) : Bytes :=
  let start := Bytes.ofString ("HTTP/1.1 " ++ toString r.status ++ " " ++ reason r.status)
  let headers := if r.status == 304 then r.headers.filter (·.1 != "content-length") else r.headers
  let closing := [("connection", Bytes.ofString "close")]
  if r.body.sized || r.headers.contains "content-length" then
    writeHead start (headers ++ closing) ++ r.body.content
  else
    let framing : Proxy.Framing := if r.body.cut then .chunkedCut 65536 else .chunked 65536
    writeHead start (headers ++ framing.fields ++ closing) ++ framing.write r.body.content

/-- Reads the head of a reply: a status and header fields. -/
def readStatus? (head : Bytes) : Option (Nat × Headers) :=
  match lines head with
  | [] => none
  | start :: fields =>
    match Bytes.splitOn 0x20 start, fields.mapM field? with
    | version :: status :: _, some headers =>
      if isVersion version then (Bytes.decimal? status).map fun n => (n, headers) else none
    | _, _ => none

/-- Whether a status says that the reply is still to come. -/
def isInterim (status : Nat) : Bool := 100 ≤ status && status < 200 && status != 101

/-- Reads all that came back on a connection. Heads that only announce the reply are skipped. -/
def readReply (s : Bytes) : Proxy.Reply :=
  match _h : cutHead? s with
  | none => if s.isEmpty then .closed else .garbage
  | some (head, rest) =>
    match readStatus? head with
    | none => .garbage
    | some (status, headers) =>
      if isInterim status then readReply rest else .answer status headers rest
termination_by s.length
decreasing_by exact length_lt_of_cutHead? ‹_›

end IsoServer.Wire
