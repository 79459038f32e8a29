-- Serving files: what the server answers to a request for a path below its directory.
-- Directories with an index page show that page, other directories show a listing if
-- listings are on, and a directory without the slash at the end is redirected.
import IsoServer.Files.Listing
import IsoServer.Files.Resolve
import IsoServer.Http.Date
import IsoServer.Http.MediaType
import IsoServer.Http.Message
import IsoServer.Http.Range

namespace IsoServer

/-- The served directory, and whether directories are listed. -/
structure FilesConfig where
  root : Bytes := [0x2E]
  directoryListing : Bool := true
  deriving DecidableEq, Repr

namespace Files

/-- The page that stands for its directory. -/
def indexName : Bytes := Bytes.ofString "index.html"

/-! ## Errors -/

/-- The answer when a file cannot be examined or opened. -/
def failure : FileError → Response
  | .notFound | .permissionDenied | .notADirectory => .ofStatus 404
  | _ => .ofStatus 500

/-! ## Redirects -/

/-- A request target with a slash behind its path; none if it has an address but no scheme, or if
the path has no slash in front. -/
def slashed? (uri : Uri) : Option Uri :=
  if (uri.authority.isSome && uri.scheme.isNone) || uri.path.head? != some 0x2F then none
  else some { uri with path := uri.path ++ [0x2F] }

/-- The answer to a directory that was asked for without its slash. -/
def redirect (uri : Uri) : Response :=
  match slashed? uri with
  | some target => { status := 307, headers := [("location", target.text)] }
  | none => .ofStatus 500

/-! ## Conditions -/

/-- The time in a header field, if there is one that can be read. -/
def timeField? (name : String) (headers : Headers) : Option Nat :=
  ((headers.get? name).bind Headers.visible?).bind Date.parse?

/-- The answer to a condition that makes sending the file needless or wrong. -/
def precondition? (headers : Headers) (modified : Nat) : Option Response :=
  let changed : Bool := match timeField? "if-unmodified-since" headers with
    | some since => since < modified
    | none => false
  let unchanged : Bool := match timeField? "if-modified-since" headers with
    | some since => modified ≤ since
    | none => false
  if changed then some (.ofStatus 412)
  else if unchanged then some (.ofStatus 304)
  else none

/-! ## Contents -/

/-- A file or a directory that was opened: its size, and what reading gives. -/
structure Opened where
  size : Nat
  modified : Int
  content : Bytes
  /-- Whether reading fails at once. -/
  broken : Bool

/-- The size that a directory reports. -/
def directorySize : Nat := 4096

def Opened.ofNode? : Node → Option Opened
  | .file _ modified content => some ⟨content.length, modified, content, false⟩
  | .dir _ modified _ => some ⟨directorySize, modified, [], true⟩
  | .link _ => none

/-- What is sent of the bytes that were asked for. -/
def Opened.body (o : Opened) (bytes : Bytes) : Body :=
  { content := if o.broken then [] else bytes, sized := false, cut := o.broken }

/-- The answer with the file, or with the part of it that the request asks for. -/
def contents (method : Method) (headers : Headers) (mediaType : String) (modified : Bytes)
    (o : Opened) : Response :=
  let fields : Headers :=
    [("content-type", Bytes.ofString mediaType), ("accept-ranges", Bytes.ofString "bytes"),
      ("last-modified", modified)]
  let sent := fun bytes => if method == .head then {} else o.body bytes
  let refused := fields ++
    [("content-range", Bytes.ofString "bytes */" ++ Bytes.decimal o.size)]
  match (headers.get? "range").bind Headers.visible? with
  | none =>
    { status := 200
      headers := fields ++ [("content-length", Bytes.decimal o.size)]
      body := sent o.content }
  | some value =>
    match ByteRange.select? value o.size with
    | some [r] =>
      { status := 206
        headers := fields ++
          [("content-range", Bytes.ofString "bytes " ++ Bytes.decimal r.first ++ [0x2D] ++
              Bytes.decimal r.last ++ [0x2F] ++ Bytes.decimal o.size),
            ("content-length", Bytes.decimal (if o.size == 0 then 0 else r.length))]
        body := sent (r.cut o.content) }
    | some _ =>
      { status := 416
        headers := refused
        body := { content := Bytes.ofString "Cannot serve multipart range requests" } }
    | none => { status := 416, headers := refused }

/-! ## Files -/

/-- Opens a file for the method: the head needs no permission to read. -/
def openFor (fs : FileSystem) (who : Visitor) (method : Method) (path : Bytes) :
    Except FileError Node :=
  if method == .head then fs.stat who path else fs.openFile who path

/-- The answer for the file at a path. There is none if its time cannot be written as a date. -/
def serveAt (fs : FileSystem) (who : Visitor) (request : Request) (path : Bytes) :
    Option Response :=
  match openFor fs who request.method path with
  | .error .nulInPath => some (.ofStatus (if request.method == .head then 500 else 404))
  | .error e => some (failure e)
  | .ok node =>
    match Opened.ofNode? node with
    | none => some (.ofStatus 404)
    | some o =>
      match Date.textOf? o.modified with
      | none => none
      | some modified =>
        match precondition? request.headers o.modified.toNat with
        | some response => some response
        | none =>
          some (contents request.method request.headers (MediaType.ofPath path) modified o)

/-- The answer of the file server, listings apart. -/
def serveFile (fs : FileSystem) (who : Visitor) (root : Bytes) (request : Request) :
    Option Response :=
  if request.method != .get && request.method != .head then
    some { status := 405, headers := [("allow", Bytes.ofString "GET,HEAD")] }
  else
    match servedPath root request.uri.path with
    | none => some (.ofStatus 404)
    | some path =>
      if !fs.isDir who path then serveAt fs who request path
      else if Bytes.endsWith request.uri.path 0x2F then
        serveAt fs who request (FileSystem.child path indexName)
      else some (redirect request.uri)

/-! ## Listings -/

/-- The directory to list for a request path: it must end in a slash and lead to a directory
that has no index page. -/
def listable? (fs : FileSystem) (who : Visitor) (root path : Bytes) : Option Bytes :=
  if !Bytes.endsWith path 0x2F then none
  else
    match resolve root path with
    | none => none
    | some dir =>
      if !fs.isDir who dir || fs.isThere who (FileSystem.child dir indexName) then none
      else some dir

/-- The answer that lists a directory. -/
def listing (fs : FileSystem) (who : Visitor) (path dir : Bytes) : Response :=
  match Entry.readAll fs who dir with
  | .ok entries =>
    let page := Listing.render (Utf8.decodeLossy (Percent.decode path)) entries
    { status := 200
      headers := [("content-type", Bytes.ofString "text/html; charset=utf-8")]
      body := { content := Bytes.ofString page } }
  | .error _ => .plainText 404 "No permission to list directory"

/-- The answer to any request that is not forwarded. -/
def serve (config : FilesConfig) (fs : FileSystem) (who : Visitor) (request : Request) :
    Option Response :=
  let listed :=
    if config.directoryListing && (request.method == .get || request.method == .head) then
      listable? fs who config.root request.uri.path
    else none
  match listed with
  | some dir => some (listing fs who request.uri.path dir)
  | none => serveFile fs who config.root request

end Files

end IsoServer
