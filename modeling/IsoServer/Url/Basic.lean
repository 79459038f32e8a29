-- Addresses of resources on the web, taken apart.
import IsoServer.Net.IpAddress

namespace IsoServer

/-- The host of an address. -/
inductive Host where
  | domain (name : String)
  | ipv4 (address : Ipv4)
  | ipv6 (address : Ipv6)
  deriving DecidableEq

/-- The path of an address: a row of segments, or one piece without structure. -/
inductive UrlPath where
  | segments (names : List String)
  | rootless (text : String)
  deriving DecidableEq, Repr

/-- An address. User name, password, path, query and fragment are kept with their escapes. -/
structure Url where
  scheme : String
  username : String := ""
  password : Option String := none
  /-- The host behind two slashes; it may be an empty name. -/
  host : Option Host := none
  port : Option UInt16 := none
  path : UrlPath := .segments []
  query : Option String := none
  fragment : Option String := none
  deriving DecidableEq

/-- Why a text is not an address. -/
inductive UrlError where
  | emptyHost
  | invalidDomain
  | invalidPort
  | invalidIpv4
  | invalidIpv6
  | invalidHostCharacter
  | relativeWithoutBase
  deriving DecidableEq, Repr

/-- The text of an error. -/
def UrlError.message : UrlError → String
  | .emptyHost => "empty host"
  | .invalidDomain => "invalid international domain name"
  | .invalidPort => "invalid port number"
  | .invalidIpv4 => "invalid IPv4 address"
  | .invalidIpv6 => "invalid IPv6 address"
  | .invalidHostCharacter => "invalid domain character"
  | .relativeWithoutBase => "relative URL without a base"

namespace Url

/-! ## Schemes -/

/-- Schemes that always have a host and that take a backslash for a slash. -/
def isSpecial (scheme : String) : Bool :=
  ["http", "https", "ws", "wss", "ftp", "file"].contains scheme

/-- The port that a scheme uses if none is given. -/
def defaultPort? (scheme : String) : Option UInt16 :=
  if scheme == "http" || scheme == "ws" then some 80
  else if scheme == "https" || scheme == "wss" then some 443
  else if scheme == "ftp" then some 21
  else none

/-- The port to connect to. -/
def portOrDefault? (url : Url) : Option UInt16 := url.port.or (defaultPort? url.scheme)

end Url

/-! ## Text -/

/-- The text of a host, with brackets around the eight group form. -/
def Host.text : Host → String
  | .domain name => name
  | .ipv4 x => Bytes.asciiText x.text
  | .ipv6 x => "[" ++ Bytes.asciiText x.plainText ++ "]"

/-- The text of a path. -/
def UrlPath.text : UrlPath → String
  | .segments names => String.join (names.map ("/" ++ ·))
  | .rootless s => s

namespace Url

def hostText (url : Url) : String := (url.host.map Host.text).getD ""

/-- The host with the port, if it is not the usual one. -/
def hostAndPort (url : Url) : String :=
  url.hostText ++
    (match url.port with
      | some p => ":" ++ toString p.toNat
      | none => "")

/-- The path with the query. -/
def pathAndQuery (url : Url) : String :=
  url.path.text ++
    (match url.query with
      | some q => "?" ++ q
      | none => "")

/-- Without user name and password. -/
def withoutUser (url : Url) : Url := { url with username := "", password := none }

def withoutFragment (url : Url) : Url := { url with fragment := none }

/-- Without user name, password and fragment. -/
def bare (url : Url) : Url := url.withoutUser.withoutFragment

/-- The user name and the password in front of the host. -/
def userText (url : Url) : String :=
  match url.password with
  | some p => url.username ++ ":" ++ p ++ "@"
  | none => if url.username == "" then "" else url.username ++ "@"

/-- What stands between the scheme and the path. Without a host, a dot keeps a path that starts
with two slashes from looking like one. -/
def authorityText (url : Url) : String :=
  match url.host with
  | some _ => "//" ++ url.userText ++ url.hostAndPort
  | none => if url.path.text.toList.take 2 == ['/', '/'] then "/." else ""

/-- The text of an address. -/
def text (url : Url) : String :=
  url.scheme ++ ":" ++ url.authorityText ++ url.pathAndQuery ++
    (match url.fragment with
      | some f => "#" ++ f
      | none => "")

end Url

end IsoServer
