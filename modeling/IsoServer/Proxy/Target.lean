-- Targets of forwarded requests. The request path holds an address in Base64 behind a
-- fixed start.
import IsoServer.Base64
import IsoServer.Text.Utf8
import IsoServer.Url.Parse

namespace IsoServer.Proxy

/-- How the path of a forwarded request starts. -/
def pathStart : Bytes := Bytes.ofString "/proxy/"

/-- The encoded target in a request path. The start is compared byte by byte, and nothing is
decoded before. -/
def segment? (path : Bytes) : Option Bytes := Bytes.dropStart? pathStart path

/-- Why a segment is not a target. -/
inductive TargetError where
  | invalidBase64 (cause : Base64.DecodeError)
  | notAscii
  | invalidUrl (cause : UrlError)
  deriving DecidableEq, Repr

/-- The text of an error. -/
def TargetError.message : TargetError → String
  | .invalidBase64 cause => "proxy target is not valid base64: " ++ cause.message
  | .notAscii => "proxy target is not ASCII"
  | .invalidUrl cause => "proxy target is not a valid URL: " ++ cause.message

/-- The text that a segment encodes, which must be ASCII. -/
def decodeTarget (segment : Bytes) : Except TargetError String :=
  match Base64.decode segment with
  | .error e => .error (.invalidBase64 e)
  | .ok bytes =>
    if bytes.all Bytes.isAscii then .ok (Bytes.asciiText bytes) else .error .notAscii

/-- The address that a segment encodes. -/
def readTarget (segment : Bytes) : Except TargetError Url :=
  match decodeTarget segment with
  | .error e => .error e
  | .ok target =>
    match Url.parse target with
    | .error e => .error (.invalidUrl e)
    | .ok url => .ok url

end IsoServer.Proxy
