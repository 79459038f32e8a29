-- Header fields: names without case, each with its values in order.
import IsoServer.Bytes

namespace IsoServer

/-- Header fields in the order in which they were added; names are in small letters. -/
abbrev Headers := List (String × Bytes)

/-- Why a field cannot be sent. -/
inductive HeaderError where
  | invalidName
  | invalidValue
  deriving DecidableEq, Repr

def HeaderError.message : HeaderError → String
  | .invalidName => "invalid HTTP header name"
  | .invalidValue => "failed to parse header value"

namespace Headers

/-! ## Names and values -/

/-- Whether a byte may stand in a value. -/
def isValueByte (b : UInt8) : Bool := (0x20 ≤ b && b != 0x7F) || b == 0x09

/-- Whether a byte string is a value. -/
def isValue (s : Bytes) : Bool := s.all isValueByte

/-- A value as text, if all of it can be seen. -/
def visible? (s : Bytes) : Option Bytes :=
  if s.all fun b => (0x20 ≤ b && b < 0x7F) || b == 0x09 then some s else none

/-- The longest name. -/
def maxNameLength : Nat := 65535

/-- A name without its case, if it is one. -/
def name? (s : String) : Option String :=
  let bytes := Bytes.ofString s
  if bytes.isEmpty || maxNameLength < bytes.length || !bytes.all Bytes.isToken then none
  else some (String.ofList (s.toList.map Char.toLower))

/-! ## Fields -/

/-- All values of a name, in order. -/
def values (name : String) (headers : Headers) : List Bytes :=
  (headers.filter (·.1 == name)).map (·.2)

/-- The first value of a name. -/
def get? (name : String) (headers : Headers) : Option Bytes := headers.lookup name

def contains (name : String) (headers : Headers) : Bool := headers.any (·.1 == name)

/-- Adds a value behind those that a name has. -/
def add (name : String) (value : Bytes) (headers : Headers) : Headers := headers ++ [(name, value)]

/-- Gives a name one value in place of all it had. -/
def set (name : String) (value : Bytes) (headers : Headers) : Headers :=
  headers.filter (·.1 != name) ++ [(name, value)]

/-- Checks a name and a value and adds them. -/
def add? (name : String) (value : Bytes) (headers : Headers) : Except HeaderError Headers :=
  match name? name with
  | none => .error .invalidName
  | some name => if isValue value then .ok (headers.add name value) else .error .invalidValue

end Headers

end IsoServer
