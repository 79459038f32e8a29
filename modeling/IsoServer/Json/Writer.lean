-- Writing JSON text, without blanks. A value is always one line.
import IsoServer.Json.Basic

namespace IsoServer.Json

/-- The four hexadecimal digits of a code point below 0x10000. -/
def fourHex (n : Nat) : List Char :=
  let ds := Nat.toDigits 16 n
  List.replicate (4 - ds.length) '0' ++ ds

/-- Control characters, and characters at which some readers end a line. -/
def breaksLine (c : Char) : Bool :=
  c.toNat < 0x20 || (0x7F ≤ c.toNat && c.toNat < 0xA0) || c.toNat == 0x2028 || c.toNat == 0x2029

/-- One character of a string. -/
def writeChar (c : Char) : List Char :=
  if c == '"' || c == '\\' then ['\\', c]
  else if breaksLine c then ['\\', 'u'] ++ fourHex c.toNat
  else [c]

def writeString (s : String) : List Char := '"' :: (s.toList.flatMap writeChar ++ ['"'])

/-- Puts a separator between any two of the parts. -/
def separated (sep : Char) : List (List Char) → List Char
  | [] => []
  | [part] => part
  | part :: parts => part ++ sep :: separated sep parts

mutual

def write : Json → List Char
  | .null => ['n', 'u', 'l', 'l']
  | .bool true => ['t', 'r', 'u', 'e']
  | .bool false => ['f', 'a', 'l', 's', 'e']
  | .integer n => (toString n).toList
  | .float x => x.text.toList
  | .text s => writeString s
  | .array items => '[' :: (separated ',' (writeItems items) ++ [']'])
  | .object members => '\x7b' :: (separated ',' (writeMembers members) ++ ['\x7d'])

def writeItems : List Json → List (List Char)
  | [] => []
  | item :: items => write item :: writeItems items

def writeMembers : List (String × Json) → List (List Char)
  | [] => []
  | (name, value) :: members =>
    (writeString name ++ ':' :: write value) :: writeMembers members

end

/-- The text of a value. -/
def render (value : Json) : String := String.ofList (write value)

end IsoServer.Json
