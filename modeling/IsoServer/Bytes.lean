-- Byte strings: what travels on a connection, what a file holds and what a path is
-- made of. The functions here know the ASCII part of a byte only.

namespace IsoServer

/-- A byte string. -/
abbrev Bytes := List UInt8

namespace Bytes

/-- The bytes of a text in UTF-8. -/
def ofString (s : String) : Bytes := s.toList.flatMap String.utf8EncodeChar

/-- The text of bytes below 0x80. -/
def asciiText (s : Bytes) : String := String.ofList (s.map fun b => Char.ofNat b.toNat)

/-! ## ASCII classes -/

def isAscii (b : UInt8) : Bool := b < 0x80

def isDigit (b : UInt8) : Bool := 0x30 ≤ b && b ≤ 0x39

def isUpper (b : UInt8) : Bool := 0x41 ≤ b && b ≤ 0x5A

def isLower (b : UInt8) : Bool := 0x61 ≤ b && b ≤ 0x7A

def isAlpha (b : UInt8) : Bool := isUpper b || isLower b

def isAlphanumeric (b : UInt8) : Bool := isAlpha b || isDigit b

/-- A blank of a header line: a space or a tab. -/
def isBlank (b : UInt8) : Bool := b == 0x20 || b == 0x09

/-- A byte of a token: the alphabet of header names and of methods. -/
def isToken (b : UInt8) : Bool :=
  isAlphanumeric b || [0x21, 0x23, 0x24, 0x25, 0x26, 0x27, 0x2A, 0x2B, 0x2D, 0x2E, 0x5E, 0x5F,
    0x60, 0x7C, 0x7E].contains b

/-- Capital letters become small ones, and every other byte stays as it is. -/
def toLower (b : UInt8) : UInt8 := if isUpper b then b + 0x20 else b

/-! ## Digits -/

/-- The value of a hexadecimal digit of either case. -/
def hexValue? (b : UInt8) : Option Nat :=
  if isDigit b then some (b.toNat - 0x30)
  else if 0x41 ≤ b && b ≤ 0x46 then some (b.toNat - 0x37)
  else if 0x61 ≤ b && b ≤ 0x66 then some (b.toNat - 0x57)
  else none

/-- The hexadecimal digit for a value below sixteen, in capitals. -/
def hexUpper (n : Nat) : UInt8 := if n < 10 then UInt8.ofNat (0x30 + n) else UInt8.ofNat (0x37 + n)

/-- The hexadecimal digit for a value below sixteen, in small letters. -/
def hexLower (n : Nat) : UInt8 := if n < 10 then UInt8.ofNat (0x30 + n) else UInt8.ofNat (0x57 + n)

/-- The decimal digits of a number, without leading zeros. -/
def decimal (n : Nat) : Bytes := ofString (String.ofList (Nat.toDigits 10 n))

/-- The number that a row of digits denotes in the given base. -/
def valueOf (base : Nat) (digits : List Nat) : Nat := digits.foldl (fun n d => n * base + d) 0

/-- Reads one or more decimal digits and nothing else. -/
def decimal? (s : Bytes) : Option Nat :=
  if s.isEmpty || !s.all isDigit then none
  else some (valueOf 10 (s.map fun b => b.toNat - 0x30))

/-! ## Cutting -/

/-- The pieces between the separators; there is one more piece than separators. -/
def splitOn (sep : UInt8) : Bytes → List Bytes
  | [] => [[]]
  | b :: rest =>
    if b == sep then [] :: splitOn sep rest
    else match splitOn sep rest with
      | [] => [[b]]
      | piece :: pieces => (b :: piece) :: pieces

/-- What follows the given start of a byte string. -/
def dropStart? : Bytes → Bytes → Option Bytes
  | [], s => some s
  | _ :: _, [] => none
  | p :: ps, b :: s => if p == b then dropStart? ps s else none

/-- Whether the last byte is the given one. -/
def endsWith (s : Bytes) (b : UInt8) : Bool := s.getLast? == some b

/-- Without the bytes of a class at both ends. -/
def trimBy (p : UInt8 → Bool) (s : Bytes) : Bytes :=
  ((s.dropWhile p).reverse.dropWhile p).reverse

/-- Joins pieces with a separator between any two. -/
def join (sep : Bytes) : List Bytes → Bytes
  | [] => []
  | [piece] => piece
  | piece :: pieces => piece ++ sep ++ join sep pieces

end Bytes

end IsoServer
