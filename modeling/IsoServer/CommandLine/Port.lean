-- Reading a port number from the command line: an optional sign and digits, which are read
-- as a number of 64 bits before the range of ports is checked.
import IsoServer.Bytes

namespace IsoServer.CommandLine

/-- Why a text is not a port. -/
inductive PortError where
  | empty
  | invalidDigit
  | tooLarge
  | tooSmall
  | outOfRange (value : Int)
  deriving DecidableEq, Repr

/-- The text of an error. -/
def PortError.message : PortError → String
  | .empty => "cannot parse integer from empty string"
  | .invalidDigit => "invalid digit found in string"
  | .tooLarge => "number too large to fit in target type"
  | .tooSmall => "number too small to fit in target type"
  | .outOfRange value => toString value ++ " is not in 0..=65535"

/-- Reads digits one by one, up to a bound that a value may reach. The first fault counts: a byte
that is no digit, or a value beyond the bound. -/
def readDigits (bound : Nat) (overflow : PortError) : Nat → Bytes → Except PortError Nat
  | value, [] => .ok value
  | value, b :: rest =>
    if !Bytes.isDigit b then .error .invalidDigit
    else
      let next := value * 10 + (b.toNat - 0x30)
      if bound < next then .error overflow else readDigits bound overflow next rest

/-- The largest number of 64 bits with a sign. -/
def maxInteger : Nat := 0x7FFFFFFFFFFFFFFF

/-- A number of 64 bits with an optional sign. -/
def readInteger (s : Bytes) : Except PortError Int :=
  match s with
  | [] => .error .empty
  | [b] => if Bytes.isDigit b then .ok (b.toNat - 0x30 : Nat) else .error .invalidDigit
  | 0x2D :: digits => (readDigits (maxInteger + 1) .tooSmall 0 digits).map fun n => -(n : Int)
  | 0x2B :: digits => (readDigits maxInteger .tooLarge 0 digits).map Int.ofNat
  | digits => (readDigits maxInteger .tooLarge 0 digits).map Int.ofNat

/-- A port. -/
def readPort (s : String) : Except PortError UInt16 :=
  match readInteger (Bytes.ofString s) with
  | .error e => .error e
  | .ok n => if 0 ≤ n ∧ n < 65536 then .ok (UInt16.ofNat n.toNat) else .error (.outOfRange n)

end IsoServer.CommandLine
