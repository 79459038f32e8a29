-- Base64 with the standard alphabet. Written forms are padded to whole groups of four
-- and leave the unused bits of the last symbol zero; reading accepts nothing else and
-- says what is wrong first.
import IsoServer.Bytes

namespace IsoServer.Base64

/-! ## The alphabet -/

/-- The symbol for a value below 64. -/
def symbol (n : Nat) : UInt8 :=
  if n < 26 then UInt8.ofNat (0x41 + n)
  else if n < 52 then UInt8.ofNat (0x61 + (n - 26))
  else if n < 62 then UInt8.ofNat (0x30 + (n - 52))
  else if n == 62 then 0x2B
  else 0x2F

/-- The value of a symbol. -/
def value? (b : UInt8) : Option Nat :=
  if Bytes.isUpper b then some (b.toNat - 0x41)
  else if Bytes.isLower b then some (b.toNat - 0x61 + 26)
  else if Bytes.isDigit b then some (b.toNat - 0x30 + 52)
  else if b == 0x2B then some 62
  else if b == 0x2F then some 63
  else none

/-- The padding sign. -/
def pad : UInt8 := 0x3D

/-! ## Writing -/

/-- The written form of a byte string. -/
def encode : Bytes → Bytes
  | [] => []
  | [a] => [symbol (a.toNat / 4), symbol (a.toNat % 4 * 16), pad, pad]
  | [a, b] =>
    [symbol (a.toNat / 4), symbol (a.toNat % 4 * 16 + b.toNat / 16),
      symbol (b.toNat % 16 * 4), pad]
  | a :: b :: c :: rest =>
    symbol (a.toNat / 4) :: symbol (a.toNat % 4 * 16 + b.toNat / 16) ::
      symbol (b.toNat % 16 * 4 + c.toNat / 64) :: symbol (c.toNat % 64) :: encode rest

/-! ## Reading -/

/-- Why a byte string is not a written form. -/
inductive DecodeError where
  /-- A byte that cannot stand where it stands. -/
  | invalidSymbol (byte : UInt8) (offset : Nat)
  /-- The last symbol has bits set that no byte needs. -/
  | invalidLastSymbol (byte : UInt8) (offset : Nat)
  /-- A single symbol is left over at the end. -/
  | invalidLength (length : Nat)
  /-- The last group is not filled up with padding signs. -/
  | invalidPadding
  deriving DecidableEq, Repr

/-- The text of an error. -/
def DecodeError.message : DecodeError → String
  | .invalidSymbol byte offset => s!"Invalid symbol {byte.toNat}, offset {offset}."
  | .invalidLastSymbol byte offset => s!"Invalid last symbol {byte.toNat}, offset {offset}."
  | .invalidLength length => s!"Invalid input length: {length}"
  | .invalidPadding => "Invalid padding"

/-- The first symbol of the last group: groups hold four symbols, and the last one is never
empty. -/
def tailStart (s : Bytes) : Nat := (s.length - 1) / 4 * 4

/-- The values of a row of symbols, or the first byte that is none. -/
def values (offset : Nat) : Bytes → Except DecodeError (List Nat)
  | [] => .ok []
  | b :: rest =>
    match value? b with
    | none => .error (.invalidSymbol b offset)
    | some v => (values (offset + 1) rest).map (v :: ·)

/-- The bytes of whole groups of four values. -/
def join : List Nat → Bytes
  | a :: b :: c :: d :: rest =>
    UInt8.ofNat (a * 4 + b / 16) :: UInt8.ofNat (b % 16 * 16 + c / 4) ::
      UInt8.ofNat (c % 4 * 64 + d) :: join rest
  | _ => []

/-- The last group, byte by byte: its values, and the number of padding signs behind them.
`firstPad` is where the padding began, if it did. -/
def tailValues (offset : Nat) (index : Nat) (firstPad : Option Nat) :
    Bytes → Except DecodeError (List Nat × Nat)
  | [] => .ok ([], 0)
  | b :: rest =>
    if b == pad then
      if index < 2 then .error (.invalidSymbol b offset)
      else
        (tailValues (offset + 1) (index + 1) (some (firstPad.getD offset)) rest).map
          fun (vs, pads) => (vs, pads + 1)
    else
      match firstPad with
      | some p => .error (.invalidSymbol pad p)
      | none =>
        match value? b with
        | none => .error (.invalidSymbol b offset)
        | some v =>
          (tailValues (offset + 1) (index + 1) none rest).map fun (vs, pads) => (v :: vs, pads)

/-- The bytes of the last group, which starts at `start`. -/
def decodeTail (start : Nat) (tail : Bytes) : Except DecodeError Bytes :=
  match tailValues start 0 none tail with
  | .error e => .error e
  | .ok (vs, pads) =>
    match vs with
    | [] => .ok []
    | [_] => .error (.invalidLength (start + 1))
    | [a, b] =>
      if pads != 2 then .error .invalidPadding
      else if b % 16 != 0 then .error (.invalidLastSymbol (tail.getD 1 0) (start + 1))
      else .ok [UInt8.ofNat (a * 4 + b / 16)]
    | [a, b, c] =>
      if pads != 1 then .error .invalidPadding
      else if c % 4 != 0 then .error (.invalidLastSymbol (tail.getD 2 0) (start + 2))
      else .ok [UInt8.ofNat (a * 4 + b / 16), UInt8.ofNat (b % 16 * 16 + c / 4)]
    | vs => .ok (join vs)

/-- The bytes that a written form stands for. A left-over last byte is looked at first, then
the whole groups from the start, then the last group. -/
def decode (s : Bytes) : Except DecodeError Bytes :=
  match s.getLast? with
  | none => .ok []
  | some last =>
    if s.length % 4 == 1 && last != pad && (value? last).isNone then
      .error (.invalidSymbol last (s.length - 1))
    else
      let start := tailStart s
      match values 0 (s.take start) with
      | .error e => .error e
      | .ok vs => (decodeTail start (s.drop start)).map (join vs ++ ·)

end IsoServer.Base64
