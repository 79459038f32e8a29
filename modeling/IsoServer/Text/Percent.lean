-- Percent escapes: a byte is written as `%` and two hexadecimal digits. Reading undoes
-- the escapes once and leaves everything that is not an escape alone.
import IsoServer.Bytes

namespace IsoServer.Percent

/-- One escaped byte. -/
def escapeByte (b : UInt8) : Bytes :=
  [0x25, Bytes.hexUpper (b.toNat / 16), Bytes.hexUpper (b.toNat % 16)]

/-- Escapes every byte outside the class `keep`. -/
def encode (keep : UInt8 → Bool) (s : Bytes) : Bytes :=
  s.flatMap fun b => if keep b then [b] else escapeByte b

/-- Undoes the escapes; a `%` without two hexadecimal digits behind it stands for itself. -/
def decode : Bytes → Bytes
  | [] => []
  | b :: rest =>
    if b == 0x25 then
      match rest with
      | h :: l :: rest' =>
        match Bytes.hexValue? h, Bytes.hexValue? l with
        | some hi, some lo => UInt8.ofNat (hi * 16 + lo) :: decode rest'
        | _, _ => b :: decode (h :: l :: rest')
      | [l] => b :: decode [l]
      | [] => [b]
    else b :: decode rest

end IsoServer.Percent
