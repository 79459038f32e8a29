-- UTF-8: a byte string falls into pieces, each either one character or a stretch that
-- is not the start of any. Strict reading wants characters only; tolerant reading puts
-- a replacement character for every other piece.
import IsoServer.Bytes

namespace IsoServer.Utf8

/-! ## Byte classes -/

/-- A continuation byte. -/
def isTail (b : UInt8) : Bool := 0x80 ≤ b && b ≤ 0xBF

/-- The first byte of a two byte character. -/
def leadsTwo (b : UInt8) : Bool := 0xC2 ≤ b && b ≤ 0xDF

/-- The first two bytes of a three byte character: no overlong forms, no surrogates. -/
def leadsThree (b₀ b₁ : UInt8) : Bool :=
  (b₀ == 0xE0 && 0xA0 ≤ b₁ && b₁ ≤ 0xBF) ||
  (((0xE1 ≤ b₀ && b₀ ≤ 0xEC) || b₀ == 0xEE || b₀ == 0xEF) && isTail b₁) ||
  (b₀ == 0xED && 0x80 ≤ b₁ && b₁ ≤ 0x9F)

/-- The first two bytes of a four byte character: no overlong forms, nothing past U+10FFFF. -/
def leadsFour (b₀ b₁ : UInt8) : Bool :=
  (b₀ == 0xF0 && 0x90 ≤ b₁ && b₁ ≤ 0xBF) ||
  (0xF1 ≤ b₀ && b₀ ≤ 0xF3 && isTail b₁) ||
  (b₀ == 0xF4 && 0x80 ≤ b₁ && b₁ ≤ 0x8F)

/-- The payload of a continuation byte. -/
def tailBits (b : UInt8) : Nat := b.toNat - 0x80

/-! ## Reading -/

/-- The pieces of a byte string. A piece that starts like a character but does not go on
like one ends before the first byte that does not fit. -/
def pieces : Bytes → List (Option Char)
  | [] => []
  | b₀ :: r₀ =>
    if b₀ < 0x80 then some (Char.ofNat b₀.toNat) :: pieces r₀
    else match r₀ with
      | [] => [none]
      | b₁ :: r₁ =>
        if leadsTwo b₀ then
          if isTail b₁ then
            some (Char.ofNat ((b₀.toNat - 0xC0) * 64 + tailBits b₁)) :: pieces r₁
          else none :: pieces (b₁ :: r₁)
        else if leadsThree b₀ b₁ then
          match r₁ with
          | [] => [none]
          | b₂ :: r₂ =>
            if isTail b₂ then
              some (Char.ofNat ((b₀.toNat - 0xE0) * 4096 + tailBits b₁ * 64 + tailBits b₂)) ::
                pieces r₂
            else none :: pieces (b₂ :: r₂)
        else if leadsFour b₀ b₁ then
          match r₁ with
          | [] => [none]
          | b₂ :: r₂ =>
            if isTail b₂ then
              match r₂ with
              | [] => [none]
              | b₃ :: r₃ =>
                if isTail b₃ then
                  some (Char.ofNat ((b₀.toNat - 0xF0) * 262144 + tailBits b₁ * 4096 +
                    tailBits b₂ * 64 + tailBits b₃)) :: pieces r₃
                else none :: pieces (b₃ :: r₃)
            else none :: pieces (b₂ :: r₂)
        else none :: pieces (b₁ :: r₁)

/-- The text of a byte string, if it is UTF-8. -/
def decode? (s : Bytes) : Option String := ((pieces s).mapM id).map String.ofList

/-- The text of a byte string, with U+FFFD for every piece that is not UTF-8. -/
def decodeLossy (s : Bytes) : String :=
  String.ofList ((pieces s).map fun piece => piece.getD (Char.ofNat 0xFFFD))

/-- Whether a byte string is UTF-8. -/
def isValid (s : Bytes) : Bool := (pieces s).all Option.isSome

end IsoServer.Utf8
