-- Binary floating point numbers of 64 bits, as exact fractions. A quotient is rounded to
-- the nearest of them, a decimal is read in a few such steps, and each number is written
-- with the fewest digits that read back.

namespace IsoServer

/-- A finite number `significand * 2 ^ exponent`, or its negative. -/
structure Binary64 where
  negative : Bool
  significand : Nat
  exponent : Int
  deriving DecidableEq, Repr

namespace Binary64

/-! ## From a decimal -/

/-- The number of binary digits. -/
def bitLength (n : Nat) : Nat := if n = 0 then 0 else Nat.log2 n + 1

/-- Divides and rounds to the nearest whole number, halves to the even one. -/
def roundDiv (num den : Nat) : Nat :=
  let q := num / den
  let r := num % den
  if 2 * r < den then q
  else if 2 * r > den then q + 1
  else if q % 2 = 0 then q else q + 1

/-- The quotient `num / 2 ^ e / den`, rounded. -/
def scaled (num den : Nat) (e : Int) : Nat :=
  if e < 0 then roundDiv (num * Nat.pow 2 e.natAbs) den
  else roundDiv num (den * Nat.pow 2 e.toNat)

/-- Significands stay below this power of two. -/
def maxSignificand : Nat := 0x20000000000000

/-- The nearest number to `num / den`, with 53 significant bits and no exponent below -1074. -/
def ofRatio (negative : Bool) (num den : Nat) : Binary64 :=
  if num = 0 then ⟨negative, 0, 0⟩
  else
    let guess : Int := (bitLength num : Int) - bitLength den - 53
    let e := max guess (-1074)
    let m := scaled num den e
    if m < maxSignificand then ⟨negative, m, e⟩
    else
      let m' := scaled num den (e + 1)
      if m' < maxSignificand then ⟨negative, m', e + 1⟩ else ⟨negative, m' / 2, e + 2⟩

/-- The nearest number to `digits * 10 ^ power`. -/
def ofDecimal (negative : Bool) (digits : Nat) (power : Int) : Binary64 :=
  if power < 0 then ofRatio negative digits (Nat.pow 10 power.natAbs)
  else ofRatio negative (digits * Nat.pow 10 power.toNat) 1

/-! ## In steps -/

/-- The number as a fraction, without its sign. -/
def toRatio (x : Binary64) : Nat × Nat :=
  if 0 ≤ x.exponent then (x.significand * Nat.pow 2 x.exponent.toNat, 1)
  else (x.significand, Nat.pow 2 x.exponent.natAbs)

/-- The product, rounded. -/
def mul (x y : Binary64) : Binary64 :=
  ofRatio (x.negative != y.negative) (x.toRatio.1 * y.toRatio.1) (x.toRatio.2 * y.toRatio.2)

/-- The quotient, rounded. -/
def div (x y : Binary64) : Binary64 :=
  ofRatio (x.negative != y.negative) (x.toRatio.1 * y.toRatio.2) (x.toRatio.2 * y.toRatio.1)

/-- The numerator with the sign. -/
def signed (x : Binary64) : Int := if x.negative then -(x.toRatio.1 : Int) else x.toRatio.1

/-- The sum, rounded. -/
def add (x y : Binary64) : Binary64 :=
  let n := x.signed * y.toRatio.2 + y.signed * x.toRatio.2
  ofRatio (n < 0) n.natAbs (x.toRatio.2 * y.toRatio.2)

/-- Whether a number is larger than another one. -/
def gt (x y : Binary64) : Bool := x.signed * y.toRatio.2 > y.signed * x.toRatio.2

/-- Whether the number is below `2 ^ 1024`, where the finite ones end. -/
def isFinite (x : Binary64) : Bool := x.toRatio.1 / x.toRatio.2 < Nat.pow 2 1024

/-- The largest power of ten among the numbers. -/
def maxPower : Nat := 308

/-- A power of ten, rounded. -/
def tenTo (power : Nat) : Binary64 := ofRatio false (Nat.pow 10 power) 1

/-- `digits * 10 ^ power` for digits of 64 bits, rounded at every step: first the digits, then the
power of ten, then their product or quotient. A small power needs two quotients, and below that all
that is left is zero. None if the number would not be finite. -/
def ofParts? (negative : Bool) (digits : Nat) (power : Int) : Option Binary64 :=
  let whole := ofRatio negative digits 1
  if digits = 0 then some whole
  else if 0 ≤ power then
    if maxPower < power then none
    else
      let x := whole.mul (tenTo power.toNat)
      if x.isFinite then some x else none
  else if power.natAbs ≤ maxPower then some (whole.div (tenTo power.natAbs))
  else if power.natAbs ≤ 2 * maxPower then
    some ((whole.div (tenTo maxPower)).div (tenTo (power.natAbs - maxPower)))
  else some ⟨negative, 0, 0⟩

/-! ## Fewest digits -/

/-- Whether `digits * 10 ^ power` is rounded to the given number. -/
def readsBack (x : Binary64) (digits : Nat) (power : Int) : Bool :=
  let y := ofDecimal x.negative digits power
  let common := min x.exponent y.exponent
  x.significand * Nat.pow 2 (x.exponent - common).toNat ==
    y.significand * Nat.pow 2 (y.exponent - common).toNat

/-- The value over `10 ^ power`, rounded to a whole number. -/
def roundedAt (x : Binary64) (power : Int) : Nat :=
  let num := if 0 ≤ x.exponent then x.significand * Nat.pow 2 x.exponent.toNat else x.significand
  let den := if 0 ≤ x.exponent then 1 else Nat.pow 2 x.exponent.natAbs
  if 0 ≤ power then roundDiv num (den * Nat.pow 10 power.toNat)
  else roundDiv (num * Nat.pow 10 power.natAbs) den

/-- Without the zeros at the end of a whole number, each moved into the power of ten. -/
def dropZeros : Nat → Nat → Int → Nat × Int
  | 0, digits, power => (digits, power)
  | fuel + 1, digits, power =>
    if digits != 0 && digits % 10 == 0 then dropZeros fuel (digits / 10) (power + 1)
    else (digits, power)

/-- The power of ten of the leading digit plus one. -/
def magnitude (x : Binary64) : Int :=
  let whole := if 0 ≤ x.exponent then x.significand * Nat.pow 2 x.exponent.toNat
    else x.significand / Nat.pow 2 x.exponent.natAbs
  if whole != 0 then (Nat.toDigits 10 whole).length
  else
    -- below one: count the zeros behind the point
    let shifted := x.significand * Nat.pow 10 400 / Nat.pow 2 x.exponent.natAbs
    (Nat.toDigits 10 shifted).length - 400

/-- Tries `count`, `count + 1`, … significant digits until the number reads back. Of the points
of one grid the nearest comes first; the two beside it matter only where the numbers below lie
closer together than those above. -/
def shortestFrom (x : Binary64) : Nat → Nat → Nat × Int
  | 0, count => (roundedAt x (magnitude x - count), magnitude x - count)
  | fuel + 1, count =>
    let power := magnitude x - count
    let digits := roundedAt x power
    match [digits, digits + 1, digits - 1].find? (readsBack x · power) with
    | some found => (found, power)
    | none => shortestFrom x fuel (count + 1)

/-- The fewest digits and the power of ten that give the number back. -/
def shortest (x : Binary64) : Nat × Int :=
  if x.significand = 0 then (0, 0)
  else
    let (digits, power) := shortestFrom x 17 1
    dropZeros 20 digits power

/-! ## Text -/

/-- A row of zeros. -/
def zeros (n : Nat) : List Char := List.replicate n '0'

/-- An exponent with its sign. -/
def exponentText (e : Int) : List Char :=
  (if e < 0 then '-' else '+') :: (toString e.natAbs).toList

/-- The text of a number: positional while the point stands within sixteen digits to the right
or five zeros to the left of the leading digit, with a signed exponent otherwise. -/
def text (x : Binary64) : String :=
  let (digits, power) := x.shortest
  let ds := Nat.toDigits 10 digits
  let len : Int := ds.length
  let point := len + power
  let body : List Char :=
    if digits = 0 then ['0', '.', '0']
    else if 0 ≤ power && point ≤ 16 then ds ++ zeros power.toNat ++ ['.', '0']
    else if 0 < point && point ≤ 16 then ds.take point.toNat ++ ['.'] ++ ds.drop point.toNat
    else if -5 < point && point ≤ 0 then ['0', '.'] ++ zeros point.natAbs ++ ds
    else
      let e := exponentText (point - 1)
      match ds with
      | [d] => d :: 'e' :: e
      | d :: rest => d :: '.' :: rest ++ 'e' :: e
      | [] => []
  String.ofList (if x.negative then '-' :: body else body)

end Binary64

end IsoServer
