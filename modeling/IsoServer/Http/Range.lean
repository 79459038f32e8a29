-- Byte ranges. A range is asked for by its ends or by its distance from the end of the
-- file; a request is refused as a whole if one of its ranges is malformed, reversed, out
-- of bounds or overlaps another.
import IsoServer.Bytes

namespace IsoServer

/-- A range as it is asked for. -/
inductive RangeSpec where
  /-- From one index up to another. -/
  | between (first last : Nat)
  /-- From an index to the end. -/
  | onward (first : Nat)
  /-- A number of bytes at the end. -/
  | suffix (count : Nat)
  deriving DecidableEq, Repr

/-- The bytes from `first` up to and including `last`. -/
structure ByteRange where
  first : Nat
  last : Nat
  deriving DecidableEq, Repr

namespace RangeSpec

/-! ## Reading -/

/-- A number below 2^64 without a sign and without leading zeros. -/
def index? (s : Bytes) : Option Nat :=
  if s.length > 1 && s.head? == some 0x30 then none
  else match Bytes.decimal? s with
    | some n => if n < UInt64.size then some n else none
    | none => none

/-- One range. A suffix of no bytes is no range. -/
def parse? (s : Bytes) : Option RangeSpec :=
  match Bytes.splitOn 0x2D s with
  | [first, last] =>
    if first.isEmpty then
      match index? last with
      | some n => if n == 0 then none else some (.suffix n)
      | none => none
    else if last.isEmpty then (index? first).map .onward
    else
      match index? first, index? last with
      | some a, some b => some (.between a b)
      | _, _ => none
  | _ => none

/-- A range of a list, with at most one blank, which must stand in front. -/
def parseItem? (s : Bytes) : Option RangeSpec :=
  if (s.filter Bytes.isBlank).length > 1 || (s.getLast?.map Bytes.isBlank).getD false then none
  else parse? (Bytes.trimBy Bytes.isBlank s)

/-- A whole header value: the unit, and ranges with commas between them. -/
def parseList? (s : Bytes) : Option (List RangeSpec) :=
  match Bytes.dropStart? (Bytes.ofString "bytes=") s with
  | none => none
  | some rest =>
    if (rest.head?.map Bytes.isBlank).getD false then none
    else (Bytes.splitOn 0x2C rest).mapM parseItem?

/-! ## Fitting to a file -/

/-- The bytes of a file of the given size that a range covers. An end behind the file is drawn
back to its last byte. -/
def within? (size : Nat) : RangeSpec → Option ByteRange
  | .between first last => some ⟨first, min last (size - 1)⟩
  | .onward first => some ⟨first, size - 1⟩
  | .suffix count => if count > size then none else some ⟨size - count, size - 1⟩

end RangeSpec

namespace ByteRange

def overlaps (r s : ByteRange) : Bool := r.first ≤ s.last && s.first ≤ r.last

/-- Whether no two of the ranges overlap. -/
def disjoint : List ByteRange → Bool
  | [] => true
  | r :: rs => rs.all (!r.overlaps ·) && disjoint rs

/-- The ranges that a header value asks for, of a file of the given size. -/
def select? (value : Bytes) (size : Nat) : Option (List ByteRange) :=
  match RangeSpec.parseList? value with
  | none => none
  | some specs =>
    match specs.mapM (RangeSpec.within? size) with
    | none => none
    | some ranges =>
      if ranges.all (fun r => r.first ≤ r.last) && disjoint ranges then some ranges else none

/-- The number of bytes of a range. -/
def length (r : ByteRange) : Nat := r.last - r.first + 1

/-- The bytes of a range. -/
def cut (r : ByteRange) (content : Bytes) : Bytes := (content.drop r.first).take r.length

end ByteRange

end IsoServer
