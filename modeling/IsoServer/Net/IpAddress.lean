-- Internet addresses and their text. Reading is strict: no leading zeros in the four
-- part form, at most four digits in a group, and one gap that stands for at least one
-- group of zeros. Writing gives the canonical form, so each address has one text that
-- reads back as it.
import IsoServer.Bytes

namespace IsoServer

/-- An address of four bytes. -/
structure Ipv4 where
  a : UInt8
  b : UInt8
  c : UInt8
  d : UInt8
  deriving DecidableEq, Repr

/-- An address of eight groups of sixteen bits. -/
structure Ipv6 where
  groups : List UInt16
  length_eq : groups.length = 8
  deriving DecidableEq

/-- An address of either kind. -/
inductive IpAddress where
  | v4 (address : Ipv4)
  | v6 (address : Ipv6)
  deriving DecidableEq

/-- An address and a port to listen on or to connect to. -/
structure SocketAddress where
  ip : IpAddress
  port : UInt16
  deriving DecidableEq

/-! ## Four parts -/

namespace Ipv4

/-- One part: up to three digits, below 256, without a leading zero. -/
def part? (s : Bytes) : Option UInt8 :=
  if s.length > 3 || (s.length > 1 && s.head? == some 0x30) then none
  else match Bytes.decimal? s with
    | some n => if n < 256 then some (UInt8.ofNat n) else none
    | none => none

/-- Reads four parts with dots between them. -/
def parse? (s : Bytes) : Option Ipv4 :=
  match Bytes.splitOn 0x2E s with
  | [a, b, c, d] =>
    match part? a, part? b, part? c, part? d with
    | some a, some b, some c, some d => some ⟨a, b, c, d⟩
    | _, _, _, _ => none
  | _ => none

/-- Four decimal parts with dots between them. -/
def text (x : Ipv4) : Bytes :=
  Bytes.join [0x2E] ([x.a, x.b, x.c, x.d].map fun p => Bytes.decimal p.toNat)

/-- The address as one number. -/
def toNat (x : Ipv4) : Nat :=
  ((x.a.toNat * 256 + x.b.toNat) * 256 + x.c.toNat) * 256 + x.d.toNat

/-- The address of a number below 2^32. -/
def ofNat (n : Nat) : Ipv4 :=
  ⟨UInt8.ofNat (n / 16777216), UInt8.ofNat (n / 65536 % 256), UInt8.ofNat (n / 256 % 256),
    UInt8.ofNat (n % 256)⟩

end Ipv4

/-! ## Eight groups -/

namespace Ipv6

/-- One group: one to four hexadecimal digits of either case. -/
def group? (s : Bytes) : Option UInt16 :=
  if s.isEmpty || s.length > 4 then none
  else (s.mapM Bytes.hexValue?).map fun ds => UInt16.ofNat (Bytes.valueOf 16 ds)

/-- The two groups that a four part address fills. -/
def ofIpv4 (x : Ipv4) : List UInt16 :=
  [UInt16.ofNat (x.a.toNat * 256 + x.b.toNat), UInt16.ofNat (x.c.toNat * 256 + x.d.toNat)]

/-- A row of groups. Only the last one may be in four part form, and only if `dotted` allows. -/
def groups? (dotted : Bool) : List Bytes → Option (List UInt16)
  | [] => some []
  | [last] =>
    match group? last with
    | some g => some [g]
    | none => if dotted then (Ipv4.parse? last).map ofIpv4 else none
  | field :: fields =>
    match group? field, groups? dotted fields with
    | some g, some gs => some (g :: gs)
    | _, _ => none

/-- The text of a row of groups, cut at its colons. An empty text is an empty row. -/
def row? (dotted : Bool) (s : Bytes) : Option (List UInt16) :=
  if s.isEmpty then some [] else groups? dotted (Bytes.splitOn 0x3A s)

/-- The parts before and behind the first pair of colons. -/
def cutAtGap : Bytes → Option (Bytes × Bytes)
  | [] => none
  | b :: rest =>
    match b, rest with
    | 0x3A, 0x3A :: tail => some ([], tail)
    | _, _ => (cutAtGap rest).map fun (head, tail) => (b :: head, tail)

/-- Eight groups, if there are eight. -/
def ofGroups? (gs : List UInt16) : Option Ipv6 :=
  if h : gs.length = 8 then some ⟨gs, h⟩ else none

/-- Reads eight groups, or fewer than eight around one gap. -/
def parse? (s : Bytes) : Option Ipv6 :=
  match cutAtGap s with
  | none => if s.isEmpty then none else (row? true s).bind ofGroups?
  | some (head, tail) =>
    match row? false head, row? true tail with
    | some hs, some ts =>
      if hs.length + ts.length < 8 then
        ofGroups? (hs ++ List.replicate (8 - hs.length - ts.length) 0 ++ ts)
      else none
    | _, _ => none

/-! ### Writing -/

/-- A group in small hexadecimal digits, without leading zeros. -/
def groupText (g : UInt16) : Bytes := Bytes.ofString (String.ofList (Nat.toDigits 16 g.toNat))

/-- The number of zero groups that the row starts with. -/
def zeroRun (gs : List UInt16) : Nat := (gs.takeWhile (· == 0)).length

/-- The first longest run of zero groups, as its start and its length. -/
def longestRun : Nat → List UInt16 → Nat × Nat
  | _, [] => (0, 0)
  | start, g :: gs =>
    let later := longestRun (start + 1) gs
    let here := zeroRun (g :: gs)
    if here ≥ later.2 && here > 0 then (start, here) else later

/-- Groups with colons between them, and a pair of colons for the first longest run of two or
more zero groups. -/
def plainText (x : Ipv6) : Bytes :=
  let run := longestRun 0 x.groups
  let texts := fun gs => Bytes.join [0x3A] (gs.map groupText)
  if run.2 < 2 then texts x.groups
  else texts (x.groups.take run.1) ++ [0x3A, 0x3A] ++ texts (x.groups.drop (run.1 + run.2))

/-- The four part address that a mapped address carries. -/
def mapped? (x : Ipv6) : Option Ipv4 :=
  match x.groups with
  | [0, 0, 0, 0, 0, 0xFFFF, g, h] =>
    some ⟨UInt8.ofNat (g.toNat / 256), UInt8.ofNat (g.toNat % 256), UInt8.ofNat (h.toNat / 256),
      UInt8.ofNat (h.toNat % 256)⟩
  | _ => none

/-- The canonical text; a mapped address ends in its four part form. -/
def text (x : Ipv6) : Bytes :=
  match x.mapped? with
  | some v4 => Bytes.ofString "::ffff:" ++ v4.text
  | none => x.plainText

end Ipv6

/-! ## Either kind -/

namespace IpAddress

/-- Reads an address of either kind. -/
def parse? (s : Bytes) : Option IpAddress :=
  match Ipv4.parse? s with
  | some x => some (.v4 x)
  | none => (Ipv6.parse? s).map .v6

def text : IpAddress → Bytes
  | .v4 x => x.text
  | .v6 x => x.text

end IpAddress

/-- An address and a port, with brackets around the eight group form. -/
def SocketAddress.text (s : SocketAddress) : Bytes :=
  let ip := match s.ip with
    | .v4 x => x.text
    | .v6 x => 0x5B :: (x.text ++ [0x5D])
  ip ++ 0x3A :: Bytes.decimal s.port.toNat

end IsoServer
