-- Hosts of addresses: numbers in several bases make a four part address, brackets hold
-- an eight group one, and everything else is a domain name, which is brought into ASCII.
import IsoServer.Text.Percent
import IsoServer.Text.Utf8
import IsoServer.Url.Basic
import IsoServer.Url.Domain

namespace IsoServer.Host

/-! ## Four part addresses -/

/-- The value of a digit in a base up to sixteen. -/
def digitIn? (base : Nat) (c : Char) : Option Nat :=
  match Text.hexDigit? c with
  | some d => if d < base then some d else none
  | none => none

/-- A part as a number: `0x` starts base sixteen and a zero base eight. -/
def ipv4Number? (cs : List Char) : Option Nat :=
  let digits := fun (base : Nat) (ds : List Char) =>
    (ds.mapM (digitIn? base)).map (Bytes.valueOf base)
  match cs with
  | [] => none
  | '0' :: 'x' :: ds => digits 16 ds
  | '0' :: 'X' :: ds => digits 16 ds
  | '0' :: d :: ds => digits 8 (d :: ds)
  | ds => digits 10 ds

/-- Whether a name ends in a number, so that it has to be an address. One empty label at the end
is not counted. -/
def endsInNumber (name : List Char) : Bool :=
  let last := match (Domain.labels name).reverse with
    | [] :: l :: _ => l
    | l :: _ => l
    | [] => []
  (!last.isEmpty && last.all Char.isDigit) || (ipv4Number? last).isSome

/-- The address that one to four numbers make; the last one fills all the bytes left over. -/
def ipv4OfNumbers? (ns : List Nat) : Option Ipv4 :=
  match ns.reverse with
  | [] => none
  | last :: before =>
    let front := before.reverse
    if front.any (255 < ·) || last ≥ Nat.pow 256 (4 - front.length) then none
    else
      some (.ofNat (last + Bytes.valueOf 256 front * Nat.pow 256 (4 - front.length)))

/-- Reads a four part address in the loose form. -/
def ipv4? (name : List Char) : Option Ipv4 :=
  let parts := Domain.labels name
  let parts := if parts.getLast? == some [] then parts.dropLast else parts
  if parts.length > 4 then none
  else (parts.mapM ipv4Number?).bind ipv4OfNumbers?

/-! ## Hosts -/

/-- The bytes of ASCII characters, and UTF-8 for all others. -/
def bytesOf (cs : List Char) : Bytes := cs.flatMap String.utf8EncodeChar

/-- What stands between brackets, if the text starts with one. -/
def bracketed? (cs : List Char) : Option (Except UrlError Host) :=
  match cs with
  | '[' :: rest =>
    if rest.getLast? == some ']' then
      match Ipv6.parse? (bytesOf rest.dropLast) with
      | some x => some (.ok (.ipv6 x))
      | none => some (.error .invalidIpv6)
    else some (.error .invalidIpv6)
  | _ => none

/-- The host of an address with a special scheme. -/
def parse (cs : List Char) : Except UrlError Host :=
  match bracketed? cs with
  | some r => r
  | none =>
    match Utf8.decode? (Percent.decode (bytesOf cs)) with
    | none => .error .invalidDomain
    | some decoded =>
      match Domain.toAscii? decoded.toList with
      | none => .error .invalidDomain
      | some [] => .error .emptyHost
      | some name =>
        if endsInNumber name then
          match ipv4? name with
          | some x => .ok (.ipv4 x)
          | none => .error .invalidIpv4
        else .ok (.domain (String.ofList name))

/-- Escapes control characters and everything outside ASCII. -/
def escapeControls (cs : List Char) : String :=
  Bytes.asciiText (Percent.encode (fun b => 0x20 ≤ b && b < 0x7F) (bytesOf cs))

/-- The host of an address with any other scheme: nothing is decoded or mapped. -/
def parseOther (cs : List Char) : Except UrlError Host :=
  match bracketed? cs with
  | some r => r
  | none =>
    let bad := fun (c : Char) =>
      c.toNat == 0 || c == '\t' || c == '\n' || c == '\r' || " #/:<>?@[\\]^|".toList.contains c
    if cs.any bad then .error .invalidHostCharacter
    else .ok (.domain (escapeControls cs))

end IsoServer.Host
