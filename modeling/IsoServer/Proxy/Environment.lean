-- Proxies that the environment names: variables say through which hosts plain and secure
-- requests are sent, and which hosts are reached without them.
import IsoServer.Base64
import IsoServer.Http.Uri
import IsoServer.Net.IpAddress
import IsoServer.Text.Percent

namespace IsoServer.Proxy

/-- The variables that are set. -/
abbrev Environment := List (String × String)

/-- A host through which requests are sent. -/
structure Gateway where
  host : Bytes
  port : UInt16
  /-- The credentials that go with each request. -/
  authorization : Option Bytes := none
  /-- Whether the way to it is encrypted. -/
  secure : Bool := false
  deriving DecidableEq, Repr

/-- Hosts that are reached directly. -/
inductive Exemption where
  | address (ip : IpAddress)
  | network (ip : IpAddress) (bits : Nat)
  | domain (name : Bytes)

/-! ## Credentials -/

/-- The value of a field with a user name and a password. -/
def basicCredentials (user password : Bytes) : Bytes :=
  Bytes.ofString "Basic " ++ Base64.encode (user ++ 0x3A :: password)

/-- The parts before and behind the first separator. -/
def cutFirst (sep : UInt8) (s : Bytes) : Option (Bytes × Bytes) :=
  match s.dropWhile (· != sep) with
  | _ :: rest => some (s.takeWhile (· != sep), rest)
  | [] => none

/-! ## Gateways -/

/-- A port, perhaps with a plus sign in front. -/
def port? (s : Bytes) : Option UInt16 :=
  match Bytes.decimal? (if s.head? == some 0x2B then s.tail else s) with
  | some p => if p < 65536 then some (UInt16.ofNat p) else none
  | none => none

/-- The host of an address, and the port if a valid one is given. -/
def hostPort (address : Bytes) : Bytes × Option UInt16 :=
  let tail := (address.reverse.takeWhile fun b => b != 0x3A && b != 0x5D).reverse
  let front := address.take (address.length - tail.length)
  if front.getLast? == some 0x3A then (front.dropLast, port? tail) else (address, none)

/-- The text of escaped bytes, with replacement characters for what is not text. -/
def unescaped (s : Bytes) : Bytes := Bytes.ofString (Utf8.decodeLossy (Percent.decode s))

/-- The gateway that the value of a variable names. Without a scheme it is taken to be in the
clear, and a path is left out of account. Gateways of another kind are spoken to as if they were
in the clear, but without credentials. -/
def Gateway.parse? (value : String) : Option Gateway :=
  match Uri.parse (Bytes.ofString value) with
  | .error _ => none
  | .ok uri =>
    let scheme := uri.scheme.getD (Bytes.ofString "http")
    let web := ["http", "https"].map Bytes.ofString
    let others := ["socks4", "socks4a", "socks5", "socks5h"].map Bytes.ofString
    if !(web ++ others).contains scheme then none
    else
      match uri.authority with
      | none => none
      | some address =>
        let (credentials, address) := match cutFirst 0x40 address with
          | none => (none, address)
          | some (info, address) =>
            let (user, password) := (cutFirst 0x3A info).getD (info, [])
            (some (basicCredentials (unescaped user) (unescaped password)), address)
        let secure := scheme == Bytes.ofString "https"
        let (host, port) := hostPort address
        some
          { host
            port := port.getD (if secure then 443 else 80)
            authorization := if web.contains scheme then credentials else none
            secure }

/-! ## Exemptions -/

/-- The bits of an address, the highest first. -/
def bitsOf (ip : IpAddress) : List Bool :=
  let bits := fun (width n : Nat) => (List.range width).map fun i => n.testBit (width - 1 - i)
  match ip with
  | .v4 x => bits 32 x.toNat
  | .v6 x => x.groups.flatMap fun g => bits 16 g.toNat

/-- An entry of the list of exempt hosts: an address, a network or the end of a domain name. -/
def Exemption.parse? (entry : Bytes) : Option Exemption :=
  let network := (cutFirst 0x2F entry).bind fun (front, bits) =>
    match IpAddress.parse? front, Bytes.decimal? bits with
    | some ip, some n => if n ≤ (bitsOf ip).length then some (Exemption.network ip n) else none
    | _, _ => none
  match network, IpAddress.parse? entry with
  | some e, _ => some e
  | none, some ip => some (.address ip)
  | none, none => if entry.isEmpty then none else some (.domain entry)

/-- Whether one byte string ends in another, with case left out of account. -/
def endsIn (s ending : Bytes) : Bool :=
  ending.length ≤ s.length &&
    (s.drop (s.length - ending.length)).map Bytes.toLower == ending.map Bytes.toLower

/-- Whether a domain name is the given one or below it. A star stands for all names. -/
def underDomain (name domain : Bytes) : Bool :=
  if domain == [0x2A] then true
  else if domain.head? == some 0x2E then
    endsIn name domain || (endsIn name domain.tail && name.length == domain.tail.length)
  else
    endsIn name domain &&
      (name.length == domain.length || name[name.length - domain.length - 1]? == some 0x2E)

/-- Whether an exemption holds for a host without brackets. -/
def Exemption.covers (host : Bytes) : Exemption → Bool
  | .address ip => IpAddress.parse? host == some ip
  | .network ip n =>
    match IpAddress.parse? host with
    | some h => (bitsOf h).length == (bitsOf ip).length && (bitsOf h).take n == (bitsOf ip).take n
    | none => false
  | .domain d => (IpAddress.parse? host).isNone && underDomain host d

/-! ## Variables -/

/-- The value of the first variable that is set. -/
def firstSet (env : Environment) (names : List String) : String :=
  (names.findSome? fun n => env.lookup n).getD ""

/-- How the environment wants requests to be sent. -/
structure Routing where
  /-- The gateway for plain requests. -/
  plain : Option Gateway := none
  /-- The gateway for secure requests. -/
  secure : Option Gateway := none
  exempt : List Exemption := []

/-- Reads the variables. A variable that programs behind a web server see switches the gateways
off, since their values could come from a request. -/
def Routing.ofEnvironment (env : Environment) : Routing :=
  let gateway := fun names => Gateway.parse? (firstSet env names)
  let all := gateway ["ALL_PROXY", "all_proxy"]
  let entries := Bytes.splitOn 0x2C (Bytes.ofString (firstSet env ["NO_PROXY", "no_proxy"]))
  if (env.lookup "REQUEST_METHOD").isSome then {}
  else
    { plain := (gateway ["HTTP_PROXY", "http_proxy"]).or all
      secure := (gateway ["HTTPS_PROXY", "https_proxy"]).or all
      exempt := entries.filterMap fun e =>
        Exemption.parse? (Bytes.trimBy (fun b => b == 0x20 || (0x09 ≤ b && b ≤ 0x0D)) e) }

/-- The gateway for a host, if plain or secure requests to it go through one. -/
def Routing.gatewayFor? (r : Routing) (secure : Bool) (host : Bytes) : Option Gateway :=
  let bare := Bytes.trimBy (fun b => b == 0x5B || b == 0x5D) host
  let host := if host.head? == some 0x5B then bare else host
  if r.exempt.any (Exemption.covers host) then none
  else if secure then r.secure
  else r.plain

end IsoServer.Proxy
