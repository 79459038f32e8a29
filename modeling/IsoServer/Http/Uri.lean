-- Request targets. Four forms exist: a path with or without a query, a star, an address
-- alone, and an absolute address with a path. A fragment is cut off.
import IsoServer.Text.Utf8

namespace IsoServer

/-- A request target. The path is empty only for an address alone. -/
structure Uri where
  scheme : Option Bytes := none
  authority : Option Bytes := none
  path : Bytes
  query : Option Bytes := none
  deriving DecidableEq, Repr

/-- Why a text is not a request target. -/
inductive UriError where
  | invalidCharacter
  | invalidAuthority
  | invalidFormat
  | tooLong
  | empty
  | schemeTooLong
  deriving DecidableEq, Repr

def UriError.message : UriError → String
  | .invalidCharacter => "invalid uri character"
  | .invalidAuthority => "invalid authority"
  | .invalidFormat => "invalid format"
  | .tooLong => "uri too long"
  | .empty => "empty string"
  | .schemeTooLong => "scheme too long"

namespace Uri

/-! ## Characters -/

/-- A byte of a path. Braces and the double quote are let through, although they should be
escaped. -/
def isPathByte (b : UInt8) : Bool :=
  b == 0x21 || (0x24 ≤ b && b ≤ 0x3B) || b == 0x3D || (0x40 ≤ b && b ≤ 0x5F) ||
  (0x61 ≤ b && b ≤ 0x7A) || b == 0x7C || b == 0x7E || b == 0x22 || b == 0x7B || b == 0x7D ||
  0x80 ≤ b

/-- A byte of a query. -/
def isQueryByte (b : UInt8) : Bool :=
  b == 0x21 || (0x24 ≤ b && b ≤ 0x3B) || b == 0x3D || (0x3F ≤ b && b ≤ 0x7E) || 0x80 ≤ b

/-- A byte of an address, the percent sign apart. -/
def isAddressByte (b : UInt8) : Bool :=
  Bytes.isAlphanumeric b || [0x21, 0x24, 0x26, 0x27, 0x28, 0x29, 0x2A, 0x2B, 0x2C, 0x2D, 0x2E, 0x3A,
    0x3B, 0x3D, 0x40, 0x5B, 0x5D, 0x5F, 0x7E].contains b

/-- A byte that ends an address. -/
def endsAddress (b : UInt8) : Bool := b == 0x2F || b == 0x3F || b == 0x23

def isSchemeByte (b : UInt8) : Bool :=
  Bytes.isAlphanumeric b || b == 0x2B || b == 0x2D || b == 0x2E || b == 0x7E

/-! ## Path and query -/

/-- Splits a path, an optional query and an optional fragment, and drops the fragment. -/
def readPathAndQuery (s : Bytes) : Except UriError (Bytes × Option Bytes) :=
  let stopsPath := fun b => b == 0x3F || b == 0x23
  let path := s.takeWhile (!stopsPath ·)
  if !path.all isPathByte then .error .invalidCharacter
  else
    match s.dropWhile (!stopsPath ·) with
    | 0x3F :: rest =>
      let query := rest.takeWhile (· != 0x23)
      if !query.all isQueryByte then .error .invalidCharacter
      else if !Utf8.isValid path || !Utf8.isValid query then .error .invalidCharacter
      else .ok (path, some query)
    | _ => if Utf8.isValid path then .ok (path, none) else .error .invalidCharacter

/-! ## Address -/

/-- What has been seen of an address. -/
structure AddressScan where
  colons : Nat := 0
  opened : Bool := false
  closed : Bool := false
  percent : Bool := false
  /-- The last byte was an at sign. -/
  atEnd : Bool := false

/-- One byte of an address. Colons and percent signs before an at sign belong to the user
information, and those between brackets to the host, so both are forgotten there. -/
def AddressScan.step (st : AddressScan) (b : UInt8) : Except UriError AddressScan :=
  let st := { st with atEnd := false }
  if b == 0x3A then
    if st.colons ≥ 8 then .error .invalidAuthority else .ok { st with colons := st.colons + 1 }
  else if b == 0x5B then
    if st.percent || st.opened then .error .invalidAuthority else .ok { st with opened := true }
  else if b == 0x5D then
    if !st.opened || st.closed then .error .invalidAuthority
    else .ok { st with closed := true, colons := 0, percent := false }
  else if b == 0x40 then .ok { st with colons := 0, percent := false, atEnd := true }
  else if b == 0x25 then .ok { st with percent := true }
  else if isAddressByte b then .ok st
  else .error .invalidCharacter

/-- Checks an address as a whole. -/
def AddressScan.finish (st : AddressScan) : Except UriError Unit :=
  if st.opened != st.closed then .error .invalidAuthority
  else if st.colons > 1 then .error .invalidAuthority
  else if st.atEnd then .error .invalidAuthority
  else if st.percent then .error .invalidAuthority
  else .ok ()

def scanAddress (st : AddressScan) : Bytes → Except UriError AddressScan
  | [] => .ok st
  | b :: rest =>
    match st.step b with
    | .error e => .error e
    | .ok st => scanAddress st rest

/-- Splits an address from what follows it. -/
def readAddress (s : Bytes) : Except UriError (Bytes × Bytes) :=
  let address := s.takeWhile (!endsAddress ·)
  match scanAddress {} address with
  | .error e => .error e
  | .ok st =>
    match st.finish with
    | .error e => .error e
    | .ok () => .ok (address, s.dropWhile (!endsAddress ·))

/-! ## Scheme -/

def lowered (s : Bytes) : Bytes := s.map Bytes.toLower

/-- Splits a scheme and the two slashes from what follows; none if there is no scheme. The two
common schemes are given in small letters. -/
def readScheme (s : Bytes) : Except UriError (Option (Bytes × Bytes)) :=
  let common := fun name : String =>
    let start := Bytes.ofString (name ++ "://")
    if lowered (s.take start.length) == start then
      some (Bytes.ofString name, s.drop start.length)
    else none
  match common "http", common "https" with
  | some r, _ => .ok (some r)
  | none, some r => .ok (some r)
  | none, none =>
    let name := s.takeWhile isSchemeByte
    match Bytes.dropStart? (Bytes.ofString "://") (s.dropWhile isSchemeByte) with
    | some rest =>
      if s.length ≤ 3 then .ok none
      else if name.length > 64 then .error .schemeTooLong
      else .ok (some (name, rest))
    | none => .ok none

/-! ## Whole targets -/

/-- The longest request target. -/
def maxLength : Nat := 65534

/-- Reads a request target. -/
def parse (s : Bytes) : Except UriError Uri :=
  if s.length > maxLength then .error .tooLong
  else match s with
    | [] => .error .empty
    | [0x2A] => .ok { path := s }
    | [b] =>
      if b == 0x2F then .ok { path := s }
      else
        match readAddress s with
        | .error e => .error e
        | .ok (address, []) => .ok { authority := some address, path := [] }
        | .ok _ => .error .invalidCharacter
    | 0x2F :: _ =>
      match readPathAndQuery s with
      | .error e => .error e
      | .ok (path, query) => .ok { path, query }
    | _ =>
      match readScheme s with
      | .error e => .error e
      | .ok none =>
        match readAddress s with
        | .error e => .error e
        | .ok (address, []) => .ok { authority := some address, path := [] }
        | .ok _ => .error .invalidFormat
      | .ok (some (_, [])) => .error .empty
      | .ok (some (scheme, rest)) =>
        match readAddress rest with
        | .error e => .error e
        | .ok ([], _) => .error .invalidFormat
        | .ok (address, rest) =>
          match readPathAndQuery rest with
          | .error e => .error e
          | .ok (path, query) =>
            .ok { scheme := some scheme, authority := some address,
                  path := if path.isEmpty then [0x2F] else path, query }

/-- The text of a request target. -/
def text (uri : Uri) : Bytes :=
  (match uri.scheme with
    | some s => s ++ Bytes.ofString "://"
    | none => []) ++
  uri.authority.getD [] ++ uri.path ++
  (match uri.query with
    | some q => 0x3F :: q
    | none => [])

end Uri

end IsoServer
