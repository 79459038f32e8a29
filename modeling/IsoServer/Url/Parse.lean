-- Reading an address, alone or relative to another one. Blanks and control characters at
-- the ends are dropped, and tabs and line breaks everywhere.
import IsoServer.Url.Host

namespace IsoServer.Url

/-! ## Escaping -/

/-- Escapes control characters, everything outside ASCII and the given characters. -/
def escapeWith (extra : String) (cs : List Char) : String :=
  let set := extra.toList.map Char.toNat
  let keep := fun (b : UInt8) => 0x20 ≤ b && b < 0x7F && !set.contains b.toNat
  Bytes.asciiText (Percent.encode keep (Host.bytesOf cs))

def fragmentSet : String := " \"<>`"

def pathSet : String := " \"<>`#?\x7b\x7d"

def userSet : String := " \"<>`#?\x7b\x7d/:;=@[\\]^|"

def querySet (special : Bool) : String := if special then " \"#<>'" else " \"#<>"

/-! ## Cleaning -/

/-- Without blanks and control characters at the ends, and without tabs and line breaks. -/
def clean (s : String) : List Char :=
  let outer := fun c : Char => c.toNat ≤ 0x20
  let trimmed := ((s.toList.dropWhile outer).reverse.dropWhile outer).reverse
  trimmed.filter fun c => c != '\t' && c != '\n' && c != '\r'

/-! ## Scheme -/

/-- A letter, then letters, digits and the signs `+`, `-` and `.`, then a colon. -/
def splitScheme? (cs : List Char) : Option (String × List Char) :=
  let isWord := fun c : Char => c.isAlphanum || c == '+' || c == '-' || c == '.'
  match cs with
  | [] => none
  | c :: _ =>
    if !c.isAlpha then none
    else
      match cs.dropWhile isWord with
      | ':' :: rest => some (String.ofList ((cs.takeWhile isWord).map Char.toLower), rest)
      | _ => none

/-- Whether a character separates the segments of a path. -/
def isSlash (special : Bool) (c : Char) : Bool := c == '/' || (special && c == '\\')

/-! ## Path, query and fragment -/

/-- Whether a segment is a single dot, perhaps escaped. -/
def isDot (s : String) : Bool := [".", "%2e", "%2E"].contains s

/-- Whether a segment is a double dot, perhaps escaped. -/
def isDoubleDot (s : String) : Bool :=
  ["..", "%2e.", "%2E.", ".%2e", ".%2E", "%2e%2e", "%2e%2E", "%2E%2e", "%2E%2E"].contains s

/-- The pieces between slashes. -/
def cutSlashes (special : Bool) : List Char → List (List Char)
  | [] => [[]]
  | c :: cs =>
    if isSlash special c then [] :: cutSlashes special cs
    else match cutSlashes special cs with
      | [] => [[c]]
      | l :: ls => (c :: l) :: ls

/-- Adds pieces to a path. A dot stays where it is, a double dot goes one segment up, and either
at the end leaves an empty segment behind. -/
def addPieces (done : List String) : List (List Char) → List String
  | [] => done
  | piece :: pieces =>
    let s := escapeWith pathSet piece
    let isLast := pieces.isEmpty
    if isDoubleDot s then addPieces (done.dropLast ++ if isLast then [""] else []) pieces
    else if isDot s then addPieces (done ++ if isLast then [""] else []) pieces
    else addPieces (done ++ [s]) pieces

/-- Splits the query and the fragment from the front of a text. -/
def splitTail (cs : List Char) : List Char × Option (List Char) × Option (List Char) :=
  let front := cs.takeWhile fun c => c != '?' && c != '#'
  match cs.dropWhile fun c => c != '?' && c != '#' with
  | '?' :: rest =>
    match rest.dropWhile (· != '#') with
    | _ :: fragment => (front, some (rest.takeWhile (· != '#')), some fragment)
    | [] => (front, some (rest.takeWhile (· != '#')), none)
  | _ :: fragment => (front, none, some fragment)
  | [] => (front, none, none)

/-- Gives an address its query and fragment. -/
def withTail (url : Url) (query fragment : Option (List Char)) : Url :=
  { url with
    query := query.map (escapeWith (querySet (isSpecial url.scheme)))
    fragment := fragment.map (escapeWith fragmentSet) }

/-- Reads a path that starts at the top, a query and a fragment. A special scheme always has a
path; for another one no text is no path. -/
def withPath (url : Url) (cs : List Char) : Url :=
  let special := isSpecial url.scheme
  let (front, query, fragment) := splitTail cs
  let names :=
    match front with
    | [] => if special then [""] else []
    | c :: rest => addPieces [] (cutSlashes special (if isSlash special c then rest else c :: rest))
  withTail { url with path := .segments names } query fragment

/-! ## Authority -/

/-- The parts before and behind the last at sign. -/
def cutAtSign (cs : List Char) : Option (List Char × List Char) :=
  let tail := (cs.reverse.takeWhile (· != '@')).reverse
  if tail.length < cs.length then some (cs.take (cs.length - tail.length - 1), tail) else none

/-- Gives an address its user name and password, with the first colon between them. An empty
password is none. -/
def withUser (url : Url) (cs : List Char) : Url :=
  let name := cs.takeWhile (· != ':')
  let password := (cs.dropWhile (· != ':')).drop 1
  { url with
    username := escapeWith userSet name
    password := if password.isEmpty then none else some (escapeWith userSet password) }

/-- Splits the host at the first colon outside brackets. -/
def cutPort (inside : Bool) : List Char → List Char × Option (List Char)
  | [] => ([], none)
  | c :: cs =>
    if c == ':' && !inside then ([], some cs)
    else
      let inside := if c == '[' then true else if c == ']' then false else inside
      let (host, port) := cutPort inside cs
      (c :: host, port)

/-- The port of a scheme: digits up to the end or up to a backslash, with a value below 2^16. The
usual port of the scheme is none. Gives what follows the digits, too. -/
def readPort (scheme : String) (cs : List Char) : Except UrlError (Option UInt16 × List Char) :=
  let digits := cs.takeWhile Char.isDigit
  let rest := cs.dropWhile Char.isDigit
  let value := Bytes.valueOf 10 (digits.map fun c => c.toNat - 48)
  if value ≥ 65536 || !(rest.isEmpty || rest.head? == some '\\') then .error .invalidPort
  else if digits.isEmpty || defaultPort? scheme == some (UInt16.ofNat value) then .ok (none, rest)
  else .ok (some (UInt16.ofNat value), rest)

/-- Reads what follows the two slashes: user information, host, port, path, query, fragment. -/
def afterSlashes (scheme : String) (cs : List Char) : Except UrlError Url :=
  let special := isSpecial scheme
  let ends := fun c => isSlash special c || c == '?' || c == '#'
  let authority := cs.takeWhile (!ends ·)
  let rest := cs.dropWhile (!ends ·)
  let url : Url := { scheme }
  let (url, hasUser, hostPort) := match cutAtSign authority with
    | none => (url, false, authority)
    | some (user, hostPort) => (withUser url user, !user.isEmpty, hostPort)
  -- a lone at sign in front of the path
  if authority == ['@'] && !rest.isEmpty then .error .emptyHost
  else
    let (hostText, portText) := cutPort false hostPort
    if hostText.isEmpty && (special || portText.isSome) then .error .emptyHost
    else
      match (if special then Host.parse hostText else Host.parseOther hostText) with
      | .error e => .error e
      | .ok host =>
        match readPort scheme (portText.getD []) with
        | .error e => .error e
        | .ok (port, left) =>
          let named := url.username != "" || url.password.isSome
          if host == .domain "" && hasUser && named then .error .emptyHost
          else .ok (withPath { url with host := some host, port } (left ++ rest))

/-! ## Schemes of their own -/

/-- Whether a text is a drive letter. -/
def isDrive : List Char → Bool
  | [c, d] => c.isAlpha && (d == ':' || d == '|')
  | _ => false

/-- Reads a `file` address behind its colon: two slashes start a host, unless a drive letter
follows them. No host, and the host of one's own, are an empty name. -/
def readFile (cs : List Char) : Except UrlError Url :=
  let url : Url := { scheme := "file", host := some (.domain "") }
  match cs with
  | a :: b :: rest =>
    if isSlash true a && isSlash true b then
      let ends := fun c => isSlash true c || c == '?' || c == '#'
      let hostText := rest.takeWhile (!ends ·)
      if hostText.isEmpty || isDrive hostText then .ok (withPath url rest)
      else
        match Host.parse hostText with
        | .error e => .error e
        | .ok host =>
          let host := if host == .domain "localhost" then .domain "" else host
          .ok (withPath { url with host := some host } (rest.dropWhile (!ends ·)))
    else .ok (withPath url cs)
  | _ => .ok (withPath url cs)

/-- Reads an address with a scheme of no special kind, behind its colon. -/
def readOther (scheme : String) (cs : List Char) : Except UrlError Url :=
  match cs with
  | '/' :: '/' :: rest => afterSlashes scheme rest
  | '/' :: _ => .ok (withPath { scheme } cs)
  | _ =>
    let (front, query, fragment) := splitTail cs
    .ok (withTail { scheme, path := .rootless (Host.escapeControls front) } query fragment)

/-- Reads an address behind its scheme and colon. -/
def readAbsolute (scheme : String) (cs : List Char) : Except UrlError Url :=
  if scheme == "file" then readFile cs
  else if isSpecial scheme then afterSlashes scheme (cs.dropWhile (isSlash true))
  else readOther scheme cs

/-! ## Whole addresses -/

/-- Reads an address. -/
def parse (s : String) : Except UrlError Url :=
  match splitScheme? (clean s) with
  | some (scheme, rest) => readAbsolute scheme rest
  | none => .error .relativeWithoutBase

/-- The segments of a path without the last one. -/
def UrlPath.parents : UrlPath → List String
  | .segments names => names.dropLast
  | .rootless _ => []

/-- Reads an address without a scheme, relative to a base with a special scheme. -/
def relative (base : Url) (cs : List Char) : Except UrlError Url :=
  match cs with
  | [] => .ok { base with fragment := none }
  | '?' :: _ | '#' :: _ =>
    let (_, query, fragment) := splitTail cs
    match query with
    | some q => .ok (withTail base (some q) fragment)
    | none => .ok { base with fragment := fragment.map (escapeWith fragmentSet) }
  | '/' :: '/' :: rest => afterSlashes base.scheme rest
  | c :: rest =>
    if isSlash true c then
      match rest with
      | d :: _ =>
        if isSlash true d then afterSlashes base.scheme (rest.dropWhile (isSlash true))
        else .ok (withPath base cs)
      | [] => .ok (withPath base cs)
    else
      let (front, query, fragment) := splitTail cs
      let names := addPieces (UrlPath.parents base.path) (cutSlashes true front)
      .ok (withTail { base with path := .segments names } query fragment)

/-- Reads an address relative to a base with a special scheme. The scheme of the base with fewer
than two slashes behind it is as good as no scheme. -/
def join (base : Url) (s : String) : Except UrlError Url :=
  let cs := clean s
  match splitScheme? cs with
  | none => relative base cs
  | some (scheme, rest) =>
    if scheme == base.scheme && isSpecial scheme && (rest.takeWhile (isSlash true)).length < 2 then
      relative base rest
    else readAbsolute scheme rest

end IsoServer.Url
