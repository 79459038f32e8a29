-- Reading JSON text. Every reader takes the characters that are left and gives back what
-- remains behind what it read; `none` means that the text is not JSON.
import IsoServer.Json.Basic
import IsoServer.Text.CodePoints

namespace IsoServer.Json

/-! ## Blanks, literals and numbers -/

def isBlankChar (c : Char) : Bool := c == ' ' || c == '\t' || c == '\n' || c == '\r'

def skipBlanks (cs : List Char) : List Char := cs.dropWhile isBlankChar

/-- What follows the given word. -/
def word? : List Char → List Char → Option (List Char)
  | [], cs => some cs
  | _ :: _, [] => none
  | w :: ws, c :: cs => if w == c then word? ws cs else none

def digitsValue (ds : List Char) : Nat := ds.foldl (fun n d => n * 10 + (d.toNat - 48)) 0

/-- An exponent: the mark, an optional sign and digits. Zero if there is none. -/
def readExponent (cs : List Char) : Option (Option Int × List Char) :=
  match cs with
  | c :: rest =>
    if c == 'e' || c == 'E' then
      let (negative, rest) := match rest with
        | '-' :: r => (true, r)
        | '+' :: r => (false, r)
        | r => (false, r)
      let ds := rest.takeWhile Char.isDigit
      if ds.isEmpty then none
      else
        let n : Int := digitsValue ds
        some (some (if negative then -n else n), rest.dropWhile Char.isDigit)
    else some (none, cs)
  | [] => some (none, [])

/-- Adds digits to a number as long as it fits into 64 bits, and gives the digits left over. -/
def gatherDigits (n : Nat) : List Char → Nat × List Char
  | [] => (n, [])
  | d :: ds =>
    let next := n * 10 + (d.toNat - 48)
    if next < UInt64.size then gatherDigits next ds else (n, d :: ds)

/-- A number from the digits before and behind its point and an exponent. Digits that do not fit are
cut off: those before the point still count as places, those behind it do not. -/
def floatOf? (negative : Bool) (whole fraction : List Char) (exponent : Int) : Option Binary64 :=
  let (n, places) := gatherDigits 0 whole
  let (m, unused) := gatherDigits n fraction
  Binary64.ofParts? negative m
    (places.length - (fraction.length - unused.length : Nat) + exponent)

/-- A number. Without a point, an exponent and a sign before zero it is whole if it fits. -/
def readNumber (cs : List Char) : Option (Json × List Char) := do
  let (negative, cs) := match cs with
    | '-' :: r => (true, r)
    | r => (false, r)
  let whole := cs.takeWhile Char.isDigit
  let rest := cs.dropWhile Char.isDigit
  if whole.isEmpty || (whole.length > 1 && whole.head? == some '0') then none
  let (fraction, rest) ← match rest with
    | '.' :: r =>
      let ds := r.takeWhile Char.isDigit
      if ds.isEmpty then none else some (some ds, r.dropWhile Char.isDigit)
    | r => some (none, r)
  let (exponent, rest) ← readExponent rest
  match fraction, exponent with
  | none, none =>
    let n : Int := if negative then -(digitsValue whole : Int) else digitsValue whole
    if fitsInteger n && !(negative && n == 0) then some (.integer n, rest)
    else (floatOf? negative whole [] 0).map fun x => (.float x, rest)
  | _, _ =>
    (floatOf? negative whole (fraction.getD []) (exponent.getD 0)).map fun x => (.float x, rest)

/-! ## Strings -/

/-- Four hexadecimal digits. -/
def readUnit : List Char → Option (Nat × List Char)
  | a :: b :: c :: d :: rest => do
    let a ← Text.hexDigit? a
    let b ← Text.hexDigit? b
    let c ← Text.hexDigit? c
    let d ← Text.hexDigit? d
    some (a * 4096 + b * 256 + c * 16 + d, rest)
  | _ => none

/-- The character behind a backslash that stands for itself or for a control character. -/
def simpleEscape? (c : Char) : Option Char :=
  match c with
  | '"' => some '"'
  | '\\' => some '\\'
  | '/' => some '/'
  | 'b' => some (Char.ofNat 8)
  | 'f' => some (Char.ofNat 12)
  | 'n' => some '\n'
  | 'r' => some '\r'
  | 't' => some '\t'
  | _ => none

/-- The rest of a string up to its closing quote, with the characters read so far in `done`,
the last one first. Two escaped halves of a surrogate pair are one character. -/
def readString : Nat → List Char → List Char → Option (String × List Char)
  | 0, _, _ => none
  | fuel + 1, done, cs =>
    match cs with
    | [] => none
    | '"' :: rest => some (String.ofList done.reverse, rest)
    | '\\' :: 'u' :: rest => do
      let (unit, rest) ← readUnit rest
      if 0xD800 ≤ unit && unit < 0xDC00 then
        match rest with
        | '\\' :: 'u' :: rest => do
          let (low, rest) ← readUnit rest
          if 0xDC00 ≤ low && low < 0xE000 then
            readString fuel
              (Char.ofNat (0x10000 + (unit - 0xD800) * 0x400 + (low - 0xDC00)) :: done) rest
          else none
        | _ => none
      else if 0xDC00 ≤ unit && unit < 0xE000 then none
      else readString fuel (Char.ofNat unit :: done) rest
    | '\\' :: c :: rest => do
      let c ← simpleEscape? c
      readString fuel (c :: done) rest
    | c :: rest => if c.toNat < 0x20 then none else readString fuel (c :: done) rest

/-! ## Values -/

mutual

/-- One value; `fuel` bounds the number of steps, and the length of the text is always enough. -/
def readValue : Nat → List Char → Option (Json × List Char)
  | 0, _ => none
  | fuel + 1, cs =>
    match skipBlanks cs with
    | [] => none
    | c :: rest =>
      if c == '"' then
        (readString (rest.length + 1) [] rest).map fun (s, r) => (.text s, r)
      else if c == '[' then
        match skipBlanks rest with
        | ']' :: r => some (.array [], r)
        | r => (readItems fuel r).map fun (items, r) => (.array items, r)
      else if c == '\x7b' then
        match skipBlanks rest with
        | '\x7d' :: r => some (.object [], r)
        | r => (readMembers fuel r).map fun (members, r) => (.object members, r)
      else if c == 't' then (word? "rue".toList rest).map fun r => (.bool true, r)
      else if c == 'f' then (word? "alse".toList rest).map fun r => (.bool false, r)
      else if c == 'n' then (word? "ull".toList rest).map fun r => (.null, r)
      else readNumber (c :: rest)

/-- The items of an array up to its closing bracket. -/
def readItems : Nat → List Char → Option (List Json × List Char)
  | 0, _ => none
  | fuel + 1, cs => do
    let (item, rest) ← readValue fuel cs
    match skipBlanks rest with
    | ',' :: rest => (readItems fuel rest).map fun (items, r) => (item :: items, r)
    | ']' :: rest => some ([item], rest)
    | _ => none

/-- The members of an object up to its closing brace. -/
def readMembers : Nat → List Char → Option (List (String × Json) × List Char)
  | 0, _ => none
  | fuel + 1, cs =>
    match skipBlanks cs with
    | '"' :: rest => do
      let (name, rest) ← readString (rest.length + 1) [] rest
      match skipBlanks rest with
      | ':' :: rest => do
        let (value, rest) ← readValue fuel rest
        match skipBlanks rest with
        | ',' :: rest =>
          (readMembers fuel rest).map fun (members, r) => ((name, value) :: members, r)
        | '\x7d' :: rest => some ([(name, value)], rest)
        | _ => none
      | _ => none
    | _ => none

end

/-- The value of a JSON text. -/
def parse? (s : String) : Option Json :=
  let cs := s.toList
  match readValue (cs.length + 1) cs with
  | some (value, rest) => if (skipBlanks rest).isEmpty then some value else none
  | none => none

end IsoServer.Json
