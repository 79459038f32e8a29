-- Domain names. A name is given in any script: its characters are brought into one form, its
-- labels are checked, and the labels that are not ASCII are written in Punycode.
import IsoServer.Text.Composition
import IsoServer.Text.Direction
import IsoServer.Text.Joining
import IsoServer.Url.NameTable
import IsoServer.Url.Punycode

namespace IsoServer.Domain

/-! ## Characters -/

/-- ASCII characters that no domain name may hold. -/
def isForbidden (c : Char) : Bool :=
  c.toNat ≤ 0x20 || c.toNat == 0x7F || "%#/:<>?@[\\]^|".toList.contains c

/-- What a character becomes, or none if it may not be given. -/
def mapChar? (c : Char) : Option (List Char) :=
  if c.toNat < 0x80 then some [c.toLower]
  else if Text.inRanges ignoredRanges c.toNat then some []
  else
    match Text.change? changeRows c.toNat with
    | some target => some (target.map Char.ofNat)
    | none => if Text.inRanges allowedRanges c.toNat then some [c] else none

/-- Whether a character may stand in a finished name. -/
def isFinal (c : Char) : Bool := mapChar? c == some [c] && !isForbidden c

/-- The form of a name in which equal names are written alike. -/
def normalize? (name : List Char) : Option (List Char) := do
  let mapped ← name.mapM mapChar?
  let composed := Text.compose mapped.flatten
  if composed.any isForbidden then none else some composed

/-! ## Labels -/

/-- The labels of a name, the pieces between its dots. -/
def labels (name : List Char) : List (List Char) := Text.splitWhere (· == '.') name

/-- Labels with dots between them. -/
def joinLabels : List (List Char) → List Char
  | [] => []
  | [l] => l
  | l :: ls => l ++ '.' :: joinLabels ls

def isAscii (label : List Char) : Bool := label.all (·.toNat < 0x80)

/-- What stands in front of a label in Punycode. -/
def punycodeMark : List Char := ['x', 'n', '-', '-']

/-- The rest of a label in Punycode, if it is one. -/
def punycode? : List Char → Option (List Char)
  | 'x' :: 'n' :: '-' :: '-' :: rest => some rest
  | _ => none

/-- The longest label to write in Punycode, and the longest one to read. -/
def maxPlainLength : Nat := 1000
def maxPunycodeLength : Nat := 2000

/-- The label that a text in Punycode stands for. It must need Punycode and be in the form that names
are given. -/
def readPunycode? (written : List Char) : Option (List Char) :=
  if written.isEmpty || written.getLast? == some '-' || maxPunycodeLength < written.length then none
  else
    match Punycode.decode? written with
    | some label => if label.all isFinal && Text.compose label == label then some label else none
    | none => none

/-- A label in its own script. -/
def plainLabel? (label : List Char) : Option (List Char) :=
  match punycode? label with
  | some written => readPunycode? written
  | none => some label

/-- A label in ASCII, where `plain` is the label in its own script. -/
def asciiLabel (label plain : List Char) : List Char :=
  if isAscii label then label else punycodeMark ++ Punycode.encode plain

/-! ## Rules for labels -/

/-- No mark stands first, where there is nothing to attach it to. -/
def startsWell (label : List Char) : Bool := !label.head?.any Text.isCombining

/-- The zero width characters that join their neighbours or keep them apart. -/
def nonJoiner : Char := Char.ofNat 0x200C
def joiner : Char := Char.ofNat 0x200D

/-- Whether a joiner or a non-joiner may stand between two texts, the first one given from its end:
behind a sign that takes away a vowel both may, and between letters that would join the
non-joiner may. -/
def joinerFits (c : Char) (before after : List Char) : Bool :=
  before.head?.any (Text.combiningClass · == Text.viramaClass) ||
  (c == nonJoiner && Text.Joining.reachesOn before && Text.Joining.reachesBack after)

/-- Whether all joiners of a label may stand where they do. `before` holds the characters already
passed, the last one first. -/
def joinersFit (before : List Char) : List Char → Bool
  | [] => true
  | c :: cs =>
    (if c == joiner || c == nonJoiner then joinerFits c before cs else true) &&
    joinersFit (c :: before) cs

/-- Whether a label keeps its direction when it is shown among others. It starts with a letter, its
last character but for marks is a letter or a digit, and letters of one direction only occur in
it. A leftward label has digits of one kind. -/
def keepsDirection (label : List Char) : Bool :=
  match label.map Text.Direction.ofChar with
  | [] => true
  | first :: rest =>
    match first, (rest.reverse.dropWhile (· == .mark)).head?.getD first with
    | .rightward, last =>
      (last == .rightward || last == .europeanNumber) &&
      rest.all fun d => d != .leftward && d != .arabicNumber
    | .leftward, last =>
      (last == .leftward || last == .europeanNumber || last == .arabicNumber) &&
      (rest.all (· != .rightward)) &&
      !(rest.contains .europeanNumber && rest.contains .arabicNumber)
    | _, _ => false

/-- The rules that a label in its own script keeps, whatever stands beside it. -/
def isLabel (label : List Char) : Bool :=
  startsWell label && joinersFit [] label && (isAscii label || label.length ≤ maxPlainLength)

/-- The rules that the labels of a name keep together: where one holds leftward text, all have to
keep their direction. -/
def areLabels (ls : List (List Char)) : Bool :=
  ls.all isLabel && (!(ls.any (·.any Text.Direction.turnsText)) || ls.all keepsDirection)

/-! ## Names -/

/-- A domain name in ASCII, or none if it is not a domain name. -/
def toAscii? (name : List Char) : Option (List Char) := do
  let ls := labels (← normalize? name)
  let plain ← ls.mapM plainLabel?
  if areLabels plain then some (joinLabels (ls.zipWith asciiLabel plain)) else none

end IsoServer.Domain
