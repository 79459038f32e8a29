-- What a terminal shows of a text. Control characters other than line breaks and tabs are
-- left out, and so are the sequences that steer the terminal.
import IsoServer.Text.Utf8

namespace IsoServer.Terminal

/-- What the bytes that follow belong to. -/
inductive Reading where
  /-- Text that is shown. -/
  | shown
  /-- Text again, behind a byte that ended a message. What is left of its character is not shown. -/
  | resumed
  /-- The byte behind an escape character. -/
  | escape
  /-- The rest of an escape sequence that has more than one byte. -/
  | escapeRest
  /-- A control sequence, which its first letter ends. -/
  | control
  /-- The start of a message that has a head of numbers and marks. -/
  | head
  /-- The numbers in the head of a message. -/
  | headNumbers
  /-- The marks in the head of a message. -/
  | headMarks
  /-- The body of a message, which its end byte or an escape character ends. -/
  | message
  /-- A title, which a bell ends as well. -/
  | title
  deriving DecidableEq, Repr

/-- Tabs and line breaks, the controls that are shown. -/
def isLayout (b : UInt8) : Bool := b == 0x09 || b == 0x0A || b == 0x0C || b == 0x0D

/-- A mark, a number, or a byte that ends a sequence. -/
def isMark (b : UInt8) : Bool := 0x20 ≤ b && b ≤ 0x2F
def isNumber (b : UInt8) : Bool := (0x30 ≤ b && b ≤ 0x39) || b == 0x3B
def isFinal (b : UInt8) : Bool := 0x40 ≤ b && b ≤ 0x7E

/-- The byte that ends the body of a message. -/
def messageEnd : UInt8 := 0x9C

/-- How reading goes on behind the byte that follows an escape character. -/
def Reading.afterEscape (b : UInt8) : Reading :=
  if b == 0x5B then .control
  else if b == 0x5D then .title
  else if b == 0x50 then .head
  else if b == 0x58 || b == 0x5E || b == 0x5F then .message
  else if isMark b then .escapeRest
  else if 0x30 ≤ b && b ≤ 0x7E then .shown
  else .escape

/-- How reading goes on behind a byte in the head of a message. Bytes that have no place there are
passed over, and one that is out of order starts the body. -/
def Reading.afterHead (r : Reading) (b : UInt8) : Reading :=
  if isMark b then .headMarks
  else if isNumber b && r != .headMarks then .headNumbers
  else if 0x3C ≤ b && b ≤ 0x3F && r == .head then .headNumbers
  else if 0x30 ≤ b && b ≤ 0x7E then .message
  else r

/-- How reading goes on behind a byte, and whether the byte is shown. A tab or a line break ends a
short sequence and is shown; in a message and in a title it is not. -/
def Reading.step (r : Reading) (b : UInt8) : Reading × Bool :=
  if b == 0x18 || b == 0x1A then (.shown, false)
  else if b == 0x1B then (.escape, false)
  else
    match r with
    | .shown => (.shown, isLayout b || (0x20 ≤ b && b != 0x7F))
    | .resumed =>
      if Utf8.isTail b then (.resumed, false)
      else (.shown, isLayout b || (0x20 ≤ b && b != 0x7F))
    | .escape => if isLayout b then (.shown, true) else (.afterEscape b, false)
    | .escapeRest =>
      if isLayout b then (.shown, true)
      else (if 0x30 ≤ b && b ≤ 0x7E then .shown else .escapeRest, false)
    | .control =>
      if isLayout b then (.shown, true) else (if isFinal b then .shown else .control, false)
    | .head | .headNumbers | .headMarks => (r.afterHead b, false)
    | .message => (if b == messageEnd then .resumed else .message, false)
    | .title => (if b == 0x07 then .shown else .title, false)

/-- The bytes that are shown. -/
def Reading.keep (r : Reading) : Bytes → Bytes
  | [] => []
  | b :: rest =>
    let (next, isShown) := r.step b
    if isShown then b :: next.keep rest else next.keep rest

/-- The text that is shown. -/
def plain (s : String) : String := Utf8.decodeLossy (Reading.shown.keep (Bytes.ofString s))

end IsoServer.Terminal
