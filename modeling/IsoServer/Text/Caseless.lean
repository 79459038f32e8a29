-- Comparison with ASCII words without regard to case. Some letters and ligatures outside
-- ASCII are cases of ASCII letters too.

namespace IsoServer.Text

/-- Letters outside ASCII that are cases of ASCII letters: the long and the sharp s, the sign for
kelvin, and the ligatures. -/
def caselessRows : List (Nat × String) := [
  (0xDF, "ss"), (0x17F, "s"), (0x1E9E, "ss"), (0x212A, "k"), (0xFB00, "ff"), (0xFB01, "fi"),
  (0xFB02, "fl"), (0xFB03, "ffi"), (0xFB04, "ffl"), (0xFB05, "st"), (0xFB06, "st")]

/-- A character without its case, wherever that leads into ASCII. -/
def caselessChar (c : Char) : List Char :=
  if c.toNat < 0x80 then [c.toLower]
  else
    match caselessRows.lookup c.toNat with
    | some word => word.toList
    | none => [c]

/-- Whether a text is the given word in small ASCII letters, apart from case. -/
def isCaseOf (word s : String) : Bool := s.toList.flatMap caselessChar == word.toList

end IsoServer.Text
