-- Tables of code points. Long tables are written as text: words apart by blanks, numbers in
-- base sixteen, a hyphen between the ends of a range, which both belong to it. The tables
-- of characters follow version 17 of Unicode.
import IsoServer.Bytes

namespace IsoServer.Text

/-! ## Words -/

/-- The pieces between the characters at which a text is cut. -/
def splitWhere (cut : Char → Bool) (cs : List Char) : List (List Char) :=
  let (done, piece) := cs.foldl (fun (done, piece) c =>
    if cut c then (piece.reverse :: done, []) else (done, c :: piece)) ([], [])
  (piece.reverse :: done).reverse

/-- The words of a table. -/
def words (table : String) : List (List Char) :=
  (splitWhere (fun c => c == ' ' || c == '\n') table.toList).filter (!·.isEmpty)

/-- The value of a digit in base sixteen. -/
def hexDigit? (c : Char) : Option Nat :=
  if c.toNat < 0x80 then Bytes.hexValue? (UInt8.ofNat c.toNat) else none

/-- A number in base sixteen. -/
def hexNumber? (cs : List Char) : Option Nat := (cs.mapM hexDigit?).map (Bytes.valueOf 16)

/-! ## Ranges -/

/-- Whether a code point lies in one of the ranges. -/
def inRanges (ranges : List (Nat × Nat)) (n : Nat) : Bool :=
  ranges.any fun r => r.1 ≤ n && n ≤ r.2

/-- A range, or a single code point. -/
def range? (word : List Char) : Option (Nat × Nat) :=
  match splitWhere (· == '-') word with
  | [a] => (hexNumber? a).map fun n => (n, n)
  | [a, b] => do some (← hexNumber? a, ← hexNumber? b)
  | _ => none

/-- The ranges of a table. -/
def ranges (table : String) : List (Nat × Nat) := (words table).filterMap range?

/-! ## Changes -/

/-- What becomes of the code points from `first` to `last`, of which every `step`th is meant. -/
structure ChangeRow where
  first : Nat
  last : Nat
  step : Nat := 1
  /-- What the first of them becomes. -/
  target : List Nat
  /-- The others lie as far behind the target as behind the first; otherwise all become the same. -/
  moves : Bool := false
  deriving DecidableEq, Repr

/-- What becomes of a code point. -/
def ChangeRow.targetOf? (row : ChangeRow) (n : Nat) : Option (List Nat) :=
  if row.first ≤ n && n ≤ row.last && (n - row.first) % row.step == 0 then
    some (if row.moves then row.target.map (· + (n - row.first)) else row.target)
  else none

/-- A row: `=` stands before what all of the range become, `>` before what the first of it becomes.
A slash in place of the hyphen means every second code point. -/
def changeRow? (word : List Char) : Option ChangeRow := do
  let source := word.takeWhile fun c => c != '=' && c != '>'
  let rest := word.drop source.length
  let target ← (splitWhere (· == '+') rest.tail).mapM hexNumber?
  let (first, last) ← range? (source.map fun c => if c == '/' then '-' else c)
  some { first, last, target
         step := if source.contains '/' then 2 else 1
         moves := rest.head? == some '>' }

/-- The rows of a table. -/
def changeRows (table : String) : List ChangeRow := (words table).filterMap changeRow?

/-- What becomes of a code point by the first row that speaks of it. -/
def change? (rows : List ChangeRow) (n : Nat) : Option (List Nat) := rows.findSome? (·.targetOf? n)

end IsoServer.Text
