-- How alike two words are: the letters they share at nearly the same place, less those
-- that are swapped, measured between zero and one.
import IsoServer.Decimal.Binary64

namespace IsoServer.Text

/-- How far apart two places may be for their letters to count as shared. -/
def reach (m n : Nat) : Nat := max m n / 2 - 1

/-- The first free place of `target` from `low` up to `high`, excluded, that holds the letter. -/
def freePlace? (target : List Char) (taken : List Nat) (c : Char) (low high : Nat) : Option Nat :=
  ((List.range target.length).filter fun j => low ≤ j && j < high && !taken.contains j).find?
    fun j => target[j]? == some c

/-- The shared letters, each with its place in both words, in the order of the first word. -/
def sharedFrom (target : List Char) (span : Nat) (taken : List Nat) (index : Nat) :
    List Char → List (Char × Nat)
  | [] => []
  | c :: cs =>
    match freePlace? target taken c (index - span) (index + span + 1) with
    | some j => (c, j) :: sharedFrom target span (j :: taken) (index + 1) cs
    | none => sharedFrom target span taken (index + 1) cs

/-- The similarity of two words: the mean of the shared part of each word and of the share of the
shared letters that stand in the same order, rounded at every step. -/
def similarity (a b : List Char) : Binary64 :=
  let shared := sharedFrom b (reach a.length b.length) [] 0 a
  let m := shared.length
  if m == 0 then .ofRatio false (if a.isEmpty && b.isEmpty then 1 else 0) 1
  else
    let sorted := (shared.mergeSort fun x y => x.2 ≤ y.2).map (·.1)
    let swapped := ((shared.map (·.1)).zip sorted).countP (fun p => p.1 != p.2) / 2
    let sum := ((Binary64.ofRatio false m a.length).add (.ofRatio false m b.length)).add
      (.ofRatio false (m - swapped) m)
    sum.div (.ofRatio false 3 1)

end IsoServer.Text
