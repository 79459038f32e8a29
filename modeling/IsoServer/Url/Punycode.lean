-- Punycode: a label with characters outside ASCII, written in letters, digits and
-- hyphens. The ASCII characters come first, then, as numbers of variable length, where
-- each other character belongs.

namespace IsoServer.Punycode

/-! ## Numbers -/

/-- The first threshold and its growth, shared by reading and writing. -/
def threshold (bias k : Nat) : Nat := if k ≤ bias + 1 then 1 else min 26 (k - bias)

/-- Repeated division that draws a difference down below 455; `fuel` is at least its number of
binary digits. -/
def damp : Nat → Nat → Nat → Nat
  | 0, k, delta => k + 36 * delta / (delta + 38)
  | fuel + 1, k, delta =>
    if delta > 455 then damp fuel (k + 36) (delta / 35) else k + 36 * delta / (delta + 38)

/-- The bias after a character was placed. -/
def adapt (delta count : Nat) (first : Bool) : Nat :=
  let delta := if first then delta / 700 else delta / 2
  damp delta.log2.succ 0 (delta + delta / count)

def digitValue? (c : Char) : Option Nat :=
  if 'a' ≤ c && c ≤ 'z' then some (c.toNat - 97)
  else if 'A' ≤ c && c ≤ 'Z' then some (c.toNat - 65)
  else if '0' ≤ c && c ≤ '9' then some (c.toNat - 48 + 26)
  else none

def digit (n : Nat) : Char := Char.ofNat (if n < 26 then n + 97 else n - 26 + 48)

/-! ## Reading -/

/-- Where reading stands: the code point and the index reached, and the number that is being
read, with the weight and the position of its next digit. -/
structure Reader where
  out : List Char
  code : Nat := 128
  index : Nat := 0
  bias : Nat := 72
  start : Nat := 0
  weight : Nat := 1
  position : Nat := 36
  midway : Bool := false

/-- Puts the character that a finished number stands for in its place. -/
def Reader.place (r : Reader) (index : Nat) : Option Reader :=
  let count := r.out.length + 1
  let code := r.code + index / count
  let spot := index % count
  if code > 0x10FFFF || (0xD800 ≤ code && code < 0xE000) then none
  else
    some { out := r.out.take spot ++ Char.ofNat code :: r.out.drop spot
           code
           index := spot + 1
           bias := adapt (index - r.start) count (r.start == 0)
           start := spot + 1 }

/-- Reads digits to the end; the text must not end inside a number, and numbers and weights have to
fit into 32 bits. -/
def Reader.run (r : Reader) : List Char → Option (List Char)
  | [] => if r.midway then none else some r.out
  | c :: cs =>
    match digitValue? c with
    | none => none
    | some d =>
      let index := r.index + d * r.weight
      let t := threshold r.bias r.position
      if UInt32.size ≤ index then none
      else if d < t then
        match r.place index with
        | some r => r.run cs
        | none => none
      else if UInt32.size ≤ r.weight * (36 - t) then none
      else
        Reader.run { r with
          index
          weight := r.weight * (36 - t)
          position := r.position + 36
          midway := true } cs

/-- The characters before the last hyphen and those behind it. A hyphen in the first place cuts
nothing. -/
def cutAtHyphen (cs : List Char) : List Char × List Char :=
  let tail := (cs.reverse.takeWhile (· != '-')).reverse
  if tail.length + 1 < cs.length then (cs.take (cs.length - tail.length - 1), tail) else ([], cs)

/-- The characters that a written form stands for. -/
def decode? (cs : List Char) : Option (List Char) :=
  let (basic, rest) := cutAtHyphen cs
  if basic.all (·.toNat < 128) then Reader.run { out := basic } rest else none

/-! ## Writing -/

/-- A number as digits of variable length; `fuel` is at least its number of binary digits. -/
def number (bias : Nat) : Nat → Nat → Nat → List Char
  | 0, _, n => [digit n]
  | fuel + 1, k, n =>
    let t := threshold bias k
    if n < t then [digit n]
    else digit (t + (n - t) % (36 - t)) :: number bias fuel (k + 36) ((n - t) / (36 - t))

/-- Where writing stands: the difference gathered, the bias and the characters written. -/
structure Writer where
  delta : Nat := 0
  bias : Nat := 72
  handled : Nat
  out : List Char := []

/-- Passes one character of the label while the code point `code` is being written. -/
def Writer.pass (first : Nat) (code : Nat) (w : Writer) (c : Char) : Writer :=
  if c.toNat < code then { w with delta := w.delta + 1 }
  else if c.toNat == code then
    { delta := 0
      bias := adapt w.delta (w.handled + 1) (w.handled == first)
      handled := w.handled + 1
      out := w.out ++ number w.bias (w.delta.log2 + 1) 36 w.delta }
  else w

/-- Writes all characters with one code point after those with a smaller one. -/
def Writer.level (cs : List Char) (first : Nat) (st : Writer × Nat) (code : Nat) : Writer × Nat :=
  let w := { st.1 with delta := st.1.delta + (code - st.2) * (st.1.handled + 1) }
  let w := cs.foldl (Writer.pass first code) w
  ({ w with delta := w.delta + 1 }, code + 1)

/-- The written form of a label. -/
def encode (cs : List Char) : List Char :=
  let basic := cs.filter (·.toNat < 128)
  let codes := ((cs.map Char.toNat).filter (128 ≤ ·)).mergeSort.eraseDups
  let w := (codes.foldl (Writer.level cs basic.length) ({ handled := basic.length }, 128)).1
  (if basic.isEmpty then [] else basic ++ ['-']) ++ w.out

end IsoServer.Punycode
