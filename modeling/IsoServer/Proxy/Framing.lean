-- Where the body of a reply ends. It ends after a declared number of bytes, after a chunk
-- of size zero, or with the connection. Writing stands beside reading.
import IsoServer.Http.Message

namespace IsoServer.Proxy

/-! ## Writing -/

/-- A way to mark the end of a body. -/
inductive Framing where
  /-- The length is declared, rightly or wrongly. -/
  | length (declared : Nat)
  /-- Chunks of a given size, one at least. -/
  | chunked (size : Nat)
  /-- The same, but closed before the last chunk. -/
  | chunkedCut (size : Nat)
  /-- The body ends with the connection. -/
  | close
  deriving DecidableEq, Repr

namespace Framing

def lineEnd : Bytes := [0x0D, 0x0A]

/-- The hexadecimal digits of a number. -/
def hex (n : Nat) : Bytes := Bytes.ofString (String.ofList (Nat.toDigits 16 n))

/-- One chunk: its size, a line end, its bytes and a line end. -/
def writeChunk (chunk : Bytes) : Bytes := hex chunk.length ++ lineEnd ++ chunk ++ lineEnd

/-- Cuts a body into pieces of a size; the last one may be shorter. -/
def pieces (size : Nat) : Bytes → List Bytes
  | [] => []
  | b :: rest => (b :: rest.take (size - 1)) :: pieces size (rest.drop (size - 1))
termination_by s => s.length
decreasing_by simp only [List.length_cons, List.length_drop]; omega

/-- The last chunk. -/
def lastChunk : Bytes := hex 0 ++ lineEnd ++ lineEnd

/-- The header fields of a framing. -/
def fields : Framing → Headers
  | .length declared => [("content-length", Bytes.decimal declared)]
  | .chunked _ | .chunkedCut _ => [("transfer-encoding", Bytes.ofString "chunked")]
  | .close => []

/-- The bytes of a body in a framing. -/
def write (body : Bytes) : Framing → Bytes
  | .length _ => body
  | .chunked size => (pieces size body).flatMap writeChunk ++ lastChunk
  | .chunkedCut size => (pieces size body).flatMap writeChunk
  | .close => body

end Framing

/-! ## Reading -/

/-- What was read of a body, and whether it broke off. -/
structure Received where
  content : Bytes
  cut : Bool
  deriving DecidableEq, Repr

/-- Where a body ends, by the header fields. -/
inductive Extent where
  | empty
  | bytes (count : Nat)
  | chunks
  | untilClose
  deriving DecidableEq, Repr

namespace Extent

/-- Numbers of bytes from this one on are not accepted. -/
def maxLength : Nat := UInt64.size - 2

/-- The numbers in a field value, with commas between them. -/
def lengthsIn? (value : Bytes) : Option (List Nat) :=
  (Headers.visible? value).bind fun v =>
    ((Bytes.splitOn 0x2C v).map (Bytes.trimBy Bytes.isBlank)).mapM Bytes.decimal?

/-- The length that all fields agree on. -/
def declaredLength? (values : List Bytes) : Option Nat :=
  match (values.mapM lengthsIn?).map List.flatten with
  | some (n :: ns) => if ns.all (· == n) && n < maxLength then some n else none
  | _ => none

/-- Whether the last transfer coding is the one in chunks. -/
def endsInChunks (values : List Bytes) : Bool :=
  match values.getLast? with
  | none => false
  | some v =>
    match (Bytes.splitOn 0x2C v).getLast? with
    | none => false
    | some coding =>
      (Bytes.trimBy Bytes.isBlank coding).map Bytes.toLower == Bytes.ofString "chunked"

/-- The extent of the body of a reply; none if the declared lengths make no sense. A transfer
coding outweighs a length. -/
def ofReply? (status : Nat) (headers : Headers) : Option Extent :=
  if status < 200 || status == 204 || status == 304 then some .empty
  else
    let codings := headers.values "transfer-encoding"
    let lengths := headers.values "content-length"
    if !codings.isEmpty then some (if endsInChunks codings then .chunks else .untilClose)
    else if lengths.isEmpty then some .untilClose
    else (declaredLength? lengths).map .bytes

/-- The bytes behind the digits, the blanks and the extension of a chunk's first line. -/
def afterSize (s : Bytes) : Bytes :=
  match s.dropWhile Bytes.isBlank with
  | 0x3B :: rest => rest.dropWhile fun b => b != 0x0D && b != 0x0A
  | rest => rest

/-- The size at the start of a chunk, and what follows its line. Blanks and an extension may stand
behind the digits. -/
def chunkSize? (s : Bytes) : Option (Nat × Bytes) :=
  let digits := s.takeWhile fun b => (Bytes.hexValue? b).isSome
  let size := Bytes.valueOf 16 (digits.filterMap Bytes.hexValue?)
  if digits.isEmpty || UInt64.size ≤ size then none
  else
    match afterSize (s.drop digits.length) with
    | 0x0D :: 0x0A :: rest => some (size, rest)
    | _ => none

theorem length_afterSize_le (s : Bytes) : (afterSize s).length ≤ s.length := by
  have hlen : ∀ (p : UInt8 → Bool) (t : Bytes), (t.dropWhile p).length ≤ t.length :=
    fun p t => (List.dropWhile_sublist p).length_le
  have hblank := hlen Bytes.isBlank s
  unfold afterSize
  split
  · rename_i rest heq
    have hext := hlen (fun b => b != 0x0D && b != 0x0A) rest
    rw [heq, List.length_cons] at hblank
    omega
  · exact hblank

/-- What follows the first line of a chunk is shorter than the chunk. -/
theorem length_lt_of_chunkSize? {s rest : Bytes} {n : Nat} (h : chunkSize? s = some (n, rest)) :
    rest.length < s.length := by
  unfold chunkSize? at h
  simp only at h
  split at h
  · cases h
  · split at h
    · rename_i heq
      cases h
      have hle := length_afterSize_le
        (s.drop (s.takeWhile fun b => (Bytes.hexValue? b).isSome).length)
      rw [heq] at hle
      simp only [List.length_cons, List.length_drop] at hle
      omega
    · cases h

/-- Whether the lines behind the last chunk end with an empty one. -/
def trailerEnds : Bool → Bytes → Bool
  | true, 0x0D :: 0x0A :: _ => true
  | _, 0x0A :: rest => trailerEnds true rest
  | _, _ :: rest => trailerEnds false rest
  | _, [] => false

/-- Reads chunks up to the last one. A chunk that is short or badly written breaks the body
off. -/
def readChunks (s : Bytes) : Received :=
  match h : chunkSize? s with
  | none => ⟨[], true⟩
  | some (0, rest) => ⟨[], !trailerEnds true rest⟩
  | some (n + 1, rest) =>
    have := length_lt_of_chunkSize? h
    if rest.length < n + 1 then ⟨rest, true⟩
    else
      match rest.drop (n + 1) with
      | 0x0D :: 0x0A :: _ =>
        let later := readChunks (rest.drop (n + 3))
        ⟨rest.take (n + 1) ++ later.content, later.cut⟩
      | _ => ⟨rest.take (n + 1), true⟩
termination_by s.length
decreasing_by simp only [List.length_drop]; omega

/-- Reads a body from the bytes that came until the connection was closed. -/
def read (rest : Bytes) : Extent → Received
  | .empty => ⟨[], false⟩
  | .bytes n => ⟨rest.take n, rest.length < n⟩
  | .chunks => readChunks rest
  | .untilClose => ⟨rest, false⟩

end Extent

end IsoServer.Proxy
