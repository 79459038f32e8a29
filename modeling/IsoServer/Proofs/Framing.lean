-- Framed bodies read back. Whatever the framing, a reader that goes by the header fields gets the
-- body as it was written, or the part of it that came, and knows whether it is whole.
import Mathlib
import IsoServer.Proofs.Digits
import IsoServer.Proofs.Names
import IsoServer.Proxy.Framing

namespace IsoServer

/-! ## Values of a name -/

namespace Headers

theorem values_append (name : String) (front back : Headers) :
    values name (front ++ back) = values name front ++ values name back := by
  simp [values]

theorem values_eq_nil {name : String} {headers : Headers} (h : ∀ f ∈ headers, f.1 ≠ name) :
    values name headers = [] := by
  unfold values
  rw [List.map_eq_nil_iff, List.filter_eq_nil_iff]
  intro f hf
  simpa using h f hf

theorem get?_eq_head? (name : String) (headers : Headers) :
    headers.get? name = (headers.values name).head? := by
  unfold get? values
  induction headers with
  | nil => rfl
  | cons f rest ih =>
    obtain ⟨key, value⟩ := f
    by_cases h : key = name
    · simp [h]
    · have hother : (name == key) = false := by simpa using Ne.symm h
      simpa [List.lookup_cons, hother, h] using ih

end Headers

namespace Proxy

open Framing Extent

/-! ## Sizes of chunks -/

theorem hex_spec (n : Nat) :
    ∃ digits : List Nat, digits ≠ [] ∧ (∀ d ∈ digits, d < 16) ∧ Bytes.valueOf 16 digits = n ∧
      hex n = digits.map Bytes.hexLower :=
  Bytes.toDigits_spec (by decide) (by decide) n

theorem isSome_hexValue?_of_mem_hex {n : Nat} {b : UInt8} (h : b ∈ hex n) :
    (Bytes.hexValue? b).isSome = true := by
  obtain ⟨digits, -, hdigits, -, htext⟩ := hex_spec n
  rw [htext] at h
  obtain ⟨d, hd, rfl⟩ := List.mem_map.mp h
  rw [Bytes.hexValue?_hexLower (hdigits d hd)]
  rfl

theorem filterMap_hexValue?_hexLower {digits : List Nat} (h : ∀ d ∈ digits, d < 16) :
    (digits.map Bytes.hexLower).filterMap Bytes.hexValue? = digits := by
  induction digits with
  | nil => rfl
  | cons d rest ih =>
    rw [List.map_cons, List.filterMap_cons_some (Bytes.hexValue?_hexLower (h d (by simp))),
      ih fun e he => h e (List.mem_cons_of_mem _ he)]

/-- The size in front of a chunk reads back, if it fits into 64 bits. -/
theorem chunkSize?_hex {n : Nat} (h : n < UInt64.size) (rest : Bytes) :
    chunkSize? (hex n ++ (lineEnd ++ rest)) = some (n, rest) := by
  obtain ⟨digits, hne, hdigits, hvalue, htext⟩ := hex_spec n
  have htake : (hex n ++ (lineEnd ++ rest)).takeWhile (fun b => (Bytes.hexValue? b).isSome) =
      hex n := by
    rw [List.takeWhile_append_of_pos fun b hb => isSome_hexValue?_of_mem_hex hb]
    have hstop : (lineEnd ++ rest).takeWhile (fun b => (Bytes.hexValue? b).isSome) = [] := rfl
    rw [hstop, List.append_nil]
  have hsize : Bytes.valueOf 16 ((hex n).filterMap Bytes.hexValue?) = n := by
    rw [htext, filterMap_hexValue?_hexLower hdigits, hvalue]
  have hnonempty : (hex n).isEmpty = false := by simp [htext, hne]
  have hafter : afterSize (lineEnd ++ rest) = lineEnd ++ rest := rfl
  unfold chunkSize?
  simp only [htake, hsize, hnonempty, List.drop_left, hafter, Bool.false_or, decide_eq_true_eq]
  rw [if_neg (by omega)]
  rfl

/-! ## Chunks -/

theorem readChunks_of_zero {s rest : Bytes} (h : chunkSize? s = some (0, rest)) :
    readChunks s = ⟨[], !trailerEnds true rest⟩ := by
  rw [readChunks]
  split
  · rename_i hnone
    rw [h] at hnone
    cases hnone
  · rename_i hzero
    rw [h] at hzero
    cases hzero
    rfl
  · rename_i hsucc
    rw [h] at hsucc
    cases hsucc

theorem readChunks_of_succ {s rest : Bytes} {n : Nat} (h : chunkSize? s = some (n + 1, rest)) :
    readChunks s =
      if rest.length < n + 1 then ⟨rest, true⟩
      else
        match rest.drop (n + 1) with
        | 0x0D :: 0x0A :: _ =>
          ⟨rest.take (n + 1) ++ (readChunks (rest.drop (n + 3))).content,
            (readChunks (rest.drop (n + 3))).cut⟩
        | _ => ⟨rest.take (n + 1), true⟩ := by
  rw [readChunks]
  split
  · rename_i hnone
    rw [h] at hnone
    cases hnone
  · rename_i hzero
    rw [h] at hzero
    cases hzero
  · rename_i hsucc
    rw [h] at hsucc
    cases hsucc
    rfl

/-- A chunk in front is read, and then what follows it. -/
theorem readChunks_writeChunk {chunk : Bytes} (hne : chunk ≠ [])
    (hsize : chunk.length < UInt64.size) (rest : Bytes) :
    readChunks (writeChunk chunk ++ rest) =
      ⟨chunk ++ (readChunks rest).content, (readChunks rest).cut⟩ := by
  obtain ⟨n, hn⟩ : ∃ n, chunk.length = n + 1 :=
    Nat.exists_eq_add_one.mpr (List.length_pos_iff.mpr hne)
  have hwrite : writeChunk chunk ++ rest =
      hex chunk.length ++ (lineEnd ++ (chunk ++ (lineEnd ++ rest))) := by
    simp [writeChunk]
  have hread := chunkSize?_hex hsize (chunk ++ (lineEnd ++ rest))
  have htake : (chunk ++ (lineEnd ++ rest)).take (n + 1) = chunk := by rw [← hn, List.take_left]
  have hdrop : (chunk ++ (lineEnd ++ rest)).drop (n + 1) = 0x0D :: 0x0A :: rest := by
    rw [← hn, List.drop_left]
    rfl
  have hbehind : (chunk ++ (lineEnd ++ rest)).drop (n + 3) = rest := by
    rw [show n + 3 = n + 1 + 2 from rfl, ← List.drop_drop, hdrop]
    rfl
  rw [hn] at hread
  rw [hwrite, hn, readChunks_of_succ hread, if_neg (by simp; omega), htake, hdrop, hbehind]
  rfl

/-- Chunks in front are read one after the other, and then what follows them. -/
theorem readChunks_flatMap {chunks : List Bytes}
    (h : ∀ chunk ∈ chunks, chunk ≠ [] ∧ chunk.length < UInt64.size) (rest : Bytes) :
    readChunks (chunks.flatMap writeChunk ++ rest) =
      ⟨chunks.flatten ++ (readChunks rest).content, (readChunks rest).cut⟩ := by
  induction chunks with
  | nil => rfl
  | cons chunk chunks ih =>
    obtain ⟨hne, hsize⟩ := h chunk (List.mem_cons_self ..)
    rw [List.flatMap_cons, List.append_assoc, readChunks_writeChunk hne hsize,
      ih fun c hc => h c (List.mem_cons_of_mem _ hc)]
    simp

theorem readChunks_lastChunk : readChunks lastChunk = ⟨[], false⟩ := by
  have hsize : chunkSize? lastChunk = some (0, lineEnd) := rfl
  rw [readChunks_of_zero hsize]
  rfl

theorem readChunks_nil : readChunks [] = ⟨[], true⟩ := by
  rw [readChunks]
  rfl

/-! ## Pieces -/

theorem flatten_pieces (size : Nat) (body : Bytes) : (pieces size body).flatten = body := by
  fun_induction pieces size body with
  | case1 => rfl
  | case2 b rest ih => simp [ih]

/-- A piece holds a byte at least, and is neither longer than the size nor than the body. -/
theorem length_of_mem_pieces {size : Nat} {body piece : Bytes} (h : piece ∈ pieces size body) :
    piece ≠ [] ∧ piece.length ≤ max size 1 ∧ piece.length ≤ body.length := by
  fun_induction pieces size body with
  | case1 => cases h
  | case2 b rest ih =>
    rcases List.mem_cons.mp h with rfl | h
    · simp
      omega
    · obtain ⟨hne, hsize, hlength⟩ := ih h
      refine ⟨hne, hsize, ?_⟩
      simp at hlength ⊢
      omega

/-! ## Bodies -/

/-- Whether the numbers that a framing writes can be read: a declared length below 2⁶³, and chunks
whose sizes fit into 64 bits. -/
def Framing.Fits (body : Bytes) : Framing → Prop
  | .length declared => declared < 2 ^ 63
  | .chunked size | .chunkedCut size => min size body.length < UInt64.size
  | .close => True

instance (body : Bytes) : (framing : Framing) → Decidable (framing.Fits body)
  | .length declared => inferInstanceAs (Decidable (declared < 2 ^ 63))
  | .chunked size | .chunkedCut size =>
    inferInstanceAs (Decidable (min size body.length < UInt64.size))
  | .close => inferInstanceAs (Decidable True)

/-- The extent that the fields of a framing tell. -/
def Framing.extent : Framing → Extent
  | .length declared => .bytes declared
  | .chunked _ | .chunkedCut _ => .chunks
  | .close => .untilClose

/-- What a reader gets of a body. -/
def Framing.received (body : Bytes) : Framing → Received
  | .length declared => ⟨body.take declared, body.length < declared⟩
  | .chunked _ | .close => ⟨body, false⟩
  | .chunkedCut _ => ⟨body, true⟩

theorem pieces_fit {size : Nat} {body : Bytes} (h : min size body.length < UInt64.size) :
    ∀ piece ∈ pieces size body, piece ≠ [] ∧ piece.length < UInt64.size := by
  intro piece hpiece
  obtain ⟨hne, hsize, hlength⟩ := length_of_mem_pieces hpiece
  have hone : 1 < UInt64.size := by decide
  exact ⟨hne, by omega⟩

/-- What is written in a framing is read by the extent of that framing. -/
theorem read_write {framing : Framing} {body : Bytes} (h : framing.Fits body) :
    framing.extent.read (framing.write body) = framing.received body := by
  cases framing with
  | length declared => rfl
  | chunked size =>
    simp only [Framing.extent, Framing.write, Extent.read, Framing.received]
    rw [readChunks_flatMap (pieces_fit h), flatten_pieces, readChunks_lastChunk, List.append_nil]
  | chunkedCut size =>
    have hread := readChunks_flatMap (pieces_fit h) []
    rw [List.append_nil, flatten_pieces, readChunks_nil, List.append_nil] at hread
    exact hread
  | close => rfl

/-! ## Fields -/

theorem isDigit_visible {b : UInt8} (h : Bytes.isDigit b = true) :
    ((0x20 ≤ b && b < 0x7F) || b == 0x09) = true := by
  simp only [Bytes.isDigit, Bool.and_eq_true, decide_eq_true_eq] at h
  simp only [Bool.or_eq_true, Bool.and_eq_true, decide_eq_true_eq]
  left
  constructor
  · exact UInt8.le_trans (by decide) h.1
  · exact UInt8.lt_of_le_of_lt h.2 (by decide)

/-- A row without blanks has none to lose. -/
theorem trimBy_of_all {p : UInt8 → Bool} {s : Bytes} (h : ∀ b ∈ s, p b = false) :
    Bytes.trimBy p s = s := by
  have hkeep : ∀ t : Bytes, (∀ b ∈ t, p b = false) → t.dropWhile p = t := by
    intro t ht
    cases t with
    | nil => rfl
    | cons b rest => simp [ht b (List.mem_cons_self ..)]
  unfold Bytes.trimBy
  rw [hkeep s h, hkeep s.reverse fun b hb => h b (List.mem_reverse.mp hb), List.reverse_reverse]

/-- Whether a field value says a number: once, or more often with commas between. -/
def Says (value : Bytes) (n : Nat) : Prop :=
  ∀ part ∈ Bytes.splitOn 0x2C value, Bytes.decimal? (Bytes.trimBy Bytes.isBlank part) = some n

theorem splitOn_decimal (n : Nat) : Bytes.splitOn 0x2C (Bytes.decimal n) = [Bytes.decimal n] :=
  Bytes.splitOn_of_not_mem fun h => absurd (Bytes.isDigit_of_mem_decimal h) (by decide)

theorem trimBy_decimal (n : Nat) :
    Bytes.trimBy Bytes.isBlank (Bytes.decimal n) = Bytes.decimal n := by
  refine trimBy_of_all fun b hb => ?_
  have hdigit := Bytes.isDigit_of_mem_decimal hb
  cases hblank : Bytes.isBlank b with
  | false => rfl
  | true =>
    simp only [Bytes.isBlank, Bool.or_eq_true, beq_iff_eq] at hblank
    rcases hblank with rfl | rfl <;> exact absurd hdigit (by decide)

theorem says_decimal (n : Nat) : Says (Bytes.decimal n) n := by
  intro part hpart
  rw [splitOn_decimal, List.mem_singleton] at hpart
  rw [hpart, trimBy_decimal, Bytes.decimal?_decimal]

theorem lengthsIn?_decimal (n : Nat) : lengthsIn? (Bytes.decimal n) = some [n] := by
  have hvisible : Headers.visible? (Bytes.decimal n) = some (Bytes.decimal n) := by
    unfold Headers.visible?
    rw [if_pos (List.all_eq_true.mpr fun b hb =>
      isDigit_visible (Bytes.isDigit_of_mem_decimal hb))]
  unfold lengthsIn?
  rw [hvisible, Option.bind_some, splitOn_decimal, List.map_singleton, trimBy_decimal]
  simp [Bytes.decimal?_decimal]

theorem declaredLength?_decimal {n : Nat} (h : n < maxLength) :
    declaredLength? [Bytes.decimal n] = some n := by
  simp [declaredLength?, lengthsIn?_decimal, h]

theorem exists_of_mapM {α β : Type} {f : α → Option β} {xs : List α} {ys : List β}
    (h : xs.mapM f = some ys) : ∀ x ∈ xs, ∃ y ∈ ys, f x = some y := by
  induction xs generalizing ys with
  | nil => simp
  | cons x xs ih =>
    simp only [List.mapM_cons, Option.bind_eq_bind, Option.bind_eq_some_iff, Option.pure_def,
      Option.some.injEq] at h
    obtain ⟨y, hy, zs, hzs, rfl⟩ := h
    intro z hz
    rcases List.mem_cons.mp hz with rfl | hz
    · exact ⟨y, List.mem_cons_self .., hy⟩
    · obtain ⟨w, hw, hzw⟩ := ih hzs z hz
      exact ⟨w, List.mem_cons_of_mem _ hw, hzw⟩

theorem says_of_lengthsIn? {value : Bytes} {numbers : List Nat} {n : Nat}
    (h : lengthsIn? value = some numbers) (hall : ∀ k ∈ numbers, k = n) : Says value n := by
  obtain ⟨seen, hseen, hread⟩ := Option.bind_eq_some_iff.mp h
  have hvalue : seen = value := by
    unfold Headers.visible? at hseen
    split_ifs at hseen
    exact (Option.some.inj hseen).symm
  subst hvalue
  intro part hpart
  obtain ⟨k, hk, hpart⟩ := exists_of_mapM hread _ (List.mem_map_of_mem hpart)
  rw [hpart, hall k hk]

/-- All fields say the length that they agree on. -/
theorem says_of_declaredLength? {values : List Bytes} {n : Nat}
    (h : declaredLength? values = some n) : ∀ value ∈ values, Says value n := by
  unfold declaredLength? at h
  split at h
  · rename_i first others hread
    split_ifs at h with hagree
    cases h
    obtain ⟨rows, hrows, hflat⟩ := Option.map_eq_some_iff.mp hread
    simp only [Bool.and_eq_true, List.all_eq_true, beq_iff_eq, decide_eq_true_eq] at hagree
    intro value hvalue
    obtain ⟨row, hrow, hnumbers⟩ := exists_of_mapM hrows value hvalue
    refine says_of_lengthsIn? hnumbers fun k hk => ?_
    have hmem : k ∈ n :: others := hflat ▸ List.mem_flatten_of_mem hrow hk
    rcases List.mem_cons.mp hmem with hk | hk
    · exact hk
    · exact hagree.1 k hk
  · cases h

/-- Fields of other names around those of a framing do not matter. -/
theorem values_framed {name : String} {own more fields : Headers}
    (h : ∀ f ∈ own ++ more, f.1 ≠ name) :
    (own ++ fields ++ more).values name = fields.values name := by
  rw [Headers.values_append, Headers.values_append,
    Headers.values_eq_nil fun f hf => h f (List.mem_append_left _ hf),
    Headers.values_eq_nil fun f hf => h f (List.mem_append_right _ hf)]
  simp

/-- A reply that can have a body has the extent that its transfer codings tell, or else its
lengths. -/
theorem ofReply?_of_content {status : Nat} (hlow : 200 ≤ status) (hempty : status ≠ 204)
    (hunchanged : status ≠ 304) (headers : Headers) :
    Extent.ofReply? status headers =
      if headers.values "transfer-encoding" ≠ [] then
        some (if endsInChunks (headers.values "transfer-encoding") then .chunks else .untilClose)
      else if headers.values "content-length" = [] then some .untilClose
      else (declaredLength? (headers.values "content-length")).map .bytes := by
  have hcontent : (status < 200 || status == 204 || status == 304) = false := by
    simp [hempty, hunchanged, hlow]
  unfold Extent.ofReply?
  rw [hcontent]
  simp

/-- Without a transfer coding, a body that did not break off has the length that every field
says. -/
theorem says_of_whole {status : Nat} {headers : Headers} {extent : Extent} {rest value : Bytes}
    (hlow : 200 ≤ status) (hempty : status ≠ 204) (hunchanged : status ≠ 304)
    (hcodings : headers.values "transfer-encoding" = [])
    (hvalue : value ∈ headers.values "content-length")
    (hextent : Extent.ofReply? status headers = some extent)
    (hwhole : (extent.read rest).cut = false) :
    Says value (extent.read rest).content.length := by
  rw [ofReply?_of_content hlow hempty hunchanged, if_neg (by simpa using hcodings),
    if_neg (List.ne_nil_of_mem hvalue)] at hextent
  obtain ⟨n, hn, rfl⟩ := Option.map_eq_some_iff.mp hextent
  have hlength : (rest.take n).length = n := by
    simp only [Extent.read, decide_eq_false_iff_not] at hwhole
    rw [List.length_take]
    omega
  simp only [Extent.read]
  rw [hlength]
  exact says_of_declaredLength? hn value hvalue

/-- The fields of a framing tell its extent, if no other field speaks of the body. -/
theorem ofReply?_framed {status : Nat} {framing : Framing} {body : Bytes} {own more : Headers}
    (hsuccess : 200 ≤ status ∧ status ≤ 299) (hcontent : status ≠ 204)
    (hown : ∀ f ∈ own ++ more, f.1 ≠ "content-length" ∧ f.1 ≠ "transfer-encoding")
    (hfits : framing.Fits body) :
    Extent.ofReply? status (own ++ framing.fields ++ more) = some framing.extent := by
  rw [ofReply?_of_content hsuccess.1 hcontent (by omega),
    values_framed fun f hf => (hown f hf).1, values_framed fun f hf => (hown f hf).2]
  cases framing with
  | length declared =>
    have hmax : declared < maxLength := Nat.lt_trans hfits (by decide)
    simp [Framing.fields, Headers.values, Framing.extent, declaredLength?_decimal hmax]
  | chunked size => rfl
  | chunkedCut size => rfl
  | close => rfl

end Proxy

end IsoServer
