-- Characters and their bytes. What is read of a character in UTF-8 is written again with the same
-- bytes, and what is written of a character is read as that character; so a byte string is UTF-8
-- just when it is the bytes of a text.
import Mathlib
import IsoServer.Proofs.Targets

namespace IsoServer

/-! ## One character -/

namespace Utf8

theorem isTail_iff {b : UInt8} : isTail b = true ↔ 0x80 ≤ b.toNat ∧ b.toNat ≤ 0xBF := by
  simp [isTail, UInt8.le_iff_toNat_le]

theorem leadsTwo_iff {b : UInt8} : leadsTwo b = true ↔ 0xC2 ≤ b.toNat ∧ b.toNat ≤ 0xDF := by
  simp [leadsTwo, UInt8.le_iff_toNat_le]

theorem leadsThree_iff {b₀ b₁ : UInt8} :
    leadsThree b₀ b₁ = true ↔ 0xE0 ≤ b₀.toNat ∧ b₀.toNat ≤ 0xEF ∧ 0x80 ≤ b₁.toNat ∧
      b₁.toNat ≤ 0xBF ∧ (b₀.toNat = 0xE0 → 0xA0 ≤ b₁.toNat) ∧
      (b₀.toNat = 0xED → b₁.toNat ≤ 0x9F) := by
  simp only [leadsThree, isTail, Bool.or_eq_true, Bool.and_eq_true, beq_iff_eq,
    decide_eq_true_eq, UInt8.le_iff_toNat_le, ← UInt8.toNat_inj, UInt8.toNat_ofNat,
    Nat.reducePow, Nat.reduceMod]
  omega

theorem leadsFour_iff {b₀ b₁ : UInt8} :
    leadsFour b₀ b₁ = true ↔ 0xF0 ≤ b₀.toNat ∧ b₀.toNat ≤ 0xF4 ∧ 0x80 ≤ b₁.toNat ∧
      b₁.toNat ≤ 0xBF ∧ (b₀.toNat = 0xF0 → 0x90 ≤ b₁.toNat) ∧
      (b₀.toNat = 0xF4 → b₁.toNat ≤ 0x8F) := by
  simp only [leadsFour, isTail, Bool.or_eq_true, Bool.and_eq_true, beq_iff_eq,
    decide_eq_true_eq, UInt8.le_iff_toNat_le, ← UInt8.toNat_inj, UInt8.toNat_ofNat,
    Nat.reducePow, Nat.reduceMod]
  omega

/-- A code point that is no surrogate is the number of its character. -/
theorem toNat_val_ofNat {n : Nat} (h : n < 0xD800 ∨ 0xDFFF < n ∧ n < 0x110000) :
    (Char.ofNat n).val.toNat = n := by
  have hvalid : n.isValidChar := h
  have hchar : (Char.ofNat n).toNat = n := by rw [Char.toNat_ofNat, if_pos hvalid]
  exact hchar

theorem eq_ofNat {b : UInt8} {n : Nat} (h : b.toNat = n) : UInt8.ofNat n = b := by
  rw [← h, UInt8.ofNat_toNat]

theorem encodeChar_two {b₀ b₁ : UInt8} (h₀ : leadsTwo b₀ = true) (h₁ : isTail b₁ = true) :
    String.utf8EncodeChar (Char.ofNat ((b₀.toNat - 0xC0) * 64 + tailBits b₁)) = [b₀, b₁] := by
  rw [leadsTwo_iff] at h₀
  rw [isTail_iff] at h₁
  unfold String.utf8EncodeChar tailBits
  generalize hn : (b₀.toNat - 0xC0) * 64 + (b₁.toNat - 0x80) = n
  rw [toNat_val_ofNat (by omega)]
  simp only
  rw [if_neg (by omega), if_pos (by omega), eq_ofNat (b := b₀) (by omega),
    eq_ofNat (b := b₁) (by omega)]

theorem encodeChar_three {b₀ b₁ b₂ : UInt8} (h₀ : leadsThree b₀ b₁ = true)
    (h₂ : isTail b₂ = true) :
    String.utf8EncodeChar
      (Char.ofNat ((b₀.toNat - 0xE0) * 4096 + tailBits b₁ * 64 + tailBits b₂)) =
        [b₀, b₁, b₂] := by
  rw [leadsThree_iff] at h₀
  rw [isTail_iff] at h₂
  unfold String.utf8EncodeChar tailBits
  generalize hn : (b₀.toNat - 0xE0) * 4096 + (b₁.toNat - 0x80) * 64 + (b₂.toNat - 0x80) = n
  rw [toNat_val_ofNat (by omega)]
  simp only
  rw [if_neg (by omega), if_neg (by omega), if_pos (by omega), eq_ofNat (b := b₀) (by omega),
    eq_ofNat (b := b₁) (by omega), eq_ofNat (b := b₂) (by omega)]

theorem encodeChar_four {b₀ b₁ b₂ b₃ : UInt8} (h₀ : leadsFour b₀ b₁ = true)
    (h₂ : isTail b₂ = true) (h₃ : isTail b₃ = true) :
    String.utf8EncodeChar
      (Char.ofNat ((b₀.toNat - 0xF0) * 262144 + tailBits b₁ * 4096 + tailBits b₂ * 64 +
        tailBits b₃)) = [b₀, b₁, b₂, b₃] := by
  rw [leadsFour_iff] at h₀
  rw [isTail_iff] at h₂ h₃
  unfold String.utf8EncodeChar tailBits
  generalize hn : (b₀.toNat - 0xF0) * 262144 + (b₁.toNat - 0x80) * 4096 +
    (b₂.toNat - 0x80) * 64 + (b₃.toNat - 0x80) = n
  rw [toNat_val_ofNat (by omega)]
  simp only
  rw [if_neg (by omega), if_neg (by omega), if_neg (by omega), eq_ofNat (b := b₀) (by omega),
    eq_ofNat (b := b₁) (by omega), eq_ofNat (b := b₂) (by omega), eq_ofNat (b := b₃) (by omega)]

/-! ## The bytes of one character -/

/-- A number below 256 is that of a byte. -/
theorem exists_byte {n : Nat} (h : n < 256) : ∃ b : UInt8, UInt8.ofNat n = b ∧ b.toNat = n :=
  ⟨_, rfl, UInt8.toNat_ofNat_of_lt' h⟩

theorem not_single {b : UInt8} (h : 0x80 ≤ b.toNat) : ¬ b < 0x80 := by
  simpa [UInt8.lt_iff_toNat_lt] using h

theorem not_leadsTwo {b : UInt8} (h : 0xE0 ≤ b.toNat) : leadsTwo b = false := by
  rw [← Bool.not_eq_true, leadsTwo_iff]
  omega

section Pieces

variable {b₀ b₁ b₂ b₃ : UInt8} (rest : Bytes)

theorem pieces_two (h₀ : leadsTwo b₀ = true) (h₁ : isTail b₁ = true) :
    pieces (b₀ :: b₁ :: rest) =
      some (Char.ofNat ((b₀.toNat - 0xC0) * 64 + tailBits b₁)) :: pieces rest := by
  have hone : ¬ b₀ < 0x80 := not_single (by rw [leadsTwo_iff] at h₀; omega)
  rw [pieces.eq_def]
  simp [hone, h₀, h₁]

theorem pieces_three (h₀ : leadsThree b₀ b₁ = true) (h₂ : isTail b₂ = true) :
    pieces (b₀ :: b₁ :: b₂ :: rest) =
      some (Char.ofNat ((b₀.toNat - 0xE0) * 4096 + tailBits b₁ * 64 + tailBits b₂)) ::
        pieces rest := by
  have hlead := leadsThree_iff.mp h₀
  have hone : ¬ b₀ < 0x80 := not_single (by omega)
  have htwo : leadsTwo b₀ = false := not_leadsTwo (by omega)
  rw [pieces.eq_def]
  simp [hone, htwo, h₀, h₂]

theorem pieces_four (h₀ : leadsFour b₀ b₁ = true) (h₂ : isTail b₂ = true)
    (h₃ : isTail b₃ = true) :
    pieces (b₀ :: b₁ :: b₂ :: b₃ :: rest) =
      some (Char.ofNat ((b₀.toNat - 0xF0) * 262144 + tailBits b₁ * 4096 + tailBits b₂ * 64 +
        tailBits b₃)) :: pieces rest := by
  have hlead := leadsFour_iff.mp h₀
  have hone : ¬ b₀ < 0x80 := not_single (by omega)
  have htwo : leadsTwo b₀ = false := not_leadsTwo (by omega)
  have hthree : leadsThree b₀ b₁ = false := by
    rw [← Bool.not_eq_true, leadsThree_iff]
    omega
  rw [pieces.eq_def]
  simp [hone, htwo, hthree, h₀, h₂, h₃]

end Pieces

/-- A character above U+007F is written with bytes that all have their high bit set. -/
theorem toNat_of_mem_encodeChar {c : Char} (hc : 0x80 ≤ c.toNat) {b : UInt8}
    (hb : b ∈ String.utf8EncodeChar c) : 0x80 ≤ b.toNat := by
  have hval : c.val.toNat = c.toNat := rfl
  have hhigh : ∀ n : Nat, 0x80 ≤ n → n < 0x100 → 0x80 ≤ (UInt8.ofNat n).toNat := by
    intro n hlow hbyte
    rwa [UInt8.toNat_ofNat_of_lt' hbyte]
  simp only [String.utf8EncodeChar, hval] at hb
  split_ifs at hb
  · omega
  all_goals
    simp only [List.mem_cons, List.not_mem_nil, or_false] at hb
    rcases hb with rfl | rfl | rfl | rfl <;> exact hhigh _ (by omega) (by omega)

/-- The bytes of a character are read as that character, whatever follows. -/
theorem pieces_encodeChar (c : Char) (rest : Bytes) :
    pieces (String.utf8EncodeChar c ++ rest) = some c :: pieces rest := by
  have hvalid : c.val.toNat < 0xD800 ∨ 0xDFFF < c.val.toNat ∧ c.val.toNat < 0x110000 := c.valid
  have hchar : Char.ofNat c.val.toNat = c := Char.ofNat_toNat c
  rw [← hchar]
  unfold String.utf8EncodeChar
  rw [toNat_val_ofNat hvalid]
  generalize c.val.toNat = n at *
  clear hchar
  simp only
  -- in each of the four forms the bytes get names of their own, and only their numbers are left
  split_ifs with hone htwo hthree
  · obtain ⟨b₀, hb₀, h₀⟩ := exists_byte (n := n) (by omega)
    have hsingle : b₀ < 0x80 := by
      rw [UInt8.lt_iff_toNat_lt, h₀]
      exact Nat.lt_succ_of_le hone
    rw [List.singleton_append, hb₀, pieces.eq_def]
    simp only [hsingle, if_true, h₀]
  · obtain ⟨b₀, hb₀, h₀⟩ := exists_byte (n := n / 64 % 32 + 192) (by omega)
    obtain ⟨b₁, hb₁, h₁⟩ := exists_byte (n := n % 64 + 128) (by omega)
    have hsum : (b₀.toNat - 0xC0) * 64 + tailBits b₁ = n := by
      unfold tailBits
      omega
    simp only [List.cons_append, List.nil_append, hb₀, hb₁]
    rw [pieces_two rest (leadsTwo_iff.mpr (by omega)) (isTail_iff.mpr (by omega)), hsum]
  · obtain ⟨b₀, hb₀, h₀⟩ := exists_byte (n := n / 4096 % 16 + 224) (by omega)
    obtain ⟨b₁, hb₁, h₁⟩ := exists_byte (n := n / 64 % 64 + 128) (by omega)
    obtain ⟨b₂, hb₂, h₂⟩ := exists_byte (n := n % 64 + 128) (by omega)
    have hsum : (b₀.toNat - 0xE0) * 4096 + tailBits b₁ * 64 + tailBits b₂ = n := by
      unfold tailBits
      omega
    simp only [List.cons_append, List.nil_append, hb₀, hb₁, hb₂]
    rw [pieces_three rest (leadsThree_iff.mpr (by omega)) (isTail_iff.mpr (by omega)), hsum]
  · obtain ⟨b₀, hb₀, h₀⟩ := exists_byte (n := n / 262144 % 8 + 240) (by omega)
    obtain ⟨b₁, hb₁, h₁⟩ := exists_byte (n := n / 4096 % 64 + 128) (by omega)
    obtain ⟨b₂, hb₂, h₂⟩ := exists_byte (n := n / 64 % 64 + 128) (by omega)
    obtain ⟨b₃, hb₃, h₃⟩ := exists_byte (n := n % 64 + 128) (by omega)
    have hsum : (b₀.toNat - 0xF0) * 262144 + tailBits b₁ * 4096 + tailBits b₂ * 64 +
        tailBits b₃ = n := by
      unfold tailBits
      omega
    simp only [List.cons_append, List.nil_append, hb₀, hb₁, hb₂, hb₃]
    rw [pieces_four rest (leadsFour_iff.mpr (by omega)) (isTail_iff.mpr (by omega))
      (isTail_iff.mpr (by omega)), hsum]

/-! ## Texts -/

/-- Bytes that are UTF-8 are the bytes of the text that is read from them. -/
theorem ofString_decodeLossy {s : Bytes} (h : isValid s = true) :
    Bytes.ofString (decodeLossy s) = s := by
  unfold isValid at h
  unfold Bytes.ofString decodeLossy
  rw [String.toList_ofList]
  fun_induction pieces s with
  | case1 => rfl
  | case2 b₀ r₀ hone ih =>
    have hascii : Bytes.isAscii b₀ = true := decide_eq_true hone
    rw [List.map_cons, List.flatMap_cons, ih (by simpa using h), Option.getD_some,
      Bytes.encodeChar_of_lt (by rw [Bytes.toNat_charOf hascii]; exact Bytes.isAscii_iff.mp hascii),
      Bytes.toNat_charOf hascii, UInt8.ofNat_toNat]
    rfl
  | case4 b₀ hone b₁ r₁ htwo htail ih =>
    rw [List.map_cons, List.flatMap_cons, ih (by simpa using h), Option.getD_some,
      encodeChar_two htwo htail]
    rfl
  | case7 b₀ hone b₁ htwo hthree b₂ r₂ htail ih =>
    rw [List.map_cons, List.flatMap_cons, ih (by simpa using h), Option.getD_some,
      encodeChar_three hthree htail]
    rfl
  | case11 b₀ hone b₁ htwo hthree hfour b₂ htail₂ b₃ r₃ htail₃ ih =>
    rw [List.map_cons, List.flatMap_cons, ih (by simpa using h), Option.getD_some,
      encodeChar_four hfour htail₂ htail₃]
    rfl
  | _ => simp at h

theorem pieces_ofString (s : String) : pieces (Bytes.ofString s) = s.toList.map some := by
  unfold Bytes.ofString
  generalize s.toList = chars
  induction chars with
  | nil => rfl
  | cons c chars ih => rw [List.flatMap_cons, pieces_encodeChar, ih, List.map_cons]

theorem isValid_ofString (s : String) : isValid (Bytes.ofString s) = true := by
  unfold isValid
  rw [pieces_ofString]
  simp

/-- A byte string is UTF-8 just when it is the bytes of a text. -/
theorem isValid_iff {s : Bytes} : isValid s = true ↔ ∃ text, s = Bytes.ofString text :=
  ⟨fun h => ⟨decodeLossy s, (ofString_decodeLossy h).symm⟩, fun ⟨text, htext⟩ =>
    htext ▸ isValid_ofString text⟩

end Utf8

namespace Bytes

theorem ofString_inj {s t : String} : ofString s = ofString t ↔ s = t := by
  constructor
  · intro h
    have hpieces := congrArg Utf8.pieces h
    rw [Utf8.pieces_ofString, Utf8.pieces_ofString] at hpieces
    exact String.toList_inj.mp (List.map_injective_iff.mpr (Option.some_injective Char) hpieces)
  · rintro rfl
    rfl

/-- An ASCII character is in a text just when its byte is among the bytes of the text. -/
theorem mem_ofString_iff {c : Char} (hc : c.toNat < 0x80) {s : String} :
    UInt8.ofNat c.toNat ∈ ofString s ↔ c ∈ s.toList := by
  have hbyte : (UInt8.ofNat c.toNat).toNat = c.toNat :=
    UInt8.toNat_ofNat_of_lt' (Nat.lt_trans hc (by decide))
  unfold ofString
  rw [List.mem_flatMap]
  constructor
  · rintro ⟨d, hd, hmem⟩
    by_cases hascii : d.toNat < 0x80
    · rw [encodeChar_of_lt hascii, List.mem_singleton] at hmem
      have hsame := congrArg UInt8.toNat hmem
      rw [hbyte, UInt8.toNat_ofNat_of_lt' (Nat.lt_trans hascii (by decide))] at hsame
      rwa [Char.toNat_inj.mp hsame]
    · have hhigh := Utf8.toNat_of_mem_encodeChar (Nat.le_of_not_lt hascii) hmem
      omega
  · intro hmem
    refine ⟨c, hmem, ?_⟩
    rw [encodeChar_of_lt hc]
    exact List.mem_singleton_self _

theorem ofString_concat (s t : String) : ofString (s ++ t) = ofString s ++ ofString t := by
  unfold ofString
  rw [String.toList_append, List.flatMap_append]

end Bytes

end IsoServer
