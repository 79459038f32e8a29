-- Numbers in digits. A number in a base up to sixteen is written as a row of digits with that
-- number as its value, so that reading the digits gives the number back.
import Mathlib
import IsoServer.Bytes

namespace IsoServer.Bytes

/-! ## One digit -/

/-- A character below U+0080 is one byte. -/
theorem encodeChar_of_lt {c : Char} (h : c.toNat < 0x80) :
    String.utf8EncodeChar c = [UInt8.ofNat c.toNat] := by
  have hle : c.toNat ≤ 0x7F := Nat.le_of_lt_succ h
  simp [String.utf8EncodeChar, hle]

theorem ofString_digitChar {d : Nat} (h : d < 16) :
    ofString (String.ofList [Nat.digitChar d]) = [hexLower d] := by
  interval_cases d <;> rfl

theorem hexValue?_hexLower {d : Nat} (h : d < 16) : hexValue? (hexLower d) = some d := by
  interval_cases d <;> rfl

theorem hexValue?_hexUpper {d : Nat} (h : d < 16) : hexValue? (hexUpper d) = some d := by
  interval_cases d <;> rfl

theorem hexUpper_ne_slash {d : Nat} (h : d < 16) : hexUpper d ≠ 0x2F := by
  interval_cases d <;> decide

theorem isDigit_hexLower {d : Nat} (h : d < 10) : isDigit (hexLower d) = true := by
  interval_cases d <;> rfl

theorem toNat_hexLower {d : Nat} (h : d < 10) : (hexLower d).toNat = 0x30 + d := by
  interval_cases d <;> rfl

/-- A hexadecimal digit is the small or the capital one of its value. -/
theorem hexValue?_eq_some {b : UInt8} {v : Nat} (h : hexValue? b = some v) :
    v < 16 ∧ (b = hexLower v ∨ b = hexUpper v) := by
  unfold hexValue? isDigit at h
  simp only [Bool.and_eq_true, decide_eq_true_eq, UInt8.le_iff_toNat_le, UInt8.reduceToNat] at h
  split_ifs at h with hdigit hcapital hsmall
  · cases h
    refine ⟨by omega, .inl ?_⟩
    unfold hexLower
    rw [if_pos (by omega), Nat.add_sub_cancel' hdigit.1, UInt8.ofNat_toNat]
  · cases h
    refine ⟨by omega, .inr ?_⟩
    unfold hexUpper
    rw [if_neg (by omega), Nat.add_sub_cancel' (by omega), UInt8.ofNat_toNat]
  · cases h
    refine ⟨by omega, .inl ?_⟩
    unfold hexLower
    rw [if_neg (by omega), Nat.add_sub_cancel' (by omega), UInt8.ofNat_toNat]

/-! ## Rows of digits -/

theorem ofString_append (s t : List Char) :
    ofString (String.ofList (s ++ t)) =
      ofString (String.ofList s) ++ ofString (String.ofList t) := by
  simp [ofString]

theorem valueOf_concat (base : Nat) (digits : List Nat) (d : Nat) :
    valueOf base (digits ++ [d]) = valueOf base digits * base + d := by
  simp [valueOf]

/-- A number is written as one or more digits that have it as their value. -/
theorem toDigits_spec {base : Nat} (hone : 1 < base) (hsixteen : base ≤ 16) (n : Nat) :
    ∃ digits : List Nat, digits ≠ [] ∧ (∀ d ∈ digits, d < base) ∧ valueOf base digits = n ∧
      ofString (String.ofList (Nat.toDigits base n)) = digits.map hexLower := by
  -- the last digit comes off the end, and the number in front of it is smaller
  induction n using Nat.strong_induction_on with
  | _ n ih =>
    rw [Nat.toDigits_eq_if hone]
    by_cases hn : n < base
    · rw [if_pos hn]
      exact ⟨[n], by simp, by simpa using hn, by simp [valueOf], ofString_digitChar (by omega)⟩
    · rw [if_neg hn]
      have hlast : n % base < base := Nat.mod_lt n (by omega)
      obtain ⟨digits, -, hdigits, hvalue, htext⟩ := ih (n / base) (Nat.div_lt_self (by omega) hone)
      refine ⟨digits ++ [n % base], by simp, ?_, ?_, ?_⟩
      · intro d hd
        rcases List.mem_append.mp hd with hd | hd
        · exact hdigits d hd
        · rw [List.mem_singleton.mp hd]
          exact hlast
      · rw [valueOf_concat, hvalue]
        exact Nat.div_add_mod' n base
      · rw [ofString_append, htext, ofString_digitChar (by omega), List.map_append]
        rfl

theorem length_toDigits {base : Nat} (hone : 1 < base) (hsixteen : base ≤ 16) (n : Nat) :
    (ofString (String.ofList (Nat.toDigits base n))).length = (Nat.toDigits base n).length := by
  induction n using Nat.strong_induction_on with
  | _ n ih =>
    rw [Nat.toDigits_eq_if hone]
    by_cases hn : n < base
    · rw [if_pos hn, ofString_digitChar (by omega)]
      rfl
    · have hlast : n % base < base := Nat.mod_lt n (by omega)
      rw [if_neg hn, ofString_append, ofString_digitChar (by omega), List.length_append,
        List.length_append, ih (n / base) (Nat.div_lt_self (by omega) hone)]
      rfl

/-! ## Decimal numbers -/

theorem decimal_spec (n : Nat) :
    ∃ digits : List Nat, digits ≠ [] ∧ (∀ d ∈ digits, d < 10) ∧ valueOf 10 digits = n ∧
      decimal n = digits.map hexLower :=
  toDigits_spec (by decide) (by decide) n

theorem isDigit_of_mem_decimal {n : Nat} {b : UInt8} (h : b ∈ decimal n) : isDigit b = true := by
  obtain ⟨digits, -, hdigits, -, htext⟩ := decimal_spec n
  rw [htext] at h
  obtain ⟨d, hd, rfl⟩ := List.mem_map.mp h
  exact isDigit_hexLower (hdigits d hd)

/-- A decimal number reads back as what was written. -/
theorem decimal?_decimal (n : Nat) : decimal? (decimal n) = some n := by
  obtain ⟨digits, hne, hdigits, hvalue, htext⟩ := decimal_spec n
  have hall : (decimal n).all isDigit = true :=
    List.all_eq_true.mpr fun b hb => isDigit_of_mem_decimal hb
  have hread : (decimal n).map (fun b => b.toNat - 0x30) = digits := by
    rw [htext, List.map_map]
    conv_rhs => rw [← List.map_id digits]
    refine List.map_congr_left fun d hd => ?_
    simp [toNat_hexLower (hdigits d hd)]
  unfold decimal?
  rw [hread, hvalue, hall]
  simp [htext, hne]

/-- Only zero begins with the digit zero. -/
theorem head?_toDigits {n : Nat} (hpos : 0 < n) : (Nat.toDigits 10 n).head? ≠ some '0' := by
  induction n using Nat.strong_induction_on with
  | _ n ih =>
    rw [Nat.toDigits_eq_if (by decide)]
    by_cases hn : n < 10
    · rw [if_pos hn]
      interval_cases n <;> decide
    · rw [if_neg hn, List.head?_append_of_ne_nil _ Nat.toDigits_ne_nil]
      exact ih (n / 10) (by omega) (by omega)

theorem head?_decimal {n : Nat} (hpos : 0 < n) : (decimal n).head? ≠ some 0x30 := by
  obtain ⟨c, rest, htext⟩ := List.exists_cons_of_ne_nil (Nat.toDigits_ne_nil (n := n) (b := 10))
  have hzero : c ≠ '0' := by simpa [htext] using head?_toDigits hpos
  have hdigit : c.isDigit = true :=
    Nat.isDigit_of_mem_toDigits (b := 10) (n := n) (by decide) (by decide)
      (htext ▸ List.mem_cons_self)
  have hle : c.toNat ≤ 57 := by
    rw [Char.isDigit, Bool.and_eq_true, decide_eq_true_eq, decide_eq_true_eq] at hdigit
    exact hdigit.2
  -- a digit is one byte, and only that of zero is 0x30
  rw [decimal, htext, ofString, String.toList_ofList, List.flatMap_cons,
    encodeChar_of_lt (by omega)]
  intro h
  have hbyte : (UInt8.ofNat c.toNat).toNat = 0x30 := congrArg UInt8.toNat (Option.some.inj h)
  have hcode : (UInt8.ofNat c.toNat).toNat = c.toNat := Nat.mod_eq_of_lt (by omega)
  exact hzero (Char.toNat_inj.mp (hcode.symm.trans hbyte))

end IsoServer.Bytes
