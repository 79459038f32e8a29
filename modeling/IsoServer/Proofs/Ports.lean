-- Ports on the command line. A text is read as a port just when it is a numeral, an optional sign
-- and one or more decimal digits, whose value is the number of the port. Leading zeros do not
-- count, however many there are.
import Mathlib
import IsoServer.CommandLine.Port
import IsoServer.Proofs.Characters
import IsoServer.Proofs.Digits

namespace IsoServer.CommandLine

/-! ## Numerals -/

/-- The sign of a numeral. -/
inductive Sign where
  | none
  | plus
  | minus
  deriving DecidableEq, Repr

def Sign.text : Sign → String
  | .none => ""
  | .plus => "+"
  | .minus => "-"

/-- An optional sign and one or more decimal digits. -/
structure Numeral where
  sign : Sign
  digits : List (Fin 10)
  ne_nil : digits ≠ []

namespace Numeral

def text (n : Numeral) : String :=
  n.sign.text ++ String.ofList (n.digits.map fun d => Nat.digitChar d.val)

/-- The number that the digits denote, the last one being that of the units. -/
def magnitude (n : Numeral) : Nat := Nat.ofDigits 10 (n.digits.reverse.map fun d => d.val)

def value (n : Numeral) : Int :=
  match n.sign with
  | .minus => -n.magnitude
  | _ => n.magnitude

end Numeral

/-- A text is a numeral for a port. -/
def Denotes (v : String) (port : UInt16) : Prop :=
  ∃ n : Numeral, v = n.text ∧ n.value = port.toNat

/-! ## Digits -/

/-- The bytes of a row of digits. -/
def digitBytes (digits : List (Fin 10)) : Bytes := digits.map fun d => Bytes.hexLower d.val

/-- The value of a row of digits behind others of a given value. -/
def valueFrom (start : Nat) (digits : List (Fin 10)) : Nat :=
  digits.foldl (fun n d => n * 10 + d.val) start

theorem ofString_digits (digits : List (Fin 10)) :
    Bytes.ofString (String.ofList (digits.map fun d => Nat.digitChar d.val)) =
      digitBytes digits := by
  induction digits with
  | nil => rfl
  | cons d digits ih =>
    rw [List.map_cons, ← List.singleton_append, Bytes.ofString_append, ih,
      Bytes.ofString_digitChar (by omega)]
    rfl

theorem Numeral.magnitude_eq (n : Numeral) : n.magnitude = valueFrom 0 n.digits := by
  rw [magnitude, Nat.ofDigits_eq_foldr, List.foldr_map, List.foldr_reverse]
  simp only [valueFrom, Nat.cast_id, Nat.add_comm, Nat.mul_comm]

theorem le_valueFrom (start : Nat) (digits : List (Fin 10)) : start ≤ valueFrom start digits := by
  induction digits generalizing start with
  | nil => exact Nat.le_refl start
  | cons d digits ih => exact Nat.le_trans (by omega) (ih (start * 10 + d.val))

theorem exists_digit {b : UInt8} (h : Bytes.isDigit b = true) :
    ∃ d : Fin 10, b = Bytes.hexLower d.val := by
  simp only [Bytes.isDigit, Bool.and_eq_true, decide_eq_true_eq, UInt8.le_iff_toNat_le,
    UInt8.reduceToNat] at h
  refine ⟨⟨b.toNat - 0x30, by omega⟩, ?_⟩
  rw [Bytes.hexLower, if_pos (by omega), Nat.add_sub_cancel' h.1, UInt8.ofNat_toNat]

variable {bound : Nat} {overflow : PortError}

/-- Digits are read if their value is within the bound, since no part of them has a larger one. -/
theorem readDigits_digitBytes {start : Nat} {digits : List (Fin 10)}
    (h : valueFrom start digits ≤ bound) :
    readDigits bound overflow start (digitBytes digits) = .ok (valueFrom start digits) := by
  induction digits generalizing start with
  | nil => rfl
  | cons d digits ih =>
    have hvalue : start * 10 + ((Bytes.hexLower d.val).toNat - 0x30) = start * 10 + d.val := by
      rw [Bytes.toNat_hexLower d.isLt]
      omega
    have hnext : start * 10 + d.val ≤ bound := Nat.le_trans (le_valueFrom _ digits) h
    rw [digitBytes, List.map_cons, readDigits, Bytes.isDigit_hexLower d.isLt]
    simp only [Bool.not_true, Bool.false_eq_true, if_false, hvalue, if_neg (Nat.not_lt.mpr hnext)]
    exact ih h

/-- Nothing but digits is read. -/
theorem exists_of_readDigits {start value : Nat} {s : Bytes}
    (h : readDigits bound overflow start s = .ok value) :
    ∃ digits, s = digitBytes digits ∧ value = valueFrom start digits := by
  induction s generalizing start with
  | nil =>
    cases h
    exact ⟨[], rfl, rfl⟩
  | cons b s ih =>
    rw [readDigits] at h
    simp only [Bool.not_eq_true'] at h
    split_ifs at h with hdigit hbound
    obtain ⟨d, rfl⟩ := exists_digit (by simpa using hdigit)
    obtain ⟨digits, rfl, rfl⟩ := ih h
    refine ⟨d :: digits, rfl, ?_⟩
    rw [Bytes.toNat_hexLower d.isLt, Nat.add_sub_cancel_left]
    rfl

theorem exists_of_map_readDigits {s : Bytes} {f : Nat → Int} {k : Int}
    (h : (readDigits bound overflow 0 s).map f = .ok k) :
    ∃ digits, s = digitBytes digits ∧ k = f (valueFrom 0 digits) := by
  cases hread : readDigits bound overflow 0 s with
  | error e =>
    rw [hread] at h
    cases h
  | ok value =>
    rw [hread] at h
    cases h
    obtain ⟨digits, hs, rfl⟩ := exists_of_readDigits hread
    exact ⟨digits, hs, rfl⟩

/-! ## Whole texts -/

theorem hexLower_ne_sign (d : Fin 10) :
    Bytes.hexLower d.val ≠ 0x2D ∧ Bytes.hexLower d.val ≠ 0x2B := by
  revert d
  decide

theorem Numeral.ofString_text (n : Numeral) :
    Bytes.ofString n.text = Bytes.ofString n.sign.text ++ digitBytes n.digits := by
  rw [text, Bytes.ofString_concat, ofString_digits]

/-- A numeral that is not too large is read as its value. -/
theorem readInteger_text {n : Numeral} (h : n.magnitude ≤ maxInteger) :
    readInteger (Bytes.ofString n.text) = .ok n.value := by
  obtain ⟨sign, digits, hne⟩ := n
  rw [Numeral.magnitude_eq] at h
  rw [Numeral.ofString_text]
  simp only [Numeral.value, Numeral.magnitude_eq] at h ⊢
  obtain ⟨d, digits, rfl⟩ := List.exists_cons_of_ne_nil hne
  cases sign with
  | none =>
    obtain ⟨hminus, hplus⟩ := hexLower_ne_sign d
    cases digits with
    | nil =>
      change readInteger [Bytes.hexLower d.val] = _
      rw [readInteger, if_pos (Bytes.isDigit_hexLower d.isLt), Bytes.toNat_hexLower d.isLt,
        Nat.add_sub_cancel_left]
      simp [valueFrom]
    | cons d' digits =>
      change readInteger (digitBytes (d :: d' :: digits)) = _
      rw [readInteger, readDigits_digitBytes h]
      · rfl
      all_goals simp [digitBytes, hminus, hplus]
  | plus =>
    change readInteger (0x2B :: digitBytes (d :: digits)) = _
    rw [readInteger, readDigits_digitBytes h]
    · rfl
    · simp [digitBytes]
  | minus =>
    change readInteger (0x2D :: digitBytes (d :: digits)) = _
    rw [readInteger, readDigits_digitBytes (Nat.le_succ_of_le h)]
    · rfl
    · simp [digitBytes]

/-- What is read is a numeral. -/
theorem exists_of_readInteger {v : String} {k : Int}
    (h : readInteger (Bytes.ofString v) = .ok k) : ∃ n : Numeral, v = n.text ∧ n.value = k := by
  -- it is enough that the bytes are those of a sign and of digits
  have hbytes (sign : Sign) (digits : List (Fin 10)) (hne : digits ≠ [])
      (hv : Bytes.ofString v = Bytes.ofString sign.text ++ digitBytes digits)
      (hk : (Numeral.mk sign digits hne).value = k) : ∃ n : Numeral, v = n.text ∧ n.value = k := by
    rw [← (Numeral.mk sign digits hne).ofString_text, Bytes.ofString_inj] at hv
    exact ⟨_, hv, hk⟩
  unfold readInteger at h
  split at h
  · cases h
  · rename_i b hv
    split_ifs at h with hdigit
    obtain ⟨d, rfl⟩ := exists_digit hdigit
    cases h
    refine hbytes .none [d] (by simp) hv ?_
    rw [Bytes.toNat_hexLower d.isLt, Nat.add_sub_cancel_left]
    simp [Numeral.value, Numeral.magnitude_eq, valueFrom]
  · rename_i rest hne hv
    have hmap : Except.map (fun n : Nat => -(n : Int))
        (readDigits (maxInteger + 1) .tooSmall 0 rest) = .ok k := by
      cases hread : readDigits (maxInteger + 1) .tooSmall 0 rest <;> rw [hread] at h <;> exact h
    obtain ⟨digits, rfl, rfl⟩ := exists_of_map_readDigits hmap
    refine hbytes .minus digits ?_ hv ?_
    · rintro rfl
      exact hne rfl
    · simp [Numeral.value, Numeral.magnitude_eq]
  · rename_i rest hne hv
    obtain ⟨digits, rfl, rfl⟩ := exists_of_map_readDigits h
    refine hbytes .plus digits ?_ hv ?_
    · rintro rfl
      exact hne rfl
    · simp [Numeral.value, Numeral.magnitude_eq]
  · rename_i hne _ _ _
    obtain ⟨digits, hv, rfl⟩ := exists_of_map_readDigits h
    refine hbytes .none digits ?_ hv ?_
    · rintro rfl
      exact hne hv
    · simp [Numeral.value, Numeral.magnitude_eq]

/-- A text is read as a port if and only if it is a numeral for that port. -/
theorem readPort_eq_ok_iff {v : String} {port : UInt16} :
    readPort v = .ok port ↔ Denotes v port := by
  constructor
  · intro h
    unfold readPort at h
    cases hread : readInteger (Bytes.ofString v) with
    | error e => simp [hread] at h
    | ok k =>
      simp only [hread] at h
      split_ifs at h with hk
      cases h
      obtain ⟨n, hv, hn⟩ := exists_of_readInteger hread
      refine ⟨n, hv, ?_⟩
      rw [hn, UInt16.toNat_ofNat_of_lt' (by unfold UInt16.size; omega)]
      omega
  · rintro ⟨n, rfl, hn⟩
    have hport := port.toNat_lt
    have hsmall : n.magnitude ≤ maxInteger := by
      unfold Numeral.value at hn
      unfold maxInteger
      split at hn <;> omega
    unfold readPort
    simp only [readInteger_text hsmall, hn]
    rw [if_pos (by omega), Int.toNat_natCast, UInt16.ofNat_toNat]

end IsoServer.CommandLine
