-- The laws of encoded targets: a segment is read exactly if it is the written form of an ASCII
-- text, and what is said about any other segment tells why it is none.
import Mathlib
import IsoServer.Proofs.Base64
import IsoServer.Proofs.Digits
import IsoServer.Proxy.Target

namespace IsoServer

/-! ## ASCII texts -/

namespace Bytes

/-- All characters of a text are below U+0080. -/
def IsAsciiText (text : String) : Prop := ∀ c ∈ text.toList, c.toNat < 0x80

theorem isAscii_iff {b : UInt8} : isAscii b = true ↔ b.toNat < 0x80 := by
  simp [isAscii, UInt8.lt_iff_toNat_lt]

theorem not_all_isAscii_iff {s : Bytes} : ¬ s.all isAscii = true ↔ ∃ b ∈ s, 0x80 ≤ b := by
  simp [isAscii]

/-- A byte below 0x80 is a character. -/
theorem toNat_charOf {b : UInt8} (h : isAscii b = true) :
    (Char.ofNat b.toNat).toNat = b.toNat := by
  have hlt := isAscii_iff.mp h
  rw [Char.ofNat, dif_pos (Or.inl (by omega))]
  rfl

theorem isAsciiText_asciiText {s : Bytes} (h : s.all isAscii = true) :
    IsAsciiText (asciiText s) := by
  intro c hc
  simp only [asciiText, String.toList_ofList, List.mem_map] at hc
  obtain ⟨b, hb, rfl⟩ := hc
  have hascii := List.all_eq_true.mp h b hb
  rw [toNat_charOf hascii]
  exact isAscii_iff.mp hascii

/-- The text of ASCII bytes is written with these bytes. -/
theorem ofString_asciiText {s : Bytes} (h : s.all isAscii = true) :
    ofString (asciiText s) = s := by
  unfold ofString asciiText
  rw [String.toList_ofList]
  induction s with
  | nil => rfl
  | cons b rest ih =>
    simp only [List.all_cons, Bool.and_eq_true] at h
    have hchar : (Char.ofNat b.toNat).toNat < 0x80 := by
      rw [toNat_charOf h.1]
      exact isAscii_iff.mp h.1
    rw [List.map_cons, List.flatMap_cons, ih h.2, encodeChar_of_lt hchar, toNat_charOf h.1,
      UInt8.ofNat_toNat]
    rfl

theorem ofString_eq_map {text : String} (h : IsAsciiText text) :
    ofString text = text.toList.map fun c => UInt8.ofNat c.toNat := by
  unfold ofString
  unfold IsAsciiText at h
  generalize text.toList = chars at h ⊢
  induction chars with
  | nil => rfl
  | cons c rest ih =>
    rw [List.flatMap_cons, ih fun x hx => h x (List.mem_cons_of_mem _ hx),
      encodeChar_of_lt (h c (List.mem_cons_self ..))]
    rfl

theorem all_isAscii_ofString {text : String} (h : IsAsciiText text) :
    (ofString text).all isAscii = true := by
  rw [ofString_eq_map h]
  simp only [List.all_map, List.all_eq_true]
  intro c hc
  have hlt := h c hc
  simp only [Function.comp_apply, isAscii_iff, UInt8.toNat_ofNat']
  omega

/-- An ASCII text is read back from its bytes. -/
theorem asciiText_ofString {text : String} (h : IsAsciiText text) :
    asciiText (ofString text) = text := by
  rw [ofString_eq_map h, asciiText, List.map_map]
  have hid : text.toList.map ((fun b : UInt8 => Char.ofNat b.toNat) ∘
      fun c => UInt8.ofNat c.toNat) = text.toList := by
    conv_rhs => rw [← List.map_id text.toList]
    apply List.map_congr_left
    intro c hc
    have hlt := h c hc
    simp only [Function.comp_apply, UInt8.toNat_ofNat', id_eq]
    rw [Nat.mod_eq_of_lt (by omega), Char.ofNat_toNat]
  rw [hid, String.ofList_toList]

end Bytes

namespace Utf8

theorem pieces_of_ascii {s : Bytes} (h : s.all Bytes.isAscii = true) :
    pieces s = s.map fun b => some (Char.ofNat b.toNat) := by
  induction s with
  | nil => rfl
  | cons b rest ih =>
    simp only [List.all_cons, Bool.and_eq_true] at h
    have hb : b < 0x80 := by simpa [Bytes.isAscii] using h.1
    rw [pieces.eq_def]
    simp only [if_pos hb, ih h.2, List.map_cons]

/-- ASCII bytes are UTF-8, so reading them as a text cannot fail. -/
theorem decode?_of_ascii {s : Bytes} (h : s.all Bytes.isAscii = true) :
    decode? s = some (Bytes.asciiText s) := by
  have hread : (s.map fun b => some (Char.ofNat b.toNat)).mapM id =
      some (s.map fun b => Char.ofNat b.toNat) := by
    rw [List.mapM_map]
    exact List.mapM_pure
  unfold decode?
  rw [pieces_of_ascii h, hread]
  rfl

end Utf8

namespace Proxy

/-! ## The three outcomes -/

theorem decodeTarget_of_isStandard {bytes segment : Bytes} (h : Base64.IsStandard bytes segment) :
    decodeTarget segment =
      if bytes.all Bytes.isAscii then .ok (Bytes.asciiText bytes) else .error .notAscii := by
  unfold decodeTarget
  rw [Base64.decode_eq_ok_iff.mpr (Base64.isStandard_iff.mp h)]

/-- A segment is a standard form, or reading it fails with a cause. -/
theorem standard_or_malformed (segment : Bytes) :
    (∃ bytes, Base64.IsStandard bytes segment) ∨
    (∀ bytes, ¬ Base64.IsStandard bytes segment) ∧
      ∃ cause, decodeTarget segment = .error (.invalidBase64 cause) := by
  cases hdecode : Base64.decode segment with
  | ok bytes => exact .inl ⟨bytes, Base64.isStandard_iff.mpr (Base64.decode_eq_ok_iff.mp hdecode)⟩
  | error cause =>
    refine .inr ⟨fun bytes h => ?_, cause, by simp only [decodeTarget, hdecode]⟩
    rw [Base64.decode_eq_ok_iff.mpr (Base64.isStandard_iff.mp h)] at hdecode
    cases hdecode

theorem decodeTarget_eq_ok_iff {segment : Bytes} {target : String} :
    decodeTarget segment = .ok target ↔
      Bytes.IsAsciiText target ∧ Base64.IsStandard (Bytes.ofString target) segment := by
  constructor
  · intro h
    rcases standard_or_malformed segment with ⟨bytes, hbytes⟩ | ⟨-, cause, hcause⟩
    · rw [decodeTarget_of_isStandard hbytes] at h
      split_ifs at h with hascii
      cases h
      refine ⟨Bytes.isAsciiText_asciiText hascii, ?_⟩
      rwa [Bytes.ofString_asciiText hascii]
    · rw [hcause] at h
      cases h
  · rintro ⟨hascii, hstandard⟩
    rw [decodeTarget_of_isStandard hstandard, if_pos (Bytes.all_isAscii_ofString hascii),
      Bytes.asciiText_ofString hascii]

theorem decodeTarget_eq_notAscii_iff {segment : Bytes} :
    decodeTarget segment = .error .notAscii ↔
      ∃ bytes, Base64.IsStandard bytes segment ∧ ∃ b ∈ bytes, 0x80 ≤ b := by
  constructor
  · intro h
    rcases standard_or_malformed segment with ⟨bytes, hbytes⟩ | ⟨-, cause, hcause⟩
    · rw [decodeTarget_of_isStandard hbytes] at h
      split_ifs at h with hascii
      exact ⟨bytes, hbytes, Bytes.not_all_isAscii_iff.mp hascii⟩
    · rw [hcause] at h
      cases h
  · rintro ⟨bytes, hbytes, hbyte⟩
    rw [decodeTarget_of_isStandard hbytes, if_neg (Bytes.not_all_isAscii_iff.mpr hbyte)]

theorem decodeTarget_eq_invalidBase64_iff {segment : Bytes} :
    (∃ cause, decodeTarget segment = .error (.invalidBase64 cause)) ↔
      ∀ bytes, ¬ Base64.IsStandard bytes segment := by
  constructor
  · rintro ⟨cause, hcause⟩ bytes hbytes
    rw [decodeTarget_of_isStandard hbytes] at hcause
    split_ifs at hcause
    cases hcause
  · intro hnone
    rcases standard_or_malformed segment with ⟨bytes, hbytes⟩ | ⟨-, hcause⟩
    · exact absurd hbytes (hnone bytes)
    · exact hcause

/-- Reading the text of a segment never looks at it as an address. -/
theorem decodeTarget_ne_invalidUrl (segment : Bytes) (cause : UrlError) :
    decodeTarget segment ≠ .error (.invalidUrl cause) := by
  intro h
  rcases standard_or_malformed segment with ⟨bytes, hbytes⟩ | ⟨-, cause', hcause⟩
  · rw [decodeTarget_of_isStandard hbytes] at h
    split_ifs at h
    cases h
  · rw [hcause] at h
    cases h

/-! ## The law -/

/-- Reading a segment undoes Base64 on ASCII texts and nothing else. A segment is refused as not
ASCII if it is the standard form of bytes that are not, and as malformed if it is no standard form
at all. So a text has one segment only, and ASCII bytes are always read as a text. -/
theorem a_target_has_exactly_one_segment (segment : Bytes) :
    (∀ target, decodeTarget segment = .ok target ↔
      Bytes.IsAsciiText target ∧ Base64.IsStandard (Bytes.ofString target) segment) ∧
    (decodeTarget segment = .error .notAscii ↔
      ∃ bytes, Base64.IsStandard bytes segment ∧ ∃ b ∈ bytes, 0x80 ≤ b) ∧
    ((∃ cause, decodeTarget segment = .error (.invalidBase64 cause)) ↔
      ∀ bytes, ¬ Base64.IsStandard bytes segment) ∧
    (∀ cause, decodeTarget segment ≠ .error (.invalidUrl cause)) ∧
    (∀ other target, decodeTarget segment = .ok target → decodeTarget other = .ok target →
      other = segment) ∧
    ∀ bytes, Base64.decode segment = .ok bytes → bytes.all Bytes.isAscii = true →
      Utf8.decode? bytes = some (Bytes.asciiText bytes) := by
  refine ⟨fun target => decodeTarget_eq_ok_iff, decodeTarget_eq_notAscii_iff,
    decodeTarget_eq_invalidBase64_iff, decodeTarget_ne_invalidUrl segment, ?_, ?_⟩
  · intro other target hsegment hother
    exact Base64.isStandard_unique (decodeTarget_eq_ok_iff.mp hother).2
      (decodeTarget_eq_ok_iff.mp hsegment).2
  · intro bytes _ hascii
    exact Utf8.decode?_of_ascii hascii

/-- The text `hi` is spelled in one way: with a bit set behind it, or without its padding, the
segment is another one. -/
theorem hi_has_exactly_one_segment :
    decodeTarget (Bytes.ofString "aGk=") = .ok "hi" ∧
    decodeTarget (Bytes.ofString "aGl=") ≠ .ok "hi" ∧
    decodeTarget (Bytes.ofString "aGk") ≠ .ok "hi" ∧
    Utf8.decode? (Bytes.ofString "hi") = some "hi" := by
  obtain ⟨hok, -, -, -, hunique, hread⟩ :=
    a_target_has_exactly_one_segment (Bytes.ofString "aGk=")
  have hhi : decodeTarget (Bytes.ofString "aGk=") = .ok "hi" :=
    (hok "hi").mpr ⟨by simp [Bytes.IsAsciiText], Base64.isStandard_iff.mpr (by decide)⟩
  refine ⟨hhi, fun h => ?_, fun h => ?_, hread _ (by decide) (by decide)⟩
  · exact absurd (hunique _ _ hhi h) (by decide)
  · exact absurd (hunique _ _ hhi h) (by decide)

end Proxy

end IsoServer
