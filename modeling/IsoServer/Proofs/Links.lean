-- Links of a listing, followed. A link is made of letters, digits, a few signs and escapes, so that
-- it can be put behind the path of the page as it is; and the path that comes of it leads to what
-- has the name of the entry in the listed directory.
import Mathlib
import IsoServer.Proofs.Components
import IsoServer.Proofs.Pages

namespace IsoServer

/-! ## A slash between two paths -/

namespace Percent

/-- No escape reaches over a byte that is neither a percent sign nor a digit of an escape. -/
theorem Undone.decode_append {s t : Bytes} (h : Undone s t) {b : UInt8} (hb : b ≠ 0x25)
    (hdigit : Bytes.hexValue? b = none) (rest : Bytes) :
    decode (s ++ b :: rest) = t ++ b :: decode rest := by
  induction h with
  | nil => exact decode_cons_of_ne hb rest
  | escape hh hl _ ih =>
    simp only [List.cons_append]
    rw [decode_escape hh hl, ih]
  | @plain c front t hplain _ ih =>
    have hplain' : ¬ StartsEscape (c :: (front ++ b :: rest)) := by
      rintro ⟨h, l, more, hsame, hh, hl⟩
      obtain ⟨rfl, hfront⟩ := List.cons.inj hsame
      -- the two digits stand in front of the byte, for it is none itself
      rcases front with _ | ⟨h', _ | ⟨l', front⟩⟩
      · cases hfront
        exact hh hdigit
      · cases hfront
        exact hl hdigit
      · cases hfront
        exact hplain ⟨h, l, front, rfl, hh, hl⟩
    rw [List.cons_append, decode_of_not_startsEscape hplain', ih]
    rfl

theorem decode_append_slash (front rest : Bytes) :
    decode (front ++ 0x2F :: rest) = decode front ++ 0x2F :: decode rest :=
  (undone_decode front).decode_append (by decide) rfl rest

end Percent

/-! ## Where a link leads -/

namespace Entry

/-- A name that an entry of a directory can have: a text without a slash that is not empty and
neither a single dot nor two dots. -/
structure IsNamed (e : Entry) : Prop where
  nonempty : e.name ≠ ""
  no_slash : '/' ∉ e.name.toList
  not_dot : e.name ≠ "."
  not_dotDot : e.name ≠ ".."

theorem IsNamed.isName {e : Entry} (h : e.IsNamed) :
    FileSystem.IsName (Bytes.ofString e.name) where
  nonempty hempty := h.nonempty (Bytes.ofString_inj.mp hempty)
  no_slash := slash_not_mem_bytes h.no_slash
  not_dot hdot := h.not_dot (Bytes.ofString_inj.mp hdot)
  not_dotDot hdot := h.not_dotDot (Bytes.ofString_inj.mp hdot)

/-- Undoing the escapes of a link gives the name, and a slash for a directory. -/
theorem decode_link (e : Entry) :
    Percent.decode (Bytes.ofString e.link) =
      Bytes.ofString e.name ++ if e.isDir then [0x2F] else [] := by
  rw [ofString_link, Percent.decode_encode_append rfl]
  cases e.isDir <;> rfl

theorem isValid_decode_link (e : Entry) :
    Utf8.isValid (Percent.decode (Bytes.ofString e.link)) = true := by
  rw [decode_link, Utf8.isValid_append (Utf8.isValid_ofString e.name)]
  cases e.isDir <;> rfl

/-- The one piece of a link that leads somewhere is the name. -/
theorem pieces_link {e : Entry} (h : e.IsNamed) :
    FileSystem.dotDot ∉ Bytes.splitOn 0x2F (Percent.decode (Bytes.ofString e.link)) ∧
    (Bytes.splitOn 0x2F (Percent.decode (Bytes.ofString e.link))).filter FileSystem.leads =
      [Bytes.ofString e.name] := by
  have hname := h.isName
  have hup := hname.not_dotDot.symm
  have hempty : FileSystem.dotDot ≠ [] := by decide
  have hleads : FileSystem.leads (Bytes.ofString e.name) = true := by
    simp [FileSystem.leads, hname.nonempty, hname.not_dot]
  rw [decode_link]
  cases e.isDir with
  | true =>
    rw [if_pos rfl, Bytes.splitOn_append, Bytes.splitOn_of_not_mem hname.no_slash]
    refine ⟨by simp [Bytes.splitOn, hup, hempty], ?_⟩
    rw [List.filter_append, List.filter_cons_of_pos hleads]
    rfl
  | false =>
    rw [if_neg (by simp), List.append_nil, Bytes.splitOn_of_not_mem hname.no_slash]
    simp [hleads, hup]

end Entry

namespace Files

open FileSystem

/-- A link behind the path of its page leads to the name of the entry in the listed directory. -/
theorem resolve_append_link {root path dir : Bytes} (hslash : Bytes.endsWith path 0x2F = true)
    (hdir : resolve root path = some dir) {e : Entry} (h : e.IsNamed) :
    resolve root (path ++ Bytes.ofString e.link) = some (child dir (Bytes.ofString e.name)) := by
  obtain ⟨front, rfl⟩ := Bytes.endsWith_iff.mp hslash
  obtain ⟨hvalid, hup, rfl⟩ := resolve_eq_some_iff.mp hdir
  obtain ⟨hlinkUp, hlink⟩ := Entry.pieces_link h
  have hpath : Percent.decode (front ++ [0x2F]) = Percent.decode front ++ [0x2F] :=
    Percent.decode_append_slash front []
  have hdecoded : Percent.decode (front ++ [0x2F] ++ Bytes.ofString e.link) =
      Percent.decode front ++ 0x2F :: Percent.decode (Bytes.ofString e.link) := by
    rw [List.append_assoc, List.singleton_append, Percent.decode_append_slash]
  rw [hpath] at hvalid
  rw [hpath, Bytes.splitOn_append, List.mem_append, not_or] at hup
  rw [resolve_eq_some_iff, hdecoded, hpath, Bytes.splitOn_append, Bytes.splitOn_append,
    List.filter_append, List.filter_append, hlink]
  refine ⟨?_, ?_, ?_⟩
  · rw [List.append_cons, Utf8.isValid_append hvalid]
    exact Entry.isValid_decode_link e
  · rw [List.mem_append, not_or]
    exact ⟨hup.1, hlinkUp⟩
  · rw [extend_concat]
    simp [Bytes.splitOn, leads]

end Files

/-! ## What a link is made of -/

namespace Entry

/-- A character that stands for itself in a link. -/
def isLinkChar (c : Char) : Bool :=
  c.isAlphanum || c == '-' || c == '.' || c == '_' || c == '~' || c == '/'

/-- A digit of an escape. -/
def isEscapeDigit (c : Char) : Bool := c.isDigit || ('A' ≤ c && c ≤ 'F')

/-- A row of characters that stand for themselves, and of escapes. -/
inductive IsEscaped : List Char → Prop
  | nil : IsEscaped []
  | plain {c : Char} {rest : List Char} : isLinkChar c = true → IsEscaped rest →
      IsEscaped (c :: rest)
  | escape {h l : Char} {rest : List Char} : isEscapeDigit h = true → isEscapeDigit l = true →
      IsEscaped rest → IsEscaped ('%' :: h :: l :: rest)

/-- A reference that has neither a scheme nor a query nor a fragment, and that starts neither with
a slash nor at its own end: a path that is put behind that of the page. -/
structure IsRelative (s : List Char) : Prop where
  nonempty : s ≠ []
  no_root : s.head? ≠ some '/'
  no_scheme : ':' ∉ s
  no_query : '?' ∉ s
  no_fragment : '#' ∉ s

theorem isAlphanum_iff {c : Char} :
    c.isAlphanum = true ↔ (0x41 ≤ c.toNat ∧ c.toNat ≤ 0x5A) ∨ (0x61 ≤ c.toNat ∧ c.toNat ≤ 0x7A) ∨
      (0x30 ≤ c.toNat ∧ c.toNat ≤ 0x39) := by
  have hval : c.val.toNat = c.toNat := rfl
  simp only [Char.isAlphanum, Char.isAlpha, Char.isUpper, Char.isLower, Char.isDigit,
    Bool.or_eq_true, Bool.and_eq_true, decide_eq_true_eq, ge_iff_le, UInt32.le_iff_toNat_le, hval]
  tauto

theorem isLinkChar_of_isLinkByte {b : UInt8} (h : isLinkByte b = true) :
    isLinkChar (Char.ofNat b.toNat) = true := by
  have hchar := Bytes.toNat_charOf (isAscii_of_isLinkByte h)
  rw [isLinkByte_iff] at h
  simp only [isLinkChar, Bool.or_eq_true, isAlphanum_iff, beq_iff_eq, ← Char.toNat_inj, hchar,
    Char.reduceToNat]
  omega

theorem isEscapeDigit_hexUpper {d : Nat} (h : d < 16) :
    isEscapeDigit (Char.ofNat (Bytes.hexUpper d).toNat) = true := by
  interval_cases d <;> decide

theorem isEscaped_encode (s : Bytes) {rest : List Char} (hrest : IsEscaped rest) :
    IsEscaped ((Percent.encode isLinkByte s).map (fun b => Char.ofNat b.toNat) ++ rest) := by
  induction s with
  | nil => exact hrest
  | cons b s ih =>
    rw [Percent.encode_cons, List.map_append, List.append_assoc]
    by_cases hkeep : isLinkByte b = true
    · rw [if_pos hkeep]
      exact .plain (isLinkChar_of_isLinkByte hkeep) ih
    · have hsize : b.toNat < 256 := b.toNat_lt_size
      rw [if_neg hkeep]
      exact .escape (isEscapeDigit_hexUpper (by omega)) (isEscapeDigit_hexUpper (by omega)) ih

theorem isEscaped_link (e : Entry) : IsEscaped e.link.toList := by
  unfold link Bytes.asciiText
  simp only
  split_ifs
  · rw [String.toList_append, String.toList_ofList]
    exact isEscaped_encode _ (.plain rfl .nil)
  · rw [String.toList_ofList, ← List.append_nil (List.map _ _)]
    exact isEscaped_encode _ .nil

theorem isLinkChar_of_isEscapeDigit {c : Char} (h : isEscapeDigit c = true) :
    isLinkChar c = true := by
  have halphanum : c.isAlphanum = true := by
    simp only [isEscapeDigit, Bool.or_eq_true, Bool.and_eq_true, decide_eq_true_eq] at h
    rcases h with hdigit | ⟨hlow, hhigh⟩
    · simp [Char.isAlphanum, hdigit]
    · have hlow : 0x41 ≤ c.toNat := hlow
      have hhigh : c.toNat ≤ 0x46 := hhigh
      exact isAlphanum_iff.mpr (.inl ⟨hlow, by omega⟩)
  simp [isLinkChar, halphanum]

/-- The characters of an escaped text stand for themselves or are percent signs. -/
theorem IsEscaped.mem {s : List Char} (h : IsEscaped s) {c : Char} (hc : c ∈ s) :
    isLinkChar c = true ∨ c = '%' := by
  induction h with
  | nil => cases hc
  | plain hplain _ ih =>
    rcases List.mem_cons.mp hc with rfl | hc
    · exact .inl hplain
    · exact ih hc
  | escape hh hl _ ih =>
    simp only [List.mem_cons] at hc
    rcases hc with rfl | rfl | rfl | hc
    · exact .inr rfl
    · exact .inl (isLinkChar_of_isEscapeDigit hh)
    · exact .inl (isLinkChar_of_isEscapeDigit hl)
    · exact ih hc

/-- A link starts with something that is no slash. -/
theorem head_link {e : Entry} (h : e.IsNamed) :
    ∃ b rest, Bytes.ofString e.link = b :: rest ∧ b ≠ 0x2F := by
  have hname := h.isName
  have hne : Percent.encode isLinkByte (Bytes.ofString e.name) ≠ [] :=
    Percent.encode_ne_nil hname.nonempty
  have hslash : 0x2F ∉ Percent.encode isLinkByte (Bytes.ofString e.name) :=
    Percent.slash_not_mem_encode hname.no_slash
  obtain ⟨b, rest, hescaped⟩ := List.exists_cons_of_ne_nil hne
  rw [hescaped] at hslash
  refine ⟨b, rest ++ if e.isDir then [0x2F] else [], ?_, ?_⟩
  · rw [ofString_link, hescaped, List.cons_append]
  · rintro rfl
    exact hslash List.mem_cons_self

theorem isRelative_link {e : Entry} (h : e.IsNamed) : IsRelative e.link.toList := by
  obtain ⟨b, rest, hbytes, hb⟩ := head_link h
  have hchars : ∀ c, isLinkChar c = false → c ≠ '%' → c ∉ e.link.toList := by
    intro c hlink hpercent hmem
    rcases (isEscaped_link e).mem hmem with hc | hc
    · rw [hc] at hlink
      cases hlink
    · exact hpercent hc
  refine ⟨fun hempty => ?_, fun hroot => ?_, hchars _ (by decide) (by decide),
    hchars _ (by decide) (by decide), hchars _ (by decide) (by decide)⟩
  · unfold Bytes.ofString at hbytes
    rw [hempty] at hbytes
    cases hbytes
  · obtain ⟨more, hmore⟩ := List.head?_eq_some_iff.mp hroot
    unfold Bytes.ofString at hbytes
    rw [hmore] at hbytes
    exact hb (List.cons.inj hbytes).1.symm

end Entry

/-! ## The law -/

/-- The link of an entry, as it is read from a page, is made of letters, digits, five signs and
escapes, and is a relative reference without scheme, query and fragment. Behind the path of the
page, which ends in a slash, it leads to the name of the entry in the listed directory; and the
path that comes of it ends in a slash if and only if the entry is a directory. -/
theorem every_link_leads_to_its_entry {root path dir : Bytes}
    (hslash : Bytes.endsWith path 0x2F = true) (hdir : Files.resolve root path = some dir)
    {e : Entry} (h : e.IsNamed) :
    (∀ (displayPath : String) (entries : List Entry) (i : Nat), entries[i]? = some e →
      ∃ texts, Listing.read? (Listing.render displayPath entries) = some texts ∧
        texts.rows[i]?.map Prod.fst = some e.link) ∧
    Entry.IsEscaped e.link.toList ∧ Entry.IsRelative e.link.toList ∧
    Files.resolve root (path ++ Bytes.ofString e.link) =
      some (FileSystem.child dir (Bytes.ofString e.name)) ∧
    (Bytes.endsWith (path ++ Bytes.ofString e.link) 0x2F = true ↔ e.isDir = true) := by
  refine ⟨fun displayPath entries i hentry => ?_, Entry.isEscaped_link e,
    Entry.isRelative_link h, Files.resolve_append_link hslash hdir h, ?_⟩
  · refine ⟨Listing.textsOf displayPath entries,
      Listing.read?_fill (Listing.toList_render displayPath entries), ?_⟩
    simp [Listing.textsOf, hentry]
  · obtain ⟨b, rest, hbytes, -⟩ := Entry.head_link h
    rw [← Entry.endsWith_link h.no_slash, hbytes]
    simp [Bytes.endsWith]

/-- The name of a directory that has an escape, the sign of a query and a character of two bytes in
it is reached below a path that ends in a lone percent sign. -/
theorem a_name_like_an_escape_is_reached :
    Files.resolve (Bytes.ofString "/srv") (Bytes.ofString "/50%/") =
      some (Bytes.ofString "/srv/50%") ∧
    (⟨"%2e?é", true, false⟩ : Entry).link = "%252e%3F%C3%A9/" ∧
    Entry.IsRelative (⟨"%2e?é", true, false⟩ : Entry).link.toList ∧
    Files.resolve (Bytes.ofString "/srv") (Bytes.ofString "/50%/%252e%3F%C3%A9/") =
      some (Bytes.ofString "/srv/50%/%2e?é") := by
  have hdir : Files.resolve (Bytes.ofString "/srv") (Bytes.ofString "/50%/") =
      some (Bytes.ofString "/srv/50%") := by decide +kernel
  have hnamed : (⟨"%2e?é", true, false⟩ : Entry).IsNamed :=
    ⟨by decide, by decide, by decide, by decide⟩
  have hlink : (⟨"%2e?é", true, false⟩ : Entry).link = "%252e%3F%C3%A9/" := by decide +kernel
  obtain ⟨-, -, hrelative, hleads, -⟩ :=
    every_link_leads_to_its_entry (by decide +kernel) hdir hnamed
  rw [hlink] at hleads
  exact ⟨hdir, hlink, hrelative, hleads⟩

end IsoServer
