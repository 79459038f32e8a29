-- Paths that are made of names. Each name is escaped and a slash is put in front of it; undoing the
-- escapes and cutting at the slashes gives the names back, so that the path leads to what is called
-- by these names below the root.
import Mathlib
import IsoServer.Proofs.Dispatch
import IsoServer.Proofs.Resolution

namespace IsoServer

/-! ## Escaped names -/

namespace Percent

theorem decode_escapeByte (b : UInt8) (rest : Bytes) :
    decode (escapeByte b ++ rest) = b :: decode rest := by
  have hb : b.toNat < 256 := b.toNat_lt_size
  have hhigh : b.toNat / 16 < 16 := by omega
  have hlow : b.toNat % 16 < 16 := by omega
  simp only [escapeByte, List.cons_append, List.nil_append]
  rw [decode_escape (Bytes.hexValue?_hexUpper hhigh) (Bytes.hexValue?_hexUpper hlow),
    Nat.div_add_mod' b.toNat 16, UInt8.ofNat_toNat]

section Encode

variable {keep : UInt8 → Bool}

theorem encode_cons (b : UInt8) (s : Bytes) :
    encode keep (b :: s) = (if keep b then [b] else escapeByte b) ++ encode keep s := rfl

/-- Undoing the escapes gives back what was escaped, unless a percent sign was left as it is. -/
theorem decode_encode_append (hkeep : keep 0x25 = false) (s rest : Bytes) :
    decode (encode keep s ++ rest) = s ++ decode rest := by
  induction s with
  | nil => rfl
  | cons b s ih =>
    rw [encode_cons, List.append_assoc]
    split_ifs with hb
    · have hpercent : b ≠ 0x25 := by
        rintro rfl
        rw [hkeep] at hb
        cases hb
      rw [List.singleton_append, decode_cons_of_ne hpercent, ih]
      rfl
    · rw [decode_escapeByte, ih]
      rfl

theorem decode_encode_kept (hkeep : keep 0x25 = false) (s : Bytes) :
    decode (encode keep s) = s := by
  simpa [decode] using decode_encode_append hkeep s []

theorem encode_ne_nil {s : Bytes} (h : s ≠ []) : encode keep s ≠ [] := by
  cases s with
  | nil => exact absurd rfl h
  | cons b s =>
    rw [encode_cons]
    split_ifs <;> simp [escapeByte]

theorem slash_not_mem_encode {s : Bytes} (h : 0x2F ∉ s) : 0x2F ∉ encode keep s := by
  intro hmem
  obtain ⟨b, hb, hslash⟩ := List.mem_flatMap.mp hmem
  have hsize : b.toNat < 256 := b.toNat_lt_size
  split_ifs at hslash
  · rw [List.mem_singleton.mp hslash] at h
    exact h hb
  · simp only [escapeByte, List.mem_cons, List.not_mem_nil, or_false] at hslash
    rcases hslash with hpercent | hhigh | hlow
    · cases hpercent
    · exact Bytes.hexUpper_ne_slash (by omega) hhigh.symm
    · exact Bytes.hexUpper_ne_slash (by omega) hlow.symm

end Encode

end Percent

/-- Text behind text in UTF-8 is judged by itself. -/
theorem Utf8.isValid_append {s : Bytes} (h : isValid s = true) (t : Bytes) :
    isValid (s ++ t) = isValid t := by
  unfold isValid at h ⊢
  -- a piece that is a character is found again, whatever stands behind it
  fun_induction pieces s with
  | case1 => rfl
  | case2 b₀ r₀ hone ih =>
    rw [List.cons_append, pieces.eq_def]
    simpa [hone] using ih (by simpa using h)
  | case4 b₀ hone b₁ r₁ htwo htail ih =>
    rw [List.cons_append, List.cons_append, pieces.eq_def]
    simpa [hone, htwo, htail] using ih (by simpa using h)
  | case7 b₀ hone b₁ htwo hthree b₂ r₂ htail ih =>
    rw [List.cons_append, List.cons_append, List.cons_append, pieces.eq_def]
    simpa [hone, htwo, hthree, htail] using ih (by simpa using h)
  | case11 b₀ hone b₁ htwo hthree hfour b₂ htail₂ b₃ r₃ htail₃ ih =>
    rw [List.cons_append, List.cons_append, List.cons_append, List.cons_append, pieces.eq_def]
    simpa [hone, htwo, hthree, hfour, htail₂, htail₃] using ih (by simpa using h)
  | _ => simp at h

/-! ## Names with slashes between them -/

namespace Bytes

theorem join_cons_cons (sep first second : Bytes) (rest : List Bytes) :
    join sep (first :: second :: rest) = first ++ sep ++ join sep (second :: rest) := rfl

theorem splitOn_join {sep : UInt8} {pieces : List Bytes} (hne : pieces ≠ [])
    (h : ∀ piece ∈ pieces, sep ∉ piece) : splitOn sep (join [sep] pieces) = pieces := by
  induction pieces with
  | nil => exact absurd rfl hne
  | cons first rest ih =>
    have hfirst := h first (List.mem_cons_self ..)
    cases rest with
    | nil => exact splitOn_of_not_mem hfirst
    | cons second rest =>
      rw [join_cons_cons, List.append_assoc, List.singleton_append, splitOn_append,
        splitOn_of_not_mem hfirst, ih (by simp) fun p hp => h p (List.mem_cons_of_mem _ hp)]
      rfl

/-- Pieces that are not empty and hold no separator do not end in one. -/
theorem endsWith_join {sep : UInt8} {pieces : List Bytes} (hne : pieces ≠ [])
    (h : ∀ piece ∈ pieces, piece ≠ [] ∧ sep ∉ piece) (front : Bytes) :
    endsWith (front ++ join [sep] pieces) sep = false := by
  induction pieces generalizing front with
  | nil => exact absurd rfl hne
  | cons first rest ih =>
    obtain ⟨hfirst, hsep⟩ := h first (List.mem_cons_self ..)
    cases rest with
    | nil => exact endsWith_append hfirst hsep
    | cons second rest =>
      rw [join_cons_cons, ← List.append_assoc]
      exact ih (by simp) (fun p hp => h p (List.mem_cons_of_mem _ hp)) _

theorem head?_join {sep first : Bytes} (h : first ≠ []) (rest : List Bytes) :
    (join sep (first :: rest)).head? = first.head? := by
  cases rest with
  | nil => rfl
  | cons second rest =>
    rw [join_cons_cons, List.append_assoc, List.head?_append_of_ne_nil _ h]

end Bytes

theorem Percent.decode_join {keep : UInt8 → Bool} (hkeep : keep 0x25 = false)
    (names : List Bytes) :
    decode (Bytes.join [0x2F] (names.map (encode keep))) = Bytes.join [0x2F] names := by
  induction names with
  | nil => rfl
  | cons first rest ih =>
    cases rest with
    | nil => exact decode_encode_kept hkeep first
    | cons second rest =>
      rw [List.map_cons, List.map_cons, Bytes.join_cons_cons, ← List.map_cons, List.append_assoc,
        decode_encode_append hkeep, List.singleton_append, decode_cons_of_ne (by decide), ih,
        Bytes.join_cons_cons, List.append_assoc, List.singleton_append]

theorem Utf8.isValid_join {names : List Bytes} (h : ∀ name ∈ names, isValid name = true) :
    isValid (Bytes.join [0x2F] names) = true := by
  induction names with
  | nil => rfl
  | cons first rest ih =>
    have hfirst := h first (List.mem_cons_self ..)
    cases rest with
    | nil => exact hfirst
    | cons second rest =>
      rw [Bytes.join_cons_cons, List.append_assoc, isValid_append hfirst, List.singleton_append,
        isValid_slash]
      exact ih fun name hname => h name (List.mem_cons_of_mem _ hname)

/-! ## The path of a link -/

namespace Files

open FileSystem

/-- The path that leads down the names, each of them escaped as in the links of a listing. -/
def linkPath (names : List Bytes) : Bytes :=
  0x2F :: Bytes.join [0x2F] (names.map (Percent.encode Entry.isLinkByte))

/-- The name that the paths of forwarded requests start with. -/
def proxyName : Bytes := Bytes.ofString "proxy"

theorem names?_join {names : List Bytes} (hne : names ≠ []) (h : ∀ name ∈ names, IsName name) :
    names? (Bytes.join [0x2F] names) = some names := by
  have hplain : plainNames (Bytes.join [0x2F] names) = names := by
    unfold plainNames
    rw [Bytes.splitOn_join hne fun name hname => (h name hname).no_slash, List.filter_eq_self]
    intro name hname
    simp [(h name hname).nonempty, (h name hname).not_dot]
  have hup : dotDot ∉ names := fun hmem => (h dotDot hmem).not_dotDot rfl
  unfold names?
  simp [hplain, hup]

theorem slash_not_mem_encoded {names : List Bytes} (h : ∀ name ∈ names, IsName name) :
    ∀ piece ∈ names.map (Percent.encode Entry.isLinkByte), 0x2F ∉ piece := by
  intro piece hpiece
  obtain ⟨name, hname, rfl⟩ := List.mem_map.mp hpiece
  exact Percent.slash_not_mem_encode (h name hname).no_slash

section Link

variable {names : List Bytes} (hne : names ≠ []) (hnames : ∀ name ∈ names, IsName name)

include hne hnames

theorem endsWith_linkPath : Bytes.endsWith (linkPath names) 0x2F = false := by
  refine Bytes.endsWith_join (by simpa using hne) (fun piece hpiece => ⟨?_, ?_⟩) [0x2F]
  · obtain ⟨name, hname, rfl⟩ := List.mem_map.mp hpiece
    exact Percent.encode_ne_nil (hnames name hname).nonempty
  · exact slash_not_mem_encoded hnames piece hpiece

/-- A path that is made of names leads down these names. -/
theorem servedPath_linkPath (hvalid : ∀ name ∈ names, Utf8.isValid name = true) (root : Bytes) :
    servedPath root (linkPath names) = some (extend root names) := by
  obtain ⟨first, rest, rfl⟩ := List.exists_cons_of_ne_nil hne
  have hfirst := hnames first (List.mem_cons_self ..)
  have hhead : ∀ s : Bytes, 0x2F ∉ s → s.head? ≠ some 0x2F := fun s hs hslash =>
    hs (List.mem_of_mem_head? hslash)
  have hdrop : dropSlashes (linkPath (first :: rest)) =
      Bytes.join [0x2F] ((first :: rest).map (Percent.encode Entry.isLinkByte)) := by
    rw [linkPath, dropSlashes_slash]
    refine dropSlashes_of_head ?_
    rw [List.map_cons, Bytes.head?_join (Percent.encode_ne_nil hfirst.nonempty)]
    exact hhead _ (Percent.slash_not_mem_encode hfirst.no_slash)
  have hdecoded : Percent.decode (dropSlashes (linkPath (first :: rest))) =
      Bytes.join [0x2F] (first :: rest) := by
    rw [hdrop, Percent.decode_join rfl]
  have hslash : ((Bytes.join [0x2F] (first :: rest)).head? == some 0x2F) = false := by
    rw [Bytes.head?_join hfirst.nonempty]
    simpa using hhead first hfirst.no_slash
  unfold servedPath
  simp [hdecoded, Utf8.isValid_join hvalid, hslash, names?_join hne hnames]

/-- The path of a link starts as those of forwarded requests do if and only if the first of two or
more names is the one that they start with. -/
theorem pathStart_isPrefix_iff :
    Proxy.pathStart <+: linkPath names ↔ ∃ rest, rest ≠ [] ∧ names = proxyName :: rest := by
  have hstart : Proxy.pathStart = 0x2F :: (proxyName ++ [0x2F]) := by decide
  have hplain : 0x2F ∉ proxyName := by decide
  have hencode : Percent.encode Entry.isLinkByte proxyName = proxyName := by decide
  constructor
  · rintro ⟨rest, hpath⟩
    have hjoin : proxyName ++ 0x2F :: rest =
        Bytes.join [0x2F] (names.map (Percent.encode Entry.isLinkByte)) := by
      simpa [hstart, linkPath] using hpath
    -- both sides are cut at their slashes
    have hpieces : names.map (Percent.encode Entry.isLinkByte) =
        proxyName :: Bytes.splitOn 0x2F rest := by
      have hcut := congrArg (Bytes.splitOn 0x2F) hjoin
      rw [Bytes.splitOn_append, Bytes.splitOn_of_not_mem hplain,
        Bytes.splitOn_join (by simpa using hne) (slash_not_mem_encoded hnames)] at hcut
      exact hcut.symm
    obtain ⟨first, others, rfl, hfirst, hothers⟩ := List.map_eq_cons_iff.mp hpieces
    refine ⟨others, ?_, ?_⟩
    · rintro rfl
      exact Bytes.splitOn_ne_nil 0x2F rest hothers.symm
    · have hround : Percent.decode (Percent.encode Entry.isLinkByte first) = first :=
        Percent.decode_encode_kept rfl first
      rw [hfirst] at hround
      rw [← hround]
      rfl
  · rintro ⟨rest, hrest, rfl⟩
    obtain ⟨second, rest, rfl⟩ := List.exists_cons_of_ne_nil hrest
    refine ⟨Bytes.join [0x2F] ((second :: rest).map (Percent.encode Entry.isLinkByte)), ?_⟩
    rw [hstart, linkPath]
    simp [Bytes.join_cons_cons, hencode]

end Link

end Files

end IsoServer
