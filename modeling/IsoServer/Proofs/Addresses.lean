-- Internet addresses and their text. An address is shown in one way only, and a host that is the
-- text of an address is read as that address; so no two addresses look alike, and to write a host
-- anew from the address it stands for changes nothing.
import Mathlib
import IsoServer.Config.Basic
import IsoServer.Proofs.Characters
import IsoServer.Proofs.Escapes
import IsoServer.Proofs.Framing

namespace IsoServer

/-! ## How addresses are shown -/

/-- Four decimal numbers with dots between them. -/
def Ipv4.shown (x : Ipv4) : String :=
  ".".intercalate
    [toString x.a.toNat, toString x.b.toNat, toString x.c.toNat, toString x.d.toNat]

namespace Ipv6

/-- Groups in small hexadecimal digits with colons between them. -/
def shownRow (gs : List UInt16) : String :=
  ":".intercalate (gs.map fun g => String.ofList (Nat.toDigits 16 g.toNat))

/-- There is a run of `n` zero groups between `front` and `back`. -/
def HasRun (gs front : List UInt16) (n : Nat) (back : List UInt16) : Prop :=
  gs = front ++ List.replicate n 0 ++ back

/-- The first one of the longest runs of zero groups. -/
structure IsFirstLongest (gs front : List UInt16) (n : Nat) (back : List UInt16) : Prop where
  run : HasRun gs front n back
  longest : ∀ {front' n' back'}, HasRun gs front' n' back' → n' ≤ n
  first : ∀ {front' back'}, HasRun gs front' n back' → front.length ≤ front'.length

/-- The address carries a four part address behind a fixed start. -/
def Maps (x : Ipv6) (v4 : Ipv4) : Prop := x.groups = [0, 0, 0, 0, 0, 0xFFFF] ++ ofIpv4 v4

/-- How an address of eight groups is shown: a mapped one by the address that it carries, and any
other with its first longest run of two or more zero groups left out, if there is such a run. -/
inductive ShownAs (x : Ipv6) : String → Prop
  | mapped {v4 : Ipv4} (h : x.Maps v4) : ShownAs x ("::ffff:" ++ v4.shown)
  | gap {front back : List UInt16} {n : Nat} (hplain : ∀ v4, ¬ x.Maps v4)
      (hrun : IsFirstLongest x.groups front n back) (htwo : 2 ≤ n) :
      ShownAs x (shownRow front ++ "::" ++ shownRow back)
  | full (hplain : ∀ v4, ¬ x.Maps v4)
      (hnone : ∀ front n back, HasRun x.groups front n back → n < 2) :
      ShownAs x (shownRow x.groups)

end Ipv6

/-- How an address is shown. -/
inductive IpAddress.ShownAs : IpAddress → String → Prop
  | v4 (x : Ipv4) : ShownAs (.v4 x) x.shown
  | v6 {x : Ipv6} {s : String} (h : x.ShownAs s) : ShownAs (.v6 x) s

/-! ## Four parts -/

theorem Bytes.ofString_intercalate {sep : String} {texts : List String} :
    ofString (sep.intercalate texts) = join (ofString sep) (texts.map ofString) := by
  induction texts with
  | nil => simp [join, ofString]
  | cons first rest ih =>
    cases rest with
    | nil => simp [join]
    | cons second rest =>
      rw [String.intercalate_cons_cons, ofString_concat, ofString_concat, ih]
      rfl

theorem Bytes.mem_join {sep : Bytes} {pieces : List Bytes} {b : UInt8} (h : b ∈ join sep pieces) :
    b ∈ sep ∨ ∃ piece ∈ pieces, b ∈ piece := by
  induction pieces with
  | nil => cases h
  | cons first rest ih =>
    cases rest with
    | nil => exact .inr ⟨first, List.mem_cons_self, h⟩
    | cons second rest =>
      rw [join_cons_cons, List.mem_append, List.mem_append] at h
      rcases h with (h | h) | h
      · exact .inr ⟨first, List.mem_cons_self, h⟩
      · exact .inl h
      · exact (ih h).imp_right fun ⟨piece, hpiece, hb⟩ =>
          ⟨piece, List.mem_cons_of_mem _ hpiece, hb⟩

theorem Bytes.join_splitOn (sep : UInt8) (s : Bytes) : join [sep] (splitOn sep s) = s := by
  induction s with
  | nil => rfl
  | cons b rest ih =>
    rw [splitOn]
    cases hsplit : splitOn sep rest with
    | nil => exact absurd hsplit (splitOn_ne_nil sep rest)
    | cons piece pieces =>
      rw [hsplit] at ih
      split_ifs with hb
      · rw [join_cons_cons, ih, eq_of_beq hb]
        rfl
      · cases pieces with
        | nil => rw [← ih]; rfl
        | cons second pieces => rw [← ih]; rfl

theorem Bytes.exists_mem_splitOn {sep b : UInt8} (hne : b ≠ sep) {s : Bytes} (h : b ∈ s) :
    ∃ piece ∈ splitOn sep s, b ∈ piece := by
  rw [← join_splitOn sep s] at h
  exact (mem_join h).resolve_left fun hsep => hne (List.mem_singleton.mp hsep)

namespace Ipv4

theorem ofString_shown (x : Ipv4) : Bytes.ofString x.shown = x.text := by
  rw [shown, Bytes.ofString_intercalate]
  rfl

theorem part?_decimal (p : UInt8) : part? (Bytes.decimal p.toNat) = some p := by
  have hlt : p.toNat < 256 := p.toNat_lt
  have hlength : (Bytes.decimal p.toNat).length ≤ 3 := by
    rw [Bytes.decimal, Bytes.length_toDigits (by decide) (by decide),
      Nat.length_toDigits_le_iff (by decide) (by decide)]
    exact hlt.trans (by decide)
  have hzero : ¬ ((Bytes.decimal p.toNat).length > 1 ∧
      (Bytes.decimal p.toNat).head? = some 0x30) := by
    rintro ⟨hlong, hhead⟩
    rcases Nat.eq_zero_or_pos p.toNat with hp | hp
    · rw [hp] at hlong
      exact absurd hlong (by decide)
    · exact Bytes.head?_decimal hp hhead
  unfold part?
  rw [if_neg (by simpa [hlength] using hzero), Bytes.decimal?_decimal]
  simp [hlt]

theorem parse?_text (x : Ipv4) : parse? x.text = some x := by
  have hdot : ∀ piece ∈ [x.a, x.b, x.c, x.d].map fun p => Bytes.decimal p.toNat,
      0x2E ∉ piece := by
    intro piece hpiece hdot
    obtain ⟨p, -, rfl⟩ := List.mem_map.mp hpiece
    exact absurd (Bytes.isDigit_of_mem_decimal hdot) (by decide)
  unfold parse? text
  rw [Bytes.splitOn_join (by simp) hdot]
  simp [part?_decimal]

/-- A text of four parts is made of digits and dots. -/
theorem colon_not_mem_text (x : Ipv4) : 0x3A ∉ x.text := by
  intro h
  rcases Bytes.mem_join h with h | ⟨piece, hpiece, h⟩
  · exact absurd h (by decide)
  · obtain ⟨p, -, rfl⟩ := List.mem_map.mp hpiece
    exact absurd (Bytes.isDigit_of_mem_decimal h) (by decide)

theorem part?_of_colon {s : Bytes} (h : 0x3A ∈ s) : part? s = none := by
  have hdigits : s.all Bytes.isDigit = false :=
    List.all_eq_false.mpr ⟨0x3A, h, by decide⟩
  simp [part?, Bytes.decimal?, hdigits]

/-- A text with a colon in it has not four parts. -/
theorem parse?_of_colon {s : Bytes} (h : 0x3A ∈ s) : parse? s = none := by
  have hexists : ∃ piece ∈ Bytes.splitOn 0x2E s, 0x3A ∈ piece :=
    Bytes.exists_mem_splitOn (by decide) h
  obtain ⟨piece, hpiece, hcolon⟩ := hexists
  have hnone := part?_of_colon hcolon
  unfold parse?
  split
  · rename_i a b c d hsplit
    rw [hsplit] at hpiece
    simp only [List.mem_cons, List.not_mem_nil, or_false] at hpiece
    rcases hpiece with rfl | rfl | rfl | rfl <;> simp [hnone]
  · rfl

end Ipv4

/-! ## Runs of zeros -/

namespace Ipv6

theorem hasRun_cons {g g' : UInt16} {gs front back : List UInt16} {n : Nat} :
    HasRun (g :: gs) (g' :: front) n back ↔ g = g' ∧ HasRun gs front n back := by
  simp [HasRun]

theorem le_zeroRun {gs back : List UInt16} {n : Nat} (h : HasRun gs [] n back) :
    n ≤ zeroRun gs := by
  subst h
  rw [zeroRun, List.nil_append, List.takeWhile_append_of_pos (by simp)]
  simp

theorem hasRun_zeroRun (gs : List UInt16) :
    HasRun gs [] (zeroRun gs) (gs.dropWhile (· == 0)) := by
  have hzeros : gs.takeWhile (· == 0) = List.replicate (zeroRun gs) 0 := by
    refine List.eq_replicate_iff.mpr ⟨rfl, fun g hg => ?_⟩
    simpa using List.mem_takeWhile_imp hg
  rw [HasRun, List.nil_append, ← hzeros, List.takeWhile_append_dropWhile]

/-- A run at the start is the first longest one if none behind it is longer. -/
theorem IsFirstLongest.here {g : UInt16} {gs front back : List UInt16} {n : Nat}
    (h : IsFirstLongest gs front n back) (hle : n ≤ zeroRun (g :: gs)) :
    IsFirstLongest (g :: gs) [] (zeroRun (g :: gs)) ((g :: gs).dropWhile (· == 0)) where
  run := hasRun_zeroRun _
  longest := by
    intro front' n' back' hrun
    cases front' with
    | nil => exact le_zeroRun hrun
    | cons g' front' => exact (h.longest (hasRun_cons.mp hrun).2).trans hle
  first := fun _ => Nat.zero_le _

/-- A run that is longer than the one at the start stays the first longest one. -/
theorem IsFirstLongest.later {g : UInt16} {gs front back : List UInt16} {n : Nat}
    (h : IsFirstLongest gs front n back) (hless : zeroRun (g :: gs) < n) :
    IsFirstLongest (g :: gs) (g :: front) n back where
  run := hasRun_cons.mpr ⟨rfl, h.run⟩
  longest := by
    intro front' n' back' hrun
    cases front' with
    | nil => exact (le_zeroRun hrun).trans hless.le
    | cons g' front' => exact h.longest (hasRun_cons.mp hrun).2
  first := by
    intro front' back' hrun
    cases front' with
    | nil => exact absurd (le_zeroRun hrun) (Nat.not_le.mpr hless)
    | cons g' front' => exact Nat.succ_le_succ (h.first (hasRun_cons.mp hrun).2)

/-- The run that is found is the first longest one. -/
theorem longestRun_spec (start : Nat) (gs : List UInt16) :
    ∃ front back, IsFirstLongest gs front (longestRun start gs).2 back ∧
      (0 < (longestRun start gs).2 → (longestRun start gs).1 = start + front.length) := by
  induction gs generalizing start with
  | nil =>
    refine ⟨[], [], ⟨rfl, fun h => ?_, fun _ => Nat.zero_le _⟩, fun h => absurd h (Nat.lt_irrefl 0)⟩
    have hlength := congrArg List.length h
    simp only [List.length_append, List.length_replicate, List.length_nil] at hlength
    omega
  | cons g gs ih =>
    obtain ⟨front, back, hlater, hstart⟩ := ih (start + 1)
    rw [longestRun]
    simp only [ge_iff_le, gt_iff_lt, Bool.and_eq_true, decide_eq_true_eq]
    split_ifs with hhere
    · exact ⟨[], _, hlater.here hhere.1, fun _ => rfl⟩
    · rcases Nat.lt_or_ge (zeroRun (g :: gs)) (longestRun (start + 1) gs).2 with hless | hle
      · refine ⟨g :: front, back, hlater.later hless, fun h => ?_⟩
        rw [hstart h, List.length_cons]
        omega
      · -- no group is zero, here or behind
        have hzero : (longestRun (start + 1) gs).2 = zeroRun (g :: gs) := by omega
        rw [hzero]
        exact ⟨[], _, hlater.here hle, fun h => absurd ⟨hle, h⟩ hhere⟩

/-- There is one first longest run. -/
theorem IsFirstLongest.unique {gs front front' back back' : List UInt16} {n n' : Nat}
    (h : IsFirstLongest gs front n back) (h' : IsFirstLongest gs front' n' back') :
    front = front' ∧ n = n' ∧ back = back' := by
  have hn : n = n' := Nat.le_antisymm (h'.longest h.run) (h.longest h'.run)
  subst hn
  have hlength := Nat.le_antisymm (h.first h'.run) (h'.first h.run)
  have hsame := h.run.symm.trans h'.run
  rw [List.append_assoc, List.append_assoc] at hsame
  obtain ⟨hfront, hrest⟩ := List.append_inj hsame hlength
  exact ⟨hfront, rfl, List.append_cancel_left hrest⟩

/-! ## Groups -/

theorem groupText_spec (g : UInt16) :
    ∃ digits : List Nat, digits ≠ [] ∧ (∀ d ∈ digits, d < 16) ∧
      Bytes.valueOf 16 digits = g.toNat ∧ groupText g = digits.map Bytes.hexLower :=
  Bytes.toDigits_spec (by decide) (by decide) g.toNat

theorem groupText_ne_nil (g : UInt16) : groupText g ≠ [] := by
  obtain ⟨digits, hne, -, -, htext⟩ := groupText_spec g
  rw [htext]
  simpa using hne

theorem colon_not_mem_groupText (g : UInt16) : 0x3A ∉ groupText g := by
  obtain ⟨digits, -, hdigits, -, htext⟩ := groupText_spec g
  rw [htext]
  intro h
  obtain ⟨d, hd, hcolon⟩ := List.mem_map.mp h
  have hread := Bytes.hexValue?_hexLower (hdigits d hd)
  rw [hcolon] at hread
  exact absurd hread (by simp [Bytes.hexValue?, Bytes.isDigit])

theorem mapM_hexLower {digits : List Nat} (h : ∀ d ∈ digits, d < 16) :
    (digits.map Bytes.hexLower).mapM Bytes.hexValue? = some digits := by
  induction digits with
  | nil => rfl
  | cons d digits ih =>
    rw [List.forall_mem_cons] at h
    simp [Bytes.hexValue?_hexLower h.1, ih h.2]

theorem group?_groupText (g : UInt16) : group? (groupText g) = some g := by
  have hlength : (groupText g).length ≤ 4 := by
    rw [groupText, Bytes.length_toDigits (by decide) (by decide),
      Nat.length_toDigits_le_iff (by decide) (by decide)]
    exact g.toNat_lt
  obtain ⟨digits, -, hdigits, hvalue, htext⟩ := groupText_spec g
  unfold group?
  rw [if_neg (by simp [groupText_ne_nil, hlength]), htext, mapM_hexLower hdigits]
  simp [hvalue]

/-- What has a dot in it is not a group. -/
theorem group?_of_dot {s : Bytes} (h : 0x2E ∈ s) : group? s = none := by
  unfold group?
  split_ifs
  · rfl
  · rw [Option.map_eq_none_iff]
    cases hread : s.mapM Bytes.hexValue? with
    | none => rfl
    | some digits =>
      obtain ⟨v, -, hdot⟩ := Proxy.exists_of_mapM hread 0x2E h
      exact absurd hdot (by simp [Bytes.hexValue?, Bytes.isDigit])

theorem groups?_map_groupText (dotted : Bool) (gs : List UInt16) :
    groups? dotted (gs.map groupText) = some gs := by
  induction gs with
  | nil => rfl
  | cons g gs ih =>
    cases gs with
    | nil => simp [groups?, group?_groupText]
    | cons g' gs =>
      rw [List.map_cons, List.map_cons, groups?, group?_groupText, ← List.map_cons, ih]
      simp

theorem join_ne_nil (g : UInt16) (gs : List UInt16) :
    Bytes.join [0x3A] ((g :: gs).map groupText) ≠ [] := by
  intro hnil
  have hhead : (Bytes.join [0x3A] ((g :: gs).map groupText)).head? = (groupText g).head? :=
    Bytes.head?_join (groupText_ne_nil g) _
  rw [hnil, eq_comm, List.head?_nil, List.head?_eq_none_iff] at hhead
  exact groupText_ne_nil g hhead

/-- A row of groups reads back, whether its last one may have dots or not. -/
theorem row?_join (dotted : Bool) (gs : List UInt16) :
    row? dotted (Bytes.join [0x3A] (gs.map groupText)) = some gs := by
  cases gs with
  | nil => rfl
  | cons g gs =>
    rw [row?, if_neg (by simpa using join_ne_nil g gs), Bytes.splitOn_join (by simp),
      groups?_map_groupText]
    intro piece hpiece
    obtain ⟨g', -, rfl⟩ := List.mem_map.mp hpiece
    exact colon_not_mem_groupText g'

/-! ## The gap -/

theorem cutAtGap_of_ne {b : UInt8} {rest : Bytes} (h : b ≠ 0x3A ∨ rest.head? ≠ some 0x3A) :
    cutAtGap (b :: rest) = (cutAtGap rest).map fun cut => (b :: cut.1, cut.2) := by
  rw [cutAtGap]
  rintro tail rfl rfl
  simp at h

theorem cutAtGap_append {piece : Bytes} (h : 0x3A ∉ piece) (rest : Bytes) :
    cutAtGap (piece ++ rest) = (cutAtGap rest).map fun cut => (piece ++ cut.1, cut.2) := by
  induction piece with
  | nil => simp
  | cons b piece ih =>
    rw [List.mem_cons, not_or] at h
    rw [List.cons_append, cutAtGap_of_ne (.inl (Ne.symm h.1)), ih h.2, Option.map_map]
    rfl

/-- Groups with single colons between them have no gap, so the first one is behind them. -/
theorem cutAtGap_join (gs : List UInt16) (rest : Bytes) :
    cutAtGap (Bytes.join [0x3A] (gs.map groupText) ++ rest) =
      (cutAtGap rest).map fun cut => (Bytes.join [0x3A] (gs.map groupText) ++ cut.1, cut.2) := by
  induction gs with
  | nil => simp [Bytes.join]
  | cons g gs ih =>
    cases gs with
    | nil => exact cutAtGap_append (colon_not_mem_groupText g) rest
    | cons g' gs =>
      have hhead : (Bytes.join [0x3A] ((g' :: gs).map groupText) ++ rest).head? ≠ some 0x3A := by
        intro hcolon
        rw [List.head?_append_of_ne_nil _ (join_ne_nil g' gs), List.map_cons,
          Bytes.head?_join (groupText_ne_nil g')] at hcolon
        exact colon_not_mem_groupText g' (List.mem_of_mem_head? hcolon)
      rw [List.map_cons, List.map_cons, Bytes.join_cons_cons, ← List.map_cons, List.append_assoc,
        List.append_assoc, cutAtGap_append (colon_not_mem_groupText g), List.singleton_append,
        cutAtGap_of_ne (.inr hhead), ih, Option.map_map, Option.map_map]
      simp [Function.comp_def]

/-! ## Reading back -/

theorem ofString_shownRow (gs : List UInt16) :
    Bytes.ofString (shownRow gs) = Bytes.join [0x3A] (gs.map groupText) := by
  rw [shownRow, Bytes.ofString_intercalate, List.map_map]
  rfl

theorem ofGroups?_groups (x : Ipv6) : ofGroups? x.groups = some x := dif_pos x.length_eq

theorem groups_ne_nil (x : Ipv6) : x.groups ≠ [] := by
  intro h
  have hlength := x.length_eq
  rw [h] at hlength
  cases hlength

theorem parse?_full (x : Ipv6) : parse? (Bytes.ofString (shownRow x.groups)) = some x := by
  have hcut : cutAtGap (Bytes.join [0x3A] (x.groups.map groupText)) = none := by
    simpa [cutAtGap] using cutAtGap_join x.groups []
  have hne : Bytes.join [0x3A] (x.groups.map groupText) ≠ [] := by
    obtain ⟨g, gs, hgroups⟩ := List.exists_cons_of_ne_nil x.groups_ne_nil
    rw [hgroups]
    exact join_ne_nil g gs
  rw [ofString_shownRow, parse?, hcut]
  simp [hne, row?_join, ofGroups?_groups]

theorem parse?_gap {x : Ipv6} {front back : List UInt16} {n : Nat}
    (h : HasRun x.groups front n back) (hpos : 0 < n) :
    parse? (Bytes.ofString (shownRow front ++ "::" ++ shownRow back)) = some x := by
  have hlength : front.length + n + back.length = 8 := by
    rw [← x.length_eq, h]
    simp [Nat.add_assoc]
  have htext : Bytes.ofString (shownRow front ++ "::" ++ shownRow back) =
      Bytes.join [0x3A] (front.map groupText) ++
        0x3A :: 0x3A :: Bytes.join [0x3A] (back.map groupText) := by
    rw [Bytes.ofString_concat, Bytes.ofString_concat, ofString_shownRow, ofString_shownRow,
      List.append_assoc]
    rfl
  have hcut : cutAtGap (Bytes.ofString (shownRow front ++ "::" ++ shownRow back)) =
      some (Bytes.join [0x3A] (front.map groupText), Bytes.join [0x3A] (back.map groupText)) := by
    rw [htext, cutAtGap_join, cutAtGap]
    simp
  have hgap : 8 - front.length - back.length = n := by omega
  rw [parse?, hcut]
  simp only [row?_join]
  rw [if_pos (by omega), hgap, ← h, ofGroups?_groups]

theorem parse?_mapped {x : Ipv6} {v4 : Ipv4} (h : x.Maps v4) :
    parse? (Bytes.ofString ("::ffff:" ++ v4.shown)) = some x := by
  have htext : Bytes.ofString ("::ffff:" ++ v4.shown) =
      0x3A :: 0x3A :: Bytes.join [0x3A] [Bytes.ofString "ffff", v4.text] := by
    rw [Bytes.ofString_concat, Ipv4.ofString_shown]
    rfl
  have hread : row? true (Bytes.join [0x3A] [Bytes.ofString "ffff", v4.text]) =
      some (0xFFFF :: ofIpv4 v4) := by
    have hcolon : ∀ piece ∈ [Bytes.ofString "ffff", v4.text], 0x3A ∉ piece := by
      simp only [List.forall_mem_cons, List.not_mem_nil, false_imp_iff, implies_true, and_true]
      exact ⟨by decide, v4.colon_not_mem_text⟩
    have hdot : 0x2E ∈ v4.text := by simp [Ipv4.text, Bytes.join]
    have hffff : group? (Bytes.ofString "ffff") = some 0xFFFF := by decide
    rw [row?, if_neg (by simp [Bytes.join]), Bytes.splitOn_join (by simp) hcolon, groups?, groups?,
      hffff, group?_of_dot hdot, Ipv4.parse?_text]
    · rfl
    · simp
  have hcut : cutAtGap (Bytes.ofString ("::ffff:" ++ v4.shown)) =
      some ([], Bytes.join [0x3A] [Bytes.ofString "ffff", v4.text]) := by
    rw [htext, cutAtGap]
  have hfront : row? false [] = some [] := rfl
  rw [parse?, hcut]
  simp only [hfront, hread]
  rw [if_pos (by simp [ofIpv4])]
  exact (congrArg ofGroups? h.symm).trans x.ofGroups?_groups

variable {x : Ipv6} {s : String}

/-- What an address is shown as is read as that address. -/
theorem ShownAs.parse? (h : x.ShownAs s) : parse? (Bytes.ofString s) = some x := by
  cases h with
  | mapped h => exact parse?_mapped h
  | gap _ hrun htwo => exact parse?_gap hrun.run (by omega)
  | full _ _ => exact x.parse?_full

theorem ShownAs.colon_mem (h : x.ShownAs s) : 0x3A ∈ Bytes.ofString s := by
  cases h with
  | mapped _ =>
    rw [Bytes.ofString_concat]
    exact List.mem_append_left _ (by decide)
  | gap _ _ _ =>
    rw [Bytes.ofString_concat, Bytes.ofString_concat]
    exact List.mem_append_left _ (List.mem_append_right _ (by decide))
  | full _ _ =>
    rw [ofString_shownRow]
    match hgroups : x.groups, x.length_eq with
    | g :: g' :: gs, _ => simp [Bytes.join_cons_cons]

/-! ## One text for each address -/

/-- A group is two bytes. -/
theorem ofNat_bytes (g : UInt16) :
    UInt16.ofNat ((UInt8.ofNat (g.toNat / 256)).toNat * 256 +
      (UInt8.ofNat (g.toNat % 256)).toNat) = g := by
  have hlt := g.toNat_lt
  have hhigh : g.toNat / 256 < UInt8.size := by unfold UInt8.size; omega
  have hlow : g.toNat % 256 < UInt8.size := by unfold UInt8.size; omega
  rw [UInt8.toNat_ofNat_of_lt' hhigh, UInt8.toNat_ofNat_of_lt' hlow, Nat.div_add_mod',
    UInt16.ofNat_toNat]

theorem bytes_ofNat (a b : UInt8) :
    UInt8.ofNat ((UInt16.ofNat (a.toNat * 256 + b.toNat)).toNat / 256) = a ∧
      UInt8.ofNat ((UInt16.ofNat (a.toNat * 256 + b.toNat)).toNat % 256) = b := by
  have ha := a.toNat_lt
  have hb := b.toNat_lt
  have hlt : a.toNat * 256 + b.toNat < UInt16.size := by unfold UInt16.size; omega
  rw [UInt16.toNat_ofNat_of_lt' hlt, show (a.toNat * 256 + b.toNat) / 256 = a.toNat by omega,
    show (a.toNat * 256 + b.toNat) % 256 = b.toNat by omega]
  exact ⟨UInt8.ofNat_toNat, UInt8.ofNat_toNat⟩

theorem mapped?_eq_some_iff {v4 : Ipv4} : x.mapped? = some v4 ↔ x.Maps v4 := by
  constructor
  · intro h
    unfold mapped? at h
    split at h
    · rename_i g g' hgroups
      cases h
      rw [Maps, hgroups, ofIpv4, ofNat_bytes, ofNat_bytes]
      rfl
    · cases h
  · intro h
    unfold mapped?
    rw [show x.groups = _ from h, ofIpv4]
    obtain ⟨ha, hb⟩ := bytes_ofNat v4.a v4.b
    obtain ⟨hc, hd⟩ := bytes_ofNat v4.c v4.d
    simp only [List.cons_append, List.nil_append, ha, hb, hc, hd]

theorem ShownAs.ofString_eq (h : x.ShownAs s) : Bytes.ofString s = x.text := by
  have hplainText (hplain : ∀ v4, ¬ x.Maps v4) : x.text = x.plainText := by
    have hnone : x.mapped? = none :=
      Option.eq_none_iff_forall_ne_some.mpr fun v4 hv4 => hplain v4 (mapped?_eq_some_iff.mp hv4)
    rw [text, hnone]
  obtain ⟨front', back', hlongest, hstart⟩ := longestRun_spec 0 x.groups
  cases h with
  | mapped h =>
    rw [text, mapped?_eq_some_iff.mpr h, Bytes.ofString_concat, Ipv4.ofString_shown]
  | @gap front back n hplain hrun htwo =>
    obtain ⟨rfl, rfl, rfl⟩ := hrun.unique hlongest
    have hgroups := hrun.run
    have hlength : front.length + (longestRun 0 x.groups).2 =
        (front ++ List.replicate (longestRun 0 x.groups).2 0).length := by simp
    have htake : x.groups.take (longestRun 0 x.groups).1 = front := by
      rw [hstart (by omega), Nat.zero_add]
      nth_rewrite 1 [hgroups]
      rw [List.append_assoc, List.take_left]
    have hdrop : x.groups.drop ((longestRun 0 x.groups).1 + (longestRun 0 x.groups).2) = back := by
      rw [hstart (by omega), Nat.zero_add, hlength]
      nth_rewrite 2 [hgroups]
      rw [List.drop_left]
    rw [hplainText hplain, plainText, if_neg (by omega), htake, hdrop, Bytes.ofString_concat,
      Bytes.ofString_concat, ofString_shownRow, ofString_shownRow]
    rfl
  | full hplain hnone =>
    rw [hplainText hplain, plainText, if_pos (hnone _ _ _ hlongest.run), ofString_shownRow]

theorem exists_shownAs (x : Ipv6) : ∃ s, x.ShownAs s := by
  by_cases hmapped : ∃ v4, x.Maps v4
  · obtain ⟨v4, hv4⟩ := hmapped
    exact ⟨_, .mapped hv4⟩
  · have hplain : ∀ v4, ¬ x.Maps v4 := fun v4 hv4 => hmapped ⟨v4, hv4⟩
    obtain ⟨front, back, hlongest, -⟩ := longestRun_spec 0 x.groups
    rcases Nat.lt_or_ge (longestRun 0 x.groups).2 2 with hshort | htwo
    · exact ⟨_, .full hplain fun _ _ _ h => (hlongest.longest h).trans_lt hshort⟩
    · exact ⟨_, .gap hplain hlongest htwo⟩

end Ipv6

/-! ## Addresses of either kind -/

namespace IpAddress

variable {a : IpAddress} {s : String}

theorem ShownAs.parse? (h : a.ShownAs s) : parse? (Bytes.ofString s) = some a := by
  cases h with
  | v4 x => rw [Ipv4.ofString_shown, IpAddress.parse?, Ipv4.parse?_text]
  | v6 h => rw [IpAddress.parse?, Ipv4.parse?_of_colon h.colon_mem, h.parse?, Option.map_some]

theorem ShownAs.ofString_eq (h : a.ShownAs s) : Bytes.ofString s = a.text := by
  cases h with
  | v4 x => exact x.ofString_shown
  | v6 h => exact h.ofString_eq

theorem exists_shownAs (a : IpAddress) : ∃ s, a.ShownAs s := by
  cases a with
  | v4 x => exact ⟨_, .v4 x⟩
  | v6 x =>
    obtain ⟨s, hs⟩ := x.exists_shownAs
    exact ⟨s, .v6 hs⟩

/-- The text that is written for an address is what it is shown as. -/
theorem shownAs_iff : a.ShownAs s ↔ Bytes.ofString s = a.text := by
  refine ⟨ShownAs.ofString_eq, fun h => ?_⟩
  obtain ⟨t, ht⟩ := a.exists_shownAs
  rwa [Bytes.ofString_inj.mp (h.trans ht.ofString_eq.symm)]

end IpAddress

theorem ListenerConfig.address?_of_shownAs {a : IpAddress} {s : String} (h : a.ShownAs s)
    (c : ListenerConfig) : { c with host := s }.address? = some ⟨a, c.port⟩ := by
  rw [address?, h.parse?, Option.map_some]

/-- Each address is shown in one way, which is the text that is written for it, and a host that
shows it is read as that address with the port beside it. So a host that is read at all can be
written anew as its address is shown, and different addresses are shown differently. -/
theorem a_host_is_the_address_that_it_shows (a : IpAddress) :
    (∃! s, a.ShownAs s) ∧ (∀ s, a.ShownAs s ↔ Bytes.ofString s = a.text) ∧
    (∀ s, a.ShownAs s → ∀ (c : ListenerConfig) (port : UInt16),
      { c with host := s, port := port }.address? = some ⟨a, port⟩) ∧
    (∀ (c : ListenerConfig) (address : SocketAddress), c.address? = some address →
      ∀ s, address.ip.ShownAs s → { c with host := s }.address? = c.address?) ∧
    ∀ (b : IpAddress) (s : String), a.ShownAs s → b.ShownAs s → a = b := by
  refine ⟨?_, fun s => IpAddress.shownAs_iff, fun s h c port =>
    ListenerConfig.address?_of_shownAs h { c with port := port }, fun c address hc s h => ?_,
    fun b s ha hb => Option.some.inj (ha.parse?.symm.trans hb.parse?)⟩
  · obtain ⟨s, hs⟩ := a.exists_shownAs
    exact ⟨s, hs, fun t ht => Bytes.ofString_inj.mp (ht.ofString_eq.trans hs.ofString_eq.symm)⟩
  · obtain ⟨ip, hip, rfl⟩ := Option.map_eq_some_iff.mp hc
    exact (ListenerConfig.address?_of_shownAs h c).trans hc.symm

/-- An address with two gaps of the same length. -/
def twoGaps : IpAddress := .v6 ⟨[1, 0, 0, 0xAB, 0, 0, 3, 4], rfl⟩

/-- A host in capitals, with leading zeros and without the second gap, can be written in small
letters and without the first one. -/
theorem the_first_of_two_gaps_is_left_out :
    twoGaps.ShownAs "1::ab:0:0:3:4" ∧
    ({ host := "1::ab:0:0:3:4", port := 9000 } : ListenerConfig).address? = some ⟨twoGaps, 9000⟩ ∧
    ({ host := "0001:0:0:AB::3:4" } : ListenerConfig).address? = some ⟨twoGaps, 8000⟩ ∧
    ({ host := "1::ab:0:0:3:4" } : ListenerConfig).address? =
      ({ host := "0001:0:0:AB::3:4" } : ListenerConfig).address? := by
  obtain ⟨-, hshown, hread, hanew, -⟩ := a_host_is_the_address_that_it_shows twoGaps
  have hfirst : twoGaps.ShownAs "1::ab:0:0:3:4" := (hshown _).mpr (by decide)
  have hother : ({ host := "0001:0:0:AB::3:4" } : ListenerConfig).address? =
      some ⟨twoGaps, 8000⟩ := by decide
  exact ⟨hfirst, hread _ hfirst {} 9000, hother, hanew _ _ hother _ hfirst⟩

end IsoServer
