-- Pages that list a directory, read back. The texts that are put into a page hold no character that
-- ends a text, so that a reader who knows the template finds each of them where it was put; undoing
-- the entities gives the path and the names again, and a page belongs to one list of entries only.
import Mathlib
import IsoServer.Files.Listing
import IsoServer.Proofs.Characters
import IsoServer.Proofs.Escapes

namespace IsoServer

/-! ## Entities -/

namespace Markup

/-- A character at which a text in a page ends. -/
def isDelimiter (c : Char) : Bool := c == '<' || c == '>' || c == '"'

/-- Undoes the five entities, each of them once. -/
def undo : List Char → List Char
  | '&' :: 'a' :: 'm' :: 'p' :: ';' :: rest => '&' :: undo rest
  | '&' :: 'l' :: 't' :: ';' :: rest => '<' :: undo rest
  | '&' :: 'g' :: 't' :: ';' :: rest => '>' :: undo rest
  | '&' :: 'q' :: 'u' :: 'o' :: 't' :: ';' :: rest => '"' :: undo rest
  | '&' :: '#' :: 'x' :: '2' :: '7' :: ';' :: rest => '\'' :: undo rest
  | c :: rest => c :: undo rest
  | [] => []

/-- The text that a browser shows for a text in a page. -/
def unescape (s : String) : String := String.ofList (undo s.toList)

theorem undo_cons_of_ne {c : Char} (h : c ≠ '&') (rest : List Char) :
    undo (c :: rest) = c :: undo rest := by
  rw [undo] <;> simp [h]

theorem undo_escapeChar (c : Char) (rest : List Char) :
    undo (escapeChar c ++ rest) = c :: undo rest := by
  unfold escapeChar
  split_ifs with hamp hlt hgt hquote hapos
  · rw [beq_iff_eq.mp hamp]
    simp [undo]
  · rw [beq_iff_eq.mp hlt]
    simp [undo]
  · rw [beq_iff_eq.mp hgt]
    simp [undo]
  · rw [beq_iff_eq.mp hquote]
    simp [undo]
  · rw [beq_iff_eq.mp hapos]
    simp [undo]
  · exact undo_cons_of_ne (by simpa using hamp) rest

/-- Entities that were put for characters are read as these characters, and a text that looks like
an entity stays as it is. -/
theorem unescape_escape (s : String) : unescape (escape s) = s := by
  have hundo : ∀ chars : List Char, undo (chars.flatMap escapeChar) = chars := by
    intro chars
    induction chars with
    | nil => rfl
    | cons c chars ih => rw [List.flatMap_cons, undo_escapeChar, ih]
  unfold unescape escape
  rw [String.toList_ofList, hundo, String.ofList_toList]

theorem escapeChar_plain (c : Char) : ((escapeChar c).all fun d => !isDelimiter d) = true := by
  unfold escapeChar
  split_ifs with hamp hlt hgt hquote hapos
  · rfl
  · rfl
  · rfl
  · rfl
  · rfl
  · simp_all [isDelimiter]

/-- A text that is put into a page does not end before its end. -/
theorem isDelimiter_of_mem_escape {s : String} {d : Char} (h : d ∈ (escape s).toList) :
    isDelimiter d = false := by
  unfold escape at h
  rw [String.toList_ofList] at h
  obtain ⟨c, -, hd⟩ := List.mem_flatMap.mp h
  simpa using List.all_eq_true.mp (escapeChar_plain c) d hd

end Markup

/-! ## The template -/

namespace Listing

def top : String :=
  "<!DOCTYPE HTML>\n<html lang=\"en\">\n<head>\n<meta charset=\"utf-8\">\n<title>" ++
    "Directory listing for "

def afterTitle : String := "</title>\n</head>\n<body>\n<h1>" ++ "Directory listing for "

def afterHeading : String := "</h1>\n<hr>\n<ul>\n"

def rowStart : String := "<li><a href=\""

def afterLink : String := "\">"

def rowEnd : String := "</a></li>\n"

def bottom : String := "</ul>\n<hr>\n</body>\n</html>\n"

/-- One row of the template, with an address and a name put into it. -/
def fillRow (row : String × String) : List Char :=
  rowStart.toList ++ row.1.toList ++ afterLink.toList ++ row.2.toList ++ rowEnd.toList

/-- What is put into a page, or read from one: a title, a heading, and an address and a name for
each row. -/
structure Texts where
  title : String
  heading : String
  rows : List (String × String)
  deriving DecidableEq, Repr

/-- The template, with texts put into it. -/
def fill (texts : Texts) : List Char :=
  top.toList ++ texts.title.toList ++ afterTitle.toList ++ texts.heading.toList ++
    afterHeading.toList ++ texts.rows.flatMap fillRow ++ bottom.toList

/-- The texts with a function applied to each of them. -/
def Texts.map (f : String → String) (texts : Texts) : Texts where
  title := f texts.title
  heading := f texts.heading
  rows := texts.rows.map fun row => (f row.1, f row.2)

/-- What a page is to show. -/
def textsOf (displayPath : String) (entries : List Entry) : Texts where
  title := displayPath
  heading := displayPath
  rows := entries.map fun e => (e.link, e.displayName)

theorem toList_row (e : Entry) :
    (row e).toList = fillRow (Markup.escape e.link, Markup.escape e.displayName) := by
  unfold row fillRow
  simp only [String.toList_append]
  rfl

/-- A page is the template with the escaped texts in it. -/
theorem toList_render (displayPath : String) (entries : List Entry) :
    (render displayPath entries).toList =
      fill ((textsOf displayPath entries).map Markup.escape) := by
  have hrows : (String.join (entries.map row)).toList =
      ((textsOf displayPath entries).map Markup.escape).rows.flatMap fillRow := by
    rw [String.toList_join, List.flatMap_map]
    unfold textsOf Texts.map
    simp only [List.map_map, List.flatMap_map, Function.comp_apply, toList_row]
  unfold render fill top afterTitle
  simp only [String.toList_append, hrows, List.append_assoc]
  rfl

/-! ## Reading a page -/

/-- Reads a text up to the next delimiter. -/
def readText (s : List Char) : String × List Char :=
  (Markup.unescape (String.ofList (s.takeWhile fun c => !Markup.isDelimiter c)),
    s.dropWhile fun c => !Markup.isDelimiter c)

/-- What follows a part of the template. -/
def skip? (part : String) (s : List Char) : Option (List Char) := s.dropPrefix? part.toList

/-- Reads a row, with its address and its name. -/
def readRow? (s : List Char) : Option ((String × String) × List Char) := do
  let fromLink ← skip? rowStart s
  let fromName ← skip? afterLink (readText fromLink).2
  let rest ← skip? rowEnd (readText fromName).2
  some (((readText fromLink).1, (readText fromName).1), rest)

theorem skip?_eq_some_iff {part : String} {s rest : List Char} :
    skip? part s = some rest ↔ s = part.toList ++ rest := by
  unfold skip?
  rw [List.dropPrefix?_eq_some_iff]
  simp

theorem length_readText_le (s : List Char) : (readText s).2.length ≤ s.length :=
  List.length_dropWhile_le _ s

theorem length_lt_of_readRow? {s rest : List Char} {texts : String × String}
    (h : readRow? s = some (texts, rest)) : rest.length < s.length := by
  obtain ⟨fromLink, hlink, h⟩ := Option.bind_eq_some_iff.mp h
  obtain ⟨fromName, hname, h⟩ := Option.bind_eq_some_iff.mp h
  obtain ⟨rest', hrest, h⟩ := Option.bind_eq_some_iff.mp h
  cases h
  have hstart := congrArg List.length (skip?_eq_some_iff.mp hlink)
  have hmiddle := congrArg List.length (skip?_eq_some_iff.mp hname)
  have hend := congrArg List.length (skip?_eq_some_iff.mp hrest)
  have hfirst := length_readText_le fromLink
  have hsecond := length_readText_le fromName
  have hpositive : 0 < rowStart.toList.length := by decide
  simp only [List.length_append] at hstart hmiddle hend
  omega

/-- Reads rows as long as there are any. -/
def readRows (s : List Char) : List (String × String) × List Char :=
  match _h : readRow? s with
  | none => ([], s)
  | some (texts, rest) =>
    let more := readRows rest
    (texts :: more.1, more.2)
  termination_by s.length
  decreasing_by exact length_lt_of_readRow? ‹_›

/-- Reads a page at its delimiters and undoes the entities; none if it does not fit the template. -/
def read? (page : String) : Option Texts := do
  let fromTitle ← skip? top page.toList
  let fromHeading ← skip? afterTitle (readText fromTitle).2
  let fromRows ← skip? afterHeading (readText fromHeading).2
  if (readRows fromRows).2 = bottom.toList then
    some ⟨(readText fromTitle).1, (readText fromHeading).1, (readRows fromRows).1⟩
  else none

theorem skip?_append (part : String) (rest : List Char) :
    skip? part (part.toList ++ rest) = some rest :=
  skip?_eq_some_iff.mpr rfl

/-- A text that was put into a page is read as it was, up to the delimiter behind it. -/
theorem readText_escape (text part : String)
    (hpart : part.toList.head?.any Markup.isDelimiter = true) (rest : List Char) :
    readText ((Markup.escape text).toList ++ (part.toList ++ rest)) =
      (text, part.toList ++ rest) := by
  have hplain : ∀ c ∈ (Markup.escape text).toList, (!Markup.isDelimiter c) = true := by
    intro c hc
    rw [Markup.isDelimiter_of_mem_escape hc]
    rfl
  obtain ⟨d, more, hpart', hd⟩ : ∃ d more, part.toList = d :: more ∧
      Markup.isDelimiter d = true := by
    cases h : part.toList with
    | nil => simp [h] at hpart
    | cons d more => exact ⟨d, more, rfl, by simpa [h] using hpart⟩
  unfold readText
  rw [hpart', List.takeWhile_append_of_pos hplain, List.dropWhile_append_of_pos hplain,
    List.cons_append, List.takeWhile_cons_of_neg (by simp [hd]),
    List.dropWhile_cons_of_neg (by simp [hd]), List.append_nil, String.ofList_toList,
    Markup.unescape_escape]

theorem readRow?_fillRow (texts : String × String) (rest : List Char) :
    readRow? (fillRow (Markup.escape texts.1, Markup.escape texts.2) ++ rest) =
      some (texts, rest) := by
  unfold readRow? fillRow
  simp only [List.append_assoc, skip?_append, Option.bind_eq_bind, Option.bind_some]
  rw [readText_escape texts.1 afterLink rfl]
  simp only [skip?_append, Option.bind_some]
  rw [readText_escape texts.2 rowEnd rfl]
  simp only [skip?_append, Option.bind_some]

theorem readRow?_bottom : readRow? bottom.toList = none := rfl

theorem readRows_of_none {s : List Char} (h : readRow? s = none) : readRows s = ([], s) := by
  rw [readRows]
  split
  · rfl
  · simp_all

theorem readRows_of_some {s rest : List Char} {texts : String × String}
    (h : readRow? s = some (texts, rest)) :
    readRows s = (texts :: (readRows rest).1, (readRows rest).2) := by
  rw [readRows]
  split
  · simp_all
  · rename_i h'
    rw [h] at h'
    cases h'
    rfl

/-- Rows are read in order, up to the bottom of the page. -/
theorem readRows_fillRow (rows : List (String × String)) :
    readRows ((rows.map fun row => (Markup.escape row.1, Markup.escape row.2)).flatMap fillRow ++
      bottom.toList) = (rows, bottom.toList) := by
  induction rows with
  | nil => exact readRows_of_none readRow?_bottom
  | cons row rows ih =>
    rw [List.map_cons, List.flatMap_cons, List.append_assoc,
      readRows_of_some (readRow?_fillRow row _), ih]

/-- What was put into a page is read from it. -/
theorem read?_fill {page : String} {texts : Texts}
    (h : page.toList = fill (texts.map Markup.escape)) : read? page = some texts := by
  have hrows := readRows_fillRow texts.rows
  unfold read?
  rw [h]
  unfold fill Texts.map
  simp only [List.append_assoc, skip?_append, Option.bind_eq_bind, Option.bind_some]
  rw [readText_escape texts.title afterTitle rfl]
  simp only [skip?_append, Option.bind_some]
  rw [readText_escape texts.heading afterHeading rfl]
  simp only [skip?_append, Option.bind_some, hrows, if_true]

/-! ## Delimiters -/

/-- The delimiters of a page, in order. -/
def delimiters (page : List Char) : List Char := page.filter Markup.isDelimiter

theorem delimiters_append (s t : List Char) : delimiters (s ++ t) = delimiters s ++ delimiters t :=
  List.filter_append s t

theorem delimiters_escape (text : String) : delimiters (Markup.escape text).toList = [] := by
  unfold delimiters
  rw [List.filter_eq_nil_iff]
  intro c hc
  simp [Markup.isDelimiter_of_mem_escape hc]

theorem delimiters_empty : delimiters "".toList = [] := rfl

theorem delimiters_rows (rows : List (String × String)) :
    delimiters ((rows.map fun row => (Markup.escape row.1, Markup.escape row.2)).flatMap fillRow) =
      delimiters ((rows.map fun _ => ("", "")).flatMap fillRow) := by
  induction rows with
  | nil => rfl
  | cons row rows ih =>
    have hrow : delimiters (fillRow (Markup.escape row.1, Markup.escape row.2)) =
        delimiters (fillRow ("", "")) := by
      unfold fillRow
      simp only [delimiters_append, delimiters_escape, delimiters_empty]
    simp only [List.map_cons, List.flatMap_cons, delimiters_append, ih, hrow]

/-- The delimiters of a page are those of the template without texts. -/
theorem delimiters_fill (texts : Texts) :
    delimiters (fill (texts.map Markup.escape)) = delimiters (fill (texts.map fun _ => "")) := by
  unfold fill Texts.map
  simp only [delimiters_append, delimiters_escape, delimiters_empty, delimiters_rows]

end Listing

/-! ## Entries from their rows -/

theorem Bytes.isAscii_hexUpper {d : Nat} (h : d < 16) : isAscii (hexUpper d) = true := by
  interval_cases d <;> rfl

namespace Entry

/-- The bytes that stand for themselves in a link: letters, digits and five signs. -/
theorem isLinkByte_iff {b : UInt8} :
    isLinkByte b = true ↔ (0x41 ≤ b.toNat ∧ b.toNat ≤ 0x5A) ∨ (0x61 ≤ b.toNat ∧ b.toNat ≤ 0x7A) ∨
      (0x30 ≤ b.toNat ∧ b.toNat ≤ 0x39) ∨ b.toNat = 0x2D ∨ b.toNat = 0x2E ∨ b.toNat = 0x5F ∨
      b.toNat = 0x7E ∨ b.toNat = 0x2F := by
  simp only [isLinkByte, Bytes.isAlphanumeric, Bytes.isAlpha, Bytes.isUpper, Bytes.isLower,
    Bytes.isDigit, Bool.or_eq_true, Bool.and_eq_true, decide_eq_true_eq, beq_iff_eq,
    UInt8.le_iff_toNat_le, ← UInt8.toNat_inj, UInt8.reduceToNat]
  omega

theorem isAscii_of_isLinkByte {b : UInt8} (h : isLinkByte b = true) : Bytes.isAscii b = true := by
  rw [isLinkByte_iff] at h
  rw [Bytes.isAscii_iff]
  omega

theorem isAscii_encode (s : Bytes) :
    (Percent.encode isLinkByte s).all Bytes.isAscii = true := by
  rw [List.all_eq_true]
  intro b hb
  obtain ⟨c, -, hc⟩ := List.mem_flatMap.mp hb
  split_ifs at hc with hkeep
  · rw [List.mem_singleton.mp hc]
    exact isAscii_of_isLinkByte hkeep
  · have hsize : c.toNat < 256 := c.toNat_lt_size
    simp only [Percent.escapeByte, List.mem_cons, List.not_mem_nil, or_false] at hc
    rcases hc with rfl | rfl | rfl
    · rfl
    · exact Bytes.isAscii_hexUpper (by omega)
    · exact Bytes.isAscii_hexUpper (by omega)

/-- The bytes of a link are those of the escaped name, and a slash for a directory. -/
theorem ofString_link (e : Entry) :
    Bytes.ofString e.link = Percent.encode isLinkByte (Bytes.ofString e.name) ++
      if e.isDir then [0x2F] else [] := by
  unfold link
  simp only
  split_ifs
  · rw [Bytes.ofString_concat, Bytes.ofString_asciiText (isAscii_encode _)]
    rfl
  · rw [Bytes.ofString_asciiText (isAscii_encode _), List.append_nil]

theorem slash_not_mem_bytes {name : String} (h : '/' ∉ name.toList) :
    0x2F ∉ Bytes.ofString name :=
  fun hmem => h ((Bytes.mem_ofString_iff (by decide)).mp hmem)

/-- A link ends in a slash just when it leads to a directory. -/
theorem endsWith_link {e : Entry} (h : '/' ∉ e.name.toList) :
    Bytes.endsWith (Bytes.ofString e.link) 0x2F = e.isDir := by
  have hescaped : 0x2F ∉ Percent.encode isLinkByte (Bytes.ofString e.name) :=
    Percent.slash_not_mem_encode (slash_not_mem_bytes h)
  rw [ofString_link]
  cases e.isDir with
  | true => exact Bytes.endsWith_iff.mpr ⟨_, rfl⟩
  | false =>
    rw [if_neg (by simp), List.append_nil, ← Bool.not_eq_true, Bytes.endsWith_iff]
    rintro ⟨front, hfront⟩
    rw [hfront] at hescaped
    simp at hescaped

theorem eq_of_link {e e' : Entry} (h : '/' ∉ e.name.toList) (h' : '/' ∉ e'.name.toList)
    (hlink : e.link = e'.link) : e.name = e'.name ∧ e.isDir = e'.isDir := by
  have hdir : e.isDir = e'.isDir := by rw [← endsWith_link h, hlink, endsWith_link h']
  have hbytes := congrArg Bytes.ofString hlink
  rw [ofString_link, ofString_link, hdir, List.append_cancel_right_eq] at hbytes
  have hdecoded := congrArg Percent.decode hbytes
  rw [Percent.decode_encode_kept rfl, Percent.decode_encode_kept rfl] at hdecoded
  exact ⟨Bytes.ofString_inj.mp hdecoded, hdir⟩

/-- The sign behind a name tells a link from everything else. -/
theorem isSymlink_of_displayName {name : String} {isDir isSymlink isSymlink' : Bool}
    (h : displayName ⟨name, isDir, isSymlink⟩ = displayName ⟨name, isDir, isSymlink'⟩) :
    isSymlink = isSymlink' := by
  have hchars := congrArg String.toList h
  unfold displayName at hchars
  cases isSymlink <;> cases isSymlink' <;> cases isDir <;> simp at hchars ⊢

/-- An entry whose name has no slash can be told from its link and from the name that is shown. -/
theorem eq_of_shown {e e' : Entry} (h : '/' ∉ e.name.toList) (h' : '/' ∉ e'.name.toList)
    (hlink : e.link = e'.link) (hshown : e.displayName = e'.displayName) : e = e' := by
  obtain ⟨hname, hdir⟩ := eq_of_link h h' hlink
  obtain ⟨name, isDir, isSymlink⟩ := e
  obtain ⟨name', isDir', isSymlink'⟩ := e'
  obtain rfl : name = name' := hname
  obtain rfl : isDir = isDir' := hdir
  rw [isSymlink_of_displayName hshown]

/-- Entries whose names have no slash can be told from the rows of their page. -/
theorem eq_of_rows {entries entries' : List Entry} (h : ∀ e ∈ entries, '/' ∉ e.name.toList)
    (h' : ∀ e ∈ entries', '/' ∉ e.name.toList)
    (hrows : (entries.map fun e => (e.link, e.displayName)) =
      entries'.map fun e => (e.link, e.displayName)) : entries = entries' := by
  induction entries generalizing entries' with
  | nil => simpa using hrows.symm
  | cons e entries ih =>
    cases entries' with
    | nil => cases hrows
    | cons e' entries' =>
      simp only [List.map_cons, List.cons.injEq, Prod.mk.injEq] at hrows
      obtain ⟨⟨hlink, hshown⟩, hrest⟩ := hrows
      simp only [List.mem_cons, forall_eq_or_imp] at h h'
      rw [eq_of_shown h.1 h'.1 hlink hshown, ih h.2 h'.2 hrest]

end Entry

/-! ## The law -/

/-- A page is the template with the escaped texts in it. All its delimiters are those of the
template, with one row for each entry; reading it at these delimiters and undoing the entities
gives the path twice, as title and as heading, and the link and the shown name of each entry in
order. So different paths have different pages, and so have different entries, as long as no name
has a slash. -/
theorem a_page_gives_back_what_it_shows (displayPath : String) (entries : List Entry) :
    (Listing.render displayPath entries).toList =
      Listing.fill ((Listing.textsOf displayPath entries).map Markup.escape) ∧
    Listing.delimiters (Listing.render displayPath entries).toList =
      Listing.delimiters (Listing.fill
        { title := "", heading := "", rows := entries.map fun _ => ("", "") }) ∧
    Listing.read? (Listing.render displayPath entries) =
      some { title := displayPath
             heading := displayPath
             rows := entries.map fun e => (e.link, e.displayName) } ∧
    ∀ displayPath' entries', (∀ e ∈ entries, '/' ∉ e.name.toList) →
      (∀ e ∈ entries', '/' ∉ e.name.toList) →
      Listing.render displayPath entries = Listing.render displayPath' entries' →
      displayPath = displayPath' ∧ entries = entries' := by
  have hread : ∀ path es, Listing.read? (Listing.render path es) =
      some (Listing.textsOf path es) := fun path es =>
    Listing.read?_fill (Listing.toList_render path es)
  have hblank : (Listing.textsOf displayPath entries).map (fun _ => "") =
      { title := "", heading := "", rows := entries.map fun _ => ("", "") } := by
    simp [Listing.textsOf, Listing.Texts.map, Function.comp_def]
  refine ⟨Listing.toList_render displayPath entries, ?_, hread displayPath entries, ?_⟩
  · rw [Listing.toList_render, Listing.delimiters_fill, hblank]
  · intro displayPath' entries' hnames hnames' hpage
    have htexts : Listing.textsOf displayPath entries = Listing.textsOf displayPath' entries' := by
      rw [← Option.some_inj, ← hread, ← hread, hpage]
    exact ⟨congrArg Listing.Texts.title htexts,
      Entry.eq_of_rows hnames hnames' (congrArg Listing.Texts.rows htexts)⟩

/-- In a directory that is named like an entity, a link to a directory and a file with the sign of a
link in its name are shown alike and have different links. An entity and what it stands for have
different pages, and so have a directory and a link to one. -/
theorem a_name_like_an_entity_is_read_back :
    Listing.read? (Listing.render "/&lt;/" [⟨"a", true, true⟩, ⟨"a@", false, false⟩]) =
      some { title := "/&lt;/", heading := "/&lt;/", rows := [("a/", "a@"), ("a%40", "a@")] } ∧
    Listing.render "/&lt;/" [⟨"a", true, true⟩] ≠ Listing.render "/</" [⟨"a", true, true⟩] ∧
    Listing.render "/" [⟨"a", true, true⟩] ≠ Listing.render "/" [⟨"a", true, false⟩] := by
  obtain ⟨-, -, hread, -⟩ :=
    a_page_gives_back_what_it_shows "/&lt;/" [⟨"a", true, true⟩, ⟨"a@", false, false⟩]
  obtain ⟨-, -, -, hpath⟩ := a_page_gives_back_what_it_shows "/&lt;/" [⟨"a", true, true⟩]
  obtain ⟨-, -, -, hflag⟩ := a_page_gives_back_what_it_shows "/" [⟨"a", true, true⟩]
  refine ⟨hread, fun hpage => ?_, fun hpage => ?_⟩
  · have hsame := (hpath "/</" [⟨"a", true, true⟩] (by simp) (by simp) hpage).1
    exact absurd hsame (by decide)
  · have hsame := (hflag "/" [⟨"a", true, false⟩] (by simp) (by simp) hpage).2
    exact absurd hsame (by decide)

end IsoServer
