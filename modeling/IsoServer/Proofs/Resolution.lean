-- The two ways from a request path to a path below the served directory. They come to the same
-- place, unless the first thing behind the slashes in front is an escaped slash: the file service
-- refuses such a path, and the listing passes over the slash.
import Mathlib
import IsoServer.Proofs.Confinement
import IsoServer.Proofs.Digits

namespace IsoServer

/-! ## Undoing escapes -/

namespace Percent

theorem decode_cons_of_ne {b : UInt8} (h : b ≠ 0x25) (rest : Bytes) :
    decode (b :: rest) = b :: decode rest := by
  have hplain : (b == 0x25) = false := by simpa using h
  rw [decode.eq_def]
  simp only [hplain, Bool.false_eq_true, if_false]

theorem decode_escape {h l : UInt8} {hi lo : Nat} (hh : Bytes.hexValue? h = some hi)
    (hl : Bytes.hexValue? l = some lo) (rest : Bytes) :
    decode (0x25 :: h :: l :: rest) = UInt8.ofNat (hi * 16 + lo) :: decode rest := by
  rw [decode]
  simp [hh, hl]

/-- A percent sign starts an escape or stands for itself. -/
theorem decode_percent_cases (rest : Bytes) :
    (∃ h l rest' hi lo, rest = h :: l :: rest' ∧ Bytes.hexValue? h = some hi ∧
      Bytes.hexValue? l = some lo ∧
      decode (0x25 :: rest) = UInt8.ofNat (hi * 16 + lo) :: decode rest') ∨
    ∃ rest', decode (0x25 :: rest) = 0x25 :: rest' := by
  rcases rest with _ | ⟨h, _ | ⟨l, rest⟩⟩
  · exact .inr ⟨[], by simp [decode]⟩
  · exact .inr ⟨decode [h], by rw [decode]; rfl⟩
  · cases hh : Bytes.hexValue? h with
    | none => exact .inr ⟨decode (h :: l :: rest), by rw [decode]; simp [hh]⟩
    | some hi =>
      cases hl : Bytes.hexValue? l with
      | none => exact .inr ⟨decode (h :: l :: rest), by rw [decode]; simp [hh, hl]⟩
      | some lo => exact .inl ⟨h, l, rest, hi, lo, rfl, hh, hl, decode_escape hh hl rest⟩

end Percent

theorem Utf8.isValid_slash (s : Bytes) : isValid (0x2F :: s) = isValid s := by
  unfold isValid
  rw [pieces.eq_def]
  rfl

/-! ## Slashes in front -/

namespace Files

theorem dropSlashes_slash (s : Bytes) : dropSlashes (0x2F :: s) = dropSlashes s := by
  simp [dropSlashes]

theorem dropSlashes_of_head {s : Bytes} (h : s.head? ≠ some 0x2F) : dropSlashes s = s := by
  cases s with
  | nil => rfl
  | cons b rest =>
    have hb : b ≠ 0x2F := by simpa using h
    simp [dropSlashes, hb]

theorem head?_dropSlashes (s : Bytes) : (dropSlashes s).head? ≠ some 0x2F := by
  induction s with
  | nil => simp [dropSlashes]
  | cons b rest ih =>
    by_cases hb : b = 0x2F
    · rw [hb, dropSlashes_slash]
      exact ih
    · simp [dropSlashes, hb]

/-- A path that does not start with a slash starts where its slashes in front end. -/
theorem dropSlashes_cons_of_ne {b : UInt8} (h : b ≠ 0x2F) (rest : Bytes) :
    dropSlashes (b :: rest) = b :: rest :=
  dropSlashes_of_head (by simpa using h)

/-- It makes no difference to a listing whether slashes in front are dropped before escapes are
undone as well. -/
theorem dropSlashes_decode (path : Bytes) :
    dropSlashes (Percent.decode (dropSlashes path)) = dropSlashes (Percent.decode path) := by
  induction path with
  | nil => rfl
  | cons b rest ih =>
    by_cases hb : b = 0x2F
    · rw [hb, dropSlashes_slash, Percent.decode_cons_of_ne (by decide), dropSlashes_slash, ih]
    · rw [dropSlashes_cons_of_ne hb]

theorem isValid_decode_dropSlashes (path : Bytes) :
    Utf8.isValid (Percent.decode (dropSlashes path)) = Utf8.isValid (Percent.decode path) := by
  induction path with
  | nil => rfl
  | cons b rest ih =>
    by_cases hb : b = 0x2F
    · rw [hb, dropSlashes_slash, Percent.decode_cons_of_ne (by decide), Utf8.isValid_slash, ih]
    · rw [dropSlashes_cons_of_ne hb]

/-! ## An escaped slash in front -/

/-- Behind the slashes in front of a path stands an escaped slash, and then the rest. -/
def EscapedSlash (path rest : Bytes) : Prop :=
  dropSlashes path = 0x25 :: 0x32 :: 0x46 :: rest ∨ dropSlashes path = 0x25 :: 0x32 :: 0x66 :: rest

theorem decode_of_escapedSlash {path rest : Bytes} (h : EscapedSlash path rest) :
    Percent.decode (dropSlashes path) = 0x2F :: Percent.decode rest := by
  have hhigh : Bytes.hexValue? 0x32 = some 2 := rfl
  have hcapital : Bytes.hexValue? 0x46 = some 15 := rfl
  have hsmall : Bytes.hexValue? 0x66 = some 15 := rfl
  rcases h with h | h
  · rw [h, Percent.decode_escape hhigh hcapital]
    rfl
  · rw [h, Percent.decode_escape hhigh hsmall]
    rfl

/-- Undoing escapes brings a slash to the front only if one is escaped there. -/
theorem exists_escapedSlash {path : Bytes}
    (h : (Percent.decode (dropSlashes path)).head? = some 0x2F) :
    ∃ rest, EscapedSlash path rest := by
  have hfront := head?_dropSlashes path
  unfold EscapedSlash
  generalize dropSlashes path = s at h hfront
  cases s with
  | nil => simp [Percent.decode] at h
  | cons b rest =>
    by_cases hb : b = 0x25
    · subst hb
      rcases Percent.decode_percent_cases rest with
        ⟨x, y, rest', hi, lo, rfl, hx, hy, hdecode⟩ | ⟨rest', hdecode⟩
      · obtain ⟨hhi, hx⟩ := Bytes.hexValue?_eq_some hx
        obtain ⟨hlo, hy⟩ := Bytes.hexValue?_eq_some hy
        have hslash : UInt8.ofNat (hi * 16 + lo) = 0x2F := by simpa [hdecode] using h
        have hvalue : hi * 16 + lo = 0x2F := by
          have htoNat := congrArg UInt8.toNat hslash
          rw [UInt8.toNat_ofNat_of_lt' (by unfold UInt8.size; omega)] at htoNat
          exact htoNat
        obtain ⟨rfl, rfl⟩ : hi = 2 ∧ lo = 15 := by omega
        rcases hx with rfl | rfl <;> rcases hy with rfl | rfl
        · exact ⟨rest', .inr rfl⟩
        · exact ⟨rest', .inl rfl⟩
        · exact ⟨rest', .inr rfl⟩
        · exact ⟨rest', .inl rfl⟩
      · simp [hdecode] at h
    · rw [Percent.decode_cons_of_ne hb] at h
      exact absurd h hfront

/-! ## Both ways -/

/-- The way of a listing, with the slashes in front dropped twice. -/
theorem resolve_eq (root path : Bytes) :
    resolve root path =
      if !Utf8.isValid (Percent.decode (dropSlashes path)) then none
      else (names? (dropSlashes (Percent.decode (dropSlashes path)))).map (extend root) := by
  rw [isValid_decode_dropSlashes, dropSlashes_decode]
  rfl

theorem servedPath_of_escapedSlash {path rest : Bytes} (h : EscapedSlash path rest)
    (root : Bytes) : servedPath root path = none := by
  unfold servedPath
  rw [decode_of_escapedSlash h]
  simp

/-- A listing passes over an escaped slash in front as it does over any other. -/
theorem resolve_of_escapedSlash {path rest : Bytes} (h : EscapedSlash path rest) (root : Bytes) :
    resolve root path = resolve root rest := by
  rw [resolve_eq root path, decode_of_escapedSlash h, dropSlashes_slash, Utf8.isValid_slash]
  rfl

theorem resolve_eq_servedPath {path : Bytes} (h : ¬ ∃ rest, EscapedSlash path rest)
    (root : Bytes) : resolve root path = servedPath root path := by
  have hhead : (Percent.decode (dropSlashes path)).head? ≠ some 0x2F :=
    fun hslash => h (exists_escapedSlash hslash)
  have hslash : ((Percent.decode (dropSlashes path)).head? == some 0x2F) = false := by
    simpa using hhead
  rw [resolve_eq root path, dropSlashes_of_head hhead]
  unfold servedPath
  simp only [hslash, Bool.or_false]

/-- Where the listing refuses a path, the answer is that of the file service. -/
theorem serve_of_refused {config : FilesConfig} {request : Request}
    (hresolve : resolve config.root request.uri.path = none)
    (hserved : servedPath config.root request.uri.path = none)
    (hmethod : request.method = .get ∨ request.method = .head) (fs : FileSystem)
    (who : Visitor) : serve config fs who request = some (.ofStatus 404) := by
  have hlist : listable? fs who config.root request.uri.path = none := by
    unfold listable?
    rw [hresolve]
    split <;> rfl
  have hfile : serveFile fs who config.root request = some (.ofStatus 404) := by
    unfold serveFile
    rw [hserved]
    rcases hmethod with hmethod | hmethod <;> simp [hmethod]
  unfold serve
  simp [hlist, hfile]

/-- A directory that can be listed and read is answered with its listing. -/
theorem serve_of_listable {config : FilesConfig} {fs : FileSystem} {who : Visitor}
    {request : Request} {dir : Bytes} {members : List (Bytes × Node)}
    (hlisted : config.directoryListing = true)
    (hmethod : request.method = .get ∨ request.method = .head)
    (hdir : listable? fs who config.root request.uri.path = some dir)
    (hmembers : fs.members who dir = .ok members) :
    ∃ response, serve config fs who request = some response ∧ response.status = 200 := by
  have hasked : (config.directoryListing &&
      (request.method == .get || request.method == .head)) = true := by
    rcases hmethod with hmethod | hmethod <;> simp [hlisted, hmethod]
  have hstatus : (listing fs who request.uri.path dir).status = 200 := by
    unfold listing Entry.readAll
    rw [hmembers]
    rfl
  refine ⟨listing fs who request.uri.path dir, ?_, hstatus⟩
  unfold serve
  simp only [hasked, if_true, hdir]

end Files

/-! ## The law -/

/-- Listings and files come to the same path, unless an escaped slash stands in front and the
listing accepts what follows it. What the file service accepts, the listing accepts as well; with
an escaped slash in front the file service refuses every path, and the listing takes what follows.
Any other path that the file service refuses is never listed, but answered with 404. -/
theorem listings_and_files_part_at_an_escaped_slash (root path : Bytes) :
    (Files.resolve root path = Files.servedPath root path ↔
      (¬ ∃ rest, Files.EscapedSlash path rest) ∨ Files.resolve root path = none) ∧
    (∀ file, Files.servedPath root path = some file → Files.resolve root path = some file) ∧
    (∀ rest, Files.EscapedSlash path rest → Files.servedPath root path = none ∧
      Files.resolve root path = Files.resolve root rest) ∧
    ((¬ ∃ rest, Files.EscapedSlash path rest) → Files.servedPath root path = none →
      ∀ (listed : Bool) (fs : FileSystem) (who : Visitor) (request : Request),
        request.uri.path = path → request.method = .get ∨ request.method = .head →
        Files.serve { root, directoryListing := listed } fs who request =
          some (.ofStatus 404)) := by
  refine ⟨⟨fun hsame => ?_, ?_⟩, fun file hfile => ?_, fun rest hrest => ?_, ?_⟩
  · by_cases hslash : ∃ rest, Files.EscapedSlash path rest
    · obtain ⟨rest, hrest⟩ := hslash
      exact .inr (hsame.trans (Files.servedPath_of_escapedSlash hrest root))
    · exact .inl hslash
  · rintro (hplain | hnone)
    · exact Files.resolve_eq_servedPath hplain root
    · by_cases hslash : ∃ rest, Files.EscapedSlash path rest
      · obtain ⟨rest, hrest⟩ := hslash
        rw [hnone, Files.servedPath_of_escapedSlash hrest root]
      · exact Files.resolve_eq_servedPath hslash root
  · have hplain : ¬ ∃ rest, Files.EscapedSlash path rest := by
      rintro ⟨rest, hrest⟩
      rw [Files.servedPath_of_escapedSlash hrest root] at hfile
      cases hfile
    rw [Files.resolve_eq_servedPath hplain root, hfile]
  · exact ⟨Files.servedPath_of_escapedSlash hrest root, Files.resolve_of_escapedSlash hrest root⟩
  · intro hplain hnone listed fs who request hpath hmethod
    subst hpath
    have hresolve := (Files.resolve_eq_servedPath hplain root).trans hnone
    exact Files.serve_of_refused hresolve hnone hmethod fs who

/-- With an escaped slash in front, a directory is listed that the file service refuses to look
for. -/
theorem a_directory_behind_an_escaped_slash_is_listed :
    Files.resolve (Bytes.ofString "/srv/") (Bytes.ofString "/%2Fdocs/") =
      some (Bytes.ofString "/srv/docs") ∧
    Files.servedPath (Bytes.ofString "/srv/") (Bytes.ofString "/%2Fdocs/") = none ∧
    ∃ response, Files.serve sampleServer.files sampleSystem .other
        { method := .get, uri := { path := Bytes.ofString "/%2Fdocs/" } } = some response ∧
      response.status = 200 := by
  have hmembers : ∃ members,
      sampleSystem.members .other (Bytes.ofString "/srv/docs") = .ok members := ⟨_, rfl⟩
  obtain ⟨members, hmembers⟩ := hmembers
  refine ⟨by decide +kernel, by decide +kernel, ?_⟩
  exact Files.serve_of_listable rfl (.inl rfl) (by decide +kernel) hmembers

/-- Escaped dots behind an escaped slash that is not in front are refused both ways. -/
theorem escaped_dots_are_refused_both_ways :
    Files.resolve (Bytes.ofString "/srv/") (Bytes.ofString "/docs%2F%2e%2e/") = none ∧
    Files.serve sampleServer.files sampleSystem .other
        { method := .get, uri := { path := Bytes.ofString "/docs%2F%2e%2e/" } } =
      some (.ofStatus 404) := by
  obtain ⟨hiff, -, -, hrefused⟩ := listings_and_files_part_at_an_escaped_slash
    (Bytes.ofString "/srv/") (Bytes.ofString "/docs%2F%2e%2e/")
  have hnone : Files.servedPath (Bytes.ofString "/srv/") (Bytes.ofString "/docs%2F%2e%2e/") =
      none := by
    decide +kernel
  have hplain : ¬ ∃ rest, Files.EscapedSlash (Bytes.ofString "/docs%2F%2e%2e/") rest := by
    rintro ⟨rest, h | h⟩ <;> cases h
  exact ⟨(hiff.mpr (.inl hplain)).trans hnone,
    hrefused hplain hnone true sampleSystem .other _ rfl (.inl rfl)⟩

end IsoServer
