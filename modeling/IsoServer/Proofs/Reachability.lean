-- Every file below the root can be got. The path is made of the names that lead to the file, as
-- links are, and the answer is the file as it is. Only two things stand in the way: a path that is
-- too long to be walked, and a time that cannot be written as a date.
import Mathlib
import IsoServer.Proofs.Escapes
import IsoServer.Proofs.Forwarding

namespace IsoServer

/-! ## The way to a file -/

namespace Node

/-- The visitor may look up each of the names in the directory that the names before it lead to. -/
def SearchableAlong (who : Visitor) : List Bytes → Node → Prop
  | [], _ => True
  | name :: rest, here =>
    here.searchable who = true ∧
      ∀ inner, here.member? name = some inner → inner.SearchableAlong who rest

theorem isDir_of_member? {name : Bytes} {here inner : Node} (h : here.member? name = some inner) :
    here.isDir = true := by
  cases here with
  | dir => rfl
  | file => cases h
  | link => cases h

theorem isLink_of_isDir {here : Node} (h : here.isDir = true) : here.isLink = false := by
  cases here with
  | dir => rfl
  | file => rfl
  | link => cases h

/-- Names that lead down to something that is not a link pass no link. -/
theorem noLinkAlong_of_at? {names : List Bytes} {here node : Node}
    (h : here.at? names = some node) (hnode : node.isLink = false) : here.NoLinkAlong names := by
  induction names generalizing here with
  | nil =>
    cases h
    exact hnode
  | cons name rest ih =>
    obtain ⟨inner, hinner, hrest⟩ := Option.bind_eq_some_iff.mp h
    refine ⟨isLink_of_isDir (isDir_of_member? hinner), fun other hother => ?_⟩
    rw [Option.some.inj (hother.symm.trans hinner)]
    exact ih hrest

/-- Names lead a visitor down to what is there, if the directories on the way let the visitor
through. -/
theorem descend_of_at? {who : Visitor} {names : List Bytes} {here node : Node}
    (h : here.at? names = some node) (hsearch : here.SearchableAlong who names)
    (hshort : ∀ name ∈ names, name.length ≤ FileSystem.maxName) :
    here.descend who names = .ok node := by
  induction names generalizing here with
  | nil =>
    cases h
    rfl
  | cons name rest ih =>
    obtain ⟨inner, hinner, hrest⟩ := Option.bind_eq_some_iff.mp h
    have hname : ¬ name.length > FileSystem.maxName := Nat.not_lt.mpr (hshort name (by simp))
    have hbelow : inner.descend who rest = .ok node :=
      ih hrest (hsearch.2 inner hinner) fun n hn => hshort n (List.mem_cons_of_mem _ hn)
    unfold descend
    simp [isDir_of_member? hinner, hsearch.1, hname, hinner, hbelow]

end Node

namespace FileSystem

/-- A name that a directory can hold. -/
structure IsMemberName (name : Bytes) : Prop extends IsName name where
  no_nul : 0 ∉ name
  short : name.length ≤ maxName

theorem not_mem_child {b : UInt8} (hb : b ≠ 0x2F) {path name : Bytes} (hpath : b ∉ path)
    (hname : b ∉ name) : b ∉ child path name := by
  unfold child
  split_ifs <;> simp [hb, hpath, hname]

theorem length_child_le (path name : Bytes) :
    path.length + name.length ≤ (child path name).length := by
  unfold child
  split_ifs with hempty
  · simp [List.isEmpty_iff.mp hempty]
  all_goals simp

end FileSystem

namespace Files

open FileSystem

theorem not_mem_extend {b : UInt8} (hb : b ≠ 0x2F) {root : Bytes} (hroot : b ∉ root)
    {names : List Bytes} (h : ∀ name ∈ names, b ∉ name) : b ∉ extend root names := by
  induction names using List.reverseRecOn with
  | nil => exact hroot
  | append_singleton names name ih =>
    rw [extend_concat]
    exact not_mem_child hb (ih fun n hn => h n (List.mem_append_left _ hn)) (h name (by simp))

theorem length_extend_le (root : Bytes) (names : List Bytes) :
    root.length + (names.map List.length).sum ≤ (extend root names).length := by
  induction names using List.reverseRecOn with
  | nil => simp [extend]
  | append_singleton names name ih =>
    have hchild := length_child_le (extend root names) name
    rw [extend_concat]
    simp only [List.map_append, List.sum_append, List.map_cons, List.map_nil, List.sum_singleton]
    omega

/-- A file below the root that the visitor can get at: its names are those of directory members and
text in UTF-8, there is no link on the way, the directories on the way can be searched and the file
can be read; and the file is not older than 1970. -/
structure Reachable (fs : FileSystem) (who : Visitor) (root : Bytes) (names : List Bytes)
    (mode : Nat) (modified : Int) (content : Bytes) : Prop where
  below : names ≠ []
  memberNames : ∀ name ∈ names, IsMemberName name
  utf8 : ∀ name ∈ names, Utf8.isValid name = true
  root_no_nul : 0 ∉ root
  way : ∃ top, fs.Denotes who root top ∧ top.at? names = some (.file mode modified content) ∧
    top.SearchableAlong who names
  readable : (Node.file mode modified content).readable who = true
  dated : 0 ≤ modified

namespace Reachable

variable {fs : FileSystem} {who : Visitor} {root : Bytes} {names : List Bytes} {mode : Nat}
  {modified : Int} {content : Bytes} (h : Reachable fs who root names mode modified content)

include h

theorem isNames : ∀ name ∈ names, IsName name :=
  fun name hname => (h.memberNames name hname).toIsName

theorem pathError?_eq : pathError? (extend root names) =
    if (extend root names).length > maxPath then some .nameTooLong else none := by
  have hnul : 0 ∉ extend root names :=
    not_mem_extend (by decide) h.root_no_nul fun name hname => (h.memberNames name hname).no_nul
  have hempty : extend root names ≠ [] := by
    obtain ⟨front, last, rfl⟩ := List.eq_nil_or_concat names |>.resolve_left h.below
    have hlast := h.isNames last (by simp)
    have hlength := length_child_le (extend root front) last
    have hpositive := List.length_pos_of_ne_nil hlast.nonempty
    rw [List.concat_eq_append, extend_concat]
    exact List.ne_nil_of_length_pos (by omega)
  unfold pathError?
  simp [hnul, hempty]

theorem stat_eq : fs.stat who (extend root names) =
    if (extend root names).length > maxPath then .error .nameTooLong
    else .ok (.file mode modified content) := by
  obtain ⟨top, htop, hat, hsearch⟩ := h.way
  have hdescend : top.descend who names = .ok (.file mode modified content) :=
    Node.descend_of_at? hat hsearch fun name hname => (h.memberNames name hname).short
  rw [stat_extend htop h.isNames (Node.noLinkAlong_of_at? hat rfl), h.pathError?_eq, hdescend]
  split_ifs <;> rfl

end Reachable

end Files

/-! ## Asking for a file -/

/-- A request to get the file that the names lead to, all of it and under no condition. -/
structure Request.AsksFor (request : Request) (names : List Bytes) : Prop where
  method : request.method = .get
  path : request.uri.path = Files.linkPath names
  unconditional : ∀ name ∈ ["range", "if-modified-since", "if-unmodified-since"],
    request.headers.get? name = none

namespace Files

open FileSystem

/-- The answer that holds all of a file. -/
def wholeFile (path text content : Bytes) : Response :=
  { status := 200
    headers := [("content-type", Bytes.ofString (MediaType.ofPath path)),
      ("accept-ranges", Bytes.ofString "bytes"), ("last-modified", text),
      ("content-length", Bytes.decimal content.length)]
    body := { content, sized := false } }

section Asked

variable {fs : FileSystem} {who : Visitor} {config : FilesConfig} {names : List Bytes} {mode : Nat}
  {modified : Int} {content : Bytes} {request : Request}
  (h : Reachable fs who config.root names mode modified content) (hasks : request.AsksFor names)

include h hasks

/-- A request for a file is answered with what is at its path, listings or not. -/
theorem serve_eq_serveAt :
    serve config fs who request = serveAt fs who request (extend config.root names) := by
  have hlist : listable? fs who config.root request.uri.path = none := by
    unfold listable?
    rw [hasks.path, endsWith_linkPath h.below h.isNames]
    rfl
  have hfile : fs.isDir who (extend config.root names) = false := by
    unfold isDir
    rw [h.stat_eq]
    split_ifs <;> rfl
  have hserved : servedPath config.root request.uri.path = some (extend config.root names) := by
    rw [hasks.path, servedPath_linkPath h.below h.isNames h.utf8]
  unfold serve serveFile
  simp [hlist, hasks.method, hserved, hfile]

theorem serve_of_long (hlong : maxPath < (extend config.root names).length) :
    serve config fs who request = some (.ofStatus 500) := by
  rw [serve_eq_serveAt h hasks]
  unfold serveAt openFor openFile
  rw [h.stat_eq, if_pos hlong]
  simp [hasks.method, failure]

section Short

variable (hshort : (extend config.root names).length ≤ maxPath)

include hshort

theorem openFor_of_short :
    openFor fs who request.method (extend config.root names) =
      .ok (.file mode modified content) := by
  unfold openFor openFile
  rw [h.stat_eq, if_neg (Nat.not_lt.mpr hshort)]
  simp [hasks.method, h.readable]

/-- There is no answer for a file from the year 10000 or later. -/
theorem serve_of_undated (hlate : 253402300800 ≤ modified) :
    serve config fs who request = none := by
  have hdate : Date.textOf? modified = none := by
    simp [Date.textOf?, Int.not_lt.mpr hlate]
  rw [serve_eq_serveAt h hasks]
  unfold serveAt
  rw [openFor_of_short h hasks hshort]
  simp [Opened.ofNode?, hdate]

theorem serve_of_dated (hearly : modified < 253402300800) :
    serve config fs who request = some (wholeFile (extend config.root names)
      (Date.ofSeconds modified.toNat).text content) := by
  have hdate : Date.textOf? modified = some (Date.ofSeconds modified.toNat).text := by
    simp [Date.textOf?, h.dated, hearly]
  have hcondition : precondition? request.headers modified.toNat = none := by
    unfold precondition? timeField?
    simp [hasks.unconditional]
  rw [serve_eq_serveAt h hasks]
  unfold serveAt
  rw [openFor_of_short h hasks hshort]
  simp only [Opened.ofNode?, hdate, hcondition, contents,
    hasks.unconditional "range" (by simp), hasks.method]
  rfl

end Short

end Asked

end Files

namespace Server

section Asked

variable {server : Server} {world : World} {names : List Bytes} {mode : Nat} {modified : Int}
  {content : Bytes} {request : Request}
  (h : Files.Reachable world.fs world.who server.files.root names mode modified content)
  (hasks : request.AsksFor names)
  (hplain : ¬ ∃ rest, rest ≠ [] ∧ names = Files.proxyName :: rest)

include h hasks hplain

theorem respond_of_asksFor :
    server.respond world request =
      ((Files.serve server.files world.fs world.who request).map fun plain =>
        isolate (deliver request.method plain), []) := by
  have hstart : ¬ Proxy.pathStart <+: request.uri.path := by
    rwa [hasks.path, Files.pathStart_isPrefix_iff h.below h.isNames]
  exact respond_of_isForFile server world (.inr hstart)

theorem respond_of_long
    (hlong : FileSystem.maxPath < (Files.extend server.files.root names).length) :
    ∃ response, server.respond world request = (some response, []) ∧ response.status = 500 := by
  have hserve := Files.serve_of_long h hasks hlong
  have hdelivered := delivered_isolate (Files.allLower_serve hserve) (Files.not_tunnel hserve)
  rw [respond_of_asksFor h hasks hplain, hserve]
  exact ⟨_, rfl, hdelivered.status⟩

variable (hshort : (Files.extend server.files.root names).length ≤ FileSystem.maxPath)

include hshort

theorem respond_of_undated (hlate : 253402300800 ≤ modified) :
    server.respond world request = (none, []) := by
  rw [respond_of_asksFor h hasks hplain, Files.serve_of_undated h hasks hshort hlate]
  rfl

theorem respond_of_dated (hearly : modified < 253402300800) :
    ∃ response, server.respond world request = (some response, []) ∧ response.status = 200 ∧
      response.headers.values "content-length" = [Bytes.decimal content.length] ∧
      response.body.content = content ∧ response.body.cut = false := by
  have hserve := Files.serve_of_dated h hasks hshort hearly
  have hdelivered := delivered_isolate (Files.allLower_serve hserve) (Files.not_tunnel hserve)
  have hget : request.method ≠ .head := by simp [hasks.method]
  have hbody := hdelivered.body.trans (if_neg hget)
  rw [respond_of_asksFor h hasks hplain, hserve]
  refine ⟨_, rfl, hdelivered.status, hdelivered.lengths, ?_, ?_⟩
  · rw [hbody]
    rfl
  · rw [hbody]
    rfl

end Asked

end Server

/-! ## The law -/

/-- A request for a file that can be got at is forwarded if the first of two or more names is the
one for forwarded requests. Any other is answered with all bytes of the file and their number,
whether directories are listed or not, and nothing is sent for it; unless the path is too long to
be walked, or the file is from the year 10000 or later. -/
theorem a_file_is_served_as_it_is_at_the_path_of_its_names (server : Server)
    (world : Server.World) (request : Request) (names : List Bytes) (mode : Nat) (modified : Int)
    (content : Bytes)
    (hfile : Files.Reachable world.fs world.who server.files.root names mode modified content)
    (hasks : request.AsksFor names) :
    ((∃ rest, rest ≠ [] ∧ names = Files.proxyName :: rest) →
      ∃ segment, request.uri.path = Proxy.pathStart ++ segment ∧
        server.respond world request =
          (some (isolate (deliver .get
            (Proxy.forward server.client world.network world.sent segment).1)),
          (Proxy.forward server.client world.network world.sent segment).2)) ∧
    ((¬ ∃ rest, rest ≠ [] ∧ names = Files.proxyName :: rest) →
      (FileSystem.maxPath < (Files.extend server.files.root names).length →
        ∃ response, server.respond world request = (some response, []) ∧
          response.status = 500) ∧
      ((Files.extend server.files.root names).length ≤ FileSystem.maxPath →
        (253402300800 ≤ modified → server.respond world request = (none, [])) ∧
        (modified < 253402300800 →
          ∃ response, server.respond world request = (some response, []) ∧
            response.status = 200 ∧
            response.headers.values "content-length" = [Bytes.decimal content.length] ∧
            response.body.content = content ∧ response.body.cut = false))) := by
  refine ⟨fun hproxy => ?_, fun hplain => ⟨?_, fun hshort => ⟨?_, ?_⟩⟩⟩
  · have hstart := (Files.pathStart_isPrefix_iff hfile.below hfile.isNames).mpr hproxy
    obtain ⟨segment, hsegment⟩ := hstart
    rw [← hasks.path] at hsegment
    exact ⟨segment, hsegment.symm,
      Server.respond_of_forwarded hasks.method hsegment.symm server world⟩
  · exact Server.respond_of_long hfile hasks hplain
  · exact Server.respond_of_undated hfile hasks hplain hshort
  · exact Server.respond_of_dated hfile hasks hplain hshort

/-! ## Files that can and that cannot be got -/

/-- A request for what the names lead to. -/
def askedFor (names : List Bytes) : Request :=
  { method := .get, uri := { path := Files.linkPath names } }

theorem asksFor_askedFor (names : List Bytes) : (askedFor names).AsksFor names where
  method := rfl
  path := rfl
  unconditional _ _ := rfl

/-- Directories in each other, all of one name, and in the last one a file of that name. -/
def nested (name : Bytes) (modified : Int) : Nat → Node
  | 0 => .file 0o644 modified (Bytes.ofString "hello")
  | n + 1 => .dir 0o755 0 [(name, nested name modified n)]

/-- The same in a file system. -/
def nestedSystem (name : Bytes) (modified : Int) (n : Nat) : FileSystem :=
  { top := nested name modified n }

/-- A server of everything there is. -/
def topServer (listed : Bool) : Server :=
  { files := { root := [0x2F], directoryListing := listed }
    client := { userAgent := [], maxRedirects := 0 } }

section Nested

variable {name : Bytes} {modified : Int}

theorem member?_nested (n : Nat) :
    (nested name modified (n + 1)).member? name = some (nested name modified n) := by
  simp [nested, Node.member?]

theorem at?_nested (n : Nat) :
    (nested name modified n).at? (List.replicate n name) =
      some (.file 0o644 modified (Bytes.ofString "hello")) := by
  induction n with
  | zero => rfl
  | succ n ih =>
    rw [List.replicate_succ, Node.at?, member?_nested]
    exact ih

theorem searchableAlong_nested (n : Nat) :
    (nested name modified n).SearchableAlong .other (List.replicate n name) := by
  induction n with
  | zero => trivial
  | succ n ih =>
    rw [List.replicate_succ]
    refine ⟨rfl, fun inner hinner => ?_⟩
    rw [member?_nested] at hinner
    rwa [← Option.some.inj hinner]

theorem reachable_nested (hname : FileSystem.IsMemberName name) (hvalid : Utf8.isValid name = true)
    (hmodified : 0 ≤ modified) (n : Nat) :
    Files.Reachable (nestedSystem name modified (n + 1)) .other [0x2F]
      (List.replicate (n + 1) name) 0o644 modified (Bytes.ofString "hello") where
  below := by simp
  memberNames other hother := by rwa [List.eq_of_mem_replicate hother]
  utf8 other hother := by rwa [List.eq_of_mem_replicate hother]
  root_no_nul := by decide
  way := ⟨nested name modified (n + 1), FileSystem.denotes_of_stat rfl, at?_nested (n + 1),
    searchableAlong_nested (n + 1)⟩
  readable := rfl
  dated := hmodified

end Nested

/-- A name with a letter beyond ASCII and with what looks like an escaped slash. -/
def escapeName : Bytes := Bytes.ofString "é%2F.txt"

theorem isMemberName_escapeName : FileSystem.IsMemberName escapeName where
  nonempty := by decide
  no_slash := by decide
  not_dot := by decide
  not_dotDot := by decide
  no_nul := by decide
  short := by decide

/-- A name that is nearly as long as names can be. -/
def longName : Bytes := List.replicate 250 0x61

theorem length_longName : longName.length = 250 := List.length_replicate

theorem isMemberName_longName : FileSystem.IsMemberName longName where
  nonempty := by decide
  no_slash h := absurd (List.eq_of_mem_replicate h) (by decide)
  not_dot := by decide
  not_dotDot := by decide
  no_nul h := absurd (List.eq_of_mem_replicate h) (by decide)
  short := by
    rw [length_longName]
    decide

theorem not_proxyName {name : Bytes} (h : name ≠ Files.proxyName) (n : Nat) :
    ¬ ∃ rest, rest ≠ [] ∧ List.replicate (n + 1) name = Files.proxyName :: rest := by
  rintro ⟨rest, -, heq⟩
  exact h (List.cons.inj heq).1

/-- Names that look like escapes lead to their file. -/
theorem a_name_like_an_escape_is_served :
    Files.Reachable (nestedSystem escapeName 0 3) .other [0x2F] (List.replicate 3 escapeName)
      0o644 0 (Bytes.ofString "hello") ∧
    ∃ response, (topServer true).respond { fs := nestedSystem escapeName 0 3 }
        (askedFor (List.replicate 3 escapeName)) = (some response, []) ∧
      response.status = 200 ∧
      response.headers.values "content-length" =
        [Bytes.decimal (Bytes.ofString "hello").length] ∧
      response.body.content = Bytes.ofString "hello" ∧ response.body.cut = false := by
  have hfile := reachable_nested isMemberName_escapeName (by decide +kernel) (Int.le_refl 0) 2
  obtain ⟨-, hserved⟩ := a_file_is_served_as_it_is_at_the_path_of_its_names (topServer true)
    { fs := nestedSystem escapeName 0 3 } _ _ _ _ _ hfile (asksFor_askedFor _)
  obtain ⟨-, hshort⟩ := hserved (not_proxyName (by decide) 2)
  exact ⟨hfile, (hshort (by decide)).2 (by decide)⟩

/-- A path that is too long to be walked does not lead to its file, and a file from the year 10000
has no answer at all. -/
theorem a_long_path_does_not_lead_to_its_file :
    (Files.Reachable (nestedSystem longName 0 17) .other [0x2F] (List.replicate 17 longName)
        0o644 0 (Bytes.ofString "hello") ∧
      ∃ response, (topServer true).respond { fs := nestedSystem longName 0 17 }
          (askedFor (List.replicate 17 longName)) = (some response, []) ∧
        response.status = 500) ∧
    (Files.Reachable (nestedSystem escapeName 253402300800 1) .other [0x2F] [escapeName]
        0o644 253402300800 (Bytes.ofString "hello") ∧
      (topServer true).respond { fs := nestedSystem escapeName 253402300800 1 }
        (askedFor [escapeName]) = (none, [])) := by
  constructor
  · have hfile := reachable_nested isMemberName_longName (by decide +kernel) (Int.le_refl 0) 16
    have hlength : FileSystem.maxPath <
        (Files.extend [0x2F] (List.replicate 17 longName)).length := by
      refine Nat.lt_of_lt_of_le ?_ (Files.length_extend_le _ _)
      rw [List.map_replicate, List.sum_replicate, length_longName]
      decide
    exact ⟨hfile, Server.respond_of_long hfile (asksFor_askedFor _)
      (not_proxyName (by decide) 16) hlength⟩
  · have hfile := reachable_nested isMemberName_escapeName (by decide +kernel)
      (Int.natCast_nonneg 253402300800) 0
    exact ⟨hfile, Server.respond_of_undated hfile (asksFor_askedFor _)
      (not_proxyName (by decide) 0) (by decide) (Int.le_refl _)⟩

end IsoServer
