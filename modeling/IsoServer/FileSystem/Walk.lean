-- Walking a path. A path is a row of names with slashes between them; a name is looked
-- up in the directory reached so far, and a symbolic link puts its own names in front
-- of those that are left. Walking stops at the first thing that fails, and after forty
-- links.
import IsoServer.FileSystem.Basic

namespace IsoServer.FileSystem

/-! ## Limits -/

/-- The longest name that a directory can hold. -/
def maxName : Nat := 255

/-- The longest path that can be asked for. -/
def maxPath : Nat := 4095

/-- The number of links that one walk may follow. -/
def maxLinks : Nat := 40

/-! ## Names of a path -/

def dot : Bytes := [0x2E]

def dotDot : Bytes := [0x2E, 0x2E]

/-- The names of a path. A slash at the end leaves an empty name behind, which asks that the
walk end at a directory. -/
def namesOf (path : Bytes) : List Bytes :=
  let names := (Bytes.splitOn 0x2F path).filter (!·.isEmpty)
  if Bytes.endsWith path 0x2F then names ++ [[]] else names

/-- The names of a path, without those that lead nowhere. -/
def plainNames (path : Bytes) : List Bytes :=
  (Bytes.splitOn 0x2F path).filter fun name => !name.isEmpty && name != dot

/-- Whether a path starts at the top directory. -/
def isAbsolute (path : Bytes) : Bool := path.head? == some 0x2F

/-- A path without the slashes at its end. -/
def trimmed (path : Bytes) : Bytes := (path.reverse.dropWhile (· == 0x2F)).reverse

/-! ## Steps -/

/-- What a walk is to find. -/
inductive Aim where
  /-- What bears the name, be it a link. -/
  | itself
  /-- What is behind the name, if it is a link. -/
  | behind
  /-- A file to write, behind the name if it is a link. Its name cannot have a slash at the end. -/
  | file
  deriving DecidableEq, Repr

/-- Where a walk without links comes to. -/
inductive Stop where
  /-- All names are used up. -/
  | arrived (loc : Location)
  /-- The last name is not there. -/
  | absent (dir : Location) (name : Bytes)
  /-- A link that has to be followed, with the names that are left. -/
  | link (dir : Location) (target : Bytes) (rest : List Bytes)
  | failed (error : FileError)

/-- Walks names until they are used up or a link is met. A link that is the last name is followed
unless it is looked for itself. -/
def advance (fs : FileSystem) (who : Visitor) (aim : Aim) : Location → List Bytes → Stop
  | loc, [] => .arrived loc
  | loc, name :: rest =>
    match fs.node? loc with
    | none => .failed .notFound
    | some here =>
      if !here.isDir then .failed .notADirectory
      else if name.isEmpty then advance fs who aim loc rest
      else if !here.searchable who then .failed .permissionDenied
      else if name == dot then advance fs who aim loc rest
      else if name == dotDot then advance fs who aim loc.dropLast rest
      else if aim == .file && rest == [[]] then .failed .isADirectory
      else if name.length > maxName then .failed .nameTooLong
      else
        match here.member? name with
        | none => if rest.isEmpty then .absent loc name else .failed .notFound
        | some (.link target) =>
          if rest.isEmpty && aim == .itself then .arrived (loc ++ [name])
          else .link loc target rest
        | some _ => advance fs who aim (loc ++ [name]) rest

/-- The end of a walk: an existing place, or a free name in an existing directory. -/
inductive Place where
  | found (loc : Location)
  | free (dir : Location) (name : Bytes)
  deriving DecidableEq, Repr

/-- Walks names and follows at most `links` links. -/
def walkFrom (fs : FileSystem) (who : Visitor) (aim : Aim) :
    (links : Nat) → Location → List Bytes → Except FileError Place
  | links, loc, names =>
    match advance fs who aim loc names with
    | .arrived loc => .ok (.found loc)
    | .absent dir name => .ok (.free dir name)
    | .failed e => .error e
    | .link dir target rest =>
      match links with
      | 0 => .error .tooManyLinks
      | links + 1 =>
        if target.isEmpty then .error .notFound
        else
          walkFrom fs who aim links (if isAbsolute target then [] else dir)
            (namesOf target ++ rest)

/-- Where a path leads. -/
def walk (fs : FileSystem) (who : Visitor) (aim : Aim) (path : Bytes) :
    Except FileError Place :=
  if path.contains 0 then .error .nulInPath
  else if path.isEmpty then .error .notFound
  else if path.length > maxPath then .error .nameTooLong
  else
    walkFrom fs who aim maxLinks (if isAbsolute path then [] else fs.workingDirectory)
      (namesOf path)

/-- The existing node to which a path leads. -/
def find (fs : FileSystem) (who : Visitor) (aim : Aim) (path : Bytes) :
    Except FileError Node :=
  match walk fs who aim path with
  | .error e => .error e
  | .ok (.free _ _) => .error .notFound
  | .ok (.found loc) =>
    match fs.node? loc with
    | some node => .ok node
    | none => .error .notFound

/-! ## Looking and reading -/

/-- The node behind a path, links followed. -/
def stat (fs : FileSystem) (who : Visitor) (path : Bytes) : Except FileError Node :=
  fs.find who .behind path

/-- Whether a path leads to a directory. -/
def isDir (fs : FileSystem) (who : Visitor) (path : Bytes) : Bool :=
  match fs.stat who path with
  | .ok node => node.isDir
  | .error _ => false

/-- Whether a path leads anywhere that the visitor can see. -/
def isThere (fs : FileSystem) (who : Visitor) (path : Bytes) : Bool :=
  match fs.stat who path with
  | .ok _ => true
  | .error _ => false

/-- Opens what is behind a path for reading. -/
def openFile (fs : FileSystem) (who : Visitor) (path : Bytes) : Except FileError Node :=
  match fs.stat who path with
  | .error e => .error e
  | .ok node => if node.readable who then .ok node else .error .permissionDenied

/-- The members of a directory, in the order in which it enumerates them. -/
def members (fs : FileSystem) (who : Visitor) (path : Bytes) :
    Except FileError (List (Bytes × Node)) :=
  match fs.stat who path with
  | .error e => .error e
  | .ok (.dir mode modified ms) =>
    if (Node.dir mode modified ms).readable who then .ok ms else .error .permissionDenied
  | .ok _ => .error .notADirectory

/-- A path with one more name. -/
def child (path name : Bytes) : Bytes :=
  if path.isEmpty then name
  else if Bytes.endsWith path 0x2F then path ++ name
  else path ++ 0x2F :: name

end IsoServer.FileSystem
