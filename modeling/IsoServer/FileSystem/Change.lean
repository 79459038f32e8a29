-- Changing a file system: making directories, files and links, setting permissions, and
-- removing. Changes are made by the owner, so permissions do not stand in their way. A change
-- that fails midway leaves behind what it did before.
import IsoServer.FileSystem.Walk

namespace IsoServer

namespace Node

/-- Puts a member into a row of members, in place of one with the same name. -/
def setMember (name : Bytes) (node : Node) : List (Bytes × Node) → List (Bytes × Node)
  | [] => [(name, node)]
  | (n, old) :: rest =>
    if n == name then (n, node) :: rest else (n, old) :: setMember name node rest

/-- Replaces the node at a location; nothing changes if the way to it is not there. -/
def setAt (node : Node) : Location → Node → Node
  | [], _ => node
  | name :: rest, .dir mode modified members =>
    match rest with
    | [] => .dir mode modified (setMember name node members)
    | _ =>
      match members.lookup name with
      | some inner => .dir mode modified (setMember name (setAt node rest inner) members)
      | none => .dir mode modified members
  | _, other => other

/-- Takes the node at a location away. -/
def removeAt : Location → Node → Node
  | [], node => node
  | name :: rest, .dir mode modified members =>
    match rest with
    | [] => .dir mode modified (members.filter (·.1 != name))
    | _ =>
      match members.lookup name with
      | some inner => .dir mode modified (setMember name (removeAt rest inner) members)
      | none => .dir mode modified members
  | _, other => other

end Node

namespace FileSystem

def put (fs : FileSystem) (loc : Location) (node : Node) : FileSystem :=
  { fs with top := Node.setAt node loc fs.top }

/-- Makes one directory in an existing one. -/
def makeDir (fs : FileSystem) (path : Bytes) : Except FileError FileSystem :=
  match fs.walk .owner .itself (trimmed path) with
  | .error e => .error e
  | .ok (.found _) => .error .alreadyExists
  | .ok (.free dir name) => .ok (fs.put (dir ++ [name]) .emptyDir)

/-- Writes a file, also through links, and gives it a time. Permissions of an existing file
stay as they are. -/
def writeFile (fs : FileSystem) (path content : Bytes) (modified : Int) :
    Except FileError FileSystem :=
  match fs.walk .owner .file path with
  | .error e => .error e
  | .ok (.free dir name) =>
    .ok (fs.put (dir ++ [name]) (.file Node.freshFileMode modified content))
  | .ok (.found loc) =>
    match fs.node? loc with
    | some (.file mode _ _) => .ok (fs.put loc (.file mode modified content))
    | some (.dir ..) => .error .isADirectory
    | _ => .error .notFound

/-- Makes a symbolic link, which leads somewhere and has no slash behind its name. -/
def makeLink (fs : FileSystem) (path target : Bytes) : Except FileError FileSystem :=
  if target.isEmpty then .error .notFound
  else
    match fs.walk .owner .itself (trimmed path) with
    | .error e => .error e
    | .ok (.found _) => .error .alreadyExists
    | .ok (.free dir name) =>
      if Bytes.endsWith path 0x2F then .error .notFound
      else .ok (fs.put (dir ++ [name]) (.link target))

/-- Sets the permission bits of what is behind a path. -/
def setMode (fs : FileSystem) (path : Bytes) (mode : Nat) : Except FileError FileSystem :=
  match fs.walk .owner .behind path with
  | .error e => .error e
  | .ok (.free _ _) => .error .notFound
  | .ok (.found loc) =>
    match fs.node? loc with
    | some (.file _ modified content) => .ok (fs.put loc (.file mode modified content))
    | some (.dir _ modified members) => .ok (fs.put loc (.dir mode modified members))
    | _ => .error .notFound

/-! ## Changes in steps -/

/-- A file system after a change, and why the change was not made in full. -/
abbrev Outcome := FileSystem × Option FileError

/-- The outcome of a step that is made in full or not at all. -/
def outcome (fs : FileSystem) : Except FileError FileSystem → Outcome
  | .ok changed => (changed, none)
  | .error e => (fs, some e)

/-- A step that follows another one if that was made in full. -/
def andThen (before : Outcome) (step : FileSystem → Except FileError FileSystem) : Outcome :=
  match before with
  | (fs, none) => fs.outcome (step fs)
  | (fs, some e) => (fs, some e)

/-- Makes a directory, unless there is one. -/
def ensureDir (fs : FileSystem) (path : Bytes) : Except FileError FileSystem :=
  match fs.makeDir path with
  | .ok changed => .ok changed
  | .error .notFound => .error .notFound
  | .error e => if fs.isDir .owner path then .ok fs else .error e

/-- Makes the first directory of a row in which each one lies in the next, and those of the others
that are needed for it. -/
def makeDirs (fs : FileSystem) : List Bytes → Outcome
  | [] => (fs, none)
  | path :: outer =>
    match fs.ensureDir path with
    | .error .notFound => andThen (makeDirs fs outer) (·.ensureDir path)
    | result => fs.outcome result

/-- The paths from a start to the names, which stand in reverse order: the longest path first. -/
def pathsTo (start : Bytes) : List Bytes → List Bytes
  | [] => []
  | name :: before => (name :: before).reverse.foldl child start :: pathsTo start before

/-- The directories on the way to the last name of a path, the innermost first. -/
def parents (path : Bytes) : List Bytes :=
  pathsTo (if isAbsolute path then [0x2F] else []) (plainNames path).reverse.tail

/-- Makes the directories on the way to the last name of a path. -/
def makeParents (fs : FileSystem) (path : Bytes) : Outcome := fs.makeDirs (parents path)

/-- Removes a file, a link, or a directory with all that is in it. A slash behind a link asks for
the directory that it leads to. That one is emptied, and what fails is to remove the link as a
directory, if it is still there. -/
def remove (fs : FileSystem) (path : Bytes) : Outcome :=
  match fs.walk .owner .itself path with
  | .error e => (fs, some e)
  | .ok (.free _ _) => (fs, some .notFound)
  | .ok (.found loc) =>
    match fs.find .owner .itself (trimmed path), fs.node? loc with
    | .ok (.link _), some (.dir mode modified _) =>
      let emptied := fs.put loc (.dir mode modified [])
      match emptied.find .owner .itself (trimmed path) with
      | .ok _ => (emptied, some .notADirectory)
      | .error e => (emptied, some e)
    | _, _ => ({ fs with top := Node.removeAt loc fs.top }, none)

/-! ## Changes as data -/

/-- A change below some directory; paths are relative to it. -/
inductive Change where
  | makeDir (path : Bytes)
  | writeFile (path content : Bytes) (modified : Int)
  | makeLink (path target : Bytes)
  | setMode (path : Bytes) (mode : Nat)
  | remove (path : Bytes)

/-- Carries out a change below the directory `base`. Directories that the path needs are made
first, and stay if the rest fails. -/
def apply (fs : FileSystem) (base : Bytes) : Change → Outcome
  | .makeDir path => fs.makeDirs (child base path :: parents (child base path))
  | .writeFile path content modified =>
    andThen (fs.makeParents (child base path)) (·.writeFile (child base path) content modified)
  | .makeLink path target =>
    andThen (fs.makeParents (child base path)) (·.makeLink (child base path) target)
  | .setMode path mode => fs.outcome (fs.setMode (child base path) mode)
  | .remove path => fs.remove (child base path)

end FileSystem

end IsoServer
