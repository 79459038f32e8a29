-- A file system as a value: a tree of directories, files and symbolic links, each
-- directory with its members in the order in which it enumerates them.
import IsoServer.Bytes

namespace IsoServer

/-- One thing in a file system. Modes are the permission bits; times are in seconds since the
start of 1970. -/
inductive Node where
  | file (mode : Nat) (modified : Int) (content : Bytes)
  | link (target : Bytes)
  | dir (mode : Nat) (modified : Int) (members : List (Bytes × Node))
  deriving Inhabited

/-- Names from the top directory down: the place of a node, with no links on the way. -/
abbrev Location := List Bytes

/-- A file system and the directory from which relative paths start. -/
structure FileSystem where
  top : Node
  workingDirectory : Location := []

/-- Why an operation on a path fails. -/
inductive FileError where
  | notFound
  | permissionDenied
  | alreadyExists
  | notADirectory
  | isADirectory
  | tooManyLinks
  | nameTooLong
  | nulInPath
  deriving DecidableEq, Repr

/-- On whose behalf a path is walked. The owner may do everything; a visitor is held to the
permissions that are left for everyone. -/
inductive Visitor where
  | owner
  | other
  deriving DecidableEq, Repr

namespace Node

def isDir : Node → Bool
  | .dir .. => true
  | _ => false

def isLink : Node → Bool
  | .link _ => true
  | _ => false

/-- The member of a directory with the given name. -/
def member? (name : Bytes) : Node → Option Node
  | .dir _ _ members => members.lookup name
  | _ => none

/-- The node at a location below this one. -/
def at? : Location → Node → Option Node
  | [], node => some node
  | name :: rest, node => (node.member? name).bind (at? rest)

/-- Whether the visitor may read a node. -/
def readable (who : Visitor) : Node → Bool
  | .file mode _ _ => who == .owner || mode / 4 % 2 == 1
  | .dir mode _ _ => who == .owner || mode / 4 % 2 == 1
  | .link _ => true

/-- Whether the visitor may look up names in a directory. -/
def searchable (who : Visitor) : Node → Bool
  | .dir mode _ _ => who == .owner || mode % 2 == 1
  | _ => false

/-- The permission bits of a fresh directory and of a fresh file. -/
def freshDirMode : Nat := 0o755
def freshFileMode : Nat := 0o644

/-- An empty directory. -/
def emptyDir : Node := .dir freshDirMode 0 []

end Node

namespace FileSystem

/-- The node at a location. -/
def node? (fs : FileSystem) (loc : Location) : Option Node := fs.top.at? loc

end FileSystem

end IsoServer
