-- Rows of a directory listing: what is read of a directory, and in which order.
import IsoServer.FileSystem.Walk
import IsoServer.Text.Lowercase
import IsoServer.Text.Percent
import IsoServer.Text.Utf8

namespace IsoServer

/-- One row of a listing. -/
structure Entry where
  name : String
  isDir : Bool
  isSymlink : Bool
  deriving DecidableEq, Repr

namespace Entry

/-- The name as it is shown: a sign behind it marks a link, or else a directory. -/
def displayName (e : Entry) : String :=
  if e.isSymlink then e.name ++ "@" else if e.isDir then e.name ++ "/" else e.name

/-- A byte that stands for itself in a link. -/
def isLinkByte (b : UInt8) : Bool :=
  Bytes.isAlphanumeric b || b == 0x2D || b == 0x2E || b == 0x5F || b == 0x7E || b == 0x2F

/-- The relative address of an entry, with a slash behind a directory. -/
def link (e : Entry) : String :=
  let escaped := Bytes.asciiText (Percent.encode isLinkByte (Bytes.ofString e.name))
  if e.isDir then escaped ++ "/" else escaped

/-! ## Order -/

/-- What a name is sorted by. -/
def key (e : Entry) : Bytes := Bytes.ofString (Text.toLowercase e.name)

/-- Whether one byte string comes before another or equals it. -/
def keyLe : Bytes → Bytes → Bool
  | [], _ => true
  | _ :: _, [] => false
  | a :: as, b :: bs => a < b || (a == b && keyLe as bs)

/-- Sorts by lower-cased name; entries with the same key keep their order. -/
def sort (es : List Entry) : List Entry :=
  ((es.map fun e => (e.key, e)).mergeSort fun a b => keyLe a.1 b.1).map (·.2)

/-! ## Reading a directory -/

/-- The row of one member of the directory at `dir`. A member counts as a directory if following
it leads to one that the visitor can examine. -/
def ofMember (fs : FileSystem) (who : Visitor) (dir : Bytes) (m : Bytes × Node) : Entry :=
  { name := Utf8.decodeLossy m.1
    isDir := fs.isDir who (FileSystem.child dir m.1)
    isSymlink := m.2.isLink }

/-- The rows of the directory at `dir`, in order. -/
def readAll (fs : FileSystem) (who : Visitor) (dir : Bytes) : Except FileError (List Entry) :=
  (fs.members who dir).map fun ms => sort (ms.map (ofMember fs who dir))

end Entry

end IsoServer
