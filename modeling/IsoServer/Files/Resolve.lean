-- From the path of a request to a path below the served directory. There are two ways,
-- one for listings and one for files; they differ in when leading slashes are dropped.
import IsoServer.FileSystem.Walk
import IsoServer.Text.Percent
import IsoServer.Text.Utf8

namespace IsoServer.Files

/-- Without the slashes in front. -/
def dropSlashes (s : Bytes) : Bytes := s.dropWhile (· == 0x2F)

/-- The names of a relative path that lead downwards; none if one leads upwards. -/
def names? (s : Bytes) : Option (List Bytes) :=
  let names := FileSystem.plainNames s
  if names.contains FileSystem.dotDot then none else some names

/-- A path followed by names. -/
def extend (root : Bytes) (names : List Bytes) : Bytes := names.foldl FileSystem.child root

/-- The directory that a request path lists: escapes are undone first, then slashes in front are
dropped. -/
def resolve (root path : Bytes) : Option Bytes :=
  let decoded := Percent.decode path
  if !Utf8.isValid decoded then none
  else (names? (dropSlashes decoded)).map (extend root)

/-- The file that a request path names: slashes in front are dropped first, then escapes are
undone, and a slash in front of that is refused. -/
def servedPath (root path : Bytes) : Option Bytes :=
  let decoded := Percent.decode (dropSlashes path)
  if !Utf8.isValid decoded || decoded.head? == some 0x2F then none
  else (names? decoded).map (extend root)

end IsoServer.Files
