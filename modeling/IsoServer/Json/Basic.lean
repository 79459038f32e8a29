-- JSON values. Objects keep their members in the order in which they were written, since
-- the first bad member of a configuration is the one that is reported.
import IsoServer.Decimal.Binary64

namespace IsoServer

/-- A JSON value. Whole numbers that fit in 64 bits are apart from all other numbers. -/
inductive Json where
  | null
  | bool (value : Bool)
  | integer (value : Int)
  | float (value : Binary64)
  | text (value : String)
  | array (items : List Json)
  | object (members : List (String × Json))
  deriving Inhabited

namespace Json

/-- The value of a member of an object. -/
def member? (name : String) : Json → Option Json
  | .object members => members.lookup name
  | _ => none

/-- The least and the largest whole number that count as whole. -/
def fitsInteger (n : Int) : Bool := -0x8000000000000000 ≤ n && n < 0x10000000000000000

end Json

end IsoServer
