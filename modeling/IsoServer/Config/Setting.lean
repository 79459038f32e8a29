-- Settings in JSON. A kind says how a value of some type is read and written; a record is
-- the kind of a structure, put together from its settings.
import IsoServer.Json.Basic
import IsoServer.Text.Quoted

namespace IsoServer.Config

/-! ## Errors -/

/-- Why a JSON value is not the setting it should be. -/
inductive ReadError where
  /-- The value has another type. -/
  | invalidType (found : Json) (expected : String)
  /-- A whole number is out of range. -/
  | invalidValue (found : Int) (expected : String)
  /-- A record in the form of an array has more items than settings. -/
  | tooLong (length : Nat)

/-- What a JSON value is called in an error. -/
def describe : Json → String
  | .null => "null"
  | .bool b => "boolean `" ++ (if b then "true" else "false") ++ "`"
  | .integer n => "integer `" ++ toString n ++ "`"
  | .float x => "floating point `" ++ x.text ++ "`"
  | .text s => "string " ++ Text.quote s
  | .array _ => "sequence"
  | .object _ => "map"

/-- The text of an error. -/
def ReadError.message : ReadError → String
  | .invalidType found expected => "invalid type: " ++ describe found ++ ", expected " ++ expected
  | .invalidValue found expected =>
    "invalid value: " ++ describe (.integer found) ++ ", expected " ++ expected
  | .tooLong length =>
    "invalid length " ++ toString length ++ ", expected fewer elements in array"

/-! ## Kinds of values -/

/-- How values of a type are read from JSON and written to it. -/
structure Kind (α : Type) where
  read : Json → Except ReadError α
  write : α → Json

namespace Kind

/-- Text. -/
def text : Kind String where
  read
    | .text s => .ok s
    | v => .error (.invalidType v "a string")
  write := .text

/-- A truth value. -/
def bool : Kind Bool where
  read
    | .bool b => .ok b
    | v => .error (.invalidType v "a boolean")
  write := .bool

/-- A whole number from zero up to a bound, which is excluded. -/
def readNat (bound : Nat) (expected : String) : Json → Except ReadError Nat
  | .integer n =>
    if 0 ≤ n ∧ n < bound then .ok n.toNat else .error (.invalidValue n expected)
  | v => .error (.invalidType v expected)

/-- A whole number of 16 bits. -/
def word16 : Kind UInt16 where
  read v := (readNat UInt16.size "u16" v).map UInt16.ofNat
  write n := .integer n.toNat

/-- A whole number of 32 bits. -/
def word32 : Kind UInt32 where
  read v := (readNat UInt32.size "u32" v).map UInt32.ofNat
  write n := .integer n.toNat

/-- A whole number of 64 bits. -/
def word64 : Kind UInt64 where
  read v := (readNat UInt64.size "u64" v).map UInt64.ofNat
  write n := .integer n.toNat

/-- A number of things, in 64 bits. -/
def count : Kind UInt64 where
  read v := (readNat UInt64.size "usize" v).map UInt64.ofNat
  write n := .integer n.toNat

/-- A value that may be missing, which is written as null. -/
def optional {α : Type} (k : Kind α) : Kind (Option α) where
  read
    | .null => .ok none
    | v => (k.read v).map some
  write
    | none => .null
    | some x => k.write x

end Kind

/-! ## Records -/

/-- One setting of a record: its name, the kind of its values, and how they get out and in. What is
put in comes out again. -/
structure Setting (α : Type) where
  name : String
  {β : Type}
  kind : Kind β
  get : α → β
  set : β → α → α
  get_set : ∀ y x, get (set y x) = y := by intros; rfl

/-- The settings of a record. No two share a name, a change of one leaves all others as they are,
and together they hold all there is. -/
structure Record (α : Type) where
  settings : List (Setting α)
  names : (settings.map (·.name)).Nodup := by decide
  apart : ∀ s ∈ settings, ∀ t ∈ settings, s.name ≠ t.name →
    ∀ y x, t.get (s.set y x) = t.get x := by simp
  complete : ∀ x y, (∀ s ∈ settings, s.get x = s.get y) → x = y

/-- The settings under their names. -/
def Record.members {α : Type} (r : Record α) (x : α) : List (String × Json) :=
  r.settings.map fun s => (s.name, s.kind.write (s.get x))

/-- Reads the members of an object in their order. A member that no setting has the name of is
passed over, and the first one that cannot be read is reported. -/
def readMembers {α : Type} (settings : List (Setting α)) :
    List (String × Json) → α → Except ReadError α
  | [], x => .ok x
  | (name, v) :: rest, x =>
    match settings.find? (·.name == name) with
    | none => readMembers settings rest x
    | some s =>
      match s.kind.read v with
      | .error e => .error e
      | .ok y => readMembers settings rest (s.set y x)

/-- Reads one item for each setting, as long as there are items; `length` is the number of all
items. -/
def readItems {α : Type} (length : Nat) : List (Setting α) → List Json → α → Except ReadError α
  | _, [], x => .ok x
  | [], _ :: _, _ => .error (.tooLong length)
  | s :: settings, v :: rest, x =>
    match s.kind.read v with
    | .error e => .error e
    | .ok y => readItems length settings rest (s.set y x)

/-- The kind of a record. It is an object with the settings under their names, or an array with
the first few settings in order; what is missing is as in `initial`. -/
def Kind.record {α : Type} (title : String) (r : Record α) (initial : α) : Kind α where
  read
    | .object members => readMembers r.settings members initial
    | .array items => readItems items.length r.settings items initial
    | v => .error (.invalidType v ("struct " ++ title))
  write x := .object (r.members x)

end IsoServer.Config
