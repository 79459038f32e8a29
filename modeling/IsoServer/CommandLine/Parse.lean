-- The command line: one optional port, and options that print help or the version. The
-- arguments are looked at one by one, and the first that cannot be taken is reported.
import IsoServer.CommandLine.Port
import IsoServer.Config.Fault
import IsoServer.Text.Similarity
import IsoServer.Text.Terminal

namespace IsoServer.CommandLine

/-- Why no port comes out of a command line. -/
inductive Stop where
  | help
  | version
  /-- An argument that is not known. `similar` is an option that it may be meant for, and
  `portGiven` says that a port came before it. -/
  | unknownLong (argument : String) (similar : Option String) (portGiven : Bool)
  | unknownShort (argument : String)
  /-- A second value. -/
  | unknownValue (argument : String)
  /-- An option with a value that takes none. -/
  | needlessValue (option value : String)
  | invalidPort (text : String) (cause : PortError)
  deriving DecidableEq, Repr

/-! ## Options -/

/-- The long options. -/
def longOptions : List String := ["help", "version"]

/-- What a long option asks for. -/
def longStop? (name : String) : Option Stop :=
  if name == "help" then some .help else if name == "version" then some .version else none

/-- What a short option asks for. -/
def shortStop? (c : Char) : Option Stop :=
  if c == 'h' then some .help else if c == 'V' then some .version else none

/-- How alike a name and an option have to be, so that the one may be meant for the other. -/
def enough : Binary64 := .ofDecimal false 7 (-1)

/-- The long option that is most like a name, if one is alike enough. -/
def similarOption? (name : String) : Option String :=
  let rate := fun o : String => Text.similarity name.toList o.toList
  (longOptions.filter fun o => (rate o).gt enough).foldl (fun best o =>
    match best with
    | none => some o
    | some b => if (rate b).gt (rate o) then some b else some o) none

/-! ## Arguments -/

/-- Checks the value that was given, if there is one. -/
def checkValue : Option String → Except Stop (Option UInt16)
  | none => .ok none
  | some s =>
    match readPort s with
    | .ok p => .ok (some p)
    | .error e => .error (.invalidPort s e)

/-- Stops at an option, but reports a bad value before it. -/
def stopAt (value : Option String) (stop : Stop) : Stop :=
  match checkValue value with
  | .error e => e
  | .ok _ => stop

/-- The argument behind the two dashes, up to the equals sign, and what follows it. -/
def splitLong (cs : List Char) : String × Option String :=
  let name := String.ofList (cs.takeWhile (· != '='))
  match cs.dropWhile (· != '=') with
  | _ :: value => (name, some (String.ofList value))
  | [] => (name, none)

/-- A long option. -/
def stopAtLong (value : Option String) (cs : List Char) : Stop :=
  let (name, given) := splitLong cs
  match longStop? name, given with
  | some _, some v => .needlessValue ("--" ++ name) v
  | some stop, none => stopAt value stop
  | none, _ => .unknownLong ("--" ++ name) (similarOption? name) value.isSome

/-- A short option. -/
def stopAtShort (value : Option String) (c : Char) : Stop :=
  match shortStop? c with
  | some stop => stopAt value stop
  | none => .unknownShort (String.ofList ['-', c])

/-- Takes the arguments in turn. `value` is the value so far, and `plain` says that two dashes came
before, so that no argument is an option. -/
def parseFrom (plain : Bool) (value : Option String) : List String → Except Stop (Option UInt16)
  | [] => checkValue value
  | arg :: rest =>
    let asValue : Except Stop (Option UInt16) :=
      match value with
      | none => parseFrom plain (some arg) rest
      | some _ => .error (.unknownValue arg)
    if plain then asValue
    else
      match arg.toList with
      | ['-', '-'] => parseFrom true value rest
      | '-' :: '-' :: cs => .error (stopAtLong value cs)
      | '-' :: c :: _ => .error (stopAtShort value c)
      | _ => asValue

/-- The port that the arguments give, if they give one. -/
def parse (args : List String) : Except Stop (Option UInt16) := parseFrom false none args

/-! ## Texts -/

/-- The name by which the program calls itself. -/
def programName : String := "coi-serve"

/-- The version of the program. -/
def programVersion : String := "0.1.0"

def helpText : String :=
  "Static file server with cross-origin isolation headers and a base64 proxy passthrough\n\n" ++
  "Usage: coi-serve [PORT]\n\n" ++
  "Arguments:\n  [PORT]  Port to listen on (default 8000)\n\n" ++
  "Options:\n  -h, --help     Print help\n  -V, --version  Print version\n"

/-- An error with its parts: what is wrong, a tip, and how the program is used. -/
def errorText (what : String) (tip usage : Option String) : String :=
  "error: " ++ what ++ "\n\n" ++
  (match tip with
    | some t => "  tip: " ++ t ++ "\n\n"
    | none => "") ++
  (match usage with
    | some u => "Usage: " ++ programName ++ " " ++ u ++ "\n\n"
    | none => "") ++
  "For more information, try '--help'.\n"

/-- An argument inside an error, without what would steer the terminal. -/
def cited (argument : String) : String := Terminal.plain argument

/-- An argument that was not expected. -/
def unexpected (argument : String) : String :=
  "unexpected argument '" ++ cited argument ++ "' found"

/-- How to pass an argument as a value. -/
def escapeTip (argument : String) : String :=
  "to pass '" ++ cited argument ++ "' as a value, use '-- " ++ cited argument ++ "'"

/-- What is printed. -/
def Stop.text : Stop → String
  | .help => helpText
  | .version => programName ++ " " ++ programVersion ++ "\n"
  | .unknownLong argument similar portGiven =>
    let port := if portGiven then "<PORT>" else "[PORT]"
    match similar with
    | some o =>
      errorText (unexpected argument) (some ("a similar argument exists: '--" ++ o ++ "'"))
        (some ("--" ++ o ++ " " ++ port))
    | none => errorText (unexpected argument) (some (escapeTip argument)) (some port)
  | .unknownShort argument =>
    errorText (unexpected argument) (some (escapeTip argument)) (some "[PORT]")
  | .unknownValue argument => errorText (unexpected argument) none (some "[PORT]")
  | .needlessValue option value =>
    errorText ("unexpected value '" ++ cited value ++ "' for '" ++ option ++
      "' found; no more were expected") none (some (option ++ " [PORT]"))
  | .invalidPort text cause =>
    errorText ("invalid value '" ++ cited text ++ "' for '[PORT]': " ++ cause.message) none none

/-- The exit status of the program. -/
def Stop.exitCode : Stop → Nat
  | .help | .version => 0
  | _ => 2

/-! ## Configuration -/

/-- The configuration for a port: all defaults, with the port if one is given. -/
def configFor (port : Option UInt16) : ServeConfig :=
  match port with
  | some p => { listener := { port := p } }
  | none => {}

/-- The configuration for a port, or what is wrong with it. -/
def loadConfig (fs : FileSystem) (who : Visitor) (port : Option UInt16) :
    Except (List ConfigFault) ServeConfig :=
  let config := configFor port
  match config.faults fs who with
  | [] => .ok config
  | faults => .error faults

end IsoServer.CommandLine
