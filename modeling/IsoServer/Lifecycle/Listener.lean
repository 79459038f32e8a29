-- Getting hold of the port. While it is taken the server tries again after a wait, until a
-- limit is reached or the wait is ended by a shutdown.
import IsoServer.Config.Basic
import IsoServer.Text.Quoted

namespace IsoServer.Listener

/-- Why an attempt failed, as the system puts it. -/
structure BindFailure where
  text : String
  code : Nat
  deriving DecidableEq, Repr

def BindFailure.message (f : BindFailure) : String :=
  f.text ++ " (os error " ++ toString f.code ++ ")"

/-- Another listener has the port. -/
def BindFailure.inUse : BindFailure := ⟨"Address already in use", 98⟩

/-- What ends a wait. -/
inductive WaitEnd where
  | timer
  | shutdown
  deriving DecidableEq, Repr

/-- What happens at each attempt and at each wait, counted from zero. No failure is success. -/
structure Conditions where
  attempt : Nat → Option BindFailure
  wait : Nat → WaitEnd

/-- How the attempts end. -/
inductive Ending where
  | bound
  | exhausted (attempts : UInt32) (cause : BindFailure)
  | stopped
  deriving DecidableEq, Repr

/-- The ending, with the number of attempts and of waits that ran their time. -/
structure Record where
  ending : Ending
  attempts : Nat
  waits : Nat
  deriving DecidableEq, Repr

/-- Whether a limit is reached. -/
def atLimit (limit : Option UInt32) (attempts : UInt32) : Bool :=
  match limit with
  | some m => m ≤ attempts
  | none => false

/-- Tries again and again, `rounds` times at most; none if there is no ending by then. `attempts`
is the counter that is compared with the limit, and `index` the number of attempts before. -/
def tryFrom (limit : Option UInt32) (given : Conditions) :
    (rounds : Nat) → (attempts : UInt32) → (index : Nat) → Option Record
  | 0, _, _ => none
  | rounds + 1, attempts, index =>
    let attempts := attempts + 1
    match given.attempt index with
    | none => some ⟨.bound, index + 1, index⟩
    | some cause =>
      if atLimit limit attempts then some ⟨.exhausted attempts cause, index + 1, index⟩
      else
        match given.wait index with
        | .timer => tryFrom limit given rounds attempts (index + 1)
        | .shutdown => some ⟨.stopped, index + 1, index⟩

/-- Tries from the start. -/
def tryAll (limit : Option UInt32) (given : Conditions) (rounds : Nat) : Option Record :=
  tryFrom limit given rounds 0 0

/-- Why the server does not listen. -/
inductive Error where
  /-- The host is not an IP address. -/
  | invalidAddress (host : String)
  | attemptsExhausted (address : SocketAddress) (attempts : UInt32) (cause : BindFailure)
  deriving DecidableEq

/-- The text of an address that cannot be read. -/
def addressSyntax : String := "invalid IP address syntax"

/-- The text of an error. -/
def Error.message : Error → String
  | .invalidAddress host => "Invalid bind address " ++ Text.quote host ++ ": " ++ addressSyntax
  | .attemptsExhausted address attempts cause =>
    "Failed to bind " ++ Utf8.decodeLossy address.text ++ " after " ++ toString attempts.toNat ++
      " attempts: " ++ cause.message

/-- Listens on the configured address. The inner result is none if a shutdown came first, and the
outer one if nothing is decided after `rounds` attempts. -/
def bind (config : ListenerConfig) (given : Conditions) (rounds : Nat) :
    Option (Except Error (Option SocketAddress)) :=
  match config.address? with
  | none => some (.error (.invalidAddress config.host))
  | some address =>
    (tryAll config.maxBindAttempts given rounds).map fun record =>
      match record.ending with
      | .bound => .ok (some address)
      | .exhausted attempts cause => .error (.attemptsExhausted address attempts cause)
      | .stopped => .ok none

end IsoServer.Listener
