-- Starting the server: it is set up, gets hold of its port and serves until a shutdown. The
-- first part gives the outcome for given conditions; the second says in which order things
-- may happen while other tasks trigger the shutdown.
import IsoServer.Lifecycle.Listener
import IsoServer.Lifecycle.Shutdown
import IsoServer.Server.Respond

namespace IsoServer.Startup

/-- Why the server does not start. -/
inductive Error where
  | listener (cause : Listener.Error)
  | server (cause : ServerError)
  deriving DecidableEq

/-- The text of an error. -/
def Error.message : Error → String
  | .listener cause => cause.message
  | .server cause => cause.message

/-! ## The outcome -/

/-- A server that listens. -/
structure Running where
  server : Server
  address : SocketAddress

/-- Sets the server up and gets hold of the port. The inner result is none if a shutdown came
first, and the outer one if nothing is decided after `rounds` attempts. -/
def start (config : ServeConfig) (env : Proxy.Environment) (given : Listener.Conditions)
    (rounds : Nat) : Option (Except Error (Option Running)) :=
  match Server.create config env with
  | .error e => some (.error (.server e))
  | .ok server =>
    (Listener.bind config.listener given rounds).map fun result =>
      match result with
      | .error e => .error (.listener e)
      | .ok address => .ok (address.map fun address => { server, address })

/-- The line that is logged when the server listens on a port. -/
def announcement (port : UInt16) : String := "Serving on port " ++ toString port.toNat

/-! ## The order of events -/

/-- How far a start has come. `bind` and `serve` are the signals that are watched while waiting
for the port and while serving. -/
inductive Phase where
  | entered
  | subscribedOnce (bind : Nat)
  | subscribed (bind serve : Nat)
  | built (bind serve : Nat)
  /-- An attempt is under way; `attempts` counts it. -/
  | attempting (attempts : UInt32) (bind serve : Nat)
  /-- Between two attempts; the timer may have run out. -/
  | waiting (attempts : UInt32) (timerOver : Bool) (bind serve : Nat)
  | serving (serve : Nat)
  | finished
  | failed (cause : Error)

/-- A start among other tasks. The caller owns handle zero of the coordinator for the whole time. -/
structure Status where
  shutdown : Shutdown.State := Shutdown.initial
  phase : Phase := .entered

/-- What happens. -/
inductive Event where
  /-- Another task triggers the shutdown, or makes or ends a handle of its own. -/
  | other (step : Shutdown.Step)
  | subscribe
  | build
  /-- An attempt begins. -/
  | attempt
  /-- The attempt that is under way ends; no failure is success. -/
  | attempted (failure : Option Listener.BindFailure)
  /-- The timer runs out. -/
  | timer
  /-- The wait ends by the timer. -/
  | retry
  /-- A signal is seen. -/
  | signal
  deriving DecidableEq

/-- Whether another task may take a step: it may do all but end the handle of the caller, and it
starts no signals. -/
def isForeign : Shutdown.Step → Bool
  | .clone _ | .trigger _ => true
  | .drop i => i != 0
  | _ => false

/-- Whether a signal is ready. -/
def isReady (st : Shutdown.State) (signal : Nat) : Bool := st.ready? signal == some true

/-- The status after an event; none if the event cannot happen. A wait of positive length that
begins when its signal is ready is over at once. The timer of a wait without length is over from
the start, and if the signal is ready as well, either can be seen. -/
def Status.next? (config : ServeConfig) (env : Proxy.Environment) (s : Status) :
    Event → Option Status
  | .other step =>
    if isForeign step then some { s with shutdown := (s.shutdown.step step).1 } else none
  | .subscribe =>
    let subscribed := (s.shutdown.step (.subscribe 0)).1
    let number := s.shutdown.signals.length
    match s.phase with
    | .entered => some { shutdown := subscribed, phase := .subscribedOnce number }
    | .subscribedOnce bind => some { shutdown := subscribed, phase := .subscribed bind number }
    | _ => none
  | .build =>
    match s.phase with
    | .subscribed bind serve =>
      match Server.create config env with
      | .error e => some { s with phase := .failed (.server e) }
      | .ok _ => some { s with phase := .built bind serve }
    | _ => none
  | .attempt =>
    match s.phase with
    | .built bind serve =>
      match config.listener.address? with
      | none => some { s with phase := .failed (.listener (.invalidAddress config.listener.host)) }
      | some _ => some { s with phase := .attempting 1 bind serve }
    | _ => none
  | .attempted failure =>
    match s.phase, config.listener.address? with
    | .attempting attempts bind serve, some address =>
      match failure with
      | none => some { s with phase := .serving serve }
      | some cause =>
        if Listener.atLimit config.listener.maxBindAttempts attempts then
          some { s with
            phase := .failed (.listener (.attemptsExhausted address attempts cause)) }
        else if config.listener.bindRetryDelayMs == 0 then
          some { s with phase := .waiting attempts true bind serve }
        else if isReady s.shutdown bind then some { s with phase := .finished }
        else some { s with phase := .waiting attempts false bind serve }
    | _, _ => none
  | .timer =>
    match s.phase with
    | .waiting attempts false bind serve =>
      some { s with phase := .waiting attempts true bind serve }
    | _ => none
  | .retry =>
    match s.phase with
    | .waiting attempts true bind serve =>
      some { s with phase := .attempting (attempts + 1) bind serve }
    | _ => none
  | .signal =>
    match s.phase with
    | .waiting _ _ bind _ =>
      if isReady s.shutdown bind then some { s with phase := .finished } else none
    | .serving serve =>
      if isReady s.shutdown serve then some { s with phase := .finished } else none
    | _ => none

/-- The status after several events; none if one of them cannot happen when its turn comes. -/
def Status.run? (config : ServeConfig) (env : Proxy.Environment) (s : Status) :
    List Event → Option Status
  | [] => some s
  | e :: es => (s.next? config env e).bind fun s => run? config env s es

end IsoServer.Startup
