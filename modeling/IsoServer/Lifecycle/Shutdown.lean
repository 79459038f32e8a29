-- Shutdown: owners of a coordinator can ask all tasks to stop, and signals tell tasks
-- whether they were asked. A signal also says so once no owner is left to ask.

namespace IsoServer.Shutdown

/-- Coordinators, owners and signals, each numbered from zero in the order of creation. -/
structure State where
  /-- Whether each coordinator was triggered. -/
  triggered : List Bool
  /-- The coordinator of each owner, as long as the owner lives. -/
  owners : List (Option Nat)
  /-- The coordinator of each signal, as long as the signal lives. -/
  signals : List (Option Nat)
  deriving DecidableEq, Repr

/-- One coordinator with one owner. -/
def initial : State := { triggered := [false], owners := [some 0], signals := [] }

/-- What can be done. -/
inductive Step where
  /-- Makes another coordinator with one owner. -/
  | create
  /-- Makes another owner of the coordinator of an owner. -/
  | clone (owner : Nat)
  | subscribe (owner : Nat)
  | trigger (owner : Nat)
  /-- Ends an owner. -/
  | drop (owner : Nat)
  /-- Ends a signal. -/
  | unsubscribe (signal : Nat)
  deriving DecidableEq, Repr

/-- What a step comes to. -/
inductive Note where
  /-- The number of the new owner or signal. -/
  | number (n : Nat)
  | done
  /-- There is no such owner or signal, or no longer. -/
  | missing
  deriving DecidableEq, Repr

namespace State

/-- The coordinator of a live owner. -/
def owner? (st : State) (i : Nat) : Option Nat := (st.owners[i]?).join

/-- The coordinator of a live signal. -/
def signal? (st : State) (i : Nat) : Option Nat := (st.signals[i]?).join

/-- One step. -/
def step (st : State) : Step → State × Note
  | .create =>
    ({ st with
        triggered := st.triggered ++ [false]
        owners := st.owners ++ [some st.triggered.length] }, .number st.owners.length)
  | .clone i =>
    match st.owner? i with
    | some c => ({ st with owners := st.owners ++ [some c] }, .number st.owners.length)
    | none => (st, .missing)
  | .subscribe i =>
    match st.owner? i with
    | some c => ({ st with signals := st.signals ++ [some c] }, .number st.signals.length)
    | none => (st, .missing)
  | .trigger i =>
    match st.owner? i with
    | some c => ({ st with triggered := st.triggered.set c true }, .done)
    | none => (st, .missing)
  | .drop i =>
    match st.owner? i with
    | some _ => ({ st with owners := st.owners.set i none }, .done)
    | none => (st, .missing)
  | .unsubscribe i =>
    match st.signal? i with
    | some _ => ({ st with signals := st.signals.set i none }, .done)
    | none => (st, .missing)

/-- Whether the tasks of a coordinator should stop: it was triggered, or has no owner left. -/
def isOver (st : State) (c : Nat) : Bool :=
  (st.triggered[c]?).getD false || !st.owners.contains (some c)

/-- Whether waiting for a signal would end at once; none for a signal that is gone. -/
def ready? (st : State) (i : Nat) : Option Bool := (st.signal? i).map st.isOver

/-- The state after several steps. -/
def run (st : State) (steps : List Step) : State := steps.foldl (fun st s => (st.step s).1) st

end State

end IsoServer.Shutdown
