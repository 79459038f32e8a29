-- What a signal says can be read off the history: a signal is ready if and only if a trigger was
-- performed on some owner of its coordinator, or none of these owners is left. Owners belong to
-- one coordinator if clones lead from one to the other.
import Mathlib
import IsoServer.Proofs.Coordinators

namespace IsoServer.Shutdown

/-! ## Histories -/

/-- Steps with what they came to, oldest first. -/
abbrev Log := List (Step × Note)

/-- The history that some steps write. -/
def State.log (st : State) : List Step → Log
  | [] => []
  | step :: rest => (step, (st.step step).2) :: (st.step step).1.log rest

namespace Log

/-- Whether an owner was made. The first owner is there from the start. -/
def Made (log : Log) (i : Nat) : Prop :=
  i = 0 ∨ (.create, .number i) ∈ log ∨ ∃ j, (.clone j, .number i) ∈ log

/-- Whether an owner lives: it was made and did not end. -/
def OwnerLives (log : Log) (i : Nat) : Prop := log.Made i ∧ (.drop i, .done) ∉ log

/-- Whether a signal was started on an owner. -/
def Subscribed (log : Log) (i s : Nat) : Prop := (.subscribe i, .number s) ∈ log

/-- Whether a signal lives: it was started and did not end. -/
def SignalLives (log : Log) (s : Nat) : Prop :=
  (∃ i, log.Subscribed i s) ∧ (.unsubscribe s, .done) ∉ log

/-- Whether two owners have one coordinator: clones lead from one to the other. -/
def Kin (log : Log) : Nat → Nat → Prop :=
  Relation.EqvGen fun i j => (.clone i, .number j) ∈ log

/-- Whether the coordinator of an owner was triggered, on whichever of its owners. -/
def Triggered (log : Log) (i : Nat) : Prop := ∃ j, log.Kin i j ∧ (.trigger j, .done) ∈ log

/-- Whether no owner of the coordinator of an owner is left. -/
def Abandoned (log : Log) (i : Nat) : Prop := ∀ j, log.Kin i j → ¬ log.OwnerLives j

/-- Whether there is what a step is taken on. -/
def Allows (log : Log) : Step → Prop
  | .create => True
  | .clone i | .subscribe i | .trigger i | .drop i => log.OwnerLives i
  | .unsubscribe s => log.SignalLives s

/-- What a step comes to if it is allowed; a number that is given out was not given before. -/
def Answers (log : Log) : Step → Note → Prop
  | .create, .number i | .clone _, .number i => ¬ log.Made i
  | .subscribe _, .number s => ∀ i, ¬ log.Subscribed i s
  | .trigger _, .done | .drop _, .done | .unsubscribe _, .done => True
  | _, _ => False

end Log

namespace State

theorem run_concat (st : State) (steps : List Step) (step : Step) :
    st.run (steps ++ [step]) = ((st.run steps).step step).1 := by
  simp [run]

theorem log_concat (st : State) (steps : List Step) (step : Step) :
    st.log (steps ++ [step]) = st.log steps ++ [(step, ((st.run steps).step step).2)] := by
  induction steps generalizing st with
  | nil => rfl
  | cons first rest ih =>
    simp only [List.cons_append, log, ih]
    rfl

end State

/-! ## The history and the state

A history does not number coordinators. So that it can be compared with a state, two functions keep
the coordinator of each owner and of each signal that was ever made, whether it lives or not. -/

theorem Log.Kin.append {log more : Log} {i j : Nat} (h : log.Kin i j) : (log ++ more).Kin i j :=
  Relation.EqvGen.mono (fun _ _ => List.mem_append_left more) i j h

/-- A row of entries agrees with what was ever made and with what has ended. -/
structure Row (ended : Nat → Prop) (entries : List (Option Nat)) (coordinators : Nat → Option Nat) :
    Prop where
  live : ∀ i c, (entries[i]?).join = some c ↔ coordinators i = some c ∧ ¬ ended i
  domain : ∀ i, (coordinators i).isSome ↔ i < entries.length
  bound : ∀ i, ended i → i < entries.length

/-- The entries of owners agree with a history. -/
structure OwnersAgree (log : Log) (entries : List (Option Nat)) (owners : Nat → Option Nat) :
    Prop where
  row : Row (fun i => (.drop i, .done) ∈ log) entries owners
  made : ∀ i, log.Made i ↔ i < entries.length
  cloned : ∀ i j, (.clone i, .number j) ∈ log → i < entries.length ∧ owners i = owners j
  kin : ∀ i j c, owners i = some c → owners j = some c → log.Kin i j

/-- The marks of triggered coordinators agree with a history. -/
structure TriggersAgree (log : Log) (marks : List Bool) (owners : Nat → Option Nat) : Prop where
  known : ∀ i c, owners i = some c → c < marks.length
  mark : ∀ c : Nat, marks[c]? = some true ↔ ∃ j, owners j = some c ∧ (.trigger j, .done) ∈ log
  triggered : ∀ i, (.trigger i, .done) ∈ log → (owners i).isSome

/-- The entries of signals agree with a history. -/
structure SignalsAgree (log : Log) (entries : List (Option Nat))
    (owners signals : Nat → Option Nat) : Prop where
  row : Row (fun s => (.unsubscribe s, .done) ∈ log) entries signals
  started : ∀ s, (∃ i, log.Subscribed i s) ↔ s < entries.length
  subscribed : ∀ i s, log.Subscribed i s → (owners i).isSome ∧ owners i = signals s

namespace Row

variable {ended ended' : Nat → Prop} {entries : List (Option Nat)}
  {coordinators : Nat → Option Nat} (h : Row ended entries coordinators)

include h

theorem congr (hended : ∀ i, ended' i ↔ ended i) : Row ended' entries coordinators where
  live i c := by rw [h.live i c, hended i]
  domain := h.domain
  bound i hi := h.bound i ((hended i).mp hi)

/-- One more is made. -/
theorem concat (c : Nat) :
    Row ended (entries ++ [some c])
      (Function.update coordinators entries.length (some c)) where
  live i d := by
    rw [State.join_getElem?_concat, Function.update_apply]
    split_ifs with hi
    · have hnew : ¬ ended i := fun hold => (h.bound i hold).ne hi
      simp [hnew]
    · exact h.live i d
  domain i := by
    have hold := h.domain i
    by_cases hi : i = entries.length
    · simp [hi]
    · simp only [Function.update_of_ne hi, hold, List.length_append, List.length_singleton]
      omega
  bound i hi := by
    have hold := h.bound i hi
    rw [List.length_append]
    omega

/-- One of them ends. -/
theorem erase {i : Nat} (hi : i < entries.length) (hended : ∀ j, ended' j ↔ ended j ∨ j = i) :
    Row ended' (entries.set i none) coordinators where
  live j c := by
    rw [State.join_getElem?_set_none, hended j]
    split_ifs with hij
    · simp [hij]
    · simp [h.live j c, Ne.symm hij]
  domain j := by rw [h.domain j, List.length_set]
  bound j hj := by
    rw [List.length_set]
    rcases (hended j).mp hj with hold | rfl
    · exact h.bound j hold
    · exact hi

theorem exists_live_iff (i : Nat) :
    (∃ c, (entries[i]?).join = some c) ↔ i < entries.length ∧ ¬ ended i := by
  simp only [h.live, exists_and_right, ← Option.isSome_iff_exists, h.domain]

end Row

namespace OwnersAgree

variable {log log' : Log} {entries : List (Option Nat)} {owners : Nat → Option Nat}
  (h : OwnersAgree log entries owners)

include h

theorem of_mem_iff (hcreate : ∀ i, (.create, .number i) ∈ log' ↔ (.create, .number i) ∈ log)
    (hclone : ∀ i j, (.clone i, .number j) ∈ log' ↔ (.clone i, .number j) ∈ log)
    (hdrop : ∀ i, (.drop i, .done) ∈ log' ↔ (.drop i, .done) ∈ log) :
    OwnersAgree log' entries owners where
  row := h.row.congr hdrop
  made i := by simpa only [Log.Made, hcreate, hclone] using h.made i
  cloned i j hij := h.cloned i j ((hclone i j).mp hij)
  kin i j c hi hj := by simpa only [Log.Kin, hclone] using h.kin i j c hi hj

/-- Another owner is made: the first one of a coordinator, or a clone. -/
theorem added {step : Step} {c : Nat} (hstep : (step = .create ∧ ∀ j, owners j ≠ some c) ∨
      ∃ i, step = .clone i ∧ owners i = some c) :
    OwnersAgree (log ++ [(step, .number entries.length)]) (entries ++ [some c])
      (Function.update owners entries.length (some c)) where
  row := (h.row.concat c).congr (by simp)
  made i := by
    have hmade : Log.Made (log ++ [(step, .number entries.length)]) i ↔
        log.Made i ∨ i = entries.length := by
      rcases hstep with ⟨rfl, -⟩ | ⟨j, rfl, -⟩ <;> simp [Log.Made, exists_or] <;> tauto
    rw [hmade, h.made, List.length_append, List.length_singleton, Nat.lt_succ_iff_lt_or_eq]
  cloned i j hij := by
    rw [List.length_append]
    rcases List.mem_append.mp hij with hold | hnew
    · obtain ⟨hi, heq⟩ := h.cloned i j hold
      have hj : j < entries.length := (h.row.domain j).mp (heq ▸ (h.row.domain i).mpr hi)
      rw [Function.update_of_ne hi.ne, Function.update_of_ne hj.ne]
      exact ⟨by omega, heq⟩
    · have hentry := List.mem_singleton.mp hnew
      simp only [Prod.mk.injEq, Note.number.injEq] at hentry
      obtain ⟨rfl, rfl⟩ := hentry
      rcases hstep with ⟨hcreate, -⟩ | ⟨i', hclone, hi'⟩
      · cases hcreate
      · cases hclone
        have hi : i < entries.length := (h.row.domain i).mp (by simp [hi'])
        rw [Function.update_of_ne hi.ne, Function.update_self]
        exact ⟨by omega, hi'⟩
  kin i j d hi hj := by
    -- an older owner of the coordinator is kin of the owner that was cloned
    have hkin : ∀ k, owners k = some c →
        Log.Kin (log ++ [(step, .number entries.length)]) k entries.length := by
      intro k hk
      rcases hstep with ⟨-, hnone⟩ | ⟨i', rfl, hi'⟩
      · exact absurd hk (hnone k)
      · exact .trans _ _ _ (h.kin k i' c hk hi').append (.rel _ _ (by simp))
    by_cases hni : i = entries.length <;> by_cases hnj : j = entries.length
    · rw [hni, hnj]
      exact .refl _
    · simp only [hni, Function.update_self, Function.update_of_ne hnj, Option.some.injEq] at hi hj
      rw [hni]
      exact .symm _ _ (hkin j (hi ▸ hj))
    · simp only [hnj, Function.update_self, Function.update_of_ne hni, Option.some.injEq] at hi hj
      rw [hnj]
      exact hkin i (hj ▸ hi)
    · rw [Function.update_of_ne hni] at hi
      rw [Function.update_of_ne hnj] at hj
      exact (h.kin i j d hi hj).append

/-- An owner ends. -/
theorem ended {i : Nat} (hi : i < entries.length) :
    OwnersAgree (log ++ [(.drop i, .done)]) (entries.set i none) owners where
  row := h.row.erase hi (by simp)
  made j := by simpa [Log.Made] using h.made j
  cloned j k hjk := by simpa using h.cloned j k (by simpa using hjk)
  kin j k c hj hk := (h.kin j k c hj hk).append

end OwnersAgree

namespace TriggersAgree

variable {log log' : Log} {marks : List Bool} {owners : Nat → Option Nat}
  (h : TriggersAgree log marks owners)

include h

theorem of_mem_iff (htrigger : ∀ i, (.trigger i, .done) ∈ log' ↔ (.trigger i, .done) ∈ log) :
    TriggersAgree log' marks owners where
  known := h.known
  mark c := by simpa only [htrigger] using h.mark c
  triggered i hi := h.triggered i ((htrigger i).mp hi)

/-- Another coordinator is made. -/
theorem extended : TriggersAgree log (marks ++ [false]) owners where
  known i c hi := by
    have hknown := h.known i c hi
    rw [List.length_append]
    omega
  mark c := by
    rw [← h.mark c, List.getElem?_append]
    split_ifs with hc
    · rfl
    · rw [List.getElem?_eq_none (Nat.le_of_not_lt hc)]
      cases c - marks.length <;> simp
  triggered := h.triggered

/-- Another owner of a coordinator is made. -/
theorem added {n c : Nat} (hnew : owners n = none) (hc : c < marks.length) :
    TriggersAgree log marks (Function.update owners n (some c)) where
  known i d hi := by
    rw [Function.update_apply] at hi
    split_ifs at hi with hin
    · cases hi
      exact hc
    · exact h.known i d hi
  mark d := by
    rw [h.mark d]
    refine exists_congr fun j => and_congr_left fun hj => ?_
    have hjn : j ≠ n := by
      rintro rfl
      simpa [hnew] using h.triggered j hj
    rw [Function.update_of_ne hjn]
  triggered i hi := by
    rw [Function.update_apply]
    split_ifs
    · rfl
    · exact h.triggered i hi

/-- A coordinator is triggered. -/
theorem marked {i c : Nat} (hi : owners i = some c) :
    TriggersAgree (log ++ [(.trigger i, .done)]) (marks.set c true) owners where
  known j d hj := by
    rw [List.length_set]
    exact h.known j d hj
  mark d := by
    have hc : c < marks.length := h.known i c hi
    by_cases hd : c = d
    · subst hd
      rw [List.getElem?_set_self hc]
      exact iff_of_true rfl ⟨i, hi, by simp⟩
    · rw [List.getElem?_set_ne hd, h.mark d]
      refine exists_congr fun j => and_congr_right fun hj => ?_
      have hij : j ≠ i := by
        rintro rfl
        exact hd (Option.some.inj (hi.symm.trans hj))
      simp [hij]
  triggered j hj := by
    rcases List.mem_append.mp hj with hold | hnew
    · exact h.triggered j hold
    · cases List.mem_singleton.mp hnew
      simp [hi]

end TriggersAgree

namespace SignalsAgree

variable {log log' : Log} {entries : List (Option Nat)} {owners signals : Nat → Option Nat}
  (h : SignalsAgree log entries owners signals)

include h

theorem of_mem_iff
    (hsubscribe : ∀ i s, (.subscribe i, .number s) ∈ log' ↔ (.subscribe i, .number s) ∈ log)
    (hunsubscribe : ∀ s, (.unsubscribe s, .done) ∈ log' ↔ (.unsubscribe s, .done) ∈ log) :
    SignalsAgree log' entries owners signals where
  row := h.row.congr hunsubscribe
  started s := by simpa only [Log.Subscribed, hsubscribe] using h.started s
  subscribed i s hi := h.subscribed i s ((hsubscribe i s).mp hi)

/-- Another owner is made. -/
theorem added {n c : Nat} (hnew : owners n = none) :
    SignalsAgree log entries (Function.update owners n (some c)) signals where
  row := h.row
  started := h.started
  subscribed i s hi := by
    have hin : i ≠ n := by
      rintro rfl
      simpa [hnew] using (h.subscribed i s hi).1
    rw [Function.update_of_ne hin]
    exact h.subscribed i s hi

/-- A signal is started. -/
theorem opened {i c : Nat} (hi : owners i = some c) :
    SignalsAgree (log ++ [(.subscribe i, .number entries.length)]) (entries ++ [some c]) owners
      (Function.update signals entries.length (some c)) where
  row := (h.row.concat c).congr (by simp)
  started s := by
    have hsubscribed :
        (∃ j, Log.Subscribed (log ++ [(.subscribe i, .number entries.length)]) j s) ↔
          (∃ j, log.Subscribed j s) ∨ s = entries.length := by
      simp [Log.Subscribed, exists_or]
    rw [hsubscribed, h.started, List.length_append, List.length_singleton,
      Nat.lt_succ_iff_lt_or_eq]
  subscribed j s hj := by
    rcases List.mem_append.mp hj with hold | hnew
    · have hs : s < entries.length := (h.started s).mp ⟨j, hold⟩
      rw [Function.update_of_ne hs.ne]
      exact h.subscribed j s hold
    · cases List.mem_singleton.mp hnew
      simp [hi]

/-- A signal ends. -/
theorem closed {s : Nat} (hs : s < entries.length) :
    SignalsAgree (log ++ [(.unsubscribe s, .done)]) (entries.set s none) owners signals where
  row := h.row.erase hs (by simp)
  started t := by simpa [Log.Subscribed] using h.started t
  subscribed i t hi := h.subscribed i t (by simpa [Log.Subscribed] using hi)

end SignalsAgree

/-- A state agrees with a history. -/
structure Agrees (log : Log) (st : State) (owners signals : Nat → Option Nat) : Prop where
  ofOwners : OwnersAgree log st.owners owners
  ofTriggers : TriggersAgree log st.triggered owners
  ofSignals : SignalsAgree log st.signals owners signals

namespace Agrees

theorem initial : Agrees [] initial (fun i => if i = 0 then some 0 else none) fun _ => none where
  ofOwners :=
    { row :=
        { live := fun i c => by cases i <;> simp [Shutdown.initial]
          domain := fun i => by cases i <;> simp [Shutdown.initial]
          bound := fun i hi => by cases hi }
      made := fun i => by simp [Log.Made, Shutdown.initial]
      cloned := fun i j hij => by cases hij
      kin := fun i j c hi hj => by
        obtain rfl : i = 0 := by by_contra hne; simp [hne] at hi
        obtain rfl : j = 0 := by by_contra hne; simp [hne] at hj
        exact .refl 0 }
  ofTriggers :=
    { known := fun i c hi => by
        split_ifs at hi
        cases hi
        simp [Shutdown.initial]
      mark := fun c => by cases c <;> simp [Shutdown.initial]
      triggered := fun i hi => by cases hi }
  ofSignals :=
    { row :=
        { live := fun s c => by simp [Shutdown.initial]
          domain := fun s => by simp [Shutdown.initial]
          bound := fun s hs => by cases hs }
      started := fun s => by simp [Log.Subscribed, Shutdown.initial]
      subscribed := fun i s hi => by cases hi }

variable {log : Log} {st st' : State} {owners signals : Nat → Option Nat}

theorem owners_eq (h : Agrees log st owners signals) {i c : Nat} (hi : st.owner? i = some c) :
    owners i = some c :=
  ((h.ofOwners.row.live i c).mp hi).1

/-- Every step keeps state and history in agreement. -/
theorem of_effect (h : Agrees log st owners signals) {step : Step} {note : Note}
    (heffect : State.Effect st step st' note) :
    ∃ owners signals, Agrees (log ++ [(step, note)]) st' owners signals := by
  -- each effect touches one or two of the three parts, and the others do not see its entry
  have hnext : owners st.owners.length = none := by
    have hdomain := h.ofOwners.row.domain st.owners.length
    simpa using hdomain
  cases heffect with
  | created =>
    have hfirst : ∀ j, owners j ≠ some st.triggered.length := fun j hj =>
      (h.ofTriggers.known j _ hj).false
    refine ⟨_, signals, h.ofOwners.added (.inl ⟨rfl, hfirst⟩), ?_, ?_⟩
    · exact (h.ofTriggers.extended.added hnext (by simp)).of_mem_iff (by simp)
    · exact (h.ofSignals.added hnext).of_mem_iff (by simp) (by simp)
  | @cloned i c hi =>
    have hc : c < st.triggered.length := h.ofTriggers.known i c (h.owners_eq hi)
    refine ⟨_, signals, h.ofOwners.added (.inr ⟨i, rfl, h.owners_eq hi⟩), ?_, ?_⟩
    · exact (h.ofTriggers.added hnext hc).of_mem_iff (by simp)
    · exact (h.ofSignals.added hnext).of_mem_iff (by simp) (by simp)
  | subscribed hi =>
    exact ⟨owners, _, h.ofOwners.of_mem_iff (by simp) (by simp) (by simp),
      h.ofTriggers.of_mem_iff (by simp), h.ofSignals.opened (h.owners_eq hi)⟩
  | triggered hi =>
    exact ⟨owners, signals, h.ofOwners.of_mem_iff (by simp) (by simp) (by simp),
      h.ofTriggers.marked (h.owners_eq hi), h.ofSignals.of_mem_iff (by simp) (by simp)⟩
  | dropped hi =>
    exact ⟨owners, signals, h.ofOwners.ended (State.lt_of_owner? hi),
      h.ofTriggers.of_mem_iff (by simp), h.ofSignals.of_mem_iff (by simp) (by simp)⟩
  | unsubscribed hs =>
    exact ⟨owners, signals, h.ofOwners.of_mem_iff (by simp) (by simp) (by simp),
      h.ofTriggers.of_mem_iff (by simp), h.ofSignals.closed (State.lt_of_signal? hs)⟩
  | ownerMissing | signalMissing =>
    exact ⟨owners, signals, h.ofOwners.of_mem_iff (by simp) (by simp) (by simp),
      h.ofTriggers.of_mem_iff (by simp), h.ofSignals.of_mem_iff (by simp) (by simp)⟩

/-- After every run, state and history agree. -/
theorem of_run (steps : List Step) :
    ∃ owners signals,
      Agrees (Shutdown.initial.log steps) (Shutdown.initial.run steps) owners signals := by
  induction steps using List.reverseRecOn with
  | nil => exact ⟨_, _, initial⟩
  | append_singleton steps step ih =>
    obtain ⟨owners, signals, hagrees⟩ := ih
    rw [State.run_concat, State.log_concat]
    exact hagrees.of_effect (State.effect_step _ step)

section Reading

variable (h : Agrees log st owners signals)

include h

theorem owners_eq_of_kin {i j : Nat} (hkin : log.Kin i j) : owners i = owners j := by
  induction hkin with
  | rel i j hclone => exact (h.ofOwners.cloned i j hclone).2
  | refl i => rfl
  | symm i j _ ih => exact ih.symm
  | trans i j k _ _ hij hjk => exact hij.trans hjk

theorem kin_iff {i j c : Nat} (hi : owners i = some c) : log.Kin i j ↔ owners j = some c :=
  ⟨fun hkin => (h.owners_eq_of_kin hkin).symm.trans hi, h.ofOwners.kin i j c hi⟩

theorem ownerLives_iff {i : Nat} : log.OwnerLives i ↔ ∃ c, st.owner? i = some c := by
  rw [Log.OwnerLives, h.ofOwners.made]
  exact (h.ofOwners.row.exists_live_iff i).symm

theorem signalLives_iff {s : Nat} : log.SignalLives s ↔ ∃ c, st.signal? s = some c := by
  rw [Log.SignalLives, h.ofSignals.started]
  exact (h.ofSignals.row.exists_live_iff s).symm

/-- A signal that lives belongs to the coordinator of the owner that it was started on. -/
theorem owners_eq_of_signal? {i s c : Nat} (hsubscribed : log.Subscribed i s)
    (hs : st.signal? s = some c) : owners i = some c :=
  (h.ofSignals.subscribed i s hsubscribed).2.trans ((h.ofSignals.row.live s c).mp hs).1

theorem exists_owner_of_signal? {s c : Nat} (hs : st.signal? s = some c) :
    ∃ i, log.Subscribed i s ∧ owners i = some c := by
  obtain ⟨i, hi⟩ := (h.ofSignals.started s).mpr (State.lt_of_signal? hs)
  exact ⟨i, hi, h.owners_eq_of_signal? hi hs⟩

/-- The tasks of a coordinator should stop just when its history says so. -/
theorem isOver_iff {i c : Nat} (hi : owners i = some c) :
    st.isOver c = true ↔ log.Triggered i ∨ log.Abandoned i := by
  have hlive : ∀ j, st.owner? j = some c ↔ log.Kin i j ∧ log.OwnerLives j := by
    intro j
    rw [h.kin_iff hi, h.ownerLives_iff]
    constructor
    · intro hj
      exact ⟨h.owners_eq hj, c, hj⟩
    · rintro ⟨hj, d, hd⟩
      rwa [Option.some.inj (hj.symm.trans (h.owners_eq hd))]
  rw [State.isOver_iff, h.ofTriggers.mark]
  refine or_congr ?_ (forall_congr' fun j => ?_)
  · simp only [Log.Triggered, h.kin_iff hi]
  · rw [ne_eq, hlive j, not_and]

/-- A step that has nothing to be taken on changes nothing. -/
theorem step_of_not_allows {step : Step} (hnot : ¬ log.Allows step) :
    st.step step = (st, .missing) := by
  have heffect := State.effect_step st step
  generalize st.step step = result at heffect ⊢
  obtain ⟨st', note⟩ := result
  cases heffect with
  | created => exact absurd trivial hnot
  | cloned hi | subscribed hi | triggered hi | dropped hi =>
    exact absurd (h.ownerLives_iff.mpr ⟨_, hi⟩) hnot
  | unsubscribed hs => exact absurd (h.signalLives_iff.mpr ⟨_, hs⟩) hnot
  | ownerMissing | signalMissing => rfl

/-- A step that is allowed is taken. -/
theorem answers_of_allows {step : Step} (hallows : log.Allows step) :
    log.Answers step (st.step step).2 := by
  have heffect := State.effect_step st step
  generalize st.step step = result at heffect ⊢
  obtain ⟨st', note⟩ := result
  have hmade : ¬ log.Made st.owners.length := by simp [h.ofOwners.made]
  cases heffect with
  | created | cloned => exact hmade
  | subscribed =>
    intro i hi
    exact ((h.ofSignals.started _).mp ⟨i, hi⟩).false
  | triggered | dropped | unsubscribed => trivial
  | @ownerMissing _ i howner hnone =>
    have hlives : log.OwnerLives i := by
      cases step <;> cases howner <;> exact hallows
    obtain ⟨c, hc⟩ := h.ownerLives_iff.mp hlives
    rw [hnone] at hc
    cases hc
  | signalMissing hnone =>
    obtain ⟨c, hc⟩ := h.signalLives_iff.mp hallows
    rw [hnone] at hc
    cases hc

/-- A step leaves a signal as it is unless it ends the signal or is taken on an owner of the
signal's coordinator. -/
theorem ready?_step {i s : Nat} {step : Step} (hsubscribed : log.Subscribed i s)
    (hother : step ≠ .unsubscribe s)
    (helsewhere : ∀ j, step.owner? = some j → ¬ log.Kin i j) :
    (st.step step).1.ready? s = st.ready? s := by
  have heffect := State.effect_step st step
  have hs : s < st.signals.length := (h.ofSignals.started s).mp ⟨i, hsubscribed⟩
  rw [State.ready?, State.ready?, State.signal?_of_effect hs heffect, if_neg hother]
  cases hsignal : st.signal? s with
  | none => rfl
  | some c =>
    have hi : owners i = some c := h.owners_eq_of_signal? hsubscribed hsignal
    have hnot : ∀ j, step.owner? = some j → st.owner? j ≠ some c := by
      intro j hj howner
      exact helsewhere j hj ((h.kin_iff hi).mpr (h.owners_eq howner))
    rw [Option.map_some, Option.map_some,
      State.isOver_of_effect_elsewhere (h.ofTriggers.known i c hi) heffect hnot]

end Reading

end Agrees

/-! ## Settled signals -/

/-- A signal that was started and is ready or gone. -/
def State.Settled (st : State) (s : Nat) : Prop :=
  s < st.signals.length ∧ ∀ c, st.signal? s = some c → st.isOver c = true

theorem State.settled_of_ready? {st : State} {s : Nat} (h : st.ready? s = some true) :
    st.Settled s := by
  obtain ⟨c, hsignal, hover⟩ := Option.map_eq_some_iff.mp h
  refine ⟨lt_of_signal? hsignal, fun d hd => ?_⟩
  rwa [Option.some.inj (hd.symm.trans hsignal)]

theorem Agrees.settled_step {log : Log} {st : State} {owners signals : Nat → Option Nat}
    (h : Agrees log st owners signals) {s : Nat} (hsettled : st.Settled s) (step : Step) :
    (st.step step).1.Settled s := by
  obtain ⟨hs, hover⟩ := hsettled
  have heffect := State.effect_step st step
  refine ⟨hs.trans_le (State.signals_length_le heffect), fun c hc => ?_⟩
  rw [State.signal?_of_effect hs heffect] at hc
  split_ifs at hc
  obtain ⟨i, -, hi⟩ := h.exists_owner_of_signal? hc
  exact State.isOver_of_effect (h.ofTriggers.known i c hi) heffect (hover c hc)

/-- A signal that is settled stays so, whatever follows. -/
theorem settled_run (steps more : List Step) {s : Nat} (h : (initial.run steps).Settled s) :
    (initial.run (steps ++ more)).Settled s := by
  induction more using List.reverseRecOn with
  | nil => simpa using h
  | append_singleton more step ih =>
    obtain ⟨owners, signals, hagrees⟩ := Agrees.of_run (steps ++ more)
    rw [← List.append_assoc, State.run_concat]
    exact hagrees.settled_step ih step

/-! ## The law of signals -/

/-- A signal that lives is ready if and only if a trigger was performed on some owner of its
coordinator or no owner of it is left, and other signals have no state. Once ready, a signal stays
ready as long as it lives. Steps on owners of other coordinators leave it as it is, and steps on
owners or signals that do not live change nothing; all other steps are performed. -/
theorem a_signal_tells_the_history_of_its_coordinator (steps : List Step) :
    (∀ i s, (initial.log steps).Subscribed i s → (initial.log steps).SignalLives s →
      ∃ ready, (initial.run steps).ready? s = some ready ∧
        (ready = true ↔ (initial.log steps).Triggered i ∨ (initial.log steps).Abandoned i)) ∧
    (∀ s, ¬ (initial.log steps).SignalLives s → (initial.run steps).ready? s = none) ∧
    (∀ s more, (initial.run steps).ready? s = some true →
      (initial.log (steps ++ more)).SignalLives s →
      (initial.run (steps ++ more)).ready? s = some true) ∧
    (∀ i s step, (initial.log steps).Subscribed i s → step ≠ .unsubscribe s →
      (∀ j, step.owner? = some j → ¬ (initial.log steps).Kin i j) →
      (initial.run (steps ++ [step])).ready? s = (initial.run steps).ready? s) ∧
    (∀ step, ¬ (initial.log steps).Allows step →
      (initial.run steps).step step = (initial.run steps, .missing)) ∧
    ∀ step, (initial.log steps).Allows step →
      (initial.log steps).Answers step ((initial.run steps).step step).2 := by
  obtain ⟨owners, signals, h⟩ := Agrees.of_run steps
  refine ⟨fun i s hsubscribed hlives => ?_, fun s hnot => ?_, fun s more hready hlives => ?_,
    fun i s step hsubscribed hother helsewhere => ?_, fun step => h.step_of_not_allows,
    fun step => h.answers_of_allows⟩
  · obtain ⟨c, hsignal⟩ := h.signalLives_iff.mp hlives
    refine ⟨_, by rw [State.ready?, hsignal, Option.map_some], ?_⟩
    exact h.isOver_iff (h.owners_eq_of_signal? hsubscribed hsignal)
  · rw [State.ready?, Option.map_eq_none_iff, Option.eq_none_iff_forall_ne_some]
    exact fun c hsignal => hnot (h.signalLives_iff.mpr ⟨c, hsignal⟩)
  · obtain ⟨owners', signals', h'⟩ := Agrees.of_run (steps ++ more)
    obtain ⟨c, hsignal⟩ := h'.signalLives_iff.mp hlives
    obtain ⟨-, hover⟩ := settled_run steps more (State.settled_of_ready? hready)
    rw [State.ready?, hsignal, Option.map_some, hover c hsignal]
  · rw [State.run_concat]
    exact h.ready?_step hsubscribed hother helsewhere

/-- A signal on a clone, started after the first owner has triggered its coordinator. -/
def clonedSteps : List Step := [.clone 0, .trigger 0, .create, .subscribe 1, .drop 0]

theorem a_trigger_reaches_a_later_signal_of_a_clone :
    (initial.log clonedSteps).Subscribed 1 0 ∧ (initial.log clonedSteps).SignalLives 0 ∧
      (initial.log clonedSteps).Triggered 1 ∧
      (initial.run clonedSteps).ready? 0 = some true := by
  have hsubscribed : (initial.log clonedSteps).Subscribed 1 0 := by
    unfold Log.Subscribed
    decide
  have hlives : (initial.log clonedSteps).SignalLives 0 := ⟨⟨1, hsubscribed⟩, by decide⟩
  have htriggered : (initial.log clonedSteps).Triggered 1 :=
    ⟨0, .symm _ _ (.rel _ _ (by decide)), by decide⟩
  obtain ⟨hready, -⟩ := a_signal_tells_the_history_of_its_coordinator clonedSteps
  obtain ⟨ready, heq, hiff⟩ := hready 1 0 hsubscribed hlives
  rw [hiff.mpr (.inl htriggered)] at heq
  exact ⟨hsubscribed, hlives, htriggered, heq⟩

end IsoServer.Shutdown
