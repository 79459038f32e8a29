-- Shutdowns while the server starts. Other tasks can trigger the shutdown at any moment of a start,
-- and none of these moments loses it: the start ends without an error only after a trigger, makes
-- one more attempt at most, and finds its signals ready wherever it watches them.
import Mathlib
import IsoServer.Proofs.Coordinators
import IsoServer.Proofs.Starting

namespace IsoServer

namespace Startup

/-! ## Triggers -/

/-- An event in which another task triggers the shutdown through a handle that is alive. -/
def Triggers (s : Status) (e : Event) : Prop :=
  ∃ i, e = .other (.trigger i) ∧ s.shutdown.owner? i ≠ none

/-- The shutdown is triggered in the course of some events. -/
def TriggeredIn (config : ServeConfig) (env : Proxy.Environment) (s : Status)
    (events : List Event) : Prop :=
  ∃ earlier e later mid, events = earlier ++ e :: later ∧ s.run? config env earlier = some mid ∧
    Triggers mid e

theorem triggeredIn_cons {config : ServeConfig} {env : Proxy.Environment} {s next : Status}
    {e : Event} {events : List Event} (h : s.next? config env e = some next) :
    TriggeredIn config env s (e :: events) ↔
      Triggers s e ∨ TriggeredIn config env next events := by
  constructor
  · rintro ⟨earlier, e', later, mid, hsplit, hrun, htriggers⟩
    cases earlier with
    | nil =>
      cases hsplit
      cases hrun
      exact .inl htriggers
    | cons first earlier =>
      cases hsplit
      rw [Status.run?, h] at hrun
      exact .inr ⟨earlier, e', later, mid, rfl, hrun, htriggers⟩
  · rintro (htriggers | ⟨earlier, e', later, mid, rfl, hrun, htriggers⟩)
    · exact ⟨[], e, events, s, rfl, rfl, htriggers⟩
    · refine ⟨e :: earlier, e', later, mid, rfl, ?_, htriggers⟩
      rw [Status.run?, h]
      exact hrun

theorem run?_append (config : ServeConfig) (env : Proxy.Environment) (s : Status)
    (earlier later : List Event) :
    s.run? config env (earlier ++ later) =
      (s.run? config env earlier).bind fun mid => mid.run? config env later := by
  induction earlier generalizing s with
  | nil => rfl
  | cons e earlier ih =>
    rw [List.cons_append, Status.run?, Status.run?]
    cases s.next? config env e with
    | none => rfl
    | some next => exact ih next

/-! ## What a start relies on -/

/-- The signals that are still to be watched in a phase. -/
def Phase.signals : Phase → List Nat
  | .subscribedOnce bind => [bind]
  | .subscribed bind serve | .built bind serve | .attempting _ bind serve
  | .waiting _ _ bind serve => [bind, serve]
  | .serving serve => [serve]
  | .entered | .finished | .failed _ => []

/-- The handle of the caller lives, all handles and all signals of the start belong to the one
coordinator, and the start ended without an error only if that was triggered. -/
structure Status.Sound (s : Status) : Prop where
  caller : s.shutdown.owner? 0 = some 0
  known : 0 < s.shutdown.triggered.length
  owners : ∀ i c, s.shutdown.owner? i = some c → c = 0
  signals : ∀ signal ∈ s.phase.signals, s.shutdown.signal? signal = some 0
  finished : s.phase = .finished → s.shutdown.triggered[0]? = some true

theorem sound_initial : ({} : Status).Sound where
  caller := rfl
  known := by decide
  owners i c h := by
    cases i with
    | zero => exact (Option.some.inj h).symm
    | succ i => cases h
  signals signal h := by cases h
  finished h := by cases h

/-- As long as the handle of the caller lives, a signal is ready if and only if the shutdown was
triggered. -/
theorem Status.Sound.isReady_iff {s : Status} (hs : s.Sound) {signal : Nat}
    (hsignal : s.shutdown.signal? signal = some 0) :
    isReady s.shutdown signal = true ↔ s.shutdown.triggered[0]? = some true := by
  have hready : isReady s.shutdown signal = s.shutdown.isOver 0 := by
    simp [isReady, Shutdown.State.ready?, hsignal]
  rw [hready, Shutdown.State.isOver_iff]
  refine ⟨fun h => ?_, .inl⟩
  rcases h with htriggered | hgone
  · exact htriggered
  · exact absurd hs.caller (hgone 0)

/-! ## Steps of other tasks -/

/-- Everything that a step of another task can do. -/
theorem foreign_cases {st st' : Shutdown.State} {step : Shutdown.Step} {note : Shutdown.Note}
    (hforeign : isForeign step = true) (h : st.Effect step st' note) :
    (∃ i c, step = .clone i ∧ st.owner? i = some c ∧
      st' = { st with owners := st.owners ++ [some c] }) ∨
    (∃ i c, step = .trigger i ∧ st.owner? i = some c ∧
      st' = { st with triggered := st.triggered.set c true }) ∨
    (∃ i, step = .drop i ∧ i ≠ 0 ∧ st' = { st with owners := st.owners.set i none }) ∨
    (st' = st ∧ ∀ i, step = .trigger i → st.owner? i = none) := by
  cases h with
  | created => cases hforeign
  | subscribed => cases hforeign
  | unsubscribed => cases hforeign
  | signalMissing => cases hforeign
  | cloned howner => exact .inl ⟨_, _, rfl, howner, rfl⟩
  | triggered howner => exact .inr (.inl ⟨_, _, rfl, howner, rfl⟩)
  | dropped => exact .inr (.inr (.inl ⟨_, rfl, by simpa [isForeign] using hforeign, rfl⟩))
  | ownerMissing hstep hnone =>
    refine .inr (.inr (.inr ⟨rfl, fun j hj => ?_⟩))
    subst hj
    cases hstep
    exact hnone

section Other

variable {s : Status} {step : Shutdown.Step} (hs : s.Sound) (hforeign : isForeign step = true)

include hs hforeign

theorem sound_of_other : ({ s with shutdown := (s.shutdown.step step).1 } : Status).Sound := by
  have heffect := s.shutdown.effect_step step
  generalize (s.shutdown.step step).1 = st' at heffect ⊢
  have hlength := Shutdown.State.lt_of_owner? hs.caller
  rcases foreign_cases hforeign heffect with
    ⟨i, c, rfl, howner, rfl⟩ | ⟨i, c, rfl, howner, rfl⟩ | ⟨i, rfl, hi, rfl⟩ | ⟨rfl, -⟩
  · -- a handle is added behind those that are there
    have hadded : ∀ j, ({ s.shutdown with owners := s.shutdown.owners ++ [some c] } :
        Shutdown.State).owner? j =
        if j = s.shutdown.owners.length then some c else s.shutdown.owner? j :=
      fun j => Shutdown.State.join_getElem?_concat _ _ j
    refine ⟨?_, hs.known, fun j d hj => ?_, hs.signals, hs.finished⟩
    · rw [hadded, if_neg hlength.ne]
      exact hs.caller
    · rw [hadded] at hj
      split_ifs at hj
      · cases hj
        exact hs.owners i c howner
      · exact hs.owners j d hj
  · refine ⟨hs.caller, by simpa using hs.known, hs.owners, hs.signals, fun hfinished => ?_⟩
    have hknown : 0 < s.shutdown.triggered.length := hs.known
    rw [hs.owners i c howner]
    simp [hknown]
  · -- a handle ends that is not the caller's
    have hended : ∀ j, ({ s.shutdown with owners := s.shutdown.owners.set i none } :
        Shutdown.State).owner? j = if i = j then none else s.shutdown.owner? j :=
      fun j => Shutdown.State.join_getElem?_set_none _ _ j
    refine ⟨?_, hs.known, fun j d hj => ?_, hs.signals, hs.finished⟩
    · rw [hended, if_neg hi]
      exact hs.caller
    · rw [hended] at hj
      split_ifs at hj
      exact hs.owners j d hj
  · exact hs

theorem triggered_of_other :
    (s.shutdown.step step).1.triggered[0]? = some true ↔
      s.shutdown.triggered[0]? = some true ∨ Triggers s (.other step) := by
  have heffect := s.shutdown.effect_step step
  generalize (s.shutdown.step step).1 = st' at heffect ⊢
  rcases foreign_cases hforeign heffect with
    ⟨i, c, rfl, howner, rfl⟩ | ⟨i, c, rfl, howner, rfl⟩ | ⟨i, rfl, hi, rfl⟩ | ⟨rfl, hnone⟩
  · simp [Triggers]
  · have hknown : 0 < s.shutdown.triggered.length := hs.known
    have htriggers : Triggers s (.other (.trigger i)) := ⟨i, rfl, by simp [howner]⟩
    rw [hs.owners i c howner]
    simp [hknown, htriggers]
  · simp [Triggers]
  · have hquiet : ¬ Triggers s (.other step) := by
      rintro ⟨i, hstep, hlives⟩
      cases hstep
      exact hlives (hnone i rfl)
    simp [hquiet]

end Other

/-! ## Steps of the start -/

/-- A signal that is made through the handle of the caller belongs to its coordinator, and the
signals that were there before stay as they are. -/
theorem sound_of_subscribe {s : Status} (hs : s.Sound) {phase : Phase}
    (hsignals : ∀ signal ∈ phase.signals,
      signal = s.shutdown.signals.length ∨ signal ∈ s.phase.signals)
    (hgoes : phase ≠ .finished) :
    ({ shutdown := (s.shutdown.step (.subscribe 0)).1, phase } : Status).Sound := by
  have hstep : (s.shutdown.step (.subscribe 0)).1 =
      { s.shutdown with signals := s.shutdown.signals ++ [some 0] } := by
    simp only [Shutdown.State.step, hs.caller]
  rw [hstep]
  refine ⟨hs.caller, hs.known, hs.owners, fun signal hsignal => ?_,
    fun hend => absurd hend hgoes⟩
  unfold Shutdown.State.signal?
  rw [Shutdown.State.join_getElem?_concat]
  split_ifs with hnew
  · rfl
  · exact hs.signals signal ((hsignals signal hsignal).resolve_left hnew)

theorem sound_of_move {config : ServeConfig} {env : Proxy.Environment} {s s' : Status} {e : Event}
    (hs : s.Sound) (h : Move config env s e s') : s'.Sound := by
  -- a phase that watches no other signals and is not the end
  have hgoes : ∀ phase : Phase, (∀ signal ∈ phase.signals, signal ∈ s.phase.signals) →
      phase ≠ .finished → ({ s with phase } : Status).Sound := fun phase hsub hgoes =>
    ⟨hs.caller, hs.known, hs.owners, fun signal hsignal => hs.signals signal (hsub signal hsignal),
      fun hend => absurd hend hgoes⟩
  have hends : ∀ signal ∈ s.phase.signals, isReady s.shutdown signal = true →
      ({ s with phase := .finished } : Status).Sound := fun signal hsignal hready =>
    ⟨hs.caller, hs.known, hs.owners, fun _ hnone => (by cases hnone),
      fun _ => (hs.isReady_iff (hs.signals signal hsignal)).mp hready⟩
  cases h with
  | other hforeign => exact sound_of_other hs hforeign
  | subscribeFirst hphase =>
    exact sound_of_subscribe hs (by simp [Phase.signals]) (by simp)
  | subscribeAgain hphase =>
    exact sound_of_subscribe hs (by simp [hphase, Phase.signals]) (by simp)
  | stopsAtOnce hphase _ _ _ hready => exact hends _ (by simp [hphase, Phase.signals]) hready
  | stopsWaiting hphase hready => exact hends _ (by simp [hphase, Phase.signals]) hready
  | stopsServing hphase hready => exact hends _ (by simp [hphase, Phase.signals]) hready
  | buildFails hphase | builds hphase | addressFails hphase | firstAttempt hphase | binds hphase
  | exhausted hphase | waits hphase | waitsNoTime hphase | timer hphase | retries hphase =>
    exact hgoes _ (by simp [hphase, Phase.signals]) (by simp)

/-- No step of the start itself triggers the shutdown. -/
theorem triggered_of_move {config : ServeConfig} {env : Proxy.Environment} {s s' : Status}
    {e : Event} (hs : s.Sound) (h : Move config env s e s') :
    s'.shutdown.triggered[0]? = some true ↔
      s.shutdown.triggered[0]? = some true ∨ Triggers s e := by
  cases h with
  | other hforeign => exact triggered_of_other hs hforeign
  | subscribeFirst | subscribeAgain =>
    simp [Shutdown.State.step, hs.caller, Triggers]
  | _ => simp [Triggers]

/-- In a sound run, the shutdown was triggered at the end if and only if it was at the start or in
the course of it. -/
theorem triggered_of_run? {config : ServeConfig} {env : Proxy.Environment} {s s' : Status}
    {events : List Event} (hs : s.Sound) (h : s.run? config env events = some s') :
    s'.Sound ∧ (s'.shutdown.triggered[0]? = some true ↔
      s.shutdown.triggered[0]? = some true ∨ TriggeredIn config env s events) := by
  induction events generalizing s with
  | nil =>
    cases h
    refine ⟨hs, .inl, ?_⟩
    rintro (htriggered | ⟨earlier, e, later, mid, hsplit, -⟩)
    · exact htriggered
    · simp at hsplit
  | cons e events ih =>
    obtain ⟨next, hnext, hrest⟩ := Option.bind_eq_some_iff.mp h
    have hmove := move_of_next? hnext
    obtain ⟨hsound, hiff⟩ := ih (sound_of_move hs hmove) hrest
    refine ⟨hsound, ?_⟩
    rw [hiff, triggered_of_move hs hmove, triggeredIn_cons hnext, or_assoc]

/-! ## Attempts after a trigger -/

/-- Whether an attempt begins with an event. -/
def Event.beginsAttempt : Event → Bool
  | .attempt | .retry => true
  | _ => false

/-- The number of attempts that can still begin once the shutdown was triggered. -/
def Phase.attemptsLeft : Phase → Nat
  | .entered | .subscribedOnce _ | .subscribed .. | .built .. | .waiting .. => 1
  | .attempting .. | .serving _ | .finished | .failed _ => 0

section Attempts

variable {config : ServeConfig} {env : Proxy.Environment}
  (hdelay : 0 < config.listener.bindRetryDelayMs)

include hdelay

/-- After a trigger no wait begins: one that would begin is over at once. -/
theorem attemptsLeft_of_move {s s' : Status} {e : Event} (hs : s.Sound)
    (htriggered : s.shutdown.triggered[0]? = some true) (h : Move config env s e s') :
    (if e.beginsAttempt then 1 else 0) + s'.phase.attemptsLeft ≤ s.phase.attemptsLeft := by
  cases h with
  | waits hphase _ _ _ hready =>
    have hsignal := hs.signals _ (by rw [hphase]; exact List.mem_cons_self ..)
    rw [(hs.isReady_iff hsignal).mpr htriggered] at hready
    cases hready
  | waitsNoTime _ _ _ hzero => simp [hzero] at hdelay
  | other => simp [Event.beginsAttempt]
  | subscribeFirst hphase | subscribeAgain hphase | buildFails hphase | builds hphase
  | addressFails hphase | firstAttempt hphase | binds hphase | exhausted hphase
  | stopsAtOnce hphase | timer hphase | retries hphase | stopsWaiting hphase
  | stopsServing hphase => simp [hphase, Event.beginsAttempt, Phase.attemptsLeft]

theorem attemptsLeft_of_run? {s s' : Status} {events : List Event} (hs : s.Sound)
    (htriggered : s.shutdown.triggered[0]? = some true)
    (h : s.run? config env events = some s') :
    events.countP Event.beginsAttempt + s'.phase.attemptsLeft ≤ s.phase.attemptsLeft := by
  induction events generalizing s with
  | nil =>
    cases h
    simp
  | cons e events ih =>
    obtain ⟨next, hnext, hrest⟩ := Option.bind_eq_some_iff.mp h
    have hmove := move_of_next? hnext
    have hlater := ih (sound_of_move hs hmove)
      ((triggered_of_move hs hmove).mpr (.inl htriggered)) hrest
    have hstep := attemptsLeft_of_move hdelay hs htriggered hmove
    rw [List.countP_cons]
    omega

end Attempts

theorem Phase.attemptsLeft_le (phase : Phase) : phase.attemptsLeft ≤ 1 := by
  cases phase <;> simp [attemptsLeft]

/-! ## A first attempt that succeeds -/

/-- Whether an event is a step of the start itself. -/
def Event.isOwn : Event → Bool
  | .other _ => false
  | _ => true

/-- The steps that are left to a start until its first attempt has succeeded. -/
inductive Phase.Ahead : Phase → List Event → Prop
  | entered : Ahead .entered [.subscribe, .subscribe, .build, .attempt, .attempted none]
  | subscribedOnce {bind : Nat} :
      Ahead (.subscribedOnce bind) [.subscribe, .build, .attempt, .attempted none]
  | subscribed {bind serve : Nat} :
      Ahead (.subscribed bind serve) [.build, .attempt, .attempted none]
  | built {bind serve : Nat} : Ahead (.built bind serve) [.attempt, .attempted none]
  | attempting {attempts : UInt32} {bind serve : Nat} :
      Ahead (.attempting attempts bind serve) [.attempted none]
  | serving {serve : Nat} : Ahead (.serving serve) []

section FirstAttempt

variable {config : ServeConfig} {env : Proxy.Environment} {server : Server}
  {address : SocketAddress} (hserver : Server.create config env = .ok server)
  (haddress : config.listener.address? = some address)

include hserver haddress

theorem next?_of_ahead {s : Status} {e : Event} {own : List Event} (h : s.phase.Ahead (e :: own)) :
    ∃ next, s.next? config env e = some next ∧ next.phase.Ahead own := by
  obtain ⟨shutdown, phase⟩ := s
  cases h with
  | entered => exact ⟨_, rfl, .subscribedOnce⟩
  | subscribedOnce => exact ⟨_, rfl, .subscribed⟩
  | @subscribed bind serve =>
    refine ⟨{ shutdown, phase := .built bind serve }, ?_, .built⟩
    simp only [Status.next?, hserver]
  | @built bind serve =>
    refine ⟨{ shutdown, phase := .attempting 1 bind serve }, ?_, .attempting⟩
    simp only [Status.next?, haddress]
  | @attempting attempts bind serve =>
    refine ⟨{ shutdown, phase := .serving serve }, ?_, .serving⟩
    simp only [Status.next?, haddress]

/-- Steps of other tasks between those of the start do not keep a first attempt from success. -/
theorem serving_of_ahead {s : Status} {events own : List Event}
    (hforeign : ∀ step, .other step ∈ events → isForeign step = true)
    (hown : events.filter Event.isOwn = own) (hahead : s.phase.Ahead own) :
    ∃ s' serve, s.run? config env events = some s' ∧ s'.phase = .serving serve := by
  induction events generalizing s own with
  | nil =>
    subst hown
    obtain ⟨shutdown, phase⟩ := s
    cases hahead
    exact ⟨_, _, rfl, rfl⟩
  | cons e events ih =>
    have hnext : ∃ next, s.next? config env e = some next ∧
        next.phase.Ahead (events.filter Event.isOwn) := by
      cases hmine : e.isOwn with
      | true =>
        rw [List.filter_cons_of_pos hmine] at hown
        subst hown
        exact next?_of_ahead hserver haddress hahead
      | false =>
        rw [List.filter_cons_of_neg (by simp [hmine])] at hown
        subst hown
        cases e with
        | other step =>
          refine ⟨{ s with shutdown := (s.shutdown.step step).1 }, ?_, hahead⟩
          simp [Status.next?, hforeign step List.mem_cons_self]
        | _ => cases hmine
    obtain ⟨next, hnext, hahead⟩ := hnext
    obtain ⟨s', serve, hrun, hserving⟩ :=
      ih (fun step hstep => hforeign step (List.mem_cons_of_mem e hstep)) rfl hahead
    refine ⟨s', serve, ?_, hserving⟩
    rw [Status.run?, hnext]
    exact hrun

end FirstAttempt

end Startup

/-! ## The law -/

/-- No order of steps loses a shutdown. Let the waits between attempts have a length, and let other
tasks trigger the shutdown and make and end handles of their own in any order, while the handle of
the caller lives. A start ends without an error only after a trigger. Behind a trigger, one
attempt begins at most. Once there was a trigger, the signal that is watched is ready whenever the
start waits between two attempts or serves. A trigger at any moment before the end of a first
attempt does not keep the attempt from success; the server then serves, and its signal is
ready. -/
theorem no_order_of_steps_loses_a_shutdown (config : ServeConfig) (env : Proxy.Environment)
    (hdelay : 0 < config.listener.bindRetryDelayMs) :
    (∀ (events : List Startup.Event) (s : Startup.Status),
      Startup.Status.run? config env {} events = some s →
      (s.phase = .finished → Startup.TriggeredIn config env {} events) ∧
      (∀ earlier later, events = earlier ++ later → Startup.TriggeredIn config env {} earlier →
        later.countP Startup.Event.beginsAttempt ≤ 1) ∧
      (Startup.TriggeredIn config env {} events →
        (∀ attempts timerOver bind serve, s.phase = .waiting attempts timerOver bind serve →
          Startup.isReady s.shutdown bind = true) ∧
        ∀ serve, s.phase = .serving serve → Startup.isReady s.shutdown serve = true)) ∧
    (∀ (events : List Startup.Event) (server : Server) (address : SocketAddress),
      Server.create config env = .ok server → config.listener.address? = some address →
      (∀ step, .other step ∈ events → Startup.isForeign step = true) →
      events.filter Startup.Event.isOwn =
        [.subscribe, .subscribe, .build, .attempt, .attempted none] →
      ∃ s serve, Startup.Status.run? config env {} events = some s ∧ s.phase = .serving serve ∧
        (Startup.TriggeredIn config env {} events → Startup.isReady s.shutdown serve = true)) := by
  -- a trigger in the course of a run is the only thing that makes a signal ready
  have hready : ∀ (events : List Startup.Event) (s : Startup.Status),
      Startup.Status.run? config env {} events = some s →
      Startup.TriggeredIn config env {} events → ∀ signal ∈ s.phase.signals,
        Startup.isReady s.shutdown signal = true := by
    intro events s h htriggered signal hsignal
    obtain ⟨hsound, hiff⟩ := Startup.triggered_of_run? Startup.sound_initial h
    exact (hsound.isReady_iff (hsound.signals signal hsignal)).mpr (hiff.mpr (.inr htriggered))
  refine ⟨fun events s h => ⟨fun hfinished => ?_, ?_, fun htriggered => ⟨?_, ?_⟩⟩, ?_⟩
  · obtain ⟨hsound, hiff⟩ := Startup.triggered_of_run? Startup.sound_initial h
    exact (hiff.mp (hsound.finished hfinished)).resolve_left (by decide)
  · rintro earlier later rfl htriggered
    rw [Startup.run?_append] at h
    obtain ⟨mid, hmid, hlater⟩ := Option.bind_eq_some_iff.mp h
    obtain ⟨hsound, hiff⟩ := Startup.triggered_of_run? Startup.sound_initial hmid
    have hleft := Startup.attemptsLeft_of_run? hdelay hsound (hiff.mpr (.inr htriggered)) hlater
    have hone := mid.phase.attemptsLeft_le
    omega
  · intro attempts timerOver bind serve hphase
    exact hready events s h htriggered bind (by simp [hphase, Startup.Phase.signals])
  · intro serve hphase
    exact hready events s h htriggered serve (by simp [hphase, Startup.Phase.signals])
  · intro events server address hserver haddress hforeign hown
    obtain ⟨s, serve, hrun, hserving⟩ :=
      Startup.serving_of_ahead hserver haddress (s := {}) hforeign hown .entered
    refine ⟨s, serve, hrun, hserving, fun htriggered => ?_⟩
    exact hready events s hrun htriggered serve (by simp [hserving, Startup.Phase.signals])

/-- A clone of the handle triggers the shutdown during a first attempt, which fails, and ends. -/
def triggerByClone : List Startup.Event :=
  [.subscribe, .other (.clone 0), .subscribe, .build, .attempt, .other (.trigger 1),
    .other (.drop 1), .attempted (some .inUse)]

/-- The shutdown is triggered before anything else, and the first attempt succeeds. -/
def earlyTrigger : List Startup.Event :=
  [.other (.trigger 0), .subscribe, .subscribe, .build, .attempt, .attempted none]

/-- A start ends after the trigger of a clone, and a server that was stopped before it started
serves and knows that it should stop. -/
theorem a_clone_stops_a_start_and_an_early_trigger_is_known :
    (∃ s, Startup.Status.run? {} [] {} triggerByClone = some s ∧ s.phase = .finished ∧
      Startup.TriggeredIn {} [] {} triggerByClone) ∧
    ∃ s serve, Startup.Status.run? {} [] {} earlyTrigger = some s ∧ s.phase = .serving serve ∧
      Startup.isReady s.shutdown serve = true := by
  obtain ⟨hruns, hserves⟩ := no_order_of_steps_loses_a_shutdown {} [] (by decide)
  have hclone : ∃ s, Startup.Status.run? {} [] {} triggerByClone = some s ∧
      s.phase = .finished := ⟨_, rfl, rfl⟩
  have hearly : Startup.TriggeredIn {} [] {} earlyTrigger :=
    ⟨[], .other (.trigger 0), _, {}, rfl, rfl, 0, rfl, by decide⟩
  obtain ⟨s, hrun, hfinished⟩ := hclone
  refine ⟨⟨s, hrun, hfinished, (hruns _ s hrun).1 hfinished⟩, ?_⟩
  obtain ⟨server, hserver⟩ : ∃ server, Server.create {} [] = .ok server := ⟨_, rfl⟩
  obtain ⟨address, haddress⟩ : ∃ address, ({} : ServeConfig).listener.address? = some address :=
    ⟨_, rfl⟩
  obtain ⟨s', serve, hrun', hserving, hknown⟩ := hserves earlyTrigger server address hserver
    haddress (by simp [earlyTrigger, Startup.isForeign]) rfl
  exact ⟨s', serve, hrun', hserving, hknown hearly⟩

end IsoServer
