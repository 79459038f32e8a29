-- How a start goes on. When attempts to get hold of the port end by the limit, every attempt up to
-- it has failed. Among other tasks a start moves in a few ways, listed here, and keeps within the
-- limit in all of them.
import Mathlib
import IsoServer.Lifecycle.Startup
import IsoServer.Proofs.Attempts

namespace IsoServer

/-! ## Attempts -/

namespace Listener

/-- All attempts up to a limit are made and fail, the last one for the given cause, and all waits
between them run their time. -/
structure Exhausts (given : Conditions) (limit : UInt32) (cause : BindFailure) : Prop where
  attempts : ∀ k < limit.toNat, given.attempt k ≠ none
  waits : ∀ k, k + 1 < limit.toNat → given.wait k = .timer
  last : given.attempt (limit.toNat - 1) = some cause

/-- A limit other than zero is positive. -/
theorem toNat_pos_of_limit {limit : Option UInt32} {m : UInt32} (hzero : limit ≠ some 0)
    (h : limit = some m) : 0 < m.toNat := by
  refine Nat.pos_of_ne_zero fun hm => hzero ?_
  rw [h, UInt32.toNat_inj.mp (hm.trans UInt32.toNat_zero.symm)]

/-- If the limit is not zero, then attempts that end by it are as many as it says. -/
theorem exhausts_of_tryAll {limit : Option UInt32} {given : Conditions} {rounds : Nat}
    {record : Record} {reported : UInt32} {cause : BindFailure} (hzero : limit ≠ some 0)
    (h : tryAll limit given rounds = some record)
    (hending : record.ending = .exhausted reported cause) :
    limit = some reported ∧ Exhausts given reported cause := by
  obtain ⟨ending, made, waits⟩ := record
  cases hending
  obtain ⟨rfl, -, hrepeats, hattempt, m, rfl, hlast, hreported⟩ := tryAll_exhausted_iff.mp h
  have hallowed : allowed m = m.toNat := Nat.max_eq_right (toNat_pos_of_limit hzero rfl)
  obtain rfl : m = reported := UInt32.toNat_inj.mp (by omega)
  refine ⟨rfl, fun k hk => ?_, fun k hk => (hrepeats k (by omega)).2, ?_⟩
  · rcases Nat.lt_or_eq_of_le (show k ≤ waits by omega) with hk | rfl
    · exact (hrepeats k hk).1
    · simp [hattempt]
  · rw [hreported, Nat.add_sub_cancel]
    exact hattempt

end Listener

/-! ## Moves -/

namespace Startup

/-- Everything that can happen to a start among other tasks, with the status behind it. -/
inductive Move (config : ServeConfig) (env : Proxy.Environment) (s : Status) :
    Event → Status → Prop
  | other {step : Shutdown.Step} : isForeign step = true →
      Move config env s (.other step) { s with shutdown := (s.shutdown.step step).1 }
  | subscribeFirst : s.phase = .entered →
      Move config env s .subscribe
        { shutdown := (s.shutdown.step (.subscribe 0)).1
          phase := .subscribedOnce s.shutdown.signals.length }
  | subscribeAgain {bind : Nat} : s.phase = .subscribedOnce bind →
      Move config env s .subscribe
        { shutdown := (s.shutdown.step (.subscribe 0)).1
          phase := .subscribed bind s.shutdown.signals.length }
  | buildFails {bind serve : Nat} {e : ServerError} : s.phase = .subscribed bind serve →
      Server.create config env = .error e →
      Move config env s .build { s with phase := .failed (.server e) }
  | builds {bind serve : Nat} {server : Server} : s.phase = .subscribed bind serve →
      Server.create config env = .ok server →
      Move config env s .build { s with phase := .built bind serve }
  | addressFails {bind serve : Nat} : s.phase = .built bind serve →
      config.listener.address? = none →
      Move config env s .attempt
        { s with phase := .failed (.listener (.invalidAddress config.listener.host)) }
  | firstAttempt {bind serve : Nat} {address : SocketAddress} : s.phase = .built bind serve →
      config.listener.address? = some address →
      Move config env s .attempt { s with phase := .attempting 1 bind serve }
  | binds {attempts : UInt32} {bind serve : Nat} {address : SocketAddress} :
      s.phase = .attempting attempts bind serve → config.listener.address? = some address →
      Move config env s (.attempted none) { s with phase := .serving serve }
  | exhausted {attempts : UInt32} {bind serve : Nat} {address : SocketAddress}
      {cause : Listener.BindFailure} : s.phase = .attempting attempts bind serve →
      config.listener.address? = some address →
      Listener.atLimit config.listener.maxBindAttempts attempts = true →
      Move config env s (.attempted (some cause))
        { s with phase := .failed (.listener (.attemptsExhausted address attempts cause)) }
  | stopsAtOnce {attempts : UInt32} {bind serve : Nat} {address : SocketAddress}
      {cause : Listener.BindFailure} : s.phase = .attempting attempts bind serve →
      config.listener.address? = some address →
      Listener.atLimit config.listener.maxBindAttempts attempts = false →
      config.listener.bindRetryDelayMs ≠ 0 → isReady s.shutdown bind = true →
      Move config env s (.attempted (some cause)) { s with phase := .finished }
  | waits {attempts : UInt32} {bind serve : Nat} {address : SocketAddress}
      {cause : Listener.BindFailure} : s.phase = .attempting attempts bind serve →
      config.listener.address? = some address →
      Listener.atLimit config.listener.maxBindAttempts attempts = false →
      config.listener.bindRetryDelayMs ≠ 0 → isReady s.shutdown bind = false →
      Move config env s (.attempted (some cause))
        { s with phase := .waiting attempts false bind serve }
  | waitsNoTime {attempts : UInt32} {bind serve : Nat} {address : SocketAddress}
      {cause : Listener.BindFailure} : s.phase = .attempting attempts bind serve →
      config.listener.address? = some address →
      Listener.atLimit config.listener.maxBindAttempts attempts = false →
      config.listener.bindRetryDelayMs = 0 →
      Move config env s (.attempted (some cause))
        { s with phase := .waiting attempts true bind serve }
  | timer {attempts : UInt32} {bind serve : Nat} : s.phase = .waiting attempts false bind serve →
      Move config env s .timer { s with phase := .waiting attempts true bind serve }
  | retries {attempts : UInt32} {bind serve : Nat} : s.phase = .waiting attempts true bind serve →
      Move config env s .retry { s with phase := .attempting (attempts + 1) bind serve }
  | stopsWaiting {attempts : UInt32} {timerOver : Bool} {bind serve : Nat} :
      s.phase = .waiting attempts timerOver bind serve → isReady s.shutdown bind = true →
      Move config env s .signal { s with phase := .finished }
  | stopsServing {serve : Nat} : s.phase = .serving serve → isReady s.shutdown serve = true →
      Move config env s .signal { s with phase := .finished }

/-- What happens is one of the moves. -/
theorem move_of_next? {config : ServeConfig} {env : Proxy.Environment} {s s' : Status} {e : Event}
    (h : s.next? config env e = some s') : Move config env s e s' := by
  cases e with
  | other step =>
    simp only [Status.next?] at h
    split_ifs at h with hforeign
    cases h
    exact .other hforeign
  | subscribe =>
    simp only [Status.next?] at h
    split at h
    · cases h
      exact .subscribeFirst ‹_›
    · cases h
      exact .subscribeAgain ‹_›
    · cases h
  | build =>
    simp only [Status.next?] at h
    split at h
    · split at h
      · cases h
        exact .buildFails ‹_› ‹_›
      · cases h
        exact .builds ‹_› ‹_›
    · cases h
  | attempt =>
    simp only [Status.next?] at h
    split at h
    · split at h
      · cases h
        exact .addressFails ‹_› ‹_›
      · cases h
        exact .firstAttempt ‹_› ‹_›
    · cases h
  | attempted failure =>
    simp only [Status.next?] at h
    split at h
    · rename_i hphase haddress
      cases failure with
      | none =>
        cases h
        exact .binds hphase haddress
      | some cause =>
        simp only at h
        split_ifs at h with hlimit hdelay hready
        · cases h
          exact .exhausted hphase haddress hlimit
        · cases h
          exact .waitsNoTime hphase haddress (by simpa using hlimit) (by simpa using hdelay)
        · cases h
          exact .stopsAtOnce hphase haddress (by simpa using hlimit) (by simpa using hdelay) hready
        · cases h
          exact .waits hphase haddress (by simpa using hlimit) (by simpa using hdelay)
            (by simpa using hready)
    · cases h
  | timer =>
    simp only [Status.next?] at h
    split at h
    · cases h
      exact .timer ‹_›
    · cases h
  | retry =>
    simp only [Status.next?] at h
    split at h
    · cases h
      exact .retries ‹_›
    · cases h
  | signal =>
    simp only [Status.next?] at h
    split at h
    · split_ifs at h with hready
      cases h
      exact .stopsWaiting ‹_› hready
    · split_ifs at h with hready
      cases h
      exact .stopsServing ‹_› hready
    · cases h

/-- What every move keeps, every run keeps. -/
theorem run?_induction {config : ServeConfig} {env : Proxy.Environment} {holds : Status → Prop}
    (hmove : ∀ s e s', holds s → Move config env s e s' → holds s') {s s' : Status}
    {events : List Event} (hstart : holds s) (h : s.run? config env events = some s') :
    holds s' := by
  induction events generalizing s with
  | nil =>
    cases h
    exact hstart
  | cons e rest ih =>
    obtain ⟨next, hnext, hrest⟩ := Option.bind_eq_some_iff.mp h
    exact ih (hmove s e next hstart (move_of_next? hnext)) hrest

/-! ## Within the limit -/

/-- Whether an error says that attempts came to an end at the limit. -/
def ReportsLimit (config : ServeConfig) (e : Error) : Prop :=
  ∃ limit address cause, config.listener.maxBindAttempts = some limit ∧
    e = .listener (.attemptsExhausted address limit cause)

/-- Attempts are counted up to the limit and waits come before it; a start that failed has
reached it. -/
def Phase.Within (config : ServeConfig) : Phase → Prop
  | .attempting attempts .. =>
    ∀ m, config.listener.maxBindAttempts = some m → attempts.toNat ≤ m.toNat
  | .waiting attempts .. =>
    ∀ m, config.listener.maxBindAttempts = some m → attempts.toNat < m.toNat
  | .failed e => ReportsLimit config e
  | _ => True

section Within

variable {config : ServeConfig} {env : Proxy.Environment}
  (hserver : ∀ e, Server.create config env ≠ .error e)
  (haddress : config.listener.address? ≠ none)
  (hzero : config.listener.maxBindAttempts ≠ some 0)

include hserver haddress hzero

theorem within_of_move {s s' : Status} {e : Event} (hwithin : s.phase.Within config)
    (h : Move config env s e s') : s'.phase.Within config := by
  cases h with
  | other => exact hwithin
  | subscribeFirst | subscribeAgain | builds | binds | stopsAtOnce | stopsWaiting | stopsServing =>
    trivial
  | buildFails _ hcreate => exact absurd hcreate (hserver _)
  | addressFails _ hnone => exact absurd hnone haddress
  | firstAttempt =>
    intro m hm
    exact Listener.toNat_pos_of_limit hzero hm
  | @exhausted attempts _ _ address cause hphase _ hlimit =>
    rw [hphase] at hwithin
    cases hmax : config.listener.maxBindAttempts with
    | none =>
      rw [hmax] at hlimit
      cases hlimit
    | some m =>
      rw [hmax, Listener.atLimit_some] at hlimit
      obtain rfl : attempts = m := UInt32.toNat_inj.mp (Nat.le_antisymm (hwithin m hmax) hlimit)
      exact ⟨attempts, address, cause, hmax, rfl⟩
  | waits _ _ hlimit | waitsNoTime _ _ hlimit =>
    intro m hm
    rw [hm, ← Bool.not_eq_true, Listener.atLimit_some] at hlimit
    exact Nat.lt_of_not_le hlimit
  | timer hphase =>
    rw [hphase] at hwithin
    exact hwithin
  | @retries attempts _ _ hphase =>
    rw [hphase] at hwithin
    intro m hm
    have hahead := hwithin m hm
    rw [UInt32.toNat_add, UInt32.toNat_one]
    exact (Nat.mod_le _ _).trans hahead

/-- A start that can fail in no other way fails by reaching the limit, whatever other tasks do. -/
theorem reportsLimit_of_run? {s : Status} {events : List Event} {e : Error}
    (h : Status.run? config env {} events = some s) (hfailed : s.phase = .failed e) :
    ReportsLimit config e := by
  have hstart : ({} : Status).phase.Within config := trivial
  have hwithin : s.phase.Within config :=
    run?_induction (fun _ _ _ hs => within_of_move hserver haddress hzero hs) hstart h
  rw [hfailed] at hwithin
  exact hwithin

end Within

end Startup

end IsoServer
