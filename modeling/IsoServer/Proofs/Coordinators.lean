-- What a step of a shutdown can do, and what that means for a coordinator and for a signal. Once
-- the tasks of a coordinator should stop they always should, and steps on owners of other
-- coordinators do not matter to it.
import Mathlib
import IsoServer.Lifecycle.Shutdown

namespace IsoServer.Shutdown

/-- The owner that a step is taken on. -/
def Step.owner? : Step → Option Nat
  | .clone i | .subscribe i | .trigger i | .drop i => some i
  | .create | .unsubscribe _ => none

namespace State

/-! ## What a step does -/

/-- Everything that a step can do. -/
inductive Effect (st : State) : Step → State → Note → Prop
  | created : Effect st .create
      { st with
        triggered := st.triggered ++ [false]
        owners := st.owners ++ [some st.triggered.length] } (.number st.owners.length)
  | cloned {i c : Nat} : st.owner? i = some c → Effect st (.clone i)
      { st with owners := st.owners ++ [some c] } (.number st.owners.length)
  | subscribed {i c : Nat} : st.owner? i = some c → Effect st (.subscribe i)
      { st with signals := st.signals ++ [some c] } (.number st.signals.length)
  | triggered {i c : Nat} : st.owner? i = some c → Effect st (.trigger i)
      { st with triggered := st.triggered.set c true } .done
  | dropped {i c : Nat} : st.owner? i = some c → Effect st (.drop i)
      { st with owners := st.owners.set i none } .done
  | unsubscribed {s c : Nat} : st.signal? s = some c → Effect st (.unsubscribe s)
      { st with signals := st.signals.set s none } .done
  | ownerMissing {step : Step} {i : Nat} : step.owner? = some i → st.owner? i = none →
      Effect st step st .missing
  | signalMissing {s : Nat} : st.signal? s = none → Effect st (.unsubscribe s) st .missing

theorem effect_step (st : State) (step : Step) :
    Effect st step (st.step step).1 (st.step step).2 := by
  cases step with
  | create => exact .created
  | clone i | subscribe i | trigger i | drop i =>
    cases h : st.owner? i with
    | none =>
      simp only [State.step, h]
      exact .ownerMissing rfl h
    | some c =>
      simp only [State.step, h]
      constructor
      exact h
  | unsubscribe s =>
    cases h : st.signal? s with
    | none =>
      simp only [State.step, h]
      exact .signalMissing h
    | some c =>
      simp only [State.step, h]
      exact .unsubscribed h

/-! ## Coordinators -/

theorem join_getElem?_concat (entries : List (Option Nat)) (entry : Option Nat) (i : Nat) :
    ((entries ++ [entry])[i]?).join = if i = entries.length then entry else (entries[i]?).join := by
  rw [List.getElem?_append]
  split_ifs with hlt heq heq
  · omega
  · rfl
  · simp [heq]
  · have hbeyond : entries.length ≤ i := Nat.le_of_not_lt hlt
    have hafter : 1 ≤ i - entries.length := by omega
    rw [List.getElem?_eq_none hbeyond, List.getElem?_eq_none (by simpa using hafter)]

theorem join_getElem?_set_none (entries : List (Option Nat)) (i j : Nat) :
    ((entries.set i none)[j]?).join = if i = j then none else (entries[j]?).join := by
  rw [List.getElem?_set]
  split_ifs <;> rfl

theorem lt_of_owner? {st : State} {i c : Nat} (h : st.owner? i = some c) :
    i < st.owners.length := by
  by_contra hge
  rw [owner?, List.getElem?_eq_none (Nat.le_of_not_lt hge)] at h
  cases h

theorem lt_of_signal? {st : State} {s c : Nat} (h : st.signal? s = some c) :
    s < st.signals.length := by
  by_contra hge
  rw [signal?, List.getElem?_eq_none (Nat.le_of_not_lt hge)] at h
  cases h

/-- The tasks of a coordinator should stop if it was triggered or no live owner is its owner. -/
theorem isOver_iff {st : State} {c : Nat} :
    st.isOver c = true ↔ st.triggered[c]? = some true ∨ ∀ i, st.owner? i ≠ some c := by
  have howner : some c ∈ st.owners ↔ ∃ i, st.owner? i = some c := by
    simp [List.mem_iff_getElem?, owner?, Option.join_eq_some_iff]
  have htriggered : (st.triggered[c]?).getD false = true ↔ st.triggered[c]? = some true := by
    cases st.triggered[c]? <;> simp
  simp only [isOver, Bool.or_eq_true, htriggered, Bool.not_eq_true', ← Bool.not_eq_true,
    List.contains_iff_mem, howner, not_exists, ne_eq]

section Over

variable {st st' : State} {step : Step} {note : Note} {c : Nat}
  (hknown : c < st.triggered.length) (h : Effect st step st' note)

include hknown h

theorem triggered_of_effect (htriggered : st.triggered[c]? = some true) :
    st'.triggered[c]? = some true := by
  cases h with
  | created => rwa [List.getElem?_append_left hknown]
  | triggered =>
    rw [List.getElem?_set]
    split_ifs <;> simp_all
  | cloned | subscribed | dropped | unsubscribed | ownerMissing | signalMissing => exact htriggered

/-- A step on an owner of another coordinator, or on no owner at all, changes nothing for a
coordinator. -/
theorem isOver_of_effect_elsewhere
    (helsewhere : ∀ j, step.owner? = some j → st.owner? j ≠ some c) :
    st'.isOver c = st.isOver c := by
  -- an entry of another coordinator is added to the owners
  have hadded : ∀ other i, other ≠ c →
      (((st.owners ++ [some other])[i]?).join ≠ some c ↔ st.owner? i ≠ some c) := by
    intro other i hother
    rw [join_getElem?_concat]
    split_ifs with hi
    · simp [hi, owner?, hother]
    · rfl
  rw [Bool.eq_iff_iff, isOver_iff, isOver_iff]
  cases h with
  | created =>
    rw [List.getElem?_append_left hknown]
    exact or_congr_right (forall_congr' fun i => hadded _ i hknown.ne')
  | @cloned j other howner =>
    have hother : other ≠ c := fun heq => helsewhere j rfl (heq ▸ howner)
    exact or_congr_right (forall_congr' fun i => hadded other i hother)
  | @triggered j other howner =>
    have hother : other ≠ c := fun heq => helsewhere j rfl (heq ▸ howner)
    rw [List.getElem?_set_ne hother]
    rfl
  | @dropped j other howner =>
    have hj : st.owner? j ≠ some c := helsewhere j rfl
    refine or_congr_right (forall_congr' fun i => ?_)
    rw [owner?, join_getElem?_set_none]
    split_ifs with hi
    · simpa [← hi] using hj
    · rfl
  | subscribed | unsubscribed | ownerMissing | signalMissing => rfl

/-- A coordinator whose tasks should stop stays so: an owner that could be cloned is there only if
it was triggered. -/
theorem isOver_of_effect (hover : st.isOver c = true) : st'.isOver c = true := by
  by_cases helsewhere : ∀ j, step.owner? = some j → st.owner? j ≠ some c
  · rw [isOver_of_effect_elsewhere hknown h helsewhere, hover]
  · push Not at helsewhere
    obtain ⟨j, -, howner⟩ := helsewhere
    rcases isOver_iff.mp hover with htriggered | hleft
    · exact isOver_iff.mpr (.inl (triggered_of_effect hknown h htriggered))
    · exact absurd howner (hleft j)

end Over

/-- Only its own end changes the coordinator of a signal. -/
theorem signal?_of_effect {st st' : State} {step : Step} {note : Note} {s : Nat}
    (hs : s < st.signals.length) (h : Effect st step st' note) :
    st'.signal? s = if step = .unsubscribe s then none else st.signal? s := by
  cases h with
  | subscribed => simp [signal?, join_getElem?_concat, hs.ne]
  | @unsubscribed t => simp [signal?, join_getElem?_set_none]
  | @ownerMissing _ i howner =>
    have hother : step ≠ .unsubscribe s := by
      rintro rfl
      cases howner
    rw [if_neg hother]
  | @signalMissing t hnone =>
    split_ifs with heq
    · cases heq
      exact hnone
    · rfl
  | created | cloned | triggered | dropped => simp [signal?]

theorem signals_length_le {st st' : State} {step : Step} {note : Note}
    (h : Effect st step st' note) : st.signals.length ≤ st'.signals.length := by
  cases h <;> simp

end State

end IsoServer.Shutdown
