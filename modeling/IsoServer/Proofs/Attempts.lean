-- Attempts and their number. Attempts go on until one succeeds, a shutdown ends a wait, or the
-- limit is reached, and which of these comes first can be told from what happens at each attempt
-- and at each wait. A limit of zero counts as one, and below a limit the counter never starts
-- again.
import Mathlib
import IsoServer.Lifecycle.Listener

namespace IsoServer.Listener

/-! ## Turns of the loop -/

/-- A turn of the loop that is reached, with the counter and the number of attempts before. -/
inductive Reaches (limit : Option UInt32) (given : Conditions) : UInt32 → Nat → Prop
  | start : Reaches limit given 0 0
  | next {attempts : UInt32} {index : Nat} : Reaches limit given attempts index →
      given.attempt index ≠ none → atLimit limit (attempts + 1) = false →
      given.wait index = .timer → Reaches limit given (attempts + 1) (index + 1)

/-- A turn of the loop that is the last, with what is recorded at its end. -/
inductive Stops (limit : Option UInt32) (given : Conditions) (attempts : UInt32) (index : Nat) :
    Record → Prop
  | bound : given.attempt index = none →
      Stops limit given attempts index ⟨.bound, index + 1, index⟩
  | exhausted {cause : BindFailure} : given.attempt index = some cause →
      atLimit limit (attempts + 1) = true →
      Stops limit given attempts index ⟨.exhausted (attempts + 1) cause, index + 1, index⟩
  | stopped : given.attempt index ≠ none → atLimit limit (attempts + 1) = false →
      given.wait index = .shutdown →
      Stops limit given attempts index ⟨.stopped, index + 1, index⟩

section Turns

variable {limit : Option UInt32} {given : Conditions} {rounds : Nat} {attempts : UInt32}
  {index : Nat} {record : Record}

theorem tryFrom_of_next (hattempt : given.attempt index ≠ none)
    (hlimit : atLimit limit (attempts + 1) = false) (hwait : given.wait index = .timer) :
    tryFrom limit given (rounds + 1) attempts index =
      tryFrom limit given rounds (attempts + 1) (index + 1) := by
  obtain ⟨cause, hcause⟩ := Option.ne_none_iff_exists'.mp hattempt
  rw [tryFrom]
  simp [hcause, hlimit, hwait]

theorem tryFrom_of_stops (h : Stops limit given attempts index record) :
    tryFrom limit given (rounds + 1) attempts index = some record := by
  rw [tryFrom]
  cases h with
  | bound hattempt => simp [hattempt]
  | exhausted hattempt hlimit => simp [hattempt, hlimit]
  | stopped hattempt hlimit hwait =>
    obtain ⟨cause, hcause⟩ := Option.ne_none_iff_exists'.mp hattempt
    simp [hcause, hlimit, hwait]

/-- Every turn is the last or leads to the next. -/
theorem stops_or_next (limit : Option UInt32) (given : Conditions) (attempts : UInt32)
    (index : Nat) :
    (∃ record, Stops limit given attempts index record) ∨
      (given.attempt index ≠ none ∧ atLimit limit (attempts + 1) = false ∧
        given.wait index = .timer) := by
  cases hattempt : given.attempt index with
  | none => exact .inl ⟨_, .bound hattempt⟩
  | some cause =>
    have hfails : given.attempt index ≠ none := by simp [hattempt]
    cases hlimit : atLimit limit (attempts + 1) with
    | true => exact .inl ⟨_, .exhausted hattempt hlimit⟩
    | false =>
      cases hwait : given.wait index with
      | timer => exact .inr ⟨by simp, rfl, rfl⟩
      | shutdown => exact .inl ⟨_, .stopped hfails hlimit hwait⟩

/-! ## Runs -/

/-- The attempts from the start go on as those from any turn that is reached. -/
theorem tryAll_of_reaches (h : Reaches limit given attempts index) (rounds : Nat) :
    tryAll limit given (index + rounds) = tryFrom limit given rounds attempts index := by
  induction h generalizing rounds with
  | start => rw [Nat.zero_add, tryAll]
  | next _ hattempt hlimit hwait ih =>
    rw [Nat.add_assoc, Nat.add_comm 1 rounds, ih, tryFrom_of_next hattempt hlimit hwait]

theorem stops_of_tryFrom (hreaches : Reaches limit given attempts index)
    (h : tryFrom limit given rounds attempts index = some record) :
    ∃ last count, Reaches limit given count last ∧ last < index + rounds ∧
      Stops limit given count last record := by
  induction rounds generalizing attempts index with
  | zero => cases h
  | succ rounds ih =>
    rcases stops_or_next limit given attempts index with
      ⟨ended, hstops⟩ | ⟨hattempt, hlimit, hwait⟩
    · rw [tryFrom_of_stops hstops] at h
      cases h
      exact ⟨index, attempts, hreaches, by omega, hstops⟩
    · rw [tryFrom_of_next hattempt hlimit hwait] at h
      obtain ⟨last, count, hlast, hbound, hstops⟩ :=
        ih (.next hreaches hattempt hlimit hwait) h
      exact ⟨last, count, hlast, by omega, hstops⟩

/-- What is recorded in the end comes from a turn that is reached and is the last, if there are
rounds enough to come there. -/
theorem tryAll_eq_some_iff :
    tryAll limit given rounds = some record ↔
      ∃ index attempts, Reaches limit given attempts index ∧ index < rounds ∧
        Stops limit given attempts index record := by
  constructor
  · intro h
    obtain ⟨index, attempts, hreaches, hbound, hstops⟩ := stops_of_tryFrom .start h
    exact ⟨index, attempts, hreaches, by omega, hstops⟩
  · rintro ⟨index, attempts, hreaches, hbound, hstops⟩
    obtain ⟨more, rfl⟩ := Nat.exists_eq_add_of_lt hbound
    rw [Nat.add_assoc, tryAll_of_reaches hreaches, tryFrom_of_stops hstops]

end Turns

/-! ## The counter and the limit -/

theorem atLimit_some {limit attempts : UInt32} :
    atLimit (some limit) attempts = true ↔ limit.toNat ≤ attempts.toNat := by
  simp [atLimit, UInt32.le_iff_toNat_le]

/-- The number of attempts that a limit allows: the first one is always made. -/
def allowed (limit : UInt32) : Nat := max 1 limit.toNat

theorem allowed_lt_size (limit : UInt32) : allowed limit < UInt32.size := by
  have hsize : limit.toNat < UInt32.size := limit.toNat_lt_size
  unfold allowed UInt32.size at *
  omega

/-- Another attempt is allowed if the limit, where there is one, is still ahead. -/
def Ahead (limit : Option UInt32) (made : Nat) : Prop := ∀ m, limit = some m → made < allowed m

section Counter

variable {limit : Option UInt32} {given : Conditions} {attempts : UInt32} {index : Nat}

/-- Below the limit, counting one more attempt adds one to the counter. -/
theorem toNat_next {m : UInt32} (hcount : attempts.toNat = index) (hahead : index < allowed m) :
    (attempts + 1).toNat = index + 1 := by
  have hsize := allowed_lt_size m
  rw [UInt32.toNat_add, UInt32.toNat_one, hcount]
  apply Nat.mod_eq_of_lt
  unfold UInt32.size at hsize
  omega

theorem atLimit_next_iff {m : UInt32} (hcount : attempts.toNat = index)
    (hahead : index < allowed m) :
    atLimit (some m) (attempts + 1) = true ↔ index + 1 = allowed m := by
  rw [atLimit_some, toNat_next hcount hahead]
  unfold allowed at *
  omega

/-- With a limit, every turn that is reached is below it, and the counter tells the attempts. -/
theorem Reaches.counts {m : UInt32} (h : Reaches (some m) given attempts index) :
    attempts.toNat = index ∧ index < allowed m := by
  -- along the turns: a turn goes on only if its own count is still below the limit
  induction h with
  | start =>
    refine ⟨rfl, ?_⟩
    unfold allowed
    omega
  | next _ _ hlimit _ ih =>
    obtain ⟨hcount, hahead⟩ := ih
    have hnot : _ ≠ allowed m := fun hlast => by
      rw [(atLimit_next_iff hcount hahead).mpr hlast] at hlimit
      cases hlimit
    exact ⟨toNat_next hcount hahead, Nat.lt_of_le_of_ne hahead hnot⟩

theorem Reaches.ahead (h : Reaches limit given attempts index) : Ahead limit index := by
  rintro m rfl
  exact h.counts.2

/-- A turn that fails is at the limit if its attempt is the last that is allowed. -/
theorem Reaches.atLimit_iff (h : Reaches limit given attempts index) :
    atLimit limit (attempts + 1) = true ↔ ∃ m, limit = some m ∧ index + 1 = allowed m := by
  cases limit with
  | none => simp [atLimit]
  | some m =>
    obtain ⟨hcount, hahead⟩ := h.counts
    rw [atLimit_next_iff hcount hahead]
    simp

theorem Reaches.not_atLimit_iff (h : Reaches limit given attempts index) :
    atLimit limit (attempts + 1) = false ↔ Ahead limit (index + 1) := by
  rw [← Bool.not_eq_true, h.atLimit_iff]
  constructor
  · intro hnot m hm
    exact Nat.lt_of_le_of_ne (h.ahead m hm) fun hlast => hnot ⟨m, hm, hlast⟩
  · rintro hahead ⟨m, hm, hlast⟩
    exact Nat.ne_of_lt (hahead m hm) hlast

/-! ## What happens at each turn -/

/-- An attempt fails, and the wait behind it runs its time. -/
def Repeats (given : Conditions) (k : Nat) : Prop := given.attempt k ≠ none ∧ given.wait k = .timer

theorem reaches_iff :
    (∃ attempts, Reaches limit given attempts index) ↔
      (∀ k < index, Repeats given k) ∧ Ahead limit index := by
  constructor
  · rintro ⟨attempts, h⟩
    refine ⟨?_, h.ahead⟩
    induction h with
    | start => intro k hk; omega
    | next _ hattempt _ hwait ih =>
      intro k hk
      rcases Nat.lt_succ_iff_lt_or_eq.mp hk with hk | rfl
      · exact ih k hk
      · exact ⟨hattempt, hwait⟩
  · rintro ⟨hrepeats, hahead⟩
    induction index with
    | zero => exact ⟨0, .start⟩
    | succ index ih =>
      obtain ⟨attempts, hreaches⟩ := ih (fun k hk => hrepeats k (by omega))
        fun m hm => Nat.lt_of_succ_lt (hahead m hm)
      obtain ⟨hattempt, hwait⟩ := hrepeats index (by omega)
      exact ⟨attempts + 1, .next hreaches hattempt (hreaches.not_atLimit_iff.mpr hahead) hwait⟩

end Counter

/-! ## The three endings -/

section Endings

variable {limit : Option UInt32} {given : Conditions} {rounds made waits : Nat}

/-- The first success ends the attempts, if it is not past the limit. -/
theorem tryAll_bound_iff :
    tryAll limit given rounds = some ⟨.bound, made, waits⟩ ↔
      made = waits + 1 ∧ waits < rounds ∧ (∀ k < waits, Repeats given k) ∧
        given.attempt waits = none ∧ Ahead limit waits := by
  rw [tryAll_eq_some_iff]
  constructor
  · rintro ⟨index, attempts, hreaches, hbound, hstops⟩
    obtain ⟨hrepeats, hahead⟩ := reaches_iff.mp ⟨attempts, hreaches⟩
    cases hstops with
    | bound hattempt => exact ⟨rfl, hbound, hrepeats, hattempt, hahead⟩
  · rintro ⟨rfl, hbound, hrepeats, hattempt, hahead⟩
    obtain ⟨attempts, hreaches⟩ := reaches_iff.mpr ⟨hrepeats, hahead⟩
    exact ⟨waits, attempts, hreaches, hbound, .bound hattempt⟩

/-- The limit ends the attempts if all that it allows fail; it is reported as their number. -/
theorem tryAll_exhausted_iff {reported : UInt32} {cause : BindFailure} :
    tryAll limit given rounds = some ⟨.exhausted reported cause, made, waits⟩ ↔
      made = waits + 1 ∧ waits < rounds ∧ (∀ k < waits, Repeats given k) ∧
        given.attempt waits = some cause ∧
        ∃ m, limit = some m ∧ made = allowed m ∧ reported.toNat = made := by
  rw [tryAll_eq_some_iff]
  constructor
  · rintro ⟨index, attempts, hreaches, hbound, hstops⟩
    obtain ⟨hrepeats, -⟩ := reaches_iff.mp ⟨attempts, hreaches⟩
    cases hstops with
    | exhausted hattempt hlimit =>
      obtain ⟨m, rfl, hlast⟩ := hreaches.atLimit_iff.mp hlimit
      obtain ⟨hcount, hahead⟩ := hreaches.counts
      exact ⟨rfl, hbound, hrepeats, hattempt, m, rfl, hlast, toNat_next hcount hahead⟩
  · rintro ⟨rfl, hbound, hrepeats, hattempt, m, rfl, hlast, hreported⟩
    have hahead : Ahead (some m) waits := by
      intro limit hlimit
      cases hlimit
      omega
    obtain ⟨attempts, hreaches⟩ := reaches_iff.mpr ⟨hrepeats, hahead⟩
    obtain ⟨hcount, hbelow⟩ := hreaches.counts
    have hsame : attempts + 1 = reported :=
      UInt32.toNat_inj.mp ((toNat_next hcount hbelow).trans hreported.symm)
    have hlimit := hreaches.atLimit_iff.mpr ⟨m, rfl, hlast⟩
    rw [← hsame]
    exact ⟨waits, attempts, hreaches, hbound, .exhausted hattempt hlimit⟩

/-- A shutdown ends the attempts in the first wait that it ends, if the limit is still ahead. -/
theorem tryAll_stopped_iff :
    tryAll limit given rounds = some ⟨.stopped, made, waits⟩ ↔
      made = waits + 1 ∧ waits < rounds ∧ (∀ k < waits, Repeats given k) ∧
        given.attempt waits ≠ none ∧ given.wait waits = .shutdown ∧ Ahead limit made := by
  rw [tryAll_eq_some_iff]
  constructor
  · rintro ⟨index, attempts, hreaches, hbound, hstops⟩
    obtain ⟨hrepeats, -⟩ := reaches_iff.mp ⟨attempts, hreaches⟩
    cases hstops with
    | stopped hattempt hlimit hwait =>
      exact ⟨rfl, hbound, hrepeats, hattempt, hwait, hreaches.not_atLimit_iff.mp hlimit⟩
  · rintro ⟨rfl, hbound, hrepeats, hattempt, hwait, hahead⟩
    obtain ⟨attempts, hreaches⟩ :=
      reaches_iff.mpr ⟨hrepeats, fun m hm => Nat.lt_of_succ_lt (hahead m hm)⟩
    have hlimit := hreaches.not_atLimit_iff.mpr hahead
    exact ⟨waits, attempts, hreaches, hbound, .stopped hattempt hlimit hwait⟩

/-- An ending that is recorded stays as it is when more rounds are allowed. -/
theorem tryAll_mono {more : Nat} {record : Record} (hmore : rounds ≤ more)
    (h : tryAll limit given rounds = some record) : tryAll limit given more = some record := by
  rw [tryAll_eq_some_iff] at *
  obtain ⟨index, attempts, hreaches, hbound, hstops⟩ := h
  exact ⟨index, attempts, hreaches, Nat.lt_of_lt_of_le hbound hmore, hstops⟩

end Endings

/-! ## Results -/

/-- What listening on an address gives, by the ending of the attempts. -/
def Ending.result (address : SocketAddress) : Ending → Except Error (Option SocketAddress)
  | .bound => .ok (some address)
  | .exhausted attempts cause => .error (.attemptsExhausted address attempts cause)
  | .stopped => .ok none

/-- The call returns a result, after a number of attempts and of waits that ran their time. -/
def Returns (config : ListenerConfig) (given : Conditions)
    (result : Except Error (Option SocketAddress)) (attempts waits : Nat) : Prop :=
  ∃ rounds ending, bind config given rounds = some result ∧
    tryAll config.maxBindAttempts given rounds = some ⟨ending, attempts, waits⟩

section Results

variable {config : ListenerConfig} {address : SocketAddress}
  (haddress : config.address? = some address) {given : Conditions} {rounds : Nat}
  {result : Except Error (Option SocketAddress)}

include haddress

theorem bind_eq_some_iff :
    bind config given rounds = some result ↔
      ∃ record, tryAll config.maxBindAttempts given rounds = some record ∧
        record.ending.result address = result := by
  unfold bind
  rw [haddress]
  simp only [Option.map_eq_some_iff]
  refine exists_congr fun record => and_congr_right fun _ => ?_
  cases record.ending <;> rfl

theorem exists_returns_iff :
    (∃ rounds, bind config given rounds = some result) ↔
      ∃ made waits, Returns config given result made waits := by
  constructor
  · rintro ⟨rounds, h⟩
    obtain ⟨⟨ending, made, waits⟩, htried, -⟩ := (bind_eq_some_iff haddress).mp h
    exact ⟨made, waits, rounds, ending, h, htried⟩
  · rintro ⟨made, waits, rounds, ending, h, -⟩
    exact ⟨rounds, h⟩

/-- More rounds than it takes change nothing. -/
theorem bind_mono {more : Nat} (hmore : rounds ≤ more)
    (h : bind config given rounds = some result) : bind config given more = some result := by
  obtain ⟨record, htried, hresult⟩ := (bind_eq_some_iff haddress).mp h
  exact (bind_eq_some_iff haddress).mpr ⟨record, tryAll_mono hmore htried, hresult⟩

variable {made waits : Nat}

theorem returns_iff :
    Returns config given result made waits ↔
      ∃ rounds ending, ending.result address = result ∧
        tryAll config.maxBindAttempts given rounds = some ⟨ending, made, waits⟩ := by
  unfold Returns
  refine exists_congr fun rounds => exists_congr fun ending => and_congr_left fun htried => ?_
  rw [bind_eq_some_iff haddress, htried]
  simp

theorem returns_bound_iff {listener : SocketAddress} :
    Returns config given (.ok (some listener)) made waits ↔
      listener = address ∧ made = waits + 1 ∧ (∀ k < waits, Repeats given k) ∧
        given.attempt waits = none ∧
        ∀ m, config.maxBindAttempts = some m → made ≤ max 1 m.toNat := by
  rw [returns_iff haddress]
  constructor
  · rintro ⟨rounds, ending, hresult, htried⟩
    cases ending <;> cases hresult
    obtain ⟨hmade, -, hrepeats, hattempt, hahead⟩ := tryAll_bound_iff.mp htried
    exact ⟨rfl, hmade, hrepeats, hattempt, fun m hm => hmade ▸ hahead m hm⟩
  · rintro ⟨rfl, rfl, hrepeats, hattempt, hahead⟩
    exact ⟨waits + 1, .bound, rfl, tryAll_bound_iff.mpr
      ⟨rfl, Nat.lt_succ_self waits, hrepeats, hattempt, hahead⟩⟩

theorem returns_error_iff {e : Error} :
    Returns config given (.error e) made waits ↔
      ∃ m reported cause, config.maxBindAttempts = some m ∧ made = max 1 m.toNat ∧
        made = waits + 1 ∧ (∀ k < waits, Repeats given k) ∧ given.attempt waits = some cause ∧
        e = .attemptsExhausted address reported cause ∧ reported.toNat = made := by
  rw [returns_iff haddress]
  constructor
  · rintro ⟨rounds, ending, hresult, htried⟩
    cases ending <;> cases hresult
    obtain ⟨hmade, -, hrepeats, hattempt, m, hm, hlast, hreported⟩ :=
      tryAll_exhausted_iff.mp htried
    exact ⟨m, _, _, hm, hlast, hmade, hrepeats, hattempt, rfl, hreported⟩
  · rintro ⟨m, reported, cause, hm, hlast, rfl, hrepeats, hattempt, rfl, hreported⟩
    exact ⟨waits + 1, .exhausted reported cause, rfl, tryAll_exhausted_iff.mpr
      ⟨rfl, Nat.lt_succ_self waits, hrepeats, hattempt, m, hm, hlast, hreported⟩⟩

theorem returns_stopped_iff :
    Returns config given (.ok none) made waits ↔
      made = waits + 1 ∧ (∀ k < waits, Repeats given k) ∧ given.attempt waits ≠ none ∧
        given.wait waits = .shutdown ∧
        ∀ m, config.maxBindAttempts = some m → made < max 1 m.toNat := by
  rw [returns_iff haddress]
  constructor
  · rintro ⟨rounds, ending, hresult, htried⟩
    cases ending <;> cases hresult
    obtain ⟨hmade, -, hrepeats, hattempt, hwait, hahead⟩ := tryAll_stopped_iff.mp htried
    exact ⟨hmade, hrepeats, hattempt, hwait, hahead⟩
  · rintro ⟨rfl, hrepeats, hattempt, hwait, hahead⟩
    exact ⟨waits + 1, .stopped, rfl, tryAll_stopped_iff.mpr
      ⟨rfl, Nat.lt_succ_self waits, hrepeats, hattempt, hwait, hahead⟩⟩

end Results

/-- Listening on a valid address returns the address if and only if an attempt succeeds before a
shutdown ends a wait and before the attempts that the limit allows are used up; it fails if and
only if these all fail, and reports their number and the last cause; and it returns without an
address if and only if a shutdown ends a wait before. The number of attempts and of waits is exact
in all three cases. With a limit the counter never starts again, and without one no attempt is the
last. -/
theorem attempts_end_by_success_limit_or_shutdown {config : ListenerConfig}
    {address : SocketAddress} (haddress : config.address? = some address) (given : Conditions) :
    (∀ result, (∃ rounds, bind config given rounds = some result) ↔
      ∃ made waits, Returns config given result made waits) ∧
    (∀ rounds more result, rounds ≤ more → bind config given rounds = some result →
      bind config given more = some result) ∧
    (∀ listener made waits, Returns config given (.ok (some listener)) made waits ↔
      listener = address ∧ made = waits + 1 ∧ (∀ k < waits, Repeats given k) ∧
        given.attempt waits = none ∧
        ∀ m, config.maxBindAttempts = some m → made ≤ max 1 m.toNat) ∧
    (∀ e made waits, Returns config given (.error e) made waits ↔
      ∃ m reported cause, config.maxBindAttempts = some m ∧ made = max 1 m.toNat ∧
        made = waits + 1 ∧ (∀ k < waits, Repeats given k) ∧ given.attempt waits = some cause ∧
        e = .attemptsExhausted address reported cause ∧ reported.toNat = made) ∧
    (∀ made waits, Returns config given (.ok none) made waits ↔
      made = waits + 1 ∧ (∀ k < waits, Repeats given k) ∧ given.attempt waits ≠ none ∧
        given.wait waits = .shutdown ∧
        ∀ m, config.maxBindAttempts = some m → made < max 1 m.toNat) ∧
    (∀ m attempts index, config.maxBindAttempts = some m →
      Reaches config.maxBindAttempts given attempts index →
        attempts.toNat = index ∧ attempts.toNat + 1 < UInt32.size) ∧
    (config.maxBindAttempts = none → ∀ rounds e, bind config given rounds ≠ some (.error e)) := by
  refine ⟨fun _ => exists_returns_iff haddress, fun _ _ _ hmore h => bind_mono haddress hmore h,
    fun _ _ _ => returns_bound_iff haddress, fun _ _ _ => returns_error_iff haddress,
    fun _ _ => returns_stopped_iff haddress, fun m attempts index hm hreaches => ?_,
    fun hnone rounds e h => ?_⟩
  · rw [hm] at hreaches
    obtain ⟨hcount, hahead⟩ := hreaches.counts
    have hsize := allowed_lt_size m
    exact ⟨hcount, by omega⟩
  · obtain ⟨made, waits, hreturns⟩ := (exists_returns_iff haddress).mp ⟨rounds, h⟩
    obtain ⟨m, -, -, hm, -⟩ := (returns_error_iff haddress).mp hreturns
    rw [hnone] at hm
    cases hm

/-- A listener on the own machine, with a limit. -/
def localListener (limit : UInt32) : ListenerConfig :=
  { host := "::1", port := 80, maxBindAttempts := some limit }

/-- A port that stays taken, with a shutdown in the second wait and ever after. -/
def takenUntilShutdown : Conditions where
  attempt _ := some .inUse
  wait k := if k = 0 then .timer else .shutdown

/-- With a limit of zero, the first attempt is the last, before any wait; with a limit of three, a
shutdown in the second wait comes before the last attempt. -/
theorem a_limit_of_zero_allows_one_attempt :
    ∃ address, (localListener 0).address? = some address ∧
      (localListener 3).address? = some address ∧
      Returns (localListener 0) takenUntilShutdown (.error (.attemptsExhausted address 1 .inUse))
        1 0 ∧
      Returns (localListener 3) takenUntilShutdown (.ok none) 2 1 := by
  have haddress : ∃ address, (localListener 0).address? = some address ∧
      (localListener 3).address? = some address := ⟨_, rfl, rfl⟩
  obtain ⟨address, hzero, hthree⟩ := haddress
  obtain ⟨-, -, -, hexhausted, -⟩ :=
    attempts_end_by_success_limit_or_shutdown hzero takenUntilShutdown
  obtain ⟨-, -, -, -, hstopped, -⟩ :=
    attempts_end_by_success_limit_or_shutdown hthree takenUntilShutdown
  refine ⟨address, hzero, hthree, (hexhausted _ _ _).mpr ?_, (hstopped _ _).mpr ?_⟩
  · exact ⟨0, 1, .inUse, rfl, rfl, rfl, fun k hk => by omega, rfl, rfl, rfl⟩
  · refine ⟨rfl, fun k hk => ?_, by simp [takenUntilShutdown], rfl, fun m hm => ?_⟩
    · obtain rfl : k = 0 := by omega
      exact ⟨by simp [takenUntilShutdown], rfl⟩
    · cases hm
      decide

end IsoServer.Listener
