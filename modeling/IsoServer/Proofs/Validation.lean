-- The check of a configuration is exact: it reports the rules that are broken, and no other. What
-- it reports of the host and of the user agent is just what would go wrong later; so a
-- configuration without faults fails to start only by running out of attempts.
import Mathlib
import IsoServer.Proofs.Characters
import IsoServer.Proofs.Dispatch
import IsoServer.Proofs.Isolation
import IsoServer.Proofs.Starting

namespace IsoServer

/-! ## User agents -/

/-- Whether no header field can carry a character: it is a control character of ASCII, the tab
apart. -/
def IsUnsendable (c : Char) : Prop := (c.toNat < 0x20 ∧ c ≠ '\t') ∨ c.toNat = 0x7F

namespace Headers

theorem isValueByte_iff {b : UInt8} :
    isValueByte b = true ↔ (0x20 ≤ b.toNat ∧ b.toNat ≠ 0x7F) ∨ b.toNat = 0x09 := by
  simp [isValueByte, UInt8.le_iff_toNat_le, ← UInt8.toNat_inj]

/-- The bytes of a character are value bytes unless the character is unsendable. -/
theorem all_encodeChar_iff {c : Char} :
    (String.utf8EncodeChar c).all isValueByte = true ↔ ¬ IsUnsendable c := by
  by_cases hc : c.toNat < 0x80
  · have htab : c = '\t' ↔ c.toNat = 0x09 := by
      rw [← Char.toNat_inj]
      rfl
    have hbyte : (UInt8.ofNat c.toNat).toNat = c.toNat :=
      UInt8.toNat_ofNat_of_lt' (Nat.lt_trans hc (by decide))
    rw [Bytes.encodeChar_of_lt hc]
    simp only [List.all_cons, List.all_nil, Bool.and_true, isValueByte_iff, hbyte, IsUnsendable,
      ne_eq, htab]
    omega
  · have hlarge : ¬ IsUnsendable c := by
      unfold IsUnsendable
      omega
    refine iff_of_true ?_ hlarge
    rw [List.all_eq_true]
    intro b hb
    have hhigh := Utf8.toNat_of_mem_encodeChar (Nat.le_of_not_lt hc) hb
    exact isValueByte_iff.mpr (.inl ⟨by omega, by omega⟩)

/-- A text can be sent in a header field if and only if all its characters can. -/
theorem isValue_ofString_iff {text : String} :
    isValue (Bytes.ofString text) = true ↔ ∀ c ∈ text.toList, ¬ IsUnsendable c := by
  unfold isValue Bytes.ofString
  simp only [List.all_flatMap, List.all_eq_true (l := text.toList), all_encodeChar_iff]

end Headers

/-! ## Faults -/

/-- The place of a fault in the order of reports. -/
def ConfigFault.rank : ConfigFault → Nat
  | .invalidHost _ => 0
  | .zeroRetryDelay => 1
  | .zeroBindAttempts => 2
  | .rootNotDirectory _ => 3
  | .invalidUserAgent => 4
  | .zeroReadTimeout => 5

/-- The rules, each under the fault that reports it: whether a configuration breaks one. -/
def ServeConfig.Breaks (fs : FileSystem) (who : Visitor) (c : ServeConfig) : ConfigFault → Prop
  | .invalidHost host =>
    host = c.listener.host ∧ ∀ ip, IpAddress.parse? (Bytes.ofString host) ≠ some ip
  | .zeroRetryDelay => c.listener.bindRetryDelayMs = 0
  | .zeroBindAttempts => c.listener.maxBindAttempts = some 0
  | .rootNotDirectory root => root = c.files.root ∧ fs.isDir who root = false
  | .invalidUserAgent => ∃ x ∈ c.proxy.userAgent.toList, IsUnsendable x
  | .zeroReadTimeout => c.proxy.readTimeoutSecs = 0

theorem ListenerConfig.address?_eq_none_iff {c : ListenerConfig} :
    c.address? = none ↔ ∀ ip, IpAddress.parse? (Bytes.ofString c.host) ≠ some ip := by
  simp [address?, Option.eq_none_iff_forall_ne_some]

theorem ProxyConfig.agentIsValue_eq_false_iff {c : ProxyConfig} :
    c.agentIsValue = false ↔ ∃ x ∈ c.userAgent.toList, IsUnsendable x := by
  rw [← Bool.not_eq_true, agentIsValue, Headers.isValue_ofString_iff]
  push Not
  rfl

namespace ServeConfig

variable {fs : FileSystem} {who : Visitor} {c : ServeConfig}

/-- A fault is reported if and only if its rule is broken. -/
theorem mem_faults_iff {f : ConfigFault} : f ∈ c.faults fs who ↔ c.Breaks fs who f := by
  have hreport : ∀ {broken : Prop} [Decidable broken] (x : ConfigFault),
      f ∈ (if broken then [x] else []) ↔ f = x ∧ broken := by
    intro broken _ x
    split_ifs with h <;> simp [h]
  unfold faults
  simp only [List.mem_append, hreport]
  cases f with
  | invalidHost host =>
    simp only [ConfigFault.invalidHost.injEq, reduceCtorEq, false_and, or_false,
      Option.isNone_iff_eq_none, ListenerConfig.address?_eq_none_iff, Breaks]
    exact and_congr_right fun hhost => by rw [hhost]
  | rootNotDirectory root =>
    simp only [ConfigFault.rootNotDirectory.injEq, reduceCtorEq, false_and, or_false, false_or,
      Bool.not_eq_true', Breaks]
    exact and_congr_right fun hroot => by rw [hroot]
  | invalidUserAgent => simp [Breaks, ← ProxyConfig.agentIsValue_eq_false_iff]
  | zeroRetryDelay | zeroBindAttempts | zeroReadTimeout => simp [Breaks]

/-- Faults are reported in order, each once. -/
theorem faults_pairwise : (c.faults fs who).Pairwise fun x y => x.rank < y.rank := by
  have hreport : ∀ (broken : Bool) (x : ConfigFault),
      List.Sublist (if broken then [x] else []) [x] := by
    intro broken x
    cases broken <;> simp
  have hall : List.Sublist (c.faults fs who)
      [.invalidHost c.listener.host, .zeroRetryDelay, .zeroBindAttempts,
        .rootNotDirectory c.files.root, .invalidUserAgent, .zeroReadTimeout] :=
    ((((((hreport _ _).append (hreport _ _)).append (hreport _ _)).append (hreport _ _)).append
      (hreport _ _)).append (hreport _ _))
  exact List.Pairwise.sublist hall (by simp [ConfigFault.rank])

theorem faults_eq_nil_iff : c.faults fs who = [] ↔ ∀ f, ¬ c.Breaks fs who f := by
  simp only [List.eq_nil_iff_forall_not_mem, mem_faults_iff]

end ServeConfig

/-! ## What goes wrong later -/

/-- A server cannot be set up if and only if its user agent cannot be sent. -/
theorem Server.create_fails_iff {config : ServeConfig} {env : Proxy.Environment} :
    (∃ e, create config env = .error e) ↔ config.proxy.agentIsValue = false := by
  cases hagent : config.proxy.agentIsValue with
  | true =>
    obtain ⟨server, hserver⟩ := exists_create hagent env
    simp [hserver]
  | false =>
    refine iff_of_true ⟨.client, ?_⟩ rfl
    unfold create Proxy.Client.create?
    rw [hagent]
    rfl

namespace Listener

variable {config : ListenerConfig} {given : Conditions} {rounds : Nat}

/-- The address is refused if and only if there is none, whatever becomes of the attempts. -/
theorem bind_invalidAddress_iff :
    (∃ host, bind config given rounds = some (.error (.invalidAddress host))) ↔
      config.address? = none := by
  unfold bind
  cases haddress : config.address? with
  | none => simp
  | some address =>
    simp only [reduceCtorEq, iff_false, not_exists]
    intro host h
    obtain ⟨record, -, hrecord⟩ := Option.map_eq_some_iff.mp h
    cases hending : record.ending <;> simp [hending] at hrecord

/-- If there is an address and the limit is not zero, then a failure reports that all attempts up
to the limit failed. -/
theorem exhausts_of_bind {e : Error} (haddress : config.address? ≠ none)
    (hzero : config.maxBindAttempts ≠ some 0) (h : bind config given rounds = some (.error e)) :
    ∃ limit address cause, config.maxBindAttempts = some limit ∧
      e = .attemptsExhausted address limit cause ∧ Exhausts given limit cause := by
  obtain ⟨address, haddress⟩ := Option.ne_none_iff_exists'.mp haddress
  simp only [bind, haddress] at h
  obtain ⟨record, htried, hrecord⟩ := Option.map_eq_some_iff.mp h
  cases hending : record.ending with
  | bound => simp [hending] at hrecord
  | stopped => simp [hending] at hrecord
  | exhausted attempts cause =>
    simp only [hending, Except.error.injEq] at hrecord
    obtain ⟨hlimit, hexhausts⟩ := exhausts_of_tryAll hzero htried hending
    exact ⟨attempts, address, cause, hlimit, hrecord.symm, hexhausts⟩

end Listener

/-- A start fails in the server or in the listener. -/
theorem Startup.start_error_cases {config : ServeConfig} {env : Proxy.Environment}
    {given : Listener.Conditions} {rounds : Nat} {e : Error}
    (h : start config env given rounds = some (.error e)) :
    (∃ cause, Server.create config env = .error cause) ∨
      ∃ cause, e = .listener cause ∧
        Listener.bind config.listener given rounds = some (.error cause) := by
  unfold start at h
  cases hserver : Server.create config env with
  | error cause => exact .inl ⟨cause, rfl⟩
  | ok server =>
    simp only [hserver] at h
    obtain ⟨result, hbind, hresult⟩ := Option.map_eq_some_iff.mp h
    cases result with
    | error cause =>
      cases hresult
      exact .inr ⟨cause, rfl, hbind⟩
    | ok address => cases hresult

/-! ## The law of the check -/

/-- The check reports the broken rules in order, each once. A server cannot be set up, and an
address is refused, just when the check says so. A configuration that passes fails to start only
when all attempts up to its limit have failed, and reports that limit; and among other tasks, too,
it fails in no other way. -/
theorem the_check_foresees_every_failure_but_the_limit (config : ServeConfig) (fs : FileSystem)
    (who : Visitor) :
    ((config.faults fs who).Pairwise fun x y => x.rank < y.rank) ∧
    (∀ f, f ∈ config.faults fs who ↔ config.Breaks fs who f) ∧
    (∀ env, (∃ e, Server.create config env = .error e) ↔
      .invalidUserAgent ∈ config.faults fs who) ∧
    (∀ given rounds,
      (∃ host, Listener.bind config.listener given rounds = some (.error (.invalidAddress host))) ↔
        .invalidHost config.listener.host ∈ config.faults fs who) ∧
    (config.faults fs who = [] →
      (∀ env given rounds e, Startup.start config env given rounds = some (.error e) →
        ∃ limit address cause, config.listener.maxBindAttempts = some limit ∧
          e = .listener (.attemptsExhausted address limit cause) ∧
          Listener.Exhausts given limit cause) ∧
      ∀ env events (s : Startup.Status) e,
        Startup.Status.run? config env {} events = some s → s.phase = .failed e →
          Startup.ReportsLimit config e) := by
  have hagent : .invalidUserAgent ∈ config.faults fs who ↔ config.proxy.agentIsValue = false :=
    ServeConfig.mem_faults_iff.trans ProxyConfig.agentIsValue_eq_false_iff.symm
  have hhost : .invalidHost config.listener.host ∈ config.faults fs who ↔
      config.listener.address? = none := by
    rw [ServeConfig.mem_faults_iff, ListenerConfig.address?_eq_none_iff]
    exact and_iff_right rfl
  refine ⟨ServeConfig.faults_pairwise, fun f => ServeConfig.mem_faults_iff,
    fun env => Server.create_fails_iff.trans hagent.symm,
    fun given rounds => Listener.bind_invalidAddress_iff.trans hhost.symm, fun hvalid => ?_⟩
  rw [hvalid] at hagent hhost
  have hserver : ∀ env e, Server.create config env ≠ .error e := by
    intro env e he
    exact List.not_mem_nil (hagent.mpr (Server.create_fails_iff.mp ⟨e, he⟩))
  have haddress : config.listener.address? ≠ none := fun h => List.not_mem_nil (hhost.mpr h)
  have hzero : config.listener.maxBindAttempts ≠ some 0 :=
    ServeConfig.faults_eq_nil_iff.mp hvalid .zeroBindAttempts
  refine ⟨fun env given rounds e h => ?_, fun env events s e =>
    Startup.reportsLimit_of_run? (hserver env) haddress hzero⟩
  rcases Startup.start_error_cases h with ⟨cause, hcause⟩ | ⟨cause, rfl, hbind⟩
  · exact absurd hcause (hserver env cause)
  · obtain ⟨limit, address, failure, hlimit, rfl, hexhausts⟩ :=
      Listener.exhausts_of_bind haddress hzero hbind
    exact ⟨limit, address, failure, hlimit, rfl, hexhausts⟩

/-- A configuration with a limit, and a user agent with a tab and a letter beyond ASCII. -/
def limitedConfig : ServeConfig :=
  { listener := { host := "::1", maxBindAttempts := some 2 }, proxy := { userAgent := "zoë\t1" } }

/-- A port that another listener keeps. -/
def takenPort : Listener.Conditions := { attempt := fun _ => some .inUse, wait := fun _ => .timer }

/-- A configuration without faults runs out of attempts at its limit. -/
theorem a_taken_port_is_given_up_at_the_limit :
    limitedConfig.faults bareSystem .other = [] ∧
    ∃ e, Startup.start limitedConfig [] takenPort 2 = some (.error e) ∧
      ∃ limit address cause, limitedConfig.listener.maxBindAttempts = some limit ∧
        e = .listener (.attemptsExhausted address limit cause) ∧
        Listener.Exhausts takenPort limit cause := by
  have hvalid : limitedConfig.faults bareSystem .other = [] := by decide
  have hstart : ∃ e, Startup.start limitedConfig [] takenPort 2 = some (.error e) := ⟨_, rfl⟩
  obtain ⟨e, hstart⟩ := hstart
  obtain ⟨-, -, -, -, hfails⟩ :=
    the_check_foresees_every_failure_but_the_limit limitedConfig bareSystem .other
  exact ⟨hvalid, e, hstart, (hfails hvalid).1 _ _ _ _ hstart⟩

end IsoServer
