-- The command line takes the lists of its grammar and no others: at most one port, and two dashes
-- before or behind it. All else stops the program, with success only where help or the version
-- is asked for; and a port that is taken is all that differs from the default configuration.
import Mathlib
import IsoServer.CommandLine.Parse
import IsoServer.Proofs.Isolation
import IsoServer.Proofs.Ports

namespace IsoServer.CommandLine

/-! ## The grammar -/

/-- The lists of arguments that are taken, and the port that each one gives. -/
inductive Accepts : List String → Option UInt16 → Prop
  | nothing : Accepts [] none
  | dashes : Accepts ["--"] none
  | value {v : String} {port : UInt16} (h : Denotes v port) (hdash : v.toList.head? ≠ some '-') :
      Accepts [v] (some port)
  | valueDashes {v : String} {port : UInt16} (h : Denotes v port)
      (hdash : v.toList.head? ≠ some '-') : Accepts [v, "--"] (some port)
  | dashesValue {v : String} {port : UInt16} (h : Denotes v port) : Accepts ["--", v] (some port)

/-- The options that ask for something to be printed. A long one stands alone, and of several short
ones the first counts. -/
inductive AsksFor : String → Stop → Prop
  | help : AsksFor "--help" .help
  | version : AsksFor "--version" .version
  | shortHelp (rest : List Char) : AsksFor (String.ofList ('-' :: 'h' :: rest)) .help
  | shortVersion (rest : List Char) : AsksFor (String.ofList ('-' :: 'V' :: rest)) .version

/-- The lists of arguments that ask for something to be printed: with nothing but a port in front of
the option, and anything behind it. -/
inductive Prints : List String → Stop → Prop
  | first {arg : String} {stop : Stop} (h : AsksFor arg stop) (rest : List String) :
      Prints (arg :: rest) stop
  | afterPort {v arg : String} {port : UInt16} {stop : Stop} (hv : Denotes v port)
      (hdash : v.toList.head? ≠ some '-') (h : AsksFor arg stop) (rest : List String) :
      Prints (v :: arg :: rest) stop

/-! ## One argument -/

/-- An argument that goes on behind a dash, other than two dashes alone. -/
def IsOption (arg : String) : Prop := arg ≠ "--" ∧ ∃ c cs, arg.toList = '-' :: c :: cs

/-- An argument with nothing behind a dash. -/
def IsValue (arg : String) : Prop := ∀ c cs, arg.toList ≠ '-' :: c :: cs

theorem argument_cases (arg : String) : arg = "--" ∨ IsOption arg ∨ IsValue arg := by
  by_cases hdashes : arg = "--"
  · exact .inl hdashes
  · by_cases hgoes : ∃ c cs, arg.toList = '-' :: c :: cs
    · exact .inr (.inl ⟨hdashes, hgoes⟩)
    · exact .inr (.inr fun c cs h => hgoes ⟨c, cs, h⟩)

theorem not_isValue_of_isOption {arg : String} (h : IsOption arg) : ¬ IsValue arg :=
  fun hvalue => by
    obtain ⟨-, c, cs, hcs⟩ := h
    exact hvalue c cs hcs

/-- A port is a value just when it has no dash in front, since a dash alone is no port. -/
theorem isValue_iff {v : String} {port : UInt16} (h : Denotes v port) :
    IsValue v ↔ v.toList.head? ≠ some '-' := by
  constructor
  · intro hvalue hhead
    obtain ⟨rest, hrest⟩ := List.head?_eq_some_iff.mp hhead
    cases rest with
    | nil =>
      have hv : v = "-" := String.toList_inj.mp hrest
      rw [hv, ← readPort_eq_ok_iff] at h
      exact absurd h (by simp [show readPort "-" = .error .invalidDigit by decide])
    | cons c cs => exact hvalue c cs hrest
  · rintro hhead c cs hcs
    rw [hcs] at hhead
    exact hhead rfl

section Step

variable (value : Option String) (v : String) {arg : String} (rest : List String)

theorem parseFrom_dashes : parseFrom false value ("--" :: rest) = parseFrom true value rest :=
  rfl

/-- A value is kept if it is the first one, and reported if not. -/
theorem parseFrom_isValue (h : IsValue arg) :
    parseFrom false none (arg :: rest) = parseFrom false (some arg) rest ∧
      parseFrom false (some v) (arg :: rest) = .error (.unknownValue arg) := by
  constructor
  all_goals
    rw [parseFrom]
    simp only [Bool.false_eq_true, if_false]
    split
    case h_4 => rfl
    all_goals
      rename_i hcs
      exact absurd hcs (h _ _)

theorem parseFrom_value (h : IsValue arg) :
    parseFrom false none (arg :: rest) = parseFrom false (some arg) rest :=
  (parseFrom_isValue arg rest h).1

theorem parseFrom_second (h : IsValue arg) :
    parseFrom false (some v) (arg :: rest) = .error (.unknownValue arg) :=
  (parseFrom_isValue v rest h).2

/-- What stops at an option. -/
theorem parseFrom_option (h : IsOption arg) :
    ∃ stop, parseFrom false value (arg :: rest) = .error stop ∧
      ((∃ cs, arg.toList = '-' :: '-' :: cs ∧ stop = stopAtLong value cs) ∨
        ∃ c cs, arg.toList = '-' :: c :: cs ∧ c ≠ '-' ∧ stop = stopAtShort value c) := by
  obtain ⟨hdashes, c, cs, hcs⟩ := h
  unfold parseFrom
  simp only [Bool.false_eq_true, if_false]
  split
  · rename_i h
    exact absurd (String.toList_inj.mp h) hdashes
  · rename_i cs' _ h
    exact ⟨_, rfl, .inl ⟨cs', h, rfl⟩⟩
  · rename_i c' cs' _ hne h
    exact ⟨_, rfl, .inr ⟨c', cs', h, hne, rfl⟩⟩
  · rename_i h
    exact absurd hcs (h _ _)

theorem parseFrom_plain : parseFrom true none (arg :: rest) = parseFrom true (some arg) rest := rfl

theorem parseFrom_plain_second :
    parseFrom true (some v) (arg :: rest) = .error (.unknownValue arg) := rfl

end Step

/-! ## What is asked for -/

section Asking

variable {value : Option String} {ask stop : Stop} {arg : String} {cs : List Char}

theorem ne_of_exitCode (hask : ask.exitCode = 0) (hstop : stop.exitCode = 2) : stop ≠ ask := by
  rintro rfl
  omega

theorem exitCode_of_checkValue (h : checkValue value = .error stop) : stop.exitCode = 2 := by
  unfold checkValue at h
  split at h
  · cases h
  · split at h <;> cases h
    rfl

/-- An option has its way unless the value before it is bad. -/
theorem stopAt_eq_iff (hask : ask.exitCode = 0) :
    stopAt value stop = ask ↔ stop = ask ∧ ∃ port, checkValue value = .ok port := by
  unfold stopAt
  cases hvalue : checkValue value with
  | ok port => simp
  | error e =>
    simp only [reduceCtorEq, exists_false, and_false, iff_false]
    exact ne_of_exitCode hask (exitCode_of_checkValue hvalue)

theorem longStop?_of_mem (h : '=' ∈ cs) : longStop? (String.ofList cs) = none := by
  have hne (name : String) (hname : '=' ∉ name.toList) : (String.ofList cs == name) = false := by
    rw [beq_eq_false_iff_ne]
    rintro rfl
    exact hname (by simpa using h)
  unfold longStop?
  rw [hne "help" (by decide), hne "version" (by decide)]
  rfl

theorem stopAtLong_eq_iff (hask : ask.exitCode = 0) :
    stopAtLong value cs = ask ↔
      longStop? (String.ofList cs) = some ask ∧ ∃ port, checkValue value = .ok port := by
  by_cases hmem : '=' ∈ cs
  · -- a value behind an equals sign spoils every option
    have hgiven : ∃ name given, splitLong cs = (name, some given) := by
      cases hdrop : cs.dropWhile (· != '=') with
      | nil => exact absurd (List.dropWhile_eq_nil_iff.mp hdrop '=' hmem) (by decide)
      | cons c given => exact ⟨_, _, by rw [splitLong, hdrop]⟩
    obtain ⟨name, given, hsplit⟩ := hgiven
    rw [longStop?_of_mem hmem, stopAtLong, hsplit]
    simp only [reduceCtorEq, false_and, iff_false]
    cases longStop? name <;> exact ne_of_exitCode hask rfl
  · have hkeep : ∀ c ∈ cs, (c != '=') = true := fun c hc => by
      rw [bne_iff_ne]
      rintro rfl
      exact hmem hc
    have hsplit : splitLong cs = (String.ofList cs, none) := by
      rw [splitLong, List.dropWhile_eq_nil_iff.mpr hkeep, List.takeWhile_eq_self_iff.mpr hkeep]
    rw [stopAtLong, hsplit]
    cases hstop : longStop? (String.ofList cs) with
    | some stop => simp [hstop, stopAt_eq_iff hask]
    | none =>
      simp only [hstop, reduceCtorEq, false_and, iff_false]
      exact ne_of_exitCode hask rfl

theorem stopAtShort_eq_iff (hask : ask.exitCode = 0) {c : Char} :
    stopAtShort value c = ask ↔
      shortStop? c = some ask ∧ ∃ port, checkValue value = .ok port := by
  unfold stopAtShort
  cases hstop : shortStop? c with
  | some stop => simp [stopAt_eq_iff hask]
  | none =>
    simp only [reduceCtorEq, false_and, iff_false]
    exact ne_of_exitCode hask rfl

theorem eq_of_long (h : arg.toList = '-' :: '-' :: cs) {name : String}
    (hname : String.ofList cs = name) : arg = "--" ++ name := by
  rw [← String.toList_inj, h, ← hname]
  simp

theorem asksFor_iff_long (h : arg.toList = '-' :: '-' :: cs) :
    AsksFor arg ask ↔ longStop? (String.ofList cs) = some ask := by
  constructor
  · intro hasks
    cases hasks with
    | help => cases h; rfl
    | version => cases h; rfl
    | shortHelp rest => simp at h
    | shortVersion rest => simp at h
  · intro hstop
    unfold longStop? at hstop
    split_ifs at hstop with hhelp hversion
    · cases hstop
      rw [eq_of_long h (eq_of_beq hhelp)]
      exact .help
    · cases hstop
      rw [eq_of_long h (eq_of_beq hversion)]
      exact .version

theorem asksFor_iff_short {c : Char} (h : arg.toList = '-' :: c :: cs) (hc : c ≠ '-') :
    AsksFor arg ask ↔ shortStop? c = some ask := by
  constructor
  · intro hasks
    cases hasks with
    | help => cases h; exact absurd rfl hc
    | version => cases h; exact absurd rfl hc
    | shortHelp rest =>
      rw [String.toList_ofList] at h
      cases h
      rfl
    | shortVersion rest =>
      rw [String.toList_ofList] at h
      cases h
      rfl
  · intro hstop
    have harg : arg = String.ofList ('-' :: c :: cs) := by
      rw [← String.toList_inj, h, String.toList_ofList]
    unfold shortStop? at hstop
    split_ifs at hstop with hhelp hversion
    · cases hstop
      rw [harg, eq_of_beq hhelp]
      exact .shortHelp cs
    · cases hstop
      rw [harg, eq_of_beq hversion]
      exact .shortVersion cs

/-- An option prints what it asks for if no bad value stands before it. -/
theorem parseFrom_option_eq_iff (h : IsOption arg) (hask : ask.exitCode = 0)
    (rest : List String) :
    parseFrom false value (arg :: rest) = .error ask ↔
      AsksFor arg ask ∧ ∃ port, checkValue value = .ok port := by
  obtain ⟨stop, hstop, ⟨cs, hcs, rfl⟩ | ⟨c, cs, hcs, hc, rfl⟩⟩ := parseFrom_option value rest h
  · rw [hstop, Except.error.injEq, stopAtLong_eq_iff hask, asksFor_iff_long hcs]
  · rw [hstop, Except.error.injEq, stopAtShort_eq_iff hask, asksFor_iff_short hcs hc]

end Asking

/-! ## Whole lists -/

theorem checkValue_eq_ok_iff {v : String} {port : Option UInt16} :
    checkValue (some v) = .ok port ↔ ∃ p, port = some p ∧ Denotes v p := by
  unfold checkValue
  cases hread : readPort v with
  | ok p =>
    simp only [← readPort_eq_ok_iff, hread, Except.ok.injEq]
    exact ⟨fun h => ⟨p, h.symm, rfl⟩, fun ⟨q, hq, hp⟩ => by rw [hq, hp]⟩
  | error e => simp [← readPort_eq_ok_iff, hread]

theorem head?_of_isOption {arg : String} (h : IsOption arg) : arg.toList.head? = some '-' := by
  obtain ⟨-, c, cs, hcs⟩ := h
  rw [hcs]
  rfl

theorem not_isValue_dashes : ¬ IsValue "--" := fun h => h '-' [] rfl

variable {args : List String} {port : Option UInt16}

/-- Behind two dashes one port can follow. -/
theorem parseFrom_plain_eq_ok_iff : parseFrom true none args = .ok port ↔
    (args = [] ∧ port = none) ∨ ∃ v p, args = [v] ∧ port = some p ∧ Denotes v p := by
  match args with
  | [] => simp [parseFrom, checkValue, eq_comm]
  | [v] =>
    rw [parseFrom_plain]
    change checkValue (some v) = _ ↔ _
    simp [checkValue_eq_ok_iff]
  | v :: w :: rest =>
    rw [parseFrom_plain, parseFrom_plain_second]
    simp

/-- Behind a value nothing but two dashes can follow. -/
theorem parseFrom_behind_eq_ok_iff {v : String} : parseFrom false (some v) args = .ok port ↔
    (args = [] ∨ args = ["--"]) ∧ ∃ p, port = some p ∧ Denotes v p := by
  cases args with
  | nil =>
    change checkValue (some v) = _ ↔ _
    simp [checkValue_eq_ok_iff]
  | cons arg rest =>
    rcases argument_cases arg with rfl | hoption | hvalue
    · rw [parseFrom_dashes]
      cases rest with
      | nil =>
        change checkValue (some v) = _ ↔ _
        simp [checkValue_eq_ok_iff]
      | cons w rest => simp [parseFrom_plain_second]
    · obtain ⟨stop, hstop, -⟩ := parseFrom_option (some v) rest hoption
      simp [hstop, hoption.1]
    · have hdashes : arg ≠ "--" := fun h => not_isValue_dashes (h ▸ hvalue)
      simp [parseFrom_second v rest hvalue, hdashes]

/-- The lists that are taken are those of the grammar. -/
theorem parse_eq_ok_iff : parse args = .ok port ↔ Accepts args port := by
  unfold parse
  cases args with
  | nil =>
    refine ⟨fun h => ?_, fun h => ?_⟩
    · cases h
      exact .nothing
    · cases h
      rfl
  | cons arg rest =>
    rcases argument_cases arg with rfl | hoption | hvalue
    · rw [parseFrom_dashes, parseFrom_plain_eq_ok_iff]
      constructor
      · rintro (⟨rfl, rfl⟩ | ⟨v, p, rfl, rfl, hv⟩)
        · exact .dashes
        · exact .dashesValue hv
      · intro h
        cases h with
        | dashes => exact .inl ⟨rfl, rfl⟩
        | dashesValue hv => exact .inr ⟨_, _, rfl, rfl, hv⟩
        | value _ hdash | valueDashes _ hdash => exact absurd rfl hdash
    · obtain ⟨stop, hstop, -⟩ := parseFrom_option none rest hoption
      rw [hstop]
      refine ⟨fun h => (by cases h), fun h => ?_⟩
      cases h with
      | dashes | dashesValue => exact absurd rfl hoption.1
      | value _ hdash | valueDashes _ hdash => exact absurd (head?_of_isOption hoption) hdash
    · rw [parseFrom_value rest hvalue, parseFrom_behind_eq_ok_iff]
      constructor
      · rintro ⟨rfl | rfl, p, rfl, hv⟩
        · exact .value hv ((isValue_iff hv).mp hvalue)
        · exact .valueDashes hv ((isValue_iff hv).mp hvalue)
      · intro h
        cases h with
        | dashes | dashesValue => exact absurd hvalue not_isValue_dashes
        | value hv _ => exact ⟨.inl rfl, _, rfl, hv⟩
        | valueDashes hv _ => exact ⟨.inr rfl, _, rfl, hv⟩

theorem AsksFor.isOption {arg : String} {ask : Stop} (h : AsksFor arg ask) : IsOption arg := by
  have hshort {c : Char} (hc : c ≠ '-') (cs : List Char) :
      IsOption (String.ofList ('-' :: c :: cs)) := by
    refine ⟨fun h => ?_, c, cs, String.toList_ofList⟩
    rw [← String.toList_inj, String.toList_ofList] at h
    cases h
    exact hc rfl
  cases h with
  | help => exact ⟨by decide, _, _, rfl⟩
  | version => exact ⟨by decide, _, _, rfl⟩
  | shortHelp rest => exact hshort (by decide) rest
  | shortVersion rest => exact hshort (by decide) rest

theorem AsksFor.exitCode {arg : String} {ask : Stop} (h : AsksFor arg ask) : ask.exitCode = 0 := by
  cases h <;> rfl

section Printing

variable {ask : Stop} (hask : ask.exitCode = 0)
include hask

theorem checkValue_ne_error (value : Option String) : checkValue value ≠ .error ask :=
  fun h => ne_of_exitCode hask (exitCode_of_checkValue h) rfl

/-- Behind two dashes nothing is asked for. -/
theorem parseFrom_plain_ne_error (value : Option String) (args : List String) :
    parseFrom true value args ≠ .error ask := by
  have hbehind (v : String) (args : List String) : parseFrom true (some v) args ≠ .error ask := by
    cases args with
    | nil => exact checkValue_ne_error hask (some v)
    | cons arg rest =>
      rw [parseFrom_plain_second, ne_eq, Except.error.injEq]
      exact ne_of_exitCode hask rfl
  cases value with
  | some v => exact hbehind v args
  | none =>
    cases args with
    | nil => exact checkValue_ne_error hask none
    | cons arg rest => exact hbehind arg rest

/-- Behind a value something is asked for by an option next to it, if the value is a port. -/
theorem parseFrom_behind_eq_error_iff {v : String} :
    parseFrom false (some v) args = .error ask ↔
      (∃ p, Denotes v p) ∧ ∃ arg rest, args = arg :: rest ∧ AsksFor arg ask := by
  cases args with
  | nil =>
    refine iff_of_false (checkValue_ne_error hask (some v)) ?_
    rintro ⟨-, arg, rest, h, -⟩
    cases h
  | cons arg rest =>
    have hasks : (∃ arg' rest', arg :: rest = arg' :: rest' ∧ AsksFor arg' ask) ↔
        AsksFor arg ask := by simp
    rw [hasks]
    rcases argument_cases arg with rfl | hoption | hvalue
    · rw [parseFrom_dashes]
      exact iff_of_false (parseFrom_plain_ne_error hask _ _) fun h => h.2.isOption.1 rfl
    · rw [parseFrom_option_eq_iff hoption hask, and_comm]
      simp [checkValue_eq_ok_iff]
    · rw [parseFrom_second v rest hvalue, Except.error.injEq]
      exact iff_of_false (ne_of_exitCode hask rfl)
        fun h => not_isValue_of_isOption h.2.isOption hvalue

/-- The lists that ask for something to be printed. -/
theorem parse_eq_error_iff : parse args = .error ask ↔ Prints args ask := by
  unfold parse
  cases args with
  | nil =>
    refine iff_of_false (checkValue_ne_error hask none) fun h => ?_
    cases h
  | cons arg rest =>
    rcases argument_cases arg with rfl | hoption | hvalue
    · rw [parseFrom_dashes]
      refine iff_of_false (parseFrom_plain_ne_error hask _ _) fun h => ?_
      cases h with
      | first h => exact h.isOption.1 rfl
      | afterPort _ hdash => exact hdash rfl
    · rw [parseFrom_option_eq_iff hoption hask]
      constructor
      · exact fun h => .first h.1 rest
      · intro h
        cases h with
        | first h => exact ⟨h, none, rfl⟩
        | afterPort _ hdash => exact absurd (head?_of_isOption hoption) hdash
    · rw [parseFrom_value rest hvalue, parseFrom_behind_eq_error_iff hask]
      constructor
      · rintro ⟨⟨p, hv⟩, arg', rest', rfl, h⟩
        exact .afterPort hv ((isValue_iff hv).mp hvalue) h rest'
      · intro h
        cases h with
        | first h => exact absurd hvalue (not_isValue_of_isOption h.isOption)
        | afterPort hv _ h rest' => exact ⟨⟨_, hv⟩, _, _, rfl, h⟩

end Printing

/-! ## The configuration -/

/-- The default configuration with any port has no faults if the working directory is one. -/
theorem faults_configFor {fs : FileSystem} {who : Visitor} (h : fs.isDir who [0x2E] = true)
    (port : Option UInt16) : (configFor port).faults fs who = [] := by
  have hhost : IpAddress.parse? (Bytes.ofString "0.0.0.0") = some (.v4 ⟨0, 0, 0, 0⟩) := by decide
  have hagent : ({} : ProxyConfig).agentIsValue = true := by decide
  cases port <;> simp [configFor, ServeConfig.faults, ListenerConfig.address?, hhost, h, hagent]

theorem loadConfig_eq {fs : FileSystem} {who : Visitor} (h : fs.isDir who [0x2E] = true)
    (port : Option UInt16) :
    loadConfig fs who port = .ok { listener := { port := port.getD 8000 } } := by
  unfold loadConfig
  simp only [faults_configFor h]
  cases port <;> rfl

theorem exitCode_cases (stop : Stop) :
    (stop.exitCode = 0 ∧ (stop = .help ∨ stop = .version)) ∨ stop.exitCode = 2 := by
  cases stop <;> simp [Stop.exitCode]

/-! ## The law of the command line -/

/-- A list of arguments is taken if and only if it is in the grammar, with the port that it has
there, and what is loaded then is the default configuration with that port. Every other list stops
the program: with success if it asks for help or for the version, and with failure if not. -/
theorem the_command_line_takes_its_grammar (args : List String) :
    (∀ port, parse args = .ok port ↔ Accepts args port) ∧
    (∀ port, Accepts args port → ∀ (fs : FileSystem) (who : Visitor),
      fs.isDir who [0x2E] = true →
        loadConfig fs who port = .ok { listener := { port := port.getD 8000 } }) ∧
    ((∀ port, ¬ Accepts args port) → ∃ stop, parse args = .error stop ∧
      ((Prints args stop ∧ (stop = .help ∨ stop = .version) ∧ stop.exitCode = 0) ∨
        ((∀ ask, ¬ Prints args ask) ∧ stop.exitCode = 2))) := by
  refine ⟨fun port => parse_eq_ok_iff, fun port _ fs who h => loadConfig_eq h port, fun h => ?_⟩
  cases hparse : parse args with
  | ok port => exact absurd (parse_eq_ok_iff.mp hparse) (h port)
  | error stop =>
    refine ⟨stop, rfl, ?_⟩
    rcases exitCode_cases stop with ⟨hzero, hask⟩ | htwo
    · exact .inl ⟨(parse_eq_error_iff hzero).mp hparse, hask, hzero⟩
    · refine .inr ⟨fun ask hprints => ?_, htwo⟩
      have hzero : ask.exitCode = 0 := by
        cases hprints with
        | first h => exact h.exitCode
        | afterPort _ _ h => exact h.exitCode
      have hsame := (parse_eq_error_iff hzero).mpr hprints
      rw [hparse, Except.error.injEq] at hsame
      exact ne_of_exitCode hzero htwo hsame

/-- A port with a sign and leading zeros is taken, and help is printed behind a port. -/
theorem a_signed_port_is_taken_and_help_is_printed :
    Accepts ["+00080", "--"] (some 80) ∧ bareSystem.isDir .other [0x2E] = true ∧
    parse ["+00080", "--"] = .ok (some 80) ∧
    loadConfig bareSystem .other (some 80) = .ok { listener := { port := 80 } } ∧
    (∀ port, ¬ Accepts ["80", "-hx"] port) ∧
    ∃ stop, parse ["80", "-hx"] = .error stop ∧
      ((Prints ["80", "-hx"] stop ∧ (stop = .help ∨ stop = .version) ∧ stop.exitCode = 0) ∨
        ((∀ ask, ¬ Prints ["80", "-hx"] ask) ∧ stop.exitCode = 2)) := by
  obtain ⟨htaken, hload, -⟩ := the_command_line_takes_its_grammar ["+00080", "--"]
  obtain ⟨hrefused, -, hstops⟩ := the_command_line_takes_its_grammar ["80", "-hx"]
  have hport : Denotes "+00080" 80 :=
    ⟨⟨.plus, [0, 0, 0, 8, 0], by simp⟩, by decide, by decide⟩
  have haccepts : Accepts ["+00080", "--"] (some 80) := .valueDashes hport (by decide)
  have hdir : bareSystem.isDir .other [0x2E] = true := by decide
  have hnone : ∀ port, ¬ Accepts ["80", "-hx"] port := by
    intro port h
    have hhelp : parse ["80", "-hx"] = .error .help := by decide
    rw [← hrefused, hhelp] at h
    cases h
  exact ⟨haccepts, hdir, (htaken _).mpr haccepts, hload _ haccepts _ _ hdir, hnone, hstops hnone⟩

end IsoServer.CommandLine
