import ProgramRom.Proofs.CommandLine.Arguments
import ProgramRom.Proofs.CommandLine.Outcomes
import ProgramRom.Proofs.Memory.Exactness

/-! # Runs that estimate memories

The texts of the capacities are read while the arguments are: where one is no capacity, the arguments are refused. With
both capacities known, the estimate decides alone. It fails, or its report is printed, and no file is looked at. -/

namespace ProgramRom.CommandLine

open Log Memory

/-! ### Arguments -/

/-- The arguments that ask for an estimate. -/
def estimateArguments (progLen : String) (dataLen? : Option String) (scheme : Scheme) : List String :=
  Command.estimate.name :: ([longOption "prog-len" progLen] ++ (dataLen?.map (longOption "data-len")).toList ++
    [longOption "scheme" scheme.name])

/-- What is found in the arguments. -/
def estimateOccurrences (progLen : String) (dataLen? : Option String) (scheme : Scheme) : List Occurrence :=
  [⟨.progLen, .attached progLen⟩] ++ (dataLen?.map (⟨.dataLen, .attached ·⟩)).toList ++
    [⟨.scheme, .attached scheme.name⟩]

theorem scan_estimateArguments (progLen : String) (dataLen? : Option String) (scheme : Scheme) :
    Command.estimate.scope.scan (estimateArguments progLen dataLen? scheme).tail =
      ⟨estimateOccurrences progLen dataLen? scheme, .complete⟩ := by
  let Scans := Command.estimate.scope.Scans none
  have hprogLen : Scans [longOption "prog-len" progLen] [⟨.progLen, .attached progLen⟩] :=
    Scope.scans_longOption rfl rfl (by decide) _
  have hdataLen : Scans (dataLen?.map (longOption "data-len")).toList (dataLen?.map (⟨.dataLen, .attached ·⟩)).toList :=
    Scope.scans_longOption? rfl rfl (by decide) _
  have hscheme : Scans [longOption "scheme" scheme.name] [⟨.scheme, .attached scheme.name⟩] :=
    Scope.scans_longOption rfl rfl (by decide) _
  exact ((hprogLen.append hdataLen).append hscheme).complete

theorem Value.capacity_of_ok {text : String} {value : UInt64} (h : Capacity.read text = .ok value) :
    Value.capacity text = .ok value := by
  rw [Value.capacity, h]
  rfl

theorem Value.capacity_of_error {text : String} {fault : Capacity.Fault} (h : Capacity.read text = .error fault) :
    Value.capacity text = .error (.invalid fault.message) := by
  rw [Value.capacity, h]
  rfl

theorem Value.scheme_name (scheme : Scheme) : Value.scheme scheme.name = .ok scheme := by
  cases scheme <;> rfl

/-! ### Reading the capacities -/

/-- Of the texts given, one is no capacity. -/
def Unreadable (progLen : String) (dataLen? : Option String) : Prop :=
  (∃ fault, Capacity.read progLen = .error fault) ∨
    ∃ dataLen fault, dataLen? = some dataLen ∧ Capacity.read dataLen = .error fault

section
variable {progLen : String} {dataLen? : Option String} {scheme : Scheme} {p d : UInt64} {fault : Capacity.Fault}

/-- The settings for capacities that can be read. -/
def estimateSettings (dataLen? : Option String) (scheme : Scheme) (p d : UInt64) : Settings where
  progLen? := some p
  dataLen? := dataLen?.map fun _ => d
  scheme? := some scheme
  given := [.scheme] ++ (dataLen?.map fun _ => Parameter.dataLen).toList ++ [.progLen]

theorem not_unreadable (hp : Capacity.read progLen = .ok p) (hd : (dataLen?.map Capacity.read).getD (.ok p) = .ok d) :
    ¬Unreadable progLen dataLen? := by
  rintro (⟨fault, hfault⟩ | ⟨dataLen, fault, rfl, hfault⟩)
  · rw [hp] at hfault
    cases hfault
  · rw [Option.map_some, Option.getD_some, hfault] at hd
    cases hd

theorem ofOccurrences_of_progLen_error (hp : Capacity.read progLen = .error fault) :
    Settings.ofOccurrences (estimateOccurrences progLen dataLen? scheme) =
      .error (.invalidValue .progLen progLen fault.message) := by
  simp [estimateOccurrences, Settings.ofOccurrences, Settings.add, Settings.read, Settings.set,
    Value.capacity_of_error hp, bind, Except.bind, Except.map, Except.mapError]

theorem ofOccurrences_of_dataLen_error {dataLen : String} (hp : Capacity.read progLen = .ok p)
    (hd : Capacity.read dataLen = .error fault) :
    Settings.ofOccurrences (estimateOccurrences progLen (some dataLen) scheme) =
      .error (.invalidValue .dataLen dataLen fault.message) := by
  simp [estimateOccurrences, Settings.ofOccurrences, Settings.add, Settings.read, Settings.set,
    Value.capacity_of_ok hp, Value.capacity_of_error hd, bind, Except.bind, Except.map, Except.mapError]

theorem ofOccurrences_of_ok (hp : Capacity.read progLen = .ok p)
    (hd : (dataLen?.map Capacity.read).getD (.ok p) = .ok d) :
    Settings.ofOccurrences (estimateOccurrences progLen dataLen? scheme) =
      .ok (estimateSettings dataLen? scheme p d) := by
  cases dataLen? with
  | none =>
    simp [estimateOccurrences, estimateSettings, Settings.ofOccurrences, Settings.add, Settings.read, Settings.set,
      Value.capacity_of_ok hp, Value.scheme_name, bind, Except.bind, pure, Except.pure, Except.map, Except.mapError]
  | some dataLen =>
    simp [estimateOccurrences, estimateSettings, Settings.ofOccurrences, Settings.add, Settings.read, Settings.set,
      Value.capacity_of_ok hp, Value.capacity_of_ok hd, Value.scheme_name, bind, Except.bind, pure, Except.pure,
      Except.map, Except.mapError]

theorem readArguments_of_misuse {e : UsageError}
    (h : Settings.ofOccurrences (estimateOccurrences progLen dataLen? scheme) = .error e) :
    readArguments (estimateArguments progLen dataLen? scheme) = .error (.misuse e) := by
  have hsettings : Command.estimate.settings (estimateArguments progLen dataLen? scheme).tail = .error (.misuse e) := by
    rw [Command.settings_of_scan (scan_estimateArguments progLen dataLen? scheme), h]
    rfl
  rw [show estimateArguments progLen dataLen? scheme = Command.estimate.name :: _ from rfl, readArguments_command]
  exact congrArg (Except.map _) hsettings

theorem readArguments_of_capacities (hp : Capacity.read progLen = .ok p)
    (hd : (dataLen?.map Capacity.read).getD (.ok p) = .ok d) :
    readArguments (estimateArguments progLen dataLen? scheme) = .ok ⟨.estimate ⟨p, d, scheme⟩, defaultLogLevel⟩ := by
  have hconflict : (estimateSettings dataLen? scheme p d).conflict? = none := by cases dataLen? <;> rfl
  have hsettings : Command.estimate.settings (estimateArguments progLen dataLen? scheme).tail =
      .ok (estimateSettings dataLen? scheme p d) := by
    rw [Command.settings_of_scan (scan_estimateArguments progLen dataLen? scheme), ofOccurrences_of_ok hp hd]
    simp only [Except.mapError, hconflict, bind, Except.bind, pure, Except.pure]
  have hrequest : Command.estimate.request (estimateSettings dataLen? scheme p d) = .estimate ⟨p, d, scheme⟩ := by
    cases dataLen? with
    | none =>
      cases hd
      rfl
    | some dataLen => rfl
  rw [show estimateArguments progLen dataLen? scheme = Command.estimate.name :: _ from rfl, readArguments_command]
  refine (congrArg (Except.map _) hsettings).trans ?_
  rw [Except.map, hrequest]
  rfl

end

/-- The arguments are refused for the first text that is no capacity, or ask for an estimate. -/
theorem readArguments_estimate_cases (progLen : String) (dataLen? : Option String) (scheme : Scheme) :
    (∃ e, readArguments (estimateArguments progLen dataLen? scheme) = .error (.misuse e) ∧
      Unreadable progLen dataLen?) ∨
    ∃ p d, Capacity.read progLen = .ok p ∧ (dataLen?.map Capacity.read).getD (.ok p) = .ok d ∧
      readArguments (estimateArguments progLen dataLen? scheme) = .ok ⟨.estimate ⟨p, d, scheme⟩, defaultLogLevel⟩ := by
  cases hp : Capacity.read progLen with
  | error fault =>
    exact Or.inl ⟨_, readArguments_of_misuse (ofOccurrences_of_progLen_error hp), Or.inl ⟨fault, hp⟩⟩
  | ok p =>
    cases dataLen? with
    | none => exact Or.inr ⟨p, p, rfl, rfl, readArguments_of_capacities hp rfl⟩
    | some dataLen =>
      cases hd : Capacity.read dataLen with
      | error fault =>
        have hunreadable : Unreadable progLen (some dataLen) := Or.inr ⟨dataLen, fault, rfl, hd⟩
        exact Or.inl ⟨_, readArguments_of_misuse (ofOccurrences_of_dataLen_error hp hd), hunreadable⟩
      | ok d => exact Or.inr ⟨p, d, rfl, hd, readArguments_of_capacities hp hd⟩

/-! ### The run -/

theorem runEstimate_of_error {p d : UInt64} {scheme : Scheme} {fault : Fault}
    (h : Estimate.ofCapacities p d scheme = .error fault) :
    runEstimate ⟨p, d, scheme⟩ = { failure? := some (.sizing fault) } := by
  simp only [runEstimate, Sizing.estimate, h]
  rfl

/-- An estimate that was made has a report. -/
theorem runEstimate_of_ok {p d : UInt64} {scheme : Scheme} {e : Estimate}
    (h : Estimate.ofCapacities p d scheme = .ok e) :
    ∃ report, e.report = .ok report ∧
      runEstimate ⟨p, d, scheme⟩ = { stdout := report ++ "\n", events := [.estimated e] } := by
  obtain ⟨-, -, -, hlt⟩ := Estimate.ofCapacities_eq_ok_iff.mp h
  obtain ⟨-, -, report, -, -, -, -, hreport⟩ := Estimate.exists_report hlt
  have hmade : Sizing.estimate p d scheme = ⟨.ok e, [.estimated e]⟩ := by
    simp only [Sizing.estimate, h]
    rfl
  refine ⟨report, hreport, ?_⟩
  simp only [runEstimate, hmade, hreport]

section
variable {p d : UInt64} {scheme : Scheme} (filter : Filter) (warnings : List Filter.Warning)

theorem outcome_of_fault {fault : Fault} (h : Estimate.ofCapacities p d scheme = .error fault) :
    ((runEstimate ⟨p, d, scheme⟩).outcome filter warnings).exitCode = 1 ∧
      ((runEstimate ⟨p, d, scheme⟩).outcome filter warnings).stdout = "" ∧
      ∃ start, ((runEstimate ⟨p, d, scheme⟩).outcome filter warnings).stderr =
        start ++ ("Error: " ++ fault.message ++ "\n") := by
  rw [runEstimate_of_error h]
  refine ⟨rfl, rfl, Text.unlines (warnings.map Filter.Warning.message), ?_⟩
  simp [Outcome.stderr, Result.outcome, Failure.lines, Text.unlines]

theorem outcome_of_estimate {e : Estimate} (h : Estimate.ofCapacities p d scheme = .ok e) :
    ((runEstimate ⟨p, d, scheme⟩).outcome filter warnings).exitCode = 0 ∧
      ∃ report, e.report = .ok report ∧
        ((runEstimate ⟨p, d, scheme⟩).outcome filter warnings).stdout = report ++ "\n" := by
  obtain ⟨report, hreport, hresult⟩ := runEstimate_of_ok h
  rw [hresult]
  exact ⟨rfl, report, hreport, rfl⟩

theorem exitCode_runEstimate_ne_two (r : EstimateRequest) :
    ((runEstimate r).outcome filter warnings).exitCode ≠ 2 := by
  cases h : Estimate.ofCapacities r.progLen r.dataLen r.scheme with
  | error fault =>
    rw [(outcome_of_fault filter warnings h).1]
    decide
  | ok e =>
    rw [(outcome_of_estimate filter warnings h).1]
    decide

end

theorem run_estimate {args : List String} {r : EstimateRequest} {level : String}
    (h : readArguments args = .ok ⟨.estimate r, level⟩) (directives? : Option String) (w : Workspace) :
    ∃ filter warnings,
      (run Workspace.host args directives?).run w = ((runEstimate r).outcome filter warnings, w) :=
  ⟨_, _, run_of_invocation h directives? w⟩

/-- Without a data capacity, the program capacity stands for both. -/
theorem readArguments_of_one_capacity (progLen : String) (scheme : Scheme) :
    readArguments (estimateArguments progLen none scheme) =
      readArguments (estimateArguments progLen (some progLen) scheme) := by
  cases hp : Capacity.read progLen with
  | error fault =>
    rw [readArguments_of_misuse (ofOccurrences_of_progLen_error hp),
      readArguments_of_misuse (ofOccurrences_of_progLen_error hp)]
  | ok p =>
    have hsame : ((some progLen).map Capacity.read).getD (.ok p) = .ok p := hp
    rw [readArguments_of_capacities hp rfl, readArguments_of_capacities hp hsame]

/-- The command fails as misused exactly for a text that is no capacity, whether it is no expression or too large.
For capacities that have no estimate it fails with the reason, and for all others it prints the report and a line end.
It changes no file, and one capacity stands for both. -/
theorem estimate_command_outcome (progLen : String) (dataLen? : Option String) (scheme : Scheme)
    (directives? : Option String) (w : Workspace) :
    (∃ outcome, (run Workspace.host (estimateArguments progLen dataLen? scheme) directives?).run w = (outcome, w) ∧
      (outcome.exitCode = 2 ↔ Unreadable progLen dataLen?) ∧ (outcome.exitCode = 2 → outcome.stdout = "") ∧
      ∀ p d, Capacity.read progLen = .ok p → (dataLen?.map Capacity.read).getD (.ok p) = .ok d →
        (∀ fault, Estimate.ofCapacities p d scheme = .error fault → outcome.exitCode = 1 ∧ outcome.stdout = "" ∧
          ∃ start, outcome.stderr = start ++ ("Error: " ++ fault.message ++ "\n")) ∧
        ∀ e, Estimate.ofCapacities p d scheme = .ok e → outcome.exitCode = 0 ∧
          ∃ report, e.report = .ok report ∧ outcome.stdout = report ++ "\n") ∧
    (run Workspace.host (estimateArguments progLen none scheme) directives?).run w =
      (run Workspace.host (estimateArguments progLen (some progLen) scheme) directives?).run w := by
  refine ⟨?_, by rw [run, run, readArguments_of_one_capacity]⟩
  rcases readArguments_estimate_cases progLen dataLen? scheme with ⟨e, hargs, hfails⟩ | ⟨p, d, hp, hd, hargs⟩
  · refine ⟨_, run_of_refusal hargs directives? w, ⟨fun _ => hfails, fun _ => rfl⟩, fun _ => rfl, ?_⟩
    intro p d hp hd
    exact absurd hfails (not_unreadable hp hd)
  · have hreads := not_unreadable hp hd
    obtain ⟨filter, warnings, hrun⟩ := run_estimate hargs directives? w
    have hunique : ∀ p' d', Capacity.read progLen = .ok p' → (dataLen?.map Capacity.read).getD (.ok p') = .ok d' →
        p' = p ∧ d' = d := by
      intro p' d' hp' hd'
      rw [hp, Except.ok.injEq] at hp'
      subst hp'
      rw [hd, Except.ok.injEq] at hd'
      exact ⟨rfl, hd'.symm⟩
    have hne := exitCode_runEstimate_ne_two filter warnings ⟨p, d, scheme⟩
    refine ⟨_, hrun, ⟨fun h => absurd h hne, fun h => absurd h hreads⟩, fun h => absurd h hne, fun p' d' hp' hd' => ?_⟩
    obtain ⟨rfl, rfl⟩ := hunique p' d' hp' hd'
    exact ⟨fun fault h => outcome_of_fault filter warnings h, fun e h => outcome_of_estimate filter warnings h⟩

/-- One capacity that has an estimate, one without a cell, and one that no word holds. -/
theorem estimate_command_outcome_classes :
    (∃ outcome e report, (run Workspace.host ["estimate", "--prog-len=0x8000 - 1", "--scheme=packed"] none).run
        ⟨.empty, []⟩ = (outcome, ⟨.empty, []⟩) ∧ outcome.exitCode = 0 ∧
      Estimate.ofCapacities 32767 32767 .packed = .ok e ∧ e.report = .ok report ∧ outcome.stdout = report ++ "\n") ∧
    (∃ outcome start, (run Workspace.host ["estimate", "--prog-len=5", "--data-len=0", "--scheme=byte"] none).run
        ⟨.empty, []⟩ = (outcome, ⟨.empty, []⟩) ∧ outcome.exitCode = 1 ∧ outcome.stdout = "" ∧
      outcome.stderr = start ++ ("Error: " ++ "Data capacity must be at least one cell" ++ "\n")) ∧
    ∃ outcome, (run Workspace.host ["estimate", "--prog-len=5", "--data-len=2^64", "--scheme=byte"] none).run
        ⟨.empty, []⟩ = (outcome, ⟨.empty, []⟩) ∧ outcome.exitCode = 2 ∧ outcome.stdout = "" := by
  refine ⟨?_, ?_, ?_⟩
  · obtain ⟨⟨outcome, hrun, -, -, hresult⟩, -⟩ :=
      estimate_command_outcome "0x8000 - 1" none .packed none ⟨.empty, []⟩
    have hread : Capacity.read "0x8000 - 1" = .ok 32767 := by decide +kernel
    have hestimate : Estimate.ofCapacities 32767 32767 .packed =
        .ok ⟨.packed, 32767, 32767, 15, 15, 98301, 262136, 491505, 245745⟩ := by decide
    obtain ⟨hexit, report, hreport, hstdout⟩ := (hresult 32767 32767 hread rfl).2 _ hestimate
    exact ⟨outcome, _, report, hrun, hexit, hestimate, hreport, hstdout⟩
  · obtain ⟨⟨outcome, hrun, -, -, hresult⟩, -⟩ := estimate_command_outcome "5" (some "0") .byte none ⟨.empty, []⟩
    have hprogram : Capacity.read "5" = .ok 5 := by decide +kernel
    have hdata : Capacity.read "0" = .ok 0 := by decide +kernel
    obtain ⟨hexit, hstdout, start, hstderr⟩ := (hresult 5 0 hprogram hdata).1 (.zeroCapacity .data) (by decide)
    exact ⟨outcome, start, hrun, hexit, hstdout, hstderr⟩
  · obtain ⟨⟨outcome, hrun, hmisuse, hempty, -⟩, -⟩ :=
      estimate_command_outcome "5" (some "2^64") .byte none ⟨.empty, []⟩
    have hdata : Capacity.read "2^64" = .error (.overflow "2^64") := by decide +kernel
    have htwo := hmisuse.mpr (Or.inr ⟨"2^64", _, rfl, hdata⟩)
    exact ⟨outcome, hrun, htwo, hempty htwo⟩

end ProgramRom.CommandLine
