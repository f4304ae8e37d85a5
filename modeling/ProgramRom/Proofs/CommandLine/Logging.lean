import ProgramRom.Proofs.CommandLine.Outcomes
import ProgramRom.Proofs.CommandLine.Relevelling
import ProgramRom.Proofs.Log.Levels

/-! # What the log leaves alone

A run keeps its records apart until it is over, and only then looks at the level of the log. So two runs that differ in
the level, or in what else is set for the log, differ in the records that they show and in nothing else. -/

namespace ProgramRom.CommandLine

open Log

/-- Two outcomes that differ in the log at most: it stands in front of what else is shown as an error. -/
structure Outcome.SameButLog (o o' : Outcome) : Prop where
  exitCode : o.exitCode = o'.exitCode
  stdout : o.stdout = o'.stdout
  stderr : ∃ rest, o.stderr = String.join (o.log.map Event.shown) ++ rest ∧
    o'.stderr = String.join (o'.log.map Event.shown) ++ rest

theorem Outcome.stderr_of_no_warnings {o : Outcome} (h : o.warnings = []) :
    o.stderr = String.join (o.log.map Event.shown) ++ o.diagnostics := by
  simp [stderr, h, Text.unlines]

theorem Outcome.sameButLog_self {o : Outcome} (h : o.warnings = []) : o.SameButLog o :=
  ⟨rfl, rfl, o.diagnostics, stderr_of_no_warnings h, stderr_of_no_warnings h⟩

theorem Result.sameButLog_outcome (result : Result) (filter filter' : Filter) :
    (result.outcome filter []).SameButLog (result.outcome filter' []) := by
  have hstderr : ∀ filter, (result.outcome filter []).stderr = _ := fun _ => Outcome.stderr_of_no_warnings rfl
  exact ⟨rfl, rfl, (result.outcome filter []).diagnostics, hstderr filter, hstderr filter'⟩

/-- Runs on arguments that differ in values for the level are refused alike, or have the same result. -/
theorem runs_relevelled {R : String → String → Prop} (hR : ∀ value, R value value) {args args' : List String}
    (h : RelevelledArguments R args args') (directives? directives?' : Option String) (w : Workspace) :
    (∃ refusal : Refusal, (run Workspace.host args directives?).run w = (refusal.outcome, w) ∧
      (run Workspace.host args' directives?').run w = (refusal.outcome, w)) ∨
    ∃ (result : Result) (after : Workspace) (level level' : String), R level level' ∧
      (run Workspace.host args directives?).run w =
        (result.outcome (logFilter level directives?).1 (logFilter level directives?).2, after) ∧
      (run Workspace.host args' directives?').run w =
        (result.outcome (logFilter level' directives?').1 (logFilter level' directives?').2, after) := by
  rcases (agree_readArguments hR h).cases_eq with ⟨refusal, hargs, hargs'⟩ | ⟨i, i', hargs, hargs', hrequest, hlevel⟩
  · exact Or.inl ⟨refusal, run_of_refusal hargs directives? w, run_of_refusal hargs' directives?' w⟩
  · have hrun' := run_of_invocation hargs' directives?' w
    rw [← hrequest] at hrun'
    exact Or.inr ⟨_, _, i.logLevel, i'.logLevel, hlevel, run_of_invocation hargs directives? w, hrun'⟩

/-- Whatever the level of the log is and whatever else is set for it, a command ends with the same exit code, output and
files, and with the same text for errors but for the log. A level that shows more shows what the other one shows and
more records between. -/
theorem outcome_independent_of_log (w : Workspace) (args args' : List String) :
    (RelevelledArguments (fun _ _ => True) args args' →
      ∀ directives? directives?', Setting directives? → Setting directives?' →
        ∃ outcome outcome' after, (run Workspace.host args directives?).run w = (outcome, after) ∧
          (run Workspace.host args' directives?').run w = (outcome', after) ∧ outcome.SameButLog outcome') ∧
    (RelevelledArguments (fun level level' => levelRank level ≤ levelRank level') args args' →
      ∃ outcome outcome' after, (run Workspace.host args none).run w = (outcome, after) ∧
        (run Workspace.host args' none).run w = (outcome', after) ∧ outcome.log.Sublist outcome'.log) := by
  refine ⟨fun h directives? directives?' hset hset' => ?_, fun h => ?_⟩
  · rcases runs_relevelled (fun _ => trivial) h directives? directives?' w with
      ⟨refusal, hrun, hrun'⟩ | ⟨result, after, level, level', -, hrun, hrun'⟩
    · have hwarnings : refusal.outcome.warnings = [] := by cases refusal <;> rfl
      exact ⟨_, _, w, hrun, hrun', Outcome.sameButLog_self hwarnings⟩
    · have hnone : (logFilter level directives?).2 = [] := Filter.warnings_amend_of_setting hset _
      have hnone' : (logFilter level' directives?').2 = [] := Filter.warnings_amend_of_setting hset' _
      rw [hnone] at hrun
      rw [hnone'] at hrun'
      exact ⟨_, _, after, hrun, hrun', result.sameButLog_outcome _ _⟩
  · rcases runs_relevelled (fun level => Nat.le_refl (levelRank level)) h none none w with
      ⟨refusal, hrun, hrun'⟩ | ⟨result, after, level, level', hlevel, hrun, hrun'⟩
    · exact ⟨_, _, w, hrun, hrun', List.Sublist.refl _⟩
    · rw [logFilter_none] at hrun hrun'
      exact ⟨_, _, after, hrun, hrun', Filter.filter_ofLevelName_sublist hlevel result.events⟩

/-- A block that is written to a file with no log and with all of it, and an estimate at two levels of which only the
second shows its record. -/
theorem outcome_independent_of_log_levels :
    (∃ outcome outcome' after,
      (run Workspace.host ["--log-level", "off", "generate", "--demo=hello", "-o", "rom.v"]
        (some "bfcase::program=debug")).run ⟨.empty, []⟩ = (outcome, after) ∧
      (run Workspace.host ["--log-level", "Trace", "generate", "--demo=hello", "-o", "rom.v"] none).run ⟨.empty, []⟩ =
        (outcome', after) ∧ outcome.SameButLog outcome') ∧
    ∃ outcome outcome' after,
      (run Workspace.host ["estimate", "--log-level=loud"] none).run ⟨.empty, []⟩ = (outcome, after) ∧
      (run Workspace.host ["estimate", "--log-level=DEBUG"] none).run ⟨.empty, []⟩ = (outcome', after) ∧
      outcome.log.Sublist outcome'.log ∧ outcome.log = [] ∧ outcome'.log.length = 1 := by
  refine ⟨?_, ?_⟩
  · have hargs : RelevelledArguments (fun _ _ => True)
        (["--log-level", "off"] ++ Command.generate.name :: ["--demo=hello", "-o", "rom.v"])
        (["--log-level", "Trace"] ++ Command.generate.name :: ["--demo=hello", "-o", "rom.v"]) :=
      .level (.separate trivial (by decide) (by decide)) (.command .generate (.same _))
    have hname : "debug".map Char.toUpper ∈ levelNames := by decide +kernel
    have hsetting : Setting (some ("bfcase::program" ++ "=" ++ "debug")) :=
      .component (by decide) (by decide) (by decide) hname
    exact (outcome_independent_of_log ⟨.empty, []⟩ _ _).1 hargs _ _ hsetting .unset
  · have hlevels : levelRank "loud" ≤ levelRank "DEBUG" := by decide +kernel
    have hargs : RelevelledArguments (fun level level' => levelRank level ≤ levelRank level')
        (Command.estimate.name :: [longOption "log-level" "loud"])
        (Command.estimate.name :: [longOption "log-level" "DEBUG"]) :=
      .command .estimate (.level (.attached hlevels) (.same []))
    obtain ⟨outcome, outcome', after, hrun, hrun', hlog⟩ := (outcome_independent_of_log ⟨.empty, []⟩ _ _).2 hargs
    have hnone : ((run Workspace.host ["estimate", "--log-level=loud"] none).run ⟨.empty, []⟩).1.log = [] := by
      decide +kernel
    have hone : ((run Workspace.host ["estimate", "--log-level=DEBUG"] none).run ⟨.empty, []⟩).1.log.length = 1 := by
      decide +kernel
    refine ⟨outcome, outcome', after, hrun, hrun', hlog, ?_, ?_⟩
    · exact (congrArg (fun r => r.1.log) hrun).symm.trans hnone
    · exact (congrArg (fun r => r.1.log.length) hrun').symm.trans hone

end ProgramRom.CommandLine
