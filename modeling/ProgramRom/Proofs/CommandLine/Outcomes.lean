import ProgramRom.CommandLine.Run
import ProgramRom.CommandLine.Workspace

/-! # Outcomes of runs

Arguments that ask for nothing are refused without a look at the files. All others run their request, and what is
shown of the result depends on the log for nothing but the log. -/

namespace ProgramRom.CommandLine

open Log

theorem Failure.exitCode_ne_zero (failure : Failure) : failure.exitCode ≠ 0 := by
  cases failure <;> simp [exitCode]

theorem Result.exitCode_outcome_eq_zero_iff (result : Result) (filter : Filter) (warnings : List Filter.Warning) :
    (result.outcome filter warnings).exitCode = 0 ↔ result.failure? = none := by
  unfold Result.outcome
  cases result.failure? with
  | none => exact ⟨fun _ => rfl, fun _ => rfl⟩
  | some failure => exact ⟨fun h => absurd h failure.exitCode_ne_zero, fun h => by cases h⟩

/-! ### From arguments to outcomes -/

/-- The filter for a level and directives, and the warnings about the directives. -/
def logFilter (level : String) (directives? : Option String) : Filter × List Filter.Warning :=
  (Filter.ofLevelName level).amend (directives?.getD "")

theorem logFilter_none (level : String) : logFilter level none = (Filter.ofLevelName level, []) := rfl

theorem run_of_refusal {args : List String} {refusal : Refusal} (h : readArguments args = .error refusal)
    (directives? : Option String) (w : Workspace) :
    (run Workspace.host args directives?).run w = (refusal.outcome, w) := by
  unfold run
  rw [h]
  rfl

theorem run_of_invocation {args : List String} {invocation : Invocation} (h : readArguments args = .ok invocation)
    (directives? : Option String) (w : Workspace) :
    (run Workspace.host args directives?).run w =
      (((runRequest Workspace.host invocation.request).run w).1.outcome (logFilter invocation.logLevel directives?).1
          (logFilter invocation.logLevel directives?).2,
        ((runRequest Workspace.host invocation.request).run w).2) := by
  unfold run
  rw [h]
  rfl

end ProgramRom.CommandLine
