import ProgramRom.Proofs.CaseStatement
import ProgramRom.Proofs.Cleaning
import ProgramRom.Proofs.CommandLine.Arguments
import ProgramRom.Proofs.CommandLine.Files
import ProgramRom.Proofs.CommandLine.Outcomes

/-! # Runs that generate a block

A run reads its source, makes the block and only then delivers it, to one file or to the standard output. So a run
that fails, at whichever of the three, changes no file and prints nothing, and one that succeeds changes its output
and nothing else, even where that is the file it read. -/

namespace ProgramRom.CommandLine

open Log

theorem run_bind_of_run {σ α β : Type} {x : StateM σ α} {s s' : σ} {a : α} (h : x.run s = (a, s'))
    (f : α → StateM σ β) : (x >>= f).run s = (f a).run s' := by
  rw [StateT.run_bind, h]
  rfl

namespace GenerateRequest

/-! ### What a request needs -/

/-- The source that a request names, if it is there and is a text: a built-in program, else a file, else the
standard input. -/
def source? (r : GenerateRequest) (w : Workspace) : Option String :=
  match r.demo?, r.input? with
  | some demo, _ => some demo.source
  | none, none => String.fromUTF8? w.input
  | none, some path =>
    if path = "-" then String.fromUTF8? w.input else (w.read path).toOption.bind String.fromUTF8?

/-- A request whose output, if it has one, can be opened for writing. -/
def Writable (r : GenerateRequest) (w : Workspace) : Prop :=
  ∀ path, r.output? = some path → ∃ name, w.target path = .ok name

/-- A request that takes a source: a strict one takes none with strays. -/
def Accepts (r : GenerateRequest) (source : String) : Prop :=
  r.strict = true → ∃ p, Program.ofStrictSource source = .ok p

/-- A request that reads a built-in program or a file. -/
def IgnoresInput (r : GenerateRequest) : Prop := r.demo? ≠ none ∨ ∃ path, r.input? = some path ∧ path ≠ "-"

/-! ### Reading -/

theorem readSource_cases {m : Type → Type} [Monad m] (host : Host m) (r : GenerateRequest) :
    (∃ demo, r.demo? = some demo ∧ readSource host r = pure (.ok demo.source)) ∨
    (r.demo? = none ∧ (r.input? = none ∨ r.input? = some "-") ∧
      readSource host r = do return (← host.readInput).bind decodeText |>.mapError Failure.readInput) ∨
    (∃ path, r.demo? = none ∧ r.input? = some path ∧ path ≠ "-" ∧
      readSource host r = do return (← host.readFile path).bind decodeText |>.mapError (Failure.readFile path)) := by
  unfold readSource
  cases r.demo? with
  | some demo => exact Or.inl ⟨demo, rfl, rfl⟩
  | none =>
    cases r.input? with
    | none => exact Or.inr (Or.inl ⟨rfl, Or.inl rfl, rfl⟩)
    | some path =>
      by_cases hpath : path = "-"
      · subst hpath
        exact Or.inr (Or.inl ⟨rfl, Or.inr rfl, rfl⟩)
      · refine Or.inr (Or.inr ⟨path, rfl, rfl, hpath, ?_⟩)
        split <;> simp_all

/-- What reading gives. -/
def read (r : GenerateRequest) (w : Workspace) : Except Failure String := ((readSource Workspace.host r).run w).1

/-- Reading changes nothing. -/
theorem run_readSource (r : GenerateRequest) (w : Workspace) :
    (readSource Workspace.host r).run w = (r.read w, w) := by
  unfold read
  rcases readSource_cases Workspace.host r with ⟨demo, -, h⟩ | ⟨-, -, h⟩ | ⟨path, -, -, -, h⟩ <;>
  · rw [h]
    rfl

theorem toOption_decode (x : Except FileError ByteArray) (f : FileError → Failure) :
    ((x.bind decodeText).mapError f).toOption = x.toOption.bind String.fromUTF8? := by
  cases x with
  | error e => rfl
  | ok bytes =>
    simp only [Except.bind, decodeText, Except.toOption, Option.bind_some]
    cases String.fromUTF8? bytes <;> rfl

theorem toOption_read (r : GenerateRequest) (w : Workspace) : (r.read w).toOption = r.source? w := by
  unfold read source?
  rcases readSource_cases Workspace.host r with ⟨demo, hdemo, h⟩ | ⟨hdemo, hinput, h⟩ | ⟨path, hdemo, hinput, hpath, h⟩
  · rw [h, hdemo]
    rfl
  · have hread := toOption_decode (.ok w.input) Failure.readInput
    rw [h, hdemo]
    rcases hinput with hinput | hinput
    · rw [hinput]
      exact hread
    · rw [hinput]
      exact hread
  · rw [h, hdemo, hinput]
    simp only [hpath, if_false]
    exact toOption_decode (w.read path) (Failure.readFile path)

theorem read_withInput {r : GenerateRequest} (hr : r.IgnoresInput) (w : Workspace) (input : ByteArray) :
    r.read { w with input } = r.read w := by
  unfold read
  rcases readSource_cases Workspace.host r with ⟨demo, -, h⟩ | ⟨hdemo, hinput, -⟩ | ⟨path, -, -, -, h⟩
  · rw [h]
    rfl
  · rcases hr with hr | ⟨path, hpath, hne⟩
    · exact absurd hdemo hr
    · rcases hinput with hinput | hinput
      · rw [hpath] at hinput
        cases hinput
      · rw [hpath, Option.some.injEq] at hinput
        exact absurd hinput hne
  · rw [h]
    rfl

/-! ### Making the block -/

theorem value_makeBlock_of_accepts {r : GenerateRequest} (hindent : r.indent.toNat ≤ 5000) {source : String}
    (h : r.Accepts source) :
    (makeBlock r source).value = .ok ((CaseTable.ofProgram (.ofSource source)).layout r.indent.toNat) := by
  have hgenerate := value_generate_of_le source hindent
  unfold makeBlock
  cases hstrict : r.strict with
  | false =>
    simp only [Bool.false_eq_true, if_false, Recorded.value_bind, Recorded.value_pure, hgenerate]
    rfl
  | true =>
    obtain ⟨p, hp⟩ := h hstrict
    obtain rfl := (Program.ofStrictSource_eq_ok_iff.mp hp).2
    rw [value_generate] at hgenerate
    simp only [if_true, Recorded.value_bind, Recorded.value_pure, value_generateStrict, hp, hgenerate]
    rfl

theorem value_makeBlock_of_not_accepts {r : GenerateRequest} {source : String} (h : ¬r.Accepts source) :
    ∃ failure, (makeBlock r source).value = .error failure := by
  obtain ⟨hstrict, hp⟩ := Classical.not_imp.mp h
  unfold makeBlock
  cases hsource : Program.ofStrictSource source with
  | ok p => exact absurd ⟨p, hsource⟩ hp
  | error e =>
    refine ⟨.unknownSymbol e, ?_⟩
    simp only [hstrict, if_true, Recorded.value_bind, Recorded.value_pure, value_generateStrict, hsource]
    rfl

/-! ### Delivering the block -/

theorem run_writeFile (path : String) (content : ByteArray) (w : Workspace) :
    (Workspace.host.writeFile path content).run w =
      match w.target path with
      | .error cause => (.error cause, w)
      | .ok name => (.ok (), w.put name content) := by
  refine (run_bind_of_run (x := get) rfl _).trans ?_
  cases w.target path with
  | error cause => rfl
  | ok name => rfl

/-- A block is printed, or put whole into one file, or nothing is done at all. -/
theorem run_deliver (r : GenerateRequest) (block : Block) (w : Workspace) :
    (deliver Workspace.host r block).run w =
      match r.output? with
      | none => ({ stdout := block.text, events := [.lengthToDeclare block.count] }, w)
      | some path =>
        match w.target path with
        | .error cause => ({ failure? := some (.writeFile path cause) }, w)
        | .ok name =>
          ({ events := [.written block.count path, .lengthToDeclare block.count] },
            w.put name block.text.toUTF8) := by
  unfold deliver
  cases r.output? with
  | none => rfl
  | some path =>
    have hwrite := run_writeFile path block.text.toUTF8 w
    cases htarget : w.target path with
    | error cause =>
      simp only [htarget] at hwrite ⊢
      exact run_bind_of_run hwrite _
    | ok name =>
      simp only [htarget] at hwrite ⊢
      exact run_bind_of_run hwrite _

/-! ### The run -/

/-- A run fails at reading or at making the block, or it delivers the block. -/
theorem run_runGenerate (r : GenerateRequest) (w : Workspace) :
    (runGenerate Workspace.host r).run w =
      match r.read w with
      | .error failure => ({ events := (r.demo?.map Event.demoChosen).toList, failure? := some failure }, w)
      | .ok source =>
        let made := (makeBlock r source).withoutEntries
        match made.value with
        | .error failure =>
          ({ events := (r.demo?.map Event.demoChosen).toList ++ made.events, failure? := some failure }, w)
        | .ok block =>
          let delivered := (deliver Workspace.host r block).run w
          ({ delivered.1 with events := (r.demo?.map Event.demoChosen).toList ++ made.events ++ delivered.1.events },
            delivered.2) := by
  refine (run_bind_of_run (run_readSource r w) _).trans ?_
  cases r.read w with
  | error failure => rfl
  | ok source =>
    dsimp only
    cases (makeBlock r source).withoutEntries.value with
    | error failure => rfl
    | ok block => rfl

/-- What a run that fails leaves. -/
def Failed (w : Workspace) (result : Result) (after : Workspace) : Prop :=
  result.failure?.isSome = true ∧ result.stdout = "" ∧ after = w

/-- What a run that succeeds leaves: its block is printed, or is the content of its output. -/
structure Delivered (r : GenerateRequest) (w : Workspace) (block : Block) (result : Result) (after : Workspace) :
    Prop where
  failure : result.failure? = none
  printed : r.output? = none → result.stdout = block.text ∧ after = w
  written : ∀ path, r.output? = some path →
    ∃ name, w.target path = .ok name ∧ result.stdout = "" ∧ after = w.put name block.text.toUTF8

theorem deliver_cases (r : GenerateRequest) (block : Block) (w : Workspace) :
    (r.Writable w ∧ Delivered r w block ((deliver Workspace.host r block).run w).1
      ((deliver Workspace.host r block).run w).2) ∨
    (¬r.Writable w ∧ Failed w ((deliver Workspace.host r block).run w).1
      ((deliver Workspace.host r block).run w).2) := by
  rw [run_deliver]
  cases houtput : r.output? with
  | none =>
    have hnone : ∀ path, r.output? ≠ some path := by simp [houtput]
    exact Or.inl ⟨fun path hpath => absurd hpath (hnone path), rfl, fun _ => ⟨rfl, rfl⟩,
      fun path hpath => absurd hpath (hnone path)⟩
  | some path =>
    cases htarget : w.target path with
    | error cause =>
      simp only [htarget]
      refine Or.inr ⟨fun hwritable => ?_, rfl, rfl, rfl⟩
      obtain ⟨name, hname⟩ := hwritable path houtput
      rw [htarget] at hname
      cases hname
    | ok name =>
      have honly : ∀ path', r.output? = some path' → w.target path' = .ok name := by
        intro path' hpath'
        rw [houtput, Option.some.injEq] at hpath'
        rw [← hpath', htarget]
      simp only [htarget]
      refine Or.inl ⟨fun path' hpath' => ⟨name, honly path' hpath'⟩, rfl, ?_, fun path' hpath' => ?_⟩
      · intro hnone
        rw [houtput] at hnone
        cases hnone
      · exact ⟨name, honly path' hpath', rfl, rfl⟩

/-- A run succeeds where there is a source that the request accepts and an output that can be written, and fails
everywhere else. -/
theorem runGenerate_cases (r : GenerateRequest) (hindent : r.indent.toNat ≤ 5000) (w : Workspace) :
    (∃ source, r.source? w = some source ∧ r.Writable w ∧ r.Accepts source ∧
      Delivered r w ((CaseTable.ofProgram (.ofSource source)).layout r.indent.toNat)
        ((runGenerate Workspace.host r).run w).1 ((runGenerate Workspace.host r).run w).2) ∨
    ((¬∃ source, r.source? w = some source ∧ r.Writable w ∧ r.Accepts source) ∧
      Failed w ((runGenerate Workspace.host r).run w).1 ((runGenerate Workspace.host r).run w).2) := by
  have hsource := r.toOption_read w
  rw [run_runGenerate]
  cases hread : r.read w with
  | error failure =>
    rw [hread] at hsource
    refine Or.inr ⟨?_, rfl, rfl, rfl⟩
    rintro ⟨source, hsome, -⟩
    rw [hsome] at hsource
    cases hsource
  | ok source =>
    rw [hread] at hsource
    have hunique : ∀ source', r.source? w = some source' → source' = source := by
      intro source' hsome
      rw [hsome] at hsource
      exact (Option.some.inj hsource).symm
    by_cases haccepts : r.Accepts source
    · have hmade : (makeBlock r source).withoutEntries.value =
          .ok ((CaseTable.ofProgram (.ofSource source)).layout r.indent.toNat) :=
        value_makeBlock_of_accepts hindent haccepts
      simp only [hmade]
      rcases deliver_cases r ((CaseTable.ofProgram (.ofSource source)).layout r.indent.toNat) w with
        ⟨hwritable, hfailure, hprinted, hwritten⟩ | ⟨hnot, hfailed⟩
      · exact Or.inl ⟨source, hsource.symm, hwritable, haccepts, hfailure, hprinted, hwritten⟩
      · refine Or.inr ⟨?_, hfailed⟩
        rintro ⟨-, -, hwritable, -⟩
        exact hnot hwritable
    · obtain ⟨failure, hfailure⟩ := value_makeBlock_of_not_accepts haccepts
      have hmade : (makeBlock r source).withoutEntries.value = .error failure := hfailure
      simp only [hmade]
      refine Or.inr ⟨?_, rfl, rfl, rfl⟩
      rintro ⟨source', hsome, -, haccepts'⟩
      exact haccepts (hunique source' hsome ▸ haccepts')

theorem run_withInput {r : GenerateRequest} (hr : r.IgnoresInput) (w : Workspace) (input : ByteArray) :
    (runGenerate Workspace.host r).run { w with input } =
      (((runGenerate Workspace.host r).run w).1, { ((runGenerate Workspace.host r).run w).2 with input }) := by
  have hdeliver : ∀ block, (deliver Workspace.host r block).run { w with input } =
      (((deliver Workspace.host r block).run w).1, { ((deliver Workspace.host r block).run w).2 with input }) := by
    intro block
    rw [run_deliver, run_deliver]
    cases r.output? with
    | none => rfl
    | some path =>
      have htarget : ({ w with input } : Workspace).target path = w.target path := rfl
      simp only [htarget]
      cases w.target path with
      | error cause => rfl
      | ok name => rfl
  rw [run_runGenerate, run_runGenerate, read_withInput hr]
  cases r.read w with
  | error failure => rfl
  | ok source =>
    dsimp only
    cases (makeBlock r source).withoutEntries.value with
    | error failure => rfl
    | ok block => simp only [hdeliver]

end GenerateRequest

/-! ### Outcomes -/

/-- Arguments that ask for a block run that request, and their log does not depend on the files. -/
theorem run_of_readArguments {args : List String} {r : GenerateRequest} {level : String}
    (h : readArguments args = .ok ⟨.generate r, level⟩) (directives? : Option String) :
    ∃ filter warnings, ∀ w, (run Workspace.host args directives?).run w =
      (((runGenerate Workspace.host r).run w).1.outcome filter warnings,
        ((runGenerate Workspace.host r).run w).2) := by
  let amended := (Filter.ofLevelName level).amend (directives?.getD "")
  refine ⟨amended.1, amended.2, fun w => ?_⟩
  unfold run
  rw [h]
  rfl

/-- Every request for a block can be asked for, and however it is asked for, its run is atomic. It succeeds where the
source is there and is a text, the output can be opened, and a strict request finds no stray. Then the block is
printed and no file changes, or nothing is printed and the output holds the block, every other file being as before.
A run that fails prints nothing and changes nothing. A request that does not read the standard input does not depend
on it. -/
theorem generate_command_atomic (r : GenerateRequest) (hr : r.Valid) (hindent : r.indent.toNat ≤ 5000) :
    (∃ args, readArguments args = .ok ⟨.generate r, defaultLogLevel⟩) ∧
    ∀ args level, readArguments args = .ok ⟨.generate r, level⟩ → ∀ (directives? : Option String) (w : Workspace),
      ∃ outcome after, (run Workspace.host args directives?).run w = (outcome, after) ∧
        (outcome.exitCode = 0 ↔ ∃ source, r.source? w = some source ∧ r.Writable w ∧ r.Accepts source) ∧
        (outcome.exitCode = 0 → ∃ source block, r.source? w = some source ∧
          (generate source r.indent).value = .ok block ∧
          (r.output? = none → outcome.stdout = block.text ∧ after = w) ∧
          ∀ path, r.output? = some path → outcome.stdout = "" ∧ after.read path = .ok block.text.toUTF8 ∧
            ∃ name, w.target path = .ok name ∧
              ∀ other, after.find? other = if other = name then some block.text.toUTF8 else w.find? other) ∧
        (outcome.exitCode ≠ 0 → outcome.stdout = "" ∧ after = w) ∧
        (r.IgnoresInput → ∀ input, (run Workspace.host args directives?).run { w with input } =
          (outcome, { after with input })) := by
  refine ⟨⟨r.arguments, GenerateRequest.readArguments_arguments hr⟩, fun args level hargs directives? w => ?_⟩
  obtain ⟨filter, warnings, hrun⟩ := run_of_readArguments hargs directives?
  refine ⟨_, _, hrun w, ?_, ?_, ?_, ?_⟩
  · rw [Result.exitCode_outcome_eq_zero_iff]
    rcases r.runGenerate_cases hindent w with ⟨source, hsource, hwritable, haccepts, hdelivered⟩ | ⟨hnot, hfailed, -⟩
    · exact ⟨fun _ => ⟨source, hsource, hwritable, haccepts⟩, fun _ => hdelivered.failure⟩
    · refine ⟨fun hnone => ?_, fun hex => absurd hex hnot⟩
      rw [hnone] at hfailed
      cases hfailed
  · rw [Result.exitCode_outcome_eq_zero_iff]
    intro hnone
    rcases r.runGenerate_cases hindent w with ⟨source, hsource, -, -, hdelivered⟩ | ⟨-, hfailed, -⟩
    · refine ⟨source, _, hsource, value_generate_of_le source hindent, hdelivered.printed, fun path hpath => ?_⟩
      obtain ⟨name, hname, hstdout, hafter⟩ := hdelivered.written path hpath
      rw [hafter]
      refine ⟨hstdout, Workspace.read_put_of_target hname _, name, hname, fun other => ?_⟩
      split
      · rename_i heq
        rw [heq, Workspace.find?_put_self]
      · rename_i hne
        exact Workspace.find?_put_of_ne w hne _
    · rw [hnone] at hfailed
      cases hfailed
  · rw [Ne, Result.exitCode_outcome_eq_zero_iff]
    intro hsome
    rcases r.runGenerate_cases hindent w with ⟨source, -, -, -, hdelivered⟩ | ⟨-, -, hstdout, hafter⟩
    · exact absurd hdelivered.failure hsome
    · exact ⟨hstdout, hafter⟩
  · intro hignores input
    rw [hrun, GenerateRequest.run_withInput hignores]

/-- A strict request whose output is its input, under another name. -/
def inPlace : GenerateRequest where
  input? := some "a"
  indent := 2
  strict := true
  output? := some "./a"
  demo? := none

/-- The source is replaced by its block, and kept where it has a stray. -/
theorem generate_command_atomic_in_place :
    inPlace.Valid ∧ inPlace.indent.toNat ≤ 5000 ∧
      readArguments ["generate", "-i2", "a", "--strict", "--output=./a"] = .ok ⟨.generate inPlace, "warn"⟩ ∧
      (∃ outcome after block,
        (run Workspace.host ["generate", "-i2", "a", "--strict", "--output=./a"] none).run
          ⟨.empty, [("b", .empty), ("a", "+ -".toUTF8)]⟩ = (outcome, after) ∧
        outcome.exitCode = 0 ∧ outcome.stdout = "" ∧ (generate "+ -" 2).value = .ok block ∧
        after.find? "a" = some block.text.toUTF8 ∧ after.find? "b" = some .empty) ∧
      ∃ outcome, (run Workspace.host ["generate", "-i2", "a", "--strict", "--output=./a"] none).run
          ⟨.empty, [("a", "+x".toUTF8)]⟩ = (outcome, ⟨.empty, [("a", "+x".toUTF8)]⟩) ∧
        outcome.exitCode ≠ 0 ∧ outcome.stdout = "" := by
  have hvalid : inPlace.Valid := ⟨by decide, by decide, Or.inl rfl⟩
  have hargs : readArguments ["generate", "-i2", "a", "--strict", "--output=./a"] =
      .ok ⟨.generate inPlace, "warn"⟩ := by rfl
  obtain ⟨-, hatomic⟩ := generate_command_atomic inPlace hvalid (by decide)
  refine ⟨hvalid, by decide, hargs, ?_, ?_⟩
  · let w : Workspace := ⟨.empty, [("b", .empty), ("a", "+ -".toUTF8)]⟩
    have hsource : inPlace.source? w = some "+ -" := by decide
    have htarget : w.target "./a" = .ok "a" := by rfl
    obtain ⟨outcome, after, hrun, hexit, hsuccess, -⟩ := hatomic _ _ hargs none w
    have hadmissible : ∀ c ∈ "+ -".toList, Program.isAdmissible c = true := List.all_eq_true.mp (by decide)
    have hzero : outcome.exitCode = 0 := by
      refine hexit.mpr ⟨"+ -", hsource, ?_, fun _ => ⟨_, Program.ofStrictSource_of_admissible hadmissible⟩⟩
      rintro path ⟨⟩
      exact ⟨"a", htarget⟩
    obtain ⟨source, block, hsource', hblock, -, hwritten⟩ := hsuccess hzero
    obtain ⟨hstdout, -, name, hname, hfind⟩ := hwritten "./a" rfl
    rw [hsource, Option.some.injEq] at hsource'
    rw [htarget, Except.ok.injEq] at hname
    subst hsource' hname
    exact ⟨outcome, after, block, hrun, hzero, hstdout, hblock, hfind "a", hfind "b"⟩
  · let w : Workspace := ⟨.empty, [("a", "+x".toUTF8)]⟩
    have hsource : inPlace.source? w = some "+x" := by decide
    obtain ⟨outcome, after, hrun, hexit, -, hfailure, -⟩ := hatomic _ _ hargs none w
    have hnonzero : outcome.exitCode ≠ 0 := by
      intro hzero
      obtain ⟨source, hsource', -, haccepts⟩ := hexit.mp hzero
      rw [hsource, Option.some.injEq] at hsource'
      subst hsource'
      obtain ⟨p, hp⟩ := haccepts rfl
      exact absurd ((Program.ofStrictSource_eq_ok_iff.mp hp).1 'x' (by decide)) (by decide)
    obtain ⟨hstdout, rfl⟩ := hfailure hnonzero
    exact ⟨outcome, hrun, hnonzero, hstdout⟩

end ProgramRom.CommandLine
