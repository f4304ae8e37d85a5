import ProgramRom.CommandLine.Request
import ProgramRom.Proofs.Numeral
import ProgramRom.Proofs.Runs

/-! # Arguments that are written read back

Every request for a block can be written as arguments: the options with their values attached, and behind two dashes
the input, which may then begin with a dash itself. Reading these arguments gives the request. -/

namespace ProgramRom.CommandLine

/-! ### Options with their values -/

/-- An option with its value in the same argument. -/
def longOption (name value : String) : String := "--" ++ name ++ "=" ++ value

theorem Argument.ofText_longOption {name : String} (h : '=' ∉ name.toList) (value : String) :
    Argument.ofText (longOption name value) = .long name (some value) := by
  have htext : (longOption name value).toList = '-' :: '-' :: (name.toList ++ '=' :: value.toList) := by
    simp [longOption]
  have htake : (name.toList ++ '=' :: value.toList).takeWhile (· ≠ '=') = name.toList := Text.takeWhile_ne h rfl
  have hdrop : (name.toList ++ '=' :: value.toList).dropWhile (· ≠ '=') = '=' :: value.toList :=
    Text.dropWhile_ne h rfl
  have hrest : ∃ c cs, name.toList ++ '=' :: value.toList = c :: cs := by
    cases name.toList with
    | nil => exact ⟨_, _, rfl⟩
    | cons c cs => exact ⟨_, _, rfl⟩
  obtain ⟨c, cs, hrest⟩ := hrest
  rw [hrest] at htext htake hdrop
  simp only [Argument.ofText, htext, htake, hdrop, String.ofList_toList]

namespace Scope

variable {κ : Type} {scope : Scope κ} {place? : Option Parameter} {p : Parameter} {name valueName : String}

/-- Arguments that are scanned as occurrences, and leave the scan as it was before them. -/
def Scans (scope : Scope κ) (place? : Option Parameter) (args : List String) (occurrences : List Occurrence) : Prop :=
  ∀ rest, scope.scanFrom { place? } (args ++ rest) =
    ⟨occurrences ++ (scope.scanFrom { place? } rest).occurrences, (scope.scanFrom { place? } rest).ending⟩

theorem Scans.nil : scope.Scans place? [] [] := fun _ => rfl

theorem Scans.append {args args' : List String} {occurrences occurrences' : List Occurrence}
    (h : scope.Scans place? args occurrences) (h' : scope.Scans place? args' occurrences') :
    scope.Scans place? (args ++ args') (occurrences ++ occurrences') := by
  intro rest
  rw [List.append_assoc, h, h', List.append_assoc]

theorem Scans.complete {args : List String} {occurrences : List Occurrence} (h : scope.Scans place? args occurrences) :
    scope.scanFrom { place? } args = ⟨occurrences, .complete⟩ := by
  have hall := h []
  have hnil : scope.scanFrom { place? } [] = ⟨[], .complete⟩ := rfl
  rwa [hnil, List.append_nil, List.append_nil] at hall

theorem scans_longOption (hp : scope.ofLong? name = some p) (hkind : p.kind = .value valueName)
    (hname : '=' ∉ name.toList) (value : String) :
    scope.Scans place? [longOption name value] [⟨p, .attached value⟩] := by
  intro rest
  rw [List.singleton_append, scanFrom]
  simp only [Bool.false_eq_true, if_false, Argument.ofText_longOption hname, scanLong, hp, hkind]
  rfl

theorem scans_longOption? (hp : scope.ofLong? name = some p) (hkind : p.kind = .value valueName)
    (hname : '=' ∉ name.toList) (value? : Option String) :
    scope.Scans place? (value?.map (longOption name)).toList (value?.map (⟨p, .attached ·⟩)).toList := by
  cases value? with
  | none => exact .nil
  | some value => exact scans_longOption hp hkind hname value

theorem scans_switch {text : String} (htext : Argument.ofText text = .long name none)
    (hp : scope.ofLong? name = some p) (hkind : p.kind = .switch) : scope.Scans place? [text] [⟨p, .switch⟩] := by
  intro rest
  rw [List.singleton_append, scanFrom]
  simp only [Bool.false_eq_true, if_false, htext, scanLong, hp, hkind]
  rfl

/-- Behind two dashes an argument takes its place, whatever it looks like. -/
theorem scanFrom_endOfOptions (scope : Scope κ) (p : Parameter) (text? : Option String) :
    scope.scanFrom { place? := some p } ((text?.map fun text => ["--", text]).getD []) =
      ⟨(text?.map (⟨p, .separate ·⟩)).toList, .complete⟩ := by
  cases text? with
  | none => rfl
  | some text => rfl

end Scope

/-! ### Numbers -/

namespace Value

theorem le_foldl_digits (cs : List Char) (value : Nat) :
    value ≤ cs.foldl (fun value c => value * 10 + Text.digitValue c) value := by
  induction cs generalizing value with
  | nil => exact Nat.le_refl value
  | cons c cs ih =>
    have hstep : value ≤ value * 10 + Text.digitValue c := by omega
    exact Nat.le_trans hstep (ih _)

/-- Digits of a number that a word holds are read as that number: it is largest at the end. -/
theorem foldlM_addDigit {cs : List Char} (hdigits : ∀ c ∈ cs, c.isDigit = true) (value : Nat)
    (hfits : cs.foldl (fun value c => value * 10 + Text.digitValue c) value < UInt64.size) :
    cs.foldlM addDigit value = .ok (cs.foldl (fun value c => value * 10 + Text.digitValue c) value) := by
  induction cs generalizing value with
  | nil => rfl
  | cons c cs ih =>
    obtain ⟨hc, hcs⟩ := List.forall_mem_cons.mp hdigits
    have hle := le_foldl_digits cs (value * 10 + Text.digitValue c)
    have hstep : addDigit value c = .ok (value * 10 + Text.digitValue c) := by
      rw [List.foldl_cons] at hfits
      simp only [addDigit, hc, Bool.not_true, Bool.false_eq_true, if_false]
      rw [if_neg (by omega)]
    rw [List.foldlM_cons, hstep]
    exact ih hcs _ hfits

theorem indent_toString (w : UInt64) : indent (toString w.toNat) = .ok w := by
  have hdigits : ∀ c ∈ (toString w.toNat).toList, c.isDigit = true := fun c hc => Text.isDigit_of_mem_toString hc
  have hvalue : Text.numeralValue 10 (toString w.toNat).toList = w.toNat :=
    (Text.numeral?_eq_some_iff.mp (Text.decimal?_toString w.toNat)).2.2
  have hread : digits (toString w.toNat).toList = .ok w := by
    have hfold := foldlM_addDigit hdigits 0 (by rw [Text.numeralValue] at hvalue; rw [hvalue]; exact w.toNat_lt)
    rw [Text.numeralValue] at hvalue
    rw [digits, hfold, hvalue]
    simp [Except.map]
  have hword : word (toString w.toNat) = .ok w := by
    unfold word
    split
    · rename_i hnil
      exact absurd hnil (Text.toList_toString_ne_nil _)
    · rename_i hplus
      exact absurd (hdigits '+' (by rw [hplus]; exact List.mem_singleton_self _)) (by decide)
    · rename_i cs _ hplus
      exact absurd (hdigits '+' (by rw [hplus]; exact List.mem_cons_self)) (by decide)
    · exact hread
  rw [indent, hword]
  rfl

end Value

/-! ### Commands -/

theorem scan_command (c : Command) (rest : List String) :
    programScope.scan (c.name :: rest) = ⟨[], .keyword (.command c) rest⟩ := by
  cases c <;> rfl

/-- Behind the options of the program, a command reads its own arguments. -/
theorem readArguments_of_scan {args rest : List String} {c : Command} {occurrences : List Occurrence}
    (h : programScope.scan args = ⟨occurrences, .keyword (.command c) rest⟩) :
    readArguments args = do
      let _ ← (Settings.ofOccurrences (programScope.scan args).settled).mapError .misuse
      let own ← c.settings rest
      let before ← (Settings.ofOccurrences occurrences).mapError .misuse
      return ⟨c.request own, (own.logLevel?.or before.logLevel?).getD defaultLogLevel⟩ := by
  rw [readArguments, h]

theorem readArguments_command (c : Command) (rest : List String) :
    readArguments (c.name :: rest) =
      (c.settings rest).map fun own => ⟨c.request own, own.logLevel?.getD defaultLogLevel⟩ := by
  rw [readArguments_of_scan (scan_command c rest), scan_command]
  show (c.settings rest >>= fun own => _) = _
  cases c.settings rest with
  | error refusal => rfl
  | ok own =>
    have hlevel : own.logLevel?.or ({} : Settings).logLevel? = own.logLevel? := Option.or_none
    show Except.ok _ = Except.ok _
    rw [hlevel]

theorem Command.settings_of_scan {c : Command} {args : List String} {occurrences : List Occurrence}
    (h : c.scope.scan args = ⟨occurrences, .complete⟩) :
    c.settings args = do
      let settings ← (Settings.ofOccurrences occurrences).mapError .misuse
      match settings.conflict? with
      | some e => throw (.misuse e)
      | none => return settings := by
  rw [Command.settings, h]
  rfl

/-! ### Requests for a block -/

namespace GenerateRequest

/-- A request that arguments can ask for: no path is empty, and there is one source. -/
structure Valid (r : GenerateRequest) : Prop where
  input : r.input? ≠ some ""
  output : r.output? ≠ some ""
  source : r.demo? = none ∨ r.input? = none

/-- The arguments of a request that stand before its input. -/
def options (r : GenerateRequest) : List String :=
  [longOption "indent" (toString r.indent.toNat)] ++ (if r.strict then ["--strict"] else []) ++
    (r.output?.map (longOption "output")).toList ++ ((r.demo?.map Demo.name).map (longOption "demo")).toList

/-- The arguments that a request is written as. -/
def arguments (r : GenerateRequest) : List String :=
  Command.generate.name :: (r.options ++ (r.input?.map fun path => ["--", path]).getD [])

/-- What is found in the arguments of a request. -/
def occurrences (r : GenerateRequest) : List Occurrence :=
  [⟨.indent, .attached (toString r.indent.toNat)⟩] ++ (if r.strict then [⟨.strict, .switch⟩] else []) ++
    (r.output?.map (⟨.output, .attached ·⟩)).toList ++ ((r.demo?.map Demo.name).map (⟨.demo, .attached ·⟩)).toList ++
    (r.input?.map (⟨.input, .separate ·⟩)).toList

/-- What the arguments of a request set. -/
def settings (r : GenerateRequest) : Settings where
  indent? := some r.indent
  strict := r.strict
  output? := r.output?
  demo? := r.demo?
  input? := r.input?
  given := (r.occurrences.map (·.parameter)).reverse

theorem scan_arguments (r : GenerateRequest) :
    Command.generate.scope.scan r.arguments.tail = ⟨r.occurrences, .complete⟩ := by
  let Scans := Command.generate.scope.Scans (some .input)
  have hindent : Scans [longOption "indent" (toString r.indent.toNat)]
      [⟨.indent, .attached (toString r.indent.toNat)⟩] :=
    Scope.scans_longOption rfl rfl (by decide) _
  have hstrict : Scans (if r.strict then ["--strict"] else []) (if r.strict then [⟨.strict, .switch⟩] else []) := by
    cases r.strict with
    | false => exact .nil
    | true => exact Scope.scans_switch (by rfl) rfl rfl
  have houtput : Scans (r.output?.map (longOption "output")).toList
      (r.output?.map (⟨.output, .attached ·⟩)).toList :=
    Scope.scans_longOption? rfl rfl (by decide) _
  have hdemo : Scans ((r.demo?.map Demo.name).map (longOption "demo")).toList
      ((r.demo?.map Demo.name).map (⟨.demo, .attached ·⟩)).toList :=
    Scope.scans_longOption? rfl rfl (by decide) _
  have hscan := (((hindent.append hstrict).append houtput).append hdemo)
    ((r.input?.map fun path => ["--", path]).getD [])
  rw [Scope.scanFrom_endOfOptions] at hscan
  exact hscan

theorem ofOccurrences_occurrences {r : GenerateRequest} (h : r.Valid) :
    Settings.ofOccurrences r.occurrences = .ok r.settings := by
  obtain ⟨input?, indent, strict, output?, demo?⟩ := r
  have hindent := Value.indent_toString indent
  have hdemo : ∀ demo : Demo, Value.demo demo.name = .ok demo := by
    intro demo
    cases demo <;> rfl
  have hinput : ∀ path, input? = some path → Value.path path = .ok path := by
    rintro path rfl
    simpa [Value.path] using h.input
  have houtput : ∀ path, output? = some path → Value.path path = .ok path := by
    rintro path rfl
    simpa [Value.path] using h.output
  -- Whatever was given before, each parameter occurs for the first time and its value is read back.
  generalize hnumeral : toString indent.toNat = numeral at hindent
  cases strict <;> cases output? <;> cases demo? <;> cases input? <;>
    simp [occurrences, settings, Settings.ofOccurrences, Settings.add, Settings.read, Settings.set, hnumeral, hindent, hdemo,
      hinput, houtput, bind, Except.bind, pure, Except.pure, Except.map, Except.mapError]

theorem conflict?_settings {r : GenerateRequest} (h : r.Valid) : r.settings.conflict? = none := by
  obtain ⟨input?, indent, strict, output?, demo?⟩ := r
  obtain ⟨-, -, hsource⟩ := h
  rcases hsource with rfl | rfl
  · cases strict <;> cases output? <;> cases input? <;> rfl
  · cases strict <;> cases output? <;> cases demo? <;> rfl

/-- The arguments of a request ask for it. -/
theorem readArguments_arguments {r : GenerateRequest} (h : r.Valid) :
    readArguments r.arguments = .ok ⟨.generate r, defaultLogLevel⟩ := by
  have hscan : programScope.scan r.arguments = ⟨[], .keyword (.command .generate) r.arguments.tail⟩ := rfl
  have hsettings : Command.generate.settings r.arguments.tail = .ok r.settings := by
    simp only [Command.settings, r.scan_arguments, Scan.settled, ofOccurrences_occurrences h, Except.mapError, bind,
      Except.bind, conflict?_settings h]
    rfl
  rw [readArguments, hscan]
  show (Command.generate.settings r.arguments.tail >>= _) = _
  rw [hsettings]
  rfl

end GenerateRequest

end ProgramRom.CommandLine
