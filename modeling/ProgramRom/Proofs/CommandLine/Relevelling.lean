import ProgramRom.Proofs.CommandLine.Arguments
import ProgramRom.Proofs.Failing

/-! # Arguments with another level for the log

Two lists of arguments that differ in values for the level of the log are read alike: both are refused for the same
reason, or they ask for the same at two levels. A scan takes the same steps on both and finds the same occurrences but
for these values, which nothing else looks at. -/

namespace ProgramRom.CommandLine

/-! ### Arguments with another level -/

section
variable (R : String → String → Prop)

/-- The option for the level of the log with one of two values, in the same argument or in the next. -/
inductive LevelOption : List String → List String → Prop
  | attached {value value' : String} (h : R value value') :
      LevelOption [longOption "log-level" value] [longOption "log-level" value']
  | separate {value value' : String} (h : R value value') (hvalue : Argument.ofText value = .plain value)
      (hvalue' : Argument.ofText value' = .plain value') : LevelOption ["--log-level", value] ["--log-level", value']

/-- Arguments of a command that differ in values for the level at most. Behind two dashes there are no more options. -/
inductive Relevelled : List String → List String → Prop
  | same (args : List String) : Relevelled args args
  | other {text : String} {args args' : List String} (htext : text ≠ "--") (h : Relevelled args args') :
      Relevelled (text :: args) (text :: args')
  | level {option option' args args' : List String} (ho : LevelOption R option option') (h : Relevelled args args') :
      Relevelled (option ++ args) (option' ++ args')

/-- Arguments of the program that differ in values for the level at most, before a command or behind it. Before it may
stand anything that does not change what stands behind: no two dashes, no level without its value, no keyword. -/
inductive RelevelledArguments : List String → List String → Prop
  | same (args : List String) : RelevelledArguments args args
  | command (c : Command) {own own' : List String} (h : Relevelled R own own') :
      RelevelledArguments (c.name :: own) (c.name :: own')
  | other {text : String} {args args' : List String} (htext : text ≠ "--") (hlevel : text ≠ "--log-level")
      (hword : Keyword.ofName? text = none) (h : RelevelledArguments args args') :
      RelevelledArguments (text :: args) (text :: args')
  | level {option option' args args' : List String} (ho : LevelOption R option option')
      (h : RelevelledArguments args args') : RelevelledArguments (option ++ args) (option' ++ args')

/-- The same occurrence, or two of the level with related values. -/
inductive Occurrence.Alike : Occurrence → Occurrence → Prop
  | same (o : Occurrence) : Alike o o
  | attached {value value' : String} (h : R value value') :
      Alike ⟨.logLevel, .attached value⟩ ⟨.logLevel, .attached value'⟩
  | separate {value value' : String} (h : R value value') :
      Alike ⟨.logLevel, .separate value⟩ ⟨.logLevel, .separate value'⟩

theorem Occurrence.forall₂_alike_refl (occurrences : List Occurrence) :
    List.Forall₂ (Occurrence.Alike R) occurrences occurrences :=
  List.forall₂_same.mpr fun o _ => .same o

/-- The same ending, or two at one command whose arguments differ in values for the level at most. -/
inductive Ending.Alike : Ending Keyword → Ending Keyword → Prop
  | same (ending : Ending Keyword) : Alike ending ending
  | command (c : Command) {own own' : List String} (h : Relevelled R own own') :
      Alike (.keyword (.command c) own) (.keyword (.command c) own')

/-- Settings that differ in the level at most. -/
inductive Settings.Alike : Settings → Settings → Prop
  | relevel {s : Settings} {level? : Option String} (h : Option.Rel R s.logLevel? level?) :
      Alike s { s with logLevel? := level? }

end

variable {R : String → String → Prop}

/-! ### Scans -/

theorem Argument.ofText_cases (text : String) :
    text = "--" ∨ (∃ name value?, Argument.ofText text = .long name value?) ∨
      (∃ letters, Argument.ofText text = .cluster letters) ∨ Argument.ofText text = .plain text := by
  unfold Argument.ofText
  split
  · rename_i hlist
    exact Or.inl (String.toList_inj.mp hlist)
  · refine Or.inr (Or.inl ?_)
    dsimp only
    split
    · exact ⟨_, _, rfl⟩
    · exact ⟨_, _, rfl⟩
  · exact Or.inr (Or.inr (Or.inl ⟨_, rfl⟩))
  · exact Or.inr (Or.inr (Or.inr rfl))

theorem Argument.eq_of_ofText_eq_long {text name : String} (h : Argument.ofText text = .long name none) :
    text = "--" ++ name := by
  unfold Argument.ofText at h
  split at h
  · cases h
  · rename_i rest _ hlist
    dsimp only at h
    split at h
    · rename_i hdrop
      have hrest : rest.takeWhile (· ≠ '=') ++ rest.dropWhile (· ≠ '=') = rest := List.takeWhile_append_dropWhile
      rw [hdrop, List.append_nil] at hrest
      rw [hrest] at h
      cases h
      rw [← String.toList_inj, hlist]
      simp
    · cases h
  · cases h
  · cases h

namespace Scope

variable {κ : Type} {state : State}

/-- Arguments that take a scan from one state to another. -/
def Advances (scope : Scope κ) (state : State) (args : List String) (occurrences : List Occurrence) (next : State) :
    Prop :=
  ∀ rest, scope.scanFrom state (args ++ rest) =
    ⟨occurrences ++ (scope.scanFrom next rest).occurrences, (scope.scanFrom next rest).ending⟩

/-- The scan of an argument that is an option or more. -/
def optionScan? (scope : Scope κ) (text : String) : Option (OptionScan κ) :=
  match Argument.ofText text with
  | .long name value? => some (scope.scanLong name value?)
  | .cluster letters => some (scope.scanCluster letters)
  | .endOfOptions | .plain _ => none

theorem ofText_of_optionScan?_eq_some {scope : Scope κ} {text : String} {scan : OptionScan κ}
    (h : scope.optionScan? text = some scan) :
    (∃ name value?, Argument.ofText text = .long name value? ∧ scope.scanLong name value? = scan) ∨
      ∃ letters, Argument.ofText text = .cluster letters ∧ scope.scanCluster letters = scan := by
  unfold optionScan? at h
  split at h <;> rename_i htext
  · exact Or.inl ⟨_, _, htext, Option.some.inj h⟩
  · exact Or.inr ⟨_, htext, Option.some.inj h⟩
  · cases h
  · cases h

theorem advances_option {scope : Scope κ} (hstate : state.optionsEnded = false) {text : String}
    {occurrences : List Occurrence} {awaiting? : Option Parameter}
    (h : scope.optionScan? text = some ⟨occurrences, .ok awaiting?⟩) :
    scope.Advances state [text] (valueless state.awaiting? ++ occurrences) { state with awaiting? } := by
  intro rest
  rw [List.singleton_append, scanFrom]
  rcases ofText_of_optionScan?_eq_some h with ⟨name, value?, htext, hscan⟩ | ⟨letters, htext, hscan⟩
  · simp only [hstate, htext, hscan, Bool.false_eq_true, if_false]
  · simp only [hstate, htext, hscan, Bool.false_eq_true, if_false]

theorem scanFrom_option_of_error {scope : Scope κ} (hstate : state.optionsEnded = false) {text : String}
    {occurrences : List Occurrence} {ending : Ending κ}
    (h : scope.optionScan? text = some ⟨occurrences, .error ending⟩) (rest : List String) :
    scope.scanFrom state (text :: rest) = ⟨valueless state.awaiting? ++ occurrences, ending⟩ := by
  rw [scanFrom]
  rcases ofText_of_optionScan?_eq_some h with ⟨name, value?, htext, hscan⟩ | ⟨letters, htext, hscan⟩
  · simp only [hstate, htext, hscan, Bool.false_eq_true, if_false]
  · simp only [hstate, htext, hscan, Bool.false_eq_true, if_false]

theorem advances_plain {scope : Scope κ} {p : Parameter} (hstate : state.optionsEnded = false)
    (hwaits : state.awaiting? = some p) {text : String} (h : Argument.ofText text = .plain text) :
    scope.Advances state [text] [⟨p, .separate text⟩] { state with awaiting? := none } := by
  intro rest
  rw [List.singleton_append, scanFrom]
  simp only [hstate, hwaits, h, Bool.false_eq_true, if_false]

theorem Advances.append {scope : Scope κ} {next last : State} {args args' : List String}
    {occurrences occurrences' : List Occurrence} (h : scope.Advances state args occurrences next)
    (h' : scope.Advances next args' occurrences' last) :
    scope.Advances state (args ++ args') (occurrences ++ occurrences') last := by
  intro rest
  rw [List.append_assoc, h, h', List.append_assoc]

theorem ofText_of_optionScan? {scope : Scope κ} {text : String} (htext : text ≠ "--")
    (h : scope.optionScan? text = none) : Argument.ofText text = .plain text := by
  rcases Argument.ofText_cases text with heq | ⟨name, value?, hlong⟩ | ⟨letters, hcluster⟩ | hplain
  · exact absurd heq htext
  · simp only [optionScan?, hlong] at h
    cases h
  · simp only [optionScan?, hcluster] at h
    cases h
  · exact hplain

theorem scanFrom_misplaced {scope : Scope κ} (hstate : state.optionsEnded = false) (hwaits : state.awaiting? = none)
    (hplace : state.place? = none) {text : String} (htext : Argument.ofText text = .plain text)
    (hword : scope.keyword? text = none) (rest : List String) :
    scope.scanFrom state (text :: rest) = ⟨[], .misuse (scope.misplaced false text)⟩ := by
  rw [scanFrom]
  simp only [hstate, hwaits, hplace, htext, hword, Bool.false_eq_true, if_false]

/-- One argument takes a scan without keywords to its next state, or stops it whatever comes behind. -/
theorem scanFrom_cases (scope : Scope Empty) (hstate : state.optionsEnded = false) {text : String}
    (htext : text ≠ "--") :
    (∃ occurrences next, next.optionsEnded = false ∧ scope.Advances state [text] occurrences next) ∨
      ∃ scan, ∀ rest, scope.scanFrom state (text :: rest) = scan := by
  cases hscan : scope.optionScan? text with
  | some scan =>
    obtain ⟨occurrences, next⟩ := scan
    cases next with
    | ok awaiting? => exact Or.inl ⟨_, { state with awaiting? }, hstate, advances_option hstate hscan⟩
    | error ending => exact Or.inr ⟨_, scanFrom_option_of_error hstate hscan⟩
  | none =>
    have hplain := ofText_of_optionScan? htext hscan
    cases hwaits : state.awaiting? with
    | some p => exact Or.inl ⟨_, { state with awaiting? := none }, hstate, advances_plain hstate hwaits hplain⟩
    | none =>
      -- There is no keyword, so the argument takes the free place or has none.
      have hword : scope.keyword? text = none := Option.eq_none_iff_forall_ne_some.mpr fun word => nomatch word
      cases hplace : state.place? with
      | some p =>
        refine Or.inl ⟨[⟨p, .separate text⟩], { state with place? := none }, hstate, fun rest => ?_⟩
        rw [List.singleton_append, scanFrom]
        simp only [hstate, hwaits, hplain, hword, hplace, Bool.false_eq_true, if_false]
      | none => exact Or.inr ⟨_, scanFrom_misplaced hstate hwaits hplace hplain hword⟩

/-- The option for the level takes a scan to the same state, whichever value it has. -/
theorem advances_levelOption {scope : Scope κ} (hlevel : scope.ofLong? "log-level" = some .logLevel)
    (hstate : state.optionsEnded = false) {option option' : List String} (h : LevelOption R option option') :
    ∃ occurrences occurrences', List.Forall₂ (Occurrence.Alike R) occurrences occurrences' ∧
      scope.Advances state option occurrences { state with awaiting? := none } ∧
      scope.Advances state option' occurrences' { state with awaiting? := none } := by
  have hsame := Occurrence.forall₂_alike_refl R (valueless state.awaiting?)
  cases h with
  | @attached value value' h =>
    have hoption : ∀ value, scope.optionScan? (longOption "log-level" value) =
        some ⟨[⟨.logLevel, .attached value⟩], .ok none⟩ := by
      intro value
      simp only [optionScan?, Argument.ofText_longOption (show '=' ∉ "log-level".toList by decide), scanLong, hlevel]
      rfl
    exact ⟨_, _, List.rel_append hsame (.cons (.attached h) .nil), advances_option hstate (hoption value),
      advances_option hstate (hoption value')⟩
  | @separate value value' h hvalue hvalue' =>
    have hname : scope.optionScan? "--log-level" = some ⟨[], .ok (some .logLevel)⟩ := by
      have htext : Argument.ofText "--log-level" = .long "log-level" none := by decide
      simp only [optionScan?, htext, scanLong, hlevel]
      rfl
    have hadvances : ∀ value, Argument.ofText value = .plain value →
        scope.Advances state ["--log-level", value] (valueless state.awaiting? ++ [⟨.logLevel, .separate value⟩])
          { state with awaiting? := none } := by
      intro value hvalue
      have hwaits := advances_option hstate hname
      rw [List.append_nil] at hwaits
      have hnext : ({ state with awaiting? := some .logLevel } : State).optionsEnded = false := hstate
      exact hwaits.append (advances_plain hnext rfl hvalue)
    exact ⟨_, _, List.rel_append hsame (.cons (.separate h) .nil), hadvances value hvalue, hadvances value' hvalue'⟩

/-- Scans of arguments that differ in values for the level find the same but for these values, and end alike. -/
theorem scanFrom_relevelled (scope : Scope Empty) (hlevel : scope.ofLong? "log-level" = some .logLevel)
    {args args' : List String} (h : Relevelled R args args') (hstate : state.optionsEnded = false) :
    List.Forall₂ (Occurrence.Alike R) (scope.scanFrom state args).occurrences (scope.scanFrom state args').occurrences ∧
      (scope.scanFrom state args).ending = (scope.scanFrom state args').ending := by
  have hsame := Occurrence.forall₂_alike_refl R
  -- The induction is on the way in which the arguments differ, and both scans are in one state all along.
  induction h generalizing state with
  | same args => exact ⟨hsame _, rfl⟩
  | @other text args args' htext _ ih =>
    rcases scope.scanFrom_cases hstate htext with ⟨occurrences, next, hnext, hadvances⟩ | ⟨scan, hscan⟩
    · obtain ⟨hoccurrences, hending⟩ := ih hnext
      rw [show text :: args = [text] ++ args from rfl, show text :: args' = [text] ++ args' from rfl, hadvances,
        hadvances]
      exact ⟨List.rel_append (hsame _) hoccurrences, hending⟩
    · rw [hscan, hscan]
      exact ⟨hsame _, rfl⟩
  | level ho _ ih =>
    obtain ⟨occurrences, occurrences', halike, hadvances, hadvances'⟩ := advances_levelOption hlevel hstate ho
    have hnext : ({ state with awaiting? := none } : State).optionsEnded = false := hstate
    obtain ⟨hoccurrences, hending⟩ := ih hnext
    rw [hadvances, hadvances']
    exact ⟨List.rel_append halike hoccurrences, hending⟩

end Scope

theorem Occurrence.Alike.isPending_eq {o o' : Occurrence} (h : o.Alike R o') : o.isPending = o'.isPending := by
  cases h <;> rfl

theorem rel_getLast? {occurrences occurrences' : List Occurrence}
    (h : List.Forall₂ (Occurrence.Alike R) occurrences occurrences') :
    Option.Rel (Occurrence.Alike R) occurrences.getLast? occurrences'.getLast? := by
  have hreverse := List.rel_reverse h
  rw [← List.head?_reverse, ← List.head?_reverse]
  generalize occurrences.reverse = first, occurrences'.reverse = first' at hreverse
  cases hreverse with
  | nil => exact .none
  | cons hlast _ => exact .some hlast

theorem forall₂_settled {κ : Type} {occurrences occurrences' : List Occurrence}
    (h : List.Forall₂ (Occurrence.Alike R) occurrences occurrences') (ending : Ending κ) :
    List.Forall₂ (Occurrence.Alike R) (Scan.settled ⟨occurrences, ending⟩) (Scan.settled ⟨occurrences', ending⟩) := by
  have hlast := rel_getLast? h
  have hdrop : List.Forall₂ (Occurrence.Alike R) occurrences.dropLast occurrences'.dropLast := by
    rw [List.dropLast_eq_take, List.dropLast_eq_take, h.length_eq]
    exact List.forall₂_take _ h
  unfold Scan.settled
  generalize occurrences.getLast? = last?, occurrences'.getLast? = last?' at hlast
  cases hlast with
  | none => cases ending <;> exact h
  | @some last last' halike =>
    have hpending : List.Forall₂ (Occurrence.Alike R)
        (if last.isPending then occurrences.dropLast else occurrences)
        (if last'.isPending then occurrences'.dropLast else occurrences') := by
      rw [halike.isPending_eq]
      split
      · exact hdrop
      · exact h
    cases ending with
    | complete => exact h
    | display p => exact h
    | keyword word rest => exact hpending
    | misuse e => exact hpending

/-- What is settled before a keyword does not depend on the arguments behind it. -/
theorem settled_keyword {κ : Type} (occurrences : List Occurrence) (word : κ) (rest rest' : List String) :
    Scan.settled ⟨occurrences, .keyword word rest⟩ = Scan.settled ⟨occurrences, .keyword word rest'⟩ := by
  unfold Scan.settled
  cases occurrences.getLast? <;> rfl

/-! ### Settings -/

namespace Settings

theorem agree_read {s s' : Settings} (h : s.Alike R s') (hR : ∀ value, R value value) (p : Parameter) (text : String) :
    Agree (Settings.Alike R) (s.read p text) (s'.read p text) := by
  obtain ⟨h⟩ := h
  refine Agree.mapError ?_ _
  cases p with
  | logLevel => exact .ok (.relevel (.some (hR text)))
  | indent | output | demo | input | progLen | dataLen | scheme => exact .map_same _ fun value => .relevel h
  | strict | help | version => exact .ok (.relevel h)

theorem agree_read_level {s s' : Settings} (h : s.Alike R s') {value value' : String} (hvalue : R value value') :
    Agree (Settings.Alike R) (s.read .logLevel value) (s'.read .logLevel value') := by
  obtain ⟨h⟩ := h
  exact .ok (.relevel (.some hvalue))

/-- What is done with a parameter that is given for the first time. -/
def onFirst (s : Settings) (p : Parameter) (f : Settings → Except UsageError Settings) : Except UsageError Settings :=
  if p ∈ s.given then .error (.repeated p) else f { s with given := p :: s.given }

theorem add_switch (s : Settings) (p : Parameter) :
    s.add ⟨p, .switch⟩ = s.onFirst p fun s => .ok { s with strict := s.strict || p = .strict } := by
  by_cases h : p ∈ s.given <;> simp [add, onFirst, h] <;> rfl

theorem add_value (s : Settings) (p : Parameter) {given : Given} {text : String}
    (hgiven : given = .attached text ∨ given = .separate text) : s.add ⟨p, given⟩ = s.onFirst p (·.read p text) := by
  rcases hgiven with rfl | rfl <;> by_cases h : p ∈ s.given <;> simp [add, onFirst, h] <;> rfl

theorem agree_onFirst {s s' : Settings} {p : Parameter} {f f' : Settings → Except UsageError Settings}
    (h : s.Alike R s') (hf : ∀ {t t'}, t.Alike R t' → Agree (Settings.Alike R) (f t) (f' t')) :
    Agree (Settings.Alike R) (s.onFirst p f) (s'.onFirst p f') := by
  obtain ⟨h⟩ := h
  unfold onFirst
  split
  · exact .error _
  · exact hf (.relevel h)

/-- One more occurrence is refused for the same reason, or leaves settings that differ in the level at most. -/
theorem agree_add {s s' : Settings} (h : s.Alike R s') (hR : ∀ value, R value value) {o o' : Occurrence}
    (ho : o.Alike R o') : Agree (Settings.Alike R) (s.add o) (s'.add o') := by
  cases ho with
  | same o =>
    obtain ⟨p, given⟩ := o
    cases given with
    | switch =>
      rw [add_switch, add_switch]
      refine agree_onFirst h fun h => ?_
      obtain ⟨h⟩ := h
      exact .ok (.relevel h)
    | attached text =>
      rw [add_value s p (.inl rfl), add_value s' p (.inl rfl)]
      exact agree_onFirst h fun h => agree_read h hR p text
    | separate text =>
      rw [add_value s p (.inr rfl), add_value s' p (.inr rfl)]
      exact agree_onFirst h fun h => agree_read h hR p text
    | valueless => exact .error _
  | attached hvalue =>
    rw [add_value s _ (.inl rfl), add_value s' _ (.inl rfl)]
    exact agree_onFirst h fun h => agree_read_level h hvalue
  | separate hvalue =>
    rw [add_value s _ (.inr rfl), add_value s' _ (.inr rfl)]
    exact agree_onFirst h fun h => agree_read_level h hvalue

theorem agree_ofOccurrences (hR : ∀ value, R value value) {occurrences occurrences' : List Occurrence}
    (h : List.Forall₂ (Occurrence.Alike R) occurrences occurrences') :
    Agree (Settings.Alike R) (ofOccurrences occurrences) (ofOccurrences occurrences') := by
  have hstart : Settings.Alike R {} {} := .relevel .none
  exact Agree.foldlM h hstart fun hs ho => agree_add hs hR ho

end Settings

/-! ### Requests -/

theorem Command.agree_settings (hR : ∀ value, R value value) (c : Command) {args args' : List String}
    (h : Relevelled R args args') : Agree (Settings.Alike R) (c.settings args) (c.settings args') := by
  have hlevel : c.scope.ofLong? "log-level" = some .logLevel := by cases c <;> rfl
  have hstart : ({ place? := c.scope.positional? } : Scope.State).optionsEnded = false := rfl
  have hscan := c.scope.scanFrom_relevelled hlevel h hstart
  unfold Command.settings Scope.scan
  generalize c.scope.scanFrom _ args = scan, c.scope.scanFrom _ args' = scan' at hscan
  obtain ⟨occurrences, ending⟩ := scan
  obtain ⟨occurrences', ending'⟩ := scan'
  obtain ⟨hoccurrences, rfl⟩ : List.Forall₂ (Occurrence.Alike R) occurrences occurrences' ∧ ending = ending' := hscan
  have hsettings := Settings.agree_ofOccurrences hR (forall₂_settled hoccurrences ending)
  refine (hsettings.mapError Refusal.misuse).bind fun hs => ?_
  obtain ⟨hs⟩ := hs
  cases ending with
  | misuse e => exact .error _
  | display p => exact .error _
  | keyword word rest => nomatch word
  | complete =>
    dsimp only [Settings.conflict?]
    split
    · exact .error _
    · exact .ok (.relevel hs)

theorem eq_logLevel_or_display {p : Parameter} (h : p ∈ programOptions) : p = .logLevel ∨ p.kind = .display := by
  simp only [programOptions, List.mem_cons, List.not_mem_nil, or_false] at h
  rcases h with rfl | rfl | rfl
  · exact Or.inl rfl
  · exact Or.inr rfl
  · exact Or.inr rfl

/-- Of the options of the program only the level waits for a value in the next argument. -/
theorem awaiting?_of_optionScan? {text : String} (htext : text ≠ "--log-level") {occurrences : List Occurrence}
    {awaiting? : Option Parameter} (h : programScope.optionScan? text = some ⟨occurrences, .ok awaiting?⟩) :
    awaiting? = none := by
  rcases Scope.ofText_of_optionScan?_eq_some h with ⟨name, value?, hlong, hscan⟩ | ⟨letters, -, hscan⟩
  · cases hp : programScope.ofLong? name with
    | none =>
      simp only [Scope.scanLong, hp] at hscan
      cases hscan
    | some p =>
      have hname : p.long? = some name := by simpa using List.find?_some hp
      rcases eq_logLevel_or_display (List.mem_of_find?_eq_some hp) with rfl | hdisplay
      · cases hname
        cases value? with
        | none => exact absurd (Argument.eq_of_ofText_eq_long hlong) htext
        | some value =>
          cases hscan
          rfl
      · simp only [Scope.scanLong, hp, hdisplay] at hscan
        cases value? <;> cases hscan
  · cases letters with
    | nil =>
      cases hscan
      rfl
    | cons letter letters =>
      cases hp : programScope.ofShort? letter with
      | none =>
        simp only [Scope.scanCluster, hp] at hscan
        cases hscan
      | some p =>
        have hletter : p.short? = some letter := by simpa using List.find?_some hp
        rcases eq_logLevel_or_display (List.mem_of_find?_eq_some hp) with rfl | hdisplay
        · cases hletter
        · simp only [Scope.scanCluster, hp, hdisplay] at hscan
          cases hscan

/-- One argument before a command leaves the scan as it was, or stops it whatever comes behind. -/
theorem scanFrom_program_cases {text : String} (htext : text ≠ "--") (hlevel : text ≠ "--log-level")
    (hword : Keyword.ofName? text = none) :
    (∃ occurrences, programScope.Advances { place? := none } [text] occurrences { place? := none }) ∨
      ∃ scan, ∀ rest, programScope.scanFrom { place? := none } (text :: rest) = scan := by
  cases hscan : programScope.optionScan? text with
  | some scan =>
    obtain ⟨occurrences, next⟩ := scan
    cases next with
    | ok awaiting? =>
      obtain rfl := awaiting?_of_optionScan? hlevel hscan
      exact Or.inl ⟨_, Scope.advances_option rfl hscan⟩
    | error ending => exact Or.inr ⟨_, Scope.scanFrom_option_of_error rfl hscan⟩
  | none =>
    have hplain := Scope.ofText_of_optionScan? htext hscan
    exact Or.inr ⟨_, Scope.scanFrom_misplaced rfl rfl rfl hplain hword⟩

theorem scan_relevelledArguments {args args' : List String} (h : RelevelledArguments R args args') :
    List.Forall₂ (Occurrence.Alike R) (programScope.scan args).occurrences (programScope.scan args').occurrences ∧
      Ending.Alike R (programScope.scan args).ending (programScope.scan args').ending := by
  have hsame := Occurrence.forall₂_alike_refl R
  induction h with
  | same args => exact ⟨hsame _, .same _⟩
  | command c h =>
    rw [scan_command, scan_command]
    exact ⟨.nil, .command c h⟩
  | @other text args args' htext hlevel hword _ ih =>
    obtain ⟨hoccurrences, hending⟩ := ih
    rcases scanFrom_program_cases htext hlevel hword with ⟨occurrences, hadvances⟩ | ⟨scan, hscan⟩
    · have hstep : ∀ rest, programScope.scan (text :: rest) =
          ⟨occurrences ++ (programScope.scan rest).occurrences, (programScope.scan rest).ending⟩ := hadvances
      rw [hstep, hstep]
      exact ⟨List.rel_append (hsame _) hoccurrences, hending⟩
    · have hstop : ∀ rest, programScope.scan (text :: rest) = scan := hscan
      rw [hstop, hstop]
      exact ⟨hsame _, .same _⟩
  | @level option option' args args' ho _ ih =>
    obtain ⟨hoccurrences, hending⟩ := ih
    have hstart : ({ place? := none } : Scope.State).optionsEnded = false := rfl
    have hname : programScope.ofLong? "log-level" = some .logLevel := rfl
    obtain ⟨first, first', hfirst, hadvances, hadvances'⟩ := Scope.advances_levelOption hname hstart ho
    have hstep : programScope.scan (option ++ args) =
        ⟨first ++ (programScope.scan args).occurrences, (programScope.scan args).ending⟩ := hadvances args
    have hstep' : programScope.scan (option' ++ args') =
        ⟨first' ++ (programScope.scan args').occurrences, (programScope.scan args').ending⟩ := hadvances' args'
    rw [hstep, hstep']
    exact ⟨List.rel_append hfirst hoccurrences, hending⟩

theorem rel_getD_or (hR : ∀ value, R value value) {own own' before before' : Option String}
    (h : Option.Rel R own own') (hbefore : Option.Rel R before before') (default : String) :
    R ((own.or before).getD default) ((own'.or before').getD default) := by
  cases h with
  | some h => exact h
  | none =>
    cases hbefore with
    | some h => exact h
    | none => exact hR default

theorem agree_command (hR : ∀ value, R value value) (c : Command) {own own' : List String}
    (hown : Relevelled R own own') {occurrences occurrences' : List Occurrence}
    (h : List.Forall₂ (Occurrence.Alike R) occurrences occurrences') {args args' : List String}
    (hscan : programScope.scan args = ⟨occurrences, .keyword (.command c) own⟩)
    (hscan' : programScope.scan args' = ⟨occurrences', .keyword (.command c) own'⟩) :
    Agree (fun i i' => i.request = i'.request ∧ R i.logLevel i'.logLevel) (readArguments args)
      (readArguments args') := by
  rw [readArguments_of_scan hscan, readArguments_of_scan hscan', hscan, hscan']
  have hsettled := forall₂_settled h (Ending.keyword (Keyword.command c) own)
  rw [settled_keyword occurrences' (Keyword.command c) own own'] at hsettled
  -- The three parts that can fail: what is settled before the command, its own arguments, and all that is before it.
  refine ((Settings.agree_ofOccurrences hR hsettled).mapError Refusal.misuse).bind fun _ => ?_
  refine (c.agree_settings hR hown).bind fun hs => ?_
  refine ((Settings.agree_ofOccurrences hR h).mapError Refusal.misuse).bind fun hbefore => ?_
  obtain ⟨hs⟩ := hs
  obtain ⟨hbefore⟩ := hbefore
  refine .ok ⟨?_, rel_getD_or hR hs hbefore _⟩
  cases c <;> rfl

/-- Arguments that differ in values for the level are refused alike, or ask for the same. -/
theorem agree_readArguments (hR : ∀ value, R value value) {args args' : List String}
    (h : RelevelledArguments R args args') :
    Agree (fun i i' => i.request = i'.request ∧ R i.logLevel i'.logLevel) (readArguments args)
      (readArguments args') := by
  obtain ⟨hoccurrences, hending⟩ := scan_relevelledArguments h
  cases hscan : programScope.scan args with
  | mk occurrences ending =>
  cases hscan' : programScope.scan args' with
  | mk occurrences' ending' =>
  rw [hscan, hscan'] at hoccurrences hending
  cases hending with
  | command c hown => exact agree_command hR c hown hoccurrences hscan hscan'
  | same =>
    have hsettled := (Settings.agree_ofOccurrences hR (forall₂_settled hoccurrences ending)).mapError Refusal.misuse
    have hempty : occurrences.isEmpty = occurrences'.isEmpty := by cases hoccurrences <;> rfl
    cases ending with
    | keyword word rest =>
      cases word with
      | command c => exact agree_command hR c (.same rest) hoccurrences hscan hscan'
      | help =>
        rw [readArguments, readArguments, hscan, hscan']
        exact hsettled.bind fun _ => .error _
    | misuse e =>
      rw [readArguments, readArguments, hscan, hscan']
      exact hsettled.bind fun _ => .error _
    | display p =>
      rw [readArguments, readArguments, hscan, hscan']
      exact hsettled.bind fun _ => .error _
    | complete =>
      rw [readArguments, readArguments, hscan, hscan']
      dsimp only
      rw [hempty]
      exact hsettled.bind fun _ => .error _

end ProgramRom.CommandLine
