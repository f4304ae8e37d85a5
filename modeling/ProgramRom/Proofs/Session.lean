import Mathlib.Data.Nat.Find
import ProgramRom.Editing
import ProgramRom.Proofs.Cleaning

/-! # Cleaning in the course of editing

In a session of cleaning and appending, the program of the text is always that of the beginning and of all that
was appended since, in order: cleaning changes no program, and a strict cleaning that fails changes nothing at all.
A text that was just cleaned holds its symbols and nothing else, so what strict cleaning finds fault with was
appended after the last cleaning that succeeded. -/

namespace ProgramRom.Editing

open Operation Program

/-! ### Texts of a session -/

/-- The text after a list of steps. -/
def finalText (text : String) (steps : List Step) : String :=
  steps.foldl (fun text step => textAfter text (step.apply text).value) text

theorem getElem?_value_run (text : String) (steps : List Step) (i : Nat) :
    (run text steps).value[i]? = steps[i]?.map fun step => (step.apply (finalText text (steps.take i))).value := by
  induction steps generalizing text i with
  | nil => rfl
  | cons step steps ih =>
    rw [value_run_cons]
    cases i with
    | zero => rfl
    | succ i => exact ih (textAfter text (step.apply text).value) i

theorem finalText_take_of_none {steps : List Step} {k : Nat} (h : steps[k]? = none) (text : String) :
    finalText text (steps.take (k + 1)) = finalText text (steps.take k) := by
  rw [List.take_add_one, h, Option.toList_none, List.append_nil]

theorem finalText_take_of_some {steps : List Step} {k : Nat} {step : Step} (h : steps[k]? = some step)
    (text : String) :
    finalText text (steps.take (k + 1)) =
      textAfter (finalText text (steps.take k)) (step.apply (finalText text (steps.take k))).value := by
  rw [List.take_add_one, h, Option.toList_some, finalText, List.foldl_append]
  rfl

/-! ### Steps that clean and append -/

/-- A step that cleans the text or appends to it. -/
def Step.isEdit : Step → Bool
  | clean | cleanStrict | append _ => true
  | generate _ | generateStrict _ | demo _ => false

/-- The text that a step appends. -/
def Step.appended? : Step → Option String
  | append text => some text
  | _ => none

/-- The texts that were appended, in order. -/
def appended (steps : List Step) : List String := steps.filterMap Step.appended?

theorem appended_take_of_some {steps : List Step} {k : Nat} {step : Step} (h : steps[k]? = some step) :
    appended (steps.take (k + 1)) = appended (steps.take k) ++ step.appended?.toList := by
  rw [List.take_add_one, h, Option.toList_some, appended, List.filterMap_append]
  cases hstep : step.appended? with
  | none => rw [List.filterMap_cons_none hstep]; rfl
  | some more => rw [List.filterMap_cons_some hstep]; rfl

/-- The step at a place is a cleaning, and does not fail. -/
def CleansAt (text : String) (steps : List Step) (i : Nat) : Prop :=
  steps[i]? = some .clean ∨
    steps[i]? = some .cleanStrict ∧ ∃ change, (run text steps).value[i]? = some (.ok change)

theorem value_apply_cleanStrict_of_ok {text : String} {p : Program} (h : ofStrictSource text = .ok p) :
    (Step.cleanStrict.apply text).value = .ok ⟨(ofSource text).toSource, none⟩ := by
  simp only [Step.apply, h, Log.Recorded.value_pure]
  rw [(ofStrictSource_eq_ok_iff.mp h).2]
  rfl

theorem value_apply_cleanStrict_of_error {text : String} {e : UnknownSymbol} (h : ofStrictSource text = .error e) :
    (Step.cleanStrict.apply text).value = .error (.unknownSymbol e) := by
  simp only [Step.apply, h, Log.Recorded.value_pure]
  rfl

theorem exists_error_iff_hasStray {text : String} {steps : List Step} {i : Nat}
    (h : steps[i]? = some .cleanStrict) :
    (∃ e, (run text steps).value[i]? = some (.error e)) ↔ HasStray (finalText text (steps.take i)) := by
  rw [getElem?_value_run, h, Option.map_some, ← exists_ofStrictSource_eq_error_iff]
  cases hstrict : ofStrictSource (finalText text (steps.take i)) with
  | ok p => simp [value_apply_cleanStrict_of_ok hstrict]
  | error e => simp [value_apply_cleanStrict_of_error hstrict]

/-- What a step can do: clean the text, append to it, or fail and leave it. -/
theorem step_cases (text : String) {steps : List Step} {k : Nat} {step : Step} (hk : steps[k]? = some step)
    (hedit : step.isEdit = true) :
    (CleansAt text steps k ∧ step.appended? = none ∧
      finalText text (steps.take (k + 1)) = (ofSource (finalText text (steps.take k))).toSource) ∨
    (¬CleansAt text steps k ∧ ∃ more, step = .append more ∧
      finalText text (steps.take (k + 1)) = finalText text (steps.take k) ++ more) ∨
    (¬CleansAt text steps k ∧ step.appended? = none ∧
      finalText text (steps.take (k + 1)) = finalText text (steps.take k)) := by
  have hanswer := getElem?_value_run text steps k
  rw [finalText_take_of_some hk]
  rw [hk, Option.map_some] at hanswer
  cases step with
  | clean => exact Or.inl ⟨Or.inl hk, rfl, rfl⟩
  | append more => exact Or.inr (Or.inl ⟨by simp [CleansAt, hk], more, rfl, rfl⟩)
  | cleanStrict =>
    cases hstrict : ofStrictSource (finalText text (steps.take k)) with
    | ok p =>
      rw [value_apply_cleanStrict_of_ok hstrict] at hanswer ⊢
      exact Or.inl ⟨Or.inr ⟨hk, _, hanswer⟩, rfl, rfl⟩
    | error e =>
      rw [value_apply_cleanStrict_of_error hstrict] at hanswer ⊢
      exact Or.inr (Or.inr ⟨by simp [CleansAt, hk, hanswer], rfl, rfl⟩)
  | generate _ => cases hedit
  | generateStrict _ => cases hedit
  | demo _ => cases hedit

/-! ### What a session keeps -/

section
variable {text : String} {steps : List Step} (hedits : ∀ step ∈ steps, step.isEdit = true)
include hedits

theorem operations_finalText (k : Nat) :
    (ofSource (finalText text (steps.take k))).operations =
      (text :: appended (steps.take k)).flatMap fun t => (ofSource t).operations := by
  induction k with
  | zero => simp [finalText, appended]
  | succ k ih =>
    cases hk : steps[k]? with
    | none => rw [finalText_take_of_none hk, ih, List.take_add_one, hk, Option.toList_none, List.append_nil]
    | some step =>
      rw [appended_take_of_some hk, ← List.cons_append, List.flatMap_append, ← ih]
      rcases step_cases text hk (hedits step (List.mem_of_getElem? hk)) with
        ⟨-, hnone, htext⟩ | ⟨-, more, rfl, htext⟩ | ⟨-, hnone, htext⟩
      · rw [htext, ofSource_toSource, hnone]
        simp
      · rw [htext, operations_ofSource_append]
        simp [Step.appended?]
      · rw [htext, hnone]
        simp

theorem toSource_finalText_of_cleansAt {i : Nat} (h : CleansAt text steps i) :
    finalText text (steps.take (i + 1)) = (ofSource (finalText text (steps.take (i + 1)))).toSource := by
  obtain ⟨step, hi⟩ : ∃ step, steps[i]? = some step := by
    rcases h with h | ⟨h, -⟩ <;> exact ⟨_, h⟩
  rcases step_cases text hi (hedits step (List.mem_of_getElem? hi)) with ⟨-, -, htext⟩ | ⟨hnot, -⟩ | ⟨hnot, -⟩
  · rw [htext, ofSource_toSource]
  · exact absurd h hnot
  · exact absurd h hnot

/-- Right after a cleaning the text is the symbols of the beginning and of all that was appended. -/
theorem finalText_of_cleansAt {i : Nat} (h : CleansAt text steps i) :
    finalText text (steps.take (i + 1)) =
      String.ofList ((text :: appended (steps.take (i + 1))).flatMap fun t => t.toList.filter (· ∈ symbols)) := by
  rw [toSource_finalText_of_cleansAt hedits h, toSource, operations_finalText hedits, List.map_flatMap]
  simp only [ofSource, map_symbol_filterMap]

/-- As long as nothing more was cleaned, the strays of the text are those of what was appended. -/
theorem hasStray_finalText_iff {m k : Nat} (hm : CleansAt text steps m) (hmk : m < k)
    (hlast : ∀ l, m < l → l < k → ¬CleansAt text steps l) :
    HasStray (finalText text (steps.take k)) ↔
      ∃ l more, m < l ∧ l < k ∧ steps[l]? = some (.append more) ∧ HasStray more := by
  induction k, hmk using Nat.le_induction with
  | base =>
    rw [toSource_finalText_of_cleansAt hedits hm]
    constructor
    · exact fun hstray => absurd hstray (not_hasStray_toSource _)
    · rintro ⟨l, -, hml, hlm, -⟩
      omega
  | succ k hmk ih =>
    have ih := ih fun l hml hlk => hlast l hml (Nat.lt_succ_of_lt hlk)
    -- An append at `k` itself is the only one that the shorter run does not know.
    have hsplit : (∃ l more, m < l ∧ l < k + 1 ∧ steps[l]? = some (.append more) ∧ HasStray more) ↔
        HasStray (finalText text (steps.take k)) ∨ ∃ more, steps[k]? = some (.append more) ∧ HasStray more := by
      rw [ih]
      constructor
      · rintro ⟨l, more, hml, hlk, hl, hstray⟩
        rcases Nat.lt_succ_iff_lt_or_eq.mp hlk with hlk | rfl
        · exact Or.inl ⟨l, more, hml, hlk, hl, hstray⟩
        · exact Or.inr ⟨more, hl, hstray⟩
      · rintro (⟨l, more, hml, hlk, hl, hstray⟩ | ⟨more, hl, hstray⟩)
        · exact ⟨l, more, hml, Nat.lt_succ_of_lt hlk, hl, hstray⟩
        · exact ⟨k, more, hmk, Nat.lt_succ_self k, hl, hstray⟩
    rw [hsplit]
    cases hk : steps[k]? with
    | none => simp [finalText_take_of_none hk]
    | some step =>
      have hnot := hlast k hmk (Nat.lt_succ_self k)
      rcases step_cases text hk (hedits step (List.mem_of_getElem? hk)) with
        ⟨hcleans, -⟩ | ⟨-, more, rfl, htext⟩ | ⟨-, hnone, htext⟩
      · exact absurd hcleans hnot
      · rw [htext, hasStray_append]
        simp
      · rw [htext, or_iff_left]
        rintro ⟨more, hmore, -⟩
        obtain rfl := Option.some.inj hmore
        cases hnone

end

/-- In any sequence of cleaning, strict cleaning and appending, the program of the text is after every step that of
the beginning and of all that was appended, in order. Right after a cleaning that does not fail the text is the
symbols of these and nothing else. Once the text was cleaned, strict cleaning fails exactly when a text appended
since the last cleaning that did not fail has a stray. -/
theorem session_keeps_program (text : String) (steps : List Step) (h : ∀ step ∈ steps, step.isEdit = true) :
    (∀ k, (ofSource (finalText text (steps.take k))).operations =
      (text :: appended (steps.take k)).flatMap fun t => (ofSource t).operations) ∧
    (∀ i, CleansAt text steps i → finalText text (steps.take (i + 1)) =
      String.ofList ((text :: appended (steps.take (i + 1))).flatMap fun t => t.toList.filter (· ∈ symbols))) ∧
    ∀ i j, i < j → steps[i]? = some .clean → steps[j]? = some .cleanStrict →
      ∃ m, i ≤ m ∧ m < j ∧ CleansAt text steps m ∧ (∀ l, m < l → l < j → ¬CleansAt text steps l) ∧
        ((∃ e, (run text steps).value[j]? = some (.error e)) ↔
          ∃ l more, m < l ∧ l < j ∧ steps[l]? = some (.append more) ∧ HasStray more) := by
  refine ⟨operations_finalText h, fun i => finalText_of_cleansAt h, fun i j hij hi hj => ?_⟩
  classical
  -- The last cleaning before `j` that does not fail; the one at `i` shows that there is one.
  let m := Nat.findGreatest (CleansAt text steps) (j - 1)
  have him : i ≤ m := Nat.le_findGreatest (by omega) (Or.inl hi)
  have hmj : m < j := by
    have := Nat.findGreatest_le (P := CleansAt text steps) (j - 1)
    omega
  have hm : CleansAt text steps m := Nat.findGreatest_spec (m := i) (by omega) (Or.inl hi)
  have hlast : ∀ l, m < l → l < j → ¬CleansAt text steps l := fun l hml hlj =>
    Nat.findGreatest_is_greatest hml (by omega)
  refine ⟨m, him, hmj, hm, hlast, ?_⟩
  rw [exists_error_iff_hasStray hj, hasStray_finalText_iff h hm hmj hlast]

/-- A session with two strict cleanings that fail, one before the text was ever cleaned. -/
def interleaved : List Step :=
  [.append "x-", .cleanStrict, .clean, .append " [", .cleanStrict, .append "ī]", .cleanStrict, .append "."]

/-- What fails at the last strict cleaning was appended after the one that succeeded. -/
theorem session_keeps_program_interleaved :
    (∀ step ∈ interleaved, step.isEdit = true) ∧
      (ofSource (finalText "a+" interleaved)).operations =
        [.increment, .decrement, .jumpForward, .jumpBackward, .output] ∧
      finalText "a+" (interleaved.take 5) = "+-[" ∧
      ∃ e, (run "a+" interleaved).value[6]? = some (.error e) := by
  have hedits : ∀ step ∈ interleaved, step.isEdit = true := by decide
  obtain ⟨hprogram, hclean, hstrict⟩ := session_keeps_program "a+" interleaved hedits
  refine ⟨hedits, (hprogram 8).trans (by decide), (hclean 4 (Or.inr ⟨rfl, _, rfl⟩)).trans (by decide), ?_⟩
  obtain ⟨m, -, hmj, hcleans, -, hfails⟩ := hstrict 2 6 (by decide) rfl rfl
  have hm : m ≠ 5 := by
    rintro rfl
    rcases hcleans with h | ⟨h, -⟩ <;> exact absurd h (by decide)
  exact hfails.mpr ⟨5, "ī]", by omega, by decide, rfl, 'ī', by decide, by decide, by decide⟩

end ProgramRom.Editing
