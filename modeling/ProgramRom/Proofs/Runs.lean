/-! # Runs in a text

A run of characters of one kind ends where a character of another kind follows, or where the text does. That fixes what
is taken of the text and what is left of it, so a run ends in only one place. A text that is cut at a separator is a run
of other characters in front of it. -/

namespace ProgramRom.Text

variable {α : Type} {kind : α → Bool} {run run' rest rest' : List α} {a : α}

/-- A text that does not go on with a character of the kind. -/
def Stops (kind : α → Bool) (rest : List α) : Prop := ∀ a, rest.head? = some a → kind a = false

theorem stops_nil : Stops kind [] := fun _ h => by cases h

theorem stops_cons (h : kind a = false) : Stops kind (a :: rest) := fun _ ha => by
  cases ha
  exact h

theorem stops_append (hrun : Stops kind run) (hrest : Stops kind rest) : Stops kind (run ++ rest) := by
  cases run with
  | nil => exact hrest
  | cons a as => exact hrun

theorem takeWhile_run (hrun : ∀ a ∈ run, kind a = true) (hrest : Stops kind rest) :
    (run ++ rest).takeWhile kind = run := by
  rw [List.takeWhile_append_of_pos hrun]
  cases rest with
  | nil => exact List.append_nil run
  | cons a as => rw [List.takeWhile_cons_of_neg (by simp [hrest a rfl]), List.append_nil]

theorem dropWhile_run (hrun : ∀ a ∈ run, kind a = true) (hrest : Stops kind rest) :
    (run ++ rest).dropWhile kind = rest := by
  rw [List.dropWhile_append_of_pos hrun]
  cases rest with
  | nil => rfl
  | cons a as => rw [List.dropWhile_cons_of_neg (by simp [hrest a rfl])]

/-- A run ends in only one place. -/
theorem run_unique (hrun : ∀ a ∈ run, kind a = true) (hrun' : ∀ a ∈ run', kind a = true)
    (hrest : Stops kind rest) (hrest' : Stops kind rest') (h : run ++ rest = run' ++ rest') :
    run = run' ∧ rest = rest' := by
  constructor
  · rw [← takeWhile_run hrun hrest, h, takeWhile_run hrun' hrest']
  · rw [← dropWhile_run hrun hrest, h, dropWhile_run hrun' hrest']

/-! ### Cuts at a separator -/

section Separator
variable [DecidableEq α]

theorem stops_eq (h : rest.head? ≠ some a) : Stops (· = a) rest := by
  intro x hx
  exact decide_eq_false fun heq => h (heq ▸ hx)

theorem decide_ne_of_not_mem (h : a ∉ run) : ∀ x ∈ run, decide (x ≠ a) = true := by
  intro x hx
  exact decide_eq_true fun heq => h (heq ▸ hx)

theorem stops_ne (h : rest.head? = some a) : Stops (· ≠ a) rest := by
  intro x hx
  rw [h, Option.some.injEq] at hx
  simp [hx]

theorem takeWhile_ne (hrun : a ∉ run) (hrest : rest.head? = some a) : (run ++ rest).takeWhile (· ≠ a) = run :=
  takeWhile_run (decide_ne_of_not_mem hrun) (stops_ne hrest)

theorem dropWhile_ne (hrun : a ∉ run) (hrest : rest.head? = some a) : (run ++ rest).dropWhile (· ≠ a) = rest :=
  dropWhile_run (decide_ne_of_not_mem hrun) (stops_ne hrest)

end Separator

end ProgramRom.Text
