import Mathlib.Data.List.Forall2

/-! # Computations that may fail

A computation in parts succeeds when its parts do. Two computations agree when they fail alike, or succeed with values
that belong together; so a computation in parts agrees with another one part by part. -/

namespace ProgramRom

variable {ε ε' α α' β β' : Type}

/-- A computation that succeeds has two parts that succeed. -/
theorem bind_eq_ok {x : Except ε α} {f : α → Except ε β} {b : β} (h : x >>= f = .ok b) :
    ∃ a, x = .ok a ∧ f a = .ok b := by
  cases x with
  | error e => cases h
  | ok a => exact ⟨a, rfl, h⟩

/-- A computation that fails has a part that fails, and the parts before it succeed. -/
theorem bind_eq_error {x : Except ε α} {f : α → Except ε β} {e : ε} (h : x >>= f = .error e) :
    x = .error e ∨ ∃ a, x = .ok a ∧ f a = .error e := by
  cases x with
  | error e' =>
    cases h
    exact Or.inl rfl
  | ok a => exact Or.inr ⟨a, rfl, h⟩

theorem exists_error_iff {x : Except ε α} : (∃ e, x = .error e) ↔ ¬∃ a, x = .ok a := by
  cases x with
  | error e => exact ⟨fun _ ⟨_, h⟩ => (by cases h), fun _ => ⟨e, rfl⟩⟩
  | ok a => exact ⟨fun ⟨_, h⟩ => (by cases h), fun h => absurd ⟨a, rfl⟩ h⟩

theorem elim_eq_ok_iff {x : Option α} {e : ε} {a : α} : x.elim (Except.error e) Except.ok = .ok a ↔ x = some a := by
  cases x with
  | none => exact ⟨fun h => (by cases h), fun h => (by cases h)⟩
  | some a' => rw [Option.elim_some, Except.ok.injEq, Option.some.injEq]

/-- Both fail for the same reason, or both succeed and their values are related. -/
inductive Agree (R : α → α' → Prop) : Except ε α → Except ε α' → Prop
  | error (e : ε) : Agree R (.error e) (.error e)
  | ok {a : α} {a' : α'} (h : R a a') : Agree R (.ok a) (.ok a')

namespace Agree

variable {R : α → α' → Prop} {S : β → β' → Prop} {x : Except ε α} {x' : Except ε α'}

theorem cases_eq (h : Agree R x x') :
    (∃ e, x = .error e ∧ x' = .error e) ∨ ∃ a a', x = .ok a ∧ x' = .ok a' ∧ R a a' := by
  cases h with
  | error e => exact Or.inl ⟨e, rfl, rfl⟩
  | ok h => exact Or.inr ⟨_, _, rfl, rfl, h⟩

theorem bind {f : α → Except ε β} {f' : α' → Except ε β'} (h : Agree R x x')
    (hf : ∀ {a a'}, R a a' → Agree S (f a) (f' a')) : Agree S (x >>= f) (x' >>= f') := by
  cases h with
  | error e => exact .error e
  | ok h => exact hf h

theorem map_same (x : Except ε α) {f : α → β} {f' : α → β'} (h : ∀ a, S (f a) (f' a)) :
    Agree S (x.map f) (x.map f') := by
  cases x with
  | error e => exact .error e
  | ok a => exact .ok (h a)

theorem mapError (h : Agree R x x') (f : ε → ε') : Agree R (x.mapError f) (x'.mapError f) := by
  cases h with
  | error e => exact .error (f e)
  | ok h => exact .ok h

/-- Folds agree over lists that are related item by item, if each step keeps the relation. -/
theorem foldlM {f : β → α → Except ε β} {f' : β' → α' → Except ε β'} {xs : List α} {xs' : List α'} {b : β} {b' : β'}
    (hxs : List.Forall₂ R xs xs') (hb : S b b')
    (hf : ∀ {b b' a a'}, S b b' → R a a' → Agree S (f b a) (f' b' a')) :
    Agree S (xs.foldlM f b) (xs'.foldlM f' b') := by
  induction hxs generalizing b b' with
  | nil => exact .ok hb
  | cons ha _ ih =>
    rw [List.foldlM_cons, List.foldlM_cons]
    exact (hf hb ha).bind ih

end Agree

end ProgramRom
