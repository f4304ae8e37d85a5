import Mathlib.Data.List.DropRight
import ProgramRom.Proofs.Cleaning

/-! # Where strict cleaning stops

A position is counted along the characters that were passed: a newline begins a line, and every other character takes
a column, be it blank or not. So the position of a stray says how many newlines stand before it, and how many
characters stand between the last of them and the stray. -/

namespace ProgramRom

open Operation

namespace Position

theorem after_concat (before : List Char) (c : Char) : after (before ++ [c]) = (after before).advance c := by
  rw [after, List.foldl_append]
  rfl

/-- The line counts the newlines passed, the column the characters passed since the last of them. -/
theorem after_eq (before : List Char) :
    after before = ⟨1 + before.count '\n', 1 + (before.rtakeWhile (· ≠ '\n')).length⟩ := by
  -- One more character at the end: a newline leaves nothing behind itself, any other one adds to what was there.
  induction before using List.reverseRecOn with
  | nil => rfl
  | append_singleton before c ih =>
    rw [after_concat, ih, List.count_append, List.rtakeWhile_concat]
    by_cases hc : c = '\n'
    · subst hc
      simp [advance, Nat.add_assoc]
    · simp [advance, hc, Nat.add_assoc]

end Position

namespace Program

theorem isAdmissible_of_forall {cs : List Char} (h : ∀ c ∈ cs, c ∈ symbols ∨ Text.isBlank c = true) :
    ∀ c ∈ cs, isAdmissible c = true :=
  fun c hc => isAdmissible_iff.mpr (h c hc)

theorem ofStrictSource_of_split {s : String} {before behind : List Char} {c : Char}
    (hs : s.toList = before ++ c :: behind) (hbefore : ∀ b ∈ before, b ∈ symbols ∨ Text.isBlank b = true)
    (hc : c ∉ symbols ∧ Text.isBlank c = false) :
    ofStrictSource s = .error ⟨⟨1 + before.count '\n', 1 + (before.rtakeWhile (· ≠ '\n')).length⟩, c⟩ := by
  rw [ofStrictSource_of_stray hs (isAdmissible_of_forall hbefore) (isAdmissible_eq_false_iff.mpr hc),
    Position.after_eq]

/-- Every source that is refused can be split at its first stray. -/
theorem exists_split_of_error {s : String} {e : UnknownSymbol} (h : ofStrictSource s = .error e) :
    ∃ before c behind, s.toList = before ++ c :: behind ∧ (∀ b ∈ before, b ∈ symbols ∨ Text.isBlank b = true) ∧
      c ∉ symbols ∧ Text.isBlank c = false := by
  rcases admissible_or_stray s.toList with hall | ⟨before, c, behind, hs, hbefore, hc⟩
  · rw [ofStrictSource_of_admissible hall] at h
    cases h
  · exact ⟨before, c, behind, hs, fun b hb => isAdmissible_iff.mp (hbefore b hb), isAdmissible_eq_false_iff.mp hc⟩

/-- Strict cleaning takes exactly the sources of symbols and blanks, with the program that cleaning gives. Of any other
source it reports the first character that is neither, on the line that the newlines before it make, at the column that
the characters behind the last newline make. What stands behind that character makes no difference. -/
theorem strict_cleaning_verdict (s : String) :
    (∀ p, ofStrictSource s = .ok p ↔
      (∀ c ∈ s.toList, c ∈ symbols ∨ Text.isBlank c = true) ∧ p = ofSource s) ∧
    (∀ e, ofStrictSource s = .error e ↔
      ∃ before c behind, s.toList = before ++ c :: behind ∧ (∀ b ∈ before, b ∈ symbols ∨ Text.isBlank b = true) ∧
        (c ∉ symbols ∧ Text.isBlank c = false) ∧
        e = ⟨⟨1 + before.count '\n', 1 + (before.rtakeWhile (· ≠ '\n')).length⟩, c⟩) ∧
    ∀ before c behind, s.toList = before ++ c :: behind → (∀ b ∈ before, b ∈ symbols ∨ Text.isBlank b = true) →
      c ∉ symbols ∧ Text.isBlank c = false →
        ∀ other, ofStrictSource (String.ofList (before ++ c :: other)) = ofStrictSource s := by
  refine ⟨fun p => ?_, fun e => ⟨fun h => ?_, ?_⟩, ?_⟩
  · rw [ofStrictSource_eq_ok_iff]
    simp only [isAdmissible_iff]
  · obtain ⟨before, c, behind, hs, hbefore, hc⟩ := exists_split_of_error h
    rw [ofStrictSource_of_split hs hbefore hc] at h
    exact ⟨before, c, behind, hs, hbefore, hc, (Except.error.inj h).symm⟩
  · rintro ⟨before, c, behind, hs, hbefore, hc, rfl⟩
    exact ofStrictSource_of_split hs hbefore hc
  · intro before c behind hs hbefore hc other
    rw [ofStrictSource_of_split hs hbefore hc, ofStrictSource_of_split String.toList_ofList hbefore hc]

/-- Of the separators of lines and of the wide blanks before the stray, only the newline begins a line. -/
theorem strict_cleaning_verdict_separators :
    ofStrictSource "+\r\u0085[\u2028\u2029\n\t\u3000é]-" = .error ⟨⟨2, 3⟩, 'é'⟩ ∧
      ofStrictSource "+\r\u0085[\u2028\u2029\n\t\u3000é" = .error ⟨⟨2, 3⟩, 'é'⟩ ∧
      ofStrictSource "+\r\u0085[\u2028\u2029\n\t\u3000]-" =
        .ok ⟨[.increment, .jumpForward, .jumpBackward, .decrement]⟩ := by
  obtain ⟨-, hrefused, hother⟩ := strict_cleaning_verdict "+\r\u0085[\u2028\u2029\n\t\u3000é]-"
  obtain ⟨htaken, -⟩ := strict_cleaning_verdict "+\r\u0085[\u2028\u2029\n\t\u3000]-"
  let before : List Char := ['+', '\r', '\u0085', '[', '\u2028', '\u2029', '\n', '\t', '\u3000']
  have hall : (before ++ [']', '-']).all isAdmissible = true := by decide
  have hadmissible : ∀ c ∈ before ++ [']', '-'], c ∈ symbols ∨ Text.isBlank c = true :=
    fun c hc => isAdmissible_iff.mp (List.all_eq_true.mp hall c hc)
  have hbefore : ∀ b ∈ before, b ∈ symbols ∨ Text.isBlank b = true :=
    fun b hb => hadmissible b (List.mem_append_left _ hb)
  have herror : ofStrictSource "+\r\u0085[\u2028\u2029\n\t\u3000é]-" = .error ⟨⟨2, 3⟩, 'é'⟩ :=
    (hrefused _).mpr ⟨before, 'é', [']', '-'], rfl, hbefore, by decide, by decide⟩
  refine ⟨herror, ?_, (htaken _).mpr ⟨hadmissible, by decide⟩⟩
  rw [← herror]
  exact hother before 'é' [']', '-'] rfl hbefore (by decide) []

end Program

end ProgramRom
