import Mathlib.Algebra.Group.Nat.Defs
import ProgramRom.CaseTable
import ProgramRom.Memory.Scheme
import ProgramRom.Proofs.AddressWidth

/-! # The stack of open brackets

While the jump table is built the core keeps the addresses of the brackets that are still open. An operation
changes the height of that stack by at most one. So the stack never has more entries than operations were seen,
and if it is empty at the end it never has more entries than operations are left: half the program is enough.
Both bounds are reached, and with a bracket left open half is too little. -/

namespace ProgramRom

namespace BracketStack

/-- The addresses of the open brackets, the last one first, after one more entry. A closing bracket without an
open one changes nothing. -/
def step (stack : List Address) (e : CaseEntry) : List Address :=
  match e.operation with
  | .jumpForward => e.address :: stack
  | .jumpBackward => stack.tail
  | _ => stack

def run (stack : List Address) (es : List CaseEntry) : List Address := es.foldl step stack

/-- The stack after the first `k` operations of a program. -/
def after (p : Program) (k : Nat) : List Address := run [] ((CaseTable.ofProgram p).entries.take k)

/-- The stack at the end of a program: the brackets that are never closed. -/
def unmatched (p : Program) : List Address := run [] (CaseTable.ofProgram p).entries

/-! ### One step -/

theorem length_step_le (stack : List Address) (e : CaseEntry) : (step stack e).length ≤ stack.length + 1 := by
  unfold step
  split
  · exact Nat.le_refl _
  · rw [List.length_tail]
    omega
  · exact Nat.le_succ _

theorem length_le_step (stack : List Address) (e : CaseEntry) : stack.length ≤ (step stack e).length + 1 := by
  unfold step
  split
  · rw [List.length_cons]
    omega
  · rw [List.length_tail]
    omega
  · exact Nat.le_succ _

theorem mem_step {stack : List Address} {e : CaseEntry} {a : Address} (h : a ∈ step stack e) :
    a = e.address ∨ a ∈ stack := by
  unfold step at h
  split at h
  · exact List.mem_cons.mp h
  · exact Or.inr (List.mem_of_mem_tail h)
  · exact Or.inr h

/-! ### Runs -/

theorem run_append (stack : List Address) (es fs : List CaseEntry) : run stack (es ++ fs) = run (run stack es) fs :=
  List.foldl_append

theorem length_run_le (stack : List Address) (es : List CaseEntry) :
    (run stack es).length ≤ stack.length + es.length := by
  induction es generalizing stack with
  | nil => exact Nat.le_refl _
  | cons e es ih =>
    have hstep := length_step_le stack e
    have hrun : (run stack (e :: es)).length ≤ (step stack e).length + es.length := ih (step stack e)
    rw [List.length_cons]
    omega

theorem length_le_run (stack : List Address) (es : List CaseEntry) :
    stack.length ≤ (run stack es).length + es.length := by
  induction es generalizing stack with
  | nil => exact Nat.le_refl _
  | cons e es ih =>
    have hstep := length_le_step stack e
    have hrun : (step stack e).length ≤ (run stack (e :: es)).length + es.length := ih (step stack e)
    rw [List.length_cons]
    omega

theorem mem_run {stack : List Address} {es : List CaseEntry} {a : Address} (h : a ∈ run stack es) :
    (∃ e ∈ es, a = e.address) ∨ a ∈ stack := by
  induction es generalizing stack with
  | nil => exact Or.inr h
  | cons e es ih =>
    rcases ih h with ⟨e', he', ha⟩ | ha
    · exact Or.inl ⟨e', List.mem_cons_of_mem _ he', ha⟩
    · rcases mem_step ha with ha | ha
      · exact Or.inl ⟨e, List.mem_cons_self, ha⟩
      · exact Or.inr ha

/-- Opening brackets are all pushed. -/
theorem length_run_of_forward {es : List CaseEntry} {n : Nat}
    (h : es.map CaseEntry.operation = List.replicate n .jumpForward) (stack : List Address) :
    (run stack es).length = stack.length + n := by
  induction n generalizing es stack with
  | zero =>
    rw [List.map_eq_nil_iff.mp h]
    rfl
  | succ n ih =>
    obtain ⟨e, es, rfl, he, hes⟩ := List.map_eq_cons_iff.mp h
    have hstep : step stack e = e.address :: stack := by rw [step, he]
    have hrun : (run stack (e :: es)).length = (step stack e).length + n := ih hes (step stack e)
    rw [hrun, hstep, List.length_cons]
    omega

/-- Closing brackets pop one entry each, as long as there are entries. -/
theorem length_run_of_backward {es : List CaseEntry} {n : Nat}
    (h : es.map CaseEntry.operation = List.replicate n .jumpBackward) (stack : List Address) :
    (run stack es).length = stack.length - n := by
  induction n generalizing es stack with
  | zero =>
    rw [List.map_eq_nil_iff.mp h]
    rfl
  | succ n ih =>
    obtain ⟨e, es, rfl, he, hes⟩ := List.map_eq_cons_iff.mp h
    have hstep : step stack e = stack.tail := by rw [step, he]
    have hrun : (run stack (e :: es)).length = (step stack e).length - n := ih hes (step stack e)
    rw [hrun, hstep, List.length_tail]
    omega

/-! ### Programs -/

theorem address_lt_length {p : Program} {e : CaseEntry} (h : e ∈ (CaseTable.ofProgram p).entries) :
    e.address.index < p.length := by
  obtain ⟨⟨op, i⟩, hmem, rfl⟩ := List.mem_map.mp h
  obtain ⟨hi, -⟩ := List.getElem?_eq_some_iff.mp (List.mem_zipIdx_iff_getElem?.mp hmem)
  exact hi

theorem length_entries_take (p : Program) (k : Nat) :
    ((CaseTable.ofProgram p).entries.take k).length ≤ p.length := by
  rw [← CaseTable.length_ofProgram, CaseTable.length]
  exact List.length_take_le' k _

theorem unmatched_eq (p : Program) (k : Nat) :
    unmatched p = run (after p k) ((CaseTable.ofProgram p).entries.drop k) := by
  rw [after, ← run_append, List.take_append_drop, unmatched]

/-- The stack never has more entries than the program has operations. -/
theorem length_after_le (p : Program) (k : Nat) : (after p k).length ≤ p.length := by
  have hrun := length_run_le [] ((CaseTable.ofProgram p).entries.take k)
  have htake := length_entries_take p k
  rw [List.length_nil, Nat.zero_add] at hrun
  exact Nat.le_trans hrun htake

/-- Where no bracket is left open, every entry is pushed by one operation and popped by another. -/
theorem two_mul_length_after_le {p : Program} (h : unmatched p = []) (k : Nat) :
    2 * (after p k).length ≤ p.length := by
  have hpushed := length_run_le [] ((CaseTable.ofProgram p).entries.take k)
  have hpopped := length_le_run (after p k) ((CaseTable.ofProgram p).entries.drop k)
  rw [← unmatched_eq, h] at hpopped
  have hsplit : ((CaseTable.ofProgram p).entries.take k).length + ((CaseTable.ofProgram p).entries.drop k).length =
      p.length := by
    rw [← List.length_append, List.take_append_drop, ← CaseTable.length_ofProgram, CaseTable.length]
  rw [List.length_nil, Nat.zero_add] at hpushed hpopped
  rw [after] at hpopped ⊢
  omega

/-! ### Programs that reach the bounds -/

/-- Brackets that are opened one after the other, and then closed as many times. -/
def nest (opened closed : Nat) : Program :=
  ⟨List.replicate opened .jumpForward ++ List.replicate closed .jumpBackward⟩

theorem length_nest (opened closed : Nat) : (nest opened closed).length = opened + closed := by
  simp [nest, Program.length]

theorem length_after_nest (opened closed : Nat) : (after (nest opened closed) opened).length = opened := by
  have hops : ((CaseTable.ofProgram (nest opened closed)).entries.take opened).map CaseEntry.operation =
      List.replicate opened .jumpForward := by
    rw [List.map_take, CaseTable.operations_entries, nest, List.take_left' List.length_replicate]
  rw [after, length_run_of_forward hops, List.length_nil, Nat.zero_add]

theorem length_unmatched_nest (opened closed : Nat) :
    (unmatched (nest opened closed)).length = opened - closed := by
  have hops : ((CaseTable.ofProgram (nest opened closed)).entries.drop opened).map CaseEntry.operation =
      List.replicate closed .jumpBackward := by
    rw [List.map_drop, CaseTable.operations_entries, nest, List.drop_left' List.length_replicate]
  rw [unmatched_eq _ opened, length_run_of_backward hops, length_after_nest]

end BracketStack

open BracketStack

/-- The memories sized for a capacity are right for the programs that it admits. Every address of a program has
the width of an entry, on the stack too. The stack of the byte scheme holds the open brackets of every program, that
of the packed scheme those of every program without a bracket left open. That bound is reached by a program without
a bracket left open, and passed by one with such a bracket. -/
theorem stack_sizes_sound_and_tight (c : UInt64) (hc : 1 ≤ c) :
    (∀ source, (Program.ofSource source).length ≤ c.toNat →
      (∀ e ∈ (CaseTable.ofProgram (.ofSource source)).entries, e.address.index < 2 ^ Address.bits c) ∧
      (∀ k, ∀ a ∈ after (.ofSource source) k, a.index < 2 ^ Address.bits c) ∧
      (∀ k, (after (.ofSource source) k).length ≤ (Scheme.byte.stackEntries c).toNat) ∧
      (unmatched (.ofSource source) = [] →
        ∀ k, (after (.ofSource source) k).length ≤ (Scheme.packed.stackEntries c).toNat)) ∧
    (∃ source, (Program.ofSource source).length ≤ c.toNat ∧ unmatched (.ofSource source) = [] ∧
      ∃ k, (after (.ofSource source) k).length = (Scheme.packed.stackEntries c).toNat) ∧
    (∃ source, (Program.ofSource source).length = c.toNat ∧ unmatched (.ofSource source) ≠ [] ∧
      ∃ k, (Scheme.packed.stackEntries c).toNat < (after (.ofSource source) k).length) := by
  have hpos : 1 ≤ c.toNat := UInt64.le_iff_toNat_le.mp hc
  have hbits := Address.toNat_le_two_pow_bits c
  rw [Scheme.toNat_stackEntries_packed]
  refine ⟨fun source h => ⟨?_, ?_, ?_, ?_⟩, ?_, ?_⟩
  · intro e he
    exact Nat.lt_of_lt_of_le (address_lt_length he) (Nat.le_trans h hbits)
  · intro k a ha
    rcases mem_run ha with ⟨e, he, rfl⟩ | ha
    · exact Nat.lt_of_lt_of_le (address_lt_length (List.mem_of_mem_take he)) (Nat.le_trans h hbits)
    · cases ha
  · intro k
    exact Nat.le_trans (length_after_le _ k) h
  · intro hmatched k
    have hhalf := two_mul_length_after_le hmatched k
    omega
  · refine ⟨(nest (c.toNat / 2) (c.toNat / 2)).toSource, ?_⟩
    rw [Program.ofSource_toSource]
    refine ⟨?_, ?_, c.toNat / 2, length_after_nest _ _⟩
    · rw [length_nest]
      omega
    · rw [← List.length_eq_zero_iff, length_unmatched_nest, Nat.sub_self]
  · refine ⟨(nest c.toNat 0).toSource, ?_⟩
    rw [Program.ofSource_toSource]
    refine ⟨length_nest _ _, ?_, c.toNat, ?_⟩
    · rw [← List.length_pos_iff, length_unmatched_nest]
      omega
    · rw [length_after_nest]
      omega

/-- An odd capacity, with a bracket closed that was never open. -/
theorem stack_sizes_sound_and_tight_seven :
    (1 : UInt64) ≤ 7 ∧ (Program.ofSource "][[]+[]").length ≤ (7 : UInt64).toNat ∧
      (∀ k, (after (.ofSource "][[]+[]") k).length ≤ 7) ∧
      unmatched (.ofSource "][[]+[]") ≠ [] ∧ unmatched (.ofSource "][[]+]") = [] ∧
      (∀ k, (after (.ofSource "][[]+]") k).length ≤ 3) := by
  obtain ⟨hsound, -⟩ := stack_sizes_sound_and_tight 7 (by decide)
  have hopen := hsound "][[]+[]" (by decide)
  have hclosed := hsound "][[]+]" (by decide)
  exact ⟨by decide, by decide, hopen.2.2.1, by decide, by decide, hclosed.2.2.2 (by decide)⟩

end ProgramRom
