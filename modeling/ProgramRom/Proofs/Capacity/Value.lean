import Mathlib.Data.List.Induction
import Mathlib.Data.Nat.Digits.Defs
import ProgramRom.Proofs.Capacity.Parsing

/-! # Capacities are exact

The numbers of a derivation are those that its digits write, in whatever length, and its terms are added and
subtracted from left to right in the integers. A capacity is read if every number, every term and every partial
result fits a word, and then it is the last partial result. Otherwise the overflow is reported. -/

namespace ProgramRom.Capacity.Grammar

/-! ### Exact values -/

/-- The place of a digit, of either case, in the order of the digits. -/
def rank (c : Char) : Nat :=
  ['0', '1', '2', '3', '4', '5', '6', '7', '8', '9', 'a', 'b', 'c', 'd', 'e', 'f'].idxOf c.toLower

/-- The number that digits write in a base, each digit with the weight of its place. -/
def Digits.value {isDigit : Char → Bool} (base : Nat) (d : Digits isDigit) : Nat :=
  Nat.ofDigits base (d.chars.reverse.map rank)

def Letter.factor (l : Letter) : Nat := if l.symbol = 'k' ∨ l.symbol = 'K' then 1024 else 1024 ^ 2

namespace TermForm

def exact : TermForm → Nat
  | power base _ _ exponent => base.value 10 ^ exponent.value 10
  | hexadecimal _ digits => digits.value 16
  | scaled digits letter => digits.value 10 * letter.elim 1 Letter.factor

/-- The numbers that are written in a term. -/
def numbers : TermForm → List Nat
  | power base _ _ exponent => [base.value 10, exponent.value 10]
  | hexadecimal _ digits => [digits.value 16]
  | scaled digits _ => [digits.value 10]

def exponent? : TermForm → Option Nat
  | power _ _ _ exponent => some (exponent.value 10)
  | hexadecimal _ _ => none
  | scaled _ _ => none

/-- A term whose numbers, whose exponent and whose value are words, the exponent one of half the width. -/
structure Representable (f : TermForm) : Prop where
  numbers : ∀ n ∈ f.numbers, n ≤ 2 ^ 64 - 1
  exponent : ∀ n ∈ f.exponent?, n ≤ 2 ^ 32 - 1
  value : f.exact ≤ 2 ^ 64 - 1

end TermForm

/-- A partial result with one more term. -/
def PartForm.apply (total : Int) (p : PartForm) : Int :=
  match p.sign with
  | .plus => total + p.term.exact
  | .minus => total - p.term.exact

namespace Derivation

def terms (d : Derivation) : List TermForm := d.first :: d.rest.map PartForm.term

/-- The results of the first term, of the first two, and so on to the end. -/
def partials (d : Derivation) : List Int := d.rest.scanl PartForm.apply d.first.exact

/-- Every term of a derivation is representable, and every partial result is a word. -/
structure Representable (d : Derivation) : Prop where
  terms : ∀ f ∈ d.terms, f.Representable
  partials : ∀ x ∈ d.partials, 0 ≤ x ∧ x ≤ 2 ^ 64 - 1

end Derivation

instance (f : TermForm) : Decidable f.Representable :=
  decidable_of_iff
    ((∀ n ∈ f.numbers, n ≤ 2 ^ 64 - 1) ∧ (∀ n ∈ f.exponent?, n ≤ 2 ^ 32 - 1) ∧ f.exact ≤ 2 ^ 64 - 1)
    ⟨fun h => ⟨h.1, h.2.1, h.2.2⟩, fun h => ⟨h.numbers, h.exponent, h.value⟩⟩

instance (d : Derivation) : Decidable d.Representable :=
  decidable_of_iff ((∀ f ∈ d.terms, f.Representable) ∧ ∀ x ∈ d.partials, 0 ≤ x ∧ x ≤ 2 ^ 64 - 1)
    ⟨fun h => ⟨h.1, h.2⟩, fun h => ⟨h.terms, h.partials⟩⟩

/-! ### Numerals -/

theorem toNat_le_of_isHexDigit {c : Char} (h : Text.isHexDigit c = true) : c.toNat ≤ 'f'.toNat := by
  simp only [Text.isHexDigit, Char.isDigit, Bool.or_eq_true, Bool.and_eq_true, decide_eq_true_eq] at h
  rcases h with (⟨-, h⟩ | ⟨-, h⟩) | ⟨-, h⟩
  · have h : c.toNat ≤ '9'.toNat := h
    exact h.trans (by decide)
  · exact h
  · have h : c.toNat ≤ 'F'.toNat := h
    exact h.trans (by decide)

theorem digitValue_eq_rank {c : Char} (h : Text.isHexDigit c = true) : Text.digitValue c = rank c := by
  -- All digits are at most 'f', so there are few characters to look at.
  have hall : ∀ n ≤ 'f'.toNat, Text.isHexDigit (Char.ofNat n) = true →
      Text.digitValue (Char.ofNat n) = rank (Char.ofNat n) := by decide +kernel
  have hc := hall c.toNat (toNat_le_of_isHexDigit h)
  rw [Char.ofNat_toNat] at hc
  exact hc h

theorem isHexDigit_of_isDigit {c : Char} (h : c.isDigit = true) : Text.isHexDigit c = true := by
  simp [Text.isHexDigit, h]

theorem numeralValue_eq_ofDigits (base : Nat) (cs : List Char) :
    Text.numeralValue base cs = Nat.ofDigits base (cs.reverse.map Text.digitValue) := by
  induction cs using List.reverseRecOn with
  | nil => rfl
  | append_singleton cs c ih =>
    have hlast : Text.numeralValue base (cs ++ [c]) = Text.numeralValue base cs * base + Text.digitValue c := by
      rw [Text.numeralValue, List.foldl_append]
      rfl
    rw [hlast, ih, List.reverse_append, List.reverse_singleton, List.singleton_append, List.map_cons,
      Nat.ofDigits_cons, Nat.add_comm, Nat.mul_comm]

theorem numeralValue_chars {isDigit : Char → Bool} (base : Nat) (d : Digits isDigit)
    (h : ∀ c, isDigit c = true → Text.isHexDigit c = true) : Text.numeralValue base d.chars = d.value base := by
  have hranks : d.chars.reverse.map Text.digitValue = d.chars.reverse.map rank :=
    List.map_congr_left fun c hc => digitValue_eq_rank (h c (d.digits c (List.mem_reverse.mp hc)))
  rw [numeralValue_eq_ofDigits, hranks, Digits.value]

theorem numeralValue_decimal (d : Digits Char.isDigit) : Text.numeralValue 10 d.chars = d.value 10 :=
  numeralValue_chars 10 d fun _ => isHexDigit_of_isDigit

theorem numeralValue_hexadecimal (d : Digits Text.isHexDigit) : Text.numeralValue 16 d.chars = d.value 16 :=
  numeralValue_chars 16 d fun _ h => h

/-! ### Terms -/

theorem le_mul_factor (n : Nat) (letter : Option Letter) : n ≤ n * letter.elim 1 Letter.factor := by
  refine Nat.le_mul_of_pos_right n ?_
  cases letter with
  | none => exact Nat.one_pos
  | some l =>
    simp only [Option.elim_some, Letter.factor]
    split <;> decide

theorem toNat_le (w : UInt64) : w.toNat ≤ 2 ^ 64 - 1 := Nat.le_sub_one_of_lt w.toNat_lt

theorem representable_power (base : Digits Char.isDigit) (before after : Gap) (exponent : Digits Char.isDigit) :
    (TermForm.power base before after exponent).Representable ↔
      base.value 10 ≤ 2 ^ 64 - 1 ∧ exponent.value 10 ≤ 2 ^ 32 - 1 ∧
        base.value 10 ^ exponent.value 10 ≤ 2 ^ 64 - 1 := by
  constructor
  · intro h
    exact ⟨h.numbers _ (by simp [TermForm.numbers]), h.exponent _ rfl, h.value⟩
  · rintro ⟨hbase, hexponent, hvalue⟩
    refine ⟨fun n hn => ?_, fun n hn => ?_, hvalue⟩
    · simp only [TermForm.numbers, List.mem_cons, List.not_mem_nil, or_false] at hn
      rcases hn with rfl | rfl
      · exact hbase
      · exact hexponent.trans (by decide)
    · cases hn
      exact hexponent

theorem representable_hexadecimal (mark : Mark) (digits : Digits Text.isHexDigit) :
    (TermForm.hexadecimal mark digits).Representable ↔ digits.value 16 ≤ 2 ^ 64 - 1 := by
  constructor
  · intro h
    exact h.value
  · intro hvalue
    refine ⟨fun n hn => ?_, fun n hn => (by cases hn), hvalue⟩
    obtain rfl := List.mem_singleton.mp hn
    exact hvalue

theorem representable_scaled (digits : Digits Char.isDigit) (letter : Option Letter) :
    (TermForm.scaled digits letter).Representable ↔
      digits.value 10 * letter.elim 1 Letter.factor ≤ 2 ^ 64 - 1 := by
  constructor
  · intro h
    exact h.value
  · intro hvalue
    refine ⟨fun n hn => ?_, fun n hn => (by cases hn), hvalue⟩
    obtain rfl := List.mem_singleton.mp hn
    exact (le_mul_factor _ letter).trans hvalue

theorem factor_elim (letter : Option Letter) :
    (letter.elim Scale.one Letter.scale).factor = letter.elim 1 Letter.factor := by
  cases letter with
  | none => rfl
  | some l =>
    simp only [Option.elim_some, Letter.scale, Letter.factor]
    split <;> rfl

theorem fit?_eq_some_iff_le {n : Nat} {w : UInt64} : Word.fit? n = some w ↔ n ≤ 2 ^ 64 - 1 ∧ w.toNat = n := by
  rw [Word.fit?_eq_some_iff]
  constructor
  · intro h
    exact ⟨h ▸ toNat_le w, h⟩
  · intro h
    exact h.2

/-- A term has a word exactly when it is representable, and the word is its exact value. -/
theorem value?_term_eq_some_iff {f : TermForm} {w : UInt64} :
    f.term.value? = some w ↔ f.Representable ∧ w.toNat = f.exact := by
  cases f with
  | power base before after exponent =>
    have hfits : base.value 10 < UInt64.size ∧ exponent.value 10 < UInt32.size ↔
        base.value 10 ≤ 2 ^ 64 - 1 ∧ exponent.value 10 ≤ 2 ^ 32 - 1 := by
      simp only [UInt64.size, UInt32.size]
      omega
    rw [representable_power, TermForm.term, numeralValue_decimal, numeralValue_decimal, Term.value?, TermForm.exact,
      Word.pow?_eq_fit?, ← and_assoc, and_assoc (c := _ = _), ← hfits, ← fit?_eq_some_iff_le]
    split
    · rename_i h
      simp [h]
    · rename_i h
      simp [h]
  | hexadecimal mark digits =>
    rw [representable_hexadecimal, TermForm.term, numeralValue_hexadecimal, Term.value?, fit?_eq_some_iff_le]
    rfl
  | scaled digits letter =>
    rw [representable_scaled, TermForm.term, numeralValue_decimal, Term.value?, factor_elim, fit?_eq_some_iff_le]
    rfl

/-! ### Partial results -/

theorem exists_word_iff {x : Int} : (∃ w : UInt64, (w.toNat : Int) = x) ↔ 0 ≤ x ∧ x ≤ 2 ^ 64 - 1 := by
  constructor
  · rintro ⟨w, rfl⟩
    have hw := toNat_le w
    omega
  · rintro ⟨hnonneg, hle⟩
    have hfit : Word.fit? x.toNat = some x.toNat.toUInt64 := if_pos (by simp only [UInt64.size]; omega)
    refine ⟨x.toNat.toUInt64, ?_⟩
    rw [Word.fit?_eq_some_iff.mp hfit, Int.toNat_of_nonneg hnonneg]

/-- A step keeps a word exactly when its term is representable and the exact result is that word. -/
theorem step?_eq_some_iff {total r : UInt64} {p : PartForm} :
    Expression.step? total p.part = some r ↔ p.term.Representable ∧ (r.toNat : Int) = p.apply total.toNat := by
  have hcombine : ∀ w : UInt64, w.toNat = p.term.exact →
      (p.sign.combine? total w = some r ↔ (r.toNat : Int) = p.apply total.toNat) := fun w hw => by
    rw [PartForm.apply, ← hw]
    cases p.sign with
    | plus =>
      rw [Sign.combine?, Word.add?_eq_some_iff]
      dsimp only
      omega
    | minus =>
      rw [Sign.combine?, Word.sub?_eq_some_iff]
      dsimp only
      omega
  constructor
  · intro h
    obtain ⟨w, hvalue, h⟩ := Option.bind_eq_some_iff.mp h
    obtain ⟨hrep, hw⟩ := value?_term_eq_some_iff.mp hvalue
    exact ⟨hrep, (hcombine w hw).mp h⟩
  · rintro ⟨hrep, hr⟩
    have hword : ((p.term.exact : Nat) : Int) ≤ 2 ^ 64 - 1 := by
      have := hrep.value
      omega
    obtain ⟨w, hw⟩ := exists_word_iff.mpr ⟨Int.natCast_nonneg p.term.exact, hword⟩
    have hw : w.toNat = p.term.exact := by omega
    exact Option.bind_eq_some_iff.mpr ⟨w, value?_term_eq_some_iff.mpr ⟨hrep, hw⟩, (hcombine w hw).mpr hr⟩

/-- The terms behind a partial result lead to a word exactly when they are representable and no result on the
way leaves the words. -/
theorem foldlM_eq_some_iff (ps : List PartForm) (total v : UInt64) :
    (ps.map PartForm.part).foldlM Expression.step? total = some v ↔
      (∀ p ∈ ps, p.term.Representable) ∧
        (∀ x ∈ ps.scanl PartForm.apply total.toNat, 0 ≤ x ∧ x ≤ 2 ^ 64 - 1) ∧
        (ps.scanl PartForm.apply total.toNat).getLast? = some (v.toNat : Int) := by
  induction ps generalizing total with
  | nil =>
    constructor
    · intro h
      cases h
      refine ⟨fun _ hp => (by cases hp), fun x hx => ?_, rfl⟩
      obtain rfl := List.mem_singleton.mp hx
      exact exists_word_iff.mp ⟨_, rfl⟩
    · rintro ⟨-, -, hlast⟩
      have htotal : total.toNat = v.toNat := by simpa using hlast
      rw [UInt64.toNat_inj.mp htotal]
      rfl
  | cons p ps ih =>
    rw [List.map_cons, List.foldlM_cons, List.scanl_cons, List.getLast?_cons_of_ne_nil List.scanl_ne_nil]
    constructor
    · intro h
      obtain ⟨r, hstep, h⟩ := Option.bind_eq_some_iff.mp h
      obtain ⟨hrep, hr⟩ := step?_eq_some_iff.mp hstep
      obtain ⟨hreps, hpartials, hlast⟩ := (ih r).mp h
      rw [hr] at hpartials hlast
      refine ⟨List.forall_mem_cons.mpr ⟨hrep, hreps⟩, List.forall_mem_cons.mpr ⟨?_, hpartials⟩, hlast⟩
      exact exists_word_iff.mp ⟨total, rfl⟩
    · rintro ⟨hreps, hpartials, hlast⟩
      obtain ⟨hrep, hreps⟩ := List.forall_mem_cons.mp hreps
      have hpartials := (List.forall_mem_cons.mp hpartials).2
      obtain ⟨r, hr⟩ := exists_word_iff.mpr (hpartials _ (List.mem_of_head? List.head?_scanl))
      rw [← hr] at hpartials hlast
      exact Option.bind_eq_some_iff.mpr ⟨r, step?_eq_some_iff.mpr ⟨hrep, hr⟩, (ih r).mpr ⟨hreps, hpartials, hlast⟩⟩

theorem value?_expression_eq_some_iff {d : Derivation} {v : UInt64} :
    d.expression.value? = some v ↔ d.Representable ∧ d.partials.getLast? = some (v.toNat : Int) := by
  constructor
  · intro h
    obtain ⟨w, hfirst, h⟩ := Option.bind_eq_some_iff.mp h
    obtain ⟨hrep, hw⟩ := value?_term_eq_some_iff.mp hfirst
    obtain ⟨hreps, hpartials, hlast⟩ := (foldlM_eq_some_iff d.rest w v).mp h
    rw [hw] at hpartials hlast
    refine ⟨⟨List.forall_mem_cons.mpr ⟨hrep, fun f hf => ?_⟩, hpartials⟩, hlast⟩
    obtain ⟨p, hp, rfl⟩ := List.mem_map.mp hf
    exact hreps p hp
  · rintro ⟨⟨hterms, hpartials⟩, hlast⟩
    obtain ⟨hrep, hreps⟩ := List.forall_mem_cons.mp hterms
    obtain ⟨w, hw⟩ := exists_word_iff.mpr (hpartials _ (List.mem_of_head? List.head?_scanl))
    have hfirst : d.first.term.value? = some w := value?_term_eq_some_iff.mpr ⟨hrep, by omega⟩
    refine Option.bind_eq_some_iff.mpr ⟨w, hfirst, (foldlM_eq_some_iff d.rest w v).mpr ⟨?_, ?_, ?_⟩⟩
    · intro p hp
      exact hreps _ (List.mem_map_of_mem hp)
    · rwa [hw]
    · rwa [hw]

theorem exists_word_of_representable {d : Derivation} (h : d.Representable) :
    ∃ v : UInt64, d.partials.getLast? = some (v.toNat : Int) := by
  have hne : d.partials ≠ [] := List.scanl_ne_nil
  obtain ⟨v, hv⟩ := exists_word_iff.mpr (h.partials _ (List.getLast_mem hne))
  exact ⟨v, by rw [List.getLast?_eq_some_getLast hne, hv]⟩

theorem read_of_text {text : String} {d : Derivation} (h : d.text = text.toList) :
    read text = d.expression.value?.elim (.error (.overflow text)) .ok := by
  unfold read
  rw [ofText?_text h]
  cases hvalue : d.expression.value? with
  | none => simp [hvalue]
  | some v => simp [hvalue]

/-- On a text with a derivation, reading gives the word `v` exactly when every term is representable, every
partial result is a word, and `v` is the last one. In every other case the overflow is reported, with the text. -/
theorem read_exact_or_overflow (text : String) (d : Derivation) (h : d.text = text.toList) :
    (∀ v, read text = .ok v ↔ d.Representable ∧ d.partials.getLast? = some (v.toNat : Int)) ∧
      (d.Representable → ∃ v, read text = .ok v) ∧
      (¬d.Representable → read text = .error (.overflow text)) := by
  have hok : ∀ v, read text = .ok v ↔ d.Representable ∧ d.partials.getLast? = some (v.toNat : Int) := fun v => by
    rw [read_of_text h, ← value?_expression_eq_some_iff]
    cases d.expression.value? with
    | none => simp
    | some w => simp
  refine ⟨hok, fun hrep => ?_, fun hrep => ?_⟩
  · obtain ⟨v, hv⟩ := exists_word_of_representable hrep
    exact ⟨v, (hok v).mpr ⟨hrep, hv⟩⟩
  · have hnone : d.expression.value? = none := by
      rw [Option.eq_none_iff_forall_ne_some]
      intro v hv
      exact hrep (value?_expression_eq_some_iff.mp hv).1
    rw [read_of_text h, hnone, Option.elim_none]

def lessZeroPower : Derivation where
  before := .ofChars [' '] rfl
  first := .scaled (.ofChars '0' ['0', '7'] rfl) (some ⟨'K', Or.inr (Or.inl rfl)⟩)
  rest := [⟨.ofChars [] rfl, .minus, .ofChars [' '] rfl,
    .power (.ofChars '0' [] rfl) (.ofChars [] rfl) (.ofChars [] rfl) (.ofChars '0' [] rfl)⟩]
  after := .ofChars [] rfl

def belowZero : Derivation where
  before := .ofChars [] rfl
  first := .scaled (.ofChars '1' [] rfl) none
  rest := [⟨.ofChars [] rfl, .minus, .ofChars [] rfl, .scaled (.ofChars '2' [] rfl) none⟩,
    ⟨.ofChars [] rfl, .plus, .ofChars [] rfl, .scaled (.ofChars '3' [] rfl) none⟩]
  after := .ofChars [] rfl

/-- Leading zeros count for nothing and zero to the power of zero is one; a result below zero on the way is an
overflow, whatever comes behind it. -/
theorem read_exact_or_overflow_on_the_way :
    (∃ d : Derivation, d.text = " 007K- 0^0".toList ∧ d.Representable ∧ d.partials = [7168, 7167]) ∧
      read " 007K- 0^0" = .ok 7167 ∧
    (∃ d : Derivation, d.text = "1-2+3".toList ∧ ¬d.Representable ∧ d.partials = [1, -1, 2]) ∧
      read "1-2+3" = .error (.overflow "1-2+3") := by
  have hfits : lessZeroPower.text = " 007K- 0^0".toList := by decide
  have hbelow : belowZero.text = "1-2+3".toList := by decide
  have hrep : lessZeroPower.Representable := by decide
  have hnot : ¬belowZero.Representable := by decide
  refine ⟨⟨lessZeroPower, hfits, hrep, by decide⟩, ?_, ⟨belowZero, hbelow, hnot, by decide⟩, ?_⟩
  · exact ((read_exact_or_overflow _ lessZeroPower hfits).1 7167).mpr ⟨hrep, by decide⟩
  · exact (read_exact_or_overflow _ belowZero hbelow).2.2 hnot

end ProgramRom.Capacity.Grammar
