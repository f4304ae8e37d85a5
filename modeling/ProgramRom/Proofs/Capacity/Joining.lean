import ProgramRom.Proofs.Capacity.Value
import ProgramRom.Proofs.Failing

/-! # Joining capacities

No term holds a sign. So a text with a sign between two others is derived exactly when the two are, and its derivation
is theirs with the sign between them: the spaces on either side go to the sign, and no run of digits, no letter of a
scale and no caret reaches across it. The partial results of the joined text are those of the first one and, from its
last one on, those of the second. -/

namespace ProgramRom.Capacity.Grammar

/-! ### Signs in a text -/

theorem symbol_not_mem_gap (s : Sign) (g : Gap) : s.symbol ∉ g.chars := fun h => by
  have hspace := g.spaces _ h
  rw [not_isSpace_symbol] at hspace
  cases hspace

theorem symbol_not_mem_digits {isDigit : Char → Bool} (h : ∀ s : Sign, isDigit s.symbol = false) (s : Sign)
    (d : Digits isDigit) : s.symbol ∉ d.chars := fun hmem => by
  have hdigit := d.digits _ hmem
  rw [h] at hdigit
  cases hdigit

theorem not_isDigit_symbol (s : Sign) : s.symbol.isDigit = false := by
  cases s <;> rfl

theorem not_isHexDigit_symbol (s : Sign) : Text.isHexDigit s.symbol = false := by
  cases s <;> rfl

/-- No sign is part of a term. -/
theorem symbol_not_mem_term (s : Sign) (f : TermForm) : s.symbol ∉ f.text := by
  cases f with
  | power base before after exponent =>
    have hcaret : s.symbol ≠ '^' := by cases s <;> decide
    simp [TermForm.text, hcaret, symbol_not_mem_gap, symbol_not_mem_digits not_isDigit_symbol]
  | hexadecimal mark digits =>
    have hzero : s.symbol ≠ '0' := by cases s <;> decide
    have hmark : s.symbol ≠ mark.symbol := by
      rcases mark with ⟨_, rfl | rfl⟩ <;> cases s <;> decide
    simp [TermForm.text, hzero, hmark, symbol_not_mem_digits not_isHexDigit_symbol]
  | scaled digits letter =>
    have hletter : s.symbol ∉ (letter.map Letter.symbol).toList := by
      rcases letter with _ | ⟨_, rfl | rfl | rfl | rfl⟩
      · simp
      all_goals cases s <;> decide
    simp only [TermForm.text, List.mem_append, hletter, symbol_not_mem_digits not_isDigit_symbol, or_self,
      not_false_eq_true]

theorem symbol_mem_text {d : Derivation} {p : PartForm} (h : p ∈ d.rest) : p.sign.symbol ∈ d.text := by
  have hpart : p.sign.symbol ∈ d.rest.flatMap PartForm.text :=
    List.mem_flatMap.mpr ⟨p, h, by simp [PartForm.text]⟩
  simp [Derivation.text, hpart]

/-- A separator that does not stand in front of another one is that one, or it stands further on. -/
theorem append_cons_eq_append_cons {x y : Char} {front as bs rest : List Char} (hfront : y ∉ front)
    (h : front ++ x :: rest = as ++ y :: bs) :
    (as = front ∧ x = y ∧ rest = bs) ∨ ∃ as', as = front ++ x :: as' ∧ rest = as' ++ y :: bs := by
  rcases List.append_eq_append_iff.mp h with ⟨mid, rfl, hmid⟩ | ⟨mid, rfl, hmid⟩
  · cases mid with
    | nil =>
      obtain ⟨rfl, rfl⟩ := List.cons.inj hmid
      exact Or.inl ⟨List.append_nil front, rfl, rfl⟩
    | cons c mid =>
      obtain ⟨rfl, rfl⟩ := List.cons.inj hmid
      exact Or.inr ⟨mid, rfl, rfl⟩
  · cases mid with
    | nil =>
      obtain ⟨rfl, rfl⟩ := List.cons.inj hmid
      exact Or.inl ⟨(List.append_nil as).symm, rfl, rfl⟩
    | cons c mid =>
      obtain ⟨rfl, -⟩ := List.cons.inj hmid
      exact absurd (List.mem_append_right as List.mem_cons_self) hfront

/-! ### Joined derivations -/

namespace Derivation

/-- A derivation of a single term. -/
def single (before : Gap) (first : TermForm) (after : Gap) : Derivation := ⟨before, first, [], after⟩

/-- Two derivations with a sign between them. The spaces at the end of the first and at the front of the second stand
around the sign. -/
def join (d : Derivation) (s : Sign) (d' : Derivation) : Derivation :=
  ⟨d.before, d.first, d.rest ++ ⟨d.after, s, d'.before, d'.first⟩ :: d'.rest, d'.after⟩

theorem text_join (d : Derivation) (s : Sign) (d' : Derivation) :
    (d.join s d').text = d.text ++ s.symbol :: d'.text := by
  simp [text, join, PartForm.text]

theorem text_single (before : Gap) (first : TermForm) (after : Gap) :
    (single before first after).text = before.chars ++ (first.text ++ after.chars) := rfl

theorem symbol_not_mem_single (s : Sign) (before : Gap) (first : TermForm) (after : Gap) :
    s.symbol ∉ (single before first after).text := by
  simp [text_single, symbol_not_mem_gap, symbol_not_mem_term]

end Derivation

/-- A sign in a derived text parts it into two derived texts. -/
theorem exists_parted {d : Derivation} {s : Sign} {as bs : List Char} (h : d.text = as ++ s.symbol :: bs) :
    (∃ d₁ : Derivation, d₁.text = as) ∧ ∃ d₂ : Derivation, d₂.text = bs := by
  obtain ⟨before, first, rest, after⟩ := d
  -- The first sign of the text is the one in question, or the derivation behind it holds the one in question.
  induction rest generalizing before first as with
  | nil =>
    have hmem : s.symbol ∈ (Derivation.single before first after).text := by
      rw [Derivation.single, h]
      simp
    exact absurd hmem (Derivation.symbol_not_mem_single s before first after)
  | cons p ps ih =>
    have htext : (Derivation.single before first p.before).text ++
        p.sign.symbol :: (⟨p.after, p.term, ps, after⟩ : Derivation).text = as ++ s.symbol :: bs := by
      rw [← Derivation.text_join, ← h]
      rfl
    rcases append_cons_eq_append_cons (Derivation.symbol_not_mem_single s before first p.before) htext with
      ⟨rfl, -, hbs⟩ | ⟨as', rfl, hrest⟩
    · exact ⟨⟨_, rfl⟩, _, hbs⟩
    · obtain ⟨⟨d₁, rfl⟩, hbs⟩ := ih p.after p.term hrest
      exact ⟨⟨(Derivation.single before first p.before).join p.sign d₁, Derivation.text_join _ _ _⟩, hbs⟩

theorem exists_joined_iff (s : Sign) (as bs : List Char) :
    (∃ d : Derivation, d.text = as ++ s.symbol :: bs) ↔
      (∃ d₁ : Derivation, d₁.text = as) ∧ ∃ d₂ : Derivation, d₂.text = bs := by
  constructor
  · rintro ⟨d, hd⟩
    exact exists_parted hd
  · rintro ⟨⟨d₁, rfl⟩, d₂, rfl⟩
    exact ⟨d₁.join s d₂, d₁.text_join s d₂⟩

/-! ### Partial results of joined derivations -/

namespace Derivation

/-- The last partial result. -/
def result (d : Derivation) : Int := d.rest.foldl PartForm.apply d.first.exact

theorem getLast?_partials (d : Derivation) : d.partials.getLast? = some d.result := by
  rw [partials, List.getLast?_scanl, result]

theorem terms_join (d : Derivation) (s : Sign) (d' : Derivation) : (d.join s d').terms = d.terms ++ d'.terms := by
  simp [terms, join]

theorem partials_join (d : Derivation) (s : Sign) (d' : Derivation) :
    (d.join s d').partials =
      d.partials ++ d'.rest.scanl PartForm.apply (PartForm.apply d.result ⟨d.after, s, d'.before, d'.first⟩) := by
  rw [partials, join, List.scanl_append, List.scanl_cons, List.tail_cons]
  rfl

end Derivation

/-- Partial results that begin further on by `x` are further on by `x` all along. -/
theorem scanl_add (ps : List PartForm) (x t : Int) :
    ps.scanl PartForm.apply (x + t) = (ps.scanl PartForm.apply t).map (x + ·) := by
  induction ps generalizing t with
  | nil => rfl
  | cons p ps ih =>
    have hstep : p.apply (x + t) = x + p.apply t := by
      unfold PartForm.apply
      cases p.sign <;> dsimp only <;> omega
    rw [List.scanl_cons, List.scanl_cons, List.map_cons, hstep, ih]

/-- Where nothing is subtracted, no partial result is larger than the last one. -/
theorem le_foldl_of_mem_scanl {ps : List PartForm} (h : ∀ p ∈ ps, p.sign = .plus) (t : Int) :
    ∀ z ∈ ps.scanl PartForm.apply t, z ≤ ps.foldl PartForm.apply t := by
  induction ps generalizing t with
  | nil =>
    intro z hz
    obtain rfl := List.mem_singleton.mp hz
    exact Int.le_refl _
  | cons p ps ih =>
    obtain ⟨hp, hps⟩ := List.forall_mem_cons.mp h
    have hle : t ≤ p.apply t := by
      rw [PartForm.apply, hp]
      dsimp only
      omega
    intro z hz
    rw [List.scanl_cons, List.mem_cons] at hz
    rcases hz with rfl | hz
    · exact hle.trans (ih hps _ _ (List.mem_of_head? List.head?_scanl))
    · exact ih hps _ z hz

namespace Derivation

theorem partials_join_plus (d d' : Derivation) :
    (d.join .plus d').partials = d.partials ++ d'.partials.map (d.result + ·) := by
  rw [partials_join]
  exact congrArg (d.partials ++ ·) (scanl_add d'.rest d.result d'.first.exact)

theorem partials_join_minus (d : Derivation) {d' : Derivation} (h : d'.rest = []) :
    (d.join .minus d').partials = d.partials ++ [d.result - d'.result] := by
  rw [partials_join, result, result, h]
  rfl

theorem result_join_plus (d d' : Derivation) : (d.join .plus d').result = d.result + d'.result := by
  have hlast := (d.join .plus d').getLast?_partials
  rw [partials_join_plus, List.getLast?_append, List.getLast?_map, getLast?_partials] at hlast
  exact (Option.some.inj hlast).symm

theorem result_join_minus (d : Derivation) {d' : Derivation} (h : d'.rest = []) :
    (d.join .minus d').result = d.result - d'.result := by
  have hlast := (d.join .minus d').getLast?_partials
  rw [partials_join_minus d h, List.getLast?_concat] at hlast
  exact (Option.some.inj hlast).symm

variable {d d' : Derivation}

theorem Representable.result (h : d.Representable) : 0 ≤ d.result ∧ d.result ≤ 2 ^ 64 - 1 :=
  h.partials _ (List.mem_of_getLast? d.getLast?_partials)

/-- What is joined goes on from the first text, so that one has to be representable itself. -/
theorem representable_of_join {s : Sign} (h : (d.join s d').Representable) : d.Representable where
  terms f hf := h.terms f (by rw [terms_join]; exact List.mem_append_left _ hf)
  partials x hx := h.partials x (by rw [partials_join]; exact List.mem_append_left _ hx)

theorem representable_join_plus (h : d.Representable) (h' : d'.Representable)
    (hfits : ∀ x ∈ d'.partials, d.result + x ≤ 2 ^ 64 - 1) : (d.join .plus d').Representable where
  terms f hf := by
    rw [terms_join, List.mem_append] at hf
    exact hf.elim (h.terms f) (h'.terms f)
  partials x hx := by
    rw [partials_join_plus, List.mem_append, List.mem_map] at hx
    rcases hx with hx | ⟨x', hx', rfl⟩
    · exact h.partials x hx
    · exact ⟨Int.add_nonneg h.result.1 (h'.partials x' hx').1, hfits x' hx'⟩

theorem representable_join_minus_iff (h : d.Representable) (h' : d'.Representable) (hrest : d'.rest = []) :
    (d.join .minus d').Representable ↔ d'.result ≤ d.result := by
  constructor
  · intro hjoin
    have hresult := hjoin.result
    rw [result_join_minus d hrest] at hresult
    omega
  · intro hle
    refine ⟨fun f hf => ?_, fun x hx => ?_⟩
    · rw [terms_join, List.mem_append] at hf
      exact hf.elim (h.terms f) (h'.terms f)
    · rw [partials_join_minus d hrest, List.mem_append, List.mem_singleton] at hx
      rcases hx with hx | rfl
      · exact h.partials x hx
      · have hd := h.result
        have hd' := h'.result
        omega

end Derivation

/-! ### What is read -/

section Reading
variable {text : String} {d : Derivation} {v : UInt64}

theorem read_eq_ok_iff (h : d.text = text.toList) : read text = .ok v ↔ d.Representable ∧ d.result = (v.toNat : Int) := by
  rw [read_of_text h, elim_eq_ok_iff, value?_expression_eq_some_iff, d.getLast?_partials, Option.some.injEq]

theorem exists_read_of_representable (h : d.text = text.toList) (hrep : d.Representable) :
    ∃ v, read text = .ok v ∧ (v.toNat : Int) = d.result := by
  obtain ⟨v, hv⟩ := exists_word_iff.mpr hrep.result
  exact ⟨v, (read_eq_ok_iff h).mpr ⟨hrep, hv.symm⟩, hv⟩

theorem exists_overflow_iff (h : d.text = text.toList) :
    (∃ u, read text = .error (.overflow u)) ↔ ¬d.Representable := by
  constructor
  · rintro ⟨u, hu⟩ hrep
    obtain ⟨v, hv, -⟩ := exists_read_of_representable h hrep
    rw [hu] at hv
    cases hv
  · intro hrep
    rw [read_of_text h]
    cases hvalue : d.expression.value? with
    | none => exact ⟨text, rfl⟩
    | some v => exact absurd (value?_expression_eq_some_iff.mp hvalue).1 hrep

theorem exists_derivation_of_ok (h : read text = .ok v) :
    ∃ d : Derivation, d.text = text.toList ∧ d.Representable ∧ d.result = (v.toNat : Int) := by
  by_cases hd : ∃ d : Derivation, d.text = text.toList
  · obtain ⟨d, hd⟩ := hd
    exact ⟨d, hd, (read_eq_ok_iff hd).mp h⟩
  · obtain ⟨u, hu⟩ := exists_invalid_iff.mpr hd
    rw [h] at hu
    cases hu

end Reading

section Joined
variable {a b : String} {x y : UInt64}

theorem toList_joined (a : String) (s : Sign) (b : String) :
    (a ++ String.singleton s.symbol ++ b).toList = a.toList ++ s.symbol :: b.toList := by
  simp

theorem exists_invalid_joined_iff (s : Sign) (a b : String) :
    (∃ u, read (a ++ String.singleton s.symbol ++ b) = .error (.invalid u)) ↔
      (∃ u, read a = .error (.invalid u)) ∨ ∃ u, read b = .error (.invalid u) := by
  rw [exists_invalid_iff, exists_invalid_iff, exists_invalid_iff, toList_joined, exists_joined_iff,
    Classical.not_and_iff_not_or_not]

/-- A joined text is read only if its front is. -/
theorem exists_ok_of_joined {s : Sign} {v : UInt64} (h : read (a ++ String.singleton s.symbol ++ b) = .ok v) :
    ∃ x, read a = .ok x := by
  obtain ⟨d, hd, hrep, -⟩ := exists_derivation_of_ok h
  rw [toList_joined] at hd
  obtain ⟨⟨d₁, h₁⟩, d₂, h₂⟩ := exists_parted hd
  have hjoin : d = d₁.join s d₂ := text_injective (by rw [hd, d₁.text_join, h₁, h₂])
  rw [hjoin] at hrep
  obtain ⟨x, hx, -⟩ := exists_read_of_representable h₁ (Derivation.representable_of_join hrep)
  exact ⟨x, hx⟩

/-- The second text follows the sign, so its results are added to that of the first. -/
theorem read_sum (hx : read a = .ok x) (hy : read b = .ok y) :
    (∃ v, read (a ++ "+" ++ b) = .ok v ∧ v.toNat = x.toNat + y.toNat) ∨
      ∃ u, read (a ++ "+" ++ b) = .error (.overflow u) := by
  obtain ⟨d, hd, -, hresult⟩ := exists_derivation_of_ok hx
  obtain ⟨d', hd', -, hresult'⟩ := exists_derivation_of_ok hy
  have htext : (d.join .plus d').text = (a ++ "+" ++ b).toList := by
    rw [d.text_join, hd, hd', ← toList_joined]
    rfl
  by_cases hrep : (d.join .plus d').Representable
  · obtain ⟨v, hv, hsum⟩ := exists_read_of_representable htext hrep
    rw [d.result_join_plus, hresult, hresult'] at hsum
    exact Or.inl ⟨v, hv, by omega⟩
  · exact Or.inr ((exists_overflow_iff htext).mpr hrep)

theorem sign_eq_plus {d : Derivation} (hd : d.text = b.toList) (hminus : '-' ∉ b.toList) :
    ∀ p ∈ d.rest, p.sign = .plus := by
  intro p hp
  have hmem := symbol_mem_text hp
  rw [hd] at hmem
  cases hsign : p.sign with
  | plus => rfl
  | minus =>
    rw [hsign] at hmem
    exact absurd hmem hminus

theorem rest_eq_nil {d : Derivation} (hd : d.text = b.toList) (hplus : '+' ∉ b.toList) (hminus : '-' ∉ b.toList) :
    d.rest = [] := by
  rw [List.eq_nil_iff_forall_not_mem]
  intro p hp
  have hmem := symbol_mem_text hp
  rw [hd, sign_eq_plus hd hminus p hp] at hmem
  exact hplus hmem

theorem read_sum_of_fits (hx : read a = .ok x) (hy : read b = .ok y) (hminus : '-' ∉ b.toList)
    (hfits : x.toNat + y.toNat < 2 ^ 64) : ∃ v, read (a ++ "+" ++ b) = .ok v ∧ v.toNat = x.toNat + y.toNat := by
  obtain ⟨d, hd, hrep, hresult⟩ := exists_derivation_of_ok hx
  obtain ⟨d', hd', hrep', hresult'⟩ := exists_derivation_of_ok hy
  have htext : (d.join .plus d').text = (a ++ "+" ++ b).toList := by
    rw [d.text_join, hd, hd', ← toList_joined]
    rfl
  have hjoined : (d.join .plus d').Representable := by
    refine Derivation.representable_join_plus hrep hrep' fun z hz => ?_
    have hle : z ≤ d'.result := le_foldl_of_mem_scanl (sign_eq_plus hd' hminus) _ z hz
    omega
  obtain ⟨v, hv, hsum⟩ := exists_read_of_representable htext hjoined
  rw [d.result_join_plus, hresult, hresult'] at hsum
  exact ⟨v, hv, by omega⟩

theorem read_difference (hx : read a = .ok x) (hy : read b = .ok y) (hplus : '+' ∉ b.toList) (hminus : '-' ∉ b.toList) :
    (y ≤ x → ∃ v, read (a ++ "-" ++ b) = .ok v ∧ v.toNat + y.toNat = x.toNat) ∧
      (x < y → ∃ u, read (a ++ "-" ++ b) = .error (.overflow u)) := by
  obtain ⟨d, hd, hrep, hresult⟩ := exists_derivation_of_ok hx
  obtain ⟨d', hd', hrep', hresult'⟩ := exists_derivation_of_ok hy
  have htext : (d.join .minus d').text = (a ++ "-" ++ b).toList := by
    rw [d.text_join, hd, hd', ← toList_joined]
    rfl
  have hrest := rest_eq_nil hd' hplus hminus
  have hjoined : (d.join .minus d').Representable ↔ y ≤ x := by
    rw [Derivation.representable_join_minus_iff hrep hrep' hrest, hresult, hresult', Int.ofNat_le,
      UInt64.le_iff_toNat_le]
  refine ⟨fun hle => ?_, fun hlt => ?_⟩
  · obtain ⟨v, hv, hdifference⟩ := exists_read_of_representable htext (hjoined.mpr hle)
    rw [d.result_join_minus hrest, hresult, hresult'] at hdifference
    exact ⟨v, hv, by omega⟩
  · exact (exists_overflow_iff htext).mpr fun hrepJoined => UInt64.not_le.mpr hlt (hjoined.mp hrepJoined)

end Joined

/-- A sign between two texts makes an invalid text exactly when one of them is invalid. A sum of readable texts is the
sum of what they are read as, or an overflow, and an overflow only if the sum fits no word or something is subtracted in
the second text. A single term is subtracted as the number it is read as. What overflows is not mended by what is joined
to it. -/
theorem read_joined (a b : String) :
    (∀ sign ∈ ["+", "-"], (∃ u, read (a ++ sign ++ b) = .error (.invalid u)) ↔
      (∃ u, read a = .error (.invalid u)) ∨ ∃ u, read b = .error (.invalid u)) ∧
    (∀ x y, read a = .ok x → read b = .ok y →
      ((∃ v, read (a ++ "+" ++ b) = .ok v ∧ v.toNat = x.toNat + y.toNat) ∨
        ∃ u, read (a ++ "+" ++ b) = .error (.overflow u)) ∧
      ('-' ∉ b.toList → x.toNat + y.toNat < 2 ^ 64 →
        ∃ v, read (a ++ "+" ++ b) = .ok v ∧ v.toNat = x.toNat + y.toNat) ∧
      ('+' ∉ b.toList → '-' ∉ b.toList →
        (y ≤ x → ∃ v, read (a ++ "-" ++ b) = .ok v ∧ v.toNat + y.toNat = x.toNat) ∧
        (x < y → ∃ u, read (a ++ "-" ++ b) = .error (.overflow u)))) ∧
    ((∃ u, read a = .error (.overflow u)) → ∀ sign ∈ ["+", "-"], ∀ v, read (a ++ sign ++ b) ≠ .ok v) := by
  have hsigns : ∀ sign ∈ ["+", "-"], ∃ s : Sign, sign = String.singleton s.symbol := by
    intro sign hsign
    simp only [List.mem_cons, List.not_mem_nil, or_false] at hsign
    rcases hsign with rfl | rfl
    · exact ⟨.plus, rfl⟩
    · exact ⟨.minus, rfl⟩
  refine ⟨?_, ?_, ?_⟩
  · intro sign hsign
    obtain ⟨s, rfl⟩ := hsigns sign hsign
    exact exists_invalid_joined_iff s a b
  · intro x y hx hy
    exact ⟨read_sum hx hy, read_sum_of_fits hx hy, read_difference hx hy⟩
  · rintro ⟨u, hu⟩ sign hsign v hv
    obtain ⟨s, rfl⟩ := hsigns sign hsign
    obtain ⟨x, hx⟩ := exists_ok_of_joined hv
    rw [hu] at hx
    cases hx

/-- Spaces, a scale and digits of either base at the signs; a second text that subtracts, so that the sum overflows on
the way though it would fit a word; a difference below zero; and an overflow that no sum mends. -/
theorem read_joined_at_the_sign :
    (∃ v, read ("2 ^3 " ++ "+" ++ "\t0x1f+8k") = .ok v ∧ v.toNat = 8 + 8223) ∧
    (∃ v, read ("8k" ++ "-" ++ "0x1F") = .ok v ∧ v.toNat + 31 = 8192) ∧
    (∃ u, read ("8k" ++ "-" ++ "1m") = .error (.overflow u)) ∧
    (read "18446744073709551615" = .ok 18446744073709551615 ∧ read "2-2" = .ok 0 ∧
      ∃ u, read ("18446744073709551615" ++ "+" ++ "2-2") = .error (.overflow u)) ∧
    (∃ u, read ("2^" ++ "+" ++ "3") = .error (.invalid u)) ∧
    ∀ v, read ("0-1" ++ "+" ++ "5") ≠ .ok v := by
  have hpower : read "2 ^3 " = .ok 8 := by decide +kernel
  have hsum : read "\t0x1f+8k" = .ok 8223 := by decide +kernel
  have hkibi : read "8k" = .ok 8192 := by decide +kernel
  have hlarge : read "18446744073709551615" = .ok 18446744073709551615 := by decide +kernel
  have hzero : read "2-2" = .ok 0 := by decide +kernel
  refine ⟨?_, ?_, ?_, ⟨hlarge, hzero, ?_⟩, ?_, ?_⟩
  · obtain ⟨-, hread, -⟩ := read_joined "2 ^3 " "\t0x1f+8k"
    exact (hread 8 8223 hpower hsum).2.1 (by decide) (by decide)
  · obtain ⟨-, hread, -⟩ := read_joined "8k" "0x1F"
    exact ((hread 8192 31 hkibi (by decide +kernel)).2.2 (by decide) (by decide)).1 (by decide)
  · obtain ⟨-, hread, -⟩ := read_joined "8k" "1m"
    exact ((hread 8192 1048576 hkibi (by decide +kernel)).2.2 (by decide) (by decide)).2 (by decide)
  · exact ⟨"18446744073709551615+2-2", by decide +kernel⟩
  · obtain ⟨hinvalid, -, -⟩ := read_joined "2^" "3"
    exact (hinvalid "+" (by simp)).mpr (Or.inl ⟨"2^", by decide +kernel⟩)
  · obtain ⟨-, -, hoverflow⟩ := read_joined "0-1" "5"
    exact hoverflow ⟨"0-1", by decide +kernel⟩ "+" (by simp)

end ProgramRom.Capacity.Grammar
