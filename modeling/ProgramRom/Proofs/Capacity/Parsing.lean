import ProgramRom.Proofs.Capacity.Grammar

/-! # Reading a capacity is finding its derivation

The reader follows the grammar without looking back: it takes every run whole and keeps the first rule that
fits. On the text of a derivation it finds the expression of the derivation, since each run ends where the
derivation ends it and the rules are told apart by one character (`read?_text`). Whatever it reads has a
derivation behind it (`exists_termForm`). -/

namespace ProgramRom.Capacity.Grammar

open Text

/-! ### The expression of a derivation -/

def Letter.scale (l : Letter) : Scale := if l.symbol = 'k' ∨ l.symbol = 'K' then .kibi else .mebi

def TermForm.term : TermForm → Term
  | power base _ _ exponent => .power (Text.numeralValue 10 base.chars) (Text.numeralValue 10 exponent.chars)
  | hexadecimal _ digits => .hexadecimal (Text.numeralValue 16 digits.chars)
  | scaled digits letter => .scaled (Text.numeralValue 10 digits.chars) (letter.elim .one Letter.scale)

def PartForm.part (p : PartForm) : Sign × Term := (p.sign, p.term.term)

def Derivation.expression (d : Derivation) : Expression := ⟨d.first.term, d.rest.map PartForm.part⟩

/-! ### The text of a derivation is read as its expression -/

theorem readNumeral?_run {base : Nat} {isDigit : Char → Bool} {run rest : List Char} (hne : run ≠ [])
    (hrun : ∀ c ∈ run, isDigit c = true) (hrest : Stops isDigit rest) :
    readNumeral? base isDigit (run ++ rest) = some (Text.numeralValue base run, rest) := by
  have hvalue : Text.numeral? base isDigit run = some (Text.numeralValue base run) :=
    Text.numeral?_eq_some_iff.mpr ⟨hne, hrun, rfl⟩
  rw [readNumeral?, takeWhile_run hrun hrest, dropWhile_run hrun hrest, hvalue, Option.map_some]

theorem readDecimal?_text (f : TermForm) {rest : List Char} (h : Follows rest) :
    readDecimal? (f.text ++ rest) = some (Text.numeralValue 10 f.lead, f.behind ++ rest) := by
  rw [f.text_eq, List.append_assoc]
  exact readNumeral?_run f.lead_ne_nil f.isDigit_lead (f.stops_isDigit_behind h)

/-- A term without a caret behind its first digits is not read as a power. -/
theorem readPower?_eq_none {f : TermForm} {rest : List Char} (h : Follows rest) (hnext : f.next rest ≠ some '^') :
    Term.readPower? (f.text ++ rest) = none := by
  rw [Option.eq_none_iff_forall_ne_some]
  rintro ⟨t, rest'⟩ hread
  obtain ⟨base, mid, after, exponent, hbase, hcaret, -, -⟩ := Term.readPower?_eq_some_iff.mp hread
  rw [readDecimal?_text f h] at hbase
  cases hbase
  exact hnext (by rw [TermForm.next, hcaret, List.head?_cons])

/-- A term without a mark behind its first digits is not read as a hexadecimal number. -/
theorem readMarked?_eq_none {f : TermForm} {rest : List Char} (h : Follows rest)
    (hnext : f.next rest ≠ some 'x' ∧ f.next rest ≠ some 'X') : Term.readMarked? (f.text ++ rest) = none := by
  rw [Option.eq_none_iff_forall_ne_some]
  rintro ⟨t, rest'⟩ hread
  obtain ⟨mark, digits, value, hmark, htext, -, -⟩ := Term.readMarked?_eq_some_iff.mp hread
  have hbehind : f.behind ++ rest = mark :: digits := by
    rw [← f.dropWhile_text h, htext]
    rcases hmark with rfl | rfl <;> rfl
  have hmarked : f.next rest = some mark := by
    rw [TermForm.next, hbehind]
    rcases hmark with rfl | rfl <;> rfl
  rcases hmark with rfl | rfl
  · exact hnext.1 hmarked
  · exact hnext.2 hmarked

theorem readScale_letter (l : Letter) (rest : List Char) : readScale (l.symbol :: rest) = (l.scale, rest) := by
  rcases l with ⟨_, rfl | rfl | rfl | rfl⟩ <;> rfl

theorem readScale_of_follows {rest : List Char} (h : Follows rest) : readScale rest = (.one, rest) := by
  cases rest with
  | nil => rfl
  | cons c cs =>
    rcases h.head (c := c) rfl with rfl | rfl | rfl | rfl <;> rfl

theorem readPower?_text (base : Digits Char.isDigit) (before after : Gap) (exponent : Digits Char.isDigit)
    {rest : List Char} (h : Follows rest) :
    Term.readPower? ((TermForm.power base before after exponent).text ++ rest) =
      some ((TermForm.power base before after exponent).term, rest) := by
  have hexponent : readDecimal? (skipSpaces (after.chars ++ (exponent.chars ++ rest))) =
      some (Text.numeralValue 10 exponent.chars, rest) := by
    rw [skipSpaces_gap after (stops_isSpace_digits exponent.nonempty exponent.digits rest)]
    exact readNumeral?_run exponent.nonempty exponent.digits h.isDigit
  exact Term.readPower?_eq_some_iff.mpr
    ⟨_, _, _, _, readDecimal?_text _ h, TermForm.skipSpaces_behind_power .., hexponent, rfl⟩

theorem readMarked?_text (mark : Mark) (digits : Digits Text.isHexDigit) {rest : List Char} (h : Follows rest) :
    Term.readMarked? ((TermForm.hexadecimal mark digits).text ++ rest) =
      some ((TermForm.hexadecimal mark digits).term, rest) :=
  Term.readMarked?_eq_some_iff.mpr ⟨_, _, _, mark.letter, rfl,
    readNumeral?_run digits.nonempty digits.digits h.isHexDigit, rfl⟩

theorem readScaled?_text (digits : Digits Char.isDigit) (letter : Option Letter) {rest : List Char}
    (h : Follows rest) :
    Term.readScaled? ((TermForm.scaled digits letter).text ++ rest) =
      some ((TermForm.scaled digits letter).term, rest) := by
  have hscale : readScale ((TermForm.scaled digits letter).behind ++ rest) =
      (letter.elim .one Letter.scale, rest) := by
    cases letter with
    | none => exact readScale_of_follows h
    | some l => exact readScale_letter l rest
  refine Term.readScaled?_eq_some_iff.mpr ⟨_, _, readDecimal?_text _ h, ?_, ?_⟩
  · rw [hscale]
  · rw [hscale, TermForm.term, TermForm.lead]

/-- The first rule that fits a term is the rule of its derivation, and it takes the term whole. -/
theorem read?_text (f : TermForm) {rest : List Char} (h : Follows rest) :
    Term.read? (f.text ++ rest) = some (f.term, rest) := by
  rw [Term.read?]
  cases f with
  | power base before after exponent =>
    rw [readPower?_text base before after exponent h, Option.some_or]
  | hexadecimal mark digits =>
    have hnext : (TermForm.hexadecimal mark digits).next rest ≠ some '^' := by
      rw [TermForm.next_hexadecimal]
      rcases mark with ⟨_, rfl | rfl⟩ <;> decide
    rw [readPower?_eq_none h hnext, Option.none_or, readMarked?_text mark digits h, Option.some_or]
  | scaled digits letter =>
    have hnext : ∀ c, c = '^' ∨ c = 'x' ∨ c = 'X' → (TermForm.scaled digits letter).next rest ≠ some c := by
      rintro c (rfl | rfl | rfl) hc <;> exact absurd (TermForm.next_scaled h hc) (by decide)
    rw [readPower?_eq_none h (hnext _ (by simp)), Option.none_or,
      readMarked?_eq_none h ⟨hnext _ (by simp), hnext _ (by simp)⟩, Option.none_or,
      readScaled?_text digits letter h]

theorem readPart?_text (p : PartForm) {rest : List Char} (h : Follows rest) :
    readPart? (p.text ++ rest) = some (p.part, rest) := by
  refine readPart?_eq_some_iff.mpr ⟨p.sign.symbol, p.after.chars ++ (p.term.text ++ rest), ?_, ?_, ?_⟩
  · rw [PartForm.text, List.append_assoc, List.cons_append, List.append_assoc,
      skipSpaces_gap p.before (stops_cons (not_isSpace_symbol p.sign))]
  · exact Sign.ofSymbol?_symbol p.sign
  · rw [skipSpaces_gap p.after (p.term.stops_isSpace_text rest)]
    exact read?_text p.term h

theorem readPart?_gap (g : Gap) : readPart? g.chars = none := by
  rw [Option.eq_none_iff_forall_ne_some]
  rintro ⟨part, rest⟩ hread
  obtain ⟨c, after, hskip, -⟩ := readPart?_eq_some_iff.mp hread
  rw [skipSpaces_chars] at hskip
  cases hskip

/-- Signs and terms are read to the last one, and the spaces at the end are left. -/
theorem readParts_text (ps : List PartForm) (g : Gap) :
    readParts (ps.flatMap PartForm.text ++ g.chars) = (ps.map PartForm.part, g.chars) := by
  induction ps with
  | nil => exact readParts_of_none (readPart?_gap g)
  | cons p ps ih =>
    rw [List.flatMap_cons, List.append_assoc, readParts_of_some (readPart?_text p (.parts ps g)), ih, List.map_cons]

theorem ofText?_text {text : String} {d : Derivation} (h : d.text = text.toList) :
    Expression.ofText? text = some d.expression := by
  have hfirst : Term.read? (skipSpaces text.toList) =
      some (d.first.term, d.rest.flatMap PartForm.text ++ d.after.chars) := by
    rw [← h, Derivation.text, skipSpaces_gap d.before (d.first.stops_isSpace_text _)]
    exact read?_text d.first (.parts d.rest d.after)
  simp [Expression.ofText?, hfirst, readParts_text, skipSpaces_chars, Derivation.expression]

/-! ### What is read has a derivation -/

theorem exists_gap (cs : List Char) : ∃ g : Gap, cs = g.chars ++ skipSpaces cs :=
  ⟨.ofChars (cs.takeWhile isSpace) List.all_takeWhile, List.takeWhile_append_dropWhile.symm⟩

theorem exists_digits {base value : Nat} {isDigit : Char → Bool} {cs rest : List Char}
    (h : readNumeral? base isDigit cs = some (value, rest)) :
    ∃ d : Digits isDigit, cs = d.chars ++ rest ∧ Text.numeralValue base d.chars = value := by
  obtain ⟨_, hvalue, heq⟩ := Option.map_eq_some_iff.mp h
  cases heq
  obtain ⟨hne, hdigits, hvalue⟩ := Text.numeral?_eq_some_iff.mp hvalue
  exact ⟨⟨_, hne, hdigits⟩, List.takeWhile_append_dropWhile.symm, hvalue⟩

theorem exists_letter (cs : List Char) :
    ∃ letter : Option Letter, cs = (letter.map Letter.symbol).toList ++ (readScale cs).2 ∧
      letter.elim .one Letter.scale = (readScale cs).1 := by
  cases cs with
  | nil => exact ⟨none, rfl, rfl⟩
  | cons c cs =>
    by_cases hc : c = 'k' ∨ c = 'K' ∨ c = 'm' ∨ c = 'M'
    · refine ⟨some ⟨c, hc⟩, ?_, ?_⟩
      · rw [readScale_letter ⟨c, hc⟩ cs]
        rfl
      · rw [readScale_letter ⟨c, hc⟩ cs]
        rfl
    · have hscale : readScale (c :: cs) = (.one, c :: cs) := by
        simp only [not_or] at hc
        simp [readScale, Scale.ofSymbol?, hc]
      rw [hscale]
      exact ⟨none, rfl, rfl⟩

/-- Whatever rule a term was read by, it has a derivation of that rule. -/
theorem exists_termForm {cs rest : List Char} {t : Term} (h : Term.read? cs = some (t, rest)) :
    ∃ f : TermForm, cs = f.text ++ rest ∧ f.term = t := by
  rcases Option.or_eq_some_iff.mp h with h | ⟨-, h⟩
  · obtain ⟨_, mid, after, _, hbase, hcaret, hexponent, rfl⟩ := Term.readPower?_eq_some_iff.mp h
    obtain ⟨base, hcs, rfl⟩ := exists_digits hbase
    obtain ⟨before, hmid⟩ := exists_gap mid
    obtain ⟨between, hafter⟩ := exists_gap after
    obtain ⟨exponent, hrest, rfl⟩ := exists_digits hexponent
    refine ⟨.power base before between exponent, ?_, rfl⟩
    rw [hcs, hmid, hcaret, hafter, hrest]
    simp [TermForm.text]
  rcases Option.or_eq_some_iff.mp h with h | ⟨-, h⟩
  · obtain ⟨mark, _, _, hmark, rfl, hvalue, rfl⟩ := Term.readMarked?_eq_some_iff.mp h
    obtain ⟨digits, hcs, rfl⟩ := exists_digits hvalue
    exact ⟨.hexadecimal ⟨mark, hmark⟩ digits, by rw [hcs]; rfl, rfl⟩
  · obtain ⟨_, mid, hvalue, rfl, rfl⟩ := Term.readScaled?_eq_some_iff.mp h
    obtain ⟨digits, hcs, rfl⟩ := exists_digits hvalue
    obtain ⟨letter, hmid, hscale⟩ := exists_letter mid
    refine ⟨.scaled digits letter, ?_, by rw [TermForm.term, hscale]⟩
    rw [TermForm.text, List.append_assoc, ← hmid, hcs]

theorem exists_partForm {cs rest : List Char} {part : Sign × Term} (h : readPart? cs = some (part, rest)) :
    ∃ p : PartForm, cs = p.text ++ rest ∧ p.part = part := by
  obtain ⟨c, after, hcs, hsign, hterm⟩ := readPart?_eq_some_iff.mp h
  obtain ⟨before, hbefore⟩ := exists_gap cs
  obtain ⟨between, hbetween⟩ := exists_gap after
  obtain ⟨f, hf, hft⟩ := exists_termForm hterm
  have hc : part.1.symbol = c := Sign.symbol_of_ofSymbol? hsign
  refine ⟨⟨before, part.1, between, f⟩, ?_, by rw [PartForm.part, hft]⟩
  rw [hbefore, hcs, hbetween, hf, PartForm.text, hc]
  simp

theorem exists_partForms (cs : List Char) :
    ∃ ps : List PartForm, cs = ps.flatMap PartForm.text ++ (readParts cs).2 ∧
      ps.map PartForm.part = (readParts cs).1 := by
  fun_induction readParts cs with
  | case1 cs h => exact ⟨[], rfl, rfl⟩
  | case2 cs part rest h parts rest' heq ih =>
    obtain ⟨p, hcs, hp⟩ := exists_partForm h
    obtain ⟨ps, hrest, hps⟩ := ih
    rw [heq] at hrest hps
    refine ⟨p :: ps, ?_, by rw [List.map_cons, hp, hps]⟩
    rw [List.flatMap_cons, List.append_assoc, ← hrest, hcs]

theorem exists_derivation {text : String} {e : Expression} (h : Expression.ofText? text = some e) :
    ∃ d : Derivation, d.text = text.toList ∧ d.expression = e := by
  obtain ⟨⟨first, cs⟩, hfirst, h⟩ := Option.bind_eq_some_iff.mp h
  obtain ⟨before, hbefore⟩ := exists_gap text.toList
  obtain ⟨f, hf, hft⟩ := exists_termForm hfirst
  obtain ⟨ps, hcs, hps⟩ := exists_partForms cs
  dsimp only at h
  split at h
  · rename_i hend
    cases h
    obtain ⟨after, hafter⟩ := exists_gap (readParts cs).2
    rw [List.isEmpty_iff.mp hend, List.append_nil] at hafter
    refine ⟨⟨before, f, ps, after⟩, ?_, by rw [Derivation.expression, hft, hps]⟩
    rw [Derivation.text, ← hafter, ← hcs, ← hf, ← hbefore]
  · cases h

/-! ### The texts that are read -/

theorem isSome_ofText?_iff {text : String} :
    (Expression.ofText? text).isSome ↔ ∃ d : Derivation, d.text = text.toList := by
  constructor
  · intro h
    obtain ⟨e, he⟩ := Option.isSome_iff_exists.mp h
    obtain ⟨d, hd, -⟩ := exists_derivation he
    exact ⟨d, hd⟩
  · rintro ⟨d, hd⟩
    rw [ofText?_text hd, Option.isSome_some]

theorem read_eq_invalid_iff {text u : String} :
    read text = .error (.invalid u) ↔ Expression.ofText? text = none ∧ u = text := by
  unfold read
  cases Expression.ofText? text with
  | none => simp [eq_comm]
  | some e => cases hvalue : e.value? <;> simp [hvalue]

theorem exists_invalid_iff {text : String} :
    (∃ u, read text = .error (.invalid u)) ↔ ¬∃ d : Derivation, d.text = text.toList := by
  rw [← isSome_ofText?_iff, Option.not_isSome_iff_eq_none]
  constructor
  · rintro ⟨u, hu⟩
    exact (read_eq_invalid_iff.mp hu).1
  · intro hnone
    exact ⟨text, read_eq_invalid_iff.mpr ⟨hnone, rfl⟩⟩

/-- A text is refused as invalid exactly when the grammar does not derive it, no text is derived in two ways, and
the fault carries the text as it was given. -/
theorem read_accepts_grammar (text : String) :
    ((¬∃ u, read text = .error (.invalid u)) ↔ ∃ d : Derivation, d.text = text.toList) ∧
      (∀ d d' : Derivation, d.text = text.toList → d'.text = text.toList → d = d') ∧
      (∀ u, read text = .error (.invalid u) → u = text) := by
  refine ⟨?_, fun d d' hd hd' => text_injective (hd.trans hd'.symm), fun u hu => (read_eq_invalid_iff.mp hu).2⟩
  rw [exists_invalid_iff, Classical.not_not]

/-- A text that is derived, and one that breaks off where a power could still be read. -/
theorem read_accepts_grammar_mixed :
    (∃ d : Derivation, d.text = "0x1f -\t2^ 3".toList ∧
      (∀ d' : Derivation, d'.text = "0x1f -\t2^ 3".toList → d' = d) ∧
      ¬∃ u, read "0x1f -\t2^ 3" = .error (.invalid u)) ∧
    read "2 ^" = .error (.invalid "2 ^") ∧ ∀ u, read "2 ^" = .error (.invalid u) → u = "2 ^" := by
  have hread : (Expression.ofText? "0x1f -\t2^ 3").isSome := by decide +kernel
  have hrefused : Expression.ofText? "2 ^" = none := by decide +kernel
  obtain ⟨d, hd⟩ := isSome_ofText?_iff.mp hread
  obtain ⟨hiff, hunique, -⟩ := read_accepts_grammar "0x1f -\t2^ 3"
  obtain ⟨-, -, hcarried⟩ := read_accepts_grammar "2 ^"
  exact ⟨⟨d, hd, fun d' hd' => hunique d' d hd' hd, hiff.mpr ⟨d, hd⟩⟩,
    read_eq_invalid_iff.mpr ⟨hrefused, rfl⟩, hcarried⟩

end ProgramRom.Capacity.Grammar
