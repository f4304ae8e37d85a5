import Mathlib.Data.List.DropRight
import Mathlib.Order.Basic
import ProgramRom.Log.Filter

/-! # Levels by name

A level shows the more, the later its name stands in a list of six; what a level shows, every later one shows too. What
is set for the log beside its level, if it is a level for all components or for one, is understood without a warning. -/

namespace ProgramRom.Log

/-! ### Names -/

/-- The names of the levels, from the one that shows nothing to the one that shows everything. -/
def levelNames : List String := ["OFF", "ERROR", "WARN", "INFO", "DEBUG", "TRACE"]

/-- How much a level shows, by its name in any case of the letters. Any other text counts as `WARN`. -/
def levelRank (name : String) : Nat := (levelNames.idxOf? (name.map Char.toUpper)).getD 2

namespace Threshold

/-- How much a threshold lets through. -/
def rank (t : Threshold) : Nat := (t.level?.map Level.detail).getD 0

theorem admits_eq_decide (t : Threshold) (level : Level) : t.admits level = decide (level.detail ≤ t.rank) := by
  obtain ⟨most | _⟩ := t
  · cases level <;> rfl
  · rfl

theorem map_rank_ofName? (name : String) : (ofName? name).map rank = levelNames.idxOf? (name.map Char.toUpper) := by
  unfold ofName?
  generalize name.map Char.toUpper = upper
  by_cases hname : upper ∈ levelNames
  · simp only [levelNames, List.mem_cons, List.not_mem_nil, or_false] at hname
    rcases hname with rfl | rfl | rfl | rfl | rfl | rfl <;> rfl
  · have hoff : upper ≠ "OFF" := fun h => hname (h ▸ by decide)
    have hnone : Level.all.find? (·.name = upper) = none := by
      rw [List.find?_eq_none]
      intro level _ h
      have hlevel : level.name ∈ levelNames := by cases level <;> decide
      exact hname (of_decide_eq_true h ▸ hlevel)
    have hidx : levelNames.idxOf? upper = none := List.idxOf?_eq_none_iff.mpr hname
    rw [hidx]
    simp [hoff, hnone]

theorem exists_ofName? {name : String} (h : name.map Char.toUpper ∈ levelNames) : ∃ t, ofName? name = some t := by
  have hidx : (levelNames.idxOf? (name.map Char.toUpper)).isSome := List.isSome_idxOf?.mpr h
  rw [← map_rank_ofName?, Option.isSome_map] at hidx
  exact Option.isSome_iff_exists.mp hidx

end Threshold

namespace Filter

theorem rank_ofLevelName (name : String) : (ofLevelName name).base.rank = levelRank name := by
  unfold levelRank ofLevelName
  rw [← Threshold.map_rank_ofName?]
  cases Threshold.ofName? name <;> rfl

theorem admits_ofLevelName (name : String) (e : Event) :
    (ofLevelName name).admits e = decide (e.level.detail ≤ levelRank name) := by
  have hthreshold : (ofLevelName name).admits e = ((ofLevelName name).base.admits e.level && true) := rfl
  rw [hthreshold, Bool.and_true, Threshold.admits_eq_decide, rank_ofLevelName]

/-- A level that shows more shows everything that the other one shows, in the same order. -/
theorem filter_ofLevelName_sublist {low high : String} (h : levelRank low ≤ levelRank high) (events : List Event) :
    (events.filter (ofLevelName low).admits).Sublist (events.filter (ofLevelName high).admits) := by
  refine List.monotone_filter_right events fun e he => ?_
  rw [admits_ofLevelName, decide_eq_true_eq] at he ⊢
  exact he.trans h

end Filter

/-! ### Settings -/

/-- What may be set for the log beside the level: nothing, a level for all components, or a level for one. -/
inductive Setting : Option String → Prop
  | unset : Setting none
  | empty : Setting (some "")
  | level {name : String} (h : name.map Char.toUpper ∈ levelNames) : Setting (some name)
  | component {target name : String} (hcomma : ',' ∉ target.toList) (hslash : '/' ∉ target.toList)
      (hequals : '=' ∉ target.toList) (hname : name.map Char.toUpper ∈ levelNames) :
      Setting (some (target ++ "=" ++ name))

section
variable {name : String}

theorem toNat_of_isUpper_toUpper {c : Char} (h : c.toUpper.isUpper = true) : 65 ≤ c.toNat ∧ c.toNat ≤ 122 := by
  by_cases hlower : 97 ≤ c.val ∧ c.val ≤ 122
  · have hlow : 97 ≤ c.toNat := UInt32.le_iff_toNat_le.mp hlower.1
    exact ⟨by omega, UInt32.le_iff_toNat_le.mp hlower.2⟩
  · have hsame : c.toUpper = c := dif_neg hlower
    rw [hsame] at h
    have hupper : 65 ≤ c.val ∧ c.val ≤ 90 := of_decide_eq_true h
    have hhigh : c.toNat ≤ 90 := UInt32.le_iff_toNat_le.mp hupper.2
    exact ⟨UInt32.le_iff_toNat_le.mp hupper.1, by omega⟩

/-- The name of a level has letters only, so it has no blanks and no separators. -/
theorem toNat_of_mem_name (h : name.map Char.toUpper ∈ levelNames) {c : Char} (hc : c ∈ name.toList) :
    65 ≤ c.toNat ∧ c.toNat ≤ 122 := by
  have hupper : ∀ text ∈ levelNames, text.toList.all Char.isUpper = true := by decide
  have hmem : c.toUpper ∈ (name.map Char.toUpper).toList := by
    rw [String.toList_map]
    exact List.mem_map_of_mem hc
  exact toNat_of_isUpper_toUpper (List.all_eq_true.mp (hupper _ h) _ hmem)

theorem not_mem_name (h : name.map Char.toUpper ∈ levelNames) {c : Char} (hc : c.toNat < 65) : c ∉ name.toList := by
  intro hmem
  have hbounds := toNat_of_mem_name h hmem
  omega

theorem isBlank_of_mem_name (h : name.map Char.toUpper ∈ levelNames) {c : Char} (hc : c ∈ name.toList) :
    Text.isBlank c = false := by
  obtain ⟨hlow, hhigh⟩ := toNat_of_mem_name h hc
  have hfar : ∀ range ∈ Text.blankRanges, range.2 < 65 ∨ 122 < range.1 := by decide
  refine Bool.eq_false_iff.mpr fun hblank => ?_
  obtain ⟨range, hrange, hfirst, hlast⟩ := Text.inRanges_iff.mp hblank
  have := hfar range hrange
  omega

theorem name_ne_empty (h : name.map Char.toUpper ∈ levelNames) : name ≠ "" := by
  rintro rfl
  have hmap : String.map Char.toUpper "" = "" := by simp
  rw [hmap] at h
  exact absurd h (by decide)

end

/-- Blanks are trimmed in front of the last part of a text only, if that part has none. -/
theorem toList_trimBlanks_append (start : String) {last : String} (hne : last ≠ "")
    (hlast : ∀ c ∈ last.toList, Text.isBlank c = false) :
    (Filter.trimBlanks (start ++ last)).toList = start.toList.dropWhile Text.isBlank ++ last.toList := by
  have hlist : last.toList ≠ [] := by simpa using hne
  have hfront : last.toList.dropWhile Text.isBlank = last.toList := by
    rw [List.dropWhile_eq_self_iff]
    intro hl
    rw [hlast _ (List.getElem_mem hl)]
    exact Bool.false_ne_true
  have hdrop : (start ++ last).toList.dropWhile Text.isBlank = start.toList.dropWhile Text.isBlank ++ last.toList := by
    rw [String.toList_append, List.dropWhile_append, hfront]
    split
    · rename_i hempty
      rw [List.isEmpty_iff.mp hempty, List.nil_append]
    · rfl
  have hback : (start.toList.dropWhile Text.isBlank ++ last.toList).rdropWhile Text.isBlank =
      start.toList.dropWhile Text.isBlank ++ last.toList := by
    rw [List.rdropWhile_eq_self_iff]
    intro hl
    rw [List.getLast_append_of_ne_nil hl hlist, hlast _ (List.getLast_mem hlist)]
    exact Bool.false_ne_true
  rw [Filter.trimBlanks, hdrop, String.toList_ofList]
  exact hback

namespace Filter

variable {name : String}

theorem trimBlanks_name (h : name.map Char.toUpper ∈ levelNames) : trimBlanks name = name := by
  have htrim := toList_trimBlanks_append "" (name_ne_empty h) fun c hc => isBlank_of_mem_name h hc
  rw [String.empty_append] at htrim
  exact String.toList_inj.mp htrim

theorem trimBlanks_component (target : String) (h : name.map Char.toUpper ∈ levelNames) :
    trimBlanks (target ++ "=" ++ name) = String.ofList (target.toList.dropWhile Text.isBlank) ++ "=" ++ name := by
  have hlast : ∀ c ∈ ("=" ++ name).toList, Text.isBlank c = false := by
    intro c hc
    rw [String.toList_append, List.mem_append] at hc
    rcases hc with hc | hc
    · rw [List.mem_singleton.mp hc]
      decide
    · exact isBlank_of_mem_name h hc
  have hne : "=" ++ name ≠ "" := by simp
  rw [String.append_assoc, String.append_assoc, ← String.toList_inj, toList_trimBlanks_append target hne hlast]
  simp

theorem exists_addDirective_name (h : name.map Char.toUpper ∈ levelNames) (f : Filter) :
    ∃ g, f.addDirective name = .ok g := by
  obtain ⟨t, ht⟩ := Threshold.exists_ofName? h
  refine ⟨{ f with base := t }, ?_⟩
  rw [addDirective, Text.parts_of_not_mem (not_mem_name h (by decide))]
  simp only [ht]

theorem exists_addDirective_component {target : String} (htarget : '=' ∉ target.toList)
    (h : name.map Char.toUpper ∈ levelNames) (f : Filter) : ∃ g, f.addDirective (target ++ "=" ++ name) = .ok g := by
  obtain ⟨t, ht⟩ := Threshold.exists_ofName? h
  have hparts : Text.parts '=' (target ++ "=" ++ name) = [target, name] := by
    rw [show "=" = String.singleton '=' from rfl, Text.parts_append htarget,
      Text.parts_of_not_mem (not_mem_name h (by decide))]
  refine ⟨f.set target t, ?_⟩
  rw [addDirective, hparts]
  simp [trimBlanks_name h, name_ne_empty h, ht]

/-- A text that is one directive amends a filter without a warning. -/
theorem warnings_amend_of_directive {f g : Filter} {text directive : String} (hcomma : ',' ∉ text.toList)
    (hslash : '/' ∉ text.toList) (htrim : trimBlanks text = directive) (hne : directive ≠ "")
    (h : f.addDirective directive = .ok g) : (f.amend text).2 = [] := by
  rw [amend, Text.parts_of_not_mem hslash]
  simp [addDirectives, Text.parts_of_not_mem hcomma, htrim, hne, h]

/-- No part of a setting is ignored. -/
theorem warnings_amend_of_setting {directives? : Option String} (h : Setting directives?) (f : Filter) :
    (f.amend (directives?.getD "")).2 = [] := by
  cases h with
  | unset => rfl
  | empty => rfl
  | level h =>
    obtain ⟨g, hg⟩ := exists_addDirective_name h f
    exact warnings_amend_of_directive (not_mem_name h (by decide)) (not_mem_name h (by decide)) (trimBlanks_name h)
      (name_ne_empty h) hg
  | @component target name hcomma hslash hequals hname =>
    -- Only the target can begin with blanks, and without them it has no separator either.
    have htrimmed : '=' ∉ (String.ofList (target.toList.dropWhile Text.isBlank)).toList := by
      rw [String.toList_ofList]
      exact fun hmem => hequals ((List.dropWhile_sublist _).subset hmem)
    have hcommas : ',' ∉ (target ++ "=" ++ name).toList := by
      simp [hcomma, not_mem_name hname (show ','.toNat < 65 by decide)]
    have hslashes : '/' ∉ (target ++ "=" ++ name).toList := by
      simp [hslash, not_mem_name hname (show '/'.toNat < 65 by decide)]
    obtain ⟨g, hg⟩ := exists_addDirective_component htrimmed hname f
    exact warnings_amend_of_directive hcommas hslashes (trimBlanks_component target hname) (by simp) hg

end Filter

end ProgramRom.Log
