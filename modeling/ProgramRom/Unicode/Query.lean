import ProgramRom.Unicode.PropertyName
import ProgramRom.Unicode.Segmentation

/-! # Questions about properties

Characters are asked for by the name of a property, a category or a script, or by a property with a value. -/

namespace ProgramRom.Unicode

inductive Query where
  /-- A property that characters have, a category or a script. -/
  | having (name : String)
  | withValue (property value : String)
deriving DecidableEq, Repr

/-- What a question has no answer for. -/
inductive Unknown where
  | property
  | value
deriving DecidableEq, Repr

namespace Edition

/-- The characters of a category or a group. All, the assigned and those of ASCII are asked for alike. -/
def category? (e : Edition) (name : String) : Option (Except Unknown CharSet) :=
  match plainName name with
  | "any" => some (.ok .all)
  | "assigned" => some (.ok (e.ofCategories ["Cn"]).compl)
  | "ascii" => some (.ok ⟨[⟨0, 0x7F⟩]⟩)
  | plain => do
    let entry ← categoryNames.find? fun entry => entry.names.any (plainName · = plain)
    -- No character is a surrogate.
    if entry.categories = ["Cs"] then some (.error .value) else some (.ok (e.ofCategories entry.categories))

/-- The set of a script by one of its names. -/
def script? (name : String) (set : String → CharSet) : Option (Except Unknown CharSet) := do
  let script ← named? scriptNames name
  if ["Zzzz", "Hrkt"].contains script then some (.error .value) else some (.ok (set script))

/-- The version of the standard that a name stands for: its number, or the number behind a letter. -/
def versionNumber? (name : String) : Option String :=
  let numbers := versions.map (·.2)
  numbers.find? fun number =>
    plainName name = number || plainName name = "v" ++ String.ofList (number.toList.filter (· ≠ '.'))

/-- The names that stand for a category, although a property has them too. -/
def categoryFirst : List String := ["cf", "sc", "lc"]

def having (e : Edition) (name : String) : Except Unknown CharSet :=
  let property? := if categoryFirst.contains (plainName name) then none else named? propertyNames name
  match property? with
  | some property => (e.property? property).elim (.error .property) .ok
  | none => (e.category? name <|> script? name e.ofScript).getD (.error .property)

/-- The set that a class of characters stands for. -/
def ofClass (names : List (List String)) (set? : String → Option CharSet) (value : String) :
    Except Unknown CharSet :=
  ((named? names value).bind set?).elim (.error .value) .ok

def withValue (e : Edition) (property value : String) : Except Unknown CharSet :=
  match named? propertyNames property with
  | none => .error .property
  | some "General_Category" => (e.category? value).getD (.error .value)
  | some "Script" => (script? value e.ofScript).getD (.error .value)
  | some "Script_Extensions" => (script? value e.usedWithScript).getD (.error .value)
  | some "Age" => ((versionNumber? value).bind upToVersion?).elim (.error .value) .ok
  | some "Grapheme_Cluster_Break" => ofClass graphemeBreakNames e.graphemeBreak? value
  | some "Word_Break" => ofClass wordBreakNames e.wordBreak? value
  | some "Sentence_Break" => ofClass sentenceBreakNames e.sentenceBreak? value
  | some _ => .error .value

end Edition

/-- The characters that a question asks for. -/
def Query.answer (e : Edition) : Query → Except Unknown CharSet
  | having name => e.having name
  | withValue property value => e.withValue property value

end ProgramRom.Unicode
