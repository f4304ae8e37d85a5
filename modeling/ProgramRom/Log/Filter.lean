import ProgramRom.Log.Event
import ProgramRom.Pattern.Accepted
import ProgramRom.Pattern.Matching

/-! # Log filters

A filter has a threshold for all records and thresholds for components by name, and it may have a pattern.
A record is let through by the threshold with the longest name that its target begins with, if the pattern
occurs in its message.

A filter is amended by a list of directives, separated by commas: a level alone replaces the threshold for
all, a name alone lets through all of a component, and a name with a level sets its threshold. Behind a slash
may follow the pattern. -/

namespace ProgramRom.Log

structure Filter where
  base : Threshold
  /-- Thresholds by name, no name twice. -/
  named : List (String × Threshold) := []
  pattern? : Option Pattern.Expr := none
deriving DecidableEq, Repr

namespace Filter

/-- The threshold for the records of a target. -/
def threshold (f : Filter) (target : String) : Threshold :=
  let longer (best : String × Threshold) (entry : String × Threshold) :=
    if entry.1.toList.isPrefixOf target.toList && best.1.length ≤ entry.1.length then entry else best
  (f.named.foldl longer ("", f.base)).2

def admits (f : Filter) (e : Event) : Bool :=
  (f.threshold e.target).admits e.level && f.pattern?.all (·.occursIn e.message)

/-- Sets the threshold of a name, in its old place if it has one. -/
def set (f : Filter) (name : String) (t : Threshold) : Filter :=
  if f.named.any (·.1 = name) then
    { f with named := f.named.map fun entry => if entry.1 = name then (name, t) else entry }
  else { f with named := f.named ++ [(name, t)] }

def everything : Threshold := .upTo .trace

/-- A text without the blanks at both its ends. -/
def trimBlanks (text : String) : String :=
  String.ofList ((text.toList.dropWhile Text.isBlank).reverse.dropWhile Text.isBlank).reverse

/-- The filter with one more directive, or the part of it that is no directive. -/
def addDirective (f : Filter) (directive : String) : Except String Filter :=
  match Text.parts '=' directive with
  | [name] =>
    match Threshold.ofName? name with
    | some t => .ok { f with base := t }
    | none => .ok (f.set name everything)
  | [name, level] =>
    let level := trimBlanks level
    if level.isEmpty then .ok (f.set name everything)
    else
      match Threshold.ofName? level with
      | some t => .ok (f.set name t)
      | none => .error level
  | _ => .error directive

/-- Why a part of a text that amends a filter counts for nothing. -/
inductive Warning where
  | directive (text : String)
  /-- The text has more than one slash. -/
  | slashes (text : String)
  | pattern (text : String) (fault : Pattern.Fault)
deriving DecidableEq, Repr

def Warning.message : Warning → String
  | directive text => s!"warning: invalid logging spec '{text}', ignoring it"
  | slashes text => s!"warning: invalid logging spec '{text}' (too many '/'s), ignoring it"
  | pattern text fault => s!"warning: invalid regex filter - {fault.message text}, ignoring it"

/-- The filter amended by directives, and a warning for every one that is none. -/
def addDirectives (f : Filter) (directives : String) : Filter × List Warning :=
  let step (state : Filter × List Warning) (directive : String) :=
    if directive.isEmpty then state
    else
      match state.1.addDirective directive with
      | .ok f => (f, state.2)
      | .error part => (state.1, state.2 ++ [.directive part])
  ((Text.parts ',' directives).map trimBlanks).foldl step (f, [])

/-- The filter amended by a text. -/
def amend (f : Filter) (text : String) : Filter × List Warning :=
  match Text.parts '/' text with
  | [directives] => f.addDirectives directives
  | [directives, pattern] =>
    let (f, warnings) := f.addDirectives directives
    match Pattern.Expr.read pattern with
    | .ok e => ({ f with pattern? := some e }, warnings)
    | .error fault => (f, warnings ++ [.pattern pattern fault])
  | _ => (f, [.slashes text])

/-- The filter for a level by name, warnings and errors for a name that is none. -/
def ofLevelName (name : String) : Filter :=
  { base := (Threshold.ofName? name).getD (.upTo .warn) }

end Filter

end ProgramRom.Log
