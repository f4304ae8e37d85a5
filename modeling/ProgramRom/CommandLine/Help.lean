import ProgramRom.CommandLine.Parameter
import ProgramRom.Text.Alignment

/-! # Help

A help text says what a command does and how it is called, and lists its parameters in columns. -/

namespace ProgramRom.CommandLine.Help

/-- A title over lines of two columns, the first as wide as its widest entry. -/
def part (title : String) (rows : List (String × String)) : List String :=
  let width := (rows.map (·.1.length)).max?.getD 0
  title :: rows.map fun (name, summary) => "  " ++ Text.Alignment.left.pad width name ++ "  " ++ summary

/-- An option with its letter, or with a gap in its place. -/
def optionName (p : Parameter) : String :=
  match p.short? with
  | some letter => s!"-{letter}, {p.label}"
  | none => s!"    {p.label}"

def optionPart (options : List Parameter) : List String :=
  part "Options:" (options.map fun p => (optionName p, p.summary))

def screen (summary usage : String) (parts : List (List String)) : String :=
  let blocks := [[summary], [s!"Usage: {usage}"]] ++ parts
  Text.unlines (List.intercalate [""] blocks)

def program : String :=
  screen programSummary s!"{programName} [OPTIONS] <COMMAND>"
    [part "Commands:" (Keyword.all.map fun k => (k.name, k.summary)), optionPart programOptions]

def command (c : Command) : String :=
  let usage := s!"{programName} {c.name} [OPTIONS]"
  match c.positional? with
  | none => screen c.summary usage [optionPart c.options]
  | some p =>
    screen c.summary s!"{usage} {p.label}" [part "Arguments:" [(p.label, p.summary)], optionPart c.options]

/-- The help of the command that shows help. -/
def help : String :=
  screen Keyword.help.summary s!"{programName} help [COMMAND]..."
    [part "Arguments:" [("[COMMAND]...", "Print help for the subcommand(s)")]]

def keyword : Keyword → String
  | .command c => command c
  | .help => help

def version : String := Text.unlines [s!"{programName} {programVersion}"]

end ProgramRom.CommandLine.Help
