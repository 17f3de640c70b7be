import DataplaneVerdict.CommandLine.Grammar

/-!
# `CommandLine.Help` — help texts

A help text has a usage line, a description, and lists of operands, options and subcommands in two columns. Descriptions
are wrapped between words so that no line is longer than eighty characters.

## Contents
- **Wrapping.** `Help.wrap`.
- **Text.** `Help.render`.
-/

namespace DataplaneVerdict.Help

/-- The length of the longest line. -/
def lineWidth : Nat := 80

/-- The narrowest column that is wrapped. -/
def leastColumn : Nat := 40

/-- Fills lines of at most `width` characters with words. -/
def fill (width : Nat) (line : String) : List String → List String
  | [] => if line.isEmpty then [] else [line]
  | w :: rest =>
    if line.isEmpty then fill width w rest
    else if line.length + 1 + w.length ≤ width then fill width (line ++ " " ++ w) rest
    else line :: fill width w rest

/-- Wraps a text into a column that starts at an indentation; the first line is not indented. -/
def wrap (text : String) (width indent : Nat) : String :=
  if width - indent < leastColumn then text
  else
    Text.join ("\n" ++ Text.repeated " " indent) (fill (width - indent - 1) "" (Text.splitOn text ' '))

def margin : Nat := 2

/-- One entry of a list: a term, padded, and its description in a column behind it. -/
def item (termWidth : Nat) (entry : String × String) : String :=
  let column := margin + termWidth + 2
  Text.repeated " " margin ++ entry.1 ++ Text.repeated " " (termWidth + 2 - entry.1.length) ++
    wrap entry.2 lineWidth column

/-- A list under a heading; an empty one is left out. -/
def list (heading : String) (termWidth : Nat) (entries : List (String × String)) : String :=
  if entries.isEmpty then ""
  else "\n" ++ heading ++ "\n" ++ Text.join "\n" (entries.map (item termWidth)) ++ "\n"

/-- The description of an option, with its default. -/
def optionText (o : OptionSpec) : String :=
  match o.standard with
  | some s => o.description ++ " (default: \"" ++ s ++ "\")"
  | none => o.description

def helpOption : String × String := ("-h, --help", "display help for command")

/-- The help text of a command; `subcommands` are listed as they are. -/
def render (usage : String) (c : CommandSpec) (subcommands : List (String × String)) : String :=
  let arguments := c.arguments.map fun a => (a.name, a.description)
  let options := (c.options.map fun o => (o.flags, optionText o)) ++ [helpOption]
  let termWidth := ((arguments ++ options ++ subcommands).map fun e => e.1.length).foldl max 0
  "Usage: " ++ usage ++ "\n\n" ++ wrap c.description lineWidth 0 ++ "\n" ++
    list "Arguments:" termWidth arguments ++ list "Options:" termWidth options ++ list "Commands:" termWidth subcommands

end DataplaneVerdict.Help
