import DataplaneVerdict.Schema.Check

/-!
# `Toolchain.Basic` — the external tools of a run

A toolchain names the command and the extra arguments of each of the four tools. Every field has a default, so the
empty object is a toolchain.

## Contents
- **Types.** `Tool`, `Translator`, `Engine`, `Toolchain`.
- **Schema.** `Toolchain.check` accepts objects with only the known sections and fields.
- **Values.** `Toolchain.toValue`, the toolchain as data.
-/

namespace DataplaneVerdict

/-- A command with arguments that precede those of the run. -/
structure Tool where
  command : String
  extraArgs : List String
deriving DecidableEq

/-- The translator runs a script, by default the configured one. -/
structure Translator where
  command : String
  script : Option String
  extraArgs : List String
deriving DecidableEq

/-- The symbolic engine explores paths by a search strategy. -/
structure Engine where
  command : String
  searchStrategy : String
  extraArgs : List String
deriving DecidableEq

/-- The four tools of a run. -/
structure Toolchain where
  frontend : Tool
  translate : Translator
  native : Tool
  engine : Engine
deriving DecidableEq

namespace Toolchain

open Check

/-- A section with a command and extra arguments. -/
def toolFields (command : String) (fields : Fields) : Checked Tool :=
  (Checked.both (field "command" (orDefault command nonEmptyText) fields)
    (field "extraArgs" (orDefault [] (texts 0)) fields)).map fun (c, xs) => ⟨c, xs⟩

def tool (command : String) : Check Tool := strict ["command", "extraArgs"] (toolFields command)

def translatorFields (fields : Fields) : Checked Translator :=
  (Checked.both (field "command" (orDefault "python" nonEmptyText) fields)
    (Checked.both (field "script" (optional nonEmptyText) fields)
      (field "extraArgs" (orDefault [] (texts 0)) fields))).map fun (c, s, xs) => ⟨c, s, xs⟩

/-- The translator's section. -/
def translator : Check Translator := strict ["command", "script", "extraArgs"] translatorFields

def engineFields (fields : Fields) : Checked Engine :=
  (Checked.both (field "command" (orDefault "klee" nonEmptyText) fields)
    (Checked.both (field "searchStrategy" (orDefault "dfs" nonEmptyText) fields)
      (field "extraArgs" (orDefault ["--optimize"] (texts 0)) fields))).map fun (c, s, xs) => ⟨c, s, xs⟩

/-- The engine's section. -/
def engineSection : Check Engine := strict ["command", "searchStrategy", "extraArgs"] engineFields

/-- The toolchain when nothing is said about it. -/
def standard : Toolchain where
  frontend := ⟨"p4c-bm2-ss", []⟩
  translate := ⟨"python", none, []⟩
  native := ⟨"clang", []⟩
  engine := ⟨"klee", "dfs", ["--optimize"]⟩

def sections (fields : Fields) : Checked Toolchain :=
  (Checked.both (field "frontend" (orDefault standard.frontend (tool "p4c-bm2-ss")) fields)
    (Checked.both (field "translate" (orDefault standard.translate translator) fields)
      (Checked.both (field "native" (orDefault standard.native (tool "clang")) fields)
        (field "engine" (orDefault standard.engine engineSection) fields)))).map
    fun (f, t, n, e) => ⟨f, t, n, e⟩

/-- The toolchain that a value describes. -/
def check : Check Toolchain := strict ["frontend", "translate", "native", "engine"] sections

/-! ## Toolchains as data -/

def textsValue (xs : List String) : Value := .list (xs.map .str)

def toolValue (t : Tool) : Value := .object [("command", .str t.command), ("extraArgs", textsValue t.extraArgs)]

/-- A toolchain as data; a script that is not set is left out. -/
def toValue (t : Toolchain) : Value :=
  .object [
    ("frontend", toolValue t.frontend),
    ("translate", .object ([("command", .str t.translate.command)] ++
      (match t.translate.script with
        | some s => [("script", .str s)]
        | none => []) ++ [("extraArgs", textsValue t.translate.extraArgs)])),
    ("native", toolValue t.native),
    ("engine", .object [("command", .str t.engine.command), ("searchStrategy", .str t.engine.searchStrategy),
      ("extraArgs", textsValue t.engine.extraArgs)])]

end Toolchain

end DataplaneVerdict
