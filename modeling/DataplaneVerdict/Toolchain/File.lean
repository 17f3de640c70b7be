import DataplaneVerdict.Failure
import DataplaneVerdict.Files.System
import DataplaneVerdict.Toolchain.Basic
import DataplaneVerdict.Yaml.Document

/-!
# `Toolchain.File` — toolchain files

A toolchain file is a YAML document that overrides some fields of the standard toolchain. An empty document, like no
file at all, is the standard toolchain.

## Contents
- `Toolchain.parse` reads a text, `Toolchain.load` the file at a path.
-/

namespace DataplaneVerdict.Toolchain

/-- The toolchain of a document's data; an empty document says nothing. -/
def ofDocument (v : Value) : Checked Toolchain :=
  match v with
  | .null => check (.object [])
  | .undefined => check (.object [])
  | v => check v

/-- The toolchain of a text. The path only serves messages. -/
def parse (content path : String) : Except Failure Toolchain :=
  match Yaml.parse content with
  | .error reason => .error (.toolchainSyntax path reason)
  | .ok v =>
    match ofDocument v with
    | .ok t => .ok t
    | .error issues => .error (.toolchainInvalid path issues)

/-- The toolchain of the file at a path, or the standard one without a path. -/
def load (fs : FileSystem) (path : Option String) : Except Failure Toolchain :=
  match path with
  | none => .ok standard
  | some p =>
    if p.isEmpty then .ok standard
    else
      match fs.readText p with
      | .ok content => parse content p
      | .error e => if e.problem = .missing then .error (.toolchainMissing p) else .error (.file e)

end DataplaneVerdict.Toolchain
