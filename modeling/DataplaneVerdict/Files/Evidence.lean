import DataplaneVerdict.Failure
import DataplaneVerdict.Files.System

/-!
# `Files.Evidence` — the engine's evidence files

For each violated assertion the engine leaves a file in its output directory. A scan reads the texts of all of them in
the order of their paths. Reading is best-effort: a file that cannot be read is passed over.

## Contents
- **Names.** `Evidence.isName`.
- **Scan.** `Evidence.found` lists the files, `Evidence.scan` reads them.
-/

namespace DataplaneVerdict

/-- The files of a scan and, aligned with them, their texts. -/
structure Evidence where
  files : List String
  texts : List String
deriving DecidableEq

namespace Evidence

/-- The end of every evidence file's name. -/
def suffix : String := ".assert.err"

def endsLine (c : Char) : Bool := c = '\n' || c = '\r' || c = '\u2028' || c = '\u2029'

/-- Whether a name is that of an evidence file. It must not start with a line end. -/
def isName (name : String) : Bool :=
  Text.endsWith name suffix &&
    (match name.toList with
      | [] => false
      | c :: _ => !endsLine c)

/-- A path with forward slashes only. -/
def withSlashes (p : String) : String := String.ofList (p.toList.map fun c => if c = '\\' then '/' else c)

/-- The evidence files in a directory as absolute paths, links to regular files included. -/
def found (fs : FileSystem) (directory : Location) (children : List (String × Entry)) : List String :=
  (children.filter fun c => isName c.1 && fs.isFile (Location.text (directory ++ [c.1]))).map fun c =>
    withSlashes (Location.text (directory ++ [c.1]))

/-- Reads the files one by one and keeps those that can be read. -/
def readAll (fs : FileSystem) (paths : List String) : Evidence :=
  let pairs := paths.filterMap fun p =>
    match fs.readText p with
    | .ok t => some (p, t)
    | .error _ => none
  ⟨pairs.map (·.1), pairs.map (·.2)⟩

/-- Scans the engine's output directory; one that is missing or no directory has no evidence. -/
def scan (fs : FileSystem) (outputDir : String) : Except Failure Evidence :=
  if fs.isDirectory outputDir then
    let directory := Path.resolve fs.cwd outputDir
    match fs.readDirectory directory.text with
    | .ok children => .ok (readAll fs (Text.sortByUnits (found fs directory children)))
    | .error e => if e.problem = .missing then .ok ⟨[], []⟩ else .error (.file e)
  else .ok ⟨[], []⟩

end Evidence

end DataplaneVerdict
