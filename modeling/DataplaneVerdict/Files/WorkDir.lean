import DataplaneVerdict.Failure
import DataplaneVerdict.Files.System

/-!
# `Files.WorkDir` — private work directories

Each run works in a directory of its own below the work root. The directory's name is a series name, a hyphen and a
random id; a name that is already taken is refused, never shared. When the run ends the directory is removed with its
contents. Directories that a killed run left behind are removed later by their age.

## Contents
- **One directory.** `WorkDir.create`, `WorkDir.remove`, and `WorkDir.scope`, which removes what it made.
- **All directories.** `WorkDir.list`, `WorkDir.cleanup`.
-/

namespace DataplaneVerdict

/-- States that contain a file system. -/
class HasFiles (σ : Type) where
  files : σ → FileSystem
  setFiles : σ → FileSystem → σ

instance : HasFiles FileSystem := ⟨id, fun _ fs => fs⟩

namespace WorkDir

/-- The series of every run's work directory. -/
def series : String := "p4verdict"

/-- Makes the root where it is missing and a new directory in it; gives the path of the new one. -/
def create (fs : FileSystem) (root name id : String) : Except Failure String × FileSystem :=
  match fs.mkdirRecursive root with
  | (.error e, fs) => (.error (.file e), fs)
  | (.ok (), fs) =>
    let path := Path.join root (name ++ "-" ++ id)
    match fs.mkdir path with
    | .error e => (.error (.file e), fs)
    | .ok fs => (.ok path, fs)

/-- Whether a path lies strictly below a root, both as texts of resolved paths. -/
def isBelow (root path : Location) : Bool := Text.startsWith path.text (root.text ++ "/")

/-- Removes a directory with its contents. Anything that is not strictly below the root is refused; a failure of the
removal itself is swallowed. -/
def remove (fs : FileSystem) (root path : String) : Except Failure FileSystem :=
  let target := Path.resolve fs.cwd path
  if isBelow (Path.resolve fs.cwd root) target then
    match fs.removeAll target.text with
    | .ok fs => .ok fs
    | .error _ => .ok fs
  else .error (.refusedRemoval path)

/-- Runs a body with a new work directory and removes it afterwards, whether the body succeeded or failed. A refused
removal is the outcome of the whole. -/
def scope {σ α : Type} [HasFiles σ] (root name id : String) (body : String → σ → Except Failure α × σ) (s : σ) :
    Except Failure α × σ :=
  match create (HasFiles.files s) root name id with
  | (.error f, fs) => (.error f, HasFiles.setFiles s fs)
  | (.ok path, fs) =>
    let (result, s) := body path (HasFiles.setFiles s fs)
    match remove (HasFiles.files s) root path with
    | .error f => (.error f, s)
    | .ok fs => (result, HasFiles.setFiles s fs)

/-- Whether an entry of the root is a work directory of the series; links do not count. -/
def isMember (name : String) (child : String × Entry) : Bool :=
  child.2.isDirectory && Text.startsWith child.1 (name ++ "-")

/-- The work directories of a series below a root; a missing root has none. -/
def list (fs : FileSystem) (root name : String) : Except Failure (List String) :=
  match fs.readDirectory root with
  | .ok children => .ok ((children.filter (isMember name)).map fun c => Path.join root c.1)
  | .error e => if e.problem = .missing then .ok [] else .error (.file e)

def changedAt (fs : FileSystem) (path : String) : Except FileProblem Number :=
  match fs.find path with
  | .error e => .error e
  | .ok (l, _) => if fs.faults.stat l then .error .inputOutput else .ok (fs.stamp l)

/-- Removes one directory if it is older than the age allowed. -/
def cleanupOne (root : String) (maxAgeMs now : Number) (state : Nat × FileSystem) (path : String) :
    Nat × FileSystem :=
  match changedAt state.2 path with
  | .error _ => state
  | .ok t =>
    if Number.lt maxAgeMs (Number.sub now t) then
      match remove state.2 root path with
      | .error _ => state
      | .ok fs => (state.1 + 1, fs)
    else state

/-- Removes the work directories that are older than the age allowed and counts them. A directory whose age cannot be
read is passed over. -/
def cleanup (fs : FileSystem) (root : String) (maxAgeMs now : Number) : Except Failure (Nat × FileSystem) :=
  match list fs root series with
  | .error f => .error f
  | .ok paths => .ok (paths.foldl (cleanupOne root maxAgeMs now) (0, fs))

end WorkDir

end DataplaneVerdict
