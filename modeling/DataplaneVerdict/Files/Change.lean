import DataplaneVerdict.Files.System

/-!
# `Files.Change` — what differs between two file systems

The changes that lead from one file system to another: removals first, then new directories and files, an outer
directory before what it holds.

## Contents
- `FileChange`, and `FileSystem.changes`.
-/

namespace DataplaneVerdict

inductive FileChange where
  | remove (l : Location)
  | makeDirectory (l : Location)
  | write (l : Location) (content : Bytes)
deriving DecidableEq

namespace FileSystem

/-- Whether a location is gone, or has become something else than a directory with contents. -/
def isGone (before after : FileSystem) (l : Location) : Bool :=
  match before.entry? l, after.entry? l with
  | some _, none => true
  | some .directory, some e => !e.isDirectory
  | some e, some .directory => !e.isDirectory
  | _, _ => false

/-- The locations to remove: those that are gone while the directory around them is not. -/
def removals (before after : FileSystem) : List FileChange :=
  (before.entries.filter fun e => isGone before after e.1 && !isGone before after e.1.dropLast).map fun e => .remove e.1

def additions (before after : FileSystem) : List FileChange :=
  let new := after.entries.filterMap fun (l, e) =>
    if before.entry? l = some e then none
    else
      match e with
      | .directory => some (l.length, FileChange.makeDirectory l)
      | .file content => some (l.length, FileChange.write l content)
      | _ => none
  (new.mergeSort fun a b => decide (a.1 ≤ b.1)).map (·.2)

/-- The changes that lead from one file system to another. -/
def changes (before after : FileSystem) : List FileChange := removals before after ++ additions before after

end FileSystem

end DataplaneVerdict
