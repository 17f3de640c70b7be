import DataplaneVerdict.Files.System

/-!
# `Files.Placement` — setting up files

A placement says what is to be put at a path. Directories on the way are made; times of last change are set once
everything stands, so that making an entry does not disturb the time of the directory around it.

## Contents
- `Placement`, `FileSystem.place`, and `FileSystem.placeAll`.
-/

namespace DataplaneVerdict

structure Placement where
  path : String
  entry : Entry
  changedAt : Option Number := none
  /-- permissions other than the usual ones -/
  mode : Option Nat := none

namespace FileSystem

/-- Makes a directory and those above it; what was made before an obstacle stays. -/
def ensureDirectory (fs : FileSystem) (p : String) : FileSystem := (fs.mkdirRecursive p).2

/-- Puts one entry at a path. A link replaces what stands there; anything else goes where a link there leads. -/
def placeEntry (fs : FileSystem) (path : String) : Entry → FileSystem
  | .directory => fs.ensureDirectory path
  | e =>
    let fs := fs.ensureDirectory (Path.dirname path)
    let reach : Reach := match e with
      | .link _ => .entry
      | _ => .target
    match fs.locate reach path with
    | .ok (.free d name) => fs.put (d ++ [name]) e
    | .ok (.at l _) => fs.put l e
    | .error _ => fs

def permit (fs : FileSystem) (path : String) (mode : Nat) : FileSystem :=
  match fs.find path with
  | .ok (l, _) => fs.setMode l mode
  | .error _ => fs

/-- Puts one entry below a base directory, with its permissions. -/
def place (fs : FileSystem) (base : String) (p : Placement) : FileSystem :=
  let path := Path.join base p.path
  let fs := fs.placeEntry path p.entry
  match p.mode with
  | some mode => fs.permit path mode
  | none => fs

/-- Sets the time of last change that a placement asks for. -/
def stampPlacement (base : String) (fs : FileSystem) (p : Placement) : FileSystem :=
  match p.changedAt with
  | none => fs
  | some t =>
    match fs.find (Path.join base p.path) with
    | .ok (l, _) => fs.setStamp l t
    | .error _ => fs

/-- Puts entries below a base directory, then sets their times, the last one first. -/
def placeAll (fs : FileSystem) (base : String) (ps : List Placement) : FileSystem :=
  let fs := ps.foldl (fun fs p => fs.place base p) fs
  ps.reverse.foldl (stampPlacement base) fs

end FileSystem

end DataplaneVerdict
