import DataplaneVerdict.Text.Search

/-!
# `Files.Path` — slash-separated paths as text

A path text is cut at its slashes. Empty segments and `.` say nothing, `..` cancels the segment before it; what is
left is the normal form. A `Location` is the normal form of an absolute path: the names from the root downwards.

## Contents
- **Normal form.** `Path.normalSegments`, `Path.normalize`, `Path.join`.
- **Locations.** `Location`, its text, `Path.resolve` against a working directory and `Path.relative` back.
- **Parts.** `Path.dirname`, `Path.basename`, and `Path.stem`, the last segment without its extension.
-/

namespace DataplaneVerdict

/-- The names on the way from the root directory to a place in the tree; the root itself is the empty list. -/
abbrev Location := List String

def Location.text (l : Location) : String := "/" ++ Text.join "/" l

namespace Path

def isAbsolute (p : String) : Bool := p.toList.head? = some '/'

def segments (p : String) : List String := Text.splitOn p '/'

/-- One segment on top of those before it, latest first. `above` says whether `..` may lead out at the top. -/
def pushSegment (above : Bool) (stack : List String) (s : String) : List String :=
  if s = "" ∨ s = "." then stack
  else if s = ".." then
    match stack with
    | [] => if above then [".."] else []
    | top :: rest => if top = ".." then ".." :: stack else rest
  else s :: stack

/-- The normal form of a list of segments. -/
def normalSegments (above : Bool) (ss : List String) : List String :=
  (ss.foldl (pushSegment above) []).reverse

/-- The normal form of a path. A final slash is kept, and a path that says nothing is `.`. -/
def normalize (p : String) : String :=
  if p.isEmpty then "."
  else
    let absolute := isAbsolute p
    let trailing := p.toList.getLast? = some '/'
    let body := Text.join "/" (normalSegments (!absolute) (segments p))
    if body.isEmpty then
      if absolute then "/" else if trailing then "./" else "."
    else (if absolute then "/" else "") ++ body ++ (if trailing then "/" else "")

/-- The normal form of one path followed by another; empty ones say nothing. -/
def join (a b : String) : String :=
  match a.isEmpty, b.isEmpty with
  | true, true => "."
  | true, false => normalize b
  | false, true => normalize a
  | false, false => normalize (a ++ "/" ++ b)

/-- The location that a path denotes by its text alone, relative to a working directory. -/
def resolve (cwd : Location) (p : String) : Location :=
  normalSegments false (if isAbsolute p then segments p else cwd ++ segments p)

/-- The way from a location to another: up to the last directory that they share, then down. -/
def wayTo : Location → Location → List String
  | a :: as, b :: bs => if a = b then wayTo as bs else (a :: as).map (fun _ => "..") ++ b :: bs
  | as, bs => as.map (fun _ => "..") ++ bs

/-- A path as seen from the working directory. -/
def relative (cwd : Location) (p : String) : String := Text.join "/" (wayTo cwd (resolve cwd p))

/-- Everything before the last segment. -/
def dirname (p : String) : String :=
  let cs := p.toList
  let absolute := isAbsolute p
  let rest := (cs.reverse.dropWhile (· == '/')).dropWhile (· != '/')
  match rest with
  | [] => if absolute then "/" else "."
  | [_] => if absolute then "/" else "."
  | [_, _] => if absolute then "//" else String.ofList (rest.drop 1).reverse
  | _ => String.ofList (rest.drop 1).reverse

def basename (p : String) : String :=
  String.ofList ((p.toList.reverse.dropWhile (· == '/')).takeWhile (· != '/')).reverse

/-- The last segment without its extension: what follows the last dot goes, unless the dot comes first or the
segment is `..` below some directory. -/
def stem (p : String) : String :=
  let base := (basename p).toList
  let lone := isAbsolute p && ((p.toList.drop 1).reverse.dropWhile (· == '/')).all (· != '/')
  if base = ['.', '.'] ∧ !lone then ".."
  else
    let beforeDot := (base.reverse.dropWhile (· != '.')).drop 1
    if beforeDot.isEmpty then String.ofList base else String.ofList beforeDot.reverse

end Path

end DataplaneVerdict
