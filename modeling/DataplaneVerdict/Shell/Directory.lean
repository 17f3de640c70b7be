import DataplaneVerdict.Shell.Builtin

/-!
# `Shell.Directory` — the working directory

A shell remembers its directory by the names it came through, so that leaving a linked directory leads back to where the
link is.
-/

namespace DataplaneVerdict.Shell

open Host

namespace Directory

def components (path : List Char) : List (List Char) :=
  let rec go : List Char → List Char → List (List Char)
    | [], current => [current.reverse]
    | '/' :: cs, current => current.reverse :: go cs []
    | c :: cs, current => go cs (c :: current)
  (go path []).filter fun c => !c.isEmpty

def step (names : List (List Char)) (name : List Char) : List (List Char) :=
  if name = ['.'] then names else if name = ['.', '.'] then names.drop 1 else name :: names

/-- A path seen from a directory, without dots; links are not looked at. -/
def joined (directory path : String) : Option String :=
  let isAbsolute := path.toList.head? = some '/'
  if !isAbsolute && directory.isEmpty then none
  else
    let whole := if isAbsolute then path.toList else directory.toList ++ '/' :: path.toList
    let root : List Char := match whole with
      | '/' :: '/' :: '/' :: _ => ['/']
      | '/' :: '/' :: _ => ['/', '/']
      | _ => ['/']
    let names := (components whole).foldl step []
    some (String.ofList (root ++ List.intercalate ['/'] names.reverse))

def physical : Sh String := do
  match ← Sh.act (Act.look fun d v => d.pathOf v.cwd) with
  | some path => pure path
  | none => do
    Sh.warn "getcwd() failed: No such file or directory"
    pure ""

/-- Sets a variable and exports it. -/
def share (name value : String) : Sh Unit := do
  Sh.assign name value
  modify fun s => s.modifyVariable name fun v => { v with isExported := true }

/-- Remembers the directory, and the one before. -/
def note (path : Option String) : Sh Unit := do
  let path ← match path with
    | some p => pure p
    | none => physical
  modify fun s => { s with directory := path }
  share "PWD" path

/-- Goes to a directory, if that works. -/
def enter (isPhysical : Bool) (path : String) : Sh Bool := do
  let s ← get
  let logical := if isPhysical then none else joined s.directory path
  match ← Sh.act (Act.chdir (logical.getD path)) with
  | .error _ => pure false
  | .ok _ => do
    share "OLDPWD" s.directory
    note logical
    modify fun s => { s with found := s.found.filter fun f => f.2.toList.head? = some '/' }
    pure true

def isPhysical (options : List (Char × String)) : Bool := (options.getLast?.map fun o => decide (o.1 = 'P')).getD false

/-- Whether a path is not to be searched for. -/
def isAnchored (path : List Char) : Bool :=
  match path with
  | '/' :: _ => true
  | ['.'] => true
  | '.' :: '/' :: _ => true
  | ['.', '.'] => true
  | '.' :: '.' :: '/' :: _ => true
  | _ => false

def searchPath (path : String) : List String := path.splitOn ":"

def within (directory name : String) : String := if directory.isEmpty then name else directory ++ "/" ++ name

/-- `cd`: goes to a directory, also one on a search path. -/
def cd (args : List String) : Sh Nat := do
  let (options, args) ← Builtin.options "LP" args
  let isPhysical := isPhysical options
  let s ← get
  let (goal, tells) := match args with
    | [] => (s.value "HOME", false)
    | "-" :: _ => (s.value "OLDPWD", true)
    | a :: _ => (a, false)
  let finish (path : String) (tells : Bool) : Sh Nat := do
    if ← enter isPhysical path then do
      if tells then Sh.print ((← get).directory ++ "\n")
      pure 0
    else Sh.error ("can't cd to " ++ (if goal.isEmpty then "." else goal))
  if isAnchored goal.toList then finish goal tells
  else do
    let goal := if goal.isEmpty then "." else goal
    let rec search : List String → Sh (Option (String × Bool))
      | [] => pure none
      | directory :: rest => do
        let path := within directory goal
        match ← Sh.act (Act.look fun d v => (d.find v .target path).map d.isDirectory) with
        | .ok true => pure (some (path, !directory.isEmpty))
        | _ => search rest
    let places := match s.lookup "CDPATH" with
      | some path => searchPath path
      | none => [""]
    match ← search places with
    | some (path, found) => finish path (tells || found)
    | none => finish goal tells

/-- `pwd`: the directory as it was gone to. -/
def pwd (args : List String) : Sh Nat := do
  let (options, _) ← Builtin.options "LP" args
  let path ← if isPhysical options then physical else pure (← get).directory
  Sh.print (path ++ "\n")
  pure 0

end Directory

end DataplaneVerdict.Shell
