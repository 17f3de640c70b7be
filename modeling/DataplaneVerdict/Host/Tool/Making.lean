import DataplaneVerdict.Host.Tool.Amount

/-!
# `Host.Tool.Making` — tools that make directories and files
-/

namespace DataplaneVerdict.Host.Tool

def needOperand (a : Arguments) (what : Octets) : Tool Unit := do
  if a.operands.isEmpty then misuse 1 what

/-- The last name of a path. -/
def baseName (path : Octets) : Octets :=
  let cs := path.toList.reverse
  let trimmed := cs.dropWhile (· == '/')
  if trimmed.isEmpty then (if cs.isEmpty then "" else "/") else String.ofList (trimmed.takeWhile (· != '/')).reverse

/-- A path without its last name. -/
def directoryName (path : Octets) : Octets :=
  let cs := path.toList.reverse.dropWhile (· == '/')
  let front := (cs.dropWhile (· != '/')).dropWhile (· == '/')
  if !front.isEmpty then String.ofList front.reverse else if path.toList.head? = some '/' then "/" else "."

def joinPath (directory name : Octets) : Octets :=
  if directory.toList.getLast? = some '/' then directory ++ name else directory ++ "/" ++ name

def isDirectory (path : Octets) : Tool Bool := do
  match ← act (Act.look fun d v => (d.find v .target path).map d.isDirectory) with
  | .ok b => pure b
  | .error _ => pure false

def stat (path : Octets) (reach : FileSystem.Reach) : Tool (Answer Disk.Stat) := act (Act.stat path reach)

namespace Making

/-- No directory is deeper. -/
def mostDeep : Nat := 1000

/-! ## Directories -/

/-- A path and those above it, the outermost first. -/
def pathsTo (path : Octets) : List Octets :=
  let parts := (path.splitOn "/")
  let root := if path.toList.head? = some '/' then "/" else ""
  let names := parts.filter fun p => !p.isEmpty
  ((List.range names.length).map fun n => root ++ "/".intercalate (names.take (n + 1)))

/-- Makes a directory; `onWay` says that it may be there already. -/
def makeDirectory (verbose onWay : Bool) (path : Octets) : Tool Bool := do
  match ← act (Act.change fun d v => d.mkdir v path 0o777) with
  | .ok _ => do
    if verbose then print ((← name) ++ ": created directory " ++ Quoted.always path ++ "\n")
    pure true
  | .error e => do
    if onWay && e = .alreadyThere then
      if ← isDirectory path then pure true
      else do
        complain 1 ("cannot create directory " ++ Quoted.always path ++ ": " ++ FileProblem.notDirectory.notice)
        pure false
    else do
      complain 1 ("cannot create directory " ++ Quoted.always path ++ ": " ++ e.notice)
      pure false

def makeAll (verbose : Bool) : List Octets → Tool Unit
  | [] => pure ()
  | [path] => do
    match ← stat path .target with
    | .ok st =>
      match st.inode.node with
      | .directory _ _ => pure ()
      | _ => complain 1 ("cannot create directory " ++ Quoted.always path ++ ": " ++ FileProblem.alreadyThere.notice)
    | .error _ => do
      let _ ← makeDirectory verbose true path
  | path :: rest => do
    if ← makeDirectory verbose true path then makeAll verbose rest

/-- `mkdir`: makes directories. -/
def mkdir (_ : Runner) (words : List Octets) : Tool Unit := do
  let a ← arguments 1 [.plain 'p' "parents", .plain 'v' "verbose"] words
  needOperand a "missing operand"
  for path in a.operands do
    if a.has "parents" && !path.isEmpty then makeAll (a.has "verbose") (pathsTo path)
    else do
      let _ ← makeDirectory (a.has "verbose") false path

/-! ## Files -/

/-- Sets the times of a file to the present. -/
def touchOne (creates : Bool) (path : Octets) : Tool Unit := do
  let path := if path = "-" then "/dev/stdout" else path
  let setting : Tool Unit := do
    match ← act (Act.change fun d v => (d.find v .target path).map fun i => d.touch i v.now) with
    | .ok _ => pure ()
    | .error e =>
      if e = .missing && !creates then pure ()
      else complain 1 ("setting times of " ++ Quoted.always path ++ ": " ++ e.notice)
  if !creates then setting
  else
    match ← ask (.open path { write := true, create := true } 0o666) with
    | .ok fd => do
      act (Act.close fd)
      setting
    | .error e =>
      if e = .isDirectory || e = .noDevice then setting
      else complain 1 ("cannot touch " ++ Quoted.always path ++ ": " ++ e.notice)

/-- `touch`: makes files, or makes them look new. -/
def touch (_ : Runner) (words : List Octets) : Tool Unit := do
  let a ← arguments 1 [.plain 'c' "no-create"] words
  needOperand a "missing file operand"
  for path in a.operands do
    touchOne (!a.has "no-create") path

end Making

end DataplaneVerdict.Host.Tool
