import DataplaneVerdict.Host.Behaviour

/-!
# `Host.Image` — what a host runs for a file

A file is run if someone may execute it. It is one of the programs of the host, or a script that names its interpreter
in its first line.
-/

namespace DataplaneVerdict.Host

/-- A program of the host and the words that it is called with. -/
structure Image where
  program : String
  args : List Octets

namespace Image

/-- So much of a script is looked at. -/
def headSize : Nat := 256

/-- So many scripts may be the interpreters of each other. -/
def mostInterpreters : Nat := 6

def isBlank (c : Char) : Bool := c = ' ' || c = '\t'

/-- The interpreter that the first line of a script names, and its argument. -/
def interpreter? (content : ByteArray) : Option (Octets × List Octets) :=
  let head := (Octets.ofArray (content.extract 0 headSize)).toList
  match head with
  | '#' :: '!' :: rest =>
    let line := rest.takeWhile fun c => c ≠ '\n' && c ≠ '\x00'
    let isWhole := line.length < rest.length || content.size < headSize
    let line := (line.dropWhile isBlank).reverse.dropWhile isBlank |>.reverse
    let name := line.takeWhile fun c => !isBlank c
    let arg := (line.drop name.length).dropWhile isBlank
    if name.isEmpty || (!isWhole && arg.isEmpty) then none
    else some (String.ofList name, if arg.isEmpty then [] else [String.ofList arg])
  | _ => none

/-- The program that is run for a file. -/
def load (d : Disk) (v : View) : Nat → Octets → List Octets → Except FileProblem Image
  | 0, _, _ => .error .tooManyLinks
  | depth + 1, path, args =>
    match d.find v .target path with
    | .error e => .error e
    | .ok i =>
      match d.inode? i with
      | none => .error .missing
      | some n =>
        match n.node with
        | .program name => if n.mode &&& 0o111 = 0 then .error .denied else .ok ⟨name, args⟩
        | .file content =>
          if n.mode &&& 0o111 = 0 then .error .denied
          else
            match interpreter? content with
            | some (interpreter, arg) => load d v depth interpreter (interpreter :: arg ++ path :: args.drop 1)
            | none => .error .notProgram
        | _ => .error .denied

/-- The program for a file that may be a script without a first line for it. -/
def loadScript (d : Disk) (v : View) (path : Octets) (args : List Octets) : Except FileProblem Image :=
  match load d v mostInterpreters path args with
  | .error .notProgram => load d v mostInterpreters "/bin/sh" ("/bin/sh" :: path :: args.drop 1)
  | r => r

/-- The first of several files that can be run. One that may not be run counts only if none can. -/
def loadFirst (load : Octets → Except FileProblem Image) (isDenied : Bool) : List Octets → Except FileProblem Image
  | [] => .error (if isDenied then .denied else .missing)
  | path :: rest =>
    match load path with
    | .ok image => .ok image
    | .error .denied => loadFirst load true rest
    | .error .missing => loadFirst load isDenied rest
    | .error .notDirectory => loadFirst load isDenied rest
    | .error e => .error e

def standardDirectories : String := "/bin:/usr/bin"

/-- The places of a program on the search path. -/
def candidates (searchPath : Option Octets) (name : Octets) : List Octets :=
  ((searchPath.getD standardDirectories).splitOn ":").map fun directory =>
    if directory.isEmpty then name else directory ++ "/" ++ name

def search (d : Disk) (v : View) (searchPath : Option Octets) (name : Octets) (args : List Octets) :
    Except FileProblem Image :=
  if name.isEmpty then .error .missing
  else if name.toList.contains '/' then loadScript d v name args
  else loadFirst (fun path => loadScript d v path args) false (candidates searchPath name)

end Image

/-- Becoming another program. There is an answer only if that fails. -/
abbrev Exec := Octets → List Octets → List (Octets × Octets) → Act FileProblem

/-- What the programs of the host do. -/
abbrev Runner := Image → List (Octets × Octets) → Act Nat

namespace Exec

/-- Becomes a program that has been loaded. -/
def become (run : Runner) (image : Except FileProblem Image) (environment : List (Octets × Octets)) :
    Act FileProblem := do
  match image with
  | .error e => pure e
  | .ok image => do
    Act.ask .renew
    let code ← run image environment
    Act.exit code

def ofRunner (run : Runner) : Exec := fun path args environment => do
  let image ← Act.look fun d v => Image.load d v Image.mostInterpreters path args
  become run image environment

def search (run : Runner) (name : Octets) (args : List Octets) (environment : List (Octets × Octets)) :
    Act FileProblem := do
  let image ← Act.look fun d v => Image.search d v (environment.lookup "PATH") name args
  become run image environment

end Exec

end DataplaneVerdict.Host
