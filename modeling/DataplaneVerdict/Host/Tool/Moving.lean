import DataplaneVerdict.Host.Tool.Making

/-!
# `Host.Tool.Moving` — tools that copy, move and remove files
-/

namespace DataplaneVerdict.Host.Tool

namespace Moving

def isDir (st : Disk.Stat) : Bool :=
  match st.inode.node with
  | .directory _ _ => true
  | _ => false

def isLink (st : Disk.Stat) : Bool :=
  match st.inode.node with
  | .link _ => true
  | _ => false

def blockSize : Nat := 131072

/-- Copies from one descriptor to another. -/
def pour (input output : Nat) (source target : Octets) : Nat → Tool Unit
  | 0 => pure ()
  | fuel + 1 => do
    match ← ask (.read input blockSize) with
    | .error .interrupted => pour input output source target fuel
    | .error e => complain 1 ("error reading " ++ Quoted.always source ++ ": " ++ e.notice)
    | .ok "" => pure ()
    | .ok text => do
      match ← act (Act.writeAll output (text.length + 1) text) with
      | .ok _ => pour input output source target fuel
      | .error e => complain 1 ("error writing " ++ Quoted.always target ++ ": " ++ e.notice)

/-- Opens the file to be written, a new one with the permissions of the source. -/
def openTarget (st : Disk.Stat) (isNew : Bool) (target : Octets) : Tool (Option Nat) := do
  let mode := st.inode.mode &&& 0o777
  let refuse (e : FileProblem) : Tool (Option Nat) := do
    complain 1 ("cannot create regular file " ++ Quoted.always target ++ ": " ++ e.notice)
    pure none
  if isNew then
    match ← ask (.open target { write := true, create := true, exclusive := true } mode) with
    | .ok fd => pure (some fd)
    | .error .alreadyThere => do
      complain 1 ("not writing through dangling symlink " ++ Quoted.always target)
      pure none
    | .error .isDirectory => refuse .notDirectory
    | .error e => refuse e
  else
    match ← ask (.open target { write := true, truncate := true } mode) with
    | .ok fd => pure (some fd)
    | .error e => refuse e

def copyContents (st : Disk.Stat) (isNew : Bool) (source target : Octets) : Tool Unit := do
  match ← ask (.open source .forReading 0) with
  | .error e => complain 1 ("cannot open " ++ Quoted.always source ++ " for reading: " ++ e.notice)
  | .ok input => do
    match ← openTarget st isNew target with
    | none => pure ()
    | some output => do
      pour input output source target Act.fuel
      act (Act.close output)
    act (Act.close input)

/-- Whether both paths lead to one file, so that nothing can be copied or moved. -/
def isSame (moves : Bool) (source target : Octets) : Tool Bool := do
  let se ← stat source .entry
  let te ← stat target .entry
  let sf ← stat source .target
  let tf ← stat target .target
  match se, te with
  | .ok se, .ok te =>
    let sameTarget := match sf, tf with
      | .ok sf, .ok tf => sf.ino = tf.ino
      | _, _ => false
    if !moves then pure sameTarget
    else if isLink se && isLink te then pure (se.ino = te.ino)
    else if isLink te then pure false
    else if !isLink se then pure (se.ino = te.ino)
    else pure sameTarget
  | _, _ => pure false

/-- Copies or moves one file. -/
def transfer (moves : Bool) (source target : Octets) : Tool Unit := do
  let reach : FileSystem.Reach := if moves then .entry else .target
  match ← stat source reach with
  | .error e => complain 1 ("cannot stat " ++ Quoted.always source ++ ": " ++ e.notice)
  | .ok st => do
    if isDir st && !moves then do
      complain 1 ("-r not specified; omitting directory " ++ Quoted.always source)
      return
    let old ← stat target reach
    match old with
    | .error .tooManyLinks => do
      complain 1 ("cannot stat " ++ Quoted.always target ++ ": " ++ FileProblem.tooManyLinks.notice)
      return
    | .error _ => pure ()
    | .ok tt => do
      if ← isSame moves source target then
        complain 1 (Quoted.always source ++ " and " ++ Quoted.always target ++ " are the same file")
        return
      if isDir tt && !isDir st then do
        complain 1 ("cannot overwrite directory " ++ Quoted.always target ++ " with non-directory")
        return
      if !isDir tt && isDir st then do
        complain 1 ("cannot overwrite non-directory " ++ Quoted.always target ++
          " with directory " ++ Quoted.always source)
        return
    if moves then
      match ← act (Act.change fun d v => d.rename v source target) with
      | .ok _ => pure ()
      | .error .invalid =>
        complain 1 ("cannot move " ++ Quoted.always source ++ " to a subdirectory of itself, " ++
          Quoted.always target)
      | .error .notEmpty =>
        complain 1 ("cannot overwrite " ++ Quoted.always target ++ ": " ++ FileProblem.notEmpty.notice)
      | .error e =>
        complain 1 ("cannot move " ++ Quoted.always source ++ " to " ++ Quoted.always target ++ ": " ++ e.notice)
    else copyContents st (!old.isOk) source target

/-- The path of a source in a directory. -/
def placeIn (directory source : Octets) : Octets :=
  let base := baseName source
  if base = ".." then directory else joinPath directory base

/-- Where the operands go: the last one is the target. -/
def direct (moves : Bool) (operands : List Octets) : Tool Unit := do
  let into (directory : Octets) (sources : List Octets) : Tool Unit := do
    for s in sources do
      transfer moves s (placeIn directory s)
  match operands with
  | [] => misuse 1 "missing file operand"
  | [s] => misuse 1 ("missing destination file operand after " ++ Quoted.always s)
  | [s, d] => do
    if ← isDirectory d then into d [s] else transfer moves s d
  | operands => do
    let d := operands.getLast?.getD ""
    match ← stat d .target with
    | .error e => fail 1 ("target " ++ Quoted.always d ++ ": " ++ e.notice)
    | .ok st =>
      if isDir st then into d operands.dropLast
      else fail 1 ("target " ++ Quoted.always d ++ ": " ++ FileProblem.notDirectory.notice)

/-- `cp`: copies files. -/
def cp (_ : Runner) (words : List Octets) : Tool Unit := do
  let a ← arguments 1 [.plain 'f' "force"] words
  direct false a.operands

/-- `mv`: renames files and directories. -/
def mv (_ : Runner) (words : List Octets) : Tool Unit := do
  let a ← arguments 1 [.plain 'f' "force"] words
  direct true a.operands

/-! ## Removing -/

structure Removal where
  recursive : Bool
  force : Bool

/-- Removes a file, or a directory with all in it; whether it is gone. -/
def remove (r : Removal) : Nat → Octets → Tool Bool
  | 0, _ => pure false
  | fuel + 1, path => do
    let refuse (e : FileProblem) : Tool Bool := do
      complain 1 ("cannot remove " ++ Quoted.always path ++ ": " ++ e.notice)
      pure false
    match ← stat path .entry with
    | .error e => if r.force && (e = .missing || e = .notDirectory) then pure true else refuse e
    | .ok st => do
      if isDir st then
        let names ← act (Act.look fun d _ => (d.names st.ino).map (·.1))
        if !r.recursive then refuse .isDirectory
        else do
          let mut gone := true
          for n in names do
            if !(← remove r fuel (joinPath path n)) then gone := false
          if !gone then pure false
          else
            match ← act (Act.change fun d v => d.rmdir v path) with
            | .ok _ => pure true
            | .error e => refuse e
      else
        match ← act (Act.change fun d v => d.unlink v path) with
        | .ok _ => pure true
        | .error e => refuse e

/-- `rm`: removes files. -/
def rm (_ : Runner) (words : List Octets) : Tool Unit := do
  let a ← arguments 1 [.plain 'f' "force", .plain 'r' "recursive", .onlyLetter 'R'] words
  let r : Removal := ⟨a.has "recursive" || a.has "R", a.has "force"⟩
  if a.operands.isEmpty && !r.force then misuse 1 "missing operand"
  for path in a.operands do
    let base := baseName path
    let isRoot ← act (Act.look fun d v =>
      match d.find v .entry path with
      | .ok i => i == Disk.root
      | .error _ => false)
    if r.recursive && (base = "." || base = "..") then
      complain 1 ("refusing to remove '.' or '..' directory: skipping " ++ Quoted.always path)
    else if r.recursive && isRoot then do
      complain 1 ("it is dangerous to operate recursively on " ++
        (if path = "/" then "'/'" else Quoted.always path ++ " (same as '/')"))
      warn "use --no-preserve-root to override this failsafe"
    else do
      let _ ← remove r Making.mostDeep path

end Moving

end DataplaneVerdict.Host.Tool
