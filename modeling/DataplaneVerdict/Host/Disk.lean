import DataplaneVerdict.Files.System
import DataplaneVerdict.Host.Octets

/-!
# `Host.Disk` — the files of a running host

While processes run, a file may be open after its name is gone, or have several names. So files are known by numbers
here, and directories map names to numbers. Operations take path texts as a process passes them, and a `View` that
says from where the process looks at the disk.
-/

namespace DataplaneVerdict.Host

/-- The number of a file. -/
abbrev Ino := Nat

/-- What a file is. A directory knows the one above it, and an outlet whether it is for errors. -/
inductive Node where
  | file (content : ByteArray)
  | directory (parent : Ino) (names : List (Octets × Ino))
  | link (target : Octets)
  | device (d : Device)
  | pipe
  | inlet
  | outlet (toStderr : Bool)
  | program (name : String)
  | unreadable
deriving Inhabited

/-- A file with its permissions, its times and the count of its names. -/
structure Inode where
  node : Node
  mode : Nat
  modified : Int
  links : Nat := 1
  stamped : Bool := false
deriving Inhabited

/-- All files, by their numbers. -/
structure Disk where
  inodes : Array Inode
deriving Inhabited

/-- From where a process looks at the disk. -/
structure View where
  cwd : Ino
  umask : Nat
  now : Int
  descriptors : Nat → Option Ino

/-- Where a path leads: to a file, or to a free name in a directory. -/
inductive Spot where
  | at (directory : Ino) (name : Octets) (here : Ino)
  | free (directory : Ino) (name : Octets)

namespace Disk

/-- The outermost directory. -/
def root : Ino := 0

def inode? (d : Disk) (i : Ino) : Option Inode := d.inodes[i]?

def node? (d : Disk) (i : Ino) : Option Node := (d.inode? i).map Inode.node

def isDirectory (d : Disk) (i : Ino) : Bool :=
  match d.node? i with
  | some (.directory _ _) => true
  | _ => false

def names (d : Disk) (i : Ino) : List (Octets × Ino) :=
  match d.node? i with
  | some (.directory _ names) => names
  | _ => []

/-! ## Walking -/

/-- Walks names from a directory; `onLink` goes on behind a link. -/
def walkNames (d : Disk) (v : View) (reach : FileSystem.Reach) (slash : Bool)
    (onLink : Ino → FileSystem.Way → Except FileProblem Spot) (dir : Ino) :
    List Octets → Except FileProblem Spot
  | [] => .ok (.at dir "." dir)
  | name :: rest =>
    match d.node? dir with
    | some (.directory parent names) =>
      let onward (spot : Ino → Spot) (here : Ino) : Except FileProblem Spot :=
        if !rest.isEmpty then walkNames d v reach slash onLink here rest
        else if slash && !d.isDirectory here then .error .notDirectory
        else .ok (spot here)
      if name = "." then onward (.at dir name) dir
      else if name = ".." then onward (.at dir name) parent
      else if FileSystem.longestName < name.length then .error .nameTooLong
      else if rest.isEmpty && slash && reach = .creation then .error .isDirectory
      else
        match names.lookup name with
        | none => if rest.isEmpty then .ok (.free dir name) else .error .missing
        | some here =>
          let isEnd := rest.isEmpty && !slash && reach = .entry
          match d.node? here with
          | some (.link target) =>
            if isEnd then .ok (.at dir name here)
            else if target.isEmpty then .error .missing
            else onLink (if Path.isAbsolute target then root else dir) (FileSystem.Way.through target rest slash)
          | some (.device (.descriptor fd)) =>
            if isEnd then .ok (.at dir name here)
            else
              match v.descriptors fd with
              | some i => onward (.at dir name) i
              | none => .error .missing
          | _ => onward (.at dir name) here
    | _ => .error .notDirectory

/-- Walks on, through at most so many links. -/
def walk (d : Disk) (v : View) (reach : FileSystem.Reach) : Nat → Ino → FileSystem.Way → Except FileProblem Spot
  | 0, _, _ => .error .tooManyLinks
  | links + 1, dir, way => walkNames d v reach way.slash (walk d v reach links) dir way.names

/-- Where a path leads. -/
def resolve (d : Disk) (v : View) (reach : FileSystem.Reach) (path : Octets) : Except FileProblem Spot :=
  if path.isEmpty then .error .missing
  else if FileSystem.longestPath < path.length then .error .nameTooLong
  else
    walk d v reach (FileSystem.mostLinks + 1) (if Path.isAbsolute path then root else v.cwd)
      (FileSystem.Way.ofPath path)

/-- The file that a path leads to. -/
def find (d : Disk) (v : View) (reach : FileSystem.Reach) (path : Octets) : Except FileProblem Ino :=
  match d.resolve v reach path with
  | .ok (.at _ _ i) => .ok i
  | .ok (.free _ _) => .error .missing
  | .error e => .error e

/-! ## Changing -/

def modify (d : Disk) (i : Ino) (f : Inode → Inode) : Disk := ⟨d.inodes.modify i f⟩

/-- A file that has just been changed. -/
def touch (d : Disk) (i : Ino) (now : Int) : Disk :=
  d.modify i fun n => { n with modified := now, stamped := false }

/-- A new file without a name. -/
def add (d : Disk) (node : Node) (mode : Nat) (now : Int) : Ino × Disk :=
  (d.inodes.size, ⟨d.inodes.push ⟨node, mode, now, 1, false⟩⟩)

def modifyNames (d : Disk) (dir : Ino) (now : Int) (f : List (Octets × Ino) → List (Octets × Ino)) : Disk :=
  (d.touch dir now).modify dir fun n =>
    match n.node with
    | .directory parent names => { n with node := .directory parent (f names) }
    | _ => n

/-- A new name in a directory. -/
def attach (d : Disk) (dir : Ino) (name : Octets) (i : Ino) (now : Int) : Disk :=
  d.modifyNames dir now fun names => names ++ [(name, i)]

/-- Takes a name away, and with it one of the names of its file. -/
def detach (d : Disk) (dir : Ino) (name : Octets) (now : Int) : Disk :=
  let d := match (d.names dir).lookup name with
    | some i => d.modify i fun n => { n with links := n.links - 1 }
    | none => d
  d.modifyNames dir now fun names => names.filter fun e => e.1 ≠ name

/-- A new file with a name. -/
def create (d : Disk) (v : View) (dir : Ino) (name : Octets) (node : Node) (mode : Nat) : Ino × Disk :=
  let (i, d) := d.add node mode v.now
  let d := match node with
    | .directory _ _ => (d.modify i fun n => { n with links := 2 }).modify dir fun n => { n with links := n.links + 1 }
    | _ => d
  (i, d.attach dir name i v.now)

/-- Permissions without those that the process never gives. -/
def granted (v : View) (mode : Nat) : Nat := mode - (mode &&& v.umask)

/-- Makes something at a free name. -/
def makeAt (d : Disk) (v : View) (path : Octets) (mode : Nat) (node : Ino → Node) : Except FileProblem Disk :=
  match d.resolve v .entry path with
  | .error e => .error e
  | .ok (.at _ _ _) => .error .alreadyThere
  | .ok (.free dir name) => .ok (d.create v dir name (node dir) mode).2

def mkdir (d : Disk) (v : View) (path : Octets) (mode : Nat) : Except FileProblem Disk :=
  if path.isEmpty then .error .missing
  else d.makeAt v (FileSystem.withoutFinalSlashes path) (granted v mode) fun dir => .directory dir []

def unlink (d : Disk) (v : View) (path : Octets) : Except FileProblem Disk :=
  match d.resolve v .entry path with
  | .error e => .error e
  | .ok (.free _ _) => .error .missing
  | .ok (.at dir name i) => if d.isDirectory i then .error .isDirectory else .ok (d.detach dir name v.now)

/-- Removes an empty directory. -/
def rmdir (d : Disk) (v : View) (path : Octets) : Except FileProblem Disk :=
  match d.resolve v .entry path with
  | .error e => .error e
  | .ok (.free _ _) => .error .missing
  | .ok (.at dir name i) =>
    if !d.isDirectory i then .error .notDirectory
    else if name = "." then .error (if i = root then .busy else .invalid)
    else if name = ".." then .error .notEmpty
    else if !(d.names i).isEmpty then .error .notEmpty
    else .ok ((d.detach dir name v.now).modify dir fun n => { n with links := n.links - 1 })

/-- Whether a directory is another one or lies below it. -/
def encloses (d : Disk) (outer : Ino) : Nat → Ino → Bool
  | 0, _ => false
  | fuel + 1, i =>
    if i = outer then true
    else
      match d.node? i with
      | some (.directory parent _) => if parent = i then false else encloses d outer fuel parent
      | _ => false

/-- Moves a file to another name, over a file or an empty directory that has it. -/
def rename (d : Disk) (v : View) (source target : Octets) : Except FileProblem Disk :=
  match d.resolve v .entry source with
  | .error e => .error e
  | .ok (.free _ _) => .error .missing
  | .ok (.at fromDir fromName i) =>
    if fromName = "." || fromName = ".." then .error .busy
    else
      let move (toDir : Ino) (toName : Octets) (d : Disk) : Disk :=
        let d := d.modifyNames fromDir v.now fun names => names.filter fun e => e.1 ≠ fromName
        let d := d.attach toDir toName i v.now
        d.modify i fun n =>
          match n.node with
          | .directory _ names => { n with node := .directory toDir names }
          | _ => n
      let target := if d.isDirectory i then FileSystem.withoutFinalSlashes target else target
      match d.resolve v .entry target with
      | .error e => .error e
      | .ok (.free toDir toName) =>
        if FileSystem.wantsDirectory target then .error .notDirectory
        else if d.isDirectory i && d.encloses i d.inodes.size toDir then .error .invalid
        else .ok (move toDir toName d)
      | .ok (.at toDir toName j) =>
        if toName = "." || toName = ".." then .error .busy
        else if i = j then .ok d
        else if d.isDirectory i then
          if !d.isDirectory j then .error .notDirectory
          else if d.encloses i d.inodes.size toDir then .error .invalid
          else if !(d.names j).isEmpty then .error .notEmpty
          else .ok (move toDir toName (d.detach toDir toName v.now))
        else if d.isDirectory j then .error .isDirectory
        else .ok (move toDir toName (d.detach toDir toName v.now))

/-! ## Contents -/

def content (d : Disk) (i : Ino) : ByteArray :=
  match d.node? i with
  | some (.file bytes) => bytes
  | _ => ByteArray.empty

def zeros (n : Nat) : ByteArray := ByteArray.mk (Array.replicate n 0)

/-- Contents with a part written over; a gap is filled with zero bytes. -/
def overwrite (bytes : ByteArray) (offset : Nat) (data : ByteArray) : ByteArray :=
  if offset = bytes.size then bytes ++ data
  else if bytes.size < offset then bytes ++ zeros (offset - bytes.size) ++ data
  else bytes.extract 0 offset ++ data ++ bytes.extract (offset + data.size) bytes.size

def writeAt (d : Disk) (i : Ino) (offset : Nat) (data : ByteArray) (now : Int) : Disk :=
  (d.touch i now).modify i fun n =>
    match n with
    | ⟨.file bytes, mode, m, l, s⟩ => ⟨.file (overwrite bytes offset data), mode, m, l, s⟩
    | n => n

/-- A file with its contents gone. -/
def truncate (d : Disk) (i : Ino) (now : Int) : Disk :=
  (d.touch i now).modify i fun n =>
    match n.node with
    | .file _ => { n with node := .file ByteArray.empty }
    | _ => n

/-! ## Asking -/

/-- A file with its number and its size. -/
structure Stat where
  ino : Ino
  inode : Inode
  size : Nat
deriving Inhabited

def statOf (d : Disk) (i : Ino) : Except FileProblem Stat :=
  match d.inode? i with
  | none => .error .missing
  | some n =>
    let size := match n.node with
      | .file bytes => bytes.size
      | .directory _ _ => 4096
      | .link target => target.length
      | .program _ => 35664
      | _ => 0
    .ok ⟨i, n, size⟩

def stat (d : Disk) (v : View) (reach : FileSystem.Reach) (path : Octets) : Except FileProblem Stat :=
  match d.find v reach path with
  | .error e => .error e
  | .ok i => d.statOf i

def readlink (d : Disk) (v : View) (path : Octets) : Except FileProblem Octets :=
  match d.find v .entry path with
  | .error e => .error e
  | .ok i =>
    match d.node? i with
    | some (.link target) => .ok target
    | some (.device (.descriptor fd)) => .ok ("/proc/self/fd/" ++ toString fd)
    | _ => .error .invalid

def list (d : Disk) (v : View) (path : Octets) : Except FileProblem (List (Octets × Ino)) :=
  match d.find v .target path with
  | .error e => .error e
  | .ok i => if d.isDirectory i then .ok (d.names i) else .error .notDirectory

/-- The names from the root to a directory. -/
def wayTo (d : Disk) : Nat → Ino → Option (List Octets)
  | 0, _ => none
  | fuel + 1, i =>
    if i = root then some []
    else
      match d.node? i with
      | some (.directory parent _) =>
        match (d.names parent).find? fun e => e.2 = i with
        | some (name, _) => (wayTo d fuel parent).map fun names => name :: names
        | none => none
      | _ => none

def pathOf (d : Disk) (i : Ino) : Option Octets :=
  (d.wayTo d.inodes.size i).map fun names =>
    if names.isEmpty then "/" else names.foldl (fun path name => "/" ++ name ++ path) ""

end Disk

end DataplaneVerdict.Host
