import DataplaneVerdict.Host.Disk

/-!
# `Host.FileTest` — conditions on files
-/

namespace DataplaneVerdict.Host

/-- A condition on a file. -/
inductive FileTest where
  | exists_
  | readable
  | writable
  | executable
  | plain
  | directory
  | characters
  | blocks
  | pipe
  | socket
  | link
  | filled
  | setsUser
  | setsGroup
  | sticky
  | ownUser
  | ownGroup
deriving DecidableEq

namespace FileTest

def ofLetter? : Char → Option FileTest
  | 'e' => some exists_
  | 'r' => some readable
  | 'w' => some writable
  | 'x' => some executable
  | 'f' => some plain
  | 'd' => some directory
  | 'c' => some characters
  | 'b' => some blocks
  | 'p' => some pipe
  | 'S' => some socket
  | 'h' => some link
  | 'L' => some link
  | 's' => some filled
  | 'u' => some setsUser
  | 'g' => some setsGroup
  | 'k' => some sticky
  | 'O' => some ownUser
  | 'G' => some ownGroup
  | _ => none

/-- Only a test for links looks at a link itself. -/
def reach (t : FileTest) : FileSystem.Reach := if t = link then .entry else .target

end FileTest

/-- Whether anybody may run a file. -/
def Inode.isExecutable (n : Inode) : Bool :=
  match n.node with
  | .directory _ _ => true
  | _ => n.mode &&& 0o111 ≠ 0

def Disk.Stat.passes (st : Disk.Stat) : FileTest → Bool
  | .plain =>
    match st.inode.node with
    | .file _ => true
    | .program _ => true
    | .unreadable => true
    | _ => false
  | .directory =>
    match st.inode.node with
    | .directory _ _ => true
    | _ => false
  | .characters =>
    match st.inode.node with
    | .device _ => true
    | _ => false
  | .pipe =>
    match st.inode.node with
    | .pipe => true
    | _ => false
  | .socket =>
    match st.inode.node with
    | .inlet => true
    | .outlet _ => true
    | _ => false
  | .link =>
    match st.inode.node with
    | .link _ => true
    | .device (.descriptor _) => true
    | _ => false
  | .blocks => false
  | .filled => 0 < st.size
  | .executable => st.inode.isExecutable
  | .setsUser => st.inode.mode &&& 0o4000 ≠ 0
  | .setsGroup => st.inode.mode &&& 0o2000 ≠ 0
  | .sticky => st.inode.mode &&& 0o1000 ≠ 0
  | _ => true

end DataplaneVerdict.Host
