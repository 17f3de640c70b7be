import DataplaneVerdict.Host.Disk
import Std.Data.HashMap

/-!
# `Host.Mount` — a file system on a disk

Before processes run, a file system is put on a disk; afterwards it is read back. Names are texts in the file system and
bytes on the disk.
-/

namespace DataplaneVerdict.Host

namespace Disk

def microseconds (t : Number) : Int :=
  match t.toRat? with
  | some r => (r * 1000).floor
  | none => 0

def milliseconds (t : Int) : Number := Number.round ((t : Rat) / 1000)

/-- What an entry is on a disk. -/
def nodeOf (dir : Ino) : Entry → Node
  | .file content => .file (ByteArray.mk content.toArray)
  | .program name => .program name
  | .unreadable => .unreadable
  | .device d => .device d
  | .directory => .directory dir []
  | .link target => .link (Octets.ofText target)

/-- What a node is among files again. -/
def entryOf : Node → Entry
  | .file content => .file content.toList
  | .directory _ _ => .directory
  | .link target => .link (Octets.toText target)
  | .device d => .device d
  | .program name => .program name
  | .unreadable => .unreadable
  | .pipe => .device .null
  | .inlet => .device .null
  | .outlet _ => .device .null

/-- A disk that is being filled, with the numbers of the locations. -/
structure Mounting where
  disk : Disk
  places : Std.HashMap Location Ino

/-- Puts one entry on the disk. -/
def mountEntry (fs : FileSystem) (m : Mounting) (l : Location) (e : Entry) : Mounting :=
  if m.places.contains l then m
  else
    let stamp := fs.stamps.lookup l
    let time := microseconds (stamp.getD fs.present)
    let inode (dir : Ino) : Inode :=
      { node := nodeOf dir e
        mode := (fs.modes.lookup l).getD e.usualMode
        modified := time
        links := if e.isDirectory then 2 else 1
        stamped := stamp.isSome }
    match l.getLast? with
    | none => ⟨⟨#[inode root]⟩, m.places.insert l root⟩
    | some name =>
      match m.places.get? l.dropLast with
      | none => m
      | some dir =>
        let i := m.disk.inodes.size
        let disk : Disk := ⟨m.disk.inodes.push (inode dir)⟩
        let disk := disk.modify dir fun n =>
          match n.node with
          | .directory parent names =>
            { n with
              node := .directory parent (names ++ [(Octets.ofText name, i)])
              links := if e.isDirectory then n.links + 1 else n.links }
          | _ => n
        ⟨disk, m.places.insert l i⟩

/-- The disk that holds given files. -/
def ofFiles (fs : FileSystem) : Mounting :=
  fs.entries.foldl (fun m (l, e) => mountEntry fs m l e) ⟨⟨#[]⟩, ∅⟩

/-- All that stands below a directory. -/
def below (d : Disk) : Nat → Location → Ino → List (Location × Inode)
  | 0, _, _ => []
  | fuel + 1, l, i =>
    match d.inode? i with
    | none => []
    | some n =>
      (l, n) :: match n.node with
        | .directory _ names => names.flatMap fun (name, j) => below d fuel (l ++ [Octets.toText name]) j
        | _ => []

/-- The files that a disk holds. -/
def toFiles (fs : FileSystem) (d : Disk) : FileSystem :=
  let all := d.below (d.inodes.size + 1) [] root
  { fs with
    entries := all.map fun (l, n) => (l, entryOf n.node)
    stamps := all.filterMap fun (l, n) => if n.stamped then some (l, milliseconds n.modified) else none
    modes := all.filterMap fun (l, n) => if n.mode ≠ (entryOf n.node).usualMode then some (l, n.mode) else none }

end Disk

end DataplaneVerdict.Host
