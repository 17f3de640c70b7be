import DataplaneVerdict.Files.Path
import DataplaneVerdict.Files.Error
import DataplaneVerdict.Number.Basic
import DataplaneVerdict.Text.Utf8

/-!
# `Files.System` — a file system as a value

A `FileSystem` lists what stands at each location. Operations take path texts as a process would pass them: relative
ones start at the working directory, `..` leads to the parent of the directory actually reached, and symbolic links
are followed on the way. Each operation returns the changed file system or an error.

## Contents
- **State.** `Entry`, `FileSystem`, and the view `FileSystem.entry?`.
- **Walking.** `FileSystem.walk` follows a path; `FileSystem.find` gives the entry it ends at.
- **Operations.** Reading, writing, making, listing and removing.

Permissions and times of last change are kept apart from the entries, so two file systems with the same entries show the
same files.
-/

namespace DataplaneVerdict

inductive Device where
  /-- takes everything and yields nothing -/
  | null
  /-- yields zero bytes for ever -/
  | zero
  /-- yields zero bytes for ever and has no room -/
  | full
  /-- yields bytes that nobody can tell -/
  | random
  /-- what a descriptor of the process itself leads to -/
  | descriptor (fd : Nat)
deriving DecidableEq, Inhabited

/-- What stands at a location. -/
inductive Entry where
  | file (content : Bytes)
  /-- a program of the host, known by its name -/
  | program (name : String)
  /-- a regular file whose reading fails -/
  | unreadable
  | device (d : Device)
  | directory
  | link (target : String)
deriving DecidableEq, Inhabited

namespace Entry

def isDirectory : Entry → Bool
  | directory => true
  | _ => false

def isFile : Entry → Bool
  | file _ => true
  | program _ => true
  | unreadable => true
  | _ => false

end Entry

/-- The permissions that an entry has unless others are set. -/
def Entry.usualMode : Entry → Nat
  | .file _ => 0o644
  | .program _ => 0o755
  | .unreadable => 0o600
  | .device _ => 0o666
  | .directory => 0o755
  | .link _ => 0o777

/-- Operations of the host that fail although the tree would allow them. -/
structure Faults where
  stat : Location → Bool := fun _ => false
  /-- places whose removal fails; everything below them stays as well -/
  removal : Location → Bool := fun _ => false
  /-- directories that may not be listed -/
  listing : Location → Bool := fun _ => false

/-- The files of a host as one process sees them. -/
structure FileSystem where
  /-- what stands where; of two entries for one location the first counts -/
  entries : List (Location × Entry)
  /-- times of last change that were set explicitly -/
  stamps : List (Location × Number) := []
  /-- permissions that were set explicitly -/
  modes : List (Location × Nat) := []
  /-- the time of last change of everything else -/
  present : Number := 0
  cwd : Location := []
  faults : Faults := {}

namespace FileSystem

/-! ## The view -/

def entry? (fs : FileSystem) (l : Location) : Option Entry := fs.entries.lookup l

def stamp (fs : FileSystem) (l : Location) : Number := (fs.stamps.lookup l).getD fs.present

/-- The names directly below a location with what stands there. -/
def children (fs : FileSystem) (l : Location) : List (String × Entry) :=
  fs.entries.filterMap fun (m, e) =>
    match m.reverse with
    | [] => none
    | name :: up => if up.reverse = l then some (name, e) else none

/-! ## Changing entries -/

/-- Replaces the entry at a location, or adds it at the end. -/
def setEntry (l : Location) (e : Entry) : List (Location × Entry) → List (Location × Entry)
  | [] => [(l, e)]
  | (m, f) :: rest => if m = l then (m, e) :: rest else (m, f) :: setEntry l e rest

/-- Forgets the explicit time of a location: it has just changed. -/
def touchNow (fs : FileSystem) (l : Location) : FileSystem :=
  { fs with stamps := fs.stamps.filter fun s => s.1 ≠ l }

/-- Puts an entry at a location. The directory around it changes if the entry is new. -/
def put (fs : FileSystem) (l : Location) (e : Entry) : FileSystem :=
  let fs := if (fs.entry? l).isNone then fs.touchNow l.dropLast else fs
  { fs with entries := setEntry l e fs.entries }

/-- Takes away a location and everything below it. -/
def erase (fs : FileSystem) (l : Location) : FileSystem :=
  let fs := if (fs.entry? l).isSome then fs.touchNow l.dropLast else fs
  { fs with
    entries := fs.entries.filter fun e => !l.isPrefixOf e.1
    stamps := fs.stamps.filter fun s => !l.isPrefixOf s.1
    modes := fs.modes.filter fun s => !l.isPrefixOf s.1 }

def setMode (fs : FileSystem) (l : Location) (mode : Nat) : FileSystem :=
  { fs with modes := (l, mode) :: fs.modes.filter fun s => s.1 ≠ l }

/-- A time in milliseconds as it is kept: whole seconds and whole microseconds. The time is turned into seconds first,
and of what lies behind the last microsecond of their fraction nothing is kept: 1760000000123 becomes
1760000000122.999. -/
def keptTime (t : Number) : Number :=
  match t.toRat? with
  | none => t
  | some ms =>
    let nearest (r : Rat) : Rat := (Number.round r).toRat?.getD r
    let seconds := nearest (ms / 1000)
    let whole := seconds.num.tdiv seconds.den
    let fraction := nearest ((seconds - whole) * 1000000000)
    let micros := (fraction.num.tdiv fraction.den).tdiv 1000
    let (whole, micros) := if micros < 0 then (whole - 1, micros + 1000000) else (whole, micros)
    Number.round (nearest (whole * 1000 : Rat) + nearest ((micros : Rat) / 1000))

def setStamp (fs : FileSystem) (l : Location) (t : Number) : FileSystem :=
  { fs with stamps := (l, keptTime t) :: fs.stamps.filter fun s => s.1 ≠ l }

/-! ## Walking -/

/-- Where a path leads: to something, or to a free name in an existing directory. -/
inductive Place where
  | at (l : Location) (e : Entry)
  | free (directory : Location) (name : String)
deriving DecidableEq

/-- The longest name, in bytes, that a directory can hold. -/
def longestName : Nat := 255

/-- The longest path text, in bytes. -/
def longestPath : Nat := 4095

/-- How many links may be followed on one way. -/
def mostLinks : Nat := 40

/-- The names on a path; the empty ones between doubled slashes say nothing. -/
def pathNames (p : String) : List String := (Path.segments p).filter fun s => s ≠ ""

/-- Whether a path text demands a directory by its final slash. -/
def wantsDirectory (p : String) : Bool := p.toList.getLast? = some '/'

/-- What a path is walked for: the entry it names itself, what a link there leads to, or a place to create a file at. -/
inductive Reach where
  | entry
  | target
  | creation
deriving DecidableEq

/-- The names that are still ahead on a way, and whether the last of them must be a directory. -/
structure Way where
  names : List String
  slash : Bool

namespace Way

def ofPath (p : String) : Way := ⟨pathNames p, wantsDirectory p⟩

/-- The way of a link's target, followed by what lies behind the link. -/
def through (target : String) (rest : List String) (slash : Bool) : Way :=
  ⟨pathNames target ++ rest, slash || (rest.isEmpty && wantsDirectory target)⟩

end Way

/-- Walks the names from a directory; `slash` demands a directory at the end, where no file can be created. `onLink`
goes on behind a link, with fewer links allowed. -/
def walkNames (fs : FileSystem) (reach : Reach) (slash : Bool)
    (onLink : Location → Way → Except FileProblem Place) (base : Location) :
    List String → Except FileProblem Place
  | [] =>
    match fs.entry? base with
    | some e => if slash && !e.isDirectory then .error .notDirectory else .ok (.at base e)
    | none => .error .missing
  | name :: rest =>
    match fs.entry? base with
    | none => .error .missing
    | some .directory =>
      if name = "." then walkNames fs reach slash onLink base rest
      else if name = ".." then walkNames fs reach slash onLink base.dropLast rest
      else if longestName < name.utf8ByteSize then .error .nameTooLong
      else if rest.isEmpty && slash && reach = .creation then .error .isDirectory
      else
        let here := base ++ [name]
        match fs.entry? here with
        | none => if rest.isEmpty then .ok (.free base name) else .error .missing
        | some (.link target) =>
          if rest.isEmpty && !slash && reach = .entry then .ok (.at here (.link target))
          else if target.isEmpty then .error .missing
          else onLink (if Path.isAbsolute target then [] else base) (Way.through target rest slash)
        | some _ => walkNames fs reach slash onLink here rest
    | some _ => .error .notDirectory

/-- Walks a way from a directory with at most `links` links on it. -/
def walk (fs : FileSystem) (reach : Reach) : Nat → Location → Way → Except FileProblem Place
  | 0, _, _ => .error .tooManyLinks
  | links + 1, base, way => walkNames fs reach way.slash (walk fs reach links) base way.names

/-- Where a path text leads. A final slash asks for a directory. -/
def locate (fs : FileSystem) (reach : Reach) (p : String) : Except FileProblem Place :=
  if p.isEmpty then .error .missing
  else if p.toList.contains '\x00' then .error .zeroByte
  else if longestPath < p.utf8ByteSize then .error .nameTooLong
  else walk fs reach (mostLinks + 1) (if Path.isAbsolute p then [] else fs.cwd) (Way.ofPath p)

/-- What a path leads to, links followed. -/
def find (fs : FileSystem) (p : String) : Except FileProblem (Location × Entry) :=
  match fs.locate .target p with
  | .ok (.at l e) => .ok (l, e)
  | .ok (.free _ _) => .error .missing
  | .error e => .error e

/-! ## Questions -/

def pathExists (fs : FileSystem) (p : String) : Bool :=
  match fs.find p with
  | .ok _ => true
  | .error _ => false

def isFile (fs : FileSystem) (p : String) : Bool :=
  match fs.find p with
  | .ok (_, e) => e.isFile
  | .error _ => false

def isDirectory (fs : FileSystem) (p : String) : Bool :=
  match fs.find p with
  | .ok (_, e) => e.isDirectory
  | .error _ => false

/-! ## Operations -/

def readBytes (fs : FileSystem) (p : String) : Except FileError Bytes :=
  match fs.find p with
  | .error problem => .error ⟨problem, .open, some p⟩
  | .ok (_, .file content) => .ok content
  | .ok (_, .program _) => .ok []
  | .ok (_, .device _) => .ok []
  | .ok (_, .unreadable) => .error ⟨.inputOutput, .read, none⟩
  | .ok (_, .directory) => .error ⟨.isDirectory, .read, none⟩
  | .ok (_, .link _) => .error ⟨.tooManyLinks, .open, some p⟩

def readText (fs : FileSystem) (p : String) : Except FileError String := (fs.readBytes p).map Utf8.decode

/-- Writes a file: an existing one keeps its permissions, a new one goes where the path leads. -/
def writeBytes (fs : FileSystem) (p : String) (content : Bytes) : Except FileError FileSystem :=
  match fs.locate .creation p with
  | .error problem => .error ⟨problem, .open, some p⟩
  | .ok (.at l (.file _)) => .ok (fs.put l (.file content))
  | .ok (.at _ (.device _)) => .ok fs
  | .ok (.at _ .directory) => .error ⟨.isDirectory, .open, some p⟩
  | .ok (.at _ .unreadable) => .error ⟨.inputOutput, .write, none⟩
  | .ok (.at _ _) => .error ⟨.denied, .open, some p⟩
  | .ok (.free d name) => .ok (fs.put (d ++ [name]) (.file content))

/-- A path text without the slashes at its end; the root keeps one. -/
def withoutFinalSlashes (p : String) : String :=
  let kept := (p.toList.reverse.dropWhile (· == '/')).reverse
  if kept.isEmpty && !p.isEmpty then "/" else String.ofList kept

/-- Makes a directory at a free name; slashes at the end of the path say nothing. -/
def mkdir? (fs : FileSystem) (p : String) : Except FileProblem FileSystem :=
  match fs.locate .entry (withoutFinalSlashes p) with
  | .error problem => .error problem
  | .ok (.at _ _) => .error .alreadyThere
  | .ok (.free d name) => .ok (fs.put (d ++ [name]) .directory)

def mkdir (fs : FileSystem) (p : String) : Except FileError FileSystem :=
  (fs.mkdir? p).mapError fun problem => ⟨problem, .mkdir, some p⟩

/-- Everything before the last slash of a path text, or the whole text without one. -/
def beforeLastSlash (p : String) : String :=
  if p.toList.contains '/' then String.ofList ((p.toList.reverse.dropWhile (· != '/')).drop 1).reverse else p

/-- Makes the directories `pending`, nearest first; a missing parent is made before its child. An existing
directory is fine, anything else in the way is an error that names the path it stands at. Directories made before an
error stay. -/
def mkdirAll (fs : FileSystem) : Nat → List String → Except FileError Unit × FileSystem
  | 0, _ => (.error ⟨.nameTooLong, .mkdir, none⟩, fs)
  | _ + 1, [] => (.ok (), fs)
  | fuel + 1, p :: pending =>
    let fail (problem : FileProblem) : Except FileError Unit × FileSystem := (.error ⟨problem, .mkdir, some p⟩, fs)
    let inTheWay (first : FileProblem) : Except FileError Unit × FileSystem :=
      if first = .alreadyThere ∧ !pending.isEmpty then
        if fs.isDirectory p then mkdirAll fs fuel pending else fail .notDirectory
      else
        match fs.find p with
        | .error problem => fail problem
        | .ok (_, .directory) => mkdirAll fs fuel pending
        | .ok _ => fail .alreadyThere
    match fs.mkdir? p with
    | .ok fs => mkdirAll fs fuel pending
    | .error .notDirectory => fail .notDirectory
    | .error .denied => fail .denied
    | .error .notPermitted => fail .notPermitted
    | .error .missing =>
      let parent := beforeLastSlash p
      if parent ≠ p then mkdirAll fs fuel (parent :: p :: pending)
      else if pending.isEmpty then inTheWay .alreadyThere
      else mkdirAll fs fuel pending
    | .error problem => inTheWay problem

def mkdirRecursive (fs : FileSystem) (p : String) : Except FileError Unit × FileSystem :=
  mkdirAll fs (2 * p.length + 4) [p]

def readDirectory (fs : FileSystem) (p : String) : Except FileError (List (String × Entry)) :=
  match fs.find p with
  | .error problem => .error ⟨problem, .scandir, some p⟩
  | .ok (l, .directory) => if fs.faults.listing l then .error ⟨.denied, .scandir, some p⟩ else .ok (fs.children l)
  | .ok _ => .error ⟨.notDirectory, .scandir, some p⟩

theorem readDirectory_of_find {fs : FileSystem} {p : String} {l : Location} (h : fs.find p = .ok (l, .directory)) :
    fs.readDirectory p =
      if fs.faults.listing l then .error ⟨.denied, .scandir, some p⟩ else .ok (fs.children l) := by
  rw [readDirectory, h]

/-- Removes what stands at a path with all below it, a link itself and not what it leads to. Nothing there is fine. A
    removal that fails removes nothing, where a real host may have removed a part. -/
def removeAll (fs : FileSystem) (p : String) : Except FileError FileSystem :=
  match fs.locate .entry p with
  | .error .missing => .ok fs
  | .error problem => .error ⟨problem, .rm, some p⟩
  | .ok (.free _ _) => .ok fs
  | .ok (.at l _) => if fs.faults.removal l then .error ⟨.notPermitted, .rm, some p⟩ else .ok (fs.erase l)

/-- Everything below a location, by relative path, in the order of the entries. -/
def below (fs : FileSystem) (l : Location) : List (Location × Entry) :=
  fs.entries.filterMap fun (m, e) =>
    if l.isPrefixOf m && l.length < m.length then some (m.drop l.length, e) else none

end FileSystem

end DataplaneVerdict
