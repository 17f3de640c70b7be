import DataplaneVerdict.Host.Tool.Moving

/-!
# `Host.Tool.Listing` — tools that tell about files
-/

namespace DataplaneVerdict.Host.Tool

namespace Listing

open Moving (isDir isLink)

/-! ## Directories -/

/-- Which names get a mark behind them. -/
inductive Marks where
  | none
  | directories
  | types
  | all
deriving DecidableEq

/-- How directories are listed. -/
structure Style where
  hidden : Bool := false
  dots : Bool := false
  isSorted : Bool := true
  reverse : Bool := false
  marks : Marks := .none
  recursive : Bool := false
  itself : Bool := false
  follows : Bool := false
  followsOperands : Bool := false

/-- A name to be listed. -/
structure Item where
  name : Octets
  path : Octets
  stat : Option Disk.Stat

def Style.sort (s : Style) (items : List Item) : List Item :=
  let sorted := if s.isSorted then items.mergeSort fun a b => !decide (b.name < a.name) else items
  if s.reverse then sorted.reverse else sorted

/-- The mark for the kind of a file. -/
def Style.mark (s : Style) (st : Option Disk.Stat) : Octets :=
  match st with
  | none => ""
  | some st =>
    match s.marks, st.inode.node with
    | .none, _ => ""
    | _, .directory _ _ => "/"
    | .directories, _ => ""
    | _, .link _ => "@"
    | _, .device (.descriptor _) => "@"
    | _, .pipe => "|"
    | _, .inlet => "="
    | _, .outlet _ => "="
    | .types, _ => ""
    | _, .device _ => ""
    | _, _ => if st.inode.mode &&& 0o111 ≠ 0 then "*" else ""

def Style.display (s : Style) (items : List Item) : Tool Unit := do
  for i in items do
    print (i.name ++ s.mark i.stat ++ "\n")

/-- A name with what stands there. -/
def itemAt (name path : Octets) (follows : Bool) : Tool Item := do
  let st ← Tool.stat path (if follows then .target else .entry)
  pure ⟨name, path, st.toOption⟩

/-- Lists directories one after the other, those below them next. -/
def Style.directories (s : Style) : Nat → (headings : Bool) → (isFirst : Bool) → List (Octets × Bool) → Tool Unit
  | 0, _, _, _ => pure ()
  | _ + 1, _, _, [] => pure ()
  | fuel + 1, headings, isFirst, (path, isOperand) :: queue => do
    match ← act (Act.look fun d v => d.list v path) with
    | .error e => do
      complain (if isOperand then 2 else 1) ("cannot open directory " ++ Quoted.always path ++ ": " ++ e.notice)
      s.directories fuel headings isFirst queue
    | .ok names => do
      let mut items : List Item := []
      if s.dots then
        for n in [".", ".."] do
          items := items ++ [← itemAt n (joinPath path n) s.follows]
      for (n, _) in names do
        if s.hidden || n.toList.head? ≠ some '.' then
          items := items ++ [← itemAt n (joinPath path n) s.follows]
      let sorted := s.sort items
      if headings then
        print ((if isFirst then "" else "\n") ++ path ++ ":\n")
      s.display sorted
      let deeper := if s.recursive then
          let isInner (i : Item) : Bool := (i.stat.map isDir).getD false && i.name ≠ "." && i.name ≠ ".."
          (sorted.filter isInner).map fun i => (i.path, false)
        else []
      s.directories fuel headings false (deeper ++ queue)

/-- The style with one option. -/
def Style.change (s : Style) (key : String) : Style :=
  match key with
  | "all" => { s with hidden := true, dots := true }
  | "almost-all" => { s with hidden := true, dots := false }
  | "f" => { s with hidden := true, dots := true, isSorted := false }
  | "directory" => { s with itself := true }
  | "classify" => { s with marks := .all }
  | "file-type" => { s with marks := .types }
  | "p" => { s with marks := .directories }
  | "dereference" => { s with follows := true }
  | "dereference-command-line" => { s with followsOperands := true }
  | "reverse" => { s with reverse := true }
  | "recursive" => { s with recursive := true }
  | "U" => { s with isSorted := false }
  | _ => s

def flags : List Flag :=
  [.plain 'a' "all", .plain 'A' "almost-all", .plain 'd' "directory", .onlyLetter 'f', .plain 'F' "classify",
   .onlyName "file-type", .plain 'H' "dereference-command-line", .plain 'L' "dereference", .onlyLetter 'p',
   .plain 'r' "reverse", .plain 'R' "recursive", .onlyLetter 'U', .onlyLetter '1']

/-- `ls`: lists files, then directories. -/
def ls (_ : Runner) (words : List Octets) : Tool Unit := do
  let a ← arguments 2 flags words
  let style := a.given.foldl (fun s g => s.change g.key) ({} : Style)
  let followsLinks := style.follows || style.followsOperands || (!style.itself && style.marks ≠ .all)
  let mut files : List Item := []
  let mut dirs : List Item := []
  for path in if a.operands.isEmpty then ["."] else a.operands do
    let target ← Tool.stat path .target
    let entry ← Tool.stat path .entry
    let isTargetDir := match target with
      | .ok st => isDir st
      | .error _ => false
    let usesTarget := followsLinks && (style.follows || style.followsOperands || isTargetDir)
    match if usesTarget then target else entry with
    | .error e => complain 2 ("cannot access " ++ Quoted.always path ++ ": " ++ e.notice)
    | .ok st => do
      let i ← itemAt path path usesTarget
      if isDir st && !style.itself then dirs := dirs ++ [i] else files := files ++ [i]
  style.display (style.sort files)
  let headings := 1 < a.operands.length || style.recursive
  style.directories Act.fuel headings files.isEmpty ((style.sort dirs).map fun i => (i.path, true))

/-! ## Files -/

/-- What a letter of a format stands for. -/
def property (path : Octets) (link : Option Octets) (st : Disk.Stat) : Char → Option Octets
  | 'a' => some (String.ofList (Nat.toDigits 8 st.inode.mode))
  | 'g' => some "0"
  | 'G' => some "root"
  | 'h' => some (toString st.inode.links)
  | 'n' => some path
  | 'N' => some (Quoted.always path ++ (link.map fun t => " -> " ++ Quoted.always t).getD "")
  | 's' => some (toString st.size)
  | 'u' => some "0"
  | 'U' => some "root"
  | _ => none

def describe (path : Octets) (link : Option Octets) (st : Disk.Stat) : Nat → List Char → List Char
  | 0, _ => []
  | _ + 1, [] => []
  | fuel + 1, '%' :: '%' :: cs => '%' :: describe path link st fuel cs
  | fuel + 1, '%' :: c :: cs => ((property path link st c).getD "?").toList ++ describe path link st fuel cs
  | fuel + 1, c :: cs => c :: describe path link st fuel cs

/-- `stat`: properties of files in a given format. -/
def stat (_ : Runner) (words : List Octets) : Tool Unit := do
  let a ← arguments 1 [.plain 'L' "dereference", .withValue 'c' "format"] words
  if a.operands.isEmpty then misuse 1 "missing operand"
  let format ← match a.value? "format" with
    | some f => pure (f ++ "\n")
    | none => misuse 1 "missing format"
  for path in a.operands do
    match ← Tool.stat path (if a.has "dereference" then .target else .entry) with
    | .error e => complain 1 ("cannot statx " ++ Quoted.always path ++ ": " ++ e.notice)
    | .ok st => do
      let link := match st.inode.node with
        | .link t => some t
        | _ => none
      print (String.ofList (describe path link st (format.length + 1) format.toList))

/-! ## Paths -/

/-- `readlink`: where links point. -/
def readlink (_ : Runner) (words : List Octets) : Tool Unit := do
  let a ← arguments 1 [.plain 'n' "no-newline"] words
  if a.operands.isEmpty then misuse 1 "missing operand"
  for path in a.operands do
    match ← act (Act.look fun d v => d.readlink v path) with
    | .ok t => print (if a.has "no-newline" then t else t ++ "\n")
    | .error _ => note 1

end Listing

end DataplaneVerdict.Host.Tool
