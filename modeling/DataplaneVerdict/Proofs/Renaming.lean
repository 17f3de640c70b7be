import Mathlib.Data.List.Forall2
import DataplaneVerdict.Proofs.Growth
import DataplaneVerdict.Proofs.SharedRoot
import DataplaneVerdict.Proofs.EvidenceFiles

/-!
# `Proofs.Renaming` — file systems up to the name of one directory

Two runs that draw different ids work in directories of different names. Here is what it means that all else is the
same: wherever a location, a path, a link or a file's contents mentions the one name, its counterpart mentions the
other. Names of work directories are equally long and have no special characters, so nothing that the file system
decides tells them apart, and every operation on two such file systems ends alike.

## Contents
- **Names and paths.** `Renaming`, the ids of two runs; `Renaming.Paths`, texts with the same names between slashes.
- **File systems.** `Renaming.Files`, and what stands at corresponding locations.
- **Walking and operations.** `Files.walkNames` and what follows for looking up, reading, writing and making.
- **Work directories.** `Renaming.create_cases`: in one root both are made, or neither is.
- **Evidence.** `Renaming.Silent` says that the engine's directory does not mention the work directory; what is read
  there is then the same in both runs (`Files.scan`).
-/

namespace DataplaneVerdict

/-! ## Texts -/

theorem Text.join_pieces (cs : List Char) : join "/" ((pieces '/' cs).map String.ofList) = String.ofList cs := by
  induction cs with
  | nil => rfl
  | cons c cs ih =>
    obtain ⟨p, ps, hp⟩ := List.exists_cons_of_ne_nil (pieces_ne_nil '/' cs)
    have hcons : String.ofList (c :: cs) = String.ofList [c] ++ String.ofList cs := by simp
    rw [hcons, ← ih]
    by_cases hc : c = '/'
    · subst hc
      have hpieces : pieces '/' ('/' :: cs) = [] :: p :: ps := by simp [pieces, hp]
      rw [hpieces, hp]
      simp [join]
    · have hpieces : pieces '/' (c :: cs) = (c :: p) :: ps := by simp [pieces, hp, hc]
      rw [hpieces, hp]
      have hhead : String.ofList (c :: p) = String.ofList [c] ++ String.ofList p := by simp
      cases ps with
      | nil => simp [join]
      | cons q qs =>
        simp only [List.map_cons, join, hhead, String.append_assoc]

theorem Text.join_splitOn (p : String) : join "/" (splitOn p '/') = p := by
  rw [splitOn, join_pieces, String.ofList_toList]

namespace Evidence

theorem withSlashes_append (a b : String) : withSlashes (a ++ b) = withSlashes a ++ withSlashes b := by
  simp [withSlashes, String.ofList_append]

/-- The parts of a path between slashes and backslashes. -/
def parts (p : String) : List String := Path.segments (withSlashes p)

theorem parts_append (a b : String) : parts (a ++ "/" ++ b) = parts a ++ parts b := by
  have hslash : withSlashes "/" = "/" := by decide
  rw [parts, withSlashes_append, withSlashes_append, hslash]
  exact Text.splitOn_append _ _

theorem parts_of_plain {n : String} (h : '\\' ∉ n.toList) (hslash : '/' ∉ n.toList) : parts n = [n] := by
  rw [parts, withSlashes_of_plain h]
  exact Text.splitOn_of_notMem hslash

end Evidence

theorem Location.mem_text_child (l : Location) (n : String) {c : Char} :
    c ∈ (text (l ++ [n])).toList ↔ c ∈ l.text.toList ∨ c ∈ n.toList := by
  by_cases hne : l = []
  · subst hne
    simp [text, Text.join]
  · have hslash : '/' ∈ l.text.toList := by simp [text]
    rw [text_append_singleton hne, String.toList_append, String.toList_append, List.mem_append, List.mem_append]
    constructor
    · rintro ((h | h) | h)
      · exact .inl h
      · rw [List.mem_singleton.mp h]
        exact .inl hslash
      · exact .inr h
    · rintro (h | h)
      · exact .inl (.inl h)
      · exact .inr h

/-! ## Names -/

/-- The characters of ids. -/
def WorkDir.isIdChar (c : Char) : Bool := c.isAlphanum || c == '-' || c == '_'

/-- The ids that are drawn have eight characters. -/
def WorkDir.IsId (id : String) : Prop := id.length = 8 ∧ ∀ c ∈ id.toList, isIdChar c = true

/-- The ids of two runs. One run's directory takes the other's name. -/
structure Renaming where
  one : String
  other : String
  isId_one : WorkDir.IsId one
  isId_other : WorkDir.IsId other

namespace WorkDir

variable {id : String}

/-- The name of a work directory has no other characters either. -/
theorem IsId.notMem (h : IsId id) {c : Char} (hc : isIdChar c = false) : c ∉ (series ++ "-" ++ id).toList := by
  have hseries : ∀ d ∈ (series ++ "-").toList, isIdChar d = true := List.all_eq_true.mp (by decide)
  rw [String.toList_append, List.mem_append]
  rintro (hmem | hmem)
  · rw [hseries c hmem] at hc
    cases hc
  · rw [h.2 c hmem] at hc
    cases hc

theorem utf8ByteSize_ofList {cs : List Char} (h : ∀ c ∈ cs, c.utf8Size = 1) :
    (String.ofList cs).utf8ByteSize = cs.length := by
  induction cs with
  | nil => rfl
  | cons c cs ih =>
    have hcons : String.ofList (c :: cs) = String.singleton c ++ String.ofList cs := by
      apply String.ext
      simp
    rw [hcons, String.utf8ByteSize_append, ih fun d hd => h d (List.mem_cons_of_mem _ hd),
      String.utf8ByteSize_singleton, h c List.mem_cons_self, List.length_cons, Nat.add_comm]

/-- The characters of ids are encoded in one byte each. -/
theorem utf8Size_of_isIdChar {c : Char} (h : isIdChar c = true) : c.utf8Size = 1 := by
  have hnarrow : c.val ≤ 127 → c.utf8Size = 1 := fun hle => if_pos hle
  simp only [isIdChar, Bool.or_eq_true, beq_iff_eq] at h
  rcases h with (h | rfl) | rfl
  · refine hnarrow ?_
    rcases (Bool.or_eq_true _ _).mp h with hletter | hdigit
    · rcases (Bool.or_eq_true _ _).mp hletter with hupper | hlower
      · exact UInt32.le_trans (of_decide_eq_true hupper).2 (by decide)
      · exact UInt32.le_trans (of_decide_eq_true ((Bool.and_eq_true _ _).mp hlower).2) (by decide)
    · exact UInt32.le_trans (of_decide_eq_true ((Bool.and_eq_true _ _).mp hdigit).2) (by decide)
  · rfl
  · rfl

theorem IsId.utf8ByteSize (h : IsId id) : (series ++ "-" ++ id).utf8ByteSize = 18 := by
  have hsize := utf8ByteSize_ofList fun c hc => utf8Size_of_isIdChar (h.2 c hc)
  rw [String.ofList_toList, String.length_toList, h.1] at hsize
  rw [String.utf8ByteSize_append, hsize]
  rfl

end WorkDir

namespace Renaming

variable (r : Renaming)

/-- The directory of the one run. -/
def old : String := WorkDir.series ++ "-" ++ r.one

/-- The directory of the other run. -/
def new : String := WorkDir.series ++ "-" ++ r.other

/-- The two directories change their names, and nothing else does. -/
def name (n : String) : String := if n = r.old then r.new else if n = r.new then r.old else n

/-- What a name needs to be the same in both runs. -/
def Keeps (n : String) : Prop := n ≠ r.old ∧ n ≠ r.new

variable {r} {n : String} {fs gs : FileSystem}

theorem isName_old : Path.IsName r.old :=
  WorkDir.isName_series fun h => r.isId_one.notMem (c := '/') (by decide) (by simp [h])

theorem isName_new : Path.IsName r.new :=
  WorkDir.isName_series fun h => r.isId_other.notMem (c := '/') (by decide) (by simp [h])

theorem notMem_old {c : Char} (hc : WorkDir.isIdChar c = false) : c ∉ r.old.toList := r.isId_one.notMem hc

theorem notMem_new {c : Char} (hc : WorkDir.isIdChar c = false) : c ∉ r.new.toList := r.isId_other.notMem hc

theorem name_old : r.name r.old = r.new := if_pos rfl

theorem name_of_keeps (h : r.Keeps n) : r.name n = n := by
  rw [name, if_neg h.1, if_neg h.2]

/-- A name stays or is one of the two. -/
theorem name_cases (r : Renaming) (n : String) :
    (r.Keeps n ∧ r.name n = n) ∨ (n = r.old ∧ r.name n = r.new) ∨ (n = r.new ∧ r.name n = r.old) := by
  unfold Keeps name
  grind

theorem name_name (n : String) : r.name (r.name n) = n := by
  unfold name
  grind

theorem name_inj {m : String} (h : r.name n = r.name m) : n = m := by
  rw [← name_name (r := r) n, h, name_name]

/-- A name that holds a character which no id has. -/
theorem keeps_of_mem {c : Char} (hc : WorkDir.isIdChar c = false) (h : c ∈ n.toList) : r.Keeps n := by
  constructor
  · rintro rfl
    exact r.isId_one.notMem hc h
  · rintro rfl
    exact r.isId_other.notMem hc h

theorem keeps_of_short (h : n.utf8ByteSize ≠ 18) : r.Keeps n := by
  constructor
  · rintro rfl
    exact h r.isId_one.utf8ByteSize
  · rintro rfl
    exact h r.isId_other.utf8ByteSize

theorem name_empty : r.name "" = "" := name_of_keeps (keeps_of_short (by decide))

theorem utf8ByteSize_name (n : String) : (r.name n).utf8ByteSize = n.utf8ByteSize := by
  rcases r.name_cases n with ⟨-, h⟩ | ⟨rfl, h⟩ | ⟨rfl, h⟩
  · rw [h]
  · rw [h, old, new, r.isId_one.utf8ByteSize, r.isId_other.utf8ByteSize]
  · rw [h, old, new, r.isId_one.utf8ByteSize, r.isId_other.utf8ByteSize]

/-- Characters that no id has stay where they are. -/
theorem mem_name {c : Char} (hc : WorkDir.isIdChar c = false) :
    c ∈ (r.name n).toList ↔ c ∈ n.toList := by
  rcases r.name_cases n with ⟨-, h⟩ | ⟨rfl, h⟩ | ⟨rfl, h⟩
  · rw [h]
  · rw [h]
    exact iff_of_false (r.isId_other.notMem hc) (r.isId_one.notMem hc)
  · rw [h]
    exact iff_of_false (r.isId_one.notMem hc) (r.isId_other.notMem hc)

theorem isName_name : Path.IsName (r.name n) ↔ Path.IsName n := by
  rcases r.name_cases n with ⟨-, h⟩ | ⟨rfl, h⟩ | ⟨rfl, h⟩
  · rw [h]
  · rw [h]
    exact iff_of_true isName_new isName_old
  · rw [h]
    exact iff_of_true isName_old isName_new

/-! ## Paths -/

/-- A location in the other run. -/
def location (r : Renaming) (l : Location) : Location := l.map r.name

/-- Path texts that are the same but for the names between their slashes. -/
inductive Paths (r : Renaming) : String → String → Prop
  | last {n : String} (h : '/' ∉ n.toList) : Paths r n (r.name n)
  | cons {n p q : String} (h : '/' ∉ n.toList) (hrest : Paths r p q) : Paths r (n ++ "/" ++ p) (r.name n ++ "/" ++ q)

/-- A way in the other run. -/
def way (r : Renaming) (w : FileSystem.Way) : FileSystem.Way := ⟨r.location w.names, w.slash⟩

section Facts

variable {p q : String}

theorem Paths.eq_empty_iff (h : r.Paths p q) : q = "" ↔ p = "" := by
  cases h with
  | @last n hn =>
    constructor
    · intro hempty
      exact name_inj (r := r) (hempty.trans name_empty.symm)
    · rintro rfl
      exact name_empty
  | cons hn hrest => simp

theorem Paths.utf8ByteSize_eq (h : r.Paths p q) : q.utf8ByteSize = p.utf8ByteSize := by
  induction h with
  | last hn => exact utf8ByteSize_name _
  | cons hn hrest ih => simp only [String.utf8ByteSize_append, utf8ByteSize_name, ih]

theorem Paths.mem_iff (h : r.Paths p q) {c : Char} (hc : WorkDir.isIdChar c = false) : c ∈ q.toList ↔ c ∈ p.toList := by
  induction h with
  | last hn => exact mem_name hc
  | cons hn hrest ih => simp only [String.toList_append, List.mem_append, mem_name hc, ih]

theorem noSlash_name (h : '/' ∉ n.toList) : '/' ∉ (r.name n).toList := by rwa [mem_name (by decide)]

theorem head?_ne_slash (h : '/' ∉ n.toList) : n.toList.head? ≠ some '/' := fun hhead => h (List.mem_of_head? hhead)

theorem Paths.isAbsolute_eq (h : r.Paths p q) : Path.isAbsolute q = Path.isAbsolute p := by
  cases h with
  | last hn => simp only [Path.isAbsolute, head?_ne_slash hn, head?_ne_slash (noSlash_name hn)]
  | @cons n p q hn hrest =>
    by_cases hempty : n = ""
    · rw [hempty, name_empty]
      simp [Path.isAbsolute]
    · have hname : r.name n ≠ "" := fun h' => hempty (name_inj (r := r) (h'.trans name_empty.symm))
      have hhead : ∀ m t : String, m ≠ "" → '/' ∉ m.toList → Path.isAbsolute (m ++ "/" ++ t) = false := by
        intro m t hm hslash
        have := head?_ne_slash hslash
        have hchars : m.toList ≠ [] := fun h' => hm (String.toList_eq_nil_iff.mp h')
        simp only [Path.isAbsolute, String.toList_append, List.append_assoc, List.head?_append_of_ne_nil _ hchars, this,
          decide_false]
      rw [hhead n p hempty hn, hhead _ q hname (noSlash_name hn)]

theorem Paths.wantsDirectory_eq (h : r.Paths p q) :
    FileSystem.wantsDirectory q = FileSystem.wantsDirectory p := by
  induction h with
  | @last n hn =>
    have hlast : ∀ m : String, '/' ∉ m.toList → FileSystem.wantsDirectory m = false := by
      intro m hm
      rw [FileSystem.wantsDirectory, decide_eq_false_iff_not]
      exact fun h' => hm (List.mem_of_getLast? h')
    rw [hlast n hn, hlast _ (noSlash_name hn)]
  | @cons n p q hn hrest ih =>
    have hbehind : ∀ m t : String, FileSystem.wantsDirectory (m ++ "/" ++ t) =
        (decide (t = "") || FileSystem.wantsDirectory t) := by
      intro m t
      by_cases ht : t = ""
      · simp [FileSystem.wantsDirectory, ht]
      · have hchars : t.toList ≠ [] := fun h' => ht (String.toList_eq_nil_iff.mp h')
        simp only [FileSystem.wantsDirectory, String.toList_append, List.getLast?_append_of_ne_nil _ hchars, ht]
        simp
    rw [hbehind, hbehind, ih, decide_eq_decide.mpr hrest.eq_empty_iff]

theorem Paths.pathNames_eq (h : r.Paths p q) : FileSystem.pathNames q = r.location (FileSystem.pathNames p) := by
  have hone : ∀ m : String, '/' ∉ m.toList → FileSystem.pathNames m = if m = "" then [] else [m] := by
    intro m hm
    rw [FileSystem.pathNames, Path.segments, Text.splitOn_of_notMem hm]
    split <;> simp_all
  have hname : ∀ m : String, '/' ∉ m.toList →
      FileSystem.pathNames (r.name m) = r.location (FileSystem.pathNames m) := by
    intro m hm
    rw [hone m hm, hone _ (noSlash_name hm)]
    by_cases hempty : m = ""
    · rw [hempty, name_empty]
      rfl
    · rw [if_neg hempty, if_neg fun h' => hempty (name_inj (r := r) (h'.trans name_empty.symm))]
      rfl
  have hcut : ∀ a b : String,
      FileSystem.pathNames (a ++ "/" ++ b) = FileSystem.pathNames a ++ FileSystem.pathNames b := by
    intro a b
    rw [FileSystem.pathNames, Path.segments, Text.splitOn_append, List.filter_append]
    rfl
  induction h with
  | last hn => exact hname _ hn
  | cons hn hrest ih => rw [hcut, hcut, ih, hname _ hn, location, location, location, List.map_append]

theorem Paths.ofPath_eq (h : r.Paths p q) : FileSystem.Way.ofPath q = r.way (FileSystem.Way.ofPath p) := by
  rw [FileSystem.Way.ofPath, FileSystem.Way.ofPath, h.pathNames_eq, h.wantsDirectory_eq]
  rfl

end Facts

theorem paths_empty : r.Paths "" "" := by
  have hempty : r.Paths "" (r.name "") := .last (by simp)
  rwa [name_empty] at hempty

theorem paths_join {names : List String} (h : ∀ n ∈ names, '/' ∉ n.toList) :
    r.Paths (Text.join "/" names) (Text.join "/" (r.location names)) := by
  induction names with
  | nil => exact paths_empty
  | cons n names ih =>
    have hn := h n List.mem_cons_self
    cases names with
    | nil => exact .last hn
    | cons m names => exact .cons hn (ih fun x hx => h x (List.mem_cons_of_mem _ hx))

/-- The texts of a location and of its image. -/
theorem paths_text {l : Location} (h : l.Proper) : r.Paths l.text (r.location l).text := by
  have hjoin := Paths.cons (r := r) (n := "") (by simp) (paths_join (r := r) fun n hn => (h n hn).noSlash)
  rw [name_empty] at hjoin
  simpa only [Location.text, String.empty_append] using hjoin

theorem Paths.append {p q p' q' : String} (h : r.Paths p q) (h' : r.Paths p' q') :
    r.Paths (p ++ "/" ++ p') (q ++ "/" ++ q') := by
  induction h with
  | last hn => exact .cons hn h'
  | @cons n p q hn hrest ih =>
    have hcons := Paths.cons hn ih
    simpa only [String.append_assoc] using hcons

/-- A path that names neither directory is the same in both runs. -/
theorem paths_self {p : String} (h : ∀ n ∈ Path.segments p, r.Keeps n) : r.Paths p p := by
  have hslash : ∀ n ∈ Path.segments p, '/' ∉ n.toList := fun n hn => Path.noSlash_of_mem_segments hn
  have hjoin := paths_join (r := r) hslash
  have hkept : r.location (Path.segments p) = Path.segments p :=
    (List.map_congr_left fun n hn => name_of_keeps (h n hn)).trans (List.map_id _)
  rwa [hkept, Path.segments, Text.join_splitOn] at hjoin

/-! ## File systems -/

/-- Contents that are the same but for the directory that they mention. -/
def Contents (r : Renaming) (c d : Bytes) : Prop :=
  ∃ pieces : List Bytes, c = (Utf8.encode r.old).intercalate pieces ∧ d = (Utf8.encode r.new).intercalate pieces

/-- Entries that are the same but for the directory. -/
inductive Entries (r : Renaming) : Entry → Entry → Prop
  | file {c d : Bytes} (h : r.Contents c d) : Entries r (.file c) (.file d)
  | link {p q : String} (h : r.Paths p q) : Entries r (.link p) (.link q)
  | other {e : Entry} (hfile : ∀ c, e ≠ .file c) (hlink : ∀ p, e ≠ .link p) : Entries r e e

/-- What stands at a location and at its image. -/
def Stands (r : Renaming) (x y : Location × Entry) : Prop := y.1 = r.location x.1 ∧ r.Entries x.2 y.2

/-- **File systems that are the same up to the name of the directory**: what stands at a location of the one stands at
    the renamed location of the other. -/
structure Files (r : Renaming) (fs gs : FileSystem) : Prop where
  entries : List.Forall₂ r.Stands fs.entries gs.entries
  stamps : gs.stamps = fs.stamps.map fun x => (r.location x.1, x.2)
  modes : gs.modes = fs.modes.map fun x => (r.location x.1, x.2)
  present : gs.present = fs.present
  cwd : gs.cwd = r.location fs.cwd
  faults : ∀ l, gs.faults.stat (r.location l) = fs.faults.stat l ∧
    gs.faults.removal (r.location l) = fs.faults.removal l ∧ gs.faults.listing (r.location l) = fs.faults.listing l

/-- Errors of a call that differ at most in the path that they name. -/
def Errors (call : FileCall) (p q : String) (e f : FileError) : Prop :=
  f = e ∨ ∃ problem, problem ≠ .zeroByte ∧ e = ⟨problem, call, some p⟩ ∧ f = ⟨problem, call, some q⟩

/-- Results that agree: related values, or the same error. -/
inductive Agree {ε α β : Type} (R : α → β → Prop) : Except ε α → Except ε β → Prop
  | ok {a : α} {b : β} (h : R a b) : Agree R (.ok a) (.ok b)
  | error (e : ε) : Agree R (.error e) (.error e)

theorem Agree.cases {ε α β : Type} {R : α → β → Prop} {x : Except ε α} {y : Except ε β} (h : Agree R x y) :
    (∃ e, x = .error e ∧ y = .error e) ∨ ∃ a b, x = .ok a ∧ y = .ok b ∧ R a b := by
  cases h with
  | error e => exact .inl ⟨e, rfl, rfl⟩
  | ok h => exact .inr ⟨_, _, rfl, rfl, h⟩

/-- Places that are the same but for the directory. -/
inductive Places (r : Renaming) : FileSystem.Place → FileSystem.Place → Prop
  | found (l : Location) {e f : Entry} (h : r.Entries e f) : Places r (.at l e) (.at (r.location l) f)
  | free (d : Location) (n : String) : Places r (.free d n) (.free (r.location d) (r.name n))

theorem location_inj {l m : Location} (h : r.location l = r.location m) : l = m :=
  List.map_injective_iff.mpr (fun _ _ => name_inj) h

theorem contents_self (c : Bytes) : r.Contents c c := ⟨[c], by simp [List.intercalate], by simp [List.intercalate]⟩

/-- What does not mention the one directory mentions neither. -/
theorem Contents.eq_of_silent {c d : Bytes} (h : r.Contents c d) (hsilent : ¬Utf8.encode r.old <:+: c) : d = c := by
  obtain ⟨pieces, rfl, rfl⟩ := h
  cases pieces with
  | nil => rfl
  | cons p pieces =>
    cases pieces with
    | nil => simp [List.intercalate]
    | cons q rest =>
      refine absurd ?_ hsilent
      exact ⟨p, (Utf8.encode r.old).intercalate (q :: rest), by simp [List.intercalate, List.intersperse]⟩

theorem Entries.isDirectory_eq {e f : Entry} (h : r.Entries e f) : f.isDirectory = e.isDirectory := by
  cases h <;> rfl

theorem Entries.isFile_eq {e f : Entry} (h : r.Entries e f) : f.isFile = e.isFile := by
  cases h <;> rfl

section Listings

variable {xs ys : List (Location × Entry)}

theorem lookup_cases (h : List.Forall₂ r.Stands xs ys) (l : Location) :
    (xs.lookup l = none ∧ ys.lookup (r.location l) = none) ∨
      ∃ e f, xs.lookup l = some e ∧ ys.lookup (r.location l) = some f ∧ r.Entries e f := by
  induction h with
  | nil => exact .inl ⟨rfl, rfl⟩
  | @cons x y xs ys hxy _ ih =>
    obtain ⟨m, e⟩ := x
    obtain ⟨m', f⟩ := y
    obtain ⟨rfl, he⟩ : m' = r.location m ∧ r.Entries e f := hxy
    rw [FileSystem.lookup_cons_eq, FileSystem.lookup_cons_eq]
    by_cases hm : l = m
    · rw [if_pos hm, if_pos (congrArg r.location hm)]
      exact .inr ⟨e, f, rfl, rfl, he⟩
    · rw [if_neg hm, if_neg fun h' => hm (location_inj h')]
      exact ih

theorem stands_setEntry (h : List.Forall₂ r.Stands xs ys) (l : Location) {e f : Entry} (he : r.Entries e f) :
    List.Forall₂ r.Stands (FileSystem.setEntry l e xs) (FileSystem.setEntry (r.location l) f ys) := by
  induction h with
  | nil => exact .cons ⟨rfl, he⟩ .nil
  | @cons x y xs ys hxy hrest ih =>
    obtain ⟨m, e'⟩ := x
    obtain ⟨m', f'⟩ := y
    obtain ⟨rfl, he'⟩ : m' = r.location m ∧ r.Entries e' f' := hxy
    unfold FileSystem.setEntry
    by_cases hm : m = l
    · rw [if_pos hm, if_pos (congrArg r.location hm)]
      exact .cons ⟨rfl, he⟩ hrest
    · rw [if_neg hm, if_neg fun h' => hm (location_inj h')]
      exact .cons ⟨rfl, he'⟩ ih

end Listings

namespace Files

theorem entry_cases (h : r.Files fs gs) (l : Location) :
    fs.entry? l = none ∧ gs.entry? (r.location l) = none ∨
      ∃ e f, fs.entry? l = some e ∧ gs.entry? (r.location l) = some f ∧ r.Entries e f :=
  lookup_cases h.entries l

theorem touchNow (h : r.Files fs gs) (l : Location) : r.Files (fs.touchNow l) (gs.touchNow (r.location l)) := by
  have hkept : ∀ x : Location × Number, decide (r.location x.1 ≠ r.location l) = decide (x.1 ≠ l) :=
    fun x => decide_eq_decide.mpr (not_congr ⟨location_inj, congrArg r.location⟩)
  refine { h with stamps := ?_ }
  simp only [FileSystem.touchNow, h.stamps, List.filter_map, Function.comp_def, hkept]

theorem put (h : r.Files fs gs) (l : Location) {e f : Entry} (he : r.Entries e f) :
    r.Files (fs.put l e) (gs.put (r.location l) f) := by
  have hdrop : (r.location l).dropLast = r.location l.dropLast := List.map_dropLast.symm
  unfold FileSystem.put
  rcases h.entry_cases l with ⟨hnone, hnone'⟩ | ⟨e', f', hsome, hsome', -⟩
  · have htouched := h.touchNow l.dropLast
    simp only [hnone, hnone', hdrop, Option.isNone_none, if_true]
    exact { htouched with entries := stands_setEntry htouched.entries l he }
  · simp only [hsome, hsome', Option.isNone_some, Bool.false_eq_true, if_false]
    exact { h with entries := stands_setEntry h.entries l he }

theorem location_child (d : Location) (n : String) : r.location (d ++ [n]) = r.location d ++ [r.name n] :=
  List.map_append

theorem put_child (h : r.Files fs gs) (d : Location) (n : String) {e f : Entry} (he : r.Entries e f) :
    r.Files (fs.put (d ++ [n]) e) (gs.put (r.location d ++ [r.name n]) f) := by
  rw [← location_child]
  exact h.put (d ++ [n]) he

/-! ## Walking -/

section Walk

open FileSystem

variable {reach : Reach} {slash : Bool} {onLink onLink' : Location → Way → Except FileProblem Place}

theorem name_eq_iff {n m : String} (hm : r.Keeps m) : r.name n = m ↔ n = m := by
  constructor
  · intro h
    exact name_inj (h.trans (name_of_keeps hm).symm)
  · rintro rfl
    exact name_of_keeps hm

theorem keeps_dot : r.Keeps "." := keeps_of_short (by decide)

theorem keeps_dots : r.Keeps ".." := keeps_of_short (by decide)

/-- A link leads to the same place if the ways behind it do. -/
theorem through_eq {p q : String} (h : r.Paths p q) (rest : List String) (slash : Bool) :
    Way.through q (r.location rest) slash = r.way (Way.through p rest slash) := by
  simp only [Way.through, way, location, h.pathNames_eq, h.wantsDirectory_eq, List.map_append, List.isEmpty_map]

theorem agree_ite {ε α β : Type} {R : α → β → Prop} {c : Prop} [Decidable c] {x x' : Except ε α} {y y' : Except ε β}
    (h : c → Agree R x y) (h' : ¬c → Agree R x' y') : Agree R (if c then x else x') (if c then y else y') := by
  by_cases hc : c
  · rw [if_pos hc, if_pos hc]
    exact h hc
  · rw [if_neg hc, if_neg hc]
    exact h' hc

/-- **Walking** along corresponding names leads to corresponding places, or fails for the same reason, if it does so
    behind every link. -/
theorem walkNames (h : r.Files fs gs)
    (honLink : ∀ base way, Agree r.Places (onLink base way) (onLink' (r.location base) (r.way way)))
    (base : Location) (names : List String) :
    Agree r.Places (fs.walkNames reach slash onLink base names)
      (gs.walkNames reach slash onLink' (r.location base) (r.location names)) := by
  induction names generalizing base with
  | nil =>
    rw [location, location, List.map_nil]
    simp only [FileSystem.walkNames]
    rcases h.entry_cases base with ⟨hnone, hnone'⟩ | ⟨e, f, hsome, hsome', he⟩
    · rw [location] at hnone'
      rw [hnone, hnone']
      exact .error _
    · rw [location] at hsome'
      rw [hsome, hsome']
      dsimp only
      rw [he.isDirectory_eq]
      split
      · exact .error _
      · exact .ok (.found base he)
  | cons n rest ih =>
    have hcons : r.location (n :: rest) = r.name n :: r.location rest := rfl
    rw [hcons]
    simp only [FileSystem.walkNames]
    rcases h.entry_cases base with ⟨hnone, hnone'⟩ | ⟨e, f, hsome, hsome', he⟩
    · rw [hnone, hnone']
      exact .error _
    rw [hsome, hsome']
    cases he with
    | file => exact .error _
    | link => exact .error _
    | other hfile hlink =>
      cases e with
      | file c => exact absurd rfl (hfile c)
      | link p => exact absurd rfl (hlink p)
      | directory =>
        dsimp only
        -- neither name is made of dots, and both are equally long, so every test of the next name has one answer
        have hup : List.dropLast (r.location base) = r.location base.dropLast := List.map_dropLast.symm
        have hend : (r.location rest).isEmpty = rest.isEmpty := List.isEmpty_map
        simp only [name_eq_iff keeps_dot, name_eq_iff keeps_dots, utf8ByteSize_name, hup, ← location_child, hend]
        refine agree_ite (fun _ => ih base) fun _ => agree_ite (fun _ => ih base.dropLast) fun _ =>
          agree_ite (fun _ => .error _) fun _ => agree_ite (fun _ => .error _) fun _ => ?_
        rcases h.entry_cases (base ++ [n]) with ⟨hfree, hfree'⟩ | ⟨e, f, hsome, hsome', he⟩
        · rw [hfree, hfree']
          exact agree_ite (fun _ => .ok (.free base n)) fun _ => .error _
        rw [hsome, hsome']
        cases he with
        | file hc => exact ih (base ++ [n])
        | @link p q hpaths =>
          dsimp only
          have hempty : q.isEmpty = p.isEmpty := by
            rw [Bool.eq_iff_iff, String.isEmpty_iff, String.isEmpty_iff, hpaths.eq_empty_iff]
          have hstart : (if Path.isAbsolute q = true then [] else r.location base) =
              r.location (if Path.isAbsolute p = true then [] else base) := by
            rw [hpaths.isAbsolute_eq]
            split <;> rfl
          rw [hempty, hstart, through_eq hpaths]
          exact agree_ite (fun _ => .ok (.found _ (.link hpaths))) fun _ =>
            agree_ite (fun _ => .error _) fun _ => honLink _ _
        | @other e hfile hlink =>
          cases e with
          | file c => exact absurd rfl (hfile c)
          | link p => exact absurd rfl (hlink p)
          | directory | program | unreadable | device => exact ih (base ++ [n])
      | program | unreadable | device => exact .error _

theorem walk (h : r.Files fs gs) (links : Nat) (base : Location) (way : Way) :
    Agree r.Places (fs.walk reach links base way) (gs.walk reach links (r.location base) (r.way way)) := by
  induction links generalizing base way with
  | zero => exact .error _
  | succ links ih => exact h.walkNames ih base way.names

/-- **Paths lead to the same places.** -/
theorem locate (h : r.Files fs gs) {p q : String} (hpaths : r.Paths p q) (reach : Reach) :
    Agree r.Places (fs.locate reach p) (gs.locate reach q) := by
  have hempty : q.isEmpty = p.isEmpty := by
    rw [Bool.eq_iff_iff, String.isEmpty_iff, String.isEmpty_iff, hpaths.eq_empty_iff]
  have hzero : q.toList.contains '\x00' = p.toList.contains '\x00' := by
    rw [Bool.eq_iff_iff, List.contains_iff_mem, List.contains_iff_mem, hpaths.mem_iff (by decide)]
  have hstart : (if Path.isAbsolute q = true then [] else gs.cwd) =
      r.location (if Path.isAbsolute p = true then [] else fs.cwd) := by
    rw [hpaths.isAbsolute_eq, h.cwd]
    split <;> rfl
  unfold FileSystem.locate
  rw [hempty, hzero, hpaths.utf8ByteSize_eq, hstart, hpaths.ofPath_eq]
  exact agree_ite (fun _ => .error _) fun _ => agree_ite (fun _ => .error _) fun _ =>
    agree_ite (fun _ => .error _) fun _ => h.walk _ _ _

/-- What a path leads to. -/
theorem find (h : r.Files fs gs) {p q : String} (hpaths : r.Paths p q) :
    Agree (fun x y => y.1 = r.location x.1 ∧ r.Entries x.2 y.2) (fs.find p) (gs.find q) := by
  unfold FileSystem.find
  rcases (h.locate hpaths .target).cases with ⟨problem, hp, hq⟩ | ⟨place, place', hp, hq, hplaces⟩
  · rw [hp, hq]
    exact .error _
  · rw [hp, hq]
    cases hplaces with
    | found l he => exact .ok ⟨rfl, he⟩
    | free d n => exact .error _

end Walk

section ZeroByte

open FileSystem

theorem walkNames_ne_zeroByte {reach : Reach} {slash : Bool} {onLink : Location → Way → Except FileProblem Place}
    (honLink : ∀ base way, onLink base way ≠ .error .zeroByte) (base : Location) (names : List String) :
    fs.walkNames reach slash onLink base names ≠ .error .zeroByte := by
  induction names generalizing base with
  | nil =>
    unfold FileSystem.walkNames
    repeat' split
    all_goals exact fun h => by cases h
  | cons n rest ih =>
    unfold FileSystem.walkNames
    dsimp only
    repeat' split
    all_goals first
      | exact ih _
      | exact honLink _ _
      | exact fun h => by cases h

theorem walk_ne_zeroByte {reach : Reach} (links : Nat) (base : Location) (way : Way) :
    fs.walk reach links base way ≠ .error .zeroByte := by
  induction links generalizing base way with
  | zero => exact fun h => by cases h
  | succ links ih => exact walkNames_ne_zeroByte ih base way.names

/-- Only a path with a zero byte is refused for it. -/
theorem problem_ne_zeroByte {reach : Reach} {p : String} {problem : FileProblem} (hzero : '\x00' ∉ p.toList)
    (h : fs.locate reach p = .error problem) : problem ≠ .zeroByte := by
  rintro rfl
  unfold FileSystem.locate at h
  split at h
  · cases h
  split at h
  · rename_i hmem
    exact hzero (List.contains_iff_mem.mp hmem)
  split at h
  · cases h
  exact walk_ne_zeroByte _ _ _ h

/-- A path that leads somewhere has no zero byte. -/
theorem noZero_of_locate {reach : Reach} {p : String} {place : Place} (h : fs.locate reach p = .ok place) :
    '\x00' ∉ p.toList := by
  intro hmem
  unfold FileSystem.locate at h
  rw [if_pos (List.contains_iff_mem.mpr hmem)] at h
  split at h <;> cases h

end ZeroByte

/-! ## Operations -/

section Operations

variable {p q : String}

theorem pathExists_eq (h : r.Files fs gs) (hpaths : r.Paths p q) : gs.pathExists q = fs.pathExists p := by
  unfold FileSystem.pathExists
  rcases (h.find hpaths).cases with ⟨problem, hp, hq⟩ | ⟨x, y, hp, hq, -, he⟩
  · rw [hp, hq]
  · rw [hp, hq]

theorem isFile_eq (h : r.Files fs gs) (hpaths : r.Paths p q) : gs.isFile q = fs.isFile p := by
  unfold FileSystem.isFile
  rcases (h.find hpaths).cases with ⟨problem, hp, hq⟩ | ⟨x, y, hp, hq, -, he⟩
  · rw [hp, hq]
  · rw [hp, hq]
    exact he.isFile_eq

theorem isDirectory_eq (h : r.Files fs gs) (hpaths : r.Paths p q) : gs.isDirectory q = fs.isDirectory p := by
  unfold FileSystem.isDirectory
  rcases (h.find hpaths).cases with ⟨problem, hp, hq⟩ | ⟨x, y, hp, hq, -, he⟩
  · rw [hp, hq]
  · rw [hp, hq]
    exact he.isDirectory_eq

/-- Reading gives contents that are the same but for the directory that they mention, or fails in both. -/
theorem readBytes_cases (h : r.Files fs gs) (hpaths : r.Paths p q) :
    (∃ c d, fs.readBytes p = .ok c ∧ gs.readBytes q = .ok d ∧ r.Contents c d) ∨
      ∃ e f, fs.readBytes p = .error e ∧ gs.readBytes q = .error f := by
  unfold FileSystem.readBytes
  rcases (h.find hpaths).cases with ⟨problem, hp, hq⟩ | ⟨⟨l, e⟩, ⟨l', f⟩, hp, hq, -, he⟩
  · rw [hp, hq]
    exact .inr ⟨_, _, rfl, rfl⟩
  · rw [hp, hq]
    cases he with
    | file hc => exact .inl ⟨_, _, rfl, rfl, hc⟩
    | link => exact .inr ⟨_, _, rfl, rfl⟩
    | other hfile hlink =>
      cases e with
      | file c => exact absurd rfl (hfile c)
      | link p => exact absurd rfl (hlink p)
      | program | device => exact .inl ⟨_, _, rfl, rfl, contents_self _⟩
      | unreadable | directory => exact .inr ⟨_, _, rfl, rfl⟩

/-- Writing the same bytes changes both alike, or fails in both for the same reason. -/
theorem writeBytes_cases (h : r.Files fs gs) (hpaths : r.Paths p q) (hzero : '\x00' ∉ p.toList) (content : Bytes) :
    (∃ fs' gs', fs.writeBytes p content = .ok fs' ∧ gs.writeBytes q content = .ok gs' ∧ r.Files fs' gs') ∨
      ∃ e f, fs.writeBytes p content = .error e ∧ gs.writeBytes q content = .error f ∧ Errors .open p q e f := by
  have hsame : r.Entries (.file content) (.file content) := .file (contents_self content)
  unfold FileSystem.writeBytes
  rcases (h.locate hpaths .creation).cases with ⟨problem, hp, hq⟩ | ⟨place, place', hp, hq, hplaces⟩
  · rw [hp, hq]
    exact .inr ⟨_, _, rfl, rfl, .inr ⟨_, problem_ne_zeroByte hzero hp, rfl, rfl⟩⟩
  · rw [hp, hq]
    cases hplaces with
    | free d n => exact .inl ⟨_, _, rfl, rfl, h.put_child d n hsame⟩
    | @found l e f he =>
      cases he with
      | file hc => exact .inl ⟨_, _, rfl, rfl, h.put l hsame⟩
      | link => exact .inr ⟨_, _, rfl, rfl, .inr ⟨_, by decide, rfl, rfl⟩⟩
      | other hfile hlink =>
        cases e with
        | file c => exact absurd rfl (hfile c)
        | link p => exact absurd rfl (hlink p)
        | device => exact .inl ⟨_, _, rfl, rfl, h⟩
        | unreadable => exact .inr ⟨_, _, rfl, rfl, .inl rfl⟩
        | program | directory => exact .inr ⟨_, _, rfl, rfl, .inr ⟨_, by decide, rfl, rfl⟩⟩

/-- Making the directories at two paths. -/
theorem mkdir? (h : r.Files fs gs) {l m : Location} (hl : l.Proper) (hm : m.Proper) (hpaths : r.Paths l.text m.text) :
    Agree r.Files (fs.mkdir? l.text) (gs.mkdir? m.text) := by
  unfold FileSystem.mkdir?
  rw [Location.withoutFinalSlashes_text hl (.inl rfl), Location.withoutFinalSlashes_text hm (.inl rfl)]
  rcases (h.locate hpaths .entry).cases with ⟨problem, hp, hq⟩ | ⟨place, place', hp, hq, hplaces⟩
  · rw [hp, hq]
    exact .error _
  · rw [hp, hq]
    cases hplaces with
    | found l he => exact .error _
    | free d n => exact .ok (h.put_child d n (.other (fun _ h' => by cases h') fun _ h' => by cases h'))

theorem mkdir?_self (h : r.Files fs fs) {root : Location} (hroot : root.Proper) (hkept : r.location root = root)
    {k : Nat} {fs' : FileSystem} (hmade : fs.mkdir? (Location.text (root.take k)) = .ok fs') : r.Files fs' fs' := by
  have hproper : Location.Proper (root.take k) := fun n hn => hroot n (List.mem_of_mem_take hn)
  have hsame : r.location (root.take k) = root.take k := by
    rw [location, List.map_take]
    exact congrArg (List.take k) hkept
  have hpaths : r.Paths (Location.text (root.take k)) (Location.text (root.take k)) := by
    have htext := paths_text (r := r) hproper
    rwa [hsame] at htext
  rcases (h.mkdir? hproper hproper hpaths).cases with ⟨problem, hp, -⟩ | ⟨fs₁, fs₂, hp, hq, hfiles⟩
  · rw [hmade] at hp
    cases hp
  · rw [hmade] at hp hq
    obtain rfl := Except.ok.inj hp
    obtain rfl := Except.ok.inj hq
    exact hfiles

/-- Making a root that names neither directory tells the two names apart as little as before. -/
theorem mkdirAll_self (h : r.Files fs fs) {root : Location} (hroot : root.Proper) (hkept : r.location root = root)
    (fuel : Nat) (pending : List String) (hpending : ∀ p ∈ pending, FileSystem.OnWay root p) :
    r.Files (fs.mkdirAll fuel pending).2 (fs.mkdirAll fuel pending).2 := by
  induction fuel generalizing fs pending with
  | zero => exact h
  | succ fuel ih =>
    cases pending with
    | nil => exact h
    | cons p pending =>
      have hp : FileSystem.OnWay root p := hpending p List.mem_cons_self
      have hrest : ∀ q ∈ pending, FileSystem.OnWay root q := fun q hq => hpending q (List.mem_cons_of_mem _ hq)
      obtain ⟨e, heq⟩ | ⟨fs', hmade, heq⟩ | ⟨-, heq⟩ | ⟨-, heq⟩ | ⟨-, -, heq⟩ :=
        FileSystem.mkdirAll_cases fs fuel p pending
      · rw [heq]
        exact h
      · rw [heq]
        refine ih ?_ pending hrest
        rcases hp with rfl | ⟨k, rfl⟩
        · cases hmade
        · exact h.mkdir?_self hroot hkept hmade
      · rw [heq]
        exact ih h pending hrest
      · rw [heq]
        exact ih h _ (List.forall_mem_cons.mpr ⟨hp.beforeLastSlash hroot, hpending⟩)
      · rw [heq]
        exact ih h pending hrest

theorem mkdirRecursive_self (h : r.Files fs fs) {root : Location} (hroot : root.Proper)
    (hkept : r.location root = root) :
    r.Files (fs.mkdirRecursive root.text).2 (fs.mkdirRecursive root.text).2 := by
  refine h.mkdirAll_self hroot hkept _ _ fun p hp => ?_
  exact .inr ⟨root.length, by rw [List.take_length]; exact List.mem_singleton.mp hp⟩

theorem mkdir?_ne_zeroByte {l : Location} {problem : FileProblem} (hl : l.Proper) (hzero : '\x00' ∉ l.text.toList)
    (h : fs.mkdir? l.text = .error problem) : problem ≠ .zeroByte := by
  unfold FileSystem.mkdir? at h
  rw [Location.withoutFinalSlashes_text hl (.inl rfl)] at h
  split at h
  · rename_i hlocate
    rw [← Except.error.inj h]
    exact problem_ne_zeroByte hzero hlocate
  · rw [← Except.error.inj h]
    decide
  · cases h

/-- A root that could be made has no zero byte in its path. -/
theorem noZero_of_mkdirRecursive {root : Location} (hroot : root.Proper) {fs' : FileSystem}
    (h : fs.mkdirRecursive root.text = (.ok (), fs')) : '\x00' ∉ root.text.toList := by
  obtain ⟨l, e, hat⟩ := (FileSystem.mkdirRecursive_taken h).2.2 rfl
  rw [Location.withoutFinalSlashes_text hroot (.inl rfl)] at hat
  exact noZero_of_locate hat

end Operations

end Files

/-! ## Work directories -/

/-- **Two work directories** in one root: both are made, or neither is, for the same reason. -/
theorem create_cases {fs : FileSystem} (h : r.Files fs fs) {root : Location} (hroot : root.Proper)
    (hkept : r.location root = root) :
    (∃ fs₁ fs₂, WorkDir.create fs root.text WorkDir.series r.one = (.ok (Location.text (root ++ [r.old])), fs₁) ∧
        WorkDir.create fs root.text WorkDir.series r.other = (.ok (Location.text (root ++ [r.new])), fs₂) ∧
        r.Files fs₁ fs₂) ∨
      ∃ e f fs₁ fs₂, WorkDir.create fs root.text WorkDir.series r.one = (.error (.file e), fs₁) ∧
        WorkDir.create fs root.text WorkDir.series r.other = (.error (.file f), fs₂) ∧
        Errors .mkdir (Location.text (root ++ [r.old])) (Location.text (root ++ [r.new])) e f := by
  have hjoin : Path.join root.text (WorkDir.series ++ "-" ++ r.one) = Location.text (root ++ [r.old]) :=
    (Path.join_name hroot (.inl rfl) isName_old).2
  have hjoin' : Path.join root.text (WorkDir.series ++ "-" ++ r.other) = Location.text (root ++ [r.new]) :=
    (Path.join_name hroot (.inl rfl) isName_new).2
  have hold : Location.Proper (root ++ [r.old]) := (Path.join_name hroot (.inl rfl) isName_old).1
  have hnew : Location.Proper (root ++ [r.new]) := (Path.join_name hroot (.inl rfl) isName_new).1
  have hpaths : r.Paths (Location.text (root ++ [r.old])) (Location.text (root ++ [r.new])) := by
    have htext := paths_text (r := r) hold
    rwa [Files.location_child, hkept, name_old] at htext
  -- the root is made by the same calls in both runs, which part at the last name only
  have hself := h.mkdirRecursive_self hroot hkept
  unfold WorkDir.create
  rcases hmade : fs.mkdirRecursive root.text with ⟨made, fs'⟩
  rw [hmade] at hself
  cases made with
  | error e => exact .inr ⟨e, e, fs', fs', rfl, rfl, .inl rfl⟩
  | ok =>
    dsimp only
    rw [hjoin, hjoin']
    unfold FileSystem.mkdir
    rcases (hself.mkdir? hold hnew hpaths).cases with ⟨problem, hp, hq⟩ | ⟨fs₁, fs₂, hp, hq, hfiles⟩
    · have hne : problem ≠ .zeroByte := by
        refine Files.mkdir?_ne_zeroByte hold ?_ hp
        rw [Location.mem_text_child, not_or]
        exact ⟨Files.noZero_of_mkdirRecursive hroot hmade, notMem_old (by decide)⟩
      rw [hp, hq]
      exact .inr ⟨_, _, fs', fs', rfl, rfl, .inr ⟨problem, hne, rfl, rfl⟩⟩
    · rw [hp, hq]
      exact .inl ⟨fs₁, fs₂, rfl, rfl, hfiles⟩

/-! ## Evidence -/

/-- No part of a text between slashes and backslashes is one of the two names. -/
def Unnamed (r : Renaming) (p : String) : Prop := ∀ m ∈ Evidence.parts p, r.Keeps m

/-- The evidence in a directory is silent about the one run's directory: it neither names nor mentions it. -/
structure Silent (r : Renaming) (fs : FileSystem) (dir : String) : Prop where
  names : ∀ l, fs.find dir = .ok (l, .directory) → ∀ x ∈ fs.children l, Evidence.isName x.1 = true → r.Unnamed x.1
  contents : ∀ evidence, Evidence.scan fs dir = .ok evidence → ∀ p ∈ evidence.files, ∀ c, fs.readBytes p = .ok c →
    ¬Utf8.encode r.old <:+: c

theorem Unnamed.keeps (h : r.Unnamed n) : r.Keeps n := by
  constructor
  · rintro rfl
    have hparts : Evidence.parts r.old = [r.old] := Evidence.parts_of_plain (notMem_old (by decide)) isName_old.noSlash
    exact (h r.old (by rw [hparts]; exact List.mem_singleton.mpr rfl)).1 rfl
  · rintro rfl
    have hparts : Evidence.parts r.new = [r.new] := Evidence.parts_of_plain (notMem_new (by decide)) isName_new.noSlash
    exact (h r.new (by rw [hparts]; exact List.mem_singleton.mpr rfl)).2 rfl

theorem parts_join {names : List String} (hne : names ≠ []) :
    Evidence.parts (Text.join "/" names) = names.flatMap Evidence.parts := by
  induction names with
  | nil => exact absurd rfl hne
  | cons n names ih =>
    cases names with
    | nil => simp [Text.join]
    | cons m names => rw [Text.join, Evidence.parts_append, ih (List.cons_ne_nil _ _), List.flatMap_cons (x := n)]

/-- A text without the two names is the same path in both runs. -/
theorem Unnamed.paths (h : r.Unnamed n) : r.Paths n n := by
  refine paths_self fun m hm => ?_
  have hparts := parts_join (List.ne_nil_of_mem hm)
  rw [Path.segments, Text.join_splitOn] at hparts
  refine Unnamed.keeps fun k hk => h k ?_
  rw [hparts]
  exact List.mem_flatMap.mpr ⟨m, hm, hk⟩

/-- With slashes for its backslashes it still is. -/
theorem Unnamed.paths_withSlashes (h : r.Unnamed n) : r.Paths (Evidence.withSlashes n) (Evidence.withSlashes n) :=
  paths_self h

theorem Files.children (h : r.Files fs gs) (l : Location) :
    List.Forall₂ (fun x y => y.1 = r.name x.1) (fs.children l) (gs.children (r.location l)) := by
  refine List.rel_filterMap ?_ h.entries
  rintro ⟨m, e⟩ ⟨m', f⟩ ⟨hm, -⟩
  obtain rfl : m' = r.location m := hm
  have hreverse : List.reverse (r.location m) = r.location m.reverse := List.map_reverse.symm
  dsimp only
  rw [hreverse]
  cases m.reverse with
  | nil => exact .none
  | cons n up =>
    have hup : List.reverse (r.location up) = r.location l ↔ up.reverse = l := by
      have hmap : List.reverse (r.location up) = r.location up.reverse := List.map_reverse.symm
      rw [hmap]
      exact ⟨location_inj, congrArg r.location⟩
    show Option.Rel _ (if up.reverse = l then some (n, e) else none)
      (if List.reverse (r.location up) = r.location l then some (r.name n, f) else none)
    by_cases hl : up.reverse = l
    · rw [if_pos hl, if_pos (hup.mpr hl)]
      exact .some rfl
    · rw [if_neg hl, if_neg (mt hup.mp hl)]
      exact .none

/-- Lists that keep the same names, if what they keep has the same name. -/
theorem filter_names {xs ys : List (String × Entry)} {keeps keeps' : String → Bool}
    (h : List.Forall₂ (fun x y => y.1 = r.name x.1) xs ys)
    (hsame : ∀ x ∈ xs, keeps' (r.name x.1) = keeps x.1 ∧ (keeps x.1 = true → r.name x.1 = x.1)) :
    (ys.filter fun y => keeps' y.1).map (·.1) = (xs.filter fun x => keeps x.1).map (·.1) := by
  induction h with
  | nil => rfl
  | @cons x y xs ys hxy _ ih =>
    obtain ⟨hkeeps, hname⟩ := hsame x List.mem_cons_self
    have hrest := ih fun z hz => hsame z (List.mem_cons_of_mem _ hz)
    rw [List.filter_cons, List.filter_cons, hxy, hkeeps]
    cases hx : keeps x.1 with
    | false => simpa using hrest
    | true => simpa [hxy, hname hx] using hrest

theorem mem_dot_of_isName (h : Evidence.isName n = true) : '.' ∈ n.toList :=
  (Evidence.isName_iff.mp h).1.subset (by decide)

theorem isName_name_eq (n : String) : Evidence.isName (r.name n) = Evidence.isName n := by
  by_cases hdot : '.' ∈ n.toList
  · rw [name_of_keeps (keeps_of_mem (by decide) hdot)]
  · have hdot' : '.' ∉ (r.name n).toList := by rwa [mem_name (by decide)]
    rw [Bool.eq_false_iff.mpr (mt mem_dot_of_isName hdot), Bool.eq_false_iff.mpr (mt mem_dot_of_isName hdot')]

/-! ## Order -/

theorem unitListLe_append (us vs ws : List Nat) : Text.unitListLe (us ++ vs) (us ++ ws) = Text.unitListLe vs ws := by
  induction us with
  | nil => rfl
  | cons u us ih =>
    rw [List.cons_append, List.cons_append, Text.unitListLe, if_neg (Nat.lt_irrefl u), if_neg (Nat.lt_irrefl u), ih]

/-- A common beginning does not matter to the order. -/
theorem sortByUnits_map_append (pre : String) (ts : List String) :
    Text.sortByUnits (ts.map (pre ++ ·)) = (Text.sortByUnits ts).map (pre ++ ·) := by
  refine (List.map_mergeSort fun a _ b _ => ?_).symm
  simp only [Text.unitsLe, Text.units, String.toList_append, List.flatMap_append, unitListLe_append]

theorem texts_readAll (fs : FileSystem) (ps : List String) :
    (Evidence.readAll fs ps).texts = ps.filterMap fun p => (fs.readText p).toOption := by
  simp only [Evidence.readAll]
  induction ps with
  | nil => rfl
  | cons p ps ih =>
    rw [List.filterMap_cons, List.filterMap_cons]
    cases hread : fs.readText p with
    | error e => simpa [Except.toOption] using ih
    | ok t => simpa [Except.toOption] using ih

theorem mem_files_readAll {fs : FileSystem} {ps : List String} {p t : String} (hp : p ∈ ps)
    (hread : fs.readText p = .ok t) : p ∈ (Evidence.readAll fs ps).files := by
  simp only [Evidence.readAll, List.mem_map, List.mem_filterMap]
  exact ⟨(p, t), ⟨p, hp, by rw [hread]⟩, rfl⟩

/-! ## Scans -/

section Scan

variable {d : Location}

theorem paths_withSlashes_join {names : List String} (h : ∀ m ∈ names, m = r.old ∨ r.Unnamed m) :
    r.Paths (Evidence.withSlashes (Text.join "/" names)) (Evidence.withSlashes (Text.join "/" (r.location names))) := by
  have hone : ∀ m, m = r.old ∨ r.Unnamed m → r.Paths (Evidence.withSlashes m) (Evidence.withSlashes (r.name m)) := by
    rintro m (rfl | hm)
    · have hpaths : r.Paths r.old (r.name r.old) := .last isName_old.noSlash
      rw [name_old] at hpaths ⊢
      rwa [Evidence.withSlashes_of_plain (notMem_old (by decide)),
        Evidence.withSlashes_of_plain (notMem_new (by decide))]
    · rw [name_of_keeps hm.keeps]
      exact hm.paths_withSlashes
  have hslash : Evidence.withSlashes "/" = "/" := by decide
  induction names with
  | nil => exact paths_empty
  | cons m names ih =>
    cases names with
    | nil => exact hone m (h m List.mem_cons_self)
    | cons k names =>
      have hrest := ih fun x hx => h x (List.mem_cons_of_mem _ hx)
      have happend := (hone m (h m List.mem_cons_self)).append hrest
      rw [← hslash, ← Evidence.withSlashes_append, ← Evidence.withSlashes_append, ← Evidence.withSlashes_append,
        ← Evidence.withSlashes_append] at happend
      exact happend

theorem withSlashes_text (d : Location) :
    Evidence.withSlashes d.text = "" ++ "/" ++ Evidence.withSlashes (Text.join "/" d) := by
  have hslash : Evidence.withSlashes "/" = "/" := by decide
  rw [Location.text, Evidence.withSlashes_append, hslash, String.empty_append]

/-- The directory that is scanned, with slashes for its backslashes. -/
theorem paths_withSlashes_text (h : ∀ m ∈ d, m = r.old ∨ r.Unnamed m) :
    r.Paths (Evidence.withSlashes d.text) (Evidence.withSlashes (r.location d).text) := by
  have hcons := Paths.cons (r := r) (n := "") (by simp) (paths_withSlashes_join h)
  rwa [name_empty, ← withSlashes_text, ← withSlashes_text] at hcons

/-- Whether an entry is an evidence file. -/
def isEvidence (fs : FileSystem) (d : Location) (n : String) : Bool :=
  Evidence.isName n && fs.isFile (Location.text (d ++ [n]))

/-- The names of the evidence files of a directory, with slashes for their backslashes. -/
def evidenceNames (fs : FileSystem) (d l : Location) : List String :=
  (((fs.children l).filter fun x => isEvidence fs d x.1).map (·.1)).map Evidence.withSlashes

theorem found_eq (hne : d ≠ []) (l : Location) :
    Evidence.found fs d (fs.children l) =
      (evidenceNames fs d l).map ((Evidence.withSlashes d.text ++ "/") ++ ·) := by
  have hslash : Evidence.withSlashes "/" = "/" := by decide
  simp only [Evidence.found, evidenceNames, isEvidence, List.map_map]
  refine List.map_congr_left fun x _ => ?_
  rw [Location.text_append_singleton hne, Evidence.withSlashes_append, Evidence.withSlashes_append, hslash]
  rfl

theorem readText_eq {p : String} {c : Bytes} (h : fs.readBytes p = .ok c) : fs.readText p = .ok (Utf8.decode c) := by
  rw [FileSystem.readText, h]
  rfl

/-- The files of a scan are those of the sorted names. -/
theorem scan_eq (hd : d.Proper) (hne : d ≠ []) {l : Location} (hfind : fs.find d.text = .ok (l, .directory))
    (hlisting : fs.faults.listing l = false) :
    Evidence.scan fs d.text = .ok (Evidence.readAll fs
      ((Text.sortByUnits (evidenceNames fs d l)).map ((Evidence.withSlashes d.text ++ "/") ++ ·))) := by
  rw [Evidence.scan_of_directory hd hfind hlisting, found_eq hne, sortByUnits_map_append]

/-- The names of evidence files that are silent about the directory. -/
theorem unnamed_of_mem_evidenceNames {l : Location} (hdir : fs.find d.text = .ok (l, .directory))
    (hsilent : r.Silent fs d.text) {k : String} (hk : k ∈ evidenceNames fs d l) :
    ∃ n, r.Unnamed n ∧ Evidence.withSlashes n = k := by
  obtain ⟨n, hn, rfl⟩ := List.mem_map.mp hk
  obtain ⟨x, hx, rfl⟩ := List.mem_map.mp hn
  obtain ⟨hchild, hevidence⟩ := List.mem_filter.mp hx
  exact ⟨x.1, hsilent.names l hdir x hchild ((Bool.and_eq_true _ _).mp hevidence).1, rfl⟩

/-- Both directories hold evidence files of the same names. -/
theorem Files.evidenceNames_eq (h : r.Files fs gs) (hd : d.Proper) (hne : d ≠ []) {l : Location}
    (hdir : fs.find d.text = .ok (l, .directory)) (hsilent : r.Silent fs d.text) :
    evidenceNames gs (r.location d) (r.location l) = evidenceNames fs d l := by
  have hne' : r.location d ≠ [] := fun h' => hne (List.map_eq_nil_iff.mp h')
  refine congrArg (List.map Evidence.withSlashes) (filter_names (h.children l) fun x hx => ?_)
  simp only [isEvidence, isName_name_eq]
  cases hname : Evidence.isName x.1 with
  | false => exact ⟨rfl, fun h' => by cases h'⟩
  | true =>
    have hunnamed := hsilent.names l hdir x hx hname
    have hpaths := (paths_text (r := r) hd).append hunnamed.paths
    rw [name_of_keeps hunnamed.keeps, Location.text_append_singleton hne, Location.text_append_singleton hne',
      h.isFile_eq hpaths]
    exact ⟨rfl, fun _ => rfl⟩

/-- The directory at a path, in both file systems. -/
theorem Files.find_directory (h : r.Files fs gs) (hd : d.Proper) {l : Location}
    (hfind : fs.find d.text = .ok (l, .directory)) :
    gs.find (r.location d).text = .ok (r.location l, .directory) := by
  rcases (h.find (paths_text hd)).cases with ⟨problem, hp, -⟩ | ⟨x, y, hp, hq, hy, he⟩
  · rw [hfind] at hp
    cases hp
  · rw [hfind] at hp
    obtain rfl := Except.ok.inj hp
    obtain ⟨m, f⟩ := y
    cases he
    rw [hq, ← show m = r.location l from hy]

/-- **Silent evidence reads the same** in both directories, unless neither may be listed. -/
theorem Files.scan (h : r.Files fs gs) (hd : d.Proper) (hne : d ≠ []) (hparts : ∀ m ∈ d, m = r.old ∨ r.Unnamed m)
    (hsilent : r.Silent fs d.text) :
    (∃ evidence evidence', Evidence.scan fs d.text = .ok evidence ∧
      Evidence.scan gs (r.location d).text = .ok evidence' ∧ evidence'.texts = evidence.texts) ∨
    Evidence.scan fs d.text = .error (.file ⟨.denied, .scandir, some d.text⟩) ∧
      Evidence.scan gs (r.location d).text = .error (.file ⟨.denied, .scandir, some (r.location d).text⟩) := by
  have hd' : (r.location d).Proper := by
    intro n hn
    obtain ⟨m, hm, rfl⟩ := List.mem_map.mp hn
    exact isName_name.mpr (hd m hm)
  have hne' : r.location d ≠ [] := fun h' => hne (List.map_eq_nil_iff.mp h')
  have hpaths : r.Paths d.text (r.location d).text := paths_text hd
  cases hdirectory : fs.isDirectory d.text with
  | false =>
    have hdirectory' : gs.isDirectory (r.location d).text = false := (h.isDirectory_eq hpaths).trans hdirectory
    exact .inl ⟨_, _, Evidence.scan_of_nothing hdirectory, Evidence.scan_of_nothing hdirectory', rfl⟩
  | true =>
    obtain ⟨l, hfind⟩ := FileSystem.isDirectory_eq_true_iff.mp hdirectory
    have hfind' := h.find_directory hd hfind
    have hfaults : gs.faults.listing (r.location l) = fs.faults.listing l := (h.faults l).2.2
    cases hlisting : fs.faults.listing l with
    | true =>
      have hrefused : fs.Unlistable d.text := ⟨l, hfind, hlisting⟩
      have hrefused' : gs.Unlistable (r.location d).text := ⟨_, hfind', hfaults.trans hlisting⟩
      exact .inr ⟨(Evidence.scan_eq_error_iff hd fs).mpr ⟨hrefused, rfl⟩,
        (Evidence.scan_eq_error_iff hd' gs).mpr ⟨hrefused', rfl⟩⟩
    | false =>
      have hscan := scan_eq hd hne hfind hlisting
      refine .inl ⟨_, _, hscan, scan_eq hd' hne' hfind' (hfaults.trans hlisting), ?_⟩
      rw [h.evidenceNames_eq hd hne hfind hsilent, texts_readAll, texts_readAll, List.filterMap_map, List.filterMap_map]
      -- the names are the same in the same order, so the files are read one by one
      refine List.filterMap_congr fun k hk => ?_
      obtain ⟨n, hn, rfl⟩ := unnamed_of_mem_evidenceNames hfind hsilent (List.mem_mergeSort.mp hk)
      have hfile := (paths_withSlashes_text hparts).append hn.paths_withSlashes
      rw [Function.comp_apply, Function.comp_apply]
      rcases h.readBytes_cases hfile with ⟨c, c', hc, hc', hcontents⟩ | ⟨e, f, he, hf⟩
      · have hread := readText_eq hc
        have hmem := mem_files_readAll (List.mem_map_of_mem (f := (Evidence.withSlashes d.text ++ "/" ++ ·)) hk) hread
        have hsame := hcontents.eq_of_silent (hsilent.contents _ hscan _ hmem c hc)
        rw [hread, readText_eq hc', hsame]
      · rw [FileSystem.readText, FileSystem.readText, he, hf]
        rfl

end Scan

end Renaming

end DataplaneVerdict
