import Mathlib.Data.List.Nodup
import DataplaneVerdict.CommandLine.Clean
import DataplaneVerdict.Proofs.DecidingRule
import DataplaneVerdict.Proofs.Growth
import DataplaneVerdict.Proofs.Removal
import DataplaneVerdict.Proofs.SharedRoot

/-!
# `Proofs.Cleanup` — which work directories a cleanup removes

A cleanup lists the root once and then goes through the list, removing while it goes. What carries the loop is that a
name joined to the root is looked up in the directory that was listed, whatever has been removed by then
(`Reaches.locate_join`, `Reaches.locate_resolved`). So one step does to a name what the files said about it in the
beginning (`cleanupOne_eq`), and the whole loop is a filter of the list (`cleanup_eq`).

## Contents
- **Entries of one directory.** `FileSystem.eraseAll` and what it leaves, `FileSystem.Cleared`.
- **The root.** `FileSystem.Reaches`: the root's text and its resolved text lead to one directory, whose names go on
  there.
- **The loop.** `WorkDir.stale`, `WorkDir.counted`, `WorkDir.taken`, one step and a whole run.
- **Results.** `WorkDir.cleanup_exact` if nothing fails, `WorkDir.cleanup_counts` whatever fails.
-/

namespace DataplaneVerdict

namespace FileSystem

variable {fs fs' fs₁ : FileSystem} {r : Location} {names more gone : List String} {n : String}

/-! ## Entries of one directory -/

theorem stamp_erase (fs : FileSystem) {l m : Location} (hm : m ≠ l.dropLast) (hout : ¬l <+: m) :
    (fs.erase l).stamp m = fs.stamp m := by
  have hkeeps : (!l.isPrefixOf m) = true := by
    rw [Bool.not_eq_true', Bool.eq_false_iff]
    exact fun h => hout <| List.isPrefixOf_iff_prefix.mp h
  have htouched : (fs.touchNow l.dropLast).stamps.lookup m = fs.stamps.lookup m := by
    rw [touchNow, lookup_filter_eq (fun k => k ≠ l.dropLast), if_pos (by simpa using hm)]
  unfold erase stamp
  dsimp only
  rw [lookup_filter_eq (fun k => !l.isPrefixOf k), if_pos hkeeps]
  cases fs.entry? l with
  | none => rfl
  | some e => exact congrArg (fun t => t.getD fs.present) htouched

theorem faults_erase (fs : FileSystem) (l : Location) : (fs.erase l).faults = fs.faults := by
  unfold erase
  cases fs.entry? l <;> rfl

theorem WellFormed.erase (h : fs.WellFormed) (l : Location) : (fs.erase l).WellFormed := by
  have hentries : (fs.erase l).entries = fs.entries.filter fun x => !l.isPrefixOf x.1 := by
    unfold FileSystem.erase
    cases fs.entry? l <;> rfl
  refine ⟨?_, ?_, ?_, by rw [cwd_erase]; exact h.here⟩
  · rw [hentries]
    exact h.single.sublist (List.filter_sublist.map _)
  · intro x hx
    rw [hentries] at hx
    exact h.named x (List.mem_filter.mp hx).1
  · intro x hx hne
    rw [hentries] at hx
    obtain ⟨hmem, hout⟩ := List.mem_filter.mp hx
    rw [get_erase, if_neg, h.housed x hmem hne]
    intro habove
    have hinside : l.isPrefixOf x.1 = true :=
      List.isPrefixOf_iff_prefix.mpr (habove.trans (List.dropLast_prefix x.1))
    rw [hinside] at hout
    cases hout

theorem WellFormed.get_of_mem (h : fs.WellFormed) {l : Location} {e : Entry} (hmem : (l, e) ∈ fs.entries) :
    fs.entry? l = some e := by
  obtain ⟨e', he'⟩ := get_of_mem_entries hmem
  obtain ⟨-, rfl⟩ := Prod.mk.inj (List.inj_on_of_nodup_map h.single hmem (mem_entries_of_get he') rfl)
  exact he'

/-- Takes away some entries of a directory, each with all below it. -/
def eraseAll (fs : FileSystem) (r : Location) (names : List String) : FileSystem :=
  names.foldl (fun fs n => fs.erase (r ++ [n])) fs

theorem eraseAll_nil (fs : FileSystem) (r : Location) : fs.eraseAll r [] = fs := rfl

/-- What is left when some entries of a directory have gone: everything else, with the time of its last change. Only the
    directory itself has changed. -/
structure Cleared (fs : FileSystem) (r : Location) (names : List String) (fs' : FileSystem) : Prop where
  gone : ∀ n ∈ names, ∀ m, r ++ [n] <+: m → fs'.entry? m = none
  kept : ∀ m, (∀ n ∈ names, ¬r ++ [n] <+: m) → fs'.entry? m = fs.entry? m
  times : ∀ m, m ≠ r → (∀ n ∈ names, ¬r ++ [n] <+: m) → fs'.stamp m = fs.stamp m
  cwd : fs'.cwd = fs.cwd
  faults : fs'.faults = fs.faults

/-- **One entry more.** -/
theorem Cleared.erase (h : fs.Cleared r names fs') (n : String) :
    fs.Cleared r (names ++ [n]) (fs'.erase (r ++ [n])) where
  gone := by
    intro n' hn' m hm
    rw [get_erase]
    split
    · rfl
    · rename_i hout
      rcases List.mem_append.mp hn' with hn' | hn'
      · exact h.gone n' hn' m hm
      · exact absurd (List.mem_singleton.mp hn' ▸ hm) hout
  kept := by
    intro m hm
    rw [get_erase, if_neg (hm n (by simp))]
    exact h.kept m fun n' hn' => hm n' (List.mem_append_left _ hn')
  times := by
    intro m hne hm
    rw [stamp_erase _ (by rwa [List.dropLast_concat]) (hm n (by simp))]
    exact h.times m hne fun n' hn' => hm n' (List.mem_append_left _ hn')
  cwd := (cwd_erase _ _).trans h.cwd
  faults := (faults_erase _ _).trans h.faults

theorem Cleared.eraseAll (h : fs.Cleared r names fs') (more : List String) :
    fs.Cleared r (names ++ more) (fs'.eraseAll r more) := by
  induction more generalizing names fs' with
  | nil => rwa [List.append_nil]
  | cons n more ih =>
    rw [List.append_cons]
    exact ih (h.erase n)

theorem cleared_eraseAll (fs : FileSystem) (r : Location) (names : List String) :
    fs.Cleared r names (fs.eraseAll r names) :=
  Cleared.eraseAll ⟨fun _ h => absurd h List.not_mem_nil, fun _ _ => rfl, fun _ _ _ => rfl, rfl, rfl⟩ names

theorem Cleared.isPart (h : fs.Cleared r names fs') (h₁ : fs.Cleared r more fs₁) (hsub : names ⊆ more) :
    fs₁.IsPart fs' := by
  intro m e hm
  have hout : ∀ n ∈ more, ¬r ++ [n] <+: m := by
    intro n hn hprefix
    rw [h₁.gone n hn m hprefix] at hm
    cases hm
  rw [h.kept m fun n hn => hout n (hsub hn), ← h₁.kept m hout, hm]

theorem WellFormed.eraseAll (h : fs.WellFormed) (r : Location) (names : List String) :
    (fs.eraseAll r names).WellFormed := by
  induction names generalizing fs with
  | nil => exact h
  | cons n names ih => exact ih (h.erase _)

theorem child_prefix_iff {n' : String} : r ++ [n] <+: r ++ [n'] ↔ n = n' := by
  rw [List.prefix_append_right_inj]
  simp

theorem Cleared.child (h : fs.Cleared r names fs') (hn : n ∉ names) :
    fs'.entry? (r ++ [n]) = fs.entry? (r ++ [n]) ∧ fs'.stamp (r ++ [n]) = fs.stamp (r ++ [n]) := by
  have hout : ∀ n' ∈ names, ¬r ++ [n'] <+: r ++ [n] := by
    intro n' hn' hprefix
    exact hn (child_prefix_iff.mp hprefix ▸ hn')
  exact ⟨h.kept _ hout, h.times _ (by simp) hout⟩

/-- Where fewer things stand, a path that led somewhere leads there or to nothing. -/
theorem find_of_fewer (hpart : fs'.IsPart fs) (hcwd : fs'.cwd = fs.cwd) {p : String} {l : Location} {e : Entry}
    (h : fs.find p = .ok (l, e)) : fs'.find p = .ok (l, e) ∨ fs'.find p = .error .missing := by
  have hat := find_eq_ok_iff.mp h
  have harrives := walk_of_fewer hpart (walk_of_locate hat)
  rw [← hcwd, ← locate_eq_walk hat] at harrives
  rcases harrives with hsame | hmissing | ⟨d, n, hfree⟩
  · exact .inl (find_eq_ok_iff.mpr hsame)
  · exact .inr (by rw [find, hmissing])
  · exact .inr (by rw [find, hfree])

/-! ## The root -/

/-- A root leads to the directory `r`, which may be listed: by its own text, and by its resolved text even when the
names `gone` are no longer there. A relative root is walked from a working directory that is not among them. -/
structure Reaches (fs : FileSystem) (root : String) (r : Location) (gone : List String) : Prop where
  listed : fs.find root = .ok (r, .directory)
  listable : fs.faults.listing r = false
  resolved : (fs.eraseAll r gone).find (Path.resolve fs.cwd root).text = .ok (r, .directory)
  standing : Path.isAbsolute root = false → FileSystem.entry? (fs.eraseAll r gone) fs.cwd = some .directory

/-- What keeps a path from leading to the name at its end, whatever stands there. -/
def obstacle (p n : String) : Option FileProblem :=
  if p.toList.contains '\x00' then some .zeroByte
  else if longestPath < p.utf8ByteSize ∨ longestName < n.utf8ByteSize then some .nameTooLong
  else none

theorem obstacle_cases (p n : String) :
    obstacle p n = none ∨ obstacle p n = some .zeroByte ∨ obstacle p n = some .nameTooLong := by
  unfold obstacle
  split
  · exact .inr (.inl rfl)
  split
  · exact .inr (.inr rfl)
  · exact .inl rfl

theorem locate_child {reach : Reach} {p : String} {k : Nat} (hp : p ≠ "") (hn : Path.IsName n)
    (hwalk : walk fs reach (mostLinks + 1) (if Path.isAbsolute p then [] else fs.cwd) (Way.ofPath p) =
      walkNames fs reach false (walk fs reach k) r [n])
    (hdir : fs.entry? r = some .directory) (hentry : fs.entry? (r ++ [n]) = some .directory) :
    fs.locate reach p = (obstacle p n).elim (.ok (.at (r ++ [n]) .directory)) .error := by
  have hempty : ¬p.isEmpty = true := mt String.isEmpty_iff.mp hp
  rw [locate, obstacle, if_neg hempty]
  split
  · rfl
  split
  · rename_i hlong
    rw [if_pos (.inl hlong)]
    rfl
  rename_i hlong
  rw [hwalk]
  by_cases hname : longestName < n.utf8ByteSize
  · rw [if_pos (.inr hname), walkNames, hdir]
    dsimp only
    rw [if_neg hn.notDot, if_neg hn.notDots, if_pos hname]
    rfl
  · have hlooks : LooksUp reach false n [] := .of_plain ⟨hn.notDot, hn.notDots, hname⟩ [] (.inl rfl)
    rw [if_neg (not_or.mpr ⟨hlong, hname⟩), walkNames_of_entry hdir hlooks hentry (by simp), walkNames, hentry]
    rfl

theorem Reaches.mono {root : String} (h : fs.Reaches root r gone) (hsub : names ⊆ gone) : fs.Reaches root r names := by
  have hpart := (cleared_eraseAll fs r names).isPart (cleared_eraseAll fs r gone) hsub
  exact ⟨h.listed, h.listable, find_text_of_isPart hpart h.resolved, fun ha => hpart _ _ (h.standing ha)⟩

theorem Reaches.directory {root : String} (h : fs.Reaches root r gone) (hsub : names ⊆ gone) :
    FileSystem.entry? (fs.eraseAll r names) r = some .directory :=
  holds_of_walk (walk_of_locate (find_eq_ok_iff.mp (h.mono hsub).resolved))

section Reaches

variable {root : String} (hfs : fs.WellFormed) (h : fs.Reaches root r gone) (hsub : names ⊆ gone)
include hfs h hsub

/-- **By its resolved text** a name joined to the root is looked up in `r`, -/
theorem Reaches.walk_resolved (hn : Path.IsName n) (reach : Reach) :
    ∃ k, walk (fs.eraseAll r names) reach (mostLinks + 1) []
      (Way.ofPath (Location.text (Path.resolve fs.cwd root ++ [n]))) =
      walkNames (fs.eraseAll r names) reach false (walk (fs.eraseAll r names) reach k) r [n] := by
  have hproper := Path.resolve_proper hfs.here root
  have hproper' : Location.Proper (Path.resolve fs.cwd root ++ [n]) := by
    intro m hm
    rcases List.mem_append.mp hm with hm | hm
    · exact hproper m hm
    · exact List.mem_singleton.mp hm ▸ hn
  have hwalk := walk_of_locate (find_eq_ok_iff.mp (h.mono hsub).resolved)
  rw [Location.isAbsolute_text, if_pos rfl] at hwalk
  obtain ⟨k, honward⟩ := walk_onward reach false (fun _ _ h => h) (List.cons_ne_nil n []) hwalk
  rw [names_ofPath_text hproper] at honward
  rw [ofPath_text hproper']
  exact ⟨k, honward⟩

/-- and so it is by the text that it has. -/
theorem Reaches.walk_join (hn : Path.IsName n) (reach : Reach) :
    ∃ k, walk (fs.eraseAll r names) reach (mostLinks + 1)
        (if Path.isAbsolute (Path.join root n) then [] else (fs.eraseAll r names).cwd) (Way.ofPath (Path.join root n)) =
      walkNames (fs.eraseAll r names) reach false (walk (fs.eraseAll r names) reach k) r [n] := by
  cases ha : Path.isAbsolute root with
  | true =>
    have hresolve : Path.resolve fs.cwd root = Path.normalSegments false (Path.segments root) := by
      rw [Path.resolve, ha, if_pos rfl]
    obtain ⟨-, hjoin⟩ := Path.join_absolute_name ha hresolve.symm hn
    rw [hjoin, Location.isAbsolute_text, if_pos rfl]
    exact h.walk_resolved hfs hsub hn reach
  | false =>
    obtain ⟨k, below, hbelow, hresolve, hjoin⟩ := Path.join_relative_name ha
    obtain ⟨hway, hrelative⟩ := Path.ofPath_join (Path.says_of_mem_up (k := k) hbelow) hn
    have htree := (hfs.eraseAll r names).isTree
    have hcwd : (fs.eraseAll r names).cwd = fs.cwd := (cleared_eraseAll fs r names).cwd
    have hhere := (h.mono hsub).standing ha
    have habove : FileSystem.entry? (fs.eraseAll r names) (fs.cwd.take (fs.cwd.length - k)) = some .directory := by
      rw [← List.take_append_drop (fs.cwd.length - k) fs.cwd] at hhere
      exact htree.directory_above hhere
    -- the resolved text comes through the directory that the steps up lead to, and goes on from there as the other
    -- one does
    have hwalk := walk_of_locate (find_eq_ok_iff.mp (h.mono hsub).resolved)
    rw [Location.isAbsolute_text, if_pos rfl] at hwalk
    have hwalked := walked_of_walkNames hwalk
    rw [names_ofPath_text (Path.resolve_proper hfs.here root), hresolve fs.cwd hfs.here] at hwalked
    have hbehind := hwalked.descend htree (fun m hm => hfs.here m (List.mem_of_mem_take hm)) habove
    obtain ⟨k', honward⟩ := hbehind.onward (fun _ _ h => h) (List.cons_ne_nil n [])
      (fun _ _ => walk_onward reach false (fun _ _ h => h) (List.cons_ne_nil n []))
    refine ⟨k', ?_⟩
    rw [hjoin n hn, hrelative, if_neg Bool.false_ne_true, hway, hcwd, walk, List.append_assoc, walkNames_up htree hhere]
    exact honward

variable (hn : Path.IsName n) (hfree : n ∉ names) (hentry : fs.entry? (r ++ [n]) = some .directory)
include hn hfree hentry

theorem Reaches.locate_join (reach : Reach) : (fs.eraseAll r names).locate reach (Path.join root n) =
    (obstacle (Path.join root n) n).elim (.ok (.at (r ++ [n]) .directory)) .error := by
  obtain ⟨k, hwalk⟩ := h.walk_join hfs hsub hn reach
  exact locate_child (Path.join_ne_empty root n) hn hwalk (h.directory hsub)
    (((cleared_eraseAll fs r names).child hfree).1.trans hentry)

theorem Reaches.locate_resolved (reach : Reach) :
    (fs.eraseAll r names).locate reach (Location.text (Path.resolve fs.cwd root ++ [n])) =
      (obstacle (Location.text (Path.resolve fs.cwd root ++ [n])) n).elim (.ok (.at (r ++ [n]) .directory)) .error := by
  obtain ⟨k, hwalk⟩ := h.walk_resolved hfs hsub hn reach
  exact locate_child (Location.text_ne_empty _) hn (by rw [Location.isAbsolute_text, if_pos rfl, hwalk])
    (h.directory hsub) (((cleared_eraseAll fs r names).child hfree).1.trans hentry)

end Reaches

end FileSystem

namespace WorkDir

open FileSystem

/-! ## The loop -/

section Names

variable (fs : FileSystem) (root : String) (r : Location) (maxAge now : Number)

/-- The names of the work directories in a directory. -/
def members : List String := ((fs.children r).filter (isMember series)).map (·.1)

/-- Whether a name in a directory was last changed longer ago than allowed. -/
def isOld (n : String) : Bool := Number.lt maxAge (Number.sub now (fs.stamp (r ++ [n])))

/-- Whether its age can also be read, -/
def isCounted (n : String) : Bool := isOld fs r maxAge now n && (changedAt fs (Path.join root n)).isOk

/-- and it can be removed. -/
def isTaken (n : String) : Bool :=
  isCounted fs root r maxAge now n && (fs.removeAll (Path.resolve fs.cwd (Path.join root n)).text).isOk

def stale : List String := (members fs r).filter (isOld fs r maxAge now)

def counted : List String := (members fs r).filter (isCounted fs root r maxAge now)

def taken : List String := (members fs r).filter (isTaken fs root r maxAge now)

/-- The names that are counted although they cannot be removed. -/
def failed : List String := (counted fs root r maxAge now).filter fun n =>
  !(fs.removeAll (Path.resolve fs.cwd (Path.join root n)).text).isOk

end Names

variable {fs fs' : FileSystem} {root : String} {r : Location} {maxAge maxAge' now : Number} {names : List String}
  {n : String}

theorem mem_members (hfs : fs.WellFormed) :
    n ∈ members fs r ↔ fs.entry? (r ++ [n]) = some .directory ∧ Text.startsWith n (series ++ "-") = true := by
  simp only [members, List.mem_map, List.mem_filter, isMember, Bool.and_eq_true, Prod.exists]
  constructor
  · rintro ⟨_, e, ⟨hchild, hdir, hseries⟩, rfl⟩
    cases e with
    | directory => exact ⟨hfs.get_of_mem (mem_children_iff.mp hchild), hseries⟩
    | _ => cases hdir
  · rintro ⟨hentry, hseries⟩
    exact ⟨n, .directory, ⟨mem_children_iff.mpr (mem_entries_of_get hentry), rfl, hseries⟩, rfl⟩

theorem nodup_members (hfs : fs.WellFormed) (r : Location) : (members fs r).Nodup :=
  List.pairwise_map.mpr ((nodup_children hfs.single r).filter _)

theorem isName_of_mem (hfs : fs.WellFormed) (hn : n ∈ members fs r) : Path.IsName n := by
  obtain ⟨hentry, hseries⟩ := (mem_members hfs).mp hn
  exact isName_of_startsWith hseries (hfs.named _ (mem_entries_of_get hentry) n (by simp)).noSlash

theorem list_eq (h : fs.find root = .ok (r, .directory)) (hlistable : fs.faults.listing r = false) :
    list fs root series = .ok ((members fs r).map (Path.join root)) := by
  have hread : fs.readDirectory root = .ok (fs.children r) := by
    rw [readDirectory_of_find h, hlistable, if_neg Bool.false_ne_true]
  rw [list, hread, members, List.map_map]
  rfl

section Step

variable (hfs : fs.WellFormed) (h : fs.Reaches root r (taken fs root r maxAge now))
  (hsub : names ⊆ taken fs root r maxAge now) (hn : n ∈ members fs r) (hfree : n ∉ names)
include hfs h hsub hn hfree

/-- The age of a name is what it was, whatever has been removed. -/
theorem changedAt_eq : changedAt (fs.eraseAll r names) (Path.join root n) =
    (obstacle (Path.join root n) n).elim
      (if fs.faults.stat (r ++ [n]) then .error .inputOutput else .ok (fs.stamp (r ++ [n]))) .error := by
  have hcleared := cleared_eraseAll fs r names
  rw [changedAt, find, h.locate_join hfs hsub (isName_of_mem hfs hn) hfree ((mem_members hfs).mp hn).1]
  cases obstacle (Path.join root n) n with
  | some problem => rfl
  | none =>
    dsimp only [Option.elim]
    rw [hcleared.faults, (hcleared.child hfree).2]

/-- And so is whether it can be removed. -/
theorem removeAll_eq {t : String} (ht : t = Location.text (Path.resolve fs.cwd root ++ [n])) :
    (fs.eraseAll r names).removeAll t =
      (obstacle t n).elim (if fs.faults.removal (r ++ [n]) then .error ⟨.notPermitted, .rm, some t⟩
        else .ok (fs.eraseAll r (names ++ [n]))) fun problem => .error ⟨problem, .rm, some t⟩ := by
  have hmore : fs.eraseAll r (names ++ [n]) = (fs.eraseAll r names).erase (r ++ [n]) := by
    rw [eraseAll, List.foldl_append]
    rfl
  rw [removeAll, ht, h.locate_resolved hfs hsub (isName_of_mem hfs hn) hfree ((mem_members hfs).mp hn).1, hmore]
  obtain hnone | hzero | hlong := obstacle_cases (Location.text (Path.resolve fs.cwd root ++ [n])) n
  · rw [hnone]
    dsimp only [Option.elim]
    rw [(cleared_eraseAll fs r names).faults]
  · rw [hzero]
    rfl
  · rw [hlong]
    rfl

/-- **One step** does to a name what the files said about it in the beginning. -/
theorem cleanupOne_eq (hroot : Path.resolve fs.cwd root ≠ []) (k : Nat) :
    cleanupOne root maxAge now (k, fs.eraseAll r names) (Path.join root n) =
      (if isCounted fs root r maxAge now n then k + 1 else k,
        fs.eraseAll r (if isTaken fs root r maxAge now n then names ++ [n] else names)) := by
  have hname := isName_of_mem hfs hn
  have hread := changedAt_eq hfs h (List.nil_subset _) hn List.not_mem_nil
  have hremoved := removeAll_eq hfs h (List.nil_subset _) hn List.not_mem_nil rfl
  rw [eraseAll_nil] at hread hremoved
  have hremove : remove (fs.eraseAll r names) root (Path.join root n) =
      .ok (fs.eraseAll r
        (if (fs.removeAll (Path.resolve fs.cwd (Path.join root n)).text).isOk then names ++ [n] else names)) := by
    rw [remove, (cleared_eraseAll fs r names).cwd, Path.resolve_join (fun _ => hfs.here) hname, isBelow_child hname,
      decide_eq_true hroot, if_pos rfl, removeAll_eq hfs h hsub hn hfree rfl, hremoved]
    cases obstacle (Location.text (Path.resolve fs.cwd root ++ [n])) n with
    | some problem => rfl
    | none => cases fs.faults.removal (r ++ [n]) <;> rfl
  rw [cleanupOne, changedAt_eq hfs h hsub hn hfree, isTaken, isCounted, hread]
  generalize (fs.removeAll (Path.resolve fs.cwd (Path.join root n)).text).isOk = goes at hremove ⊢
  cases obstacle (Path.join root n) n with
  | some problem => cases isOld fs r maxAge now n <;> rfl
  | none =>
    cases fs.faults.stat (r ++ [n]) with
    | true => cases isOld fs r maxAge now n <;> rfl
    | false =>
      dsimp only [Option.elim]
      rw [hremove]
      rw [if_neg Bool.false_ne_true, isOld]
      dsimp only
      cases Number.lt maxAge (Number.sub now (fs.stamp (r ++ [n]))) with
      | true => cases goes <;> rfl
      | false => rfl

end Step

/-- **A whole run** of the loop, on names that are still there. -/
theorem foldl_cleanupOne (hfs : fs.WellFormed) (h : fs.Reaches root r (taken fs root r maxAge now))
    (hroot : Path.resolve fs.cwd root ≠ []) {pending : List String} (hpending : ∀ n ∈ pending, n ∈ members fs r)
    (hnodup : pending.Nodup) (hsub : names ⊆ taken fs root r maxAge now) (hfree : ∀ n ∈ pending, n ∉ names) (k : Nat) :
    pending.foldl (fun state n => cleanupOne root maxAge now state (Path.join root n)) (k, fs.eraseAll r names) =
      (k + (pending.filter (isCounted fs root r maxAge now)).length,
        fs.eraseAll r (names ++ pending.filter (isTaken fs root r maxAge now))) := by
  induction pending generalizing k names with
  | nil => simp
  | cons n pending ih =>
    obtain ⟨hnew, hnodup⟩ := List.nodup_cons.mp hnodup
    have hn := hpending n List.mem_cons_self
    have hpending' : ∀ m ∈ pending, m ∈ members fs r := fun m hm => hpending m (List.mem_cons_of_mem _ hm)
    have hfree' : ∀ m ∈ pending, m ∉ names := fun m hm => hfree m (List.mem_cons_of_mem _ hm)
    rw [List.foldl_cons, cleanupOne_eq hfs h hsub hn (hfree n List.mem_cons_self) hroot]
    cases htaken : isTaken fs root r maxAge now n with
    | true =>
      have hcounted := ((Bool.and_eq_true _ _).mp htaken).1
      have hsub' : names ++ [n] ⊆ taken fs root r maxAge now :=
        List.append_subset.mpr ⟨hsub, by simp [taken, hn, htaken]⟩
      have hfree'' : ∀ m ∈ pending, m ∉ names ++ [n] := by
        intro m hm hmem
        rcases List.mem_append.mp hmem with hmem | hmem
        · exact hfree' m hm hmem
        · exact hnew (List.mem_singleton.mp hmem ▸ hm)
      rw [if_pos hcounted, if_pos rfl, ih hpending' hnodup hsub' hfree'']
      simp [hcounted, htaken]
      omega
    | false =>
      rw [if_neg Bool.false_ne_true, ih hpending' hnodup hsub hfree']
      cases hcounted : isCounted fs root r maxAge now n <;> simp [hcounted, htaken]
      omega

/-- **A cleanup** counts the old directories whose age can be read, and takes away those of them that can be removed. -/
theorem cleanup_eq (hfs : fs.WellFormed) (hroot : Path.resolve fs.cwd root ≠ [])
    (h : fs.Reaches root r (taken fs root r maxAge now)) :
    cleanup fs root maxAge now =
      .ok ((counted fs root r maxAge now).length, fs.eraseAll r (taken fs root r maxAge now)) := by
  rw [cleanup, list_eq h.listed h.listable]
  dsimp only
  rw [List.foldl_map]
  have hrun := foldl_cleanupOne hfs h hroot (fun _ h => h) (nodup_members hfs r) (List.nil_subset _)
    (fun _ _ => List.not_mem_nil) 0
  rw [Nat.zero_add, List.nil_append] at hrun
  exact congrArg Except.ok hrun

/-! ## Results -/

theorem mem_stale (hfs : fs.WellFormed) :
    n ∈ stale fs r maxAge now ↔ fs.entry? (r ++ [n]) = some .directory ∧ Text.startsWith n (series ++ "-") = true ∧
      Number.lt maxAge (Number.sub now (fs.stamp (r ++ [n]))) = true := by
  rw [stale, List.mem_filter, mem_members hfs, and_assoc, isOld]

theorem nodup_stale (hfs : fs.WellFormed) (r : Location) (maxAge now : Number) : (stale fs r maxAge now).Nodup :=
  (nodup_members hfs r).filter _

/-- Where every age can be read and every old directory be removed, all of them are counted and taken. -/
theorem taken_eq_stale (hworks : ∀ n ∈ stale fs r maxAge now, (changedAt fs (Path.join root n)).isOk = true ∧
      (fs.removeAll (Path.resolve fs.cwd (Path.join root n)).text).isOk = true) :
    counted fs root r maxAge now = stale fs r maxAge now ∧ taken fs root r maxAge now = stale fs r maxAge now := by
  have hboth : ∀ n ∈ members fs r, isCounted fs root r maxAge now n = isOld fs r maxAge now n ∧
      isTaken fs root r maxAge now n = isOld fs r maxAge now n := by
    intro n hn
    rw [isTaken, isCounted]
    cases hold : isOld fs r maxAge now n with
    | false => exact ⟨rfl, rfl⟩
    | true =>
      obtain ⟨hage, hgoes⟩ := hworks n (List.mem_filter.mpr ⟨hn, hold⟩)
      rw [hage, hgoes]
      exact ⟨rfl, rfl⟩
  exact ⟨List.filter_congr fun n hn => (hboth n hn).1, List.filter_congr fun n hn => (hboth n hn).2⟩

theorem cleanup_of_works (hfs : fs.WellFormed) (hroot : Path.resolve fs.cwd root ≠ [])
    (h : fs.Reaches root r (stale fs r maxAge now))
    (hworks : ∀ n ∈ stale fs r maxAge now, (changedAt fs (Path.join root n)).isOk = true ∧
      (fs.removeAll (Path.resolve fs.cwd (Path.join root n)).text).isOk = true) :
    cleanup fs root maxAge now = .ok ((stale fs r maxAge now).length, fs.eraseAll r (stale fs r maxAge now)) := by
  obtain ⟨hcounted, htaken⟩ := taken_eq_stale hworks
  have hrun := cleanup_eq hfs hroot (htaken.symm ▸ h)
  rwa [hcounted, htaken] at hrun

/-- A root that cannot be listed. -/
theorem cleanup_of_unlisted {e : FileError} (h : fs.readDirectory root = .error e) :
    cleanup fs root maxAge now = if e.problem = .missing then .ok (0, fs) else .error (.file e) := by
  rw [cleanup, list, h]
  dsimp only
  by_cases hmissing : e.problem = .missing
  · rw [if_pos hmissing, if_pos hmissing]
    rfl
  · rw [if_neg hmissing, if_neg hmissing]

/-- With a greater age allowed, less is stale. -/
theorem stale_subset (hle : Number.le maxAge maxAge' = true) : stale fs r maxAge' now ⊆ stale fs r maxAge now := by
  intro n hn
  obtain ⟨hmem, hold⟩ := List.mem_filter.mp hn
  exact List.mem_filter.mpr ⟨hmem, Number.lt_of_le_of_lt hle hold⟩

/-- **Once more**: after a cleanup nothing is stale, in whatever order the root is listed now. -/
theorem cleanup_again (hfs : fs.WellFormed) (hroot : Path.resolve fs.cwd root ≠ [])
    (h : fs.Reaches root r (stale fs r maxAge now)) (hcleared : fs.Cleared r (stale fs r maxAge now) fs')
    (hfs' : fs'.WellFormed) : cleanup fs' root maxAge now = .ok (0, fs') := by
  have hpart : fs'.IsPart fs := Cleared.isPart (cleared_eraseAll fs r []) hcleared (List.nil_subset _)
  obtain hlisted | hmissing := find_of_fewer hpart hcleared.cwd h.listed
  · have hstale : stale fs' r maxAge now = [] := by
      refine List.eq_nil_iff_forall_not_mem.mpr fun n hn => ?_
      obtain ⟨hentry, hseries, hold⟩ := (mem_stale hfs').mp hn
      -- a directory that is still there was none of those that were taken away, so its time is what it was
      have hkept : n ∉ stale fs r maxAge now := by
        intro hgone
        rw [hcleared.gone n hgone _ List.prefix_rfl] at hentry
        cases hentry
      rw [(hcleared.child hkept).1] at hentry
      rw [(hcleared.child hkept).2] at hold
      exact hkept ((mem_stale hfs).mpr ⟨hentry, hseries, hold⟩)
    have hsame : FileSystem.IsPart (fs.eraseAll r (stale fs r maxAge now)) fs' :=
      Cleared.isPart hcleared (cleared_eraseAll fs r _) (fun _ h => h)
    have hreaches : fs'.Reaches root r (stale fs' r maxAge now) := by
      rw [hstale]
      refine ⟨hlisted, hcleared.faults.symm ▸ h.listable, ?_, fun ha => ?_⟩
      · rw [eraseAll_nil, hcleared.cwd]
        exact find_text_of_isPart hsame h.resolved
      · rw [eraseAll_nil, hcleared.cwd]
        exact hsame _ _ (h.standing ha)
    have hrun := cleanup_of_works hfs' (by rwa [hcleared.cwd]) hreaches (by simp [hstale])
    rwa [hstale] at hrun
  · have hread : fs'.readDirectory root = .error ⟨.missing, .scandir, some root⟩ := by rw [readDirectory, hmissing]
    rw [cleanup_of_unlisted hread]
    rfl

/-- **What a cleanup removes** if nothing fails. -/
theorem cleanup_exact (hfs : fs.WellFormed) (root : String) (hroot : Path.resolve fs.cwd root ≠ [])
    (maxAge now : Number) :
    -- without a root nothing is removed, and a root that cannot be listed is an error
    (∀ e, fs.readDirectory root = .error e →
      cleanup fs root maxAge now = if e.problem = .missing then .ok (0, fs) else .error (.file e)) ∧
    ∀ r, fs.Reaches root r (stale fs r maxAge now) →
      (∀ n ∈ stale fs r maxAge now, (changedAt fs (Path.join root n)).isOk = true ∧
        (fs.removeAll (Path.resolve fs.cwd (Path.join root n)).text).isOk = true) →
      -- what is stale goes with all below it, and nothing else
      (∀ n, n ∈ stale fs r maxAge now ↔ fs.entry? (r ++ [n]) = some .directory ∧
        Text.startsWith n (series ++ "-") = true ∧ Number.lt maxAge (Number.sub now (fs.stamp (r ++ [n]))) = true) ∧
      (stale fs r maxAge now).Nodup ∧
      ∃ fs', cleanup fs root maxAge now = .ok ((stale fs r maxAge now).length, fs') ∧
        fs'.WellFormed ∧ fs.Cleared r (stale fs r maxAge now) fs' ∧
        -- a second call finds nothing, in whatever order the files are listed then
        (∀ fs₂ : FileSystem, fs₂.WellFormed → fs.Cleared r (stale fs r maxAge now) fs₂ →
          cleanup fs₂ root maxAge now = .ok (0, fs₂)) ∧
        -- with a greater age allowed, whatever is left here is left as well
        ∀ maxAge', Number.le maxAge maxAge' = true → ∃ k fs₁, cleanup fs root maxAge' now = .ok (k, fs₁) ∧
          k ≤ (stale fs r maxAge now).length ∧ fs'.IsPart fs₁ ∧ fs₁.IsPart fs := by
  refine ⟨fun e => cleanup_of_unlisted, fun r h hworks => ⟨fun n => mem_stale hfs, nodup_stale hfs r maxAge now, ?_⟩⟩
  have hcleared := cleared_eraseAll fs r (stale fs r maxAge now)
  refine ⟨_, cleanup_of_works hfs hroot h hworks, hfs.eraseAll r _, hcleared, ?_, ?_⟩
  · intro fs₂ hfs₂ hcleared₂
    exact cleanup_again hfs hroot h hcleared₂ hfs₂
  · intro maxAge' hle
    have hsub : stale fs r maxAge' now ⊆ stale fs r maxAge now := stale_subset hle
    have hcleared' := cleared_eraseAll fs r (stale fs r maxAge' now)
    have hfewer : (stale fs r maxAge' now).length ≤ (stale fs r maxAge now).length := by
      rw [stale, stale, ← List.countP_eq_length_filter, ← List.countP_eq_length_filter]
      exact List.countP_mono_left fun n _ hold => Number.lt_of_le_of_lt hle hold
    exact ⟨_, _, cleanup_of_works hfs hroot (h.mono hsub) fun n hn => hworks n (hsub hn), hfewer,
      hcleared'.isPart hcleared hsub, (cleared_eraseAll fs r []).isPart hcleared' (List.nil_subset _)⟩

/-- Through a relative root that is in no normal form, the old directory goes and the new one and the link stay. -/
theorem yard_cleaned : yard.WellFormed ∧ ∃ fs', cleanup yard "work/../work/" 3000 6000 = .ok (1, fs') ∧
    fs'.entry? ["work", "p4verdict-old", "log"] = none ∧ fs'.entry? ["work", "p4verdict-new"] = some .directory ∧
    fs'.entry? ["work", "p4verdict-out"] = some (.link "..") ∧
    cleanup fs' "work/../work/" 3000 6000 = .ok (0, fs') := by
  have hstale : stale yard ["work"] 3000 6000 = ["p4verdict-old"] := by decide +kernel
  have hreaches : yard.Reaches "work/../work/" ["work"] (stale yard ["work"] 3000 6000) := by
    rw [hstale]
    exact ⟨eq_ok_of_toOption (by decide +kernel), rfl, eq_ok_of_toOption (by decide +kernel),
      fun _ => by decide⟩
  have hworks : ∀ n ∈ stale yard ["work"] 3000 6000, (changedAt yard (Path.join "work/../work/" n)).isOk = true ∧
      (yard.removeAll (Path.resolve yard.cwd (Path.join "work/../work/" n)).text).isOk = true := by
    rw [hstale]
    decide
  obtain ⟨-, hrun⟩ := cleanup_exact yard_wellFormed "work/../work/" (by decide) 3000 6000
  obtain ⟨-, -, fs', hok, hfs', hcleared, hagain, -⟩ := hrun ["work"] hreaches hworks
  have hsecond := hagain fs' hfs' hcleared
  rw [hstale] at hok hcleared
  refine ⟨yard_wellFormed, fs', hok, ?_, ?_, ?_, hsecond⟩
  · exact hcleared.gone "p4verdict-old" List.mem_cons_self _ (by decide)
  · exact hcleared.kept _ (by decide)
  · exact hcleared.kept _ (by decide)

/-- Two directories with one name, and a link to a directory beside the one. -/
def crossed : FileSystem where
  entries := [([], .directory), (["a"], .directory), (["a", "b"], .directory), (["a", "work"], .directory),
    (["a", "work", "p4verdict-x"], .directory), (["l"], .link "a/b"), (["work"], .directory),
    (["work", "p4verdict-x"], .file [])]

/-- **A root with a step up behind a link** is listed where the link leads, but its entries are removed where its text
says: a file is removed, and the directory that was found stale stays. -/
theorem removed_elsewhere : ∃ fs', cleanup crossed "/l/../work" 0 1000 = .ok (1, fs') ∧
    crossed.find "/l/../work" = .ok (["a", "work"], .directory) ∧
    fs'.entry? ["a", "work", "p4verdict-x"] = some .directory ∧
    crossed.entry? ["work", "p4verdict-x"] = some (.file []) ∧ fs'.entry? ["work", "p4verdict-x"] = none := by
  have hseen : (cleanup crossed "/l/../work" 0 1000).toOption.map (fun x =>
      (x.1, FileSystem.entry? x.2 ["a", "work", "p4verdict-x"], FileSystem.entry? x.2 ["work", "p4verdict-x"])) =
        some (1, some .directory, none) := by decide
  obtain ⟨⟨k, fs'⟩, hok, hx⟩ := Option.map_eq_some_iff.mp hseen
  obtain ⟨rfl, hx⟩ := Prod.mk.inj hx
  obtain ⟨hstays, hgone⟩ := Prod.mk.inj hx
  exact ⟨fs', eq_ok_of_toOption hok, eq_ok_of_toOption (by decide), hstays, rfl, hgone⟩

theorem mem_taken : n ∈ taken fs root r maxAge now ↔ n ∈ stale fs r maxAge now ∧
    (changedAt fs (Path.join root n)).isOk = true ∧
    (fs.removeAll (Path.resolve fs.cwd (Path.join root n)).text).isOk = true := by
  simp only [taken, stale, List.mem_filter, isTaken, isCounted, Bool.and_eq_true, and_assoc]

theorem mem_failed : n ∈ failed fs root r maxAge now ↔ n ∈ stale fs r maxAge now ∧
    (changedAt fs (Path.join root n)).isOk = true ∧
    (fs.removeAll (Path.resolve fs.cwd (Path.join root n)).text).isOk = false := by
  simp only [failed, counted, stale, List.mem_filter, isCounted, Bool.and_eq_true, Bool.not_eq_true', and_assoc]

theorem length_counted : (counted fs root r maxAge now).length =
    (taken fs root r maxAge now).length + (failed fs root r maxAge now).length := by
  have htaken : taken fs root r maxAge now = (counted fs root r maxAge now).filter fun n =>
      (fs.removeAll (Path.resolve fs.cwd (Path.join root n)).text).isOk := by
    rw [taken, counted, List.filter_filter]
    exact List.filter_congr fun n _ => by rw [isTaken, Bool.and_comm]
  rw [htaken]
  exact List.length_eq_length_filter_add _

/-- Nothing is below the root of the tree, so every removal is refused there. -/
theorem cleanup_of_top (hfs : fs.WellFormed) (hroot : Path.resolve fs.cwd root = []) {paths : List String}
    (hlist : list fs root series = .ok paths) : cleanup fs root maxAge now = .ok (0, fs) := by
  have hstep : ∀ p, cleanupOne root maxAge now (0, fs) p = (0, fs) := by
    intro p
    have hbelow := isBelow_iff (Path.resolve_proper hfs.here root) (Path.resolve_proper hfs.here p)
    have hrefused : remove fs root p = .error (.refusedRemoval p) := by
      rw [remove, if_neg fun h => (hbelow.mp h).1 hroot]
    rw [cleanupOne, hrefused]
    cases changedAt fs p with
    | error _ => rfl
    | ok t => exact ite_self _
  rw [cleanup, hlist]
  dsimp only
  congr 1
  clear hlist
  induction paths with
  | nil => rfl
  | cons p paths ih => rw [List.foldl_cons, hstep, ih]

/-- **What a cleanup counts**, whatever fails: besides the directories that have gone, those whose removal failed. Of
    these nothing is gone here, where a real host may have removed a part of what they hold. -/
theorem cleanup_counts (hfs : fs.WellFormed) (root : String) (maxAge now : Number) :
    (∀ e, fs.readDirectory root = .error e →
      cleanup fs root maxAge now = if e.problem = .missing then .ok (0, fs) else .error (.file e)) ∧
    (∀ paths, list fs root series = .ok paths → Path.resolve fs.cwd root = [] →
      cleanup fs root maxAge now = .ok (0, fs)) ∧
    ∀ r, Path.resolve fs.cwd root ≠ [] → fs.Reaches root r (taken fs root r maxAge now) →
    ∃ k fs', cleanup fs root maxAge now = .ok (k, fs') ∧
      k = (taken fs root r maxAge now).length + (failed fs root r maxAge now).length ∧
      (taken fs root r maxAge now).Nodup ∧ (failed fs root r maxAge now).Nodup ∧
      -- the first of these are the stale directories that are no longer there; a failure of one does not keep another
      (∀ n, n ∈ taken fs root r maxAge now ↔ n ∈ stale fs r maxAge now ∧ fs'.entry? (r ++ [n]) = none) ∧
      (∀ n, n ∈ taken fs root r maxAge now ↔ n ∈ stale fs r maxAge now ∧
        (changedAt fs (Path.join root n)).isOk = true ∧
        (fs.removeAll (Path.resolve fs.cwd (Path.join root n)).text).isOk = true) ∧
      -- the others could not be removed, and are still there
      (∀ n, n ∈ failed fs root r maxAge now ↔ n ∈ stale fs r maxAge now ∧
        (changedAt fs (Path.join root n)).isOk = true ∧
        (fs.removeAll (Path.resolve fs.cwd (Path.join root n)).text).isOk = false) ∧
      fs.Cleared r (taken fs root r maxAge now) fs' ∧
      -- the command reports that number as what it removed
      ∀ env settings minutes, Settings.load env = .ok settings → (Path.resolve fs.cwd settings.workRoot).text = root →
        Number.mul (Number.mul minutes 60) 1000 = maxAge →
        Clean.execute env fs minutes now = .ok ⟨k, Clean.line k root, fs'⟩ := by
  refine ⟨fun e => cleanup_of_unlisted, fun paths hlist htop => cleanup_of_top hfs htop hlist, fun r hroot h => ?_⟩
  have hcleared := cleared_eraseAll fs r (taken fs root r maxAge now)
  have hrun := cleanup_eq hfs hroot h
  refine ⟨_, _, hrun, length_counted, (nodup_members hfs r).filter _, ((nodup_members hfs r).filter _).filter _, ?_,
    fun n => mem_taken, fun n => mem_failed, hcleared, ?_⟩
  · intro n
    constructor
    · intro hn
      exact ⟨(mem_taken.mp hn).1, hcleared.gone n hn _ List.prefix_rfl⟩
    · rintro ⟨hstale, hnone⟩
      by_cases hn : n ∈ taken fs root r maxAge now
      · exact hn
      · rw [(hcleared.child hn).1, ((mem_stale hfs).mp hstale).1] at hnone
        cases hnone
  · rintro env settings minutes hload rfl rfl
    rw [Clean.execute, hload]
    dsimp only
    rw [hrun]

/-- The same files on a host that does not let the old directory go. -/
def jammed : FileSystem := { yard with faults.removal := fun l => l == ["work", "p4verdict-old"] }

/-- Both directories are stale, and the removal of the first one fails: both are counted, and the second one goes all
the same. -/
theorem jammed_counted : jammed.WellFormed ∧ ∃ fs', cleanup jammed "/work/." 0 6000 = .ok (2, fs') ∧
    fs'.entry? ["work", "p4verdict-old"] = some .directory ∧ fs'.entry? ["work", "p4verdict-new"] = none := by
  have hfs : jammed.WellFormed :=
    ⟨yard_wellFormed.single, yard_wellFormed.named, yard_wellFormed.housed, yard_wellFormed.here⟩
  have htaken : taken jammed "/work/." ["work"] 0 6000 = ["p4verdict-new"] := by decide +kernel
  have hreaches : jammed.Reaches "/work/." ["work"] (taken jammed "/work/." ["work"] 0 6000) := by
    rw [htaken]
    exact ⟨eq_ok_of_toOption (by decide +kernel), rfl, eq_ok_of_toOption (by decide +kernel), fun h => by cases h⟩
  obtain ⟨-, -, hrun⟩ := cleanup_counts hfs "/work/." 0 6000
  obtain ⟨k, fs', hok, hk, -, -, -, -, -, hcleared, -⟩ := hrun ["work"] (by decide +kernel) hreaches
  have hfailed : failed jammed "/work/." ["work"] 0 6000 = ["p4verdict-old"] := by decide +kernel
  rw [htaken, hfailed] at hk
  rw [htaken] at hcleared
  subst hk
  exact ⟨hfs, fs', hok, hcleared.kept _ (by decide), hcleared.gone "p4verdict-new" List.mem_cons_self _ (by decide)⟩

/-- **A directory that stays is reported as removed** if its removal failed. -/
theorem failure_counted : ∃ fs', cleanup jammed "/work" 3000 6000 = .ok (1, fs') ∧
    stale jammed ["work"] 3000 6000 = ["p4verdict-old"] ∧ fs'.entry? ["work", "p4verdict-old"] = some .directory := by
  have hseen : (cleanup jammed "/work" 3000 6000).toOption.map
      (fun x => (x.1, FileSystem.entry? x.2 ["work", "p4verdict-old"])) = some (1, some .directory) := by decide +kernel
  obtain ⟨⟨k, fs'⟩, hok, hx⟩ := Option.map_eq_some_iff.mp hseen
  obtain ⟨rfl, hstays⟩ := Prod.mk.inj hx
  exact ⟨fs', eq_ok_of_toOption hok, by decide +kernel, hstays⟩

end WorkDir

end DataplaneVerdict
