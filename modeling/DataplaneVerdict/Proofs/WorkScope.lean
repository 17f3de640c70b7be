import DataplaneVerdict.Proofs.Course

/-!
# `Proofs.WorkScope` — a work directory is given back

A body runs with a new work directory, and afterwards the directory is removed by the location that its path says. For
the body nothing changes: its result is that of the whole, and the path leads nowhere any more
(`WorkDir.remove_of_settled`). The root may be relative and may say its place in many ways; what counts is the
location that it says, and the directory is one step below that (`Path.resolve_join`). One location is an exception.
Directly below the root of the tree nothing is ever removed, so there the refusal takes the place of the result, and
the directory stays (`WorkDir.remove_of_treeRoot`).

## Contents
- **Removal.** `FileSystem.not_pathExists_of_removeAll`.
- **The directory and its root.** `Path.resolve_join`, `FileSystem.locate_resolve`, `WorkDir.isBelow_child`.
- **Runs**, and `WorkDir.scope_gives_back`.
-/

namespace DataplaneVerdict

/-! ## Removal -/

namespace FileSystem

variable {fs fs' : FileSystem} {p q : String}

theorem isPart_erase (fs : FileSystem) (l : Location) : (fs.erase l).IsPart fs := by
  intro m e h
  rw [get_erase] at h
  split at h
  · cases h
  · exact h

theorem cwd_erase (fs : FileSystem) (l : Location) : (fs.erase l).cwd = fs.cwd := by
  unfold erase
  cases fs.entry? l <;> rfl

theorem removeAll_eq_ok (h : fs.removeAll q = .ok fs') :
    (fs' = fs ∧ ∀ l e, fs.locate .entry q ≠ .ok (.at l e)) ∨
      ∃ l e, fs.locate .entry q = .ok (.at l e) ∧ fs' = fs.erase l := by
  unfold removeAll at h
  split at h
  · rename_i hlocate
    exact .inl ⟨(Except.ok.inj h).symm, by simp [hlocate]⟩
  · cases h
  · rename_i hlocate
    exact .inl ⟨(Except.ok.inj h).symm, by simp [hlocate]⟩
  · rename_i l e hlocate
    split at h
    · cases h
    · exact .inr ⟨l, e, hlocate, (Except.ok.inj h).symm⟩

/-- **What was removed does not exist any more**, under any path that leads where the removed one led. -/
theorem not_pathExists_of_removeAll (h : fs.removeAll q = .ok fs')
    (hagree : ∀ l e, fs.locate .entry p = .ok (.at l e) → fs.locate .entry q = .ok (.at l e)) :
    fs'.pathExists p = false := by
  have hpart : fs'.IsPart fs ∧ fs'.cwd = fs.cwd := by
    obtain ⟨rfl, -⟩ | ⟨l, e, -, rfl⟩ := removeAll_eq_ok h
    · exact ⟨fun _ _ h => h, rfl⟩
    · exact ⟨isPart_erase fs l, cwd_erase fs l⟩
  cases hexists : fs'.pathExists p with
  | false => rfl
  | true =>
    -- the path would lead to an entry, which was there before and so was removed
    have harrives : ∃ m e, fs'.locate .target p = .ok (.at m e) := by
      unfold pathExists at hexists
      split at hexists
      · exact ⟨_, _, find_eq_ok_iff.mp ‹_›⟩
      · cases hexists
    obtain ⟨m, e, htarget⟩ := harrives
    obtain ⟨l, e', hentry⟩ := exists_entry_of_target id (walk_of_locate htarget)
    have hstands : fs'.entry? l = some e' := holds_of_walk hentry
    have hbefore : fs.locate .entry p = .ok (.at l e') := by
      rw [locate_eq_walk htarget, ← hpart.2]
      exact walk_of_isPart hpart.1 hentry
    obtain ⟨-, hnone⟩ | ⟨l', e'', hremoved, rfl⟩ := removeAll_eq_ok h
    · exact absurd (hagree l e' hbefore) (hnone l e')
    · rw [hagree l e' hbefore] at hremoved
      obtain ⟨rfl, -⟩ := Place.at.inj (Except.ok.inj hremoved)
      rw [get_erase, if_pos List.prefix_rfl] at hstands
      cases hstands

theorem locate_ne_of_removeAll (h : fs.removeAll q = .ok fs') {problem : FileProblem} (hproblem : problem ≠ .missing) :
    fs.locate .entry q ≠ .error problem := by
  intro hlocate
  unfold removeAll at h
  rw [hlocate] at h
  cases problem with
  | missing => exact hproblem rfl
  | _ => cases h

/-- The text of a location that could be removed is walked from the root. -/
theorem locate_text_of_removeAll {l : Location} (h : fs.removeAll l.text = .ok fs') :
    fs.locate .entry l.text = walk fs .entry (mostLinks + 1) [] (Way.ofPath l.text) := by
  have hzero := locate_ne_of_removeAll h (show FileProblem.zeroByte ≠ .missing by decide)
  have hlong := locate_ne_of_removeAll h (show FileProblem.nameTooLong ≠ .missing by decide)
  have hempty : ¬l.text.isEmpty = true := fun he => l.text_ne_empty (String.isEmpty_iff.mp he)
  unfold locate at hzero hlong ⊢
  rw [if_neg hempty] at hzero hlong ⊢
  split
  · rw [if_pos ‹_›] at hzero
    exact absurd rfl hzero
  · rename_i hbytes
    rw [if_neg hbytes] at hlong
    split
    · rw [if_pos ‹_›] at hlong
      exact absurd rfl hlong
    · rw [l.isAbsolute_text, if_pos rfl]

end FileSystem

/-! ## The directory and its root -/

namespace Path

/-- The way of steps up and names. -/
theorem ofPath_join {ns : List String} {b : String} (hns : ∀ n ∈ ns, n ≠ "" ∧ '/' ∉ n.toList) (hb : IsName b) :
    FileSystem.Way.ofPath (Text.join "/" (ns ++ [b])) = ⟨ns ++ [b], false⟩ ∧
      isAbsolute (Text.join "/" (ns ++ [b])) = false := by
  have hall : ∀ n ∈ ns ++ [b], n ≠ "" ∧ '/' ∉ n.toList := by
    intro n hn
    rcases List.mem_append.mp hn with hn | hn
    · exact hns n hn
    · exact List.mem_singleton.mp hn ▸ ⟨hb.nonempty, hb.noSlash⟩
  obtain ⟨hsegments, habsolute⟩ := segments_join (by simp) hall
  have hnames : FileSystem.pathNames (Text.join "/" (ns ++ [b])) = ns ++ [b] := by
    rw [FileSystem.pathNames, hsegments]
    exact List.filter_eq_self.mpr fun n hn => by simp [(hall n hn).1]
  have hslash : FileSystem.wantsDirectory (Text.join "/" (ns ++ [b])) = false := by
    have hlast : (Text.join "/" (ns ++ [b])).toList.getLast? ≠ some '/' := by
      by_cases hnil : ns = []
      · subst hnil
        exact hb.getLast?_append ""
      · rw [Location.join_append_singleton hnil]
        exact hb.getLast?_append _
    simpa [FileSystem.wantsDirectory] using hlast
  exact ⟨by rw [FileSystem.Way.ofPath, hnames, hslash], habsolute⟩

/-- Steps up and names are segments that say something. -/
theorem says_of_mem_up {k : Nat} {names : Location} (hnames : names.Proper) :
    ∀ n ∈ List.replicate k ".." ++ names, n ≠ "" ∧ '/' ∉ n.toList := by
  intro n hn
  rcases List.mem_append.mp hn with hn | hn
  · rw [List.eq_of_mem_replicate hn]
    decide
  · exact ⟨(hnames n hn).nonempty, (hnames n hn).noSlash⟩

/-- **A name joined to a path** says the location one step below the one that the path says. -/
theorem resolve_join {cwd : Location} {a b : String} (hcwd : isAbsolute a = false → cwd.Proper) (hb : IsName b) :
    resolve cwd (join a b) = resolve cwd a ++ [b] := by
  cases ha : isAbsolute a with
  | true =>
    obtain ⟨hproper, hjoin⟩ := join_absolute_name ha rfl hb
    rw [hjoin, resolve_text hproper, resolve, ha, if_pos rfl]
  | false =>
    obtain ⟨k, names, hnames, hresolve, hjoin⟩ := join_relative_name ha
    have hproper : Location.Proper (names ++ [b]) := by
      intro n hn
      rcases List.mem_append.mp hn with hn | hn
      · exact hnames n hn
      · exact List.mem_singleton.mp hn ▸ hb
    have hsegments : segments (join a b) = List.replicate k ".." ++ (names ++ [b]) ∧ isAbsolute (join a b) = false := by
      rw [hjoin b hb, ← List.append_assoc]
      refine segments_join (by simp) fun n hn => ?_
      rw [List.append_assoc] at hn
      exact says_of_mem_up hproper n hn
    rw [resolve, hsegments.2, if_neg Bool.false_ne_true, hsegments.1, normalSegments_append_up (hcwd ha) hproper,
      hresolve cwd (hcwd ha), List.append_assoc]

end Path

/-- A directory made below a path, and the location that its path says, are the same entry. -/
theorem FileSystem.locate_resolve {fs fs' : FileSystem} {root b : String} (hb : Path.IsName b)
    (hrelative : Path.isAbsolute root = false → fs.cwd.Proper ∧ fs.IsTree)
    (hremoved : fs.removeAll (Path.resolve fs.cwd (Path.join root b)).text = .ok fs') {l : Location} {e : Entry}
    (h : fs.locate .entry (Path.join root b) = .ok (.at l e)) :
    fs.locate .entry (Path.resolve fs.cwd (Path.join root b)).text = .ok (.at l e) := by
  cases ha : Path.isAbsolute root with
  | true =>
    obtain ⟨hproper, hjoin⟩ := Path.join_absolute_name ha rfl hb
    rw [hjoin, Path.resolve_text hproper, ← hjoin]
    exact h
  | false =>
    obtain ⟨hcwd, htree⟩ := hrelative ha
    obtain ⟨k, names, hnames, hresolve, hjoin⟩ := Path.join_relative_name ha
    have hlong := locate_ne_of_removeAll hremoved (show FileProblem.nameTooLong ≠ .missing by decide)
    rw [locate_text_of_removeAll hremoved] at hlong ⊢
    rw [Path.resolve_join (fun _ => hcwd) hb, hresolve fs.cwd hcwd] at hlong ⊢
    obtain ⟨hway, hrelative⟩ := Path.ofPath_join (Path.says_of_mem_up (k := k) hnames) hb
    have hwalk := walk_of_locate h
    rw [hjoin b hb, hrelative, if_neg Bool.false_ne_true, hway, walk] at hwalk
    -- the walk up from the working directory comes to a directory on the way from the root
    have hdir : fs.entry? fs.cwd = some .directory := (walked_of_walkNames hwalk).directory (by simp)
    have habove : fs.entry? (fs.cwd.take (fs.cwd.length - k)) = some .directory := by
      rw [← List.take_append_drop (fs.cwd.length - k) fs.cwd] at hdir
      exact htree.directory_above hdir
    have hproper : Location.Proper (fs.cwd.take (fs.cwd.length - k) ++ names ++ [b]) := by
      intro n hn
      simp only [List.mem_append, List.mem_singleton] at hn
      rcases hn with (hn | hn) | rfl
      · exact hcwd n (List.mem_of_mem_take hn)
      · exact hnames n hn
      · exact hb
    dsimp only at hwalk
    rw [List.append_assoc, walkNames_up htree hdir] at hwalk
    rw [ofPath_text hproper, walk, List.append_assoc] at hlong ⊢
    have hdown : walkNames fs .entry false (walk fs .entry mostLinks) []
          (fs.cwd.take (fs.cwd.length - k) ++ (names ++ [b])) = .error .nameTooLong ∨
        walkNames fs .entry false (walk fs .entry mostLinks) [] (fs.cwd.take (fs.cwd.length - k) ++ (names ++ [b])) =
          walkNames fs .entry false (walk fs .entry mostLinks) (fs.cwd.take (fs.cwd.length - k)) (names ++ [b]) :=
      walkNames_down htree (fun n hn => hcwd n (List.mem_of_mem_take hn)) habove (by simp)
    rcases hdown with hbad | hsame
    · exact absurd hbad hlong
    · exact hsame.trans hwalk

namespace WorkDir

variable {root name id path : String}

/-- A hyphen makes a name. -/
theorem isName_hyphen {a b : String} (ha : '/' ∉ a.toList) (hb : '/' ∉ b.toList) : Path.IsName (a ++ "-" ++ b) := by
  have hchars : (a ++ "-" ++ b).toList = a.toList ++ '-' :: b.toList := by simp
  have hhyphen : '-' ∈ (a ++ "-" ++ b).toList := by simp [hchars]
  refine ⟨?_, ?_, ?_, ?_⟩
  · intro heq
    rw [heq] at hhyphen
    exact absurd hhyphen (by decide)
  · intro heq
    rw [heq] at hhyphen
    exact absurd hhyphen (by decide)
  · intro heq
    rw [heq] at hhyphen
    exact absurd hhyphen (by decide)
  · rw [hchars]
    simp [ha, hb]

/-- The names of work directories. -/
theorem isName_series (hid : '/' ∉ id.toList) : Path.IsName (series ++ "-" ++ id) := isName_hyphen (by decide) hid

/-- A location directly below another one counts as below it, unless that is the root of the tree. -/
theorem isBelow_child {b : String} (hb : Path.IsName b) (r : Location) : isBelow r (r ++ [b]) = decide (r ≠ []) := by
  by_cases hnil : r = []
  · subst hnil
    -- below the root of the tree the text would have to begin with two slashes
    rw [isBelow, Text.startsWith, decide_eq_false (not_not_intro rfl), Bool.eq_false_iff]
    intro hprefix
    have hslashes : "//".toList <+: (Location.text [b]).toList := List.isPrefixOf_iff_prefix.mp hprefix
    have htext : (Location.text [b]).toList = '/' :: b.toList := String.toList_append
    rw [htext] at hslashes
    have hsecond : ['/'] <+: b.toList := (List.cons_prefix_cons.mp hslashes).2
    exact hb.noSlash (hsecond.subset List.mem_cons_self)
  · rw [isBelow, Text.startsWith, Location.text_append_singleton hnil, decide_eq_true hnil,
      List.isPrefixOf_iff_prefix]
    exact ⟨b.toList, by rw [← String.toList_append]⟩

/-- What a body leaves so that its directory can be removed: the removal itself succeeds, and if the root is relative,
the body stayed in its working directory, a place in a tree. -/
structure Settled (root path : String) (before after : FileSystem) : Prop where
  removable : (after.removeAll (Path.resolve after.cwd path).text).isOk = true
  stays : Path.isAbsolute root = false → after.cwd = before.cwd ∧ after.cwd.Proper ∧ after.IsTree

section Settled

variable {before after : FileSystem} {b : String} (hb : Path.IsName b) (hpath : path = Path.join root b)
  (hsettled : Settled root path before after)
include hb hpath hsettled

theorem isBelow_settled :
    isBelow (Path.resolve after.cwd root) (Path.resolve after.cwd path) =
      decide (Path.resolve before.cwd root ≠ []) := by
  have hsame : Path.resolve after.cwd root = Path.resolve before.cwd root := by
    cases ha : Path.isAbsolute root with
    | true => simp only [Path.resolve, ha, if_true]
    | false => rw [(hsettled.stays ha).1]
  rw [hpath, Path.resolve_join (fun h => (hsettled.stays h).2.1) hb, isBelow_child hb, hsame]

/-- Below any other root than that of the tree, a directory is removed, and its path leads nowhere. -/
theorem remove_of_settled (hroot : Path.resolve before.cwd root ≠ []) :
    ∃ fs, remove after root path = .ok fs ∧ fs.pathExists path = false := by
  obtain ⟨fs, hremoved⟩ := exists_of_isOk hsettled.removable
  have hgone : fs.pathExists path = false := by
    subst hpath
    exact FileSystem.not_pathExists_of_removeAll hremoved fun l e =>
      FileSystem.locate_resolve hb (fun h => (hsettled.stays h).2) hremoved
  refine ⟨fs, ?_, hgone⟩
  unfold remove
  dsimp only
  rw [isBelow_settled hb hpath hsettled, decide_eq_true hroot, if_pos rfl, hremoved]

/-- Directly below the root of the tree, the removal is refused. -/
theorem remove_of_treeRoot (hroot : Path.resolve before.cwd root = []) :
    remove after root path = .error (.refusedRemoval path) := by
  unfold remove
  dsimp only
  rw [isBelow_settled hb hpath hsettled, decide_eq_false (not_not_intro hroot), if_neg Bool.false_ne_true]

end Settled

/-- Making a work directory keeps a tree a tree. -/
theorem isTree_create {fs fs' : FileSystem} (htree : fs.IsTree) (h : create fs root name id = (.ok path, fs')) :
    fs'.IsTree := by
  obtain ⟨-, fs₁, hroot, hmade⟩ := create_eq_ok h
  have htree₁ := htree.mkdirRecursive root
  rw [hroot] at htree₁
  exact htree₁.mkdir? hmade

end WorkDir

/-! ## Runs -/

namespace Verifier

attribute [local irreducible] WorkDir.create WorkDir.remove Evidence.scan

variable {σ : Type}

theorem world_reportFailure (v : Verifier σ) (runId : String) (startedAt : Number) (failure : Failure)
    (s : RunState σ) : (v.reportFailure runId startedAt failure s).2.world.files = s.world.files := by
  simp only [reportFailure, readClock]
  split
  · rfl
  · split <;> rfl

/-- After a run whose directory was given back, the files are those that giving it back left. -/
theorem files_verify {v : Verifier σ} {runId : String} {request : Request} {s : RunState σ} {workDir : String}
    {fs : FileSystem} (hcreated : (v.opened s).1 = .ok workDir)
    (hreleased : v.release runId request s workDir = .ok fs) :
    (v.verify runId request s).2.world.files = fs := by
  rw [verify_of_opened hcreated, hreleased]
  dsimp only
  rcases v.execute runId (v.clock s.world.readings) request workDir (v.entered s) with ⟨result, s'⟩
  cases result with
  | ok outcome => rfl
  | error failure => exact world_reportFailure ..

/-- Such a run ends with the outcome of its work. -/
theorem verify_of_execute {v : Verifier σ} {runId : String} {request : Request} {s : RunState σ} {workDir : String}
    {fs : FileSystem} {o : Outcome} (hcreated : (v.opened s).1 = .ok workDir)
    (hreleased : v.release runId request s workDir = .ok fs)
    (ho : (v.execute runId (v.clock s.world.readings) request workDir (v.entered s)).1 = .ok o) :
    (v.verify runId request s).1 = .ok o := by
  rw [verify_of_opened hcreated, hreleased]
  dsimp only
  rcases hwork : v.execute runId (v.clock s.world.readings) request workDir (v.entered s) with ⟨result, s'⟩
  rw [hwork] at ho
  obtain rfl : result = .ok o := ho
  rfl

end Verifier

namespace WorkDir

attribute [local irreducible] create remove Evidence.scan

/-- **A work directory is given back.** For every id without a slash, every root below which a directory could be made,
    and every body that leaves the directory to be removed:
    * unless the root says the root of the tree, the result of the scope is that of the body, whether a value or a
      failure, and afterwards the path of the directory leads nowhere;
    * if it does, the removal is refused, the refusal takes the place of the result, and the files stay as they are.

    So a run that works in its directory ends with the outcome of that work and leaves no directory behind, unless its
    work root is the root of the tree; there it ends with a report of the refusal. -/
theorem scope_gives_back {id : String} (hid : '/' ∉ id.toList) :
    (∀ (σ α : Type) [HasFiles σ] (root path : String) (fs : FileSystem) (body : String → σ → Except Failure α × σ)
      (s : σ), create (HasFiles.files s) root series id = (.ok path, fs) →
      Settled root path (HasFiles.files s) (HasFiles.files (body path (HasFiles.setFiles s fs)).2) →
      (Path.resolve (HasFiles.files s).cwd root ≠ [] → ∃ fs', scope root series id body s =
          ((body path (HasFiles.setFiles s fs)).1, HasFiles.setFiles (body path (HasFiles.setFiles s fs)).2 fs') ∧
        fs'.pathExists path = false) ∧
      (Path.resolve (HasFiles.files s).cwd root = [] →
        scope root series id body s = (.error (.refusedRemoval path), (body path (HasFiles.setFiles s fs)).2))) ∧
    (∀ (σ : Type) (v : Verifier σ) (runId : String) (request : Request) (s : RunState σ) (workDir : String),
      v.ids s.world.draws = id → (v.opened s).1 = .ok workDir →
      Settled (v.workRoot s) workDir s.world.files
        (v.execute runId (v.clock s.world.readings) request workDir (v.entered s)).2.world.files →
      (Path.resolve s.world.files.cwd (v.workRoot s) ≠ [] →
        (∀ o, (v.execute runId (v.clock s.world.readings) request workDir (v.entered s)).1 = .ok o →
          (v.verify runId request s).1 = .ok o) ∧
        (v.verify runId request s).2.world.files.pathExists workDir = false) ∧
      (Path.resolve s.world.files.cwd (v.workRoot s) = [] → v.verify runId request s =
        v.reportFailure runId (v.clock s.world.readings) (.refusedRemoval workDir)
          (v.execute runId (v.clock s.world.readings) request workDir (v.entered s)).2)) := by
  have hname := isName_series hid
  constructor
  · intro σ α _ root path fs body s hcreate hsettled
    have hpath := (create_eq_ok hcreate).1
    constructor
    · intro hroot
      obtain ⟨fs', hremove, hgone⟩ := remove_of_settled hname hpath hsettled hroot
      exact ⟨fs', scope_of_ok hcreate hremove, hgone⟩
    · intro hroot
      exact scope_of_refused hcreate (remove_of_treeRoot hname hpath hsettled hroot)
  · intro σ v runId request s workDir hdrawn hcreated hsettled
    have hcreate : create s.world.files (v.workRoot s) series id = (.ok workDir, (v.opened s).2) := by
      rw [← hdrawn]
      exact Verifier.create_of_opened hcreated
    have hpath := (create_eq_ok hcreate).1
    constructor
    · intro hroot
      obtain ⟨fs', hremove, hgone⟩ := remove_of_settled hname hpath hsettled hroot
      have hrelease : v.release runId request s workDir = .ok fs' := hremove
      refine ⟨fun o ho => Verifier.verify_of_execute hcreated hrelease ho, ?_⟩
      rw [Verifier.files_verify hcreated hrelease]
      exact hgone
    · intro hroot
      have hrelease : v.release runId request s workDir = .error (.refusedRemoval workDir) :=
        remove_of_treeRoot hname hpath hsettled hroot
      rw [Verifier.verify_of_opened hcreated, hrelease]

/-- A body that leaves a file in its directory and fails. -/
def spoiling (_ : String) (fs : FileSystem) : Except Failure Nat × FileSystem :=
  (.error (.other "stop" none), fs.put (["w", "p4verdict-1"] ++ ["x"]) (.file []))

/-- Such a body below a relative root that is not in normal form, and a run whose front end is rejected: each ends
with its own result, and its directory is gone. -/
theorem given_back :
    (∃ fs', scope "./w/..//w/" series "1" spoiling preparedFiles = (.error (.other "stop" none), fs') ∧
      fs'.pathExists "w/p4verdict-1" = false) ∧
    ∃ o, ((Verifier.prepared preparedClock).execute "run" (preparedClock 0) .prepared "/w/p4verdict-1"
        ((Verifier.prepared preparedClock).entered (.prepared []))).1 = .ok o ∧
      ((Verifier.prepared preparedClock).verify "run" .prepared (.prepared [])).1 = .ok o ∧
      ((Verifier.prepared preparedClock).verify "run" .prepared
        (.prepared [])).2.world.files.pathExists "/w/p4verdict-1" = false := by
  obtain ⟨hscope, hverify⟩ := scope_gives_back (show '/' ∉ "1".toList by decide)
  constructor
  · have hcreate : create preparedFiles "./w/..//w/" series "1" =
        (.ok "w/p4verdict-1", (create preparedFiles "./w/..//w/" series "1").2) :=
      Prod.ext (eq_ok_of_toOption (by decide +kernel)) rfl
    have hcwd : (spoiling "w/p4verdict-1" (create preparedFiles "./w/..//w/" series "1").2).2.cwd = [] := by
      decide +kernel
    have htree : (spoiling "w/p4verdict-1" (create preparedFiles "./w/..//w/" series "1").2).2.IsTree :=
      (isTree_create preparedFiles_isTree hcreate).put (by decide +kernel) (.inr (by decide +kernel))
    have hproper : (spoiling "w/p4verdict-1" (create preparedFiles "./w/..//w/" series "1").2).2.cwd.Proper := by
      rw [hcwd]
      exact fun n hn => absurd hn List.not_mem_nil
    exact (hscope FileSystem Nat "./w/..//w/" "w/p4verdict-1" _ spoiling preparedFiles hcreate
      ⟨by decide +kernel, fun _ => ⟨hcwd, hproper, htree⟩⟩).1 (by decide)
  · have hcreated := (Verifier.prepared_housed preparedClock []).created
    have hseen : ((Verifier.prepared preparedClock).execute "run" (preparedClock 0) .prepared "/w/p4verdict-1"
        ((Verifier.prepared preparedClock).entered (.prepared []))).1.toOption.map (·.exitCode) = some 1 := by
      decide +kernel
    obtain ⟨o, s', ho, -⟩ := exists_outcome hseen
    obtain ⟨hsame, hgone⟩ := (hverify Playback (Verifier.prepared preparedClock) "run" .prepared (.prepared [])
      "/w/p4verdict-1" rfl hcreated ⟨by decide +kernel, fun h => absurd h (by decide)⟩).1 (by decide)
    have hfirst := congrArg Prod.fst ho
    exact ⟨o, hfirst, hsame o hfirst, hgone⟩

/-- A body that does nothing. -/
def idle (_ : String) (fs : FileSystem) : Except Failure Nat × FileSystem := (.ok 7, fs)

/-- A run whose work root is the root of the tree. -/
def atTreeRoot : Verifier Playback :=
  { Verifier.prepared preparedClock with settings :=
    { (Verifier.prepared preparedClock).settings with workRoot := "/" } }

/-- Below the root of the tree the body's value is lost and its directory stays, although nothing is in the way of its
    removal. A run there reports twice: the outcome of its work, and then the refusal, which is what it ends with. -/
theorem treeRoot_keeps :
    (∃ path fs, create preparedFiles "/" series "1" = (.ok path, fs) ∧ Settled "/" path preparedFiles (idle path fs).2 ∧
      scope "/" series "1" idle preparedFiles = (.error (.refusedRemoval path), (idle path fs).2) ∧
      (idle path fs).2.pathExists path = true) ∧
    (atTreeRoot.execute "run" (preparedClock 0) .prepared "/p4verdict-1"
      (atTreeRoot.entered (.prepared []))).1.toOption.map (·.report.details) =
        some "P4C Compilation error: spawn p4c-bm2-ss ENOENT" ∧
    ∃ o s', atTreeRoot.verify "run" .prepared (.prepared []) = (.ok o, s') ∧
      o.report.details = "Pipeline error: Refusing to remove directory outside work root: /p4verdict-1" ∧
      s'.sink.lines.length = 2 ∧ s'.world.files.pathExists "/p4verdict-1" = true := by
  refine ⟨?_, by decide +kernel, ?_⟩
  · have hcreate : create preparedFiles "/" series "1" =
        (.ok "/p4verdict-1", (create preparedFiles "/" series "1").2) :=
      Prod.ext (eq_ok_of_toOption (by decide +kernel)) rfl
    have hsettled : Settled "/" "/p4verdict-1" preparedFiles
        (idle "/p4verdict-1" (create preparedFiles "/" series "1").2).2 :=
      ⟨by decide +kernel, fun h => absurd h (by decide)⟩
    have hrefused := remove_of_treeRoot isName_preparedDirectory (by decide +kernel) hsettled (by decide)
    exact ⟨_, _, hcreate, hsettled, scope_of_refused hcreate hrefused, by decide +kernel⟩
  · have hdetails : (atTreeRoot.verify "run" .prepared (.prepared [])).1.toOption.map (·.report.details) =
        some "Pipeline error: Refusing to remove directory outside work root: /p4verdict-1" := by decide +kernel
    have hleft : (atTreeRoot.verify "run" .prepared (.prepared [])).2.sink.lines.length = 2 ∧
        (atTreeRoot.verify "run" .prepared (.prepared [])).2.world.files.pathExists "/p4verdict-1" = true := by
      decide +kernel
    obtain ⟨o, s', hverify, ho⟩ := exists_outcome hdetails
    rw [hverify] at hleft
    exact ⟨o, s', hverify, ho, hleft⟩

end WorkDir

end DataplaneVerdict
