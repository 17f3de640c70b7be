import DataplaneVerdict.Proofs.Growth
import DataplaneVerdict.Proofs.WorkScope

/-!
# `Proofs.Footprint` — what a run leaves behind

A run writes one file itself, the output of the translator, and removes one directory with all that is in it. The file
is named after the source, by a name that cannot lead out of the directory (`Room.keeps`). The directory was made at a
free name, so once it is gone everything is as it was before it was made (`Confined.get_removed`). If the commands
stay in the directory as well, what remains of a run is its work root, however the run ends.

## Contents
- **Staying in a directory.** `FileSystem.Confined`; writing into a new directory and removing it.
- **Preservation.** `Verifier.Preserves.execute`: what calls and kept outputs preserve, the work of a run preserves.
- **Runs.** `Verifier.Room`, and `Verifier.verify_footprint`.
-/

namespace DataplaneVerdict

namespace FileSystem

variable {fs fs' fs'' : FileSystem}

/-! ## Staying in a directory -/

/-- A change of the files that stays at a location and below it, leaves a tree, and makes no link. -/
structure Confined (w : Location) (before after : FileSystem) : Prop where
  outside : SameOutside w before after
  tree : after.IsTree
  noLink : ∀ l target, after.entry? l = some (.link target) → before.entry? l = some (.link target)

theorem IsTree.confined (h : fs.IsTree) (w : Location) : Confined w fs fs := ⟨fun _ _ => rfl, h, fun _ _ h => h⟩

theorem Confined.trans {w : Location} (h : Confined w fs fs') (h' : Confined w fs' fs'') : Confined w fs fs'' where
  outside m hm := (h'.outside m hm).trans (h.outside m hm)
  tree := h'.tree
  noLink l target hl := h.noLink l target (h'.noLink l target hl)

/-- A file is written in a directory. -/
theorem IsTree.confined_put (h : fs.IsTree) {w : Location} {b : String} (content : Bytes)
    (hdir : fs.entry? w = some .directory) (hroom : fs.entry? (w ++ [b]) ≠ some .directory) :
    Confined w fs (fs.put (w ++ [b]) (.file content)) where
  outside := sameOutside_put (List.prefix_append w [b]) _
  tree := h.put hdir (.inr hroom)
  noLink l target hl := by
    rw [get_put] at hl
    split at hl
    · cases hl
    · exact hl

section Room

variable {d l : Location} {n : String} (hl : l.Proper) (htree : fs.IsTree)
  (hfree : fs.locate .entry l.text = .ok (.free d n))
  (hconfined : Confined (d ++ [n]) (fs.put (d ++ [n]) .directory) fs')

include hconfined in
theorem Confined.sameOutside_of_made : SameOutside (d ++ [n]) fs fs' := by
  intro m hm
  rw [hconfined.outside m hm]
  exact sameOutside_put List.prefix_rfl .directory m hm

include htree hfree hconfined

/-- In a new directory there are no links. -/
theorem Confined.linkless {m : Location} (hm : d ++ [n] <+: m) (target : String) :
    fs'.entry? m ≠ some (.link target) := by
  intro hlink
  have hbefore := hconfined.noLink m target hlink
  rw [get_put] at hbefore
  split at hbefore
  · cases hbefore
  · rw [htree.clear_of_vacant (vacant_of_locate hfree) m hm] at hbefore
    cases hbefore

include hl

/-- **A file written by a name in a new directory** is written there. -/
theorem Confined.writeBytes {b : String} {content : Bytes} (hb : Path.IsName b)
    (h : fs'.writeBytes (Location.text (l ++ [b])) content = .ok fs'') : Confined (d ++ [n]) fs' fs'' := by
  have hclear := htree.clear_of_vacant (vacant_of_locate hfree)
  have hplace {place : Place} (hlocate : fs'.locate .creation (Location.text (l ++ [b])) = .ok place) :=
    locate_below hl hfree hconfined.sameOutside_of_made hclear hb
      (hconfined.linkless htree hfree List.prefix_rfl)
      (hconfined.linkless htree hfree (List.prefix_append _ _)) hlocate
  unfold FileSystem.writeBytes at h
  split at h
  · cases h
  · rename_i m old hlocate
    obtain ⟨hdir, ⟨hfree', -⟩ | ⟨e, hentry, hat⟩⟩ := hplace hlocate
    · cases hfree'
    · obtain ⟨rfl, rfl⟩ := Place.at.inj hat
      rw [← Except.ok.inj h]
      exact hconfined.tree.confined_put content hdir (hentry ▸ fun h => by cases h)
  · rw [← Except.ok.inj h]
    exact hconfined.tree.confined _
  · cases h
  · cases h
  · cases h
  · rename_i d' b' hlocate
    obtain ⟨hdir, ⟨hfree', hnone⟩ | ⟨e, -, hat⟩⟩ := hplace hlocate
    · obtain ⟨rfl, rfl⟩ := Place.free.inj hfree'
      rw [← Except.ok.inj h]
      exact hconfined.tree.confined_put content hdir (hnone ▸ fun h => by cases h)
    · cases hat

/-- **Once a new directory is removed**, everything is as it was before it was made. -/
theorem Confined.get_removed (h : fs'.removeAll l.text = .ok fs'') (m : Location) :
    fs''.entry? m = fs.entry? m := by
  have hclear := htree.clear_of_vacant (vacant_of_locate hfree)
  have hsame := hconfined.sameOutside_of_made
  cases hentry : fs'.entry? (d ++ [n]) with
  | none =>
    -- the directory is gone already, and with it all that was in it
    have hlocate := locate_of_untaken hl hfree hsame hclear hentry .entry
    obtain ⟨rfl, -⟩ | ⟨m', e, hat, -⟩ := removeAll_eq_ok h
    · by_cases hm : d ++ [n] <+: m
      · rw [hclear m hm]
        have hvacant : fs''.Vacant d n := vacant_of_locate hlocate
        exact hconfined.tree.clear_of_vacant hvacant m hm
      · exact hsame m hm
    · rw [hlocate] at hat
      cases hat
  | some e =>
    have hnotLink : ∀ target, e ≠ .link target := by
      rintro target rfl
      exact hconfined.linkless htree hfree List.prefix_rfl target hentry
    have hlocate := locate_of_taken hl hfree hsame hclear hentry hnotLink .entry
    obtain ⟨-, hnone⟩ | ⟨m', e', hat, rfl⟩ := removeAll_eq_ok h
    · exact absurd hlocate (hnone _ _)
    · rw [hlocate] at hat
      obtain ⟨rfl, rfl⟩ := Place.at.inj (Except.ok.inj hat)
      rw [get_erase]
      split
      · rename_i hm
        rw [hclear m hm]
      · rename_i hm
        exact hsame m hm

end Room

end FileSystem

/-! ## Preservation -/

/-- The only output that a plan keeps is the translator's, in the file named after the source. -/
theorem Plan.captures_of_mem {i : PlanInput} {spec : StageSpec} (h : spec ∈ (ofInput i).stages) :
    spec.captureStdoutTo = none ∨ spec.captureStdoutTo = some i.artifacts.cFile := by
  simp only [stages, ofInput, List.cons_append, List.nil_append, List.mem_cons, List.not_mem_nil,
    or_false] at h
  rcases h with rfl | rfl | rfl | rfl
  · exact .inl rfl
  · exact .inr rfl
  · exact .inl rfl
  · exact .inl rfl

namespace Verifier

attribute [local irreducible] WorkDir.create WorkDir.remove Evidence.scan

variable {σ : Type} {v : Verifier σ}

theorem files_conclude (v : Verifier σ) (run : Run) (c : Conclusion) (s : RunState σ) :
    (v.conclude run c s).2.world.files = s.world.files := by
  simp only [conclude, readClock]
  split <;> rfl

theorem files_classifyAndReport (v : Verifier σ) (artifacts : Artifacts) (run : Run) (log : List String)
    (e : EngineRun) (s : RunState σ) :
    (v.classifyAndReport artifacts run log e s).2.world.files = s.world.files := by
  unfold classifyAndReport
  repeat' split
  all_goals first | rfl | exact files_conclude ..

theorem keeps_of_capture {spec : StageSpec} {r : StageResult} {fs kept : FileSystem}
    (h : capture spec r fs = .ok kept) : spec.Keeps r fs kept := by
  obtain ⟨kept', hkeeps, hcapture⟩ | ⟨path, e, -, -, hcapture⟩ := capture_cases spec r fs
  · rw [hcapture] at h
    exact Except.ok.inj h ▸ hkeeps
  · rw [hcapture] at h
    cases h

section Preserves

variable {P : FileSystem → Prop} {specs : List StageSpec}

/-- What the calls of some stages and the keeping of their output preserve. -/
structure Preserves (v : Verifier σ) (specs : List StageSpec) (P : FileSystem → Prop) : Prop where
  call : ∀ spec ∈ specs, ∀ s, P s.world.files → P (v.answered spec s).world.files
  keeps : ∀ spec ∈ specs, ∀ r fs kept, P fs → spec.Keeps r fs kept → P kept

theorem Preserves.of_subset {specs' : List StageSpec} (h : v.Preserves specs P) (hsub : specs' ⊆ specs) :
    v.Preserves specs' P :=
  ⟨fun spec hspec => h.call spec (hsub hspec), fun spec hspec => h.keeps spec (hsub hspec)⟩

theorem Preserves.judge (h : v.Preserves specs P) {spec : StageSpec} (hspec : spec ∈ specs) (r : StageResult)
    {fs : FileSystem} (hfs : P fs) : P (Verifier.judge spec r fs).2 := by
  unfold Verifier.judge
  dsimp only
  repeat' split
  all_goals first | exact hfs | exact h.keeps spec hspec r fs _ hfs (keeps_of_capture ‹_›)

theorem Preserves.runBuildStage (h : v.Preserves specs P) {spec : StageSpec} (hspec : spec ∈ specs) {s : RunState σ}
    (hs : P s.world.files) : P (v.runBuildStage spec s).2.world.files := by
  have hcall := h.call spec hspec s hs
  rw [Verifier.runBuildStage, issue_eq]
  cases (v.callOf spec s).reply with
  | error failure => exact hcall
  | ok r => exact h.judge hspec r hcall

theorem Preserves.runBuild (h : v.Preserves specs P) (log : List String) (run : Run) {s : RunState σ}
    (hs : P s.world.files) : P (v.runBuild log run specs s).2.world.files := by
  induction specs generalizing log run s with
  | nil => exact hs
  | cons spec rest ih =>
    have hstage := h.runBuildStage List.mem_cons_self hs
    rw [Verifier.runBuild]
    rcases hresult : v.runBuildStage spec s with ⟨result, s'⟩
    rw [hresult] at hstage
    rcases result with failure | failure | entry
    · exact hstage
    · exact hstage
    · dsimp only
      split
      · exact hstage
      · exact ih (h.of_subset (List.subset_cons_self _ _)) _ _ hstage

theorem files_runEngine (v : Verifier σ) (i : PlanInput) (run : Run) (log : List String) (s : RunState σ) :
    (v.runEngine i run log s).2.world.files = (v.answered (Plan.engineSpec i) s).world.files := by
  rw [runEngine, issue_eq]
  dsimp only
  split
  · rfl
  split
  · split
    · rfl
    · exact files_conclude ..
  · exact files_classifyAndReport ..

/-- **What every call and every kept output preserve holds after the whole work**, however the work ends. -/
theorem Preserves.execute {request : Request} {workDir : String} {s : RunState σ}
    (h : v.Preserves (Plan.ofInput (v.planFor request workDir s.world.files)).stages P) (runId : String)
    (startedAt : Number) (hs : P s.world.files) :
    P (v.execute runId startedAt request workDir s).2.world.files := by
  rw [Verifier.execute]
  split
  · exact hs
  · rename_i run _
    have hbuilt := (h.of_subset (List.subset_append_left _ _)).runBuild [] run hs
    rcases hresult : v.runBuild [] run (Plan.ofInput (v.planFor request workDir s.world.files)).build s with
      ⟨result, s'⟩
    rw [hresult] at hbuilt
    rcases result with failure | ⟨run, failure⟩ | ⟨run, log⟩
    · exact hbuilt
    · dsimp only
      rw [files_conclude]
      exact hbuilt
    · dsimp only
      rw [files_runEngine]
      exact h.call _ (List.mem_append_right _ List.mem_cons_self) _ hbuilt

end Preserves

/-! ## Runs -/

/-- How the directory of a run came to be: once the files had grown as far as the root, it was made at a free name. -/
structure Room (v : Verifier σ) (s : RunState σ) (workDir : String) (before : FileSystem) (l d : Location)
    (n : String) : Prop where
  proper : l.Proper
  path : workDir = l.text ∨ workDir = l.text ++ "/"
  tree : before.IsTree
  grown : FileSystem.Grown (Path.resolve s.world.files.cwd v.settings.workRoot) s.world.files before
  root : before.isDirectory (v.workRoot s) = true
  free : before.locate .entry l.text = .ok (.free d n)
  made : (v.opened s).2 = before.put (d ++ [n]) .directory

/-- The files once the work of a run in its directory is done. -/
def worked (v : Verifier σ) (runId : String) (request : Request) (s : RunState σ) (workDir : String) : FileSystem :=
  (v.execute runId (v.clock s.world.readings) request workDir (v.entered s)).2.world.files

variable {runId : String} {request : Request} {s : RunState σ} {workDir : String} {before : FileSystem}
  {l d : Location} {n : String}

theorem exists_room (htree : s.world.files.IsTree) (hcwd : s.world.files.cwd.Proper)
    (hcreated : (v.opened s).1 = .ok workDir) : ∃ before l d n, v.Room s workDir before l d n := by
  have hcreate := create_of_opened hcreated
  obtain ⟨l, hl, hpath⟩ := WorkDir.create_path (v.isAbsolute_workRoot s) hcreate
  obtain ⟨-, before, hroot, hmade⟩ := WorkDir.create_eq_ok hcreate
  obtain ⟨d, n, hfree, hput⟩ := FileSystem.mkdir?_eq_ok hmade
  rw [Location.withoutFinalSlashes_text hl hpath] at hfree
  have htree' := htree.mkdirRecursive (v.workRoot s)
  rw [hroot] at htree'
  obtain ⟨hgrown, hdir⟩ := htree.grown_mkdirRecursive (Path.resolve_proper hcwd v.settings.workRoot) hroot
  exact ⟨before, l, d, n, hl, hpath, htree', hgrown, hdir, hfree, hput⟩

/-- The path of the directory leads to it. -/
theorem Room.find (h : v.Room s workDir before l d n) :
    (v.opened s).2.find (FileSystem.withoutFinalSlashes workDir) = .ok (d ++ [n], .directory) := by
  rw [h.made, Location.withoutFinalSlashes_text h.proper h.path]
  exact h.tree.find_made h.proper h.free

/-- **Kept output stays in the directory**, whatever the source is called. -/
theorem Room.keeps (h : v.Room s workDir before l d n) {spec : StageSpec}
    (hspec : spec ∈ (Plan.ofInput (v.plan request s workDir)).stages) {r : StageResult} {fs kept : FileSystem}
    (hfs : FileSystem.Confined (d ++ [n]) (v.opened s).2 fs) (hkeeps : spec.Keeps r fs kept) :
    FileSystem.Confined (d ++ [n]) fs kept := by
  unfold StageSpec.Keeps at hkeeps
  rcases Plan.captures_of_mem hspec with hnone | hfile
  · rw [hnone] at hkeeps
    obtain rfl : kept = fs := hkeeps
    exact hfs.tree.confined _
  · rw [hfile] at hkeeps
    have hname := Path.isName_stem (Path.resolve (v.opened s).2.cwd request.sourceFile).text
      (show ".c".toList.getLast? = some 'c' by decide) (by decide) (by decide)
    have hjoin : (v.plan request s workDir).artifacts.cFile = Location.text (l ++ [_]) :=
      (Path.join_name h.proper h.path hname).2
    rw [hjoin] at hkeeps
    rw [h.made] at hfs
    exact hfs.writeBytes h.proper h.tree h.free hname hkeeps

/-- Giving back a directory that could be removed leaves what was there before it was made. -/
theorem Room.get_released (h : v.Room s workDir before l d n) {fs fs' : FileSystem}
    (hfs : FileSystem.Confined (d ++ [n]) (v.opened s).2 fs)
    (hremovable : (fs.removeAll (Path.resolve fs.cwd workDir).text).isOk = true)
    (hremoved : WorkDir.remove fs (v.workRoot s) workDir = .ok fs') (m : Location) :
    fs'.entry? m = before.entry? m := by
  have htarget : Path.resolve fs.cwd workDir = l := by
    rcases h.path with hpath | hpath
    · rw [hpath, Path.resolve_text h.proper]
    · rw [hpath, Path.resolve, Path.isAbsolute_append l.isAbsolute_text, if_pos rfl,
        Location.normalSegments_text_slash h.proper]
  obtain ⟨fs'', hall⟩ := exists_of_isOk hremovable
  have hsame : fs'' = fs' := by
    unfold WorkDir.remove at hremoved
    dsimp only at hremoved
    rw [hall] at hremoved
    split at hremoved
    · exact Except.ok.inj hremoved
    · cases hremoved
  rw [htarget, hsame] at hall
  rw [h.made] at hfs
  exact hfs.get_removed h.proper h.tree h.free hall m

/-- **A run leaves nothing behind but its work root.** Let the files be a tree, let a run have a work directory, at the
    location `w`, that can be given back and removed, and let its commands stay there and make no links. Then, however
    the run ends,
    * afterwards the files are what they were, with the directories on the way to the work root that were missing;
    * that root is a directory then;
    * while the run worked, nothing changed outside its directory;
    * in particular the output that it keeps is written there, whatever the source is called. -/
theorem verify_footprint {w : Location} (htree : s.world.files.IsTree) (hcwd : s.world.files.cwd.Proper)
    (hhoused : v.Housed runId request s workDir)
    (hplace : (v.opened s).2.find (FileSystem.withoutFinalSlashes workDir) = .ok (w, .directory))
    (hconfined : ∀ command ∈ (Plan.ofInput (v.plan request s workDir)).stages.map commandOf, ∀ world memory,
      FileSystem.Confined w (v.opened s).2 world.files →
      FileSystem.Confined w world.files (v.executor.call command world memory).2.1.files)
    (hremovable : ((v.worked runId request s workDir).removeAll
      (Path.resolve (v.worked runId request s workDir).cwd workDir).text).isOk = true) :
    FileSystem.Grown (Path.resolve s.world.files.cwd v.settings.workRoot) s.world.files
        (v.verify runId request s).2.world.files ∧
      (v.verify runId request s).2.world.files.isDirectory (v.workRoot s) = true ∧
      FileSystem.Confined w (v.opened s).2 (v.worked runId request s workDir) ∧
      ∀ spec ∈ (Plan.ofInput (v.plan request s workDir)).stages, ∀ r fs kept,
        FileSystem.Confined w (v.opened s).2 fs → spec.Keeps r fs kept → FileSystem.Confined w fs kept := by
  obtain ⟨before, l, d, n, hroom⟩ := exists_room htree hcwd hhoused.created
  obtain ⟨rfl, -⟩ := Prod.mk.inj (Except.ok.inj (hroom.find.symm.trans hplace))
  have hstart : (v.opened s).2.IsTree := by
    rw [hroom.made]
    exact hroom.tree.put (FileSystem.vacant_of_locate hroom.free).directory (.inl rfl)
  have hpreserves : v.Preserves (Plan.ofInput (v.plan request s workDir)).stages
      (FileSystem.Confined (d ++ [n]) (v.opened s).2) := {
    call := fun spec hspec s' hs' => hs'.trans (hconfined _ (List.mem_map_of_mem hspec) s'.world s'.memory hs')
    keeps := fun spec hspec r fs kept hfs hkeeps => hfs.trans (hroom.keeps hspec hfs hkeeps) }
  have hworked : FileSystem.Confined (d ++ [n]) (v.opened s).2 (v.worked runId request s workDir) :=
    hpreserves.execute (s := v.entered s) runId (v.clock s.world.readings) (hstart.confined _)
  obtain ⟨fs, hreleased⟩ := exists_of_isOk hhoused.released
  have hback : ∀ m, fs.entry? m = before.entry? m := hroom.get_released hworked hremovable hreleased
  have hsame := FileSystem.Grown.of_same (Path.resolve s.world.files.cwd v.settings.workRoot) hback
  rw [files_verify hhoused.created hreleased]
  exact ⟨hroom.grown.trans hsame, hsame.isDirectory hroom.root, hworked,
    fun spec hspec r fs kept => hroom.keeps hspec⟩

end Verifier

/-- An executor that leaves a file in the directory of a run and whose compiler fails. -/
def scribe : Executor Unit where
  call command world memory :=
    (.ok ⟨if command.command = "clang" then .failed else .success, some 0, none, "int x;", "", ""⟩,
      if world.files.entry? ["a", "b", "p4verdict-1"] = some .directory ∧
          world.files.entry? (["a", "b", "p4verdict-1"] ++ [".json"]) ≠ some .directory then
        { world with files := world.files.put (["a", "b", "p4verdict-1"] ++ [".json"]) (.file []) }
      else world, memory)

theorem scribe_confined {fs : FileSystem} (command : Command) (world : World) (memory : Unit)
    (h : FileSystem.Confined ["a", "b", "p4verdict-1"] fs world.files) :
    FileSystem.Confined ["a", "b", "p4verdict-1"] world.files (scribe.call command world memory).2.1.files := by
  unfold scribe
  dsimp only
  split
  · rename_i hroom
    exact h.tree.confined_put [] hroom.1 hroom.2
  · exact h.tree.confined _

/-- A run of that executor, below a root that is missing. -/
def Verifier.scribing : Verifier Unit :=
  { (Verifier.prepared preparedClock).withExecutor scribe with
    settings := { (Verifier.prepared preparedClock).settings with workRoot := "/a/b" } }

/-- The state before that run. -/
def RunState.scribing : RunState Unit := { world := { files := preparedFiles }, memory := (), sink := {} }

/-- The source is the root of the tree, which has no name. -/
def Request.nameless : Request := ⟨"/", none, 300⟩

theorem Verifier.scribing_housed : scribing.Housed "run" .nameless .scribing "/a/b/p4verdict-1" := by
  have hcreated : (scribing.opened .scribing).1 = .ok "/a/b/p4verdict-1" := eq_ok_of_toOption (by decide)
  have hroot : scribing.workRoot .scribing = Location.text ["a", "b"] := by decide
  have hproper : Location.Proper ["a", "b"] := by
    have hresolve : Path.resolve [] "/a/b" = ["a", "b"] := by decide
    rw [← hresolve]
    exact Path.resolve_proper (fun n hn => absurd hn List.not_mem_nil) "/a/b"
  exact ⟨hcreated, release_isOk hproper (List.cons_ne_nil _ _) hroot isName_preparedDirectory hcreated⟩

/-- The output of the translator was kept in a file with an extension and no stem, the compiler failed, and the run left
    its root. -/
theorem Verifier.scribing_footprint :
    FileSystem.entry? (scribing.worked "run" .nameless .scribing "/a/b/p4verdict-1") ["a", "b", "p4verdict-1", ".c"] =
      some (.file (Utf8.encode "int x;")) ∧
    FileSystem.Grown ["a", "b"] preparedFiles (scribing.verify "run" .nameless .scribing).2.world.files ∧
    (scribing.verify "run" .nameless .scribing).2.world.files.isDirectory "/a/b" = true := by
  have hplace : (scribing.opened .scribing).2.find (FileSystem.withoutFinalSlashes "/a/b/p4verdict-1") =
      .ok (["a", "b", "p4verdict-1"], .directory) := eq_ok_of_toOption (by decide +kernel)
  have hkept : FileSystem.entry? (scribing.worked "run" .nameless .scribing "/a/b/p4verdict-1")
      ["a", "b", "p4verdict-1", ".c"] = some (.file (Utf8.encode "int x;")) := by decide +kernel
  have hroot : Path.resolve [] "/a/b" = ["a", "b"] ∧ scribing.workRoot .scribing = "/a/b" := by decide +kernel
  obtain ⟨hgrown, hdir, -⟩ := verify_footprint preparedFiles_isTree (fun n hn => absurd hn List.not_mem_nil)
    scribing_housed hplace (fun command _ world memory => scribe_confined command world memory) (by decide +kernel)
  have hfrom : FileSystem.Grown (Path.resolve [] "/a/b") preparedFiles
      (scribing.verify "run" .nameless .scribing).2.world.files := hgrown
  rw [hroot.1] at hfrom
  exact ⟨hkept, hfrom, hroot.2 ▸ hdir⟩

end DataplaneVerdict
