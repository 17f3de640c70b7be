import DataplaneVerdict.Files.Evidence
import DataplaneVerdict.Files.WorkDir
import DataplaneVerdict.Proofs.Walking

/-!
# `Proofs.WorkDirectory` — the directory of a run is new

A run makes a directory for itself. Its name was free, so in a file system that is a tree nothing can stand below it:
whatever the run finds there later was put there while it ran (`WorkDir.create_empty`). Nothing is assumed about the
rest of the tree, and the way to the directory may lead over links.

The engine's output directory is named by the text of a proper location, so the two ways in which a scan reads that text
agree and no scan fails (`Evidence.scan_isOk`).

## Contents
- **A name that was free.** `FileSystem.walk_again`: the path to it still leads there, whatever was put there since.
- **Making directories** keeps a tree a tree.
- **The directory.** `WorkDir.create_empty`, `Evidence.scan_isOk`.
-/

namespace DataplaneVerdict

namespace FileSystem

variable {fs fs' : FileSystem}

/-! ## Locating -/

theorem walk_of_locate {reach : Reach} {p : String} {place : Place} (h : fs.locate reach p = .ok place) :
    walk fs reach (mostLinks + 1) (if Path.isAbsolute p then [] else fs.cwd) (Way.ofPath p) = .ok place := by
  unfold locate at h
  split at h
  · cases h
  split at h
  · cases h
  split at h
  · cases h
  exact h

/-- A path text that led somewhere once can always be walked. -/
theorem locate_eq_walk {reach reach' : Reach} {p : String} {place : Place} (h : fs.locate reach p = .ok place) :
    fs'.locate reach' p =
      walk fs' reach' (mostLinks + 1) (if Path.isAbsolute p then [] else fs'.cwd) (Way.ofPath p) := by
  unfold locate at h ⊢
  split at h
  · cases h
  split at h
  · cases h
  split at h
  · cases h
  rw [if_neg ‹_›, if_neg ‹_›, if_neg ‹_›]

theorem vacant_of_locate {reach : Reach} {p : String} {d : Location} {n : String}
    (h : fs.locate reach p = .ok (.free d n)) : fs.Vacant d n := holds_of_walk (walk_of_locate h)

theorem find_eq_ok_iff {p : String} {l : Location} {e : Entry} :
    fs.find p = .ok (l, e) ↔ fs.locate .target p = .ok (.at l e) := by
  unfold find
  constructor
  · intro h
    split at h
    · rename_i hlocate
      cases h
      exact hlocate
    · cases h
    · cases h
  · intro h
    rw [h]

theorem isDirectory_eq_true_iff {p : String} : fs.isDirectory p = true ↔ ∃ l, fs.find p = .ok (l, .directory) := by
  unfold isDirectory
  constructor
  · intro h
    split at h
    · rename_i l e hfind
      cases e with
      | directory => exact ⟨l, hfind⟩
      | _ => cases h
    · cases h
  · rintro ⟨l, hl⟩
    rw [hl]
    rfl

/-- The way of a proper location's text is the location itself. -/
theorem names_ofPath_text {l : Location} (h : l.Proper) : (Way.ofPath l.text).names = l := by
  have hnames : l.filter (fun s => s ≠ "") = l := List.filter_eq_self.mpr fun n hn => by simp [(h n hn).nonempty]
  cases hl : l with
  | nil => decide
  | cons n rest =>
    rw [← hl]
    have hsegments := Location.segments_text h (by rw [hl]; exact List.cons_ne_nil _ _)
    simp only [Way.ofPath, pathNames, hsegments, List.filter_cons]
    exact hnames

/-- Below the root it demands no directory. -/
theorem ofPath_text {l : Location} {b : String} (h : Location.Proper (l ++ [b])) :
    Way.ofPath (Location.text (l ++ [b])) = ⟨l ++ [b], false⟩ := by
  have hslash : wantsDirectory (Location.text (l ++ [b])) = false := by
    simpa [wantsDirectory] using Location.getLast?_text (h b (by simp)) l
  calc Way.ofPath (Location.text (l ++ [b]))
      = ⟨(Way.ofPath (Location.text (l ++ [b]))).names, wantsDirectory (Location.text (l ++ [b]))⟩ := rfl
    _ = ⟨l ++ [b], false⟩ := by rw [names_ofPath_text h, hslash]

/-- At a vacant name of a tree and below it nothing stands. -/
theorem IsTree.clear_of_vacant (h : fs.IsTree) {d : Location} {n : String} (hvacant : fs.Vacant d n) :
    fs.Clear (d ++ [n]) := by
  rintro m ⟨rest, rfl⟩
  by_cases hnil : rest = []
  · rw [hnil, List.append_nil]
    exact hvacant.nothing
  · exact h.nothing_below (by rw [hvacant.nothing]; simp) hnil

theorem sameOutside_put {w l : Location} (hl : w <+: l) (e : Entry) : SameOutside w fs (fs.put l e) := by
  intro m hm
  have hne : m ≠ l := by
    rintro rfl
    exact hm hl
  rw [get_put, if_neg hne]

/-! ## A name that was free -/

section Again

variable {d l : Location} {n : String} (hl : l.Proper) (hfree : fs.locate .entry l.text = .ok (.free d n))

include hl hfree in
theorem ofPath_of_free : Way.ofPath l.text = ⟨l, false⟩ := by
  rcases List.eq_nil_or_concat l with rfl | ⟨m, b, rfl⟩
  · -- the root is no free name
    have hwalk := walk_of_locate hfree
    rw [walk, names_ofPath_text hl] at hwalk
    cases walked_of_walkNames hwalk
  · rw [List.concat_eq_append] at hl ⊢
    exact ofPath_text hl

variable (hsame : SameOutside (d ++ [n]) fs fs') (hclear : fs.Clear (d ++ [n]))
include hl hfree hsame hclear

/-- A path to a free name, and any path from there, leads to that name again. -/
theorem walk_again (reach : Reach) (tail : List String) :
    ∃ k, walk fs' reach (mostLinks + 1) [] ⟨l ++ tail, false⟩ =
      walkNames fs' reach false (walk fs' reach k) d (n :: tail) := by
  have hwalk := walk_of_locate hfree
  rw [Location.isAbsolute_text, if_pos rfl, ofPath_of_free hl hfree] at hwalk
  exact walk_of_free hsame hclear hwalk rfl

theorem locate_again (reach : Reach) :
    ∃ k, fs'.locate reach l.text = walkNames fs' reach false (walk fs' reach k) d [n] := by
  obtain ⟨k, hwalk⟩ := walk_again hl hfree hsame hclear reach []
  rw [List.append_nil] at hwalk
  refine ⟨k, ?_⟩
  rw [locate_eq_walk hfree, Location.isAbsolute_text, if_pos rfl, ofPath_of_free hl hfree, hwalk]

omit hl in
theorem directory_again : fs'.entry? d = some .directory :=
  hsame.get_of_clear hclear (vacant_of_locate hfree).directory

theorem locate_of_untaken (hnone : fs'.entry? (d ++ [n]) = none) (reach : Reach) :
    fs'.locate reach l.text = .ok (.free d n) := by
  obtain ⟨k, hlocate⟩ := locate_again hl hfree hsame hclear reach
  have hname : LooksUp reach false n [] := .of_plain (vacant_of_locate hfree).plain [] (.inl rfl)
  rw [hlocate, walkNames_of_none (directory_again hfree hsame hclear) hname hnone]
  rfl

theorem locate_of_taken {e : Entry} (hentry : fs'.entry? (d ++ [n]) = some e) (hnotLink : ∀ target, e ≠ .link target)
    (reach : Reach) : fs'.locate reach l.text = .ok (.at (d ++ [n]) e) := by
  obtain ⟨k, hlocate⟩ := locate_again hl hfree hsame hclear reach
  have hname : LooksUp reach false n [] := .of_plain (vacant_of_locate hfree).plain [] (.inl rfl)
  rw [hlocate, walkNames_of_entry (directory_again hfree hsame hclear) hname hentry hnotLink, walkNames, hentry]
  rfl

/-- **A name below a name that was free** leads to an entry of the directory that was made there. -/
theorem locate_below {b : String} {reach : Reach} {place : Place} (hb : Path.IsName b)
    (hlinkless : ∀ target, fs'.entry? (d ++ [n]) ≠ some (.link target))
    (hlinkless' : ∀ target, fs'.entry? (d ++ [n] ++ [b]) ≠ some (.link target))
    (h : fs'.locate reach (Location.text (l ++ [b])) = .ok place) :
    fs'.entry? (d ++ [n]) = some .directory ∧
      (place = .free (d ++ [n]) b ∧ fs'.entry? (d ++ [n] ++ [b]) = none ∨
        ∃ e, fs'.entry? (d ++ [n] ++ [b]) = some e ∧ place = .at (d ++ [n] ++ [b]) e) := by
  have hproper : Location.Proper (l ++ [b]) := by
    intro m hm
    rcases List.mem_append.mp hm with hm | hm
    · exact hl m hm
    · exact List.mem_singleton.mp hm ▸ hb
  obtain ⟨k, hwalk⟩ := walk_again hl hfree hsame hclear reach [b]
  have hlocate := walk_of_locate h
  rw [Location.isAbsolute_text, if_pos rfl, ofPath_text hproper, hwalk] at hlocate
  -- one step to the name that was free, one step below it; there are no links on the way
  have hname : LooksUp reach false n [b] := .of_plain (vacant_of_locate hfree).plain [b] (.inl rfl)
  cases hentry : fs'.entry? (d ++ [n]) with
  | none =>
    rw [walkNames_of_none (directory_again hfree hsame hclear) hname hentry] at hlocate
    cases hlocate
  | some e =>
    rw [walkNames_of_entry (directory_again hfree hsame hclear) hname hentry
      fun target heq => hlinkless target (heq ▸ hentry)] at hlocate
    cases walked_of_walkNames hlocate with
    | stay => exact absurd rfl hb.notDot
    | up => exact absurd rfl hb.notDots
    | free hdir _ hnone => exact ⟨hentry ▸ hdir, .inl ⟨rfl, hnone⟩⟩
    | link _ _ hlink => exact absurd hlink (hlinkless' _)
    | through _ _ hlink => exact absurd hlink (hlinkless' _)
    | down hdir _ hbelow _ hrest =>
      cases hrest with
      | arrived hthere => exact ⟨hentry ▸ hdir, .inr ⟨_, hthere, rfl⟩⟩

end Again

/-- A path to a free name leads to the directory that was made there. -/
theorem IsTree.find_made (htree : fs.IsTree) {d l : Location} {n : String} (hl : l.Proper)
    (hfree : fs.locate .entry l.text = .ok (.free d n)) :
    (fs.put (d ++ [n]) .directory).find l.text = .ok (d ++ [n], .directory) := by
  have hhere : FileSystem.entry? (fs.put (d ++ [n]) .directory) (d ++ [n]) = some .directory := by
    rw [get_put, if_pos rfl]
  exact find_eq_ok_iff.mpr (locate_of_taken hl hfree (sameOutside_put List.prefix_rfl _)
    (htree.clear_of_vacant (vacant_of_locate hfree)) hhere (fun _ h => by cases h) .target)

/-! ## Making directories -/

/-- A directory that could be made was made at a vacant name. -/
theorem mkdir?_eq_ok {fs' : FileSystem} {p : String} (h : fs.mkdir? p = .ok fs') :
    ∃ d n, fs.locate .entry (withoutFinalSlashes p) = .ok (.free d n) ∧ fs' = fs.put (d ++ [n]) .directory := by
  unfold mkdir? at h
  split at h
  · cases h
  · cases h
  · rename_i d n hfree
    exact ⟨d, n, hfree, (Except.ok.inj h).symm⟩

theorem mkdir_eq_ok {fs' : FileSystem} {p : String} (h : fs.mkdir p = .ok fs') : fs.mkdir? p = .ok fs' := by
  unfold mkdir at h
  cases hmade : fs.mkdir? p with
  | error problem =>
    rw [hmade] at h
    exact absurd (show Except.error _ = Except.ok _ from h) (by simp)
  | ok fs'' =>
    rw [hmade] at h
    exact congrArg Except.ok (Except.ok.inj h)

theorem IsTree.mkdir? {fs' : FileSystem} (h : fs.IsTree) {p : String} (hmade : fs.mkdir? p = .ok fs') : fs'.IsTree := by
  obtain ⟨d, n, hfree, rfl⟩ := mkdir?_eq_ok hmade
  exact h.put (vacant_of_locate hfree).directory (.inl rfl)

/-- What making the first of several directories can do. -/
theorem mkdirAll_cases (fs : FileSystem) (fuel : Nat) (p : String) (pending : List String) :
    (∃ e, fs.mkdirAll (fuel + 1) (p :: pending) = (.error e, fs)) ∨
      (∃ fs', fs.mkdir? p = .ok fs' ∧ fs.mkdirAll (fuel + 1) (p :: pending) = fs'.mkdirAll fuel pending) ∨
      (fs.isDirectory p = true ∧ fs.mkdirAll (fuel + 1) (p :: pending) = fs.mkdirAll fuel pending) ∨
      (beforeLastSlash p ≠ p ∧
        fs.mkdirAll (fuel + 1) (p :: pending) = fs.mkdirAll fuel (beforeLastSlash p :: p :: pending)) ∨
      (beforeLastSlash p = p ∧ pending ≠ [] ∧ fs.mkdirAll (fuel + 1) (p :: pending) = fs.mkdirAll fuel pending) := by
  generalize hresult : fs.mkdirAll (fuel + 1) (p :: pending) = result
  unfold mkdirAll at hresult
  dsimp only at hresult
  subst hresult
  repeat' split
  all_goals first
    | exact .inl ⟨_, rfl⟩
    | exact .inr (.inl ⟨_, ‹_›, rfl⟩)
    | exact .inr (.inr (.inl ⟨‹_›, rfl⟩))
    | exact .inr (.inr (.inl ⟨isDirectory_eq_true_iff.mpr ⟨_, ‹_›⟩, rfl⟩))
    | exact .inr (.inr (.inr (.inl ⟨‹_›, rfl⟩)))
    | exact .inr (.inr (.inr (.inr ⟨Decidable.not_not.mp ‹_›, mt List.isEmpty_iff.mpr ‹_›, rfl⟩)))

/-- Making directories keeps a tree a tree, whether it succeeds or not. -/
theorem IsTree.mkdirAll (h : fs.IsTree) (fuel : Nat) (pending : List String) : (fs.mkdirAll fuel pending).2.IsTree := by
  induction fuel generalizing fs pending with
  | zero => exact h
  | succ fuel ih =>
    cases pending with
    | nil => exact h
    | cons p pending =>
      obtain ⟨e, heq⟩ | ⟨fs', hmade, heq⟩ | ⟨-, heq⟩ | ⟨-, heq⟩ | ⟨-, -, heq⟩ := mkdirAll_cases fs fuel p pending
      · rw [heq]
        exact h
      · rw [heq]
        exact ih (h.mkdir? hmade) pending
      all_goals
        rw [heq]
        exact ih h _

theorem IsTree.mkdirRecursive (h : fs.IsTree) (p : String) : (fs.mkdirRecursive p).2.IsTree := h.mkdirAll _ _

/-! ## Nothing below a new directory -/

/-- **A new directory is empty.** Once a directory was made in a tree, no name joined to its path leads anywhere. -/
theorem IsTree.not_pathExists_join (htree : fs.IsTree) {l : Location} {p b : String} (hl : l.Proper)
    (hp : p = l.text ∨ p = l.text ++ "/") (hb : Path.IsName b) (hmade : fs.mkdir? p = .ok fs') :
    fs'.pathExists (Path.join p b) = false := by
  obtain ⟨d, n, hfree, rfl⟩ := mkdir?_eq_ok hmade
  rw [Location.withoutFinalSlashes_text hl hp] at hfree
  have hclear := htree.clear_of_vacant (vacant_of_locate hfree)
  have hsame : SameOutside (d ++ [n]) fs (fs.put (d ++ [n]) .directory) := sameOutside_put List.prefix_rfl _
  have hhere : FileSystem.entry? (fs.put (d ++ [n]) .directory) (d ++ [n]) = some .directory := by
    rw [get_put, if_pos rfl]
  have hnext : FileSystem.entry? (fs.put (d ++ [n]) .directory) (d ++ [n] ++ [b]) = none := by
    have hne : d ++ [n] ++ [b] ≠ d ++ [n] := fun h => by simpa using congrArg List.length h
    rw [get_put, if_neg hne]
    exact hclear _ (List.prefix_append _ _)
  rw [(Path.join_name hl hp hb).2, pathExists, find]
  cases hlocate : (fs.put (d ++ [n]) .directory).locate .target (Location.text (l ++ [b])) with
  | error problem => rfl
  | ok place =>
    obtain ⟨-, ⟨rfl, -⟩ | ⟨e, hentry, -⟩⟩ := locate_below hl hfree hsame hclear hb
      (by rw [hhere]; simp) (by rw [hnext]; simp) hlocate
    · rfl
    · rw [hnext] at hentry
      cases hentry

end FileSystem

namespace WorkDir

-- the length of the root is the fuel of the directories made on the way; nothing here may try to run them
attribute [local irreducible] FileSystem.mkdirRecursive FileSystem.mkdir?

/-- How a work directory came to be: the root was there or was made, and the directory's own name was free. -/
theorem create_eq_ok {fs fs' : FileSystem} {root name id path : String}
    (h : create fs root name id = (.ok path, fs')) :
    path = Path.join root (name ++ "-" ++ id) ∧
      ∃ fs₁, fs.mkdirRecursive root = (.ok (), fs₁) ∧ fs₁.mkdir? path = .ok fs' := by
  unfold create at h
  split at h
  · exact absurd (congrArg Prod.fst h) (by simp)
  · rename_i fs₁ hroot
    dsimp only at h
    split at h
    · exact absurd (congrArg Prod.fst h) (by simp)
    · rename_i fs₂ hmkdir
      obtain ⟨rfl, rfl⟩ : Path.join root (name ++ "-" ++ id) = path ∧ fs₂ = fs' := by
        simpa only [Prod.mk.injEq, Except.ok.injEq] using h
      exact ⟨rfl, fs₁, hroot, FileSystem.mkdir_eq_ok hmkdir⟩

/-- Where no work directory could be made, the files are the reason. -/
theorem create_eq_error {fs fs' : FileSystem} {root name id : String} {failure : Failure}
    (h : create fs root name id = (.error failure, fs')) : ∃ e, failure = .file e := by
  unfold create at h
  split at h
  · rename_i e fs₁ hroot
    exact ⟨e, by simpa using (congrArg Prod.fst h).symm⟩
  · dsimp only at h
    split at h
    · rename_i e hmkdir
      exact ⟨e, by simpa using (congrArg Prod.fst h).symm⟩
    · exact absurd (congrArg Prod.fst h) (by simp)

/-- The path of a work directory below an absolute root is that of a proper location. -/
theorem create_path {fs fs' : FileSystem} {root name id path : String} (hroot : Path.isAbsolute root = true)
    (h : create fs root name id = (.ok path, fs')) :
    ∃ l : Location, l.Proper ∧ (path = l.text ∨ path = l.text ++ "/") := by
  obtain ⟨rfl, _⟩ := create_eq_ok h
  exact Path.join_absolute hroot (by simp)

/-- **The work directory of a run is empty** when the run starts, whatever the tree around it holds. -/
theorem create_empty {fs fs' : FileSystem} {root name id path b : String} (htree : fs.IsTree)
    (hroot : Path.isAbsolute root = true) (hb : Path.IsName b) (h : create fs root name id = (.ok path, fs')) :
    fs'.pathExists (Path.join path b) = false := by
  obtain ⟨l, hl, hpath⟩ := create_path hroot h
  obtain ⟨_, fs₁, hmade, hmkdir⟩ := create_eq_ok h
  have htree₁ : fs₁.IsTree := by
    have hall := htree.mkdirRecursive root
    rw [hmade] at hall
    exact hall
  exact htree₁.not_pathExists_join hl hpath hb hmkdir

/-- A directory directly below a root other than the root of the tree is never refused. -/
theorem remove_isOk {r : Location} {name : String} (hr : r.Proper) (hne : r ≠ []) (hname : Path.IsName name)
    (fs : FileSystem) : (remove fs r.text (Path.join r.text name)).isOk = true := by
  obtain ⟨hproper, hjoin⟩ := Path.join_name hr (.inl rfl) hname
  have hbelow : isBelow r (r ++ [name]) = true := by
    rw [isBelow, Text.startsWith, Location.text_append_singleton hne, List.isPrefixOf_iff_prefix]
    exact ⟨name.toList, by rw [← String.toList_append]⟩
  unfold remove
  dsimp only
  rw [hjoin, Path.resolve_text hr, Path.resolve_text hproper, if_pos hbelow]
  cases fs.removeAll (Location.text (r ++ [name])) <;> rfl

/-- The one failure of giving a directory back has words. -/
theorem worded_of_remove {fs : FileSystem} {root path : String} {failure : Failure}
    (h : remove fs root path = .error failure) : ∃ reason, failure.text = .ok reason := by
  unfold remove at h
  dsimp only at h
  split at h
  · split at h <;> cases h
  · rw [← Except.error.inj h]
    exact ⟨_, rfl⟩

section Scope

attribute [local irreducible] create remove

variable {σ α : Type} [HasFiles σ] {root name id path : String} {body : String → σ → Except Failure α × σ} {s : σ}

/-- Without a directory nothing is done. -/
theorem scope_of_error {failure : Failure} {fs : FileSystem}
    (hcreate : create (HasFiles.files s) root name id = (.error failure, fs)) :
    scope root name id body s = (.error failure, HasFiles.setFiles s fs) := by
  unfold scope
  rw [hcreate]

/-- With a directory that is given back, what was done in it counts. -/
theorem scope_of_ok {fs fs' : FileSystem} (hcreate : create (HasFiles.files s) root name id = (.ok path, fs))
    (hremove : remove (HasFiles.files (body path (HasFiles.setFiles s fs)).2) root path = .ok fs') :
    scope root name id body s =
      ((body path (HasFiles.setFiles s fs)).1, HasFiles.setFiles (body path (HasFiles.setFiles s fs)).2 fs') := by
  unfold scope
  rw [hcreate]
  dsimp only
  rw [hremove]

/-- With a directory that is not given back, the refusal takes the place of what was done in it. -/
theorem scope_of_refused {failure : Failure} {fs : FileSystem}
    (hcreate : create (HasFiles.files s) root name id = (.ok path, fs))
    (hremove : remove (HasFiles.files (body path (HasFiles.setFiles s fs)).2) root path = .error failure) :
    scope root name id body s = (.error failure, (body path (HasFiles.setFiles s fs)).2) := by
  unfold scope
  rw [hcreate]
  dsimp only
  rw [hremove]

end Scope

end WorkDir

/-- The path leads to a directory that may not be listed. -/
def FileSystem.Unlistable (fs : FileSystem) (p : String) : Prop :=
  ∃ l, fs.find p = .ok (l, .directory) ∧ fs.faults.listing l = true

/-- **A scan fails** just if the directory may not be listed, here for one that is named by the text of a proper
location: what was found to be a directory is the directory that is read. -/
theorem Evidence.scan_eq_error_iff {l : Location} (h : l.Proper) (fs : FileSystem) {failure : Failure} :
    scan fs l.text = .error failure ↔
      fs.Unlistable l.text ∧ failure = .file ⟨.denied, .scandir, some l.text⟩ := by
  unfold scan
  cases hdir : fs.isDirectory l.text with
  | false =>
    have hlistable : ¬fs.Unlistable l.text := by
      rintro ⟨m, hfind, -⟩
      rw [FileSystem.isDirectory_eq_true_iff.mpr ⟨m, hfind⟩] at hdir
      cases hdir
    exact iff_of_false (by simp) fun hrefused => hlistable hrefused.1
  | true =>
    rw [if_pos rfl]
    dsimp only
    rw [Path.resolve_text h]
    obtain ⟨m, hfind⟩ := FileSystem.isDirectory_eq_true_iff.mp hdir
    have hunlistable : fs.Unlistable l.text ↔ fs.faults.listing m = true := by
      constructor
      · rintro ⟨m', hfind', hlisting⟩
        obtain rfl : m = m' := (Prod.mk.inj (Except.ok.inj (hfind.symm.trans hfind'))).1
        exact hlisting
      · exact fun hlisting => ⟨m, hfind, hlisting⟩
    rw [hunlistable, FileSystem.readDirectory_of_find hfind]
    cases fs.faults.listing m with
    | false => exact iff_of_false (by simp) fun hrefused => Bool.false_ne_true hrefused.1
    | true =>
      have hdenied : FileProblem.denied ≠ .missing := by decide
      simp only [if_true, if_neg hdenied, true_and, Except.error.injEq]
      exact eq_comm

end DataplaneVerdict
