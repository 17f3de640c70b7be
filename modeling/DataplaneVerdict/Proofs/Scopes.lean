import DataplaneVerdict.Proofs.SharedRoot

/-!
# `Proofs.Scopes` — scopes that share a root

Any number of scopes work below one root at the same time. Each makes the root, makes its directory, lets its body work
there and gives the directory back; between any two of these steps all the others may take theirs. The ids may repeat.

The steps are those of `WorkDir.create` and `WorkDir.remove`, one operation on the files each (`Step`). What holds after
every run of them is `Shared`: before the first directory is made, files only come to be on the way to the root
(`Quiet`); from then on everything differs from the files of that moment, the ground, only at and below names that were
free in it, and each scope that is open holds such a name alone (`Since`). Nothing on the way to the root can therefore
change any more, so every path goes on leading where it led.

## Contents
- **Scopes.** `Progress`, `Scopes`, `Step`, `Steps`.
- **The invariant.** `Quiet`, `Since`; one lemma for each kind of change, then `Shared.step` and `Shared.steps`.
- **Openings.** What `WorkDir.create` and `WorkDir.scope` do at a name that is taken.
-/

namespace DataplaneVerdict

namespace WorkDir

open FileSystem

/-! ## Scopes -/

/-- How far a scope has come. -/
inductive Progress where
  | waiting
  /-- the root has been made -/
  | arrived
  /-- the directory has been made, and the body has not begun -/
  | entered (path : String)
  | working (path : String)
  /-- there is no directory, and there will be none -/
  | refused (f : Failure)
  | closed

/-- The directory that a scope holds. -/
def Progress.path? : Progress → Option String
  | entered path | working path => some path
  | _ => none

/-- Scopes and the files that they share. -/
structure Scopes (ι : Type) where
  files : FileSystem
  progress : ι → Progress

/-- A scope is open, and its directory stands at `w`. -/
def Scopes.Stands {ι : Type} (s : Scopes ι) (i : ι) (w : Location) : Prop :=
  ∃ path, (s.progress i).path? = some path ∧ s.files.find path = .ok (w, .directory)

section Machine

variable {ι : Type} [DecidableEq ι]

/-- Scope `i` comes so far. -/
def Scopes.now (s : Scopes ι) (i : ι) (p : Progress) (fs : FileSystem) : Scopes ι :=
  ⟨fs, fun j => if j = i then p else s.progress j⟩

/-- A body works strictly inside the directory that its path leads to. -/
structure Inside (path : String) (fs fs' : FileSystem) : Prop where
  tree : fs'.IsTree
  cwd : fs'.cwd = fs.cwd
  outside : ∃ w, fs.find path = .ok (w, .directory) ∧ ∀ m, (w <+: m → m = w) → fs'.entry? m = fs.entry? m

/-- **One step of scope `i`.** The steps up to `missed` are `create`, cut between its two operations; the last two are
    `remove`. -/
inductive Step (root : String) (name : ι → String) (i : ι) (s : Scopes ι) : Scopes ι → Prop
  | arrive {fs : FileSystem} (h : s.progress i = .waiting) (hmade : s.files.mkdirRecursive root = (.ok (), fs)) :
      Step root name i s (s.now i .arrived fs)
  | strand {fs : FileSystem} {e : FileError} (h : s.progress i = .waiting)
      (hmade : s.files.mkdirRecursive root = (.error e, fs)) : Step root name i s (s.now i (.refused (.file e)) fs)
  | enter {fs : FileSystem} {id : String} (hid : '/' ∉ id.toList) (h : s.progress i = .arrived)
      (hmade : s.files.mkdir (Path.join root (name i ++ "-" ++ id)) = .ok fs) :
      Step root name i s (s.now i (.entered (Path.join root (name i ++ "-" ++ id))) fs)
  | miss {id : String} {e : FileError} (hid : '/' ∉ id.toList) (h : s.progress i = .arrived)
      (hmade : s.files.mkdir (Path.join root (name i ++ "-" ++ id)) = .error e) :
      Step root name i s (s.now i (.refused (.file e)) s.files)
  | begin {path : String} (h : s.progress i = .entered path) : Step root name i s (s.now i (.working path) s.files)
  | work {path : String} {fs : FileSystem} (h : s.progress i = .working path) (hinside : Inside path s.files fs) :
      Step root name i s (s.now i (.working path) fs)
  | leave {path : String} {fs : FileSystem} (h : s.progress i = .working path)
      (hremove : remove s.files root path = .ok fs) : Step root name i s (s.now i .closed fs)
  | abandon {path : String} {f : Failure} (h : s.progress i = .working path)
      (hremove : remove s.files root path = .error f) : Step root name i s (s.now i .closed s.files)

/-- Steps of any scopes, one after the other. -/
inductive Steps (root : String) (name : ι → String) (s : Scopes ι) : Scopes ι → Prop
  | refl : Steps root name s s
  | tail {s' s'' : Scopes ι} {i : ι} (hrun : Steps root name s s') (hstep : Step root name i s' s'') :
      Steps root name s s''

end Machine

/-! ## The invariant -/

section Invariant

variable {ι : Type} {root : String} {name : ι → String} {start ground fs fs' : FileSystem} {d : Location}
  {progress progress' : ι → Progress} {s s' : Scopes ι} {i : ι}

theorem join_inj {b b' : String} (hb : Path.IsName b) (hb' : Path.IsName b')
    (h : Path.join root b = Path.join root b') :
    b = b' := by
  obtain ⟨ahead, hway⟩ := Path.exists_way root
  have hnames : (Way.ofPath (Path.join root b)).names = (Way.ofPath (Path.join root b')).names := by rw [h]
  rw [(hway b hb).1, (hway b' hb').1] at hnames
  simpa using hnames

/-- Before the first directory is made: files came to be on the way to the root only, and not even there once the root's
    own name was taken. -/
structure Quiet (root : String) (start fs : FileSystem) (progress : ι → Progress) : Prop where
  tree : fs.IsTree
  part : start.IsPart fs
  cwd : fs.cwd = start.cwd
  same : start.Taken root → fs = start
  nobody : ∀ j, (progress j).path? = none
  arrived : ∀ j, progress j = .arrived → fs.Taken root

/-- Since the first directory was made on the ground `ground`, in its directory `d`. -/
structure Since (root : String) (start ground : FileSystem) (d : Location) (fs : FileSystem) (progress : ι → Progress) :
    Prop where
  tree : fs.IsTree
  treeBefore : ground.IsTree
  part : start.IsPart ground
  cwdBefore : ground.cwd = start.cwd
  cwd : fs.cwd = ground.cwd
  same : start.Taken root → ground = start
  taken : ground.Taken root
  spare : ∃ b, ground.Spare root d b
  /-- what is new stands at names that were free, and below them -/
  changed : ∀ m, fs.entry? m = ground.entry? m ∨ ∃ b, ground.Spare root d b ∧ d ++ [b] <+: m
  held : ∀ j path, (progress j).path? = some path →
    ∃ b, ground.Spare root d b ∧ path = Path.join root b ∧ fs.entry? (d ++ [b]) = some .directory
  apart : ∀ j k path, (progress j).path? = some path → (progress k).path? = some path → j = k
  empty : ∀ j b, progress j = .entered (Path.join root b) → ground.Spare root d b →
    ∀ m, m ≠ [] → fs.entry? (d ++ [b] ++ m) = none

namespace Since

variable (h : Since root start ground d fs progress)
include h

/-- Nothing that stood on the ground was taken away. -/
theorem isPart : ground.IsPart fs := by
  intro m e hm
  rcases h.changed m with hsame | ⟨b, hspare, hbelow⟩
  · rw [hsame, hm]
  · rw [h.treeBefore.clear_of_vacant hspare.vacant m hbelow] at hm
    cases hm

/-- The path of a directory that is held leads to it. -/
theorem find_held {j : ι} {path : String} (hj : (progress j).path? = some path) :
    ∃ b, ground.Spare root d b ∧ path = Path.join root b ∧ fs.entry? (d ++ [b]) = some .directory ∧
      fs.find path = .ok (d ++ [b], .directory) := by
  obtain ⟨b, hspare, rfl, hdir⟩ := h.held j path hj
  exact ⟨b, hspare, rfl, hdir, find_eq_ok_iff.mpr (hspare.locate_made h.isPart h.cwd hdir .target)⟩

/-- What one name's directory holds changes, and nobody waits for that directory to be empty. -/
theorem change {b : String} (hspare : ground.Spare root d b) (htree : fs'.IsTree) (hcwd : fs'.cwd = fs.cwd)
    (hout : SameOutside (d ++ [b]) fs fs')
    (hhere : ∀ j, (progress j).path? = some (Path.join root b) → fs'.entry? (d ++ [b]) = some .directory)
    (hempty : ∀ j, progress j = .entered (Path.join root b) → ∀ m, m ≠ [] → fs'.entry? (d ++ [b] ++ m) = none) :
    Since root start ground d fs' progress := by
  have hother {b' : String} (hne : b' ≠ b) (m : Location) :
      fs'.entry? (d ++ [b'] ++ m) = fs.entry? (d ++ [b'] ++ m) := by
    refine hout _ fun hprefix => hne ?_
    rw [List.append_assoc, List.prefix_append_right_inj] at hprefix
    exact (List.cons_prefix_cons.mp hprefix).1.symm
  refine { h with tree := htree, cwd := hcwd.trans h.cwd, changed := ?_, held := ?_, empty := ?_ }
  · intro m
    by_cases hm : d ++ [b] <+: m
    · exact .inr ⟨b, hspare, hm⟩
    · rw [hout m hm]
      exact h.changed m
  · intro j path hj
    obtain ⟨b', hspare', rfl, hdir⟩ := h.held j path hj
    refine ⟨b', hspare', rfl, ?_⟩
    by_cases hb : b' = b
    · subst hb
      exact hhere j hj
    · simpa using (hother hb []).trans (by simpa using hdir)
  · intro j b' hj hspare' m hm
    by_cases hb : b' = b
    · subst hb
      exact hempty j hj m hm
    · rw [hother hb]
      exact h.empty j b' hj hspare' m hm

end Since

/-- The first name joined to the root that is found to be free makes the ground. -/
theorem Quiet.since (h : Quiet root start fs progress) (htaken : fs.Taken root) {b : String}
    (hspare : fs.Spare root d b) :
    Since root start fs d fs progress := by
  have hnobody {j : ι} {path : String} (hj : (progress j).path? = some path) : False := by
    rw [h.nobody j] at hj
    cases hj
  exact {
    tree := h.tree, treeBefore := h.tree, part := h.part, cwdBefore := h.cwd, cwd := rfl
    same := h.same, taken := htaken
    spare := ⟨b, hspare⟩, changed := fun _ => .inl rfl, held := fun _ _ hj => (hnobody hj).elim
    apart := fun _ _ _ hj => (hnobody hj).elim
    empty := fun j b hj => by
      have hpath : (progress j).path? = some (Path.join root b) := by rw [hj]; rfl
      exact (hnobody hpath).elim }

variable [DecidableEq ι]

/-- A scope moves on while the files stay as they are. It holds no other directory than before, and has begun. -/
theorem Since.move (h : Since root start ground d fs progress) {p : Progress} (hentered : ∀ path, p ≠ .entered path)
    (hheld : ∀ path, p.path? = some path → (progress i).path? = some path) :
    Since root start ground d fs (fun j => if j = i then p else progress j) := by
  have hold (j : ι) (path : String) (hj : (if j = i then p else progress j).path? = some path) :
      (progress j).path? = some path := by
    split at hj
    · rename_i hji
      rw [hji]
      exact hheld path hj
    · exact hj
  refine { h with held := ?_, apart := ?_, empty := ?_ }
  · intro j path hj
    exact h.held j path (hold j path hj)
  · intro j k path hj hk
    exact h.apart j k path (hold j path hj) (hold k path hk)
  · intro j b hj
    split at hj
    · exact absurd hj (hentered _)
    · exact h.empty j b hj

/-- A directory is made at a free name, and its scope is the only one that holds it. -/
theorem Since.enter (h : Since root start ground d fs progress) {b : String} (hspare : ground.Spare root d b)
    (hnone : fs.entry? (d ++ [b]) = none) :
    Since root start ground d (fs.put (d ++ [b]) .directory)
      (fun j => if j = i then .entered (Path.join root b) else progress j) := by
  have hvacant : fs.Vacant d b := ⟨hspare.vacant.plain, h.isPart _ _ hspare.vacant.directory, hnone⟩
  have hclear := h.tree.clear_of_vacant hvacant
  have hhere : FileSystem.entry? (fs.put (d ++ [b]) .directory) (d ++ [b]) = some .directory := by
    rw [get_put, if_pos rfl]
  have hbelow (m : Location) (hm : m ≠ []) :
      FileSystem.entry? (fs.put (d ++ [b]) .directory) (d ++ [b] ++ m) = none := by
    have hne : d ++ [b] ++ m ≠ d ++ [b] := by simp [hm]
    rw [get_put, if_neg hne]
    exact hclear _ (List.prefix_append _ _)
  have hnobody {j : ι} : (progress j).path? ≠ some (Path.join root b) := by
    intro hj
    obtain ⟨b', hspare', hpath, hdir⟩ := h.held j _ hj
    rw [← join_inj hspare.isName hspare'.isName hpath, hnone] at hdir
    cases hdir
  have hput : Since root start ground d (fs.put (d ++ [b]) .directory) progress :=
    h.change hspare (h.tree.put hvacant.directory (.inl rfl)) (cwd_put _ _ _) (sameOutside_put List.prefix_rfl _)
      (fun _ _ => hhere) (fun _ _ => hbelow)
  refine { hput with held := ?_, apart := ?_, empty := ?_ }
  · intro j path hj
    split at hj
    · obtain rfl := Option.some.inj hj
      exact ⟨b, hspare, rfl, hhere⟩
    · exact hput.held j path hj
  · intro j k path hj hk
    split at hj <;> split at hk
    · rename_i hji hki
      exact hji.trans hki.symm
    · exact absurd (hk.trans hj.symm) hnobody
    · exact absurd (hj.trans hk.symm) hnobody
    · exact hput.apart j k path hj hk
  · intro j b' hj hspare' m hm
    split at hj
    · rw [join_inj hspare'.isName hspare.isName (Progress.entered.inj hj).symm]
      exact hbelow m hm
    · exact hput.empty j b' hj hspare' m hm

omit [DecidableEq ι] in
/-- A body works in the directory that its scope holds. -/
theorem Since.work (h : Since root start ground d fs progress) {path : String} (hworking : progress i = .working path)
    (hinside : Inside path fs fs') : Since root start ground d fs' progress := by
  have hpath : (progress i).path? = some path := by rw [hworking]; rfl
  obtain ⟨b, hspare, rfl, hdir, hfind⟩ := h.find_held hpath
  obtain ⟨htree, hcwd, w, hw, hout⟩ := hinside
  obtain rfl : w = d ++ [b] := by
    rw [hfind] at hw
    simpa using hw.symm
  refine h.change hspare htree hcwd (fun m hm => hout m fun hprefix => absurd hprefix hm) ?_ ?_
  · intro j hj
    rw [hout _ fun _ => rfl, hdir]
  · intro j hj
    have hji : j = i := h.apart j i _ (by rw [hj]; rfl) hpath
    rw [hji, hworking] at hj
    cases hj

/-- A scope gives its directory back: the directory goes with all that is in it, or nothing does. -/
theorem Since.leave (h : Since root start ground d fs progress)
    (hcwd : Path.isAbsolute root = false → start.cwd.Proper) {path : String} (hpath : (progress i).path? = some path)
    (hremove : remove fs root path = .ok fs') :
    ∃ b, ground.Spare root d b ∧ path = Path.join root b ∧ SameOutside (d ++ [b]) fs fs' ∧
      Since root start ground d fs' (fun j => if j = i then .closed else progress j) := by
  obtain ⟨b, hspare, rfl, hdir⟩ := h.held i path hpath
  have hproper : Path.isAbsolute root = false → fs.cwd.Proper := by
    rw [h.cwd, h.cwdBefore]
    exact hcwd
  have hmoved : Since root start ground d fs (fun j => if j = i then .closed else progress j) :=
    h.move (by simp) (fun _ hq => by cases hq)
  refine ⟨b, hspare, rfl, ?_⟩
  rcases hspare.remove_made h.isPart h.cwd hdir h.tree hproper hremove with rfl | rfl
  · exact ⟨fun _ _ => rfl, hmoved⟩
  · have hout : SameOutside (d ++ [b]) fs (fs.erase (d ++ [b])) := by
      intro m hm
      rw [get_erase, if_neg hm]
    -- nobody else holds the directory, so nobody misses it
    have hnobody (j : ι) : (if j = i then Progress.closed else progress j).path? ≠ some (Path.join root b) := by
      intro hj
      split at hj
      · cases hj
      · rename_i hji
        exact hji (h.apart j i _ hj hpath)
    refine ⟨hout, hmoved.change hspare (h.tree.erase _) (cwd_erase _ _) hout (fun j hj => absurd hj (hnobody j)) ?_⟩
    intro j hj
    exact absurd (by rw [hj]; rfl) (hnobody j)

/-- **What is true of all scopes** after any number of steps. -/
def Shared (root : String) (start : FileSystem) (s : Scopes ι) : Prop :=
  Quiet root start s.files s.progress ∨ ∃ ground d, Since root start ground d s.files s.progress

omit [DecidableEq ι] in
/-- Whoever holds a directory shows that there is a ground. -/
theorem Shared.since (h : Shared root start s) {path : String} (hpath : (s.progress i).path? = some path) :
    ∃ ground d, Since root start ground d s.files s.progress := by
  rcases h with h | h
  · rw [h.nobody i] at hpath
    cases hpath
  · exact h

/-- Making the root keeps what is true of all scopes, whether it succeeds or not. -/
theorem Shared.makeRoot (h : Shared root start s) {r : Except FileError Unit}
    (hmade : s.files.mkdirRecursive root = (r, fs))
    {p : Progress} (hp : p.path? = none) (harrived : p = .arrived → r = .ok ()) :
    Shared root start (s.now i p fs) := by
  rcases h with h | ⟨ground, d, h⟩
  · obtain ⟨hpart, hcwd, htaken⟩ := mkdirRecursive_taken hmade
    have htree : fs.IsTree := by
      have hall := h.tree.mkdirRecursive root
      rwa [hmade] at hall
    refine .inl ⟨htree, fun m e hm => hpart m e (h.part m e hm), hcwd.trans h.cwd, ?_, ?_, ?_⟩
    · intro hstart
      have hfiles := h.same hstart
      have hsame := (mkdirRecursive_of_taken hstart).1
      rw [← hfiles, hmade] at hsame
      exact hsame.trans hfiles
    · intro j
      dsimp only [Scopes.now]
      split
      · exact hp
      · exact h.nobody j
    · intro j hj
      dsimp only [Scopes.now] at hj ⊢
      split at hj
      · exact htaken (harrived hj)
      · exact (h.arrived j hj).of_isPart hpart hcwd
  · -- the root's name is taken, so nothing is made
    have hsame := (mkdirRecursive_of_taken (h.taken.of_isPart h.isPart h.cwd)).1
    rw [hmade] at hsame
    subst hsame
    refine .inr ⟨ground, d, h.move ?_ ?_⟩
    · rintro path rfl
      cases hp
    · intro path hpath
      rw [hp] at hpath
      cases hpath

/-- Scopes that fail to make a directory leave things as they are. -/
theorem Shared.miss (h : Shared root start s) (f : Failure) : Shared root start (s.now i (.refused f) s.files) := by
  rcases h with h | ⟨ground, d, h⟩
  · refine .inl { h with nobody := ?_, arrived := ?_ }
    · intro j
      dsimp only [Scopes.now]
      split
      · rfl
      · exact h.nobody j
    · intro j hj
      dsimp only [Scopes.now] at hj
      split at hj
      · cases hj
      · exact h.arrived j hj
  · exact .inr ⟨ground, d, h.move (by simp) (fun _ hpath => by cases hpath)⟩

/-- **Each step** keeps what is true of all scopes. -/
theorem Shared.step (hname : ∀ i, '/' ∉ (name i).toList) (hcwd : Path.isAbsolute root = false → start.cwd.Proper)
    (h : Shared root start s) (hstep : Step root name i s s') : Shared root start s' := by
  cases hstep with
  | arrive hwaiting hmade => exact h.makeRoot hmade rfl fun _ => rfl
  | strand hwaiting hmade => exact h.makeRoot hmade rfl fun harrived => by cases harrived
  | @enter fs id hid harrived hmade =>
    have hb := isName_hyphen (hname i) hid
    have hmade := mkdir_eq_ok hmade
    rcases h with h | ⟨ground, d, h⟩
    · obtain ⟨d, hspare, rfl⟩ := spare_of_mkdir? hb hmade
      exact .inr ⟨s.files, d, (h.since (h.arrived i harrived) hspare).enter hspare hspare.vacant.nothing⟩
    · obtain ⟨b, hspare⟩ := h.spare
      obtain ⟨hspare, hnone, rfl⟩ := hspare.mkdir? h.isPart h.cwd hb hmade
      exact .inr ⟨ground, d, h.enter hspare hnone⟩
  | miss hid harrived hmade => exact h.miss _
  | @begin path hentered =>
    have hpath : (s.progress i).path? = some path := by rw [hentered]; rfl
    obtain ⟨ground, d, h⟩ := h.since hpath
    exact .inr ⟨ground, d, h.move (by simp) (fun _ hq => hpath.trans hq)⟩
  | @work path fs hworking hinside =>
    have hpath : (s.progress i).path? = some path := by rw [hworking]; rfl
    obtain ⟨ground, d, h⟩ := h.since hpath
    exact .inr ⟨ground, d, (h.work hworking hinside).move (by simp) (fun _ hq => hpath.trans hq)⟩
  | @leave path fs hworking hremove =>
    have hpath : (s.progress i).path? = some path := by rw [hworking]; rfl
    obtain ⟨ground, d, h⟩ := h.since hpath
    obtain ⟨b, -, -, -, hleft⟩ := h.leave hcwd hpath hremove
    exact .inr ⟨ground, d, hleft⟩
  | @abandon path f hworking hremove =>
    have hpath : (s.progress i).path? = some path := by rw [hworking]; rfl
    obtain ⟨ground, d, h⟩ := h.since hpath
    exact .inr ⟨ground, d, h.move (by simp) (fun _ hq => by cases hq)⟩

/-- **Every run** keeps it. -/
theorem Shared.steps (hname : ∀ i, '/' ∉ (name i).toList) {s₀ : Scopes ι} (htree : s₀.files.IsTree)
    (hcwd : Path.isAbsolute root = false → s₀.files.cwd.Proper) (hstart : ∀ j, s₀.progress j = .waiting)
    (hrun : Steps root name s₀ s) : Shared root s₀.files s := by
  induction hrun with
  | refl =>
    refine .inl ⟨htree, fun _ _ h => h, rfl, fun _ => rfl, fun j => by rw [hstart j]; rfl, fun j hj => ?_⟩
    rw [hstart j] at hj
    cases hj
  | tail _ hstep ih => exact ih.step hname hcwd hstep

omit [DecidableEq ι] in
/-- Open scopes stand next to each other. -/
theorem Since.stands_iff (h : Since root start ground d s.files s.progress) {w : Location} :
    s.Stands i w ↔ ∃ b, ground.Spare root d b ∧ (s.progress i).path? = some (Path.join root b) ∧ w = d ++ [b] := by
  constructor
  · rintro ⟨path, hpath, hw⟩
    obtain ⟨b, hspare, rfl, -, hfind⟩ := h.find_held hpath
    rw [hfind] at hw
    exact ⟨b, hspare, hpath, by simpa using hw.symm⟩
  · rintro ⟨b, hspare, hpath, rfl⟩
    obtain ⟨b', hspare', heq, -, hfind⟩ := h.find_held hpath
    rw [← join_inj hspare.isName hspare'.isName heq] at hfind
    exact ⟨_, hpath, hfind⟩

omit [DecidableEq ι] in
theorem Since.disjoint (h : Since root start ground d s.files s.progress) {j : ι} {w w' : Location} (hij : i ≠ j)
    (hi : s.Stands i w) (hj : s.Stands j w') : ¬w <+: w' := by
  obtain ⟨b, hspare, hpath, rfl⟩ := h.stands_iff.mp hi
  obtain ⟨b', hspare', hpath', rfl⟩ := h.stands_iff.mp hj
  rw [List.prefix_append_right_inj]
  intro hprefix
  obtain rfl : b = b' := (List.cons_prefix_cons.mp hprefix).1
  exact hij (h.apart i j _ hpath hpath')

/-! ## Openings -/

section Openings

-- the length of the root is the fuel of the directories made on the way; nothing here may try to run them
attribute [local irreducible] FileSystem.mkdirRecursive FileSystem.mkdir

omit [DecidableEq ι] in
theorem mkdir_of_taken {b : String} (hb : Path.IsName b) {l : Location} {e : Entry}
    (hat : fs.locate .entry (Path.join root b) = .ok (.at l e)) :
    fs.mkdir (Path.join root b) = .error ⟨.alreadyThere, .mkdir, some (Path.join root b)⟩ := by
  unfold FileSystem.mkdir FileSystem.mkdir?
  rw [withoutFinalSlashes_join hb, hat]
  rfl

/-- **A name that is taken** makes no work directory. -/
theorem create_of_taken {label id : String} (hb : Path.IsName (label ++ "-" ++ id)) {l : Location} {e : Entry}
    (hat : fs.locate .entry (Path.join root (label ++ "-" ++ id)) = .ok (.at l e)) :
    ∃ f fs', create fs root label id = (.error f, fs') ∧ fs.IsPart fs' ∧ (fs.Taken root → fs' = fs) ∧
      (fs.isDirectory root = true → f = .file ⟨.alreadyThere, .mkdir, some (Path.join root (label ++ "-" ++ id))⟩) := by
  unfold create
  cases hmade : fs.mkdirRecursive root with
  | mk r fs₁ =>
    obtain ⟨hpart, hcwd, -⟩ := mkdirRecursive_taken hmade
    have hsame : fs.Taken root → fs₁ = fs := by
      intro htaken
      have hnothing := (mkdirRecursive_of_taken htaken).1
      rwa [hmade] at hnothing
    cases r with
    | error e' =>
      refine ⟨.file e', fs₁, rfl, hpart, hsame, fun hdir => ?_⟩
      have hok := (mkdirRecursive_of_taken (taken_of_isDirectory hdir)).2 hdir
      rw [hmade] at hok
      cases hok
    | ok _ =>
      -- what has the name still has it after the root was made
      have hagain : fs₁.locate .entry (Path.join root (label ++ "-" ++ id)) = .ok (.at l e) := by
        rw [locate_eq_walk hat, hcwd]
        exact walk_of_isPart hpart (walk_of_locate hat)
      dsimp only
      rw [mkdir_of_taken hb hagain]
      exact ⟨_, fs₁, rfl, hpart, hsame, fun _ => rfl⟩

/-- **Making a work directory** is two steps of a scope, or one if the root cannot be made. -/
theorem Steps.create {id : String} (hid : '/' ∉ id.toList) (hwaiting : s.progress i = .waiting) :
    ∃ s', Steps root name s s' ∧ s'.files = (create s.files root (name i) id).2 ∧
      (∀ path, (create s.files root (name i) id).1 = .ok path → s'.progress i = .entered path) ∧
      (∀ f, (create s.files root (name i) id).1 = .error f → s'.progress i = .refused f) := by
  unfold WorkDir.create
  cases hroot : s.files.mkdirRecursive root with
  | mk r fs =>
    cases r with
    | error e =>
      refine ⟨_, .tail .refl (.strand hwaiting hroot), rfl, (fun _ h => by cases h), fun f h => ?_⟩
      rw [← Except.error.inj h]
      exact if_pos rfl
    | ok _ =>
      have harrived : (s.now i .arrived fs).progress i = .arrived := if_pos rfl
      have hfirst : Steps root name s (s.now i .arrived fs) := .tail .refl (.arrive hwaiting hroot)
      dsimp only
      cases hmade : fs.mkdir (Path.join root (name i ++ "-" ++ id)) with
      | error e =>
        refine ⟨_, .tail hfirst (.miss hid harrived hmade), rfl, (fun _ h => by cases h), fun f h => ?_⟩
        rw [← Except.error.inj h]
        exact if_pos rfl
      | ok fs' =>
        refine ⟨_, .tail hfirst (.enter hid harrived hmade), rfl, fun path h => ?_, fun _ h => by cases h⟩
        rw [← Except.ok.inj h]
        exact if_pos rfl

end Openings

/-- A scope that fails to open takes nothing away, and changes nothing at all where the root's name is taken. -/
theorem Step.refused (hstep : Step root name i s s') {f : Failure} (hrefused : s'.progress i = .refused f) :
    s.files.IsPart s'.files ∧ (s.files.Taken root → s'.files = s.files) := by
  have hnow {p : Progress} {fs : FileSystem} : (s.now i p fs).progress i = p := if_pos rfl
  cases hstep with
  | strand hwaiting hmade =>
    refine ⟨(mkdirRecursive_taken hmade).1, fun htaken => ?_⟩
    have hnothing := (mkdirRecursive_of_taken htaken).1
    rwa [hmade] at hnothing
  | miss => exact ⟨fun _ _ h => h, fun _ => rfl⟩
  | arrive | enter | begin | work | leave | abandon =>
    rw [hnow] at hrefused
    cases hrefused

/-- A scope that closes held its directory until then, and what stands elsewhere stays as it is. -/
theorem Step.closed (hcwd : Path.isAbsolute root = false → start.cwd.Proper)
    (h : Shared root start s) (hstep : Step root name i s s') (hclosed : s'.progress i = .closed) :
    ∃ ground d b, Since root start ground d s.files s.progress ∧ Since root start ground d s'.files s'.progress ∧
      s.Stands i (d ++ [b]) ∧ SameOutside (d ++ [b]) s.files s'.files ∧ ∀ j, j ≠ i → s'.progress j = s.progress j := by
  have hnow {p : Progress} {fs : FileSystem} : (s.now i p fs).progress i = p := if_pos rfl
  have hothers {p : Progress} {fs : FileSystem} (j : ι) (hj : j ≠ i) : (s.now i p fs).progress j = s.progress j :=
    if_neg hj
  cases hstep with
  | @leave path fs hworking hremove =>
    have hpath : (s.progress i).path? = some path := by rw [hworking]; rfl
    obtain ⟨ground, d, h⟩ := h.since hpath
    obtain ⟨b, hspare, rfl, hout, hleft⟩ := h.leave hcwd hpath hremove
    exact ⟨ground, d, b, h, hleft, h.stands_iff.mpr ⟨b, hspare, hpath, rfl⟩, hout, hothers⟩
  | @abandon path f hworking hremove =>
    have hpath : (s.progress i).path? = some path := by rw [hworking]; rfl
    obtain ⟨ground, d, h⟩ := h.since hpath
    obtain ⟨b, hspare, rfl, -⟩ := h.held i path hpath
    exact ⟨ground, d, b, h, h.move (by simp) (fun _ hq => by cases hq), h.stands_iff.mpr ⟨b, hspare, hpath, rfl⟩,
      fun _ _ => rfl, hothers⟩
  | arrive | strand | enter | miss | begin | work =>
    rw [hnow] at hclosed
    cases hclosed

omit [DecidableEq ι] in
/-- What stood below the root's names before the first scope stands there unchanged. -/
theorem Shared.kept (h : Shared root start s) (htaken : start.Taken root) {b : String} (hb : Path.IsName b)
    {l : Location} {e : Entry} (hat : start.locate .entry (Path.join root b) = .ok (.at l e)) {m : Location}
    (hm : l <+: m) : s.files.entry? m = start.entry? m := by
  rcases h with h | ⟨ground, d, h⟩
  · rw [h.same htaken]
  · obtain rfl := h.same htaken
    obtain ⟨b', hspare⟩ := h.spare
    obtain ⟨-, ⟨hplace, -⟩ | ⟨e', hentry, hplace⟩⟩ := hspare.place_join (fun _ _ h => h) rfl hb hat
    · cases hplace
    · obtain ⟨rfl, -⟩ := Place.at.inj hplace
      rcases h.changed m with hsame | ⟨b'', hspare'', hbelow⟩
      · exact hsame
      · -- two names of one directory with something in common below them are the same name
        have hb'' : b = b'' := by
          have hlength : (d ++ [b]).length = (d ++ [b'']).length := by simp
          have hsame := (List.prefix_of_prefix_length_le hm hbelow (Nat.le_of_eq hlength)).eq_of_length hlength
          simpa using hsame
        rw [hb'', hspare''.vacant.nothing] at hentry
        cases hentry

omit [DecidableEq ι] in
theorem Shared.isPart (h : Shared root start s) : start.IsPart s.files := by
  rcases h with h | ⟨ground, d, h⟩
  · exact h.part
  · exact fun m e hm => h.isPart m e (h.part m e hm)

omit [DecidableEq ι] in
/-- Where a directory stands, the root's name is taken. -/
theorem Shared.taken (h : Shared root start s) {j : ι} {w : Location} (hj : s.Stands j w) : s.files.Taken root := by
  rcases h with h | ⟨ground, d, h⟩
  · obtain ⟨path, hpath, -⟩ := hj
    rw [h.nobody j] at hpath
    cases hpath
  · exact h.taken.of_isPart h.isPart h.cwd

omit [DecidableEq ι] in
theorem Shared.taken_of (h : Shared root start s) (hroot : s.files.isDirectory root = true ∨ ∃ j w, s.Stands j w) :
    s.files.Taken root := by
  rcases hroot with hdir | ⟨j, w, hj⟩
  · exact taken_of_isDirectory hdir
  · exact h.taken hj

/-- **Scopes that share a root stay apart**, whatever their steps and their ids, if the names contain no slash. -/
theorem scopes_apart (hname : ∀ i, '/' ∉ (name i).toList) {s₀ : Scopes ι} (htree : s₀.files.IsTree)
    (hcwd : Path.isAbsolute root = false → s₀.files.cwd.Proper) (hstart : ∀ j, s₀.progress j = .waiting)
    (hrun : Steps root name s₀ s) :
    -- an open scope holds a directory; no two are the same, and none is inside another
    (∀ i path, (s.progress i).path? = some path → ∃ w, s.Stands i w) ∧
    (∀ i j w w', i ≠ j → s.Stands i w → s.Stands j w' → ¬w <+: w' ∧ ¬w' <+: w) ∧
    -- the directory is empty until the body begins
    (∀ i path, s.progress i = .entered path → ∃ w, s.Stands i w ∧ ∀ m, m ≠ [] → s.files.entry? (w ++ m) = none) ∧
    -- a scope fails whose name is taken, whatever its body would do
    (∀ i id l e, '/' ∉ id.toList → s.files.locate .entry (Path.join root (name i ++ "-" ++ id)) = .ok (.at l e) →
      (∀ fs, s.files.mkdir (Path.join root (name i ++ "-" ++ id)) ≠ .ok fs) ∧
      ∃ f fs, (∀ (σ α : Type) [HasFiles σ] (body : String → σ → Except Failure α × σ) (t : σ),
          HasFiles.files t = s.files → scope root (name i) id body t = (.error f, HasFiles.setFiles t fs)) ∧
        s.files.IsPart fs ∧ (s.files.isDirectory root = true ∨ (∃ j w, s.Stands j w) → fs = s.files)) ∧
    -- no failure to open takes anything away; if the root is there, or a directory is held, nothing changes at all
    (∀ i s' f, Step root name i s s' → s'.progress i = .refused f →
      s.files.IsPart s'.files ∧ (s.files.isDirectory root = true ∨ (∃ j w, s.Stands j w) → s'.files = s.files)) ∧
    -- closing changes nothing outside the own directory, so nothing in the other ones
    (∀ i s', Step root name i s s' → s'.progress i = .closed →
      ∃ w, s.Stands i w ∧ (∀ m, ¬w <+: m → s'.files.entry? m = s.files.entry? m) ∧
        ∀ j w', j ≠ i → s.Stands j w' →
          s'.Stands j w' ∧ ∀ m, w' <+: m → s'.files.entry? m = s.files.entry? m) ∧
    -- what was there at first still is, and below the root's names that were taken at first all is as it was
    s₀.files.IsPart s.files ∧
    (s₀.files.isDirectory root = true → ∀ b l e, Path.IsName b →
      s₀.files.locate .entry (Path.join root b) = .ok (.at l e) →
      ∀ m, l <+: m → s.files.entry? m = s₀.files.entry? m) ∧
    -- making a work directory in one go is a run of steps like any other
    (∀ i id, '/' ∉ id.toList → s.progress i = .waiting →
      ∃ s', Steps root name s s' ∧ s'.files = (create s.files root (name i) id).2 ∧
        (∀ path, (create s.files root (name i) id).1 = .ok path → s'.progress i = .entered path) ∧
        (∀ f, (create s.files root (name i) id).1 = .error f → s'.progress i = .refused f)) := by
  have h := Shared.steps hname htree hcwd hstart hrun
  refine ⟨?_, ?_, ?_, ?_, ?_, ?_, h.isPart, ?_, ?_⟩
  · intro i path hpath
    obtain ⟨ground, d, hsince⟩ := h.since hpath
    obtain ⟨b, -, -, -, hfind⟩ := hsince.find_held hpath
    exact ⟨_, path, hpath, hfind⟩
  · intro i j w w' hij hi hj
    obtain ⟨path, hpath, -⟩ := id hi
    obtain ⟨ground, d, hsince⟩ := h.since hpath
    exact ⟨hsince.disjoint hij hi hj, hsince.disjoint hij.symm hj hi⟩
  · intro i path hentered
    have hpath : (s.progress i).path? = some path := by rw [hentered]; rfl
    obtain ⟨ground, d, hsince⟩ := h.since hpath
    obtain ⟨b, hspare, rfl, -, hfind⟩ := hsince.find_held hpath
    exact ⟨d ++ [b], ⟨_, hpath, hfind⟩, hsince.empty i b hentered hspare⟩
  · intro i id l e hid hat
    have hb := isName_hyphen (hname i) hid
    refine ⟨fun fs => by rw [mkdir_of_taken hb hat]; simp, ?_⟩
    obtain ⟨f, fs, hcreate, hpart, hsame, -⟩ := create_of_taken hb hat
    refine ⟨f, fs, ?_, hpart, fun hroot => hsame (h.taken_of hroot)⟩
    intro σ α _ body t ht
    exact scope_of_error (ht ▸ hcreate)
  · intro i s' f hstep hrefused
    obtain ⟨hpart, hsame⟩ := hstep.refused hrefused
    exact ⟨hpart, fun hroot => hsame (h.taken_of hroot)⟩
  · intro i s' hstep hclosed
    obtain ⟨ground, d, b, hsince, hsince', hstands, hout, hothers⟩ := hstep.closed hcwd h hclosed
    refine ⟨d ++ [b], hstands, hout, fun j w' hj hstands' => ⟨?_, fun m hm => hout m fun hbelow => ?_⟩⟩
    · obtain ⟨b', hspare, hpath, rfl⟩ := hsince.stands_iff.mp hstands'
      exact hsince'.stands_iff.mpr ⟨b', hspare, (hothers j hj).symm ▸ hpath, rfl⟩
    · -- two directories of which one begins the other are one
      rcases List.prefix_or_prefix_of_prefix hbelow hm with hprefix | hprefix
      · exact hsince.disjoint hj.symm hstands hstands' hprefix
      · exact hsince.disjoint hj hstands' hstands hprefix
  · intro hdir b l e hb hat m hm
    exact h.kept (taken_of_isDirectory hdir) hb hat hm
  · intro i id hid hwaiting
    exact Steps.create hid hwaiting

end Invariant

/-- Two scopes with the same id: the second one finds the name taken, and the first one's directory is as it was
made. -/
theorem twins_apart :
    ∃ s : Scopes Bool, Steps "/w" (fun _ => series) ⟨preparedFiles, fun _ => .waiting⟩ s ∧
      s.progress false = .entered "/w/p4verdict-V1StGXR8" ∧
      s.progress true =
        .refused (.file ⟨.alreadyThere, .mkdir, some "/w/p4verdict-V1StGXR8"⟩) ∧
      ∃ w, s.Stands false w ∧ ∀ m, m ≠ [] → s.files.entry? (w ++ m) = none := by
  have hpath : Path.join "/w" (series ++ "-" ++ "V1StGXR8") = "/w/p4verdict-V1StGXR8" := by decide
  have hid : '/' ∉ "V1StGXR8".toList := by decide
  have hname : Path.IsName (series ++ "-" ++ "V1StGXR8") := isName_series hid
  have hroot {fs : FileSystem} (hdir : fs.isDirectory "/w" = true) : fs.mkdirRecursive "/w" = (.ok (), fs) := by
    obtain ⟨hfiles, hok⟩ := mkdirRecursive_of_taken (taken_of_isDirectory hdir)
    exact Prod.ext (hok hdir) hfiles
  -- the first scope makes its directory
  have hfree : preparedFiles.locate .entry (withoutFinalSlashes "/w/p4verdict-V1StGXR8") =
      .ok (.free ["w"] "p4verdict-V1StGXR8") := eq_ok_of_toOption (by decide)
  have hmade : preparedFiles.mkdir (Path.join "/w" (series ++ "-" ++ "V1StGXR8")) =
      .ok (preparedFiles.put ["w", "p4verdict-V1StGXR8"] .directory) := by
    rw [hpath, FileSystem.mkdir, FileSystem.mkdir?, hfree]
    rfl
  have htaken : (preparedFiles.put ["w", "p4verdict-V1StGXR8"] .directory).locate .entry
      (Path.join "/w" (series ++ "-" ++ "V1StGXR8")) = .ok (.at ["w", "p4verdict-V1StGXR8"] .directory) :=
    eq_ok_of_toOption (by decide)
  let s : Scopes Bool := ⟨preparedFiles, fun _ => .waiting⟩
  let s₁ := s.now false .arrived preparedFiles
  let s₂ := s₁.now false (.entered (Path.join "/w" (series ++ "-" ++ "V1StGXR8")))
    (preparedFiles.put ["w", "p4verdict-V1StGXR8"] .directory)
  let s₃ := s₂.now true .arrived (preparedFiles.put ["w", "p4verdict-V1StGXR8"] .directory)
  have hentered : Steps "/w" (fun _ => series) s s₂ :=
    .tail (.tail .refl (.arrive rfl (hroot (by decide)))) (.enter hid rfl hmade)
  have hrun := (hentered.tail (.arrive rfl (hroot (by decide)))).tail
    (Step.miss (s := s₃) (i := true) hid rfl (mkdir_of_taken hname htaken))
  refine ⟨_, hrun, congrArg Progress.entered hpath, ?_, ?_⟩
  · exact congrArg (fun path => Progress.refused (.file ⟨.alreadyThere, .mkdir, some path⟩)) hpath
  · exact (scopes_apart (fun _ => by decide) preparedFiles_isTree (fun h => by cases h) (fun _ => rfl) hrun).2.2.1
      false _ rfl

end WorkDir

end DataplaneVerdict
