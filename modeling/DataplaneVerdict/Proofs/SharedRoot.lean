import DataplaneVerdict.Proofs.WorkScope

/-!
# `Proofs.SharedRoot` — many directories below one root

Work directories are made by joining names to a root. The root may be relative, may climb, and may lead over links; all
the same there is one directory in which all these names are looked up. A name that was free there once shows which one
it is (`FileSystem.Spare`), and from then on every name joined to the root leads there, as long as nothing is taken away
(`Spare.walk_join`).

## Contents
- **The root.** Making it where it is missing; once its own name is taken, nothing more is made
  (`FileSystem.mkdirRecursive_of_taken`).
- **Names joined to the root.** `FileSystem.Spare`: what making and removing a directory do in terms of locations.
-/

namespace DataplaneVerdict

namespace FileSystem

variable {fs fs' : FileSystem} {p : String}

/-! ## The root -/

/-- Slashes at the end of a path say nothing but that a directory is wanted. -/
theorem withoutFinalSlashes_spec (p : String) :
    ∃ k, p.toList = (withoutFinalSlashes p).toList ++ List.replicate k '/' ∧
      (withoutFinalSlashes p = "" → p = "") ∧
      (wantsDirectory (withoutFinalSlashes p) = false ∨ withoutFinalSlashes p = "/") := by
  have hcut := List.takeWhile_append_dropWhile (p := (· == '/')) (l := p.toList.reverse)
  generalize hkept : (p.toList.reverse.dropWhile (· == '/')).reverse = kept at *
  have hslashes : (p.toList.reverse.takeWhile (· == '/')).reverse =
      List.replicate (p.toList.reverse.takeWhile (· == '/')).length '/' := by
    refine List.eq_replicate_iff.mpr ⟨List.length_reverse, fun c hc => ?_⟩
    have hall := List.all_takeWhile (p := (· == '/')) (l := p.toList.reverse)
    rw [List.all_eq_true] at hall
    simpa using hall c (List.mem_reverse.mp hc)
  generalize (p.toList.reverse.takeWhile (· == '/')).length = k at hslashes
  have hchars : p.toList = kept ++ List.replicate k '/' := by
    rw [← hslashes, ← hkept, ← List.reverse_append, hcut, List.reverse_reverse]
  unfold withoutFinalSlashes
  dsimp only
  rw [hkept]
  split
  · rename_i hall
    obtain ⟨hnil, hp⟩ := (Bool.and_eq_true _ _).mp hall
    obtain rfl := List.isEmpty_iff.mp hnil
    cases k with
    | zero =>
      rw [String.toList_eq_nil_iff.mp hchars] at hp
      exact absurd hp (by decide)
    | succ k => exact ⟨k, hchars, fun h => absurd h (by decide), .inr rfl⟩
  · rename_i hsome
    refine ⟨k, by rwa [String.toList_ofList], fun h => ?_, .inl ?_⟩
    · have hnil : kept = [] := by simpa using congrArg String.toList h
      by_cases hp : p = ""
      · exact hp
      · rw [hnil] at hsome
        simp [hp] at hsome
    · -- the last character that was kept is the first one, from the end, that is no slash
      rw [wantsDirectory, decide_eq_false_iff_not, String.toList_ofList, ← hkept, List.getLast?_reverse]
      intro hlast
      have hfirst := List.head?_dropWhile_not (· == '/') p.toList.reverse
      rw [hlast] at hfirst
      cases hfirst

attribute [local irreducible] withoutFinalSlashes

theorem pathNames_slashes {q : String} {k : Nat} (h : p.toList = q.toList ++ List.replicate k '/') :
    pathNames p = pathNames q := by
  have hpieces : Text.pieces '/' p.toList = Text.pieces '/' q.toList ++ List.replicate k [] := by
    rw [h]
    clear h
    induction k with
    | zero => rw [List.replicate_zero, List.replicate_zero, List.append_nil, List.append_nil]
    | succ k ih =>
      rw [List.replicate_succ', ← List.append_assoc, Text.pieces_append, ih, List.append_assoc, List.replicate_succ']
      rfl
  simp [pathNames, Path.segments, Text.splitOn, hpieces]

/-- A path that leads somewhere leads to something as well without the slashes at its end. -/
theorem exists_taken_of_find {l : Location} {e : Entry} (h : fs.find p = .ok (l, e)) :
    ∃ l' e', fs.locate .entry (withoutFinalSlashes p) = .ok (.at l' e') := by
  have htarget := find_eq_ok_iff.mp h
  obtain ⟨k, hchars, hempty, -⟩ := withoutFinalSlashes_spec p
  have hnames : (Way.ofPath (withoutFinalSlashes p)).names = (Way.ofPath p).names := (pathNames_slashes hchars).symm
  have habsolute : Path.isAbsolute (withoutFinalSlashes p) = Path.isAbsolute p := by
    cases hfirst : (withoutFinalSlashes p).toList with
    | nil =>
      have hnil := String.toList_eq_nil_iff.mp hfirst
      rw [hnil, hempty hnil]
    | cons c rest => simp [Path.isAbsolute, hchars, hfirst]
  have hless : (Way.ofPath (withoutFinalSlashes p)).slash = true → (Way.ofPath p).slash = true := by
    simp only [Way.ofPath, wantsDirectory, decide_eq_true_eq, hchars]
    intro hlast
    cases k with
    | zero => simpa using hlast
    | succ k => simp [List.getLast?_append, List.getLast?_replicate]
  have hsize : (withoutFinalSlashes p).utf8ByteSize ≤ p.utf8ByteSize := by
    have hp : withoutFinalSlashes p ++ String.ofList (List.replicate k '/') = p := by
      rw [← String.toList_inj, String.toList_append, String.toList_ofList, hchars]
    have hbytes := congrArg String.utf8ByteSize hp
    rw [String.utf8ByteSize_append] at hbytes
    omega
  obtain ⟨l', e', hentry⟩ := exists_entry_of_target hless (walk_of_locate htarget)
  rw [← hnames] at hentry
  refine ⟨l', e', ?_⟩
  unfold locate at htarget ⊢
  split at htarget
  · cases htarget
  rename_i hsome
  split at htarget
  · cases htarget
  rename_i hzero
  split at htarget
  · cases htarget
  rename_i hlong
  have hsome' : ¬(withoutFinalSlashes p).isEmpty = true := by
    rw [String.isEmpty_iff] at hsome ⊢
    exact mt hempty hsome
  have hzero' : ¬(withoutFinalSlashes p).toList.contains '\x00' = true := by
    simp only [List.contains_iff_mem, hchars, List.mem_append, not_or] at hzero ⊢
    exact hzero.1
  rw [if_neg hsome', if_neg hzero', if_neg (by omega), habsolute]
  exact hentry

/-- The name that a root's own path says is taken. -/
def Taken (fs : FileSystem) (p : String) : Prop := ∃ l e, fs.locate .entry (withoutFinalSlashes p) = .ok (.at l e)

theorem Taken.of_isPart (h : fs.Taken p) (hpart : fs.IsPart fs') (hcwd : fs'.cwd = fs.cwd) : fs'.Taken p := by
  obtain ⟨l, e, hat⟩ := h
  refine ⟨l, e, ?_⟩
  rw [locate_eq_walk hat, hcwd]
  exact walk_of_isPart hpart (walk_of_locate hat)

theorem taken_of_isDirectory (h : fs.isDirectory p = true) : fs.Taken p := by
  obtain ⟨l, hfind⟩ := isDirectory_eq_true_iff.mp h
  exact exists_taken_of_find hfind

theorem cwd_put (fs : FileSystem) (l : Location) (e : Entry) : (fs.put l e).cwd = fs.cwd := by
  unfold put
  cases fs.entry? l <;> rfl

theorem isPart_put {l : Location} (hnone : fs.entry? l = none) (e : Entry) : fs.IsPart (fs.put l e) := by
  intro m e' hm
  have hne : m ≠ l := by
    rintro rfl
    rw [hnone] at hm
    cases hm
  rw [get_put, if_neg hne, hm]

/-- A new directory: nothing else changes, and its name is taken from now on. -/
theorem mkdir?_taken (h : fs.mkdir? p = .ok fs') : fs.IsPart fs' ∧ fs'.cwd = fs.cwd ∧ fs'.Taken p := by
  obtain ⟨d, n, hfree, rfl⟩ := mkdir?_eq_ok h
  have hvacant := vacant_of_locate hfree
  have hpart : fs.IsPart (fs.put (d ++ [n]) .directory) := isPart_put hvacant.nothing _
  refine ⟨hpart, cwd_put _ _ _, d ++ [n], .directory, ?_⟩
  have hwalk := walk_of_locate hfree
  have hslash : (Way.ofPath (withoutFinalSlashes p)).slash = false := by
    obtain ⟨-, -, -, hslash | hroot⟩ := withoutFinalSlashes_spec p
    · exact hslash
    · -- the root of the tree is no free name
      rw [hroot, walk] at hwalk
      cases walked_of_walkNames hwalk
  obtain ⟨hlast, k, hagain⟩ := walk_beside .entry false hpart (List.cons_ne_nil n []) hwalk hslash
  obtain ⟨ahead, hnames⟩ := List.getLast?_eq_some_iff.mp hlast
  rw [hnames, List.dropLast_concat, ← hnames] at hagain
  have hhere : FileSystem.entry? (fs.put (d ++ [n]) .directory) (d ++ [n]) = some .directory := by
    rw [get_put, if_pos rfl]
  have hname : LooksUp .entry false n [] := .of_plain hvacant.plain [] (.inl rfl)
  rw [locate_eq_walk hfree, cwd_put]
  calc walk (fs.put (d ++ [n]) .directory) .entry (mostLinks + 1) _ (Way.ofPath (withoutFinalSlashes p))
      = walk (fs.put (d ++ [n]) .directory) .entry (mostLinks + 1) _
          ⟨(Way.ofPath (withoutFinalSlashes p)).names, false⟩ := by rw [← hslash]
    _ = _ := hagain
    _ = .ok (.at (d ++ [n]) .directory) := by
      rw [walkNames_of_entry (hpart _ _ hvacant.directory) hname hhere (by simp), walkNames, hhere]
      rfl

/-- **Making directories** takes nothing away, and the last of them has its name taken in the end. -/
theorem mkdirAll_taken (fs : FileSystem) (fuel : Nat) (pending : List String) :
    fs.IsPart (fs.mkdirAll fuel pending).2 ∧ (fs.mkdirAll fuel pending).2.cwd = fs.cwd ∧
      ((fs.mkdirAll fuel pending).1 = .ok () →
        ∀ p, pending.getLast? = some p → (fs.mkdirAll fuel pending).2.Taken p) := by
  induction fuel generalizing fs pending with
  | zero => exact ⟨fun _ _ h => h, rfl, fun h => by cases h⟩
  | succ fuel ih =>
    cases pending with
    | nil => exact ⟨fun _ _ h => h, rfl, fun _ _ h => by cases h⟩
    | cons q pending =>
      -- what is made first and what is left, whichever way that goes
      have hnext {fs₁ : FileSystem} (hpart : fs.IsPart fs₁) (hcwd : fs₁.cwd = fs.cwd) (hq : pending = [] → fs₁.Taken q)
          (heq : fs.mkdirAll (fuel + 1) (q :: pending) = fs₁.mkdirAll fuel pending) :
          fs.IsPart (fs.mkdirAll (fuel + 1) (q :: pending)).2 ∧
            (fs.mkdirAll (fuel + 1) (q :: pending)).2.cwd = fs.cwd ∧
            ((fs.mkdirAll (fuel + 1) (q :: pending)).1 = .ok () → ∀ p, (q :: pending).getLast? = some p →
              (fs.mkdirAll (fuel + 1) (q :: pending)).2.Taken p) := by
        obtain ⟨hpart', hcwd', hdone⟩ := ih fs₁ pending
        rw [heq]
        refine ⟨fun m e h => hpart' m e (hpart m e h), hcwd'.trans hcwd, fun hok p hp => ?_⟩
        cases pending with
        | nil =>
          obtain rfl := Option.some.inj hp
          exact (hq rfl).of_isPart hpart' hcwd'
        | cons r rest => exact hdone hok p hp
      obtain ⟨e, heq⟩ | ⟨fs₁, hmade, heq⟩ | ⟨hdir, heq⟩ | ⟨-, heq⟩ | ⟨-, hne, heq⟩ := mkdirAll_cases fs fuel q pending
      · rw [heq]
        exact ⟨fun _ _ h => h, rfl, fun h => by cases h⟩
      · obtain ⟨hpart, hcwd, htaken⟩ := mkdir?_taken hmade
        exact hnext hpart hcwd (fun _ => htaken) heq
      · exact hnext (fun _ _ h => h) rfl (fun _ => taken_of_isDirectory hdir) heq
      · rw [heq]
        exact ih fs (beforeLastSlash q :: q :: pending)
      · exact hnext (fun _ _ h => h) rfl (fun hnil => absurd hnil hne) heq

theorem mkdirRecursive_taken {r : Except FileError Unit} (h : fs.mkdirRecursive p = (r, fs')) :
    fs.IsPart fs' ∧ fs'.cwd = fs.cwd ∧ (r = .ok () → fs'.Taken p) := by
  obtain ⟨hpart, hcwd, hdone⟩ := mkdirAll_taken fs (2 * p.length + 4) [p]
  unfold mkdirRecursive at h
  rw [h] at hpart hcwd hdone
  exact ⟨hpart, hcwd, fun hok => hdone hok p rfl⟩

/-- **Where the root's own name is taken**, nothing is made; a directory there is what was wanted. -/
theorem mkdirRecursive_of_taken (h : fs.Taken p) :
    (fs.mkdirRecursive p).2 = fs ∧ (fs.isDirectory p = true → (fs.mkdirRecursive p).1 = .ok ()) := by
  obtain ⟨l, e, hat⟩ := h
  have hmkdir : fs.mkdir? p = .error .alreadyThere := by
    rw [mkdir?, hat]
  unfold mkdirRecursive mkdirAll
  dsimp only
  rw [hmkdir]
  dsimp only
  rw [if_neg (by simp)]
  refine ⟨by split <;> rfl, fun hdir => ?_⟩
  obtain ⟨l', hfind⟩ := isDirectory_eq_true_iff.mp hdir
  rw [hfind]
  rfl

end FileSystem

/-! ## Names joined to the root -/

/-- The way to a name joined to a root is the same for all names, but for the name itself. -/
theorem Path.exists_way (root : String) :
    ∃ ahead, ∀ b, IsName b → FileSystem.Way.ofPath (join root b) = ⟨ahead ++ [b], false⟩ ∧
      isAbsolute (join root b) = isAbsolute root := by
  cases ha : isAbsolute root with
  | true =>
    refine ⟨normalSegments false (segments root), fun b hb => ?_⟩
    obtain ⟨hproper, hjoin⟩ := join_absolute_name ha rfl hb
    rw [hjoin]
    exact ⟨FileSystem.ofPath_text hproper, Location.isAbsolute_text _⟩
  | false =>
    obtain ⟨k, names, hnames, -, hjoin⟩ := join_relative_name ha
    refine ⟨List.replicate k ".." ++ names, fun b hb => ?_⟩
    rw [hjoin b hb]
    exact ofPath_join (says_of_mem_up hnames) hb

namespace FileSystem

variable {ground fs fs' : FileSystem} {root b b' : String} {d : Location}

/-- A name joined to a root leads to a free name in the directory `d`. -/
structure Spare (ground : FileSystem) (root : String) (d : Location) (b : String) : Prop where
  isName : Path.IsName b
  free : ground.locate .entry (Path.join root b) = .ok (.free d b)

theorem Spare.vacant (h : ground.Spare root d b) : ground.Vacant d b := vacant_of_locate h.free

theorem withoutFinalSlashes_join (hb : Path.IsName b) (root : String) :
    withoutFinalSlashes (Path.join root b) = Path.join root b := by
  obtain ⟨ahead, hway⟩ := Path.exists_way root
  obtain ⟨k, hchars, -⟩ := withoutFinalSlashes_spec (Path.join root b)
  have hslash : wantsDirectory (Path.join root b) = false := congrArg Way.slash (hway b hb).1
  cases k with
  | zero =>
    rw [List.replicate_zero, List.append_nil] at hchars
    exact (String.toList_inj.mp hchars).symm
  | succ k => simp [wantsDirectory, hchars, List.getLast?_append, List.getLast?_replicate] at hslash

/-- A directory made at a name that was joined to a root shows where the root's names are looked up. -/
theorem spare_of_mkdir? (hb : Path.IsName b) (h : fs.mkdir? (Path.join root b) = .ok fs') :
    ∃ d, fs.Spare root d b ∧ fs' = fs.put (d ++ [b]) .directory := by
  obtain ⟨d, n, hfree, rfl⟩ := mkdir?_eq_ok h
  rw [withoutFinalSlashes_join hb] at hfree
  obtain ⟨ahead, hway⟩ := Path.exists_way root
  have hwalk := walk_of_locate hfree
  rw [(hway b hb).1] at hwalk
  obtain ⟨hlast, -⟩ := walk_beside .entry false (fun _ _ h => h) (List.cons_ne_nil n []) hwalk rfl
  have hn : n = b := by simpa using hlast.symm
  subst hn
  exact ⟨d, ⟨hb, hfree⟩, rfl⟩

section Spare

variable (h : ground.Spare root d b') (hpart : ground.IsPart fs) (hcwd : fs.cwd = ground.cwd)
include h hpart hcwd

/-- **Every name joined to the root** is looked up in the same directory, where nothing was taken away since. -/
theorem Spare.walk_join (hb : Path.IsName b) (reach : Reach) :
    ∃ k, walk fs reach (mostLinks + 1) (if Path.isAbsolute (Path.join root b) then [] else fs.cwd)
        (Way.ofPath (Path.join root b)) =
      walkNames fs reach false (walk fs reach k) d [b] := by
  obtain ⟨ahead, hway⟩ := Path.exists_way root
  have hwalk := walk_of_locate h.free
  rw [(hway b' h.isName).1, (hway b' h.isName).2] at hwalk
  rw [(hway b hb).1, (hway b hb).2, hcwd]
  obtain ⟨-, k, hbeside⟩ := walk_beside reach false hpart (List.cons_ne_nil b []) hwalk rfl
  rw [List.dropLast_concat] at hbeside
  exact ⟨k, hbeside⟩

/-- What a name joined to the root can lead to. -/
theorem Spare.place_join (hb : Path.IsName b) {place : Place}
    (hplace : fs.locate .entry (Path.join root b) = .ok place) :
    Plain b ∧ (place = .free d b ∧ fs.entry? (d ++ [b]) = none ∨
      ∃ e, fs.entry? (d ++ [b]) = some e ∧ place = .at (d ++ [b]) e) := by
  obtain ⟨k, hwalk⟩ := h.walk_join hpart hcwd hb .entry
  rw [locate_eq_walk hplace, hwalk] at hplace
  cases walked_of_walkNames hplace with
  | stay => exact absurd rfl hb.notDot
  | up => exact absurd rfl hb.notDots
  | free _ hname hnone => exact ⟨hname.toPlain, .inl ⟨rfl, hnone⟩⟩
  | link _ hname hlink => exact ⟨hname.toPlain, .inr ⟨_, hlink, rfl⟩⟩
  | through _ _ _ hgo => simp at hgo
  | down _ hname hentry _ hrest =>
    cases hrest with
    | arrived hthere => exact ⟨hname.toPlain, .inr ⟨_, hthere, rfl⟩⟩

/-- A directory that is made now, at a name that was free from the beginning. -/
theorem Spare.mkdir? (hb : Path.IsName b) (hmade : fs.mkdir? (Path.join root b) = .ok fs') :
    ground.Spare root d b ∧ fs.entry? (d ++ [b]) = none ∧ fs' = fs.put (d ++ [b]) .directory := by
  obtain ⟨d', hspare, rfl⟩ := spare_of_mkdir? hb hmade
  obtain ⟨hplain, ⟨hplace, hnone⟩ | ⟨e, -, hplace⟩⟩ := h.place_join hpart hcwd hb hspare.free
  · obtain ⟨rfl, -⟩ := Place.free.inj hplace
    refine ⟨⟨hb, ?_⟩, hnone, rfl⟩
    obtain ⟨k, hwalk⟩ := h.walk_join (fun _ _ h => h) rfl hb .entry
    have hnothing : ground.entry? (d' ++ [b]) = none := by
      cases hsome : ground.entry? (d' ++ [b]) with
      | none => rfl
      | some e =>
        rw [hpart _ _ hsome] at hnone
        cases hnone
    have hname : LooksUp .entry false b [] := .of_plain hplain [] (.inl rfl)
    rw [locate_eq_walk hspare.free, hwalk, walkNames_of_none h.vacant.directory hname hnothing]
    rfl
  · cases hplace

end Spare

section Made

variable (h : ground.Spare root d b) (hpart : ground.IsPart fs) (hcwd : fs.cwd = ground.cwd)
  (hdir : fs.entry? (d ++ [b]) = some .directory)
include h hpart hcwd hdir

/-- The path of a directory that was made leads to it. -/
theorem Spare.locate_made (reach : Reach) : fs.locate reach (Path.join root b) = .ok (.at (d ++ [b]) .directory) := by
  obtain ⟨k, hwalk⟩ := h.walk_join hpart hcwd h.isName reach
  have hname : LooksUp reach false b [] := .of_plain h.vacant.plain [] (.inl rfl)
  rw [locate_eq_walk h.free, hwalk, walkNames_of_entry (hpart _ _ h.vacant.directory) hname hdir (by simp), walkNames,
    hdir]
  rfl

/-- **Giving a directory back** takes away that directory with all below it, or nothing. -/
theorem Spare.remove_made (htree : fs.IsTree) (hproper : Path.isAbsolute root = false → fs.cwd.Proper)
    (hremove : WorkDir.remove fs root (Path.join root b) = .ok fs') : fs' = fs ∨ fs' = fs.erase (d ++ [b]) := by
  unfold WorkDir.remove at hremove
  dsimp only at hremove
  split at hremove
  · split at hremove
    · rename_i hremoved
      obtain rfl := Except.ok.inj hremove
      have hlocate := locate_resolve h.isName (fun ha => ⟨hproper ha, htree⟩) hremoved
        (h.locate_made hpart hcwd hdir .entry)
      obtain ⟨-, hnone⟩ | ⟨l, e, hat, rfl⟩ := removeAll_eq_ok hremoved
      · exact absurd hlocate (hnone _ _)
      · rw [hlocate] at hat
        obtain ⟨rfl, -⟩ := Place.at.inj (Except.ok.inj hat)
        exact .inr rfl
    · exact .inl (Except.ok.inj hremove).symm
  · cases hremove

end Made

theorem IsTree.erase (htree : fs.IsTree) (l : Location) : (fs.erase l).IsTree := by
  intro m n hn
  rw [get_erase] at hn ⊢
  split at hn
  · exact absurd rfl hn
  · rename_i hout
    have hout' : ¬l <+: m := fun hlm => hout (hlm.trans (List.prefix_append m [n]))
    rw [if_neg hout']
    exact htree m n hn

end FileSystem

end DataplaneVerdict
