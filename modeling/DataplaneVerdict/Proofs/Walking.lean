import DataplaneVerdict.Proofs.Paths

/-!
# `Proofs.Walking` — where paths lead

`Walked` lists what a walk along names can do before it ends somewhere, one rule for each kind of step, and
`walked_of_walkNames` says that it lists all of it. Whatever holds of walks is then proved once for each rule.

## Contents
- **Trees.** `FileSystem.IsTree`, and what changes when an entry is put somewhere.
- **Walks.** `Walked`; what a walk ends at stands there, or its name is vacant.
- **Two file systems.** `walk_of_isPart`, `walk_of_fewer`: where fewer things stand, a walk that still arrives somewhere
  arrives at the same place. `walk_beside`: a walk to a free name and one to another name there come to the same
  directory, whatever else is put anywhere. `walk_onward`: names behind a walk to a directory are looked up there.
- **Two walks.** Walks to an entry and to what a link there leads to; walks from a working directory and from the root.
-/

namespace DataplaneVerdict

namespace FileSystem

variable {fs fs' : FileSystem}

/-! ## Trees -/

/-- Whatever stands somewhere stands in a directory. -/
def IsTree (fs : FileSystem) : Prop :=
  ∀ (l : Location) (name : String), fs.entry? (l ++ [name]) ≠ none → fs.entry? l = some .directory

theorem lookup_cons_eq {α : Type} (m k : Location) (e : α) (rest : List (Location × α)) :
    ((k, e) :: rest).lookup m = if m = k then some e else rest.lookup m := by
  by_cases h : m = k
  · rw [if_pos h, h, List.lookup_cons_self]
  · have hbeq : (m == k) = false := beq_eq_false_iff_ne.mpr h
    rw [if_neg h, List.lookup_cons, hbeq]

theorem lookup_setEntry (l : Location) (e : Entry) (m : Location) (entries : List (Location × Entry)) :
    (setEntry l e entries).lookup m = if m = l then some e else entries.lookup m := by
  induction entries with
  | nil => exact lookup_cons_eq m l e []
  | cons first rest ih =>
    obtain ⟨k, f⟩ := first
    unfold setEntry
    by_cases hk : k = l
    · rw [if_pos hk, lookup_cons_eq, lookup_cons_eq, hk]
      by_cases hm : m = l <;> simp only [hm, if_true, if_false]
    · rw [if_neg hk, lookup_cons_eq, lookup_cons_eq, ih]
      by_cases hm : m = k
      · rw [if_pos hm, if_pos hm, if_neg (hm ▸ hk)]
      · rw [if_neg hm, if_neg hm]

/-- Putting an entry somewhere changes what stands there and nothing else. -/
theorem get_put (fs : FileSystem) (l : Location) (e : Entry) (m : Location) :
    FileSystem.entry? (fs.put l e) m = if m = l then some e else fs.entry? m := by
  have hentries : (fs.put l e).entries = setEntry l e fs.entries := by
    unfold put
    cases fs.entry? l <;> rfl
  unfold entry?
  rw [hentries, lookup_setEntry]

/-- A new entry in a directory keeps a tree a tree, unless it takes the place of a directory. -/
theorem IsTree.put (h : fs.IsTree) {d : Location} {name : String} {e : Entry} (hd : fs.entry? d = some .directory)
    (hroom : e = .directory ∨ fs.entry? (d ++ [name]) ≠ some .directory) : (fs.put (d ++ [name]) e).IsTree := by
  intro l n hn
  rw [get_put] at hn ⊢
  by_cases hl : l = d ++ [name]
  · rw [if_pos hl]
    rcases hroom with rfl | hroom
    · rfl
    · have hne : l ++ [n] ≠ d ++ [name] := fun heq => by simpa [hl] using congrArg List.length heq
      rw [if_neg hne] at hn
      exact absurd (hl ▸ h l n hn) hroom
  · rw [if_neg hl]
    by_cases hln : l ++ [n] = d ++ [name]
    · rw [(List.append_inj_left' hln rfl)]
      exact hd
    · rw [if_neg hln] at hn
      exact h l n hn

/-- Below a place that is no directory there is nothing. -/
theorem IsTree.nothing_below (h : fs.IsTree) {l : Location} (hl : fs.entry? l ≠ some .directory) {m : Location}
    (hm : m ≠ []) : fs.entry? (l ++ m) = none := by
  induction m generalizing l with
  | nil => exact absurd rfl hm
  | cons n m ih =>
    have hnext : fs.entry? (l ++ [n]) = none := by
      by_cases hsome : fs.entry? (l ++ [n]) = none
      · exact hsome
      · exact absurd (h l n hsome) hl
    rw [List.append_cons]
    by_cases hnil : m = []
    · rw [hnil, List.append_nil]
      exact hnext
    · exact ih (by rw [hnext]; simp) hnil

theorem IsTree.directory_above (h : fs.IsTree) {a b : Location} (hab : fs.entry? (a ++ b) = some .directory) :
    fs.entry? a = some .directory := by
  by_cases hb : b = []
  · rwa [hb, List.append_nil] at hab
  · by_cases ha : fs.entry? a = some .directory
    · exact ha
    · rw [h.nothing_below ha hb] at hab
      cases hab

theorem lookup_filter_eq {α : Type} (keeps : Location → Bool) (m : Location) (entries : List (Location × α)) :
    (entries.filter fun x => keeps x.1).lookup m = if keeps m then entries.lookup m else none := by
  induction entries with
  | nil => cases keeps m <;> rfl
  | cons first rest ih =>
    obtain ⟨k, e⟩ := first
    rw [List.filter_cons]
    by_cases hm : m = k
    · subst hm
      cases hk : keeps m with
      | true => simp only [if_true, lookup_cons_eq]
      | false => simp only [hk, Bool.false_eq_true, if_false, ih]
    · cases hk : keeps k with
      | true => simp only [if_true, lookup_cons_eq, if_neg hm, ih]
      | false => simp only [Bool.false_eq_true, if_false, lookup_cons_eq, if_neg hm, ih]

/-- Taking a place away takes away all below it and nothing else. -/
theorem get_erase (fs : FileSystem) (l m : Location) :
    FileSystem.entry? (fs.erase l) m = if l <+: m then none else fs.entry? m := by
  have hentries : (fs.erase l).entries = fs.entries.filter fun x => !l.isPrefixOf x.1 := by
    unfold erase
    cases fs.entry? l <;> rfl
  unfold entry?
  rw [hentries, lookup_filter_eq (fun k => !l.isPrefixOf k)]
  by_cases hlm : l <+: m
  · rw [if_pos hlm, List.isPrefixOf_iff_prefix.mpr hlm]
    rfl
  · have hnot : l.isPrefixOf m = false := Bool.eq_false_iff.mpr fun h => hlm <| List.isPrefixOf_iff_prefix.mp h
    rw [if_neg hlm, hnot]
    rfl

/-! ## Walks -/

/-- A name that a walk looks up in a directory. -/
structure Plain (name : String) : Prop where
  notDot : name ≠ "."
  notDots : name ≠ ".."
  short : ¬longestName < name.utf8ByteSize

/-- A name that a walk looks up, with the names behind it: no file is to be created where a directory is demanded. -/
structure LooksUp (reach : Reach) (slash : Bool) (name : String) (rest : List String) : Prop extends Plain name where
  creates : (rest.isEmpty && slash && reach = .creation) = false

theorem LooksUp.of_plain {reach : Reach} {slash : Bool} {name : String} (h : Plain name) (rest : List String)
    (hreach : slash = false ∨ reach ≠ .creation) : LooksUp reach slash name rest := by
  refine ⟨h, ?_⟩
  rcases hreach with rfl | hreach
  · simp
  · simp [hreach]

/-- **What a walk along names can do** before it ends at a place. -/
inductive Walked (fs : FileSystem) (reach : Reach) (slash : Bool) (onLink : Location → Way → Except FileProblem Place) :
    Location → List String → Place → Prop
  /-- no name is left -/
  | arrived {base : Location} {e : Entry} (hentry : fs.entry? base = some e)
      (hslash : (slash && !e.isDirectory) = false) : Walked fs reach slash onLink base [] (.at base e)
  | stay {base : Location} {rest : List String} {place : Place} (hdir : fs.entry? base = some .directory)
      (hrest : Walked fs reach slash onLink base rest place) : Walked fs reach slash onLink base ("." :: rest) place
  | up {base : Location} {rest : List String} {place : Place} (hdir : fs.entry? base = some .directory)
      (hrest : Walked fs reach slash onLink base.dropLast rest place) :
      Walked fs reach slash onLink base (".." :: rest) place
  /-- the last name is free -/
  | free {base : Location} {name : String} (hdir : fs.entry? base = some .directory)
      (hname : LooksUp reach slash name []) (hnone : fs.entry? (base ++ [name]) = none) :
      Walked fs reach slash onLink base [name] (.free base name)
  /-- the last name is a link, and the walk is for the link itself -/
  | link {base : Location} {name target : String} (hdir : fs.entry? base = some .directory)
      (hname : LooksUp reach slash name []) (hlink : fs.entry? (base ++ [name]) = some (.link target))
      (hstop : (!slash && reach = .entry) = true) :
      Walked fs reach slash onLink base [name] (.at (base ++ [name]) (.link target))
  | through {base : Location} {name target : String} {rest : List String} {place : Place}
      (hdir : fs.entry? base = some .directory) (hname : LooksUp reach slash name rest)
      (hlink : fs.entry? (base ++ [name]) = some (.link target))
      (hgo : (rest.isEmpty && !slash && reach = .entry) = false) (htarget : target.isEmpty = false)
      (hbehind : onLink (if Path.isAbsolute target then [] else base) (Way.through target rest slash) = .ok place) :
      Walked fs reach slash onLink base (name :: rest) place
  | down {base : Location} {name : String} {rest : List String} {e : Entry} {place : Place}
      (hdir : fs.entry? base = some .directory) (hname : LooksUp reach slash name rest)
      (hentry : fs.entry? (base ++ [name]) = some e) (hnotLink : ∀ target, e ≠ .link target)
      (hrest : Walked fs reach slash onLink (base ++ [name]) rest place) :
      Walked fs reach slash onLink base (name :: rest) place

section Walks

variable {reach : Reach} {slash : Bool} {onLink : Location → Way → Except FileProblem Place} {base : Location}
  {names : List String} {place : Place}

section LooksUp

variable {name : String} {rest : List String} (hdir : fs.entry? base = some .directory)
  (hname : LooksUp reach slash name rest)
include hdir hname

theorem walkNames_of_none (hnone : fs.entry? (base ++ [name]) = none) :
    walkNames fs reach slash onLink base (name :: rest) =
      if rest.isEmpty then .ok (.free base name) else .error .missing := by
  rw [walkNames, hdir]
  dsimp only
  rw [if_neg hname.notDot, if_neg hname.notDots, if_neg hname.short, hname.creates, if_neg Bool.false_ne_true, hnone]

theorem walkNames_of_link {target : String} (hlink : fs.entry? (base ++ [name]) = some (.link target)) :
    walkNames fs reach slash onLink base (name :: rest) =
      if rest.isEmpty && !slash && reach = .entry then .ok (.at (base ++ [name]) (.link target))
      else if target.isEmpty then .error .missing
      else onLink (if Path.isAbsolute target then [] else base) (Way.through target rest slash) := by
  rw [walkNames, hdir]
  dsimp only
  rw [if_neg hname.notDot, if_neg hname.notDots, if_neg hname.short, hname.creates, if_neg Bool.false_ne_true, hlink]

theorem walkNames_of_entry {e : Entry} (hentry : fs.entry? (base ++ [name]) = some e)
    (hnotLink : ∀ target, e ≠ .link target) :
    walkNames fs reach slash onLink base (name :: rest) =
      walkNames fs reach slash onLink (base ++ [name]) rest := by
  rw [walkNames, hdir]
  dsimp only
  rw [if_neg hname.notDot, if_neg hname.notDots, if_neg hname.short, hname.creates, if_neg Bool.false_ne_true, hentry]
  cases e with
  | link target => exact absurd rfl (hnotLink target)
  | _ => rfl

end LooksUp

/-- **Every walk that ends at a place** is made of these steps, -/
theorem walked_of_walkNames (h : walkNames fs reach slash onLink base names = .ok place) :
    Walked fs reach slash onLink base names place := by
  induction names generalizing base with
  | nil =>
    unfold walkNames at h
    split at h
    · split at h
      · cases h
      · rename_i hentry hslash
        cases h
        exact .arrived hentry (Bool.eq_false_iff.mpr hslash)
    · cases h
  | cons name rest ih =>
    unfold walkNames at h
    split at h
    · cases h
    · rename_i hdir
      split at h
      · rename_i hdot
        exact hdot ▸ .stay hdir (ih h)
      split at h
      · rename_i hdots
        exact hdots ▸ .up hdir (ih h)
      split at h
      · cases h
      split at h
      · cases h
      have hname : LooksUp reach slash name rest := ⟨⟨‹_›, ‹_›, ‹_›⟩, Bool.eq_false_iff.mpr ‹_›⟩
      dsimp only at h
      split at h
      · split at h
        · rename_i hnone hrest
          obtain rfl := List.isEmpty_iff.mp hrest
          cases h
          exact .free hdir hname hnone
        · cases h
      · rename_i target hlink
        split at h
        · rename_i hstop
          rw [Bool.and_assoc, Bool.and_eq_true] at hstop
          obtain rfl := List.isEmpty_iff.mp hstop.1
          cases h
          exact .link hdir hname hlink hstop.2
        split at h
        · cases h
        · exact .through hdir hname hlink (Bool.eq_false_iff.mpr ‹_›) (Bool.eq_false_iff.mpr ‹_›) h
      · rename_i e hnotLink hsome
        exact .down hdir hname hsome hnotLink (ih h)
    · cases h

/-- and these steps are a walk. -/
theorem Walked.walkNames_eq (h : Walked fs reach slash onLink base names place) :
    walkNames fs reach slash onLink base names = .ok place := by
  induction h with
  | arrived hentry hslash =>
    rw [walkNames, hentry]
    exact if_neg (Bool.eq_false_iff.mp hslash)
  | stay hdir _ ih =>
    rw [walkNames, hdir]
    exact ih
  | up hdir _ ih =>
    rw [walkNames, hdir]
    exact ih
  | free hdir hname hnone => exact walkNames_of_none hdir hname hnone
  | link hdir hname hlink hstop =>
    rw [walkNames_of_link hdir hname hlink]
    exact if_pos hstop
  | through hdir hname hlink hgo htarget hbehind =>
    rw [walkNames_of_link hdir hname hlink, hgo, htarget]
    exact hbehind
  | down hdir hname hentry hnotLink _ ih =>
    rw [walkNames_of_entry hdir hname hentry hnotLink]
    exact ih

theorem Walked.directory (h : Walked fs reach slash onLink base names place) (hne : names ≠ []) :
    fs.entry? base = some .directory := by
  cases h with
  | arrived => exact absurd rfl hne
  | stay hdir | up hdir | free hdir | link hdir | through hdir | down hdir => exact hdir

end Walks

/-! ## Ends of walks -/

/-- A name that a new entry can take: nothing stands there, but a directory around it does. -/
structure Vacant (fs : FileSystem) (d : Location) (n : String) : Prop where
  plain : Plain n
  directory : fs.entry? d = some .directory
  nothing : fs.entry? (d ++ [n]) = none

/-- What a place says about the files. -/
def Place.Holds (fs : FileSystem) : Place → Prop
  | .at l e => fs.entry? l = some e
  | .free d n => fs.Vacant d n

section Ends

variable {reach : Reach} {slash : Bool} {onLink : Location → Way → Except FileProblem Place} {links : Nat}
  {base : Location} {names : List String} {way : Way} {place : Place}

theorem Walked.holds (honLink : ∀ base way place, onLink base way = .ok place → Place.Holds fs place)
    (h : Walked fs reach slash onLink base names place) : Place.Holds fs place := by
  induction h with
  | arrived hentry _ => exact hentry
  | stay _ _ ih => exact ih
  | up _ _ ih => exact ih
  | free hdir hname hnone => exact ⟨hname.toPlain, hdir, hnone⟩
  | link _ _ hlink _ => exact hlink
  | through _ _ _ _ _ hbehind => exact honLink _ _ _ hbehind
  | down _ _ _ _ _ ih => exact ih

/-- **What a walk ends at** stands there, or its name is vacant. -/
theorem holds_of_walk (h : walk fs reach links base way = .ok place) : Place.Holds fs place := by
  induction links generalizing base way place with
  | zero => cases h
  | succ links ih => exact (walked_of_walkNames h).holds fun _ _ _ => ih

/-! ## Two file systems -/

/-- Whatever stands in the one file system stands in the other. -/
def IsPart (fs fs' : FileSystem) : Prop := ∀ m e, fs.entry? m = some e → fs'.entry? m = some e

theorem Walked.of_isPart {onLink' : Location → Way → Except FileProblem Place} (hpart : fs.IsPart fs')
    (honLink : ∀ base way l e, onLink base way = .ok (.at l e) → onLink' base way = .ok (.at l e)) {l : Location}
    {e : Entry} (h : Walked fs reach slash onLink base names (.at l e)) :
    Walked fs' reach slash onLink' base names (.at l e) := by
  generalize hplace : Place.at l e = place at h
  induction h with
  | arrived hentry hslash => exact .arrived (hpart _ _ hentry) hslash
  | stay hdir _ ih => exact .stay (hpart _ _ hdir) (ih hplace)
  | up hdir _ ih => exact .up (hpart _ _ hdir) (ih hplace)
  | free => cases hplace
  | link hdir hname hlink hstop => exact .link (hpart _ _ hdir) hname (hpart _ _ hlink) hstop
  | through hdir hname hlink hgo htarget hbehind =>
    subst hplace
    exact .through (hpart _ _ hdir) hname (hpart _ _ hlink) hgo htarget (honLink _ _ _ _ hbehind)
  | down hdir hname hentry hnotLink _ ih =>
    exact .down (hpart _ _ hdir) hname (hpart _ _ hentry) hnotLink (ih hplace)

/-- **Where more things stand**, a walk that arrived somewhere arrives there as well. -/
theorem walk_of_isPart (hpart : fs.IsPart fs') {l : Location} {e : Entry}
    (h : walk fs reach links base way = .ok (.at l e)) : walk fs' reach links base way = .ok (.at l e) := by
  induction links generalizing base way l e with
  | zero => cases h
  | succ links ih => exact ((walked_of_walkNames h).of_isPart hpart fun _ _ _ _ => ih).walkNames_eq

/-- What becomes of a walk to an entry where fewer things stand: it still arrives, or something on its way is
missing. -/
def Arrives (l : Location) (e : Entry) (outcome : Except FileProblem Place) : Prop :=
  outcome = .ok (.at l e) ∨ outcome = .error .missing ∨ ∃ d n, outcome = .ok (.free d n)

theorem walkNames_of_nothing (h : fs.entry? base = none) :
    walkNames fs reach slash onLink base names = .error .missing := by
  cases names <;> rw [walkNames, h]

theorem arrives_of_none {l : Location} {e : Entry} {name : String} {rest : List String}
    (hdir : fs.entry? base = some .directory) (hname : LooksUp reach slash name rest)
    (hnone : fs.entry? (base ++ [name]) = none) :
    Arrives l e (walkNames fs reach slash onLink base (name :: rest)) := by
  rw [walkNames_of_none hdir hname hnone]
  split
  · exact .inr (.inr ⟨_, _, rfl⟩)
  · exact .inr (.inl rfl)

theorem IsPart.none_or_eq (hpart : fs'.IsPart fs) {m : Location} {e : Entry} (h : fs.entry? m = some e) :
    fs'.entry? m = none ∨ fs'.entry? m = some e := by
  cases hm : fs'.entry? m with
  | none => exact .inl rfl
  | some e' => exact .inr ((hpart m e' hm).symm.trans h)

theorem Walked.of_fewer {onLink' : Location → Way → Except FileProblem Place} (hpart : fs'.IsPart fs) {l : Location}
    {e : Entry} (honLink : ∀ base way, onLink base way = .ok (.at l e) → Arrives l e (onLink' base way))
    (h : Walked fs .target slash onLink base names (.at l e)) :
    Arrives l e (walkNames fs' .target slash onLink' base names) := by
  generalize hplace : Place.at l e = place at h
  induction h with
  | arrived hentry hslash =>
    obtain ⟨rfl, rfl⟩ := Place.at.inj hplace
    rcases hpart.none_or_eq hentry with hnone | hsome
    · exact .inr (.inl (walkNames_of_nothing hnone))
    · exact .inl (Walked.arrived hsome hslash).walkNames_eq
  | stay hdir _ ih | up hdir _ ih =>
    rcases hpart.none_or_eq hdir with hnone | hsome
    · exact .inr (.inl (walkNames_of_nothing hnone))
    · rw [walkNames, hsome]
      exact ih hplace
  | free => cases hplace
  | link _ _ _ hstop => simp at hstop
  | @through base name target rest _ hdir hname hlink hgo htarget hbehind =>
    subst hplace
    rcases hpart.none_or_eq hdir with hnone | hsome
    · exact .inr (.inl (walkNames_of_nothing hnone))
    rcases hpart.none_or_eq hlink with hnone | hlink'
    · exact arrives_of_none hsome hname hnone
    · rw [walkNames_of_link hsome hname hlink', hgo, htarget]
      exact honLink _ _ hbehind
  | down hdir hname hentry hnotLink _ ih =>
    rcases hpart.none_or_eq hdir with hnone | hsome
    · exact .inr (.inl (walkNames_of_nothing hnone))
    rcases hpart.none_or_eq hentry with hnone | hentry'
    · exact arrives_of_none hsome hname hnone
    · rw [walkNames_of_entry hsome hname hentry' hnotLink]
      exact ih hplace

/-- **Where fewer things stand**, a walk that arrived somewhere arrives there or misses something. -/
theorem walk_of_fewer (hpart : fs'.IsPart fs) {l : Location} {e : Entry}
    (h : walk fs .target links base way = .ok (.at l e)) : Arrives l e (walk fs' .target links base way) := by
  induction links generalizing base way with
  | zero => cases h
  | succ links ih => exact (walked_of_walkNames h).of_fewer hpart fun _ _ => ih

/-- The two file systems differ at a location or below it at most. -/
def SameOutside (w : Location) (fs fs' : FileSystem) : Prop := ∀ m, ¬w <+: m → fs'.entry? m = fs.entry? m

/-- Nothing stands at a location or below it. -/
def Clear (fs : FileSystem) (w : Location) : Prop := ∀ m, w <+: m → fs.entry? m = none

theorem SameOutside.get_of_clear {w m : Location} {e : Entry} (hsame : SameOutside w fs fs') (hclear : fs.Clear w)
    (h : fs.entry? m = some e) : fs'.entry? m = some e := by
  have hout : ¬w <+: m := fun hw => by
    rw [hclear m hw] at h
    cases h
  rw [hsame m hout, h]

section Free

variable {d : Location} {n : String}

theorem Walked.beside {reach : Reach} {slash' : Bool} {tail : List String} (hpart : fs.IsPart fs') (htail : tail ≠ [])
    (honLink : ∀ base way, way.slash = false → onLink base way = .ok (.free d n) →
      way.names.getLast? = some n ∧ ∃ k, walk fs' reach links base ⟨way.names.dropLast ++ tail, slash'⟩ =
        walkNames fs' reach slash' (walk fs' reach k) d tail)
    (h : Walked fs .entry false onLink base names (.free d n)) :
    names.getLast? = some n ∧ ∃ k, walkNames fs' reach slash' (walk fs' reach links) base (names.dropLast ++ tail) =
      walkNames fs' reach slash' (walk fs' reach k) d tail := by
  generalize hplace : Place.free d n = place at h
  have hmore (rest : List String) : (rest ++ tail).isEmpty = false := by simp [htail]
  have hlooks {name : String} (hname : Plain name) (rest : List String) : LooksUp reach slash' name (rest ++ tail) :=
    ⟨hname, by rw [hmore, Bool.false_and, Bool.false_and]⟩
  have hnext {name : String} {rest : List String} (hlast : rest.getLast? = some n) :
      (name :: rest).getLast? = some n ∧ (name :: rest).dropLast ++ tail = name :: (rest.dropLast ++ tail) := by
    cases rest with
    | nil => cases hlast
    | cons _ _ => exact ⟨by rwa [List.getLast?_cons_cons], rfl⟩
  induction h with
  | arrived => cases hplace
  | stay hdir _ ih =>
    obtain ⟨hlast, k, hwalk⟩ := ih hplace
    refine ⟨(hnext hlast).1, k, ?_⟩
    rw [(hnext hlast).2, walkNames, hpart _ _ hdir]
    exact hwalk
  | up hdir _ ih =>
    obtain ⟨hlast, k, hwalk⟩ := ih hplace
    refine ⟨(hnext hlast).1, k, ?_⟩
    rw [(hnext hlast).2, walkNames, hpart _ _ hdir]
    exact hwalk
  | free hdir hname hnone =>
    obtain ⟨rfl, rfl⟩ := Place.free.inj hplace
    exact ⟨rfl, links, rfl⟩
  | link => cases hplace
  | @through base name target rest _ hdir hname hlink hgo htarget hbehind =>
    subst hplace
    -- a link is only followed if more names come, so no slash is demanded behind it either
    have hrest : rest.isEmpty = false := by simpa using hgo
    have hne : rest ≠ [] := by
      rintro rfl
      cases hrest
    have hslash : (Way.through target rest false).slash = false := by simp [Way.through, hrest]
    obtain ⟨hlast, k, hwalk⟩ := honLink _ _ hslash hbehind
    have hnames : (Way.through target rest false).names = pathNames target ++ rest := rfl
    rw [hnames, List.getLast?_append, List.getLast?_eq_some_getLast hne, Option.some_or,
      ← List.getLast?_eq_some_getLast hne] at hlast
    rw [hnames, List.dropLast_append_of_ne_nil hne, List.append_assoc] at hwalk
    have hthrough : Way.through target (rest.dropLast ++ tail) slash' =
        ⟨pathNames target ++ (rest.dropLast ++ tail), slash'⟩ := by
      simp [Way.through, htail]
    refine ⟨(hnext hlast).1, k, ?_⟩
    rw [(hnext hlast).2, walkNames_of_link (hpart _ _ hdir) (hlooks hname.toPlain _) (hpart _ _ hlink), hmore, htarget,
      hthrough]
    exact hwalk
  | down hdir hname hentry hnotLink _ ih =>
    obtain ⟨hlast, k, hwalk⟩ := ih hplace
    refine ⟨(hnext hlast).1, k, ?_⟩
    rw [(hnext hlast).2, walkNames_of_entry (hpart _ _ hdir) (hlooks hname.toPlain _) (hpart _ _ hentry) hnotLink]
    exact hwalk

/-- **A walk to a free name** knows the directory of that name: where more things stand, a walk that is for another name
    there, and goes on from it, comes to the same directory. -/
theorem walk_beside (reach : Reach) (slash' : Bool) {tail : List String} (hpart : fs.IsPart fs') (htail : tail ≠ [])
    (h : walk fs .entry links base way = .ok (.free d n)) (hslash : way.slash = false) :
    way.names.getLast? = some n ∧ ∃ k, walk fs' reach links base ⟨way.names.dropLast ++ tail, slash'⟩ =
      walkNames fs' reach slash' (walk fs' reach k) d tail := by
  -- by induction on the links that may still be followed, `Walked.beside` between two of them
  induction links generalizing base way with
  | zero => cases h
  | succ links ih =>
    have hwalked := walked_of_walkNames h
    rw [hslash] at hwalked
    exact hwalked.beside hpart htail fun _ _ hslash' h' => ih h' hslash'

/-- So it leads to the name itself, whatever was put at that name and below it. -/
theorem walk_of_free {reach : Reach} {tail : List String} (hsame : SameOutside (d ++ [n]) fs fs')
    (hclear : fs.Clear (d ++ [n])) (h : walk fs .entry links base way = .ok (.free d n)) (hslash : way.slash = false) :
    ∃ k, walk fs' reach links base ⟨way.names ++ tail, false⟩ =
      walkNames fs' reach false (walk fs' reach k) d (n :: tail) := by
  have hpart : fs.IsPart fs' := fun _ _ => hsame.get_of_clear hclear
  obtain ⟨hlast, k, hwalk⟩ := walk_beside reach false hpart (List.cons_ne_nil n tail) h hslash
  obtain ⟨ahead, hnames⟩ := List.getLast?_eq_some_iff.mp hlast
  rw [hnames, List.dropLast_concat] at hwalk
  rw [hnames, ← List.append_cons]
  exact ⟨k, hwalk⟩

end Free

/-! ## Two walks -/

theorem Walked.exists_entry {slash' : Bool} (hless : slash' = true → slash = true)
    (honLink : ∀ base way l e, onLink base way = .ok (.at l e) → ∀ slash'', (slash'' = true → way.slash = true) →
      ∃ l' e', walk fs .entry links base ⟨way.names, slash''⟩ = .ok (.at l' e'))
    {l : Location} {e : Entry} (h : Walked fs .target slash onLink base names (.at l e)) :
    ∃ l' e', Walked fs .entry slash' (walk fs .entry links) base names (.at l' e') := by
  generalize hplace : Place.at l e = place at h
  induction h with
  | arrived hentry hslash =>
    refine ⟨_, _, .arrived hentry ?_⟩
    cases slash' with
    | false => rfl
    | true => rwa [hless rfl] at hslash
  | stay hdir _ ih =>
    obtain ⟨l', e', h'⟩ := ih hplace
    exact ⟨l', e', .stay hdir h'⟩
  | up hdir _ ih =>
    obtain ⟨l', e', h'⟩ := ih hplace
    exact ⟨l', e', .up hdir h'⟩
  | free => cases hplace
  | link _ _ _ hstop => simp at hstop
  | @through base name target rest _ hdir hname hlink hgo htarget hbehind =>
    subst hplace
    -- the last name may be a link: the one walk stops there, the other goes on
    have hname' : LooksUp .entry slash' name rest := .of_plain hname.toPlain rest (.inr (by decide))
    cases hstop : (rest.isEmpty && !slash') with
    | true =>
      obtain ⟨hrest, hslash⟩ := (Bool.and_eq_true _ _).mp hstop
      obtain rfl := List.isEmpty_iff.mp hrest
      exact ⟨_, _, .link hdir hname' hlink (by simp [hslash])⟩
    | false =>
      have hless' : (Way.through target rest slash').slash = true → (Way.through target rest slash).slash = true := by
        simp only [Way.through, Bool.or_eq_true]
        exact Or.imp_left hless
      obtain ⟨l', e', h'⟩ := honLink _ _ _ _ hbehind _ hless'
      exact ⟨l', e', .through hdir hname' hlink (by simp [hstop]) htarget h'⟩
  | @down base name rest e' _ hdir hname hentry hnotLink _ ih =>
    obtain ⟨l', e'', h'⟩ := ih hplace
    exact ⟨l', e'', .down hdir (.of_plain hname.toPlain rest (.inr (by decide))) hentry hnotLink h'⟩

/-- A walk that arrives behind the last link arrives at the link, also if it demands less at its end. -/
theorem exists_entry_of_target {slash' : Bool} (hless : slash' = true → way.slash = true) {l : Location} {e : Entry}
    (h : walk fs .target links base way = .ok (.at l e)) :
    ∃ l' e', walk fs .entry links base ⟨way.names, slash'⟩ = .ok (.at l' e') := by
  induction links generalizing base way slash' l e with
  | zero => cases h
  | succ links ih =>
    obtain ⟨l', e', h'⟩ := (walked_of_walkNames h).exists_entry hless fun _ _ _ _ h' _ hless' => ih hless' h'
    exact ⟨l', e', h'.walkNames_eq⟩

/-- Down from a directory to another one, along names that are no links. -/
theorem walkNames_down (htree : fs.IsTree) {l : Location} (hl : l.Proper)
    (hdir : fs.entry? (base ++ l) = some .directory) (hne : names ≠ []) :
    walkNames fs reach slash onLink base (l ++ names) = .error .nameTooLong ∨
      walkNames fs reach slash onLink base (l ++ names) = walkNames fs reach slash onLink (base ++ l) names := by
  induction l generalizing base with
  | nil => exact .inr (by rw [List.append_nil, List.nil_append])
  | cons n l ih =>
    have hn := hl n List.mem_cons_self
    rw [List.append_cons] at hdir ⊢
    have hnext : fs.entry? (base ++ [n]) = some .directory := htree.directory_above hdir
    have hhere : fs.entry? base = some .directory := htree.directory_above hnext
    by_cases hlong : longestName < n.utf8ByteSize
    · left
      rw [List.cons_append, walkNames, hhere]
      dsimp only
      rw [if_neg hn.notDot, if_neg hn.notDots, if_pos hlong]
    · have hmore : (l ++ names).isEmpty = false := by simp [hne]
      have hname : LooksUp reach slash n (l ++ names) :=
        ⟨⟨hn.notDot, hn.notDots, hlong⟩, by rw [hmore, Bool.false_and, Bool.false_and]⟩
      rw [List.cons_append, walkNames_of_entry hhere hname hnext (by simp)]
      exact ih (fun m hm => hl m (List.mem_cons_of_mem _ hm)) hdir

/-- A walk along the names of a directory goes on from there. -/
theorem Walked.descend {l : Location} (h : Walked fs reach slash onLink base (l ++ names) place) (htree : fs.IsTree)
    (hl : l.Proper) (hdir : fs.entry? (base ++ l) = some .directory) :
    Walked fs reach slash onLink (base ++ l) names place := by
  induction l generalizing base with
  | nil => rwa [List.append_nil]
  | cons n l ih =>
    have hn := hl n List.mem_cons_self
    rw [List.append_cons] at hdir ⊢
    have hnext : fs.entry? (base ++ [n]) = some .directory := htree.directory_above hdir
    have hrest : Walked fs reach slash onLink (base ++ [n]) (l ++ names) place := by
      rw [List.cons_append] at h
      generalize l ++ names = rest at h ⊢
      cases h with
      | stay => exact absurd rfl hn.notDot
      | up => exact absurd rfl hn.notDots
      | free _ _ hnone => cases hnext.symm.trans hnone
      | link _ _ hlink | through _ _ hlink => cases hnext.symm.trans hlink
      | down _ _ _ _ hrest => exact hrest
    exact ih hrest (fun m hm => hl m (List.mem_cons_of_mem _ hm)) hdir

theorem Walked.onward {reach' : Reach} {slash' : Bool} {tail : List String} (hpart : fs.IsPart fs') (htail : tail ≠ [])
    {r : Location} (honLink : ∀ base way, onLink base way = .ok (.at r .directory) →
      ∃ k, walk fs' reach' links base ⟨way.names ++ tail, slash'⟩ =
        walkNames fs' reach' slash' (walk fs' reach' k) r tail)
    (h : Walked fs .target slash onLink base names (.at r .directory)) :
    ∃ k, walkNames fs' reach' slash' (walk fs' reach' links) base (names ++ tail) =
      walkNames fs' reach' slash' (walk fs' reach' k) r tail := by
  generalize hplace : Place.at r .directory = place at h
  have hmore (rest : List String) : (rest ++ tail).isEmpty = false := by simp [htail]
  have hlooks {name : String} (hname : Plain name) (rest : List String) : LooksUp reach' slash' name (rest ++ tail) :=
    ⟨hname, by rw [hmore, Bool.false_and, Bool.false_and]⟩
  induction h with
  | arrived =>
    obtain ⟨rfl, -⟩ := Place.at.inj hplace
    exact ⟨links, rfl⟩
  | stay hdir _ ih | up hdir _ ih =>
    rw [List.cons_append, walkNames, hpart _ _ hdir]
    exact ih hplace
  | free => cases hplace
  | link _ _ _ hstop => simp at hstop
  | @through base name target rest _ hdir hname hlink hgo htarget hbehind =>
    subst hplace
    obtain ⟨k, hwalk⟩ := honLink _ _ hbehind
    have hthrough : Way.through target (rest ++ tail) slash' =
        ⟨(Way.through target rest slash).names ++ tail, slash'⟩ := by
      simp [Way.through, htail]
    refine ⟨k, ?_⟩
    rw [List.cons_append, walkNames_of_link (hpart _ _ hdir) (hlooks hname.toPlain _) (hpart _ _ hlink), hmore, htarget,
      hthrough]
    exact hwalk
  | down hdir hname hentry hnotLink _ ih =>
    rw [List.cons_append,
      walkNames_of_entry (hpart _ _ hdir) (hlooks hname.toPlain _) (hpart _ _ hentry) hnotLink]
    exact ih hplace

/-- **A walk to a directory** can be gone on with: where more things stand, names behind it are looked up there. -/
theorem walk_onward (reach' : Reach) (slash' : Bool) {tail : List String} (hpart : fs.IsPart fs') (htail : tail ≠ [])
    {r : Location} (h : walk fs .target links base way = .ok (.at r .directory)) :
    ∃ k, walk fs' reach' links base ⟨way.names ++ tail, slash'⟩ =
      walkNames fs' reach' slash' (walk fs' reach' k) r tail := by
  induction links generalizing base way with
  | zero => cases h
  | succ links ih => exact (walked_of_walkNames h).onward hpart htail fun _ _ => ih

/-- Up from a directory. -/
theorem walkNames_up (htree : fs.IsTree) (hdir : fs.entry? base = some .directory) (k : Nat) :
    walkNames fs reach slash onLink base (List.replicate k ".." ++ names) =
      walkNames fs reach slash onLink (base.take (base.length - k)) names := by
  induction k generalizing base with
  | zero => rw [Nat.sub_zero, List.take_length]; rfl
  | succ k ih =>
    have habove : fs.entry? base.dropLast = some .directory := by
      rw [List.dropLast_eq_take]
      rw [← List.take_append_drop (base.length - 1) base] at hdir
      exact htree.directory_above hdir
    have hlength : base.dropLast.take (base.dropLast.length - k) = base.take (base.length - (k + 1)) := by
      rw [List.length_dropLast, List.dropLast_eq_take, List.take_take]
      congr 1
      omega
    rw [List.replicate_succ, List.cons_append, walkNames, hdir, ← hlength, ← ih habove]
    rfl

end Ends

end FileSystem

end DataplaneVerdict
