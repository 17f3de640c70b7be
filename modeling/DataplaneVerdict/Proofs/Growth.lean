import DataplaneVerdict.Proofs.WorkDirectory

/-!
# `Proofs.Growth` — the way to a root

Making a root may make directories on the way to it. They are made from paths, which are cut at their last slashes, and
they stand wherever those paths lead, perhaps behind links. `Grown` says that nothing else changed, and
`IsTree.grown_mkdirRecursive` that a root which could be made was made in this way.

## Contents
- **Growth.** `FileSystem.Grown`, and what one new directory does.
- **Paths on the way.** `FileSystem.OnWay`: the texts of the root's beginnings, and what is before their last slashes.
- **Making a root.** `FileSystem.IsTree.grown_mkdirAll`, by induction on the directories that are still to be made.
-/

namespace DataplaneVerdict

namespace FileSystem

variable {fs fs' fs'' : FileSystem} {root : Location}

/-! ## Growth -/

theorem find_text_of_isPart (hpart : fs.IsPart fs') {m l : Location} {e : Entry} (h : fs.find m.text = .ok (l, e)) :
    fs'.find m.text = .ok (l, e) := by
  rw [find_eq_ok_iff] at h ⊢
  have hwalk := walk_of_locate h
  rw [m.isAbsolute_text, if_pos rfl] at hwalk
  rw [locate_eq_walk h, m.isAbsolute_text, if_pos rfl]
  exact walk_of_isPart hpart hwalk

/-- Nothing changed but directories that were made where the way to a root leads: each was missing, and the text of some
    beginning of the root leads to it. -/
def Grown (root : Location) (fs fs' : FileSystem) : Prop :=
  ∀ l, fs'.entry? l = fs.entry? l ∨
    (fs.entry? l = none ∧ fs'.entry? l = some .directory ∧
      ∃ k, fs'.find (Location.text (root.take k)) = .ok (l, .directory))

theorem Grown.of_same (root : Location) (h : ∀ l, fs'.entry? l = fs.entry? l) : Grown root fs fs' := fun l => .inl (h l)

theorem Grown.refl (root : Location) (fs : FileSystem) : Grown root fs fs := .of_same root fun _ => rfl

theorem Grown.isPart (h : Grown root fs fs') : fs.IsPart fs' := by
  intro m e hm
  rcases h m with hsame | ⟨hnone, -⟩
  · rw [hsame, hm]
  · rw [hm] at hnone
    cases hnone

theorem Grown.trans (h : Grown root fs fs') (h' : Grown root fs' fs'') : Grown root fs fs'' := by
  intro l
  rcases h' l with hsame | ⟨hnone, hdir, k, hfind⟩
  · rcases h l with hsame' | ⟨hnone', hdir', k, hfind⟩
    · exact .inl (hsame.trans hsame')
    · exact .inr ⟨hnone', hsame.trans hdir', k, find_text_of_isPart h'.isPart hfind⟩
  · rcases h l with hsame' | ⟨-, hdir', -⟩
    · exact .inr ⟨hsame' ▸ hnone, hdir, k, hfind⟩
    · rw [hdir'] at hnone
      cases hnone

theorem Grown.isDirectory (h : Grown root fs fs') {m : Location} (hdir : fs.isDirectory m.text = true) :
    fs'.isDirectory m.text = true := by
  obtain ⟨l, hfind⟩ := isDirectory_eq_true_iff.mp hdir
  exact isDirectory_eq_true_iff.mpr ⟨l, find_text_of_isPart h.isPart hfind⟩

/-- One directory on the way. -/
theorem IsTree.grown_mkdir? (htree : fs.IsTree) (hroot : root.Proper) {k : Nat}
    (h : fs.mkdir? (Location.text (root.take k)) = .ok fs') :
    Grown root fs fs' ∧ fs'.isDirectory (Location.text (root.take k)) = true := by
  have hproper : Location.Proper (root.take k) := fun n hn => hroot n (List.mem_of_mem_take hn)
  obtain ⟨d, n, hfree, rfl⟩ := mkdir?_eq_ok h
  rw [Location.withoutFinalSlashes_text hproper (.inl rfl)] at hfree
  have hfind := htree.find_made hproper hfree
  refine ⟨?_, isDirectory_eq_true_iff.mpr ⟨_, hfind⟩⟩
  intro l
  by_cases hl : l = d ++ [n]
  · subst hl
    exact .inr ⟨(vacant_of_locate hfree).nothing, by rw [get_put, if_pos rfl], k, hfind⟩
  · rw [get_put, if_neg hl]
    exact .inl rfl

/-! ## Paths on the way -/

theorem beforeLastSlash_append {p b : String} (hb : '/' ∉ b.toList) : beforeLastSlash (p ++ "/" ++ b) = p := by
  have hchars : (p ++ "/" ++ b).toList = p.toList ++ '/' :: b.toList := by simp
  have hmem : (p ++ "/" ++ b).toList.contains '/' = true := by simp [hchars]
  have hdrop : (b.toList.reverse ++ '/' :: p.toList.reverse).dropWhile (· != '/') = '/' :: p.toList.reverse := by
    rw [List.dropWhile_append_of_pos]
    · rfl
    · intro c hc
      simp only [bne_iff_ne]
      rintro rfl
      exact hb (List.mem_reverse.mp hc)
  rw [beforeLastSlash, if_pos hmem, hchars, List.reverse_append, List.reverse_cons, List.append_assoc]
  simp [hdrop]

theorem beforeLastSlash_ne {p : String} (h : '/' ∈ p.toList) : beforeLastSlash p ≠ p := by
  intro heq
  have hmem : p.toList.contains '/' = true := by simp [h]
  have hlength := congrArg (fun q => q.toList.length) heq
  rw [beforeLastSlash, if_pos hmem, String.toList_ofList, List.length_reverse, List.length_drop] at hlength
  have hshorter : (p.toList.reverse.dropWhile (· != '/')).length ≤ p.toList.length := by
    simpa using (List.dropWhile_suffix (· != '/') (l := p.toList.reverse)).length_le
  have hpos := List.length_pos_of_mem h
  omega

/-- The paths that are made on the way to a root. -/
def OnWay (root : Location) (p : String) : Prop := p = "" ∨ ∃ k, p = Location.text (root.take k)

theorem OnWay.beforeLastSlash (hroot : root.Proper) {p : String} (h : OnWay root p) :
    OnWay root (FileSystem.beforeLastSlash p) := by
  rcases h with rfl | ⟨k, rfl⟩
  · exact .inl rfl
  · rcases List.eq_nil_or_concat (root.take k) with hnil | ⟨m, b, hm⟩
    · rw [hnil]
      exact .inl (by decide)
    · rw [List.concat_eq_append] at hm
      have hb : '/' ∉ b.toList := by
        have hmem : b ∈ root.take k := by simp [hm]
        exact (hroot b (List.mem_of_mem_take hmem)).noSlash
      by_cases hmnil : m = []
      · left
        rw [hm, hmnil]
        exact beforeLastSlash_append (p := "") hb
      · right
        have hprefix : m <+: root := by
          have hpart : m <+: root.take k := hm ▸ List.prefix_append m [b]
          exact hpart.trans (List.take_prefix k root)
        refine ⟨m.length, ?_⟩
        rw [hm, Location.text_append_singleton hmnil, beforeLastSlash_append hb,
          ← List.prefix_iff_eq_take.mp hprefix]

theorem OnWay.eq_empty_of_parent {p : String} (h : OnWay root p) (hsame : FileSystem.beforeLastSlash p = p) :
    p = "" := by
  rcases h with rfl | ⟨k, rfl⟩
  · rfl
  · refine absurd hsame (beforeLastSlash_ne ?_)
    simp [Location.text, String.toList_append]

/-- A path on the way that could be made leads to a directory. -/
theorem OnWay.grown_mkdir? {p : String} (h : OnWay root p) (htree : fs.IsTree) (hroot : root.Proper)
    (hmade : fs.mkdir? p = .ok fs') : Grown root fs fs' ∧ fs'.isDirectory p = true := by
  rcases h with rfl | ⟨k, rfl⟩
  · cases hmade
  · exact htree.grown_mkdir? hroot hmade

theorem OnWay.isDirectory_of_grown {p : String} (h : OnWay root p) (hgrown : Grown root fs fs')
    (hdir : fs.isDirectory p = true) : fs'.isDirectory p = true := by
  rcases h with rfl | ⟨k, rfl⟩
  · cases hdir
  · exact hgrown.isDirectory hdir

/-! ## Making a root -/

/-- **Making a root** adds nothing but directories on the way to it, whether it succeeds or not; if it succeeds, all
that was wanted is there. -/
theorem IsTree.grown_mkdirAll (htree : fs.IsTree) (hroot : root.Proper) (fuel : Nat) (pending : List String)
    (hpending : ∀ p ∈ pending, OnWay root p) :
    Grown root fs (fs.mkdirAll fuel pending).2 ∧
      ((fs.mkdirAll fuel pending).1 = .ok () →
        ∀ p ∈ pending, p = "" ∨ (fs.mkdirAll fuel pending).2.isDirectory p = true) := by
  induction fuel generalizing fs pending with
  | zero => exact ⟨.refl root fs, fun h => by cases h⟩
  | succ fuel ih =>
    cases pending with
    | nil => exact ⟨.refl root fs, fun _ p hp => absurd hp List.not_mem_nil⟩
    | cons p pending =>
      have hp : OnWay root p := hpending p List.mem_cons_self
      have hrest : ∀ q ∈ pending, OnWay root q := fun q hq => hpending q (List.mem_cons_of_mem _ hq)
      obtain ⟨e, heq⟩ | ⟨fs', hmade, heq⟩ | ⟨hdir, heq⟩ | ⟨-, heq⟩ | ⟨hsame, -, heq⟩ := mkdirAll_cases fs fuel p pending
      · rw [heq]
        exact ⟨.refl root fs, fun h => by cases h⟩
      · rw [heq]
        obtain ⟨hstep, hdir⟩ := hp.grown_mkdir? htree hroot hmade
        obtain ⟨hgrown, hdone⟩ := ih (htree.mkdir? hmade) pending hrest
        refine ⟨hstep.trans hgrown, fun hok => List.forall_mem_cons.mpr ⟨?_, hdone hok⟩⟩
        exact .inr (hp.isDirectory_of_grown hgrown hdir)
      · rw [heq]
        obtain ⟨hgrown, hdone⟩ := ih htree pending hrest
        refine ⟨hgrown, fun hok => List.forall_mem_cons.mpr ⟨?_, hdone hok⟩⟩
        exact .inr (hp.isDirectory_of_grown hgrown hdir)
      · rw [heq]
        obtain ⟨hgrown, hdone⟩ := ih htree (FileSystem.beforeLastSlash p :: p :: pending)
          (List.forall_mem_cons.mpr ⟨hp.beforeLastSlash hroot, hpending⟩)
        exact ⟨hgrown, fun hok => (List.forall_mem_cons.mp (hdone hok)).2⟩
      · rw [heq]
        obtain ⟨hgrown, hdone⟩ := ih htree pending hrest
        exact ⟨hgrown, fun hok => List.forall_mem_cons.mpr ⟨.inl (hp.eq_empty_of_parent hsame), hdone hok⟩⟩

/-- The root itself is the last that is made. -/
theorem IsTree.grown_mkdirRecursive (htree : fs.IsTree) (hroot : root.Proper)
    (h : fs.mkdirRecursive root.text = (.ok (), fs')) : Grown root fs fs' ∧ fs'.isDirectory root.text = true := by
  have hway : ∀ p ∈ [root.text], OnWay root p := by
    intro p hp
    exact .inr ⟨root.length, by rw [List.take_length]; exact List.mem_singleton.mp hp⟩
  obtain ⟨hgrown, hdone⟩ := htree.grown_mkdirAll hroot (2 * root.text.length + 4) [root.text] hway
  unfold FileSystem.mkdirRecursive at h
  rw [h] at hgrown hdone
  exact ⟨hgrown, (hdone rfl root.text List.mem_cons_self).resolve_left root.text_ne_empty⟩

end FileSystem

end DataplaneVerdict
