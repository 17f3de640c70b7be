import DataplaneVerdict.Proofs.EvidenceOrder
import DataplaneVerdict.Proofs.WorkScope

/-!
# `Proofs.Removal` — what a removal can take away

A removal is accepted or refused by the texts of two resolved paths. For proper locations that test is the one that it
stands for: the names of the path go on where those of the root end (`WorkDir.isBelow_iff`). The root of the tree is the
exception, nothing counts as below it.

What is taken away is what stands where the resolved path leads (`FileSystem.Takes`). The names before the last one
may be links, and then that is somewhere else in the tree, perhaps beside the root (`WorkDir.sibling_removed`). If the
directory around the path is a directory itself, the path leads to its own location (`FileSystem.at_of_directory`).

## Contents
- **Well-formed files.** `FileSystem.WellFormed`.
- **Locations below others.** `Location.Below`, `WorkDir.isBelow_iff`.
- **Removal.** `FileSystem.Takes`, and `WorkDir.remove_bounded`.
-/

namespace DataplaneVerdict

/-! ## Well-formed files -/

namespace FileSystem

variable {fs fs' : FileSystem}

/-- Files as a host has them: one entry at each location, proper names, a directory around everything but the root,
and a working directory with a proper name. -/
structure WellFormed (fs : FileSystem) : Prop where
  single : (fs.entries.map (·.1)).Nodup
  named : ∀ x ∈ fs.entries, Location.Proper x.1
  housed : ∀ x ∈ fs.entries, x.1 ≠ [] → fs.entry? x.1.dropLast = some .directory
  here : fs.cwd.Proper

theorem WellFormed.isTree (h : fs.WellFormed) : fs.IsTree := by
  intro l name hsome
  obtain ⟨e, he⟩ := Option.ne_none_iff_exists'.mp hsome
  have haround := h.housed _ (mem_entries_of_get he) (by simp)
  rwa [List.dropLast_concat] at haround

end FileSystem

/-! ## Locations below others -/

/-- One location is strictly below another: its names go on where those of the other end. -/
def Location.Below (r l : Location) : Prop := ∃ names, names ≠ [] ∧ l = r ++ names

namespace Location

variable {r l : Location}

theorem join_append {names : Location} (hr : r ≠ []) (hnames : names ≠ []) :
    Text.join "/" (r ++ names) = Text.join "/" r ++ "/" ++ Text.join "/" names := by
  induction r with
  | nil => exact absurd rfl hr
  | cons n rest ih =>
    obtain ⟨m, ms, rfl⟩ := List.exists_cons_of_ne_nil hnames
    cases rest with
    | nil => rfl
    | cons n' rest =>
      have hjoin : Text.join "/" (n :: n' :: rest ++ m :: ms) = n ++ "/" ++ Text.join "/" (n' :: rest ++ m :: ms) := rfl
      rw [hjoin, ih (List.cons_ne_nil _ _), Text.join]
      simp only [String.append_assoc]

/-- The pieces of a location's text; that of the root has two empty ones. -/
theorem segments_text_cases (h : l.Proper) : Path.segments l.text = "" :: (if l = [] then [""] else l) := by
  by_cases hnil : l = []
  · subst hnil
    decide
  · rw [if_neg hnil, segments_text h hnil]

/-- What stands behind a text and a slash. -/
theorem segments_of_prefix {a : String} (h : (a ++ "/").toList <+: l.text.toList) :
    ∃ pieces, pieces ≠ [] ∧ Path.segments l.text = Path.segments a ++ pieces := by
  obtain ⟨rest, hrest⟩ := h
  have htext : l.text = a ++ "/" ++ String.ofList rest := by
    rw [← String.toList_inj, String.toList_append, String.toList_ofList, hrest]
  refine ⟨Path.segments (String.ofList rest), ?_, ?_⟩
  · simpa [Path.segments, Text.splitOn] using Text.pieces_ne_nil '/' (String.ofList rest).toList
  · rw [htext, Path.segments, Text.splitOn_append]
    rfl

end Location

namespace WorkDir

open Location

/-- **The test of a removal** is the one that it stands for, but that nothing is below the root of the tree. -/
theorem isBelow_iff {r l : Location} (hr : r.Proper) (hl : l.Proper) : isBelow r l = true ↔ r ≠ [] ∧ r.Below l := by
  rw [isBelow, Text.startsWith, List.isPrefixOf_iff_prefix]
  constructor
  · intro hprefix
    obtain ⟨pieces, hne, hsegments⟩ := segments_of_prefix hprefix
    rw [segments_text_cases hr, segments_text_cases hl, List.cons_append, List.cons_inj_right] at hsegments
    by_cases hnil : r = []
    · -- the text of `l` would begin with two slashes, so its first name would be empty
      rw [if_pos hnil] at hsegments
      split at hsegments
      · exact absurd (List.cons.inj hsegments).2.symm hne
      · exact absurd rfl (hl "" (by rw [hsegments]; exact List.mem_cons_self)).nonempty
    · rw [if_neg hnil] at hsegments
      refine ⟨hnil, pieces, hne, ?_⟩
      split at hsegments
      · have hlength := congrArg List.length hsegments
        have hr' := List.length_pos_iff.mpr hnil
        have hp := List.length_pos_iff.mpr hne
        simp only [List.length_append, List.length_cons, List.length_nil] at hlength
        omega
      · exact hsegments
  · rintro ⟨hnil, names, hne, rfl⟩
    have htext : text (r ++ names) = r.text ++ "/" ++ Text.join "/" names := by
      rw [text, join_append hnil hne, text]
      simp only [String.append_assoc]
    rw [htext]
    exact ⟨(Text.join "/" names).toList, by rw [← String.toList_append]⟩

end WorkDir

/-! ## Removal -/

namespace FileSystem

variable {fs fs' : FileSystem}

/-- What taking away a path does to the files: what stands where the path leads goes with all that is below it, and
nothing else changes. -/
structure Takes (fs : FileSystem) (p : String) (fs' : FileSystem) : Prop where
  gone : ∀ l e, fs.locate .entry p = .ok (.at l e) → ∀ m, l <+: m → fs'.entry? m = none
  kept : ∀ m, (∀ l e, fs.locate .entry p = .ok (.at l e) → ¬l <+: m) → fs'.entry? m = fs.entry? m

theorem takes_of_removeAll {p : String} (h : fs.removeAll p = .ok fs') : fs.Takes p fs' := by
  obtain ⟨rfl, hnone⟩ | ⟨l, e, hat, rfl⟩ := removeAll_eq_ok h
  · exact ⟨fun l e hat => absurd hat (hnone l e), fun _ _ => rfl⟩
  · constructor
    · intro l' e' hat' m hm
      rw [hat] at hat'
      obtain ⟨rfl, rfl⟩ := Place.at.inj (Except.ok.inj hat')
      rw [get_erase, if_pos hm]
    · intro m hm
      rw [get_erase, if_neg (hm l e hat)]

/-- **In a directory of its own** a path leads to its own location: no link is on the way. -/
theorem at_of_directory (htree : fs.IsTree) {l m : Location} {e : Entry} (hl : l.Proper) (hnil : l ≠ [])
    (hdir : fs.entry? l.dropLast = some .directory) (hat : fs.locate .entry l.text = .ok (.at m e)) : m = l := by
  obtain ⟨d, b, rfl⟩ := (List.eq_nil_or_concat l).resolve_left hnil
  rw [List.concat_eq_append] at *
  rw [List.dropLast_concat] at hdir
  have hwalk := walk_of_locate hat
  rw [Location.isAbsolute_text, if_pos rfl, ofPath_text hl] at hwalk
  have hb := hl b (by simp)
  have hd : Location.Proper d := fun n hn => hl n (List.mem_append_left _ hn)
  have hwalked : Walked fs .entry false (walk fs .entry mostLinks) [] (d ++ [b]) (.at m e) := walked_of_walkNames hwalk
  have hlast : Walked fs .entry false (walk fs .entry mostLinks) d [b] (.at m e) := hwalked.descend htree hd hdir
  cases hlast with
  | stay => exact absurd rfl hb.notDot
  | up => exact absurd rfl hb.notDots
  | link => rfl
  | through _ _ _ hgo => simp at hgo
  | down _ _ _ _ hrest =>
    cases hrest with
    | arrived => rfl

end FileSystem

namespace WorkDir

variable {fs fs' : FileSystem} {root path : String}

/-- An accepted removal takes the resolved path away, or fails and takes nothing. -/
theorem remove_eq_ok (h : remove fs root path = .ok fs') :
    isBelow (Path.resolve fs.cwd root) (Path.resolve fs.cwd path) = true ∧
      (fs.removeAll (Path.resolve fs.cwd path).text = .ok fs' ∨
        fs' = fs ∧ ∃ e, fs.removeAll (Path.resolve fs.cwd path).text = .error e) := by
  unfold remove at h
  dsimp only at h
  split at h
  · refine ⟨‹_›, ?_⟩
    split at h
    · rename_i hremoved
      exact .inl (Except.ok.inj h ▸ hremoved)
    · exact .inr ⟨(Except.ok.inj h).symm, _, ‹_›⟩
  · cases h

theorem remove_isOk_iff :
    (∃ fs', remove fs root path = .ok fs') ↔
      isBelow (Path.resolve fs.cwd root) (Path.resolve fs.cwd path) = true := by
  constructor
  · rintro ⟨fs', h⟩
    exact (remove_eq_ok h).1
  · intro h
    unfold remove
    dsimp only
    rw [if_pos h]
    cases fs.removeAll (Path.resolve fs.cwd path).text with
    | ok fs' => exact ⟨fs', rfl⟩
    | error e => exact ⟨fs, rfl⟩

/-- Below a root other than that of the tree, a name joined to the root is accepted. -/
theorem remove_join {b : String} (hcwd : fs.cwd.Proper) (hb : Path.IsName b) (hroot : Path.resolve fs.cwd root ≠ []) :
    ∃ fs', remove fs root (Path.join root b) = .ok fs' := by
  rw [remove_isOk_iff, Path.resolve_join (fun _ => hcwd) hb, isBelow_child hb, decide_eq_true_iff]
  exact hroot

/-- What begins like a work directory and has no slash is a name. -/
theorem isName_of_startsWith {b : String} (hseries : Text.startsWith b (series ++ "-") = true) (hb : '/' ∉ b.toList) :
    Path.IsName b := by
  obtain ⟨id, hid⟩ := List.isPrefixOf_iff_prefix.mp hseries
  have heq : b = series ++ "-" ++ String.ofList id := by
    rw [← String.toList_inj, String.toList_append, String.toList_ofList, hid]
  rw [heq]
  refine isName_series fun h => hb ?_
  rw [← hid]
  exact List.mem_append_right _ (by rwa [String.toList_ofList] at h)

/-- The names of the work directories that a root has. -/
theorem mem_list (hfs : fs.WellFormed) {paths : List String} (hlist : list fs root series = .ok paths) {p : String}
    (hp : p ∈ paths) : ∃ b, Path.IsName b ∧ p = Path.join root b := by
  unfold list at hlist
  split at hlist
  · rename_i children hread
    obtain rfl := Except.ok.inj hlist
    obtain ⟨⟨b, e⟩, hmem, rfl⟩ := List.mem_map.mp hp
    obtain ⟨hchild, hmember⟩ := List.mem_filter.mp hmem
    obtain ⟨l, rfl⟩ : ∃ l, children = fs.children l := by
      unfold FileSystem.readDirectory at hread
      split at hread
      · cases hread
      · split at hread
        · cases hread
        · exact ⟨_, (Except.ok.inj hread).symm⟩
      · cases hread
    have hproper := hfs.named _ (FileSystem.mem_children_iff.mp hchild)
    exact ⟨b, isName_of_startsWith ((Bool.and_eq_true _ _).mp hmember).2 (hproper b (by simp)).noSlash, rfl⟩
  · split at hlist
    · rw [← Except.ok.inj hlist] at hp
      cases hp
    · cases hlist

/-- **A removal is bounded by its root.** -/
theorem remove_bounded (hfs : fs.WellFormed) (root path : String) :
    -- it is accepted exactly strictly below the root, which must not be the root of the tree, and refused otherwise
    ((∃ fs', remove fs root path = .ok fs') ↔
      Path.resolve fs.cwd root ≠ [] ∧ Location.Below (Path.resolve fs.cwd root) (Path.resolve fs.cwd path)) ∧
    (∀ f, remove fs root path = .error f → f = .refusedRemoval path ∧
      f.message = "Refusing to remove directory outside work root: " ++ path) ∧
    -- it takes what the resolved path leads to, and nothing if that fails
    (∀ fs', remove fs root path = .ok fs' →
      (fs.Takes (Path.resolve fs.cwd path).text fs' ∨
        fs' = fs ∧ ∃ e, fs.removeAll (Path.resolve fs.cwd path).text = .error e) ∧
      (fs.entry? (Path.resolve fs.cwd path).dropLast = some .directory →
        ∀ m, fs'.entry? m ≠ fs.entry? m → Path.resolve fs.cwd path <+: m)) ∧
    -- what was made or is listed below the root is accepted, whatever has happened to the files since
    (Path.resolve fs.cwd root ≠ [] → ∀ fs₁ : FileSystem, fs₁.cwd = fs.cwd →
      (∀ id made fs', '/' ∉ id.toList → create fs root series id = (.ok made, fs') →
        ∃ fs₂, remove fs₁ root made = .ok fs₂) ∧
      ∀ paths, list fs root series = .ok paths → ∀ p ∈ paths, ∃ fs₂, remove fs₁ root p = .ok fs₂) := by
  have hr := Path.resolve_proper hfs.here root
  have hp := Path.resolve_proper hfs.here path
  refine ⟨remove_isOk_iff.trans (isBelow_iff hr hp), ?_, ?_, ?_⟩
  · intro f hf
    unfold remove at hf
    dsimp only at hf
    split at hf
    · split at hf <;> cases hf
    · rw [← Except.error.inj hf]
      exact ⟨rfl, rfl⟩
  · intro fs' hok
    obtain ⟨hbelow, hremoved⟩ := remove_eq_ok hok
    refine ⟨hremoved.imp_left FileSystem.takes_of_removeAll, fun hdir m hm => ?_⟩
    obtain ⟨-, names, hne, heq⟩ := (isBelow_iff hr hp).mp hbelow
    have hnil : Path.resolve fs.cwd path ≠ [] := by simp [heq, hne]
    obtain hremoved | ⟨rfl, -⟩ := hremoved
    · -- an entry that changed is below where the path leads, which is its own location
      by_cases hout : Path.resolve fs.cwd path <+: m
      · exact hout
      · refine absurd ((FileSystem.takes_of_removeAll hremoved).kept m fun l e hat => ?_) hm
        rwa [FileSystem.at_of_directory hfs.isTree hp hnil hdir hat]
    · exact absurd rfl hm
  · intro hroot fs₁ hcwd
    have haccepts : ∀ b, Path.IsName b → ∃ fs₂, remove fs₁ root (Path.join root b) = .ok fs₂ := fun b hb =>
      remove_join (hcwd ▸ hfs.here) hb (hcwd ▸ hroot)
    refine ⟨fun id made fs' hid hcreate => ?_, fun paths hlist p hmem => ?_⟩
    · rw [(create_eq_ok hcreate).1]
      exact haccepts _ (isName_series hid)
    · obtain ⟨b, hb, rfl⟩ := mem_list hfs hlist hmem
      exact haccepts b hb

/-- A work root with an old and a new directory in it and a link out of it, and beside it a directory with a similar
    name. -/
def yard : FileSystem where
  entries := [([], .directory), (["work"], .directory), (["work", "p4verdict-old"], .directory),
    (["work", "p4verdict-old", "log"], .file []), (["work", "p4verdict-new"], .directory),
    (["work", "p4verdict-out"], .link ".."), (["work-old"], .directory)]
  stamps := [(["work", "p4verdict-old"], 1000), (["work", "p4verdict-new"], 5000)]

theorem yard_wellFormed : yard.WellFormed where
  single := by decide
  named := by
    have hall : yard.entries.all (fun x => x.1.all fun n =>
        !(n.isEmpty || n == "." || n == ".." || n.toList.contains '/')) = true := by decide
    intro x hx n hn
    have hname := List.all_eq_true.mp (List.all_eq_true.mp hall x hx) n hn
    simp only [Bool.not_eq_true', Bool.or_eq_false_iff, String.isEmpty_eq_false_iff, beq_eq_false_iff_ne] at hname
    obtain ⟨⟨⟨hempty, hdot⟩, hdots⟩, hslash⟩ := hname
    exact ⟨hempty, hdot, hdots, by simpa using hslash⟩
  housed := by
    have hall : yard.entries.all (fun x => x.1.isEmpty || yard.entry? x.1.dropLast = some .directory) = true := by
      decide
    intro x hx hne
    simpa [hne] using List.all_eq_true.mp hall x hx
  here := fun n hn => absurd hn List.not_mem_nil

/-- Both paths are in no normal form. What is taken is the directory that the second one says, and nothing beside it. -/
theorem yard_bounded : yard.WellFormed ∧ ∃ fs', remove yard "work/./" "/work/x/..//p4verdict-old/" = .ok fs' ∧
    (∀ m, fs'.entry? m ≠ yard.entry? m → ["work", "p4verdict-old"] <+: m) ∧
    fs'.entry? ["work", "p4verdict-old", "log"] = none := by
  obtain ⟨haccepts, -, htakes, -⟩ := remove_bounded yard_wellFormed "work/./" "/work/x/..//p4verdict-old/"
  obtain ⟨fs', hok⟩ := haccepts.mpr ⟨by decide, ["p4verdict-old"], by decide, by decide⟩
  obtain ⟨hgone | ⟨-, e, hfails⟩, hinside⟩ := htakes fs' hok
  · refine ⟨yard_wellFormed, fs', hok, hinside (by decide), ?_⟩
    exact hgone.gone ["work", "p4verdict-old"] .directory (eq_ok_of_toOption (by decide)) _ (by decide)
  · have hworks : (yard.removeAll (Path.resolve yard.cwd "/work/x/..//p4verdict-old/").text).isOk = true := by
      decide
    rw [hfails] at hworks
    cases hworks

/-- **Through a link** below the root a removal is accepted that takes a directory beside the root: the names of the
path go on where those of the root end, but the path leads out again. -/
theorem sibling_removed : ∃ fs', remove yard "/work" "/work/p4verdict-out/work-old" = .ok fs' ∧
    yard.entry? ["work-old"] = some .directory ∧ fs'.entry? ["work-old"] = none ∧
    ¬Path.resolve yard.cwd "/work/p4verdict-out/work-old" <+: ["work-old"] := by
  have hseen : (remove yard "/work" "/work/p4verdict-out/work-old").toOption.map (fun fs' => fs'.entry? ["work-old"]) =
      some none := by decide
  obtain ⟨fs', hok, hgone⟩ := Option.map_eq_some_iff.mp hseen
  exact ⟨fs', eq_ok_of_toOption hok, rfl, hgone, by decide⟩

end WorkDir

end DataplaneVerdict
