import DataplaneVerdict.Proofs.EvidenceFiles

/-!
# `Proofs.EvidenceOrder` — the evidence of a directory, file by file

A scan asks a search for the evidence files of a directory, puts their paths in order and reads them one by one. What
the search answers comes in any order; what the scan makes of it does not depend on that order.

## Contents
- **Order.** Texts are ordered by their code units, strictly if no two of them are equal (`Text.sortByUnits_ascending`),
  and the order of the input is forgotten (`Text.sortByUnits_perm`).
- **Reading.** The files of a scan are the paths that can be read (`Evidence.files_readAll`), each with its own text.
- **Scans.** `Evidence.scanWith` is a scan with the search left open, `Evidence.Globbed` what is expected of a search.
-/

namespace DataplaneVerdict

/-! ## Order -/

namespace Text

theorem unitListLe_cons_iff {a b : Nat} {as bs : List Nat} :
    unitListLe (a :: as) (b :: bs) = true ↔ a < b ∨ a = b ∧ unitListLe as bs = true := by
  rw [unitListLe]
  rcases Nat.lt_trichotomy a b with h | rfl | h
  · simp [h]
  · simp
  · simp [h, Nat.lt_asymm h, Nat.ne_of_gt h]

theorem unitListLe_total (as bs : List Nat) : (unitListLe as bs || unitListLe bs as) = true := by
  induction as generalizing bs with
  | nil => rfl
  | cons a as ih =>
    cases bs with
    | nil => rfl
    | cons b bs =>
      rw [Bool.or_eq_true, unitListLe_cons_iff, unitListLe_cons_iff]
      rcases Nat.lt_trichotomy a b with h | rfl | h
      · exact .inl (.inl h)
      · rcases (Bool.or_eq_true _ _).mp (ih bs) with h | h
        · exact .inl (.inr ⟨rfl, h⟩)
        · exact .inr (.inr ⟨rfl, h⟩)
      · exact .inr (.inl h)

theorem unitListLe_trans {as bs cs : List Nat} (hab : unitListLe as bs = true) (hbc : unitListLe bs cs = true) :
    unitListLe as cs = true := by
  induction as generalizing bs cs with
  | nil => rfl
  | cons a as ih =>
    cases bs with
    | nil => cases hab
    | cons b bs =>
      cases cs with
      | nil => cases hbc
      | cons c cs =>
        rw [unitListLe_cons_iff] at *
        rcases hab with hab | ⟨rfl, hab⟩
        · rcases hbc with hbc | ⟨rfl, -⟩
          · exact .inl (Nat.lt_trans hab hbc)
          · exact .inl hab
        · rcases hbc with hbc | ⟨rfl, hbc⟩
          · exact .inl hbc
          · exact .inr ⟨rfl, ih hab hbc⟩

theorem unitListLe_antisymm {as bs : List Nat} (hab : unitListLe as bs = true) (hba : unitListLe bs as = true) :
    as = bs := by
  induction as generalizing bs with
  | nil =>
    cases bs with
    | nil => rfl
    | cons b bs => cases hba
  | cons a as ih =>
    cases bs with
    | nil => cases hab
    | cons b bs =>
      rw [unitListLe_cons_iff] at *
      rcases hab with hab | ⟨rfl, hab⟩
      · omega
      · rcases hba with hba | ⟨-, hba⟩
        · omega
        · rw [ih hab hba]

theorem lex_of_unitListLe {as bs : List Nat} (h : unitListLe as bs = true) (hne : as ≠ bs) :
    List.Lex (fun m n => m < n) as bs := by
  induction as generalizing bs with
  | nil =>
    cases bs with
    | nil => exact absurd rfl hne
    | cons b bs => exact .nil
  | cons a as ih =>
    cases bs with
    | nil => cases h
    | cons b bs =>
      rcases unitListLe_cons_iff.mp h with hlt | ⟨rfl, hle⟩
      · exact .rel hlt
      · exact .cons (ih hle fun heq => hne (by rw [heq]))

/-- The units of a character spell it. -/
theorem ofUnits_charUnits (c : Char) (rest : List Nat) : ofUnits (charUnits c ++ rest) = c :: ofUnits rest := by
  have hvalid : c.toNat < 0xD800 ∨ 0xDFFF < c.toNat ∧ c.toNat < 0x110000 := c.valid
  have hc : Char.ofNat c.toNat = c := Char.ofNat_toNat c
  by_cases hplane : c.toNat < 0x10000
  · -- one unit, and no half of a pair
    have hunit : unitChar c.toNat = c := by
      have hhalf : (decide (0xD800 ≤ c.toNat) && decide (c.toNat ≤ 0xDFFF)) = false := by
        simp only [Bool.and_eq_false_iff, decide_eq_false_iff_not]
        omega
      rw [unitChar, hhalf, if_neg Bool.false_ne_true, hc]
    simp only [charUnits, if_pos hplane, List.cons_append, List.nil_append]
    cases rest with
    | nil => simp only [ofUnits, hunit]
    | cons v rest =>
      have hhigh : (decide (0xD800 ≤ c.toNat) && decide (c.toNat ≤ 0xDBFF)) = false := by
        simp only [Bool.and_eq_false_iff, decide_eq_false_iff_not]
        omega
      rw [ofUnits, hhigh, Bool.false_and, Bool.false_and, if_neg Bool.false_ne_true, hunit]
  · -- a high and a low half
    simp only [charUnits, if_neg hplane, List.cons_append, List.nil_append, ofUnits]
    have hhigh : 0xD800 + (c.toNat - 0x10000) / 0x400 ≤ 0xDBFF := by omega
    have hlow : 0xDC00 + (c.toNat - 0x10000) % 0x400 ≤ 0xDFFF := by omega
    have hvalue : 0x10000 + (0xD800 + (c.toNat - 0x10000) / 0x400 - 0xD800) * 0x400 +
        (0xDC00 + (c.toNat - 0x10000) % 0x400 - 0xDC00) = c.toNat := by omega
    rw [hvalue, hc]
    simp [hhigh, hlow]

theorem ofUnits_units (s : String) : ofUnits (units s) = s.toList := by
  unfold units
  induction s.toList with
  | nil => rfl
  | cons c cs ih => rw [List.flatMap_cons, ofUnits_charUnits, ih]

theorem units_inj {a b : String} (h : units a = units b) : a = b := by
  rw [← String.toList_inj, ← ofUnits_units a, h, ofUnits_units b]

/-- `a` comes before `b` in the order of code units. -/
def Before (a b : String) : Prop := List.Lex (fun m n => m < n) (units a) (units b)

theorem sortByUnits_sorted (xs : List String) : (sortByUnits xs).Pairwise fun a b => unitsLe a b = true :=
  @List.pairwise_mergeSort String unitsLe (fun _ _ _ => unitListLe_trans) (fun _ _ => unitListLe_total _ _) xs

/-- **Distinct texts are put in strictly ascending order.** -/
theorem sortByUnits_ascending {xs : List String} (h : xs.Nodup) : (sortByUnits xs).Pairwise Before := by
  have hne : (sortByUnits xs).Nodup := (List.mergeSort_perm xs _).nodup_iff.mpr h
  refine (hne.and (sortByUnits_sorted xs)).imp ?_
  rintro a b ⟨hab, hle⟩
  exact lex_of_unitListLe hle fun heq => hab (units_inj heq)

/-- **The order of the input is forgotten.** -/
theorem sortByUnits_perm {xs ys : List String} (h : xs.Perm ys) : sortByUnits xs = sortByUnits ys := by
  refine List.Perm.eq_of_pairwise ?_ (sortByUnits_sorted xs) (sortByUnits_sorted ys) ?_
  · intro a b _ _ hab hba
    exact units_inj (unitListLe_antisymm hab hba)
  · exact (List.mergeSort_perm xs _).trans (h.trans (List.mergeSort_perm ys _).symm)

end Text

/-! ## Reading -/

theorem FileSystem.nodup_children {fs : FileSystem} (h : (fs.entries.map (·.1)).Nodup) (l : Location) :
    (fs.children l).Pairwise fun x y => x.1 ≠ y.1 := by
  -- a child says where its entry stands, even if there is no other entry
  have hkey : ∀ x y, y ∈ ({ fs with entries := [x] } : FileSystem).children l → x.1 = l ++ [y.1] := by
    rintro x ⟨name, e⟩ hy
    rw [← List.mem_singleton.mp (mem_children_iff.mp hy)]
  refine (List.pairwise_map.mp h).filterMap _ ?_
  intro x x' hne y hy y' hy' heq
  apply hne
  rw [hkey x y (List.mem_filterMap.mpr ⟨x, List.mem_singleton_self x, hy⟩),
    hkey x' y' (List.mem_filterMap.mpr ⟨x', List.mem_singleton_self x', hy'⟩), heq]

theorem Location.text_child_inj {d : Location} {a b : String} (h : text (d ++ [a]) = text (d ++ [b])) : a = b := by
  by_cases hd : d = []
  · subst hd
    exact (String.append_right_inj _).mp h
  · rw [text_append_singleton hd, text_append_singleton hd] at h
    exact (String.append_right_inj _).mp h

namespace Evidence

/-- A file with its text, if it can be read. -/
def read? (fs : FileSystem) (p : String) : Option (String × String) := (fs.readText p).toOption.map (p, ·)

section Read

variable {fs gs : FileSystem} {p t outputDir : String} {paths : List String}

theorem read?_eq_some {x : String × String} : read? fs p = some x ↔ x.1 = p ∧ fs.readText p = .ok x.2 := by
  obtain ⟨q, t⟩ := x
  cases hread : fs.readText p with
  | error e => simp [read?, hread, Except.toOption]
  | ok u =>
    simp only [read?, hread, Except.toOption, Option.map_some, Option.some.injEq, Prod.mk.injEq, Except.ok.injEq]
    exact and_congr_left fun _ => eq_comm

theorem readAll_eq (fs : FileSystem) (paths : List String) :
    readAll fs paths = ⟨(paths.filterMap (read? fs)).map (·.1), (paths.filterMap (read? fs)).map (·.2)⟩ := by
  refine congrArg (fun pairs : List (String × String) => (⟨pairs.map (·.1), pairs.map (·.2)⟩ : Evidence)) ?_
  refine congrArg (List.filterMap · paths) (funext fun p => ?_)
  unfold read?
  cases fs.readText p <;> rfl

theorem zip_readAll (fs : FileSystem) (paths : List String) :
    (readAll fs paths).files.zip (readAll fs paths).texts = paths.filterMap (read? fs) := by
  rw [readAll_eq, List.zip_map']
  exact List.map_id _

/-- **The files of a scan are the paths that can be read**, in their order. -/
theorem files_readAll (fs : FileSystem) (paths : List String) :
    (readAll fs paths).files = paths.filter fun p => (fs.readText p).isOk := by
  rw [readAll_eq]
  induction paths with
  | nil => rfl
  | cons p paths ih =>
    rw [List.filterMap_cons, List.filter_cons]
    cases hread : fs.readText p with
    | error e => simpa [read?, hread, Except.toOption, Except.isOk, Except.toBool] using ih
    | ok t => simpa [read?, hread, Except.toOption, Except.isOk, Except.toBool] using ih

/-- The evidence of some of the files. -/
def restrict (e : Evidence) (keep : String → Bool) : Evidence :=
  ⟨((e.files.zip e.texts).filter (keep ·.1)).map (·.1), ((e.files.zip e.texts).filter (keep ·.1)).map (·.2)⟩

theorem read?_of_fewer (h : gs.readText p = fs.readText p ∨ (gs.readText p).isOk = false) :
    read? gs p = (read? fs p).filter fun x => (gs.readText x.1).isOk := by
  unfold read?
  rcases h with heq | hfailed
  · rw [heq]
    cases hread : fs.readText p with
    | error e => rfl
    | ok t => simp [Except.toOption, Option.filter, heq, hread, Except.isOk, Except.toBool]
  · cases hread : gs.readText p with
    | ok t =>
      rw [hread] at hfailed
      cases hfailed
    | error e =>
      cases fs.readText p with
      | error e' => rfl
      | ok t => simp [Except.toOption, Option.filter, hread, Except.isOk, Except.toBool]

/-- **A file that cannot be read is missing, and nothing else changes.** -/
theorem readAll_of_fewer (h : ∀ p ∈ paths, gs.readText p = fs.readText p ∨ (gs.readText p).isOk = false) :
    readAll gs paths = (readAll fs paths).restrict fun p => (gs.readText p).isOk := by
  have hpairs : paths.filterMap (read? gs) = (paths.filterMap (read? fs)).filter fun x => (gs.readText x.1).isOk := by
    induction paths with
    | nil => rfl
    | cons p paths ih =>
      have ih := ih fun q hq => h q (List.mem_cons_of_mem _ hq)
      rw [List.filterMap_cons, List.filterMap_cons, read?_of_fewer (h p List.mem_cons_self)]
      cases read? fs p with
      | none => exact ih
      | some x => cases hok : (gs.readText x.1).isOk <;> simp [Option.filter, hok, ih]
  rw [restrict, zip_readAll, ← hpairs, readAll_eq]

/-! ## Scans -/

/-- The search of a scan, in the directory that the absolute path leads to. -/
def search (fs : FileSystem) (outputDir : String) : Except Failure (List String) :=
  match fs.readDirectory (Path.resolve fs.cwd outputDir).text with
  | .ok children => .ok (found fs (Path.resolve fs.cwd outputDir) children)
  | .error e => if e.problem = .missing then .ok [] else .error (.file e)

/-- A scan whose search has given that answer. -/
def scanWith (fs : FileSystem) (outputDir : String) (answer : Except Failure (List String)) : Except Failure Evidence :=
  if fs.isDirectory outputDir then answer.map fun paths => readAll fs (Text.sortByUnits paths) else .ok ⟨[], []⟩

theorem scan_eq_scanWith (fs : FileSystem) (outputDir : String) :
    scan fs outputDir = scanWith fs outputDir (search fs outputDir) := by
  unfold scan scanWith search
  cases fs.isDirectory outputDir with
  | false => rfl
  | true =>
    simp only [if_true]
    cases fs.readDirectory (Path.resolve fs.cwd outputDir).text with
    | ok children => rfl
    | error e =>
      dsimp only
      split
      · simp [Except.map, Text.sortByUnits, readAll]
      · rfl

/-- An evidence file under its absolute path: a direct entry of the directory with the suffix in its name, that is a
    regular file itself or through a link. -/
structure IsMatch (fs : FileSystem) (outputDir p : String) : Prop where
  regular : fs.isFile p = true
  listed : ∃ l name e, fs.find (Path.resolve fs.cwd outputDir).text = .ok (l, .directory) ∧
    fs.entry? (l ++ [name]) = some e ∧ suffix.toList <:+ name.toList ∧
    p = Location.text (Path.resolve fs.cwd outputDir ++ [name])

/-- What is expected of a search: every evidence file once, in any order. -/
structure Globbed (fs : FileSystem) (outputDir : String) (paths : List String) : Prop where
  nodup : paths.Nodup
  mem_iff : ∀ p, p ∈ paths ↔ IsMatch fs outputDir p

/-- Searches that meet the expectation differ in the order only. -/
theorem Globbed.perm {others : List String} (h : Globbed fs outputDir paths) (ho : Globbed fs outputDir others) :
    paths.Perm others :=
  (List.perm_ext_iff_of_nodup h.nodup ho.nodup).mpr fun p => (h.mem_iff p).trans (ho.mem_iff p).symm

/-- **The evidence of a directory**: the evidence files that can be read, without repetition, in ascending order, and in
    the same places what their bytes say. -/
structure Complete (fs : FileSystem) (outputDir : String) (e : Evidence) : Prop where
  aligned : e.files.length = e.texts.length
  files : ∀ p, p ∈ e.files ↔
    fs.isDirectory outputDir = true ∧ IsMatch fs outputDir p ∧ (fs.readBytes p).isOk = true
  nodup : e.files.Nodup
  ascending : e.files.Pairwise Text.Before
  texts : ∀ (i : Nat) (p : String), e.files[i]? = some p →
    ∃ content, fs.readBytes p = .ok content ∧ e.texts[i]? = some (Utf8.decode content)

theorem isOk_readText (fs : FileSystem) (p : String) : (fs.readText p).isOk = (fs.readBytes p).isOk := by
  unfold FileSystem.readText
  cases fs.readBytes p <;> rfl

theorem Globbed.complete (h : Globbed fs outputDir paths) (hdirectory : fs.isDirectory outputDir = true) :
    Complete fs outputDir (readAll fs (Text.sortByUnits paths)) where
  aligned := by rw [readAll_eq, List.length_map, List.length_map]
  files p := by
    rw [files_readAll, List.mem_filter, isOk_readText, Text.sortByUnits, List.mem_mergeSort, h.mem_iff]
    simp [hdirectory]
  nodup := by
    rw [files_readAll]
    exact ((List.mergeSort_perm paths _).nodup_iff.mpr h.nodup).filter _
  ascending := by
    rw [files_readAll]
    exact (Text.sortByUnits_ascending h.nodup).filter _
  texts i p hp := by
    rw [readAll_eq] at hp ⊢
    dsimp only at hp ⊢
    rw [List.getElem?_map, Option.map_eq_some_iff] at hp
    obtain ⟨x, hx, rfl⟩ := hp
    obtain ⟨q, -, hq⟩ := List.mem_filterMap.mp (List.mem_of_getElem? hx)
    obtain ⟨rfl, hread⟩ := read?_eq_some.mp hq
    rw [FileSystem.readText] at hread
    cases hbytes : fs.readBytes x.1 with
    | error e =>
      rw [hbytes] at hread
      cases hread
    | ok content =>
      rw [hbytes] at hread
      refine ⟨content, rfl, ?_⟩
      rw [List.getElem?_map, hx, Option.map_some, Except.ok.inj hread]

/-- **Scanning a directory.** Whatever the order in which a search has found the evidence files, the scan succeeds with
    the evidence of the directory. Where fewer files can be read, the evidence is that of the rest. Another order gives
    the same, and so does the scan with its own search. Without a directory there is no evidence. -/
theorem scanWith_complete (fs : FileSystem) (outputDir : String) (paths : List String)
    (h : fs.isDirectory outputDir = true → Globbed fs outputDir paths) :
    ∃ e, scanWith fs outputDir (.ok paths) = .ok e ∧ Complete fs outputDir e ∧
      (∀ gs : FileSystem, gs.isDirectory outputDir = fs.isDirectory outputDir →
        (∀ p ∈ paths, gs.readText p = fs.readText p ∨ (gs.readText p).isOk = false) →
        scanWith gs outputDir (.ok paths) = .ok (e.restrict fun p => (gs.readText p).isOk)) ∧
      (∀ others, (fs.isDirectory outputDir = true → Globbed fs outputDir others) →
        scanWith fs outputDir (.ok others) = .ok e ∧
        (search fs outputDir = .ok others → scan fs outputDir = .ok e)) ∧
      (fs.isDirectory outputDir = false → e = ⟨[], []⟩ ∧ scan fs outputDir = .ok e) := by
  cases hdirectory : fs.isDirectory outputDir with
  | false =>
    have hscan : ∀ gs answer, gs.isDirectory outputDir = false → scanWith gs outputDir answer = .ok ⟨[], []⟩ :=
      fun gs answer hgs => by rw [scanWith, hgs, if_neg Bool.false_ne_true]
    refine ⟨⟨[], []⟩, hscan fs _ hdirectory, ?_, fun gs hgs _ => hscan gs _ hgs, fun others _ => ?_, fun _ => ?_⟩
    · exact ⟨rfl, by simp [hdirectory], List.nodup_nil, List.Pairwise.nil, by simp⟩
    · exact ⟨hscan fs _ hdirectory, fun _ => scan_of_nothing hdirectory⟩
    · exact ⟨rfl, scan_of_nothing hdirectory⟩
  | true =>
    have hscan : ∀ gs answer, gs.isDirectory outputDir = true →
        scanWith gs outputDir (.ok answer) = .ok (readAll gs (Text.sortByUnits answer)) :=
      fun gs answer hgs => by rw [scanWith, hgs, if_pos rfl]; rfl
    have hglob := h hdirectory
    refine ⟨_, hscan fs _ hdirectory, hglob.complete hdirectory, ?_, ?_, nofun⟩
    · -- the paths are put in order before any of them is read
      intro gs hgs hfewer
      rw [hscan gs _ hgs, readAll_of_fewer]
      intro p hp
      exact hfewer p (List.mem_mergeSort.mp hp)
    · intro others hothers
      have hsame : Text.sortByUnits others = Text.sortByUnits paths :=
        Text.sortByUnits_perm ((hothers rfl).perm hglob)
      refine ⟨by rw [hscan fs _ hdirectory, hsame], fun hsearch => ?_⟩
      rw [scan_eq_scanWith, hsearch, hscan fs _ hdirectory, hsame]

/-- **The search of a scan meets the expectation** in a directory that may be listed, if its files stand in one place
    each, no path to an evidence file has a backslash and no name of one begins with the end of a line. -/
theorem globbed_search {l : Location} (hkeys : (fs.entries.map (·.1)).Nodup)
    (hfind : fs.find (Path.resolve fs.cwd outputDir).text = .ok (l, .directory))
    (hlisting : fs.faults.listing l = false)
    (hplain : ∀ name e, (name, e) ∈ fs.children l → suffix.toList <:+ name.toList →
      '\\' ∉ (Location.text (Path.resolve fs.cwd outputDir ++ [name])).toList ∧
        ∀ c, name.toList.head? = some c → endsLine c = false) :
    ∃ paths, search fs outputDir = .ok paths ∧ Globbed fs outputDir paths := by
  refine ⟨found fs (Path.resolve fs.cwd outputDir) (fs.children l), ?_, ?_, ?_⟩
  · rw [search, FileSystem.readDirectory_of_find hfind, hlisting, if_neg Bool.false_ne_true]
  · have hslashes : ∀ x ∈ (fs.children l).filter fun x =>
        isName x.1 && fs.isFile (Location.text (Path.resolve fs.cwd outputDir ++ [x.1])),
        withSlashes (Location.text (Path.resolve fs.cwd outputDir ++ [x.1])) =
          Location.text (Path.resolve fs.cwd outputDir ++ [x.1]) := by
      intro x hx
      obtain ⟨hchild, hname⟩ := List.mem_filter.mp hx
      obtain ⟨hsuffix, -⟩ := isName_iff.mp ((Bool.and_eq_true _ _).mp hname).1
      exact withSlashes_of_plain (hplain x.1 x.2 hchild hsuffix).1
    refine List.pairwise_map.mpr (((FileSystem.nodup_children hkeys l).filter _).imp_of_mem ?_)
    intro x y hx hy hne heq
    rw [hslashes x hx, hslashes y hy] at heq
    exact hne (Location.text_child_inj heq)
  · intro p
    rw [mem_found]
    constructor
    · rintro ⟨name, e, hchild, hname, hfile, rfl⟩
      obtain ⟨hsuffix, -⟩ := isName_iff.mp hname
      obtain ⟨e', hentry⟩ := FileSystem.get_of_mem_entries (FileSystem.mem_children_iff.mp hchild)
      rw [withSlashes_of_plain (hplain name e hchild hsuffix).1]
      exact ⟨hfile, l, name, e', hfind, hentry, hsuffix, rfl⟩
    · rintro ⟨hfile, l', name, e, hfind', hentry, hsuffix, rfl⟩
      obtain rfl : l = l' := congrArg Prod.fst (Except.ok.inj (hfind.symm.trans hfind'))
      have hchild := FileSystem.mem_children_iff.mpr (FileSystem.mem_entries_of_get hentry)
      obtain ⟨hslash, hbegins⟩ := hplain name e hchild hsuffix
      exact ⟨name, e, hchild, isName_iff.mpr ⟨hsuffix, hbegins⟩, hfile, withSlashes_of_plain hslash⟩

end Read

/-- A directory with evidence: one file that cannot be read, and two whose names are ordered by code units and not by
    characters. -/
def outbox : FileSystem where
  entries := [([], .directory), (["out"], .directory), (["out", "\ue000.assert.err"], .file (Utf8.encode "later")),
    (["out", "b.assert.err"], .unreadable), (["out", "𐀀.assert.err"], .file (Utf8.encode "sooner")),
    (["out", "notes"], .file [])]

theorem find_outbox : outbox.find (Path.resolve outbox.cwd "/out").text = .ok (["out"], .directory) :=
  eq_ok_of_toOption (by decide)

theorem outbox_search : ∃ paths, search outbox "/out" = .ok paths ∧ Globbed outbox "/out" paths := by
  refine globbed_search (by decide) find_outbox rfl ?_
  intro name e hchild _
  have hall : (outbox.children ["out"]).all (fun x =>
      !(Location.text (Path.resolve outbox.cwd "/out" ++ [x.1])).toList.contains '\\' &&
        x.1.toList.head?.all fun c => !endsLine c) = true := by decide
  obtain ⟨hslash, hbegins⟩ := (Bool.and_eq_true _ _).mp (List.all_eq_true.mp hall (name, e) hchild)
  refine ⟨by simpa using hslash, fun c hc => ?_⟩
  rw [hc] at hbegins
  simpa using hbegins

theorem outbox_match {name : String} {e : Entry} (hentry : outbox.entry? ["out", name] = some e)
    (hsuffix : suffix.toList <:+ name.toList)
    (hfile : outbox.isFile (Location.text (Path.resolve outbox.cwd "/out" ++ [name])) = true) :
    IsMatch outbox "/out" (Location.text (Path.resolve outbox.cwd "/out" ++ [name])) :=
  ⟨hfile, ["out"], name, e, find_outbox, hentry, hsuffix, rfl⟩

/-- The evidence that can be read is read, and the name of one character beyond the first plane comes first. -/
theorem outbox_complete : ∃ e, scan outbox "/out" = .ok e ∧ e.files.Pairwise Text.Before ∧
    "/out/𐀀.assert.err" ∈ e.files ∧ "/out/\ue000.assert.err" ∈ e.files ∧ "/out/b.assert.err" ∉ e.files := by
  obtain ⟨paths, hsearch, hglob⟩ := outbox_search
  obtain ⟨e, -, hcomplete, -, hscan, -⟩ := scanWith_complete outbox "/out" paths fun _ => hglob
  refine ⟨e, (hscan paths fun _ => hglob).2 hsearch, hcomplete.ascending, ?_, ?_, ?_⟩
  · exact (hcomplete.files _).mpr ⟨by decide,
      @outbox_match "𐀀.assert.err" _ rfl (by decide) (by decide), by decide⟩
  · exact (hcomplete.files _).mpr ⟨by decide,
      @outbox_match "\ue000.assert.err" _ rfl (by decide) (by decide), by decide⟩
  · rw [hcomplete.files]
    rintro ⟨-, -, hread⟩
    exact absurd hread (by decide)

end Evidence

end DataplaneVerdict
