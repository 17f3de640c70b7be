import DataplaneVerdict.Files.System

/-!
# `Proofs.Paths` — absolute paths and their texts

A location is proper if each of its names could stand between two slashes and means itself. Proper locations and their
texts are the same thing (`resolve_text`), and joining a path to an absolute one always gives the text of a proper
location, perhaps with a slash behind it (`join_absolute`). So what the program computes with texts can be said with
locations.

## Contents
- **Pieces.** Cutting a text at slashes undoes joining it with slashes.
- **Normal form.** `Path.IsName`, `Location.Proper`, and the normal segments of proper locations.
- **Joining.** `Path.join_absolute`, `Path.join_absolute_name`, `Path.join_ne_empty`.
- **Stems.** `Path.isName_stem`: what is named after a source has a name of its own.
- **Relative paths.** They say some steps up and then names; `Path.join_relative_name`.
-/

namespace DataplaneVerdict

/-! ## Pieces -/

namespace Text

variable {α : Type} [BEq α]

theorem pieces_ne_nil (sep : α) (xs : List α) : pieces sep xs ≠ [] := by
  cases xs with
  | nil => simp [pieces]
  | cons c rest =>
    unfold pieces
    split
    · simp
    · cases pieces sep rest <;> simp

variable [LawfulBEq α] {sep : α}

theorem pieces_of_notMem {xs : List α} (h : sep ∉ xs) : pieces sep xs = [xs] := by
  induction xs with
  | nil => rfl
  | cons c rest ih =>
    simp only [List.mem_cons, not_or] at h
    simp [pieces, ih h.2, Ne.symm h.1]

/-- A separator cuts: the pieces before it, then the pieces behind it. -/
theorem pieces_append (xs ys : List α) : pieces sep (xs ++ sep :: ys) = pieces sep xs ++ pieces sep ys := by
  induction xs with
  | nil => simp [pieces]
  | cons c rest ih =>
    simp only [List.cons_append, pieces, ih]
    cases hc : c == sep with
    | true => simp
    | false =>
      obtain ⟨p, ps, hp⟩ := List.exists_cons_of_ne_nil (pieces_ne_nil sep rest)
      simp [hp]

theorem notMem_of_mem_pieces {xs p : List α} (h : p ∈ pieces sep xs) : sep ∉ p := by
  induction xs generalizing p with
  | nil =>
    rw [List.mem_singleton.mp h]
    exact List.not_mem_nil
  | cons c rest ih =>
    unfold pieces at h
    split at h
    · rcases List.mem_cons.mp h with rfl | h
      · exact List.not_mem_nil
      · exact ih h
    · rename_i hc
      obtain ⟨q, qs, hq⟩ := List.exists_cons_of_ne_nil (pieces_ne_nil sep rest)
      rw [hq] at h ih
      rcases List.mem_cons.mp h with rfl | h
      · rintro (_ | ⟨_, hmem⟩)
        · exact hc (beq_self_eq_true _)
        · exact ih List.mem_cons_self hmem
      · exact ih (List.mem_cons_of_mem _ h)

theorem splitOn_append (a b : String) : splitOn (a ++ "/" ++ b) '/' = splitOn a '/' ++ splitOn b '/' := by
  have hchars : (a ++ "/" ++ b).toList = a.toList ++ '/' :: b.toList := by simp
  rw [splitOn, hchars, pieces_append, List.map_append]
  rfl

theorem splitOn_of_notMem {a : String} (h : '/' ∉ a.toList) : splitOn a '/' = [a] := by
  rw [splitOn, pieces_of_notMem h, List.map_singleton, String.ofList_toList]

/-- Cutting at slashes undoes joining with slashes. -/
theorem splitOn_join {names : List String} (hne : names ≠ []) (h : ∀ n ∈ names, '/' ∉ n.toList) :
    splitOn (join "/" names) '/' = names := by
  induction names with
  | nil => exact absurd rfl hne
  | cons n rest ih =>
    have hn := splitOn_of_notMem (h n List.mem_cons_self)
    cases rest with
    | nil => exact hn
    | cons m rest =>
      rw [join, splitOn_append, hn, ih (List.cons_ne_nil _ _) fun x hx => h x (List.mem_cons_of_mem _ hx)]
      rfl

end Text

/-! ## Normal form -/

namespace Path

/-- A text that stands for itself between two slashes. -/
structure IsName (s : String) : Prop where
  nonempty : s ≠ ""
  notDot : s ≠ "."
  notDots : s ≠ ".."
  noSlash : '/' ∉ s.toList

/-- A text that ends with a name does not end in a slash. -/
theorem IsName.getLast?_append {b : String} (hb : IsName b) (pre : String) :
    (pre ++ b).toList.getLast? ≠ some '/' := by
  have hchars : b.toList ≠ [] := fun h => hb.nonempty (String.toList_eq_nil_iff.mp h)
  rw [String.toList_append, List.getLast?_append, List.getLast?_eq_some_getLast hchars, Option.some_or]
  exact fun h => hb.noSlash (Option.some.inj h ▸ List.getLast_mem hchars)

theorem IsName.isAbsolute_eq_false {b : String} (hb : IsName b) : isAbsolute b = false := by
  rw [isAbsolute, decide_eq_false_iff_not]
  intro h
  exact hb.noSlash (List.mem_of_head? h)

theorem noSlash_of_mem_segments {p s : String} (h : s ∈ segments p) : '/' ∉ s.toList := by
  obtain ⟨piece, hpiece, rfl⟩ := List.mem_map.mp h
  rw [String.toList_ofList]
  exact Text.notMem_of_mem_pieces hpiece

theorem pushSegment_of_isName {s : String} (h : IsName s) (stack : List String) :
    pushSegment false stack s = s :: stack := by
  simp [pushSegment, h.nonempty, h.notDot, h.notDots]

/-- A stack of names stays one, whatever segment comes. -/
theorem isName_of_mem_pushSegment {s n : String} {stack : List String} (hstack : ∀ n ∈ stack, IsName n)
    (hs : '/' ∉ s.toList) (hn : n ∈ pushSegment false stack s) : IsName n := by
  unfold pushSegment at hn
  split at hn
  · exact hstack n hn
  · rename_i hsays
    split at hn
    · -- two dots take the last name away: names are never two dots themselves
      cases stack with
      | nil => exact absurd hn (by simp)
      | cons top rest =>
        have htop : top ≠ ".." := (hstack top List.mem_cons_self).notDots
        dsimp only at hn
        rw [if_neg htop] at hn
        exact hstack n (List.mem_cons_of_mem _ hn)
    · rename_i hdots
      rcases List.mem_cons.mp hn with rfl | hn
      · exact ⟨fun h => hsays (.inl h), fun h => hsays (.inr h), hdots, hs⟩
      · exact hstack n hn

end Path

/-- A location whose names all stand for themselves. -/
def Location.Proper (l : Location) : Prop := ∀ n ∈ l, Path.IsName n

namespace Path

theorem foldl_pushSegment_proper {ss stack : List String} (hstack : ∀ n ∈ stack, IsName n)
    (hss : ∀ s ∈ ss, '/' ∉ s.toList) : ∀ n ∈ ss.foldl (pushSegment false) stack, IsName n := by
  induction ss generalizing stack with
  | nil => exact hstack
  | cons s ss ih =>
    exact ih (fun n => isName_of_mem_pushSegment hstack (hss s List.mem_cons_self))
      fun s' h => hss s' (List.mem_cons_of_mem _ h)

/-- What is left of segments is a proper location. -/
theorem normalSegments_proper {ss : List String} (hss : ∀ s ∈ ss, '/' ∉ s.toList) :
    Location.Proper (normalSegments false ss) := by
  intro n hn
  exact foldl_pushSegment_proper (fun _ h => absurd h List.not_mem_nil) hss n (List.mem_reverse.mp hn)

theorem foldl_pushSegment_of_proper {l : Location} (h : l.Proper) (stack : List String) :
    l.foldl (pushSegment false) stack = l.reverse ++ stack := by
  induction l generalizing stack with
  | nil => rfl
  | cons n l ih =>
    rw [List.foldl_cons, pushSegment_of_isName (h n List.mem_cons_self),
      ih fun m hm => h m (List.mem_cons_of_mem _ hm)]
    simp

theorem normalSegments_of_proper {l : Location} (h : l.Proper) : normalSegments false l = l := by
  rw [normalSegments, foldl_pushSegment_of_proper h, List.append_nil, List.reverse_reverse]

theorem normalSegments_append_singleton {ss : List String} (s : String) :
    normalSegments false (ss ++ [s]) = (pushSegment false (normalSegments false ss).reverse s).reverse := by
  simp only [normalSegments, List.foldl_append, List.foldl_cons, List.foldl_nil, List.reverse_reverse]

end Path

/-! ## Texts of locations -/

namespace Location

variable {l : Location}

theorem isAbsolute_text (l : Location) : Path.isAbsolute l.text = true := by
  simp [Path.isAbsolute, text]

theorem text_ne_empty (l : Location) : l.text ≠ "" := by
  simp [text]

theorem join_eq_empty_iff (h : l.Proper) : Text.join "/" l = "" ↔ l = [] := by
  cases l with
  | nil => simp [Text.join]
  | cons n rest =>
    have hn : n ≠ "" := (h n List.mem_cons_self).nonempty
    cases rest with
    | nil => simp [Text.join, hn]
    | cons m rest => simp [Text.join, hn]

theorem join_append_singleton (hne : l ≠ []) (b : String) :
    Text.join "/" (l ++ [b]) = Text.join "/" l ++ "/" ++ b := by
  induction l with
  | nil => exact absurd rfl hne
  | cons n rest ih =>
    cases rest with
    | nil => rfl
    | cons m rest =>
      have hjoin : Text.join "/" (n :: (m :: rest) ++ [b]) = n ++ "/" ++ Text.join "/" (m :: rest ++ [b]) := rfl
      rw [hjoin, ih (List.cons_ne_nil _ _), Text.join]
      simp only [String.append_assoc]

/-- Below a directory that is not the root, texts grow by a slash and a name. -/
theorem text_append_singleton (hne : l ≠ []) (b : String) : text (l ++ [b]) = l.text ++ "/" ++ b := by
  rw [text, join_append_singleton hne, text]
  simp only [String.append_assoc]

/-- It does not end in a slash unless it is the root. -/
theorem getLast?_text {b : String} (hb : Path.IsName b) (l : Location) :
    (text (l ++ [b])).toList.getLast? ≠ some '/' := by
  by_cases hne : l = []
  · subst hne
    exact hb.getLast?_append "/"
  · rw [text_append_singleton hne]
    exact hb.getLast?_append _

theorem segments_text (h : l.Proper) (hne : l ≠ []) : Path.segments l.text = "" :: l := by
  have htext : l.text = "" ++ "/" ++ Text.join "/" l := by simp [text]
  rw [Path.segments, htext, Text.splitOn_append, Text.splitOn_join hne fun n hn => (h n hn).noSlash]
  rfl

/-- The text of a proper location says that location. -/
theorem normalSegments_text (h : l.Proper) : Path.normalSegments false (Path.segments l.text) = l := by
  cases hl : l with
  | nil => decide
  | cons n rest =>
    rw [← hl, segments_text h (by rw [hl]; exact List.cons_ne_nil _ _)]
    exact Path.normalSegments_of_proper h

/-- A slash behind it changes nothing. -/
theorem normalSegments_text_slash (h : l.Proper) :
    Path.normalSegments false (Path.segments (l.text ++ "/")) = l := by
  have htext : l.text ++ "/" = l.text ++ "/" ++ "" := by simp
  rw [htext, Path.segments, Text.splitOn_append]
  have hempty : Text.splitOn "" '/' = [""] := rfl
  rw [hempty, Path.normalSegments_append_singleton]
  have hpush : ∀ stack, Path.pushSegment false stack "" = stack := fun _ => rfl
  rw [hpush, List.reverse_reverse]
  exact normalSegments_text h

/-- Taking away the slashes at its end leaves the text of a proper location, whether one more was there or not. -/
theorem withoutFinalSlashes_text {p : String} (h : l.Proper) (hp : p = l.text ∨ p = l.text ++ "/") :
    FileSystem.withoutFinalSlashes p = l.text := by
  rcases List.eq_nil_or_concat l with rfl | ⟨m, b, rfl⟩
  · rcases hp with rfl | rfl <;> decide
  · rw [List.concat_eq_append] at *
    have hlast := getLast?_text (h b (by simp)) m
    -- read from its end, the text starts with a character of its last name, so nothing is dropped
    have hkept : (text (m ++ [b])).toList.reverse.dropWhile (· == '/') = (text (m ++ [b])).toList.reverse := by
      rw [← List.head?_reverse] at hlast
      cases hchars : (text (m ++ [b])).toList.reverse with
      | nil => rfl
      | cons c rest =>
        rw [hchars] at hlast
        have hc : (c == '/') = false := beq_eq_false_iff_ne.mpr fun hc => hlast (congrArg some hc)
        rw [List.dropWhile_cons, hc]
        rfl
    have hnil : (text (m ++ [b])).toList ≠ [] := fun hnil => text_ne_empty _ (String.toList_eq_nil_iff.mp hnil)
    rcases hp with rfl | rfl
    · simp [FileSystem.withoutFinalSlashes, hkept, hnil]
    · simp [FileSystem.withoutFinalSlashes, hkept, hnil]

end Location

/-! ## Joining -/

namespace Path

/-- **Resolving** the text of a proper location gives the location, wherever one is. -/
theorem resolve_text {l : Location} (h : l.Proper) (cwd : Location) : resolve cwd l.text = l := by
  rw [resolve, Location.isAbsolute_text, if_pos rfl]
  exact Location.normalSegments_text h

theorem resolve_proper {cwd : Location} (hcwd : cwd.Proper) (p : String) : (resolve cwd p).Proper := by
  refine normalSegments_proper ?_
  split
  · exact fun _ => noSlash_of_mem_segments
  · intro s hs
    rcases List.mem_append.mp hs with hs | hs
    · exact (hcwd s hs).noSlash
    · exact noSlash_of_mem_segments hs

/-- The normal form of an absolute path is the text of a proper location, perhaps with a slash behind it. -/
theorem normalize_absolute {p : String} {l : Location} (h : isAbsolute p = true)
    (hl : normalSegments false (segments p) = l) :
    l.Proper ∧ (normalize p = l.text ∨ p.toList.getLast? = some '/' ∧ normalize p = l.text ++ "/") := by
  have hproper : l.Proper := hl ▸ normalSegments_proper fun _ hs => noSlash_of_mem_segments hs
  refine ⟨hproper, ?_⟩
  have hp : p.isEmpty = false := by
    rw [Bool.eq_false_iff]
    intro he
    rw [String.isEmpty_iff.mp he] at h
    exact absurd h (by decide)
  unfold normalize
  simp only [hp, h, hl, Bool.false_eq_true, if_false, Bool.not_true, if_true, String.isEmpty_iff,
    Location.join_eq_empty_iff hproper]
  by_cases hnil : l = []
  · rw [if_pos hnil, hnil]
    exact .inl rfl
  · rw [if_neg hnil]
    by_cases hslash : p.toList.getLast? = some '/'
    · exact .inr ⟨hslash, by simp [hslash, Location.text]⟩
    · exact .inl (by simp [hslash, Location.text])

theorem isAbsolute_append {a : String} (h : isAbsolute a = true) (b : String) : isAbsolute (a ++ b) = true := by
  simp only [isAbsolute, decide_eq_true_eq, String.toList_append] at h ⊢
  rw [List.head?_append, h]
  rfl

theorem join_eq_normalize {a b : String} (ha : isAbsolute a = true) (hb : b ≠ "") :
    join a b = normalize (a ++ "/" ++ b) := by
  have ha' : a.isEmpty = false := by
    rw [Bool.eq_false_iff]
    intro he
    rw [String.isEmpty_iff.mp he] at ha
    exact absurd ha (by decide)
  have hb' : b.isEmpty = false := Bool.eq_false_iff.mpr fun he => hb (String.isEmpty_iff.mp he)
  simp only [join, ha', hb']

/-- **Joining to an absolute path** gives the text of a proper location, perhaps with a slash behind it. -/
theorem join_absolute {a b : String} (ha : isAbsolute a = true) (hb : b ≠ "") :
    ∃ l : Location, l.Proper ∧ (join a b = l.text ∨ join a b = l.text ++ "/") := by
  rw [join_eq_normalize ha hb]
  have habs := isAbsolute_append (isAbsolute_append ha "/") b
  obtain ⟨hproper, heq | ⟨_, heq⟩⟩ := normalize_absolute habs rfl
  · exact ⟨_, hproper, .inl heq⟩
  · exact ⟨_, hproper, .inr heq⟩

/-- **Joining a name** to any absolute path goes one step down from the location that the path says. -/
theorem join_absolute_name {a b : String} {l : Location} (ha : isAbsolute a = true)
    (hl : normalSegments false (segments a) = l) (hb : IsName b) :
    (l ++ [b] : Location).Proper ∧ join a b = Location.text (l ++ [b]) := by
  have hall : normalSegments false (segments (a ++ "/" ++ b)) = l ++ [b] := by
    rw [segments, Text.splitOn_append, Text.splitOn_of_notMem hb.noSlash, normalSegments_append_singleton]
    rw [segments] at hl
    rw [hl, pushSegment_of_isName hb, List.reverse_cons, List.reverse_reverse]
  obtain ⟨hproper, hnormal⟩ := normalize_absolute (isAbsolute_append (isAbsolute_append ha "/") b) hall
  refine ⟨hproper, ?_⟩
  rw [join_eq_normalize ha hb.nonempty]
  rcases hnormal with heq | ⟨hslash, _⟩
  · exact heq
  · -- the joined text ends with a name, so no slash can be left behind it
    exact absurd hslash (hb.getLast?_append _)

theorem join_name {l : Location} {p b : String} (hl : l.Proper) (hp : p = l.text ∨ p = l.text ++ "/")
    (hb : IsName b) : (l ++ [b] : Location).Proper ∧ join p b = Location.text (l ++ [b]) := by
  rcases hp with rfl | rfl
  · exact join_absolute_name l.isAbsolute_text (Location.normalSegments_text hl) hb
  · exact join_absolute_name (isAbsolute_append l.isAbsolute_text _) (Location.normalSegments_text_slash hl) hb

theorem normalize_ne_empty (p : String) : normalize p ≠ "" := by
  unfold normalize
  split
  · decide
  · dsimp only
    split
    · split
      · decide
      · split <;> decide
    · rename_i hbody
      intro hempty
      simp only [String.append_eq_empty_iff] at hempty
      exact hbody (String.isEmpty_iff.mpr hempty.1.2)

theorem join_ne_empty (a b : String) : join a b ≠ "" := by
  unfold join
  split
  · decide
  all_goals exact normalize_ne_empty _

/-! ## Stems -/

theorem noSlash_basename (p : String) : '/' ∉ (basename p).toList := by
  rw [basename, String.toList_ofList, List.mem_reverse]
  intro h
  have hne := List.all_takeWhile (p := (· != '/')) (l := p.toList.reverse.dropWhile (· == '/'))
  rw [List.all_eq_true] at hne
  simpa using hne '/' h

theorem noSlash_stem (p : String) : '/' ∉ (stem p).toList := by
  have hbase := noSlash_basename p
  unfold stem
  dsimp only
  split
  · decide
  · split
    · rw [String.toList_ofList]
      exact hbase
    · rw [String.toList_ofList, List.mem_reverse]
      intro h
      exact hbase (List.mem_reverse.mp ((List.dropWhile_suffix _).subset (List.mem_of_mem_drop h)))

/-- Whatever the source is called, its stem with an extension is a name. -/
theorem isName_stem (p : String) {extension : String} {c : Char} (hlast : extension.toList.getLast? = some c)
    (hc : c ≠ '.') (hslash : '/' ∉ extension.toList) : IsName (stem p ++ extension) := by
  have hends : (stem p ++ extension).toList.getLast? = some c := by
    rw [String.toList_append, List.getLast?_append, hlast]
    rfl
  refine ⟨?_, ?_, ?_, ?_⟩
  · intro h
    rw [h] at hends
    cases hends
  · intro h
    rw [h] at hends
    exact hc (Option.some.inj hends).symm
  · intro h
    rw [h] at hends
    exact hc (Option.some.inj hends).symm
  · rw [String.toList_append, List.mem_append]
    exact fun h => h.elim (noSlash_stem p) hslash

/-! ## Relative paths -/

/-- A stack of names on top of some steps up. -/
def Climbs (stack : List String) : Prop :=
  ∃ k names, (∀ n ∈ names, IsName n) ∧ stack = names ++ List.replicate k ".."

theorem Climbs.says {stack : List String} (h : Climbs stack) : ∀ n ∈ stack, n ≠ "" ∧ n ≠ "." := by
  obtain ⟨k, names, hnames, rfl⟩ := h
  intro n hn
  rcases List.mem_append.mp hn with hn | hn
  · exact ⟨(hnames n hn).nonempty, (hnames n hn).notDot⟩
  · rw [List.eq_of_mem_replicate hn]
    decide

theorem Climbs.pushSegment {stack : List String} {s : String} (h : Climbs stack) (hs : '/' ∉ s.toList) :
    Climbs (pushSegment true stack s) := by
  unfold Path.pushSegment
  split
  · exact h
  · rename_i hsays
    obtain ⟨k, names, hnames, rfl⟩ := h
    split
    · cases names with
      | nil =>
        cases k with
        | zero => exact ⟨1, [], hnames, rfl⟩
        | succ k => exact ⟨k + 2, [], hnames, rfl⟩
      | cons top rest =>
        have htop : top ≠ ".." := (hnames top List.mem_cons_self).notDots
        dsimp only [List.cons_append]
        rw [if_neg htop]
        exact ⟨k, rest, fun n hn => hnames n (List.mem_cons_of_mem _ hn), rfl⟩
    · rename_i hdots
      refine ⟨k, s :: names, ?_, rfl⟩
      intro n hn
      rcases List.mem_cons.mp hn with rfl | hn
      · exact ⟨fun h => hsays (.inl h), fun h => hsays (.inr h), hdots, hs⟩
      · exact hnames n hn

theorem Climbs.foldl {ss stack : List String} (h : Climbs stack) (hss : ∀ s ∈ ss, '/' ∉ s.toList) :
    Climbs (ss.foldl (Path.pushSegment true) stack) := by
  induction ss generalizing stack with
  | nil => exact h
  | cons s ss ih =>
    exact ih (h.pushSegment (hss s List.mem_cons_self)) fun s' hs' => hss s' (List.mem_cons_of_mem _ hs')

/-- What a relative path says: some steps up, then names. -/
theorem normalSegments_relative {ss : List String} (hss : ∀ s ∈ ss, '/' ∉ s.toList) :
    ∃ k names, Location.Proper names ∧ normalSegments true ss = List.replicate k ".." ++ names := by
  have hstart : Climbs [] := ⟨0, [], by simp, rfl⟩
  obtain ⟨k, names, hnames, heq⟩ := hstart.foldl hss
  refine ⟨k, names.reverse, fun n hn => hnames n (List.mem_reverse.mp hn), ?_⟩
  rw [normalSegments, heq, List.reverse_append, List.reverse_replicate]

/-- To put a segment on a stack and then all of it on another one is to put the stack there first. -/
theorem foldl_reverse_pushSegment {stack : List String} (h : Climbs stack) (below : List String) (s : String) :
    (pushSegment true stack s).reverse.foldl (pushSegment false) below =
      pushSegment false (stack.reverse.foldl (pushSegment false) below) s := by
  by_cases hsays : s = "" ∨ s = "."
  · simp only [pushSegment, if_pos hsays]
  · by_cases hdots : s = ".."
    · cases stack with
      | nil => simp [pushSegment, hdots]
      | cons top rest =>
        by_cases htop : top = ".."
        · simp [pushSegment, hdots, htop]
        · -- the name on top is what the step up takes away, on either stack
          obtain ⟨hempty, hdot⟩ := h.says top List.mem_cons_self
          simp [pushSegment, hdots, htop, hempty, hdot]
    · simp [pushSegment, hsays, hdots]

theorem foldl_normalSegments {ss : List String} (hss : ∀ s ∈ ss, '/' ∉ s.toList) (below : List String) :
    (normalSegments true ss).foldl (pushSegment false) below = ss.foldl (pushSegment false) below := by
  have hstack : ∀ stack, Climbs stack → (ss.foldl (pushSegment true) stack).reverse.foldl (pushSegment false) below =
      ss.foldl (pushSegment false) (stack.reverse.foldl (pushSegment false) below) := by
    induction ss with
    | nil => exact fun _ _ => rfl
    | cons s ss ih =>
      intro stack h
      rw [List.foldl_cons, List.foldl_cons, ← foldl_reverse_pushSegment h]
      exact ih (fun s' hs' => hss s' (List.mem_cons_of_mem _ hs')) _ (h.pushSegment (hss s List.mem_cons_self))
  exact hstack [] ⟨0, [], by simp, rfl⟩

theorem foldl_pushSegment_up {stack : List String} (h : ∀ n ∈ stack, IsName n) (k : Nat) :
    (List.replicate k "..").foldl (pushSegment false) stack = stack.drop k := by
  induction k generalizing stack with
  | zero => rfl
  | succ k ih =>
    rw [List.replicate_succ, List.foldl_cons]
    cases stack with
    | nil => simpa [pushSegment] using ih h
    | cons top rest =>
      have htop : top ≠ ".." := (h top List.mem_cons_self).notDots
      have hpush : pushSegment false (top :: rest) ".." = rest := by simp [pushSegment, htop]
      rw [hpush, ih fun n hn => h n (List.mem_cons_of_mem _ hn), List.drop_succ_cons]

/-- Steps up and names, from a proper working directory. -/
theorem normalSegments_append_up {cwd names : Location} (hcwd : cwd.Proper) (hnames : names.Proper) (k : Nat) :
    normalSegments false (cwd ++ (List.replicate k ".." ++ names)) = cwd.take (cwd.length - k) ++ names := by
  have hstack : ∀ n ∈ cwd.reverse, IsName n := fun n hn => hcwd n (List.mem_reverse.mp hn)
  rw [normalSegments, List.foldl_append, List.foldl_append, foldl_pushSegment_of_proper hcwd, List.append_nil,
    foldl_pushSegment_up hstack, foldl_pushSegment_of_proper hnames, List.reverse_append, List.reverse_reverse,
    List.drop_reverse, List.reverse_reverse]

/-- The text of steps up and names, of which there is one at least. -/
theorem segments_join {names : List String} (hne : names ≠ []) (h : ∀ n ∈ names, n ≠ "" ∧ '/' ∉ n.toList) :
    segments (Text.join "/" names) = names ∧ isAbsolute (Text.join "/" names) = false := by
  refine ⟨Text.splitOn_join hne fun n hn => (h n hn).2, ?_⟩
  obtain ⟨n, rest, rfl⟩ := List.exists_cons_of_ne_nil hne
  obtain ⟨hn, hslash⟩ := h n List.mem_cons_self
  obtain ⟨c, cs, hchars⟩ := List.exists_cons_of_ne_nil (mt String.toList_eq_nil_iff.mp hn)
  have hc : c ≠ '/' := by
    rintro rfl
    exact hslash (hchars ▸ List.mem_cons_self)
  have hhead : (Text.join "/" (n :: rest)).toList.head? = some c := by
    cases rest with
    | nil => rw [Text.join, hchars, List.head?_cons]
    | cons m rest => simp [Text.join, hchars]
  simp [isAbsolute, hhead, hc]

/-- The normal form of a relative path that ends with a name. -/
theorem normalize_relative {p b : String} {ns : List String} (hp : isAbsolute p = false)
    (hlast : p.toList.getLast? ≠ some '/') (hns : normalSegments true (segments p) = ns ++ [b]) (hb : IsName b) :
    normalize p = Text.join "/" (ns ++ [b]) := by
  have hbody : Text.join "/" (ns ++ [b]) ≠ "" := by
    by_cases hnil : ns = []
    · subst hnil
      exact hb.nonempty
    · rw [Location.join_append_singleton hnil]
      exact fun h => hb.nonempty (String.append_eq_empty_iff.mp h).2
  have hne : p.isEmpty = false := by
    rw [Bool.eq_false_iff]
    intro he
    rw [String.isEmpty_iff.mp he] at hns
    exact absurd hns (by simp [show normalSegments true (segments "") = [] by decide])
  have hbody' : (Text.join "/" (ns ++ [b])).isEmpty = false :=
    Bool.eq_false_iff.mpr fun he => hbody (String.isEmpty_iff.mp he)
  simp [normalize, hne, hp, hns, hbody', hlast]

/-- **Joining a name to a relative path**: the steps up and the names that the path says, then the name. From a proper
    working directory it leads one step down from where the path leads. -/
theorem join_relative_name {a : String} (ha : isAbsolute a = false) :
    ∃ k names, Location.Proper names ∧
      (∀ cwd : Location, cwd.Proper → resolve cwd a = cwd.take (cwd.length - k) ++ names) ∧
      ∀ b, IsName b → join a b = Text.join "/" (List.replicate k ".." ++ names ++ [b]) := by
  have hslash : ∀ s ∈ segments a, '/' ∉ s.toList := fun _ => noSlash_of_mem_segments
  obtain ⟨k, names, hnames, hnormal⟩ := normalSegments_relative hslash
  refine ⟨k, names, hnames, fun cwd hcwd => ?_, fun b hb => ?_⟩
  · have hboth := normalSegments_append_up hcwd hnames k
    rw [normalSegments, List.foldl_append, ← hnormal, foldl_normalSegments hslash, ← List.foldl_append] at hboth
    rw [resolve, ha, if_neg Bool.false_ne_true]
    exact hboth
  · have hb' : b.isEmpty = false := Bool.eq_false_iff.mpr fun he => hb.nonempty (String.isEmpty_iff.mp he)
    have hsegment : segments b = [b] := Text.splitOn_of_notMem hb.noSlash
    have hpush : ∀ ss, normalSegments true (ss ++ [b]) = normalSegments true ss ++ [b] := fun ss => by
      simp [normalSegments, pushSegment, hb.nonempty, hb.notDot, hb.notDots]
    rw [← hnormal]
    cases hempty : a.isEmpty with
    | true =>
      obtain rfl := String.isEmpty_iff.mp hempty
      simp only [join, hempty, hb']
      exact normalize_relative hb.isAbsolute_eq_false (hb.getLast?_append "") (by rw [hsegment]; exact hpush []) hb
    | false =>
      have hrel : isAbsolute (a ++ "/" ++ b) = false := by
        obtain ⟨c, cs, hchars⟩ := List.exists_cons_of_ne_nil fun h : a.toList = [] =>
          Bool.false_ne_true (hempty.symm.trans (String.isEmpty_iff.mpr (String.toList_eq_nil_iff.mp h)))
        simpa [isAbsolute, hchars] using ha
      have hsegments : segments (a ++ "/" ++ b) = segments a ++ [b] := by
        rw [segments, Text.splitOn_append, ← segments, ← segments, hsegment]
      simp only [join, hempty, hb']
      exact normalize_relative hrel (hb.getLast?_append _) (by rw [hsegments, hpush]) hb

end Path

end DataplaneVerdict
