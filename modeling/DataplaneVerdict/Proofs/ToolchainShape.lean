import DataplaneVerdict.Proofs.Shapes
import DataplaneVerdict.Toolchain.Basic

/-!
# `Proofs.ToolchainShape` — what the schema of toolchains accepts

A toolchain may be described in part: every section and almost every field has a default, at two levels, and neither
level takes keys that it does not know. `Toolchain.shape` says so in one place. The schema is put together from the
checks of its leaves in the same way as the shape is from theirs, and so it enforces it (`Toolchain.enforces_check`).

## Contents
- **The shape.** `Toolchain.shape`, with the rules of each section, and that it is sound.
- **The schema.** One statement for each section, and `Toolchain.check_shape` for the whole.
-/

namespace DataplaneVerdict.Toolchain

open Shape

/-! ## The shape -/

/-- The fields of a plain tool. -/
def toolRules (command : String) : List Shape.Rule :=
  [("command", .text, some (.str command)), ("extraArgs", .texts, some (.list []))]

/-- The fields of the translator; its script stays absent. -/
def translatorRules : List Shape.Rule :=
  [("command", .text, some (.str "python")), ("script", .text, none), ("extraArgs", .texts, some (.list []))]

/-- The fields of the engine. -/
def engineRules : List Shape.Rule :=
  [("command", .text, some (.str "klee")), ("searchStrategy", .text, some (.str "dfs")),
   ("extraArgs", .texts, some (.list [.str "--optimize"]))]

/-- The sections; an absent one is an empty one. -/
def sectionRules : List Shape.Rule :=
  [("frontend", .object (toolRules "p4c-bm2-ss"), some (.object [])),
   ("translate", .object translatorRules, some (.object [])),
   ("native", .object (toolRules "clang"), some (.object [])),
   ("engine", .object engineRules, some (.object []))]

/-- **What toolchains look like** as data. -/
def shape : Shape := .object sectionRules

theorem leaves_toolRules (command : String) : ∀ rule ∈ toolRules command, rule.shape.isLeaf = true := by
  simp [toolRules, isLeaf]

theorem leaves_translatorRules : ∀ rule ∈ translatorRules, rule.shape.isLeaf = true := by
  simp [translatorRules, isLeaf]

theorem leaves_engineRules : ∀ rule ∈ engineRules, rule.shape.isLeaf = true := by
  simp [engineRules, isLeaf]

theorem sound_toolRules {command : String} (h : command ≠ "") : Sound (.object (toolRules command)) := by
  have hnames : ["command", "extraArgs"].Nodup := by decide
  refine sound_of_leaves hnames (leaves_toolRules command) ?_
  simp only [toolRules, List.forall_mem_cons, Rule.default, Option.some.injEq, forall_eq']
  exact ⟨.text h, .texts nofun, nofun⟩

theorem sound_translatorRules : Sound (.object translatorRules) := by
  refine sound_of_leaves (by decide) leaves_translatorRules ?_
  simp only [translatorRules, List.forall_mem_cons, Rule.default, Option.some.injEq, forall_eq']
  exact ⟨.text (by decide), nofun, .texts nofun, nofun⟩

theorem sound_engineRules : Sound (.object engineRules) := by
  refine sound_of_leaves (by decide) leaves_engineRules ?_
  simp only [engineRules, List.forall_mem_cons, Rule.default, Option.some.injEq, forall_eq']
  exact ⟨.text (by decide), .text (by decide), .texts (by simp), nofun⟩

/-- Every default passes the rule of its own field. -/
theorem sound_shape : Sound shape := by
  refine .object (by decide) ?_ ?_
  · simp only [sectionRules, List.forall_mem_cons]
    exact ⟨sound_toolRules (by decide), sound_translatorRules, sound_toolRules (by decide), sound_engineRules, nofun⟩
  · simp only [sectionRules, List.forall_mem_cons, Rule.default, Option.some.injEq, forall_eq']
    exact ⟨conforms_empty _, conforms_empty _, conforms_empty _, conforms_empty _, nofun⟩

/-! ## The schema -/

theorem enforces_tool (command : String) : Enforces (tool command) (.object (toolRules command)) toolValue :=
  .strict (((Reads.orDefault "command" enforces_nonEmptyText rfl).both
    (Reads.orDefault "extraArgs" enforces_texts rfl)).map _ fun _ => rfl)

/-- The translator's section as data. -/
def translatorValue (t : Translator) : Value :=
  .object ([("command", .str t.command)] ++ (t.script.map fun s => ("script", Value.str s)).toList ++
    [("extraArgs", textsValue t.extraArgs)])

theorem enforces_translator : Enforces translator (.object translatorRules) translatorValue :=
  .strict (((Reads.orDefault "command" enforces_nonEmptyText rfl).both
    ((Reads.optional "script" enforces_nonEmptyText).both (Reads.orDefault "extraArgs" enforces_texts rfl))).map _
      fun _ => rfl)

/-- The engine's section as data. -/
def engineValue (e : Engine) : Value :=
  .object [("command", .str e.command), ("searchStrategy", .str e.searchStrategy),
    ("extraArgs", textsValue e.extraArgs)]

theorem enforces_engineSection : Enforces engineSection (.object engineRules) engineValue :=
  .strict (((Reads.orDefault "command" enforces_nonEmptyText rfl).both
    ((Reads.orDefault "searchStrategy" enforces_nonEmptyText rfl).both
      (Reads.orDefault "extraArgs" enforces_texts rfl))).map _ fun _ => rfl)

/-- **The schema of toolchains enforces their shape.** -/
theorem enforces_check : Enforces check shape toValue := by
  have hsections : Reads sections sectionRules fun t => [("frontend", toolValue t.frontend),
      ("translate", translatorValue t.translate), ("native", toolValue t.native), ("engine", engineValue t.engine)] :=
    ((Reads.orDefault "frontend" (enforces_tool _) rfl).both
      ((Reads.orDefault "translate" enforces_translator rfl).both
        ((Reads.orDefault "native" (enforces_tool _) rfl).both
          (Reads.orDefault "engine" enforces_engineSection rfl)))).map _ fun _ => rfl
  have hvalue : toValue = fun t => .object [("frontend", toolValue t.frontend),
      ("translate", translatorValue t.translate), ("native", toolValue t.native),
      ("engine", engineValue t.engine)] := by
    funext t
    unfold toValue translatorValue
    cases t.translate.script <;> rfl
  rw [hvalue]
  exact .strict hsections

theorem textsValue_injective : Function.Injective textsValue := by
  intro xs ys h
  exact (List.map_inj_right fun _ _ hs => Value.str.inj hs).mp (Value.list.inj h)

theorem toValue_injective : Function.Injective toValue := by
  rintro ⟨⟨fc, fx⟩, ⟨tc, ts, tx⟩, ⟨nc, nx⟩, ⟨ec, es, ex⟩⟩ ⟨⟨fc', fx'⟩, ⟨tc', ts', tx'⟩, ⟨nc', nx'⟩, ⟨ec', es', ex'⟩⟩ h
  cases ts <;> cases ts' <;>
    simp_all [toValue, toolValue, textsValue_injective.eq_iff]

/-- The standard toolchain is the empty description filled in. -/
theorem fill_empty : shape.fill (.object []) = standard.toValue := rfl

/-- **What the schema of toolchains accepts.** For every value:
    * it is accepted just if it conforms to `shape`: an object with no other keys than the four sections, each of
      which, if it is given, is an object with no other keys than its own fields, in which every given command, script
      and strategy is a text that is not empty and all given arguments are a list of texts;
    * an accepted value is the toolchain with what is absent filled in, so that every field of every section has what
      was given there, else what the standard toolchain has there, and the toolchain as data is accepted again as it
      is;
    * a refusal has an issue for each place that offends, one and no more, and no other issues. They come in the order
      of the shape, and unknown keys of an object after everything inside it. -/
theorem check_shape (v : Value) :
    ((∃ t, check v = .ok t) ↔ shape.Conforms v) ∧
    (∀ t, check v = .ok t →
      t.toValue = shape.fill v ∧
      (∀ part name, (t.toValue.inner? part).bind (·.inner? name) =
        ((v.inner? part).bind (·.inner? name)).or ((standard.toValue.inner? part).bind (·.inner? name))) ∧
      check t.toValue = .ok t) ∧
    (∀ issues, check v = .error issues →
      issues ≠ [] ∧ (∀ i, i ∈ issues ↔ shape.Offends v i.path i.cause) ∧ (issues.map (·.path)).Nodup ∧
      issues.Pairwise fun i j => shape.Precedes i.path j.path) := by
  obtain ⟨hfounded, hexact, hordered, hfilled⟩ := enforces_check v
  refine ⟨enforces_check.isOk_iff v, ?_, ?_⟩
  · intro t ht
    have hconforms := (enforces_check.isOk_iff v).mp ⟨t, ht⟩
    refine ⟨hfilled t ht, ?_, enforces_check.again sound_shape toValue_injective ht⟩
    intro part name
    rw [hfilled t ht, ← fill_empty]
    refine inner?_inner?_fill sound_shape ?_ hconforms part name
    simp only [sectionRules, List.forall_mem_cons, Rule.default, true_and]
    exact ⟨⟨_, rfl, leaves_toolRules _⟩, ⟨_, rfl, leaves_translatorRules⟩, ⟨_, rfl, leaves_toolRules _⟩,
      ⟨_, rfl, leaves_engineRules⟩, nofun⟩
  · intro issues hissues
    rw [hissues] at hfounded hexact hordered
    refine ⟨fun hnil => hfounded (congrArg Except.error hnil), hexact, ?_, hordered⟩
    -- no place precedes itself, so no two issues are about one place
    rw [List.Nodup, List.pairwise_map]
    refine List.Pairwise.imp ?_ hordered
    intro i j hprecedes heq
    rw [heq] at hprecedes
    exact Precedes.irrefl sound_shape hprecedes

/-- A description that says one thing only: the engine takes no further arguments. -/
def sparse : Value := .object [("engine", .object [("extraArgs", .list [])])]

/-- A description with a wrong section, a wrong text, two wrong arguments and unknown keys at both levels. -/
def muddled : Value :=
  .object [("strange", .null),
    ("engine", .object [("2", .null), ("extraArgs", .list [.null, .str "x", .num 1]), ("command", .str "")]),
    ("frontend", .list [])]

/-- The one keeps its empty list of arguments and takes all else from the standard toolchain; of the other, everything
that is wrong is told, in order. -/
theorem sparse_completed :
    (∃ t, check sparse = .ok t ∧ check t.toValue = .ok t ∧
      (t.toValue.inner? "engine").bind (·.inner? "extraArgs") = some (.list []) ∧
      (t.toValue.inner? "engine").bind (·.inner? "command") = some (.str "klee") ∧
      (t.toValue.inner? "translate").bind (·.inner? "script") = none) ∧
    ∃ issues, check muddled = .error issues ∧
      (∀ i ∈ issues, shape.Offends muddled i.path i.cause) ∧
      issues.map (·.path) = [[.field "frontend"], [.field "engine", .field "command"],
        [.field "engine", .field "extraArgs", .item 0], [.field "engine", .field "extraArgs", .item 2],
        [.field "engine"], []] := by
  constructor
  · have hok : (check sparse).isOk = true := by decide +kernel
    cases hsparse : check sparse with
    | error issues => rw [hsparse] at hok; cases hok
    | ok t =>
      obtain ⟨-, hplaces, hagain⟩ := (check_shape sparse).2.1 t hsparse
      refine ⟨t, rfl, hagain, ?_, ?_, ?_⟩
      · rw [hplaces]; rfl
      · rw [hplaces]; rfl
      · rw [hplaces]; rfl
  · have hpaths : (check muddled).issues.map (·.path) = [[.field "frontend"], [.field "engine", .field "command"],
        [.field "engine", .field "extraArgs", .item 0], [.field "engine", .field "extraArgs", .item 2],
        [.field "engine"], []] := by decide +kernel
    cases hmuddled : check muddled with
    | ok t => rw [hmuddled] at hpaths; cases hpaths
    | error issues =>
      rw [hmuddled] at hpaths
      exact ⟨issues, rfl, fun i hi => (((check_shape muddled).2.2 issues hmuddled).2.1 i).mp hi, hpaths⟩

end DataplaneVerdict.Toolchain
