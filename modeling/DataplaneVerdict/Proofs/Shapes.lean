import DataplaneVerdict.Proofs.Documents

/-!
# `Proofs.Shapes` — what a schema asks, and the checks that ask it

A check is a program: it runs the checks of its fields one after the other and glues their issues together. A `Shape` is
what it is meant to ask. Four notions belong to a shape, none of which mentions a check:

* `Shape.Conforms`: the values that are as the shape says;
* `Shape.Offends`: the places of a value that are not, each with what is wrong there;
* `Shape.Precedes`: the order of places, in which an object comes after everything inside it;
* `Shape.fill`: a value with the defaults of its absent fields filled in.

A value conforms just if nothing in it offends (`Shape.conforms_iff`), and filling in once is enough
(`Shape.fill_fill`). `Shape.Enforces` says that a check does what a shape asks. It is proved once for each way of
building checks, so a schema that is built in these ways enforces its shape without a case analysis of its own.

## Contents
- **Shapes.** The four notions and how they hang together.
- **Outcomes.** The issues of combined outcomes.
- **Checks.** `Shape.Enforces` for leaves, `Shape.Reads` for fields, and both for objects.
-/

namespace DataplaneVerdict

/-- What a field is given as, if it is given: a field that holds `undefined` is not. -/
def Value.given? (name : String) (fields : List (String × Value)) : Option Value :=
  match Value.field name fields with
  | .undefined => none
  | v => some v

/-- What an object has under a name. -/
def Value.inner? (v : Value) (name : String) : Option Value :=
  match v with
  | .object fields => Value.given? name fields
  | _ => none

theorem Value.given?_eq_some {name : String} {fields : List (String × Value)} {v : Value} :
    given? name fields = some v ↔ fields.lookup name = some v ∧ v ≠ .undefined := by
  unfold given? Value.field
  cases hlookup : fields.lookup name with
  | none => simp
  | some w => cases w <;> simp_all [eq_comm]

theorem Value.lookup_of_ne {name : String} {fields : List (String × Value)} (h : ∀ field ∈ fields, field.1 ≠ name) :
    fields.lookup name = none := by
  rw [List.lookup_eq_none_iff]
  intro field hfield
  rw [bne_iff_ne]
  exact (h field hfield).symm

/-- Putting the keys that are indices first loses no field and adds none. -/
theorem Value.mem_orderFields {α : Type} {fields : List (String × α)} {f : String × α} :
    f ∈ orderFields fields ↔ f ∈ fields := by
  unfold orderFields
  rw [List.mem_append, List.mem_map, List.mem_filter]
  constructor
  · rintro (⟨⟨n, g⟩, hg, rfl⟩ | ⟨hf, -⟩)
    · obtain ⟨g', hmem, hindex⟩ := List.mem_filterMap.mp (List.mem_mergeSort.mp hg)
      obtain ⟨m, -, heq⟩ := Option.map_eq_some_iff.mp hindex
      rw [← (Prod.mk.inj heq).2]
      exact hmem
    · exact hf
  · intro hf
    cases hindex : index? f.1 with
    | none => exact .inr ⟨hf, rfl⟩
    | some n =>
      refine .inl ⟨(n, f), List.mem_mergeSort.mpr (List.mem_filterMap.mpr ⟨f, hf, ?_⟩), rfl⟩
      rw [hindex]
      rfl

/-! ## Shapes -/

/-- What is asked of a value: a text that is not empty, a list of texts, or an object that has only the named fields.
Each of these has a shape, and perhaps a default that it takes when it is not given. -/
inductive Shape where
  | text
  | texts
  | object (rules : List (String × Shape × Option Value))

namespace Shape

/-- A field of an object: its name, its shape, and perhaps its default. -/
abbrev Rule := String × Shape × Option Value

abbrev Rule.name (rule : Rule) : String := rule.1

abbrev Rule.shape (rule : Rule) : Shape := rule.2.1

abbrev Rule.default (rule : Rule) : Option Value := rule.2.2

/-- Shapes lie inside shapes only as those of fields. -/
@[induction_eliminator]
theorem induct {motive : Shape → Prop} (text : motive text) (texts : motive texts)
    (object : ∀ rules : List Rule, (∀ rule ∈ rules, motive rule.shape) → motive (object rules))
    (shape : Shape) : motive shape := by
  match shape with
  | .text => exact text
  | .texts => exact texts
  | .object rules =>
    refine object rules fun (rule : Rule) hrule => ?_
    have hsize : sizeOf rule < sizeOf rules := List.sizeOf_lt_of_mem hrule
    have hinner : sizeOf rule.shape < sizeOf rule := by
      obtain ⟨name, inner, default⟩ := rule
      simp only [Rule.shape, Prod.mk.sizeOf_spec]
      omega
    exact induct text texts object rule.shape
termination_by sizeOf shape

/-- The kind of values that a shape is about. -/
def kind : Shape → Kind
  | text => .string
  | texts => .array
  | object _ => .object

/-- Whether a value is of that kind. -/
def fits : Shape → Value → Bool
  | text, .str _ => true
  | texts, .list _ => true
  | object _, .object _ => true
  | _, _ => false

/-- The keys of an object that no rule is about, in the order in which an object lists its keys. -/
def strangeKeys (rules : List Rule) (fields : List (String × Value)) : List String :=
  ((Value.orderFields fields).map (·.1)).filter fun key => key ∉ rules.map Rule.name

/-- **Values as a shape says.** A text is not empty, all items of a list are texts, and an object has no other keys than
    the named ones and under each of these, if it is given, a value as the rule says. -/
inductive Conforms : Shape → Value → Prop
  | text {s : String} (hne : s ≠ "") : Conforms text (.str s)
  | texts {items : List Value} (hall : ∀ v ∈ items, ∃ s, v = .str s) : Conforms texts (.list items)
  | object {rules : List Rule} {fields : List (String × Value)}
      (hknown : ∀ field ∈ fields, field.1 ∈ rules.map Rule.name)
      (hgiven : ∀ rule ∈ rules, ∀ v, Value.given? rule.name fields = some v → Conforms rule.shape v) :
      Conforms (object rules) (.object fields)

/-- **Places that offend.** `Offends shape v path cause`: the path leads to a place in `v` that is not as the shape
says, because of the cause. Unknown keys offend at the object that has them, all of them together. -/
inductive Offends : Shape → Value → List Step → Cause → Prop
  | kind {shape : Shape} {v : Value} (hmisfit : shape.fits v = false) :
      Offends shape v [] (.kind shape.kind v.kind)
  | empty : Offends text (.str "") [] (.textTooShort 1)
  | item {items : List Value} {i : Nat} {v : Value} (hitem : items[i]? = some v) (hnot : ∀ s, v ≠ .str s) :
      Offends texts (.list items) [.item i] (.kind .string v.kind)
  | field {rules : List Rule} {fields : List (String × Value)}
      {rule : Rule} {v : Value} {path : List Step} {cause : Cause} (hrule : rule ∈ rules)
      (hgiven : Value.given? rule.name fields = some v) (hinner : Offends rule.shape v path cause) :
      Offends (object rules) (.object fields) (.field rule.name :: path) cause
  | strangers {rules : List Rule} {fields : List (String × Value)}
      (hne : strangeKeys rules fields ≠ []) :
      Offends (object rules) (.object fields) [] (.unknownKeys (strangeKeys rules fields))

/-- **The order of places.** Fields come in the order of their rules, items in that of the list, and an object or a list
    after everything inside it. -/
inductive Precedes : Shape → List Step → List Step → Prop
  | inside {shape : Shape} {step : Step} {path : List Step} : Precedes shape (step :: path) []
  | items {i j : Nat} {p q : List Step} (hlt : i < j) : Precedes texts (.item i :: p) (.item j :: q)
  | fields {rules : List Rule} {a b : String} {p q : List Step}
      (hbefore : [a, b].Sublist (rules.map Rule.name)) : Precedes (object rules) (.field a :: p) (.field b :: q)
  | within {rules : List Rule} {rule : Rule} {p q : List Step}
      (hrule : rule ∈ rules) (hinner : Precedes rule.shape p q) :
      Precedes (object rules) (.field rule.name :: p) (.field rule.name :: q)

mutual

/-- A value with what is absent filled in. -/
def fill : Shape → Value → Value
  | object rules, .object fields => .object (fillFields rules fields)
  | _, v => v

/-- The fields that rules are about: as they are given, else by default, and left out where there is no default. What a
    field has in it is filled in likewise. -/
def fillFields : List Rule → List (String × Value) → List (String × Value)
  | [], _ => []
  | (name, shape, default) :: rules, fields =>
    match (Value.given? name fields).or default with
    | some v => (name, fill shape v) :: fillFields rules fields
    | none => fillFields rules fields

end

/-- Shapes that do not contradict themselves: no field is named twice, and every default is as its own field asks. -/
inductive Sound : Shape → Prop
  | text : Sound text
  | texts : Sound texts
  | object {rules : List Rule} (hnames : (rules.map Rule.name).Nodup)
      (hinner : ∀ rule ∈ rules, Sound rule.shape)
      (hdefault : ∀ rule ∈ rules, ∀ v, rule.default = some v → Conforms rule.shape v) : Sound (object rules)

variable {shape : Shape} {rules rules' : List Rule} {rule : Rule}
  {fields : List (String × Value)} {v : Value} {path p q : List Step} {cause : Cause}

/-! ### Conforming and offending -/

theorem strangeKeys_eq_nil_iff :
    strangeKeys rules fields = [] ↔ ∀ field ∈ fields, field.1 ∈ rules.map Rule.name := by
  unfold strangeKeys
  rw [List.filter_eq_nil_iff]
  constructor
  · intro h field hfield
    have hkey := h field.1 (List.mem_map_of_mem (Value.mem_orderFields.mpr hfield))
    simpa using hkey
  · intro h key hkey
    obtain ⟨field, hfield, rfl⟩ := List.mem_map.mp hkey
    simpa using h field (Value.mem_orderFields.mp hfield)

theorem Conforms.ne_undefined (h : Conforms shape v) : v ≠ .undefined := by
  cases h <;> simp

/-- A value of another kind offends as a whole, and nothing else can be said about it. -/
theorem offends_iff_of_misfit (h : shape.fits v = false) :
    Offends shape v path cause ↔ path = [] ∧ cause = .kind shape.kind v.kind := by
  constructor
  · intro hoffends
    cases hoffends with
    | kind _ => exact ⟨rfl, rfl⟩
    | empty => cases h
    | item hitem hnot => cases h
    | field hrule hgiven hinner => cases h
    | strangers hne => cases h
  · rintro ⟨rfl, rfl⟩
    exact .kind h

theorem Conforms.not_offends (h : Conforms shape v) : ¬Offends shape v path cause := by
  induction h generalizing path cause with
  | text hne =>
    intro hoffends
    cases hoffends with
    | kind hmisfit => cases hmisfit
    | empty => exact hne rfl
  | texts hall =>
    intro hoffends
    cases hoffends with
    | kind hmisfit => cases hmisfit
    | item hitem hnot =>
      obtain ⟨s, hs⟩ := hall _ (List.mem_of_getElem? hitem)
      exact hnot s hs
  | object hknown hgiven ih =>
    intro hoffends
    cases hoffends with
    | kind hmisfit => cases hmisfit
    | field hrule hfield hinner => exact ih _ hrule _ hfield hinner
    | strangers hne => exact hne (strangeKeys_eq_nil_iff.mpr hknown)

/-- **A value conforms just if nothing in it offends.** -/
theorem conforms_iff : Conforms shape v ↔ ∀ path cause, ¬Offends shape v path cause := by
  refine ⟨fun h path cause => h.not_offends, fun h => ?_⟩
  induction shape generalizing v with
  | text =>
    cases v with
    | str s =>
      refine .text ?_
      rintro rfl
      exact h _ _ .empty
    | _ => exact absurd (.kind rfl) (h _ _)
  | texts =>
    cases v with
    | list items =>
      refine .texts fun w hw => ?_
      obtain ⟨i, hi⟩ := List.getElem?_of_mem hw
      apply Classical.byContradiction
      intro hnot
      exact h _ _ (.item hi fun s hs => hnot ⟨s, hs⟩)
    | _ => exact absurd (.kind rfl) (h _ _)
  | object rules ih =>
    cases v with
    | object fields =>
      refine .object ?_ fun rule hrule w hw => ih rule hrule fun path cause hoffends => h _ _ (.field hrule hw hoffends)
      apply strangeKeys_eq_nil_iff.mp
      apply Classical.byContradiction
      intro hne
      exact h _ _ (.strangers hne)
    | _ => exact absurd (.kind rfl) (h _ _)

theorem Sound.nodup_names (h : Sound (.object rules)) : (rules.map Rule.name).Nodup := by
  cases h with
  | object hnames hinner hdefault => exact hnames

theorem Sound.inner (h : Sound (.object rules)) (hrule : rule ∈ rules) : Sound rule.shape := by
  cases h with
  | object hnames hinner hdefault => exact hinner rule hrule

theorem Sound.conforms_default (h : Sound (.object rules)) (hrule : rule ∈ rules) (hv : rule.default = some v) :
    Conforms rule.shape v := by
  cases h with
  | object hnames hinner hdefault => exact hdefault rule hrule v hv

theorem Conforms.given (h : Conforms (.object rules) (.object fields)) (hrule : rule ∈ rules)
    (hv : Value.given? rule.name fields = some v) : Conforms rule.shape v := by
  cases h with
  | object hknown hgiven => exact hgiven rule hrule v hv

theorem Precedes.of_sublist (hsub : rules.Sublist rules') (h : Precedes (object rules) p q) :
    Precedes (object rules') p q := by
  cases h with
  | inside => exact .inside
  | fields hbefore => exact .fields (hbefore.trans (hsub.map _))
  | within hrule hinner => exact .within (hsub.subset hrule) hinner

/-- No place precedes itself. -/
theorem Precedes.irrefl (hsound : Sound shape) : ¬Precedes shape p p := by
  induction shape generalizing p with
  | text => rintro ⟨⟩
  | texts =>
    intro h
    cases h with
    | items hlt => exact Nat.lt_irrefl _ hlt
  | object rules ih =>
    intro h
    cases h with
    | fields hbefore => simpa using hbefore.nodup hsound.nodup_names
    | within hrule hprecedes => exact ih _ hrule (hsound.inner hrule) hprecedes

/-! ### Filling in -/

theorem fill_ne_undefined (h : v ≠ .undefined) : fill shape v ≠ .undefined := by
  unfold fill
  split
  · simp
  · exact h

theorem fillFields_cons (rule : Rule) (rules : List Rule)
    (fields : List (String × Value)) :
    fillFields (rule :: rules) fields =
      (((Value.given? rule.name fields).or rule.default).map fun v => (rule.name, fill rule.shape v)).toList ++
        fillFields rules fields := by
  rw [fillFields]
  cases (Value.given? rule.name fields).or rule.default <;> rfl

theorem name_of_mem_fillFields {field : String × Value} (h : field ∈ fillFields rules fields) :
    field.1 ∈ rules.map Rule.name := by
  induction rules with
  | nil => simp [fillFields] at h
  | cons rule rules ih =>
    rw [fillFields_cons, List.mem_append] at h
    rw [List.map_cons, List.mem_cons]
    rcases h with h | h
    · obtain ⟨v, -, rfl⟩ := Option.map_eq_some_iff.mp (Option.mem_toList.mp h)
      exact .inl rfl
    · exact .inr (ih h)

theorem lookup_fillFields_of_notMem {name : String} (h : name ∉ rules.map Rule.name) :
    (fillFields rules fields).lookup name = none :=
  Value.lookup_of_ne fun _ hfield heq => h (heq ▸ name_of_mem_fillFields hfield)

/-- What stands under the name of a rule after filling in: what is given, else the default. -/
theorem lookup_fillFields (hnames : (rules.map Rule.name).Nodup) (hrule : rule ∈ rules) :
    (fillFields rules fields).lookup rule.name =
      ((Value.given? rule.name fields).or rule.default).map (fill rule.shape) := by
  induction rules with
  | nil => cases hrule
  | cons first rules ih =>
    rw [List.map_cons, List.nodup_cons] at hnames
    rw [fillFields_cons]
    rcases List.mem_cons.mp hrule with rfl | hrest
    · cases (Value.given? rule.name fields).or rule.default with
      | none => exact lookup_fillFields_of_notMem hnames.1
      | some v => exact List.lookup_cons_self
    · -- the name of the rule is another one than that of the first rule
      have hne : (rule.name == first.name) = false := by
        rw [beq_eq_false_iff_ne]
        intro heq
        exact hnames.1 (heq ▸ List.mem_map_of_mem hrest)
      rw [← ih hnames.2 hrest]
      cases (Value.given? first.name fields).or first.default with
      | none => rfl
      | some v => simp [List.lookup_cons, hne]

/-- **The fields of a value that was filled in.** -/
theorem given?_fillFields (hsound : Sound (object rules)) (hrule : rule ∈ rules) :
    Value.given? rule.name (fillFields rules fields) =
      ((Value.given? rule.name fields).or rule.default).map (fill rule.shape) := by
  have hlookup : (fillFields rules fields).lookup rule.name = _ := lookup_fillFields hsound.nodup_names hrule
  cases hvalue : (Value.given? rule.name fields).or rule.default with
  | none =>
    rw [hvalue] at hlookup
    simp [Value.given?, Value.field, hlookup]
  | some v =>
    -- neither a given field nor a default is `undefined`
    have hne : v ≠ .undefined := by
      rcases Option.or_eq_some_iff.mp hvalue with hgiven | ⟨-, hgiven⟩
      · exact (Value.given?_eq_some.mp hgiven).2
      · exact (hsound.conforms_default hrule hgiven).ne_undefined
    rw [hvalue] at hlookup
    exact Value.given?_eq_some.mpr ⟨hlookup, fill_ne_undefined hne⟩

/-- What a conforming object is filled in with is as the rules say. -/
theorem conforms_of_or (hsound : Sound (object rules)) (h : Conforms (object rules) (.object fields))
    (hrule : rule ∈ rules) (hvalue : (Value.given? rule.name fields).or rule.default = some v) :
    Conforms rule.shape v := by
  rcases Option.or_eq_some_iff.mp hvalue with hfield | ⟨-, hfield⟩
  · exact h.given hrule hfield
  · exact hsound.conforms_default hrule hfield

theorem conforms_fill (hsound : Sound shape) (h : Conforms shape v) : Conforms shape (fill shape v) := by
  induction shape generalizing v with
  | text => exact h
  | texts => exact h
  | object rules ih =>
    cases h with
    | @object _ fields hknown hgiven =>
      refine .object (fun field hfield => name_of_mem_fillFields hfield) ?_
      intro rule hrule w hw
      rw [given?_fillFields hsound hrule] at hw
      obtain ⟨u, hu, rfl⟩ := Option.map_eq_some_iff.mp hw
      exact ih rule hrule (hsound.inner hrule) (conforms_of_or hsound (.object hknown hgiven) hrule hu)

theorem fillFields_congr {others : List (String × Value)}
    (h : ∀ rule ∈ rules, ((Value.given? rule.name others).or rule.default).map (fill rule.shape) =
      ((Value.given? rule.name fields).or rule.default).map (fill rule.shape)) :
    fillFields rules others = fillFields rules fields := by
  induction rules with
  | nil => rfl
  | cons rule rules ih =>
    have hrest := ih fun rule hrule => h rule (List.mem_cons_of_mem _ hrule)
    have hfirst := congrArg (Option.map fun v => (rule.name, v)) (h rule List.mem_cons_self)
    rw [Option.map_map, Option.map_map] at hfirst
    rw [fillFields_cons, fillFields_cons, hrest]
    exact congrArg (fun first : Option (String × Value) => first.toList ++ fillFields rules fields) hfirst

/-- **Filling in once is enough.** -/
theorem fill_fill (hsound : Sound shape) (h : Conforms shape v) : fill shape (fill shape v) = fill shape v := by
  induction shape generalizing v with
  | text => rfl
  | texts => rfl
  | object rules ih =>
    cases h with
    | @object _ fields hknown hgiven =>
      refine congrArg Value.object (fillFields_congr fun rule hrule => ?_)
      rw [given?_fillFields hsound hrule]
      cases hvalue : (Value.given? rule.name fields).or rule.default with
      | none => rw [(Option.or_eq_none_iff.mp hvalue).2]; rfl
      | some u =>
        have hconforms := conforms_of_or hsound (.object hknown hgiven) hrule hvalue
        exact congrArg some (ih rule hrule (hsound.inner hrule) hconforms)

/-! ### Values inside values -/

theorem conforms_empty (rules : List Rule) : Conforms (object rules) (.object []) :=
  .object (fun _ hfield => nomatch hfield) fun _ _ _ hgiven => nomatch hgiven

theorem inner?_of_notMem {name : String} (h : Conforms (object rules) v) (hname : name ∉ rules.map Rule.name) :
    v.inner? name = none := by
  cases h with
  | @object _ fields hknown hgiven =>
    have hlookup : fields.lookup name = none := Value.lookup_of_ne fun field hfield heq =>
      hname (heq ▸ hknown field hfield)
    show Value.given? name fields = none
    simp [Value.given?, Value.field, hlookup]

theorem inner?_fill (hsound : Sound (object rules)) (h : Conforms (object rules) v) (hrule : rule ∈ rules) :
    (fill (object rules) v).inner? rule.name = ((v.inner? rule.name).or rule.default).map (fill rule.shape) := by
  cases h with
  | object hknown hgiven => exact given?_fillFields hsound hrule

/-- Shapes without fields. -/
def isLeaf : Shape → Bool
  | object _ => false
  | _ => true

theorem fill_of_isLeaf (h : shape.isLeaf = true) : fill shape v = v := by
  cases shape with
  | object rules => cases h
  | _ => rfl

/-- A section whose fields have none of their own: only its names and defaults can contradict each other. -/
theorem sound_of_leaves (hnames : (rules.map Rule.name).Nodup) (hleaves : ∀ rule ∈ rules, rule.shape.isLeaf = true)
    (hdefault : ∀ rule ∈ rules, ∀ v, rule.default = some v → Conforms rule.shape v) : Sound (object rules) := by
  refine .object hnames (fun rule hrule => ?_) hdefault
  have hleaf := hleaves rule hrule
  cases hshape : rule.shape with
  | text => exact .text
  | texts => exact .texts
  | object inner =>
    rw [hshape] at hleaf
    cases hleaf

/-- **A section filled in** has what is given, and else what the empty section has when it is filled in. -/
theorem inner?_fill_of_leaves (hsound : Sound (object rules)) (hleaves : ∀ rule ∈ rules, rule.shape.isLeaf = true)
    (h : Conforms (object rules) v) (name : String) :
    (fill (object rules) v).inner? name = (v.inner? name).or ((fill (object rules) (.object [])).inner? name) := by
  by_cases hname : name ∈ rules.map Rule.name
  · obtain ⟨rule, hrule, rfl⟩ := List.mem_map.mp hname
    have hid : ∀ o : Option Value, o.map (fill rule.shape) = o := by
      intro o
      cases o with
      | none => rfl
      | some w => exact congrArg some (fill_of_isLeaf (hleaves rule hrule))
    have hnone : (Value.object []).inner? rule.name = none := rfl
    rw [inner?_fill hsound h hrule, inner?_fill hsound (conforms_empty rules) hrule, hid, hid, hnone, Option.none_or]
  · rw [inner?_of_notMem (conforms_fill hsound h) hname, inner?_of_notMem h hname,
      inner?_of_notMem (conforms_fill hsound (conforms_empty rules)) hname]
    rfl

/-- **Sections filled in**: under every name of every section stands what is given there, else the default. -/
theorem inner?_inner?_fill (hsound : Sound (object rules))
    (hsections : ∀ rule ∈ rules, rule.default = some (.object []) ∧
      ∃ inner : List Rule, rule.shape = object inner ∧ ∀ r ∈ inner, r.shape.isLeaf = true)
    (h : Conforms (object rules) v) (part name : String) :
    ((fill (object rules) v).inner? part).bind (·.inner? name) =
      ((v.inner? part).bind (·.inner? name)).or
        (((fill (object rules) (.object [])).inner? part).bind (·.inner? name)) := by
  by_cases hpart : part ∈ rules.map Rule.name
  · obtain ⟨⟨part, shape, default⟩, hrule, rfl⟩ := List.mem_map.mp hpart
    obtain ⟨rfl, inner, rfl, hleaves⟩ := hsections _ hrule
    have hinner : Sound (object inner) := hsound.inner hrule
    rw [inner?_fill hsound h hrule, inner?_fill hsound (conforms_empty rules) hrule]
    have hnone : (Value.object []).inner? part = none := rfl
    rw [hnone]
    cases hgiven : v.inner? part with
    | none => rfl
    | some w =>
      have hw : Conforms (object inner) w := by
        cases h with
        | object hknown hfields => exact hfields _ hrule w hgiven
      exact inner?_fill_of_leaves hinner hleaves hw name
  · rw [inner?_of_notMem (conforms_fill hsound h) hpart, inner?_of_notMem h hpart,
      inner?_of_notMem (conforms_fill hsound (conforms_empty rules)) hpart]
    rfl

end Shape

/-! ## Outcomes -/

theorem Issue.eq_iff {i : Issue} {path : List Step} {cause : Cause} :
    i = ⟨path, cause⟩ ↔ i.path = path ∧ i.cause = cause := by
  cases i
  exact Issue.mk.injEq .. |>.to_iff

namespace Checked

variable {α β : Type}

/-- A refusal has at least one issue. -/
def Founded (x : Checked α) : Prop := x ≠ .error []

theorem founded_ok (a : α) : Founded (.ok a) := nofun

theorem Founded.eq_ok {x : Checked α} (h : x.Founded) (hnone : x.issues = []) : ∃ a, x = .ok a := by
  cases x with
  | ok a => exact ⟨a, rfl⟩
  | error issues => exact absurd (congrArg Except.error hnone) h

theorem issues_both (x : Checked α) (y : Checked β) : (both x y).issues = x.issues ++ y.issues := by
  cases x <;> cases y <;> simp [both, issues]

theorem issues_within (step : Step) (x : Checked α) : (x.within step).issues = x.issues.map (Issue.within step) := by
  cases x <;> rfl

theorem issues_map (f : α → β) (x : Checked α) : issues (x.map f) = x.issues := by
  cases x <;> rfl

theorem issues_alsoRefusing (x : Checked α) (further : List Issue) :
    (x.alsoRefusing further).issues = x.issues ++ further := by
  cases x with
  | error issues => rfl
  | ok a => cases further <;> rfl

theorem Founded.both {x : Checked α} {y : Checked β} (hx : x.Founded) (hy : y.Founded) : (both x y).Founded := by
  intro h
  have hnone : (Checked.both x y).issues = [] := congrArg issues h
  rw [issues_both, List.append_eq_nil_iff] at hnone
  obtain ⟨a, rfl⟩ := hx.eq_ok hnone.1
  obtain ⟨b, rfl⟩ := hy.eq_ok hnone.2
  cases h

theorem Founded.within {x : Checked α} (h : x.Founded) (step : Step) : (x.within step).Founded := by
  cases x with
  | ok a => exact founded_ok a
  | error issues => simpa [Founded, Checked.within] using h

theorem Founded.map {x : Checked α} (h : x.Founded) (f : α → β) : Founded (x.map f) := by
  cases x with
  | ok a => exact founded_ok (f a)
  | error issues => simpa [Founded, Except.map] using h

theorem Founded.alsoRefusing {x : Checked α} (h : x.Founded) (further : List Issue) :
    (x.alsoRefusing further).Founded := by
  cases x with
  | ok a => cases further <;> simp [Founded, Checked.alsoRefusing]
  | error issues =>
    intro hnone
    exact h (congrArg Except.error (List.append_eq_nil_iff.mp (Except.error.inj hnone)).1)

end Checked

/-! ## Checks -/

namespace Shape

open Check

variable {α β : Type} {shape : Shape} {v : Value}

/-- **An outcome as a shape asks.** It is a refusal with at least one issue or a result; the issues are those of the
places that offend, in order; and a result, given back as data, is the value with its defaults filled in. -/
structure Judged (shape : Shape) (v : Value) (render : α → Value) (x : Checked α) : Prop where
  founded : x.Founded
  exact : ∀ i, i ∈ x.issues ↔ Offends shape v i.path i.cause
  ordered : x.issues.Pairwise fun i j => Precedes shape i.path j.path
  filled : ∀ a, x = .ok a → render a = fill shape v

/-- **Checks that enforce a shape** judge every value as it asks. -/
def Enforces (check : Check α) (shape : Shape) (render : α → Value) : Prop := ∀ v, Judged shape v render (check v)

variable {check : Check α} {render : α → Value}

/-- Such a check accepts exactly the values that conform. -/
theorem Enforces.isOk_iff (h : Enforces check shape render) (v : Value) :
    (∃ a, check v = .ok a) ↔ Conforms shape v := by
  rw [conforms_iff]
  constructor
  · rintro ⟨a, ha⟩ path cause hoffends
    have hissue := ((h v).exact ⟨path, cause⟩).mpr hoffends
    rw [ha] at hissue
    cases hissue
  · intro hclean
    apply (h v).founded.eq_ok
    apply List.eq_nil_iff_forall_not_mem.mpr
    intro i hi
    exact hclean _ _ (((h v).exact i).mp hi)

/-- It accepts its own results, and leaves them as they are. -/
theorem Enforces.again (h : Enforces check shape render) (hsound : Sound shape)
    (hinj : Function.Injective render) {a : α}
    (ha : check v = .ok a) : check (render a) = .ok a := by
  have hconforms : Conforms shape v := (h.isOk_iff v).mp ⟨a, ha⟩
  have hfilled : render a = fill shape v := (h v).filled a ha
  obtain ⟨b, hb⟩ := (h.isOk_iff (render a)).mpr (hfilled ▸ conforms_fill hsound hconforms)
  have hsame : render b = render a := by
    rw [(h _).filled b hb, hfilled, fill_fill hsound hconforms]
  rw [hb, hinj hsame]

/-! ### Leaves -/

theorem Judged.of_conforms {a : α} (h : Conforms shape v) (hrender : render a = fill shape v) :
    Judged shape v render (.ok a) where
  founded := Checked.founded_ok a
  exact _ := ⟨nofun, fun hoffends => absurd hoffends h.not_offends⟩
  ordered := .nil
  filled _ hb := Except.ok.inj hb ▸ hrender

/-- A single issue, where nothing else offends. -/
theorem Judged.of_single {cause : Cause} (h : ∀ p c, Offends shape v p c ↔ p = [] ∧ c = cause) :
    Judged shape v render (Checked.fail cause) where
  founded := by simp [Checked.Founded, Checked.fail]
  exact i := by rw [h, ← Issue.eq_iff]; exact List.mem_singleton
  ordered := List.pairwise_singleton _ _
  filled a ha := nomatch ha

theorem Judged.of_misfit (h : shape.fits v = false) :
    Judged shape v render (Checked.fail (.kind shape.kind v.kind)) :=
  .of_single fun _ _ => offends_iff_of_misfit h

theorem enforces_nonEmptyText : Enforces nonEmptyText text .str := by
  intro v
  cases v with
  | str s =>
    by_cases hs : s = ""
    · subst hs
      apply Judged.of_single
      intro p c
      constructor
      · intro hoffends
        cases hoffends with
        | kind hmisfit => cases hmisfit
        | empty => exact ⟨rfl, rfl⟩
      · rintro ⟨rfl, rfl⟩
        exact .empty
    · have haccepted : nonEmptyText (.str s) = .ok s := if_neg (by simpa using hs)
      rw [haccepted]
      exact .of_conforms (.text hs) rfl
  | _ => exact .of_misfit rfl

/-! ### Lists of texts -/

theorem textItems_cons (n : Nat) (v : Value) (rest : List Value) :
    textItems n (v :: rest) =
      (Checked.both ((Check.text v).within (.item n)) (textItems (n + 1) rest)).map fun p => p.1 :: p.2 := by
  rw [textItems]
  cases Checked.both ((Check.text v).within (.item n)) (textItems (n + 1) rest) <;> rfl

theorem mem_issues_text {v : Value} {i : Issue} :
    i ∈ (Check.text v).issues ↔ (∀ s, v ≠ .str s) ∧ i = ⟨[], .kind .string v.kind⟩ := by
  cases v <;> simp [Check.text, Checked.issues, Checked.fail]

theorem founded_textItems (n : Nat) (items : List Value) : (textItems n items).Founded := by
  induction items generalizing n with
  | nil => exact Checked.founded_ok _
  | cons v rest ih =>
    have htext : (Check.text v).Founded := by cases v <;> simp [Checked.Founded, Check.text, Checked.fail]
    rw [textItems_cons]
    exact ((htext.within _).both (ih (n + 1))).map _

/-- The issues of a list are those of its items that are no texts. -/
theorem mem_issues_textItems {n : Nat} {items : List Value} {i : Issue} :
    i ∈ (textItems n items).issues ↔
      ∃ k v, items[k]? = some v ∧ (∀ s, v ≠ .str s) ∧ i = ⟨[.item (n + k)], .kind .string v.kind⟩ := by
  induction items generalizing n with
  | nil => simp [textItems, Checked.issues]
  | cons w rest ih =>
    rw [textItems_cons, Checked.issues_map, Checked.issues_both, Checked.issues_within,
      List.mem_append, List.mem_map, ih]
    constructor
    · rintro (⟨j, hj, rfl⟩ | ⟨k, v, hk, hnot, rfl⟩)
      · obtain ⟨hnot, rfl⟩ := mem_issues_text.mp hj
        exact ⟨0, w, rfl, hnot, rfl⟩
      · exact ⟨k + 1, v, hk, hnot, by rw [Nat.add_assoc, Nat.add_comm 1]⟩
    · rintro ⟨k, v, hk, hnot, rfl⟩
      cases k with
      | zero =>
        obtain rfl : w = v := Option.some.inj hk
        exact .inl ⟨_, mem_issues_text.mpr ⟨hnot, rfl⟩, rfl⟩
      | succ k => exact .inr ⟨k, v, hk, hnot, by rw [Nat.add_assoc, Nat.add_comm 1]⟩

theorem ordered_textItems (n : Nat) (items : List Value) :
    (textItems n items).issues.Pairwise fun i j => Precedes texts i.path j.path := by
  induction items generalizing n with
  | nil => exact .nil
  | cons v rest ih =>
    rw [textItems_cons, Checked.issues_map, Checked.issues_both, Checked.issues_within]
    refine List.pairwise_append.mpr ⟨?_, ih (n + 1), ?_⟩
    · cases v <;> simp [Check.text, Checked.issues, Checked.fail]
    · intro i hi j hj
      obtain ⟨i', hi', rfl⟩ := List.mem_map.mp hi
      obtain ⟨-, rfl⟩ := mem_issues_text.mp hi'
      obtain ⟨k, w, -, -, rfl⟩ := mem_issues_textItems.mp hj
      exact .items (by omega)

theorem eq_map_of_textItems {n : Nat} {items : List Value} {xs : List String} (h : textItems n items = .ok xs) :
    items = xs.map .str := by
  induction items generalizing n xs with
  | nil => rw [← Except.ok.inj h]; rfl
  | cons v rest ih =>
    rw [textItems_cons] at h
    obtain ⟨⟨x, ys⟩, hboth, rfl⟩ := map_eq_ok h
    obtain ⟨hfirst, hrest⟩ := both_eq_ok hboth
    have hv : v = .str x := by
      cases v with
      | str s => exact congrArg Value.str (Except.ok.inj (within_eq_ok hfirst))
      | _ => cases hfirst
    rw [hv, ih hrest]
    rfl

theorem texts_list (items : List Value) : Check.texts 0 (.list items) = textItems 0 items := by
  unfold Check.texts
  simp only [Nat.not_lt_zero, if_false, List.isEmpty_nil, if_true, List.nil_append]
  cases textItems 0 items <;> rfl

theorem enforces_texts : Enforces (Check.texts 0) texts fun xs => .list (xs.map .str) := by
  intro v
  cases v with
  | list items =>
    rw [texts_list]
    refine ⟨founded_textItems 0 items, ?_, ordered_textItems 0 items, ?_⟩
    · intro i
      rw [mem_issues_textItems]
      constructor
      · rintro ⟨k, w, hk, hnot, rfl⟩
        rw [Nat.zero_add]
        exact .item hk hnot
      · intro hoffends
        obtain ⟨path, cause⟩ := i
        cases hoffends with
        | kind hmisfit => cases hmisfit
        | @item _ k w hk hnot => exact ⟨k, w, hk, hnot, by rw [Nat.zero_add]⟩
    · intro xs hxs
      rw [← eq_map_of_textItems hxs]
      rfl
  | _ => exact .of_misfit rfl

/-! ### Fields -/

/-- **Fields as rules ask**: like `Judged`, for the fields of an object that some rules are about. -/
structure Gathered (rules : List Rule) (fields : Fields) (render : α → Fields) (x : Checked α) : Prop where
  founded : x.Founded
  exact : ∀ i, i ∈ x.issues ↔ ∃ rule ∈ rules, ∃ v path, Value.given? rule.name fields = some v ∧
    i.path = .field rule.name :: path ∧ Offends rule.shape v path i.cause
  ordered : x.issues.Pairwise fun i j => Precedes (object rules) i.path j.path
  filled : ∀ a, x = .ok a → render a = fillFields rules fields

/-- Readings of the fields that some rules are about. -/
def Reads (read : Fields → Checked α) (rules : List Rule) (render : α → Fields) : Prop :=
  ∀ fields, Gathered rules fields render (read fields)

theorem fillFields_append (rules others : List Rule) (fields : Fields) :
    fillFields (rules ++ others) fields = fillFields rules fields ++ fillFields others fields := by
  induction rules with
  | nil => rfl
  | cons rule rules ih => rw [List.cons_append, fillFields_cons, fillFields_cons, ih, List.append_assoc]

/-- One field, whose check differs from one that enforces a shape in what it makes of an absent value. -/
theorem Reads.field {outer : Check β} {absent : β} {list : β → Fields} {default : Option Value} (given : α → β)
    (name : String) (h : Enforces check shape render)
    (hgiven : ∀ v, v ≠ .undefined → outer v = (check v).map given) (habsent : outer .undefined = .ok absent)
    (hlist : ∀ a, list (given a) = [(name, render a)])
    (hdefault : list absent = (default.map fun v => (name, fill shape v)).toList) :
    Reads (Check.field name outer) [(name, shape, default)] list := by
  intro fields
  unfold Check.field
  cases hvalue : Value.given? name fields with
  | none =>
    have hfield : Value.field name fields = .undefined := by
      unfold Value.given? at hvalue
      split at hvalue
      · assumption
      · cases hvalue
    rw [hfield, habsent]
    refine ⟨Checked.founded_ok _, ?_, .nil, ?_⟩
    · intro i
      simp [Checked.within, Checked.issues, hvalue]
    · intro b hb
      rw [← Except.ok.inj hb, hdefault, fillFields_cons, hvalue, Option.none_or, fillFields, List.append_nil]
  | some v =>
    obtain ⟨hlookup, hne⟩ := Value.given?_eq_some.mp hvalue
    have hfield : Value.field name fields = v := by rw [Value.field, hlookup]; rfl
    obtain ⟨hfounded, hexact, hordered, hfilled⟩ := h v
    rw [hfield, hgiven v hne]
    refine ⟨(hfounded.map given).within _, ?_, ?_, ?_⟩
    · intro i
      rw [Checked.issues_within, Checked.issues_map, List.mem_map]
      simp only [List.mem_singleton, exists_eq_left, hvalue, Option.some.injEq]
      constructor
      · rintro ⟨j, hj, rfl⟩
        exact ⟨v, j.path, rfl, rfl, (hexact j).mp hj⟩
      · rintro ⟨w, path, rfl, hpath, hoffends⟩
        exact ⟨⟨path, i.cause⟩, (hexact _).mpr hoffends, (Issue.eq_iff.mpr ⟨hpath, rfl⟩).symm⟩
    · rw [Checked.issues_within, Checked.issues_map, List.pairwise_map]
      exact hordered.imp fun hinner => .within (List.mem_singleton_self (name, shape, default)) hinner
    · intro b hb
      obtain ⟨a, ha, rfl⟩ := map_eq_ok (within_eq_ok hb)
      rw [hlist, hfilled a ha, fillFields_cons, hvalue, Option.some_or, fillFields, List.append_nil]
      rfl

theorem Reads.orDefault {default : α} {data : Value} (name : String) (h : Enforces check shape render)
    (hdefault : render default = fill shape data) :
    Reads (Check.field name (Check.orDefault default check)) [(name, shape, some data)] fun a =>
      [(name, render a)] := by
  refine Reads.field id name h ?_ rfl (fun _ => rfl) ?_
  · intro v hv
    have hcheck : Check.orDefault default check v = check v := by
      unfold Check.orDefault
      split
      · exact absurd rfl hv
      · rfl
    rw [hcheck]
    cases check v <;> rfl
  · rw [hdefault]
    rfl

theorem Reads.optional (name : String) (h : Enforces check shape render) :
    Reads (Check.field name (Check.optional check)) [(name, shape, none)]
      fun o => (o.map fun a => (name, render a)).toList := by
  refine Reads.field some name h ?_ rfl (fun _ => rfl) rfl
  intro v hv
  unfold Check.optional
  split
  · exact absurd rfl hv
  · rfl

section Fields

variable {rules others : List Rule} {read : Fields → Checked α} {more : Fields → Checked β}
  {list : α → Fields} {rest : β → Fields}

/-- Readings one after the other. -/
theorem Reads.both (h : Reads read rules list) (hmore : Reads more others rest) :
    Reads (fun fields => Checked.both (read fields) (more fields)) (rules ++ others)
      fun p => list p.1 ++ rest p.2 := by
  intro fields
  obtain ⟨hfounded, hexact, hordered, hfilled⟩ := h fields
  obtain ⟨hfounded', hexact', hordered', hfilled'⟩ := hmore fields
  refine ⟨hfounded.both hfounded', ?_, ?_, ?_⟩
  · intro i
    rw [Checked.issues_both, List.mem_append, hexact, hexact']
    simp only [List.mem_append, or_and_right, exists_or]
  · rw [Checked.issues_both]
    refine List.pairwise_append.mpr ⟨hordered.imp (.of_sublist (List.sublist_append_left ..)),
      hordered'.imp (.of_sublist (List.sublist_append_right ..)), ?_⟩
    intro i hi j hj
    obtain ⟨rule, hrule, -, p, -, hpath, -⟩ := (hexact i).mp hi
    obtain ⟨rule', hrule', -, q, -, hpath', -⟩ := (hexact' j).mp hj
    rw [hpath, hpath']
    apply Precedes.fields
    rw [List.map_append]
    exact (List.singleton_sublist.mpr (List.mem_map_of_mem hrule)).append
      (List.singleton_sublist.mpr (List.mem_map_of_mem hrule'))
  · rintro ⟨a, b⟩ hab
    obtain ⟨ha, hb⟩ := both_eq_ok hab
    rw [fillFields_append, ← hfilled a ha, ← hfilled' b hb]

theorem Reads.map (h : Reads read rules list) (f : α → β) (hrest : ∀ a, rest (f a) = list a) :
    Reads (fun fields => (read fields).map f) rules rest := by
  intro fields
  obtain ⟨hfounded, hexact, hordered, hfilled⟩ := h fields
  refine ⟨hfounded.map f, ?_, ?_, ?_⟩
  · rw [Checked.issues_map]
    exact hexact
  · rw [Checked.issues_map]
    exact hordered
  · intro b hb
    obtain ⟨a, ha, rfl⟩ := map_eq_ok hb
    rw [hrest, hfilled a ha]

theorem mem_strangers {fields : Fields} {i : Issue} :
    i ∈ strangers (rules.map Rule.name) fields ↔
      strangeKeys rules fields ≠ [] ∧ i = ⟨[], .unknownKeys (strangeKeys rules fields)⟩ := by
  have hkeys : ((Value.orderFields fields).map (·.1)).filter (fun k => !(rules.map Rule.name).contains k) =
      strangeKeys rules fields := by
    apply List.filter_congr
    intro k _
    simp
  unfold strangers
  rw [hkeys]
  cases strangeKeys rules fields <;> simp

/-- **Objects** that have the fields of a reading and no others. -/
theorem Enforces.strict (h : Reads read rules list) :
    Enforces (Check.strict (rules.map Rule.name) read) (object rules) fun a => .object (list a) := by
  intro v
  cases v with
  | object fields =>
    obtain ⟨hfounded, hexact, hordered, hfilled⟩ := h fields
    refine ⟨hfounded.alsoRefusing _, ?_, ?_, ?_⟩
    · intro i
      show i ∈ ((read fields).alsoRefusing _).issues ↔ _
      rw [Checked.issues_alsoRefusing, List.mem_append, hexact, mem_strangers]
      constructor
      · rintro (⟨rule, hrule, w, path, hw, hpath, hoffends⟩ | ⟨hne, rfl⟩)
        · rw [hpath]
          exact .field hrule hw hoffends
        · exact .strangers hne
      · intro hoffends
        obtain ⟨path, cause⟩ := i
        cases hoffends with
        | kind hmisfit => cases hmisfit
        | field hrule hw hinner => exact .inl ⟨_, hrule, _, _, hw, rfl, hinner⟩
        | strangers hne => exact .inr ⟨hne, rfl⟩
    · show ((read fields).alsoRefusing _).issues.Pairwise _
      rw [Checked.issues_alsoRefusing]
      refine List.pairwise_append.mpr ⟨hordered, ?_, ?_⟩
      · unfold strangers
        dsimp only
        split
        · exact .nil
        · exact List.pairwise_singleton _ _
      · -- whatever is wrong inside the object comes before its unknown keys
        intro i hi j hj
        obtain ⟨rule, -, -, path, -, hpath, -⟩ := (hexact i).mp hi
        obtain ⟨-, rfl⟩ := mem_strangers.mp hj
        rw [hpath]
        exact .inside
    · intro a ha
      exact congrArg Value.object (hfilled a (alsoRefusing_eq_ok ha))
  | _ => exact .of_misfit rfl

end Fields

end Shape

end DataplaneVerdict
