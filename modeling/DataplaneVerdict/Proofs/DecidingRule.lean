import DataplaneVerdict.Verdict.Basic

/-!
# `Proofs.DecidingRule` — which rule decides

A classification sorts the rules by priority and takes the first that recognises the observation. `Rule.Decides` says
which rule that is without sorting anything: of the rules that recognise the observation, it has the least priority, and
it stands before all others of that priority. The sort enters in one place only (`Rule.decides_of_find?`), by induction
on the list: a rule put before a list goes behind those of smaller priority and before all others, equal ones included.
That every list has at most one deciding rule, and that rules which do not match do not count, are facts about
`Rule.Decides` alone.

## Contents
- **Priorities.** The order of numbers, as far as it is one.
- **The deciding rule.** `Rule.Decides`, its uniqueness, and the sort.
- **Classification.** `classify_by_priority`.
-/

namespace DataplaneVerdict

/-! ## Priorities -/

namespace Number

variable {a b c : Number}

theorem lt_asymm (h : lt a b = true) : lt b a = false := by
  cases a <;> cases b <;> grind [lt]

theorem not_lt_trans (hb : b ≠ nan) (h : lt b a = false) (h' : lt c b = false) : lt c a = false := by
  cases a <;> cases b <;> cases c <;> grind [lt]

theorem eq_symm (a b : Number) : eq a b = eq b a := by
  cases a <;> cases b <;> grind [eq]

theorem ne_of_lt (h : lt a b = true) : eq b a = false := by
  cases a <;> cases b <;> grind [lt, eq, Rat.num_eq_zero]

/-- Of two numbers one comes before the other, or they are equal. -/
theorem le_iff_not_lt (ha : a ≠ nan) (hb : b ≠ nan) : le a b = true ↔ lt b a = false := by
  cases a <;> cases b <;> grind [lt, le, eq, Rat.num_eq_zero]

theorem le_self (ha : a ≠ nan) : le a a = true := by
  rw [le_iff_not_lt ha ha]
  cases h : lt a a with
  | false => rfl
  | true => exact h.symm.trans (lt_asymm h)

theorem le_of_lt (h : lt a b = true) : le a b = true := by
  rw [le, h, Bool.true_or]

theorem lt_of_le_of_lt (h : le a b = true) (h' : lt b c = true) : lt a c = true := by
  cases a <;> cases b <;> cases c <;> grind [lt, le, eq, Rat.num_eq_zero]

theorem eq_of_le_of_le (h : le a b = true) (h' : le b a = true) : eq a b = true := by
  rw [le, Bool.or_eq_true] at h h'
  rcases h with hlt | heq
  · rcases h' with hgt | heq
    · rw [lt_asymm hlt] at hgt
      cases hgt
    · rwa [eq_symm]
  · exact heq

end Number

namespace Rule

/-! ## The deciding rule -/

/-- **The deciding rule** of a list: it recognises the observation, no rule that does has a smaller priority, and none
    that stands before it and does has the same. -/
structure Decides (o : Observation) (rules : List Rule) (r : Rule) : Prop where
  recognises : r.recognises o = true
  least : ∀ q ∈ rules, q.recognises o = true → Number.le r.priority q.priority = true
  first : ∃ before after, rules = before ++ r :: after ∧
    ∀ q ∈ before, q.recognises o = true → Number.eq q.priority r.priority = false

section Deciding

variable {o : Observation} {rules others : List Rule} {a r r' : Rule}

theorem Decides.mem (h : Decides o rules r) : r ∈ rules := by
  obtain ⟨before, after, rfl, -⟩ := h.first
  exact List.mem_append_right before List.mem_cons_self

/-- Of two rules at different places of a list, the earlier one rules the later one out. -/
theorem Decides.not_later {before : List Rule} (h : Decides o rules r) (h' : Decides o rules r')
    (hbefore : r ∈ before) (hfirst : ∀ q ∈ before, q.recognises o = true → Number.eq q.priority r'.priority = false) :
    False := by
  have hequal := Number.eq_of_le_of_le (h.least r' h'.mem h'.recognises) (h'.least r h.mem h.recognises)
  rw [hfirst r hbefore h.recognises] at hequal
  cases hequal

/-- **At most one rule decides.** -/
theorem Decides.unique (h : Decides o rules r) (h' : Decides o rules r') : r = r' := by
  obtain ⟨before, after, hsplit, hfirst⟩ := h.first
  obtain ⟨before', after', hsplit', hfirst'⟩ := h'.first
  rw [hsplit] at hsplit'
  rcases List.append_eq_append_iff.mp hsplit' with ⟨between, rfl, hrest⟩ | ⟨between, rfl, hrest⟩
  · cases between with
    | nil => exact (List.cons.inj hrest).1
    | cons x between =>
      obtain ⟨rfl, -⟩ := List.cons.inj hrest
      exact (h.not_later h' (List.mem_append_right before List.mem_cons_self) hfirst').elim
  · cases between with
    | nil => exact (List.cons.inj hrest).1.symm
    | cons x between =>
      obtain ⟨rfl, -⟩ := List.cons.inj hrest
      exact (h'.not_later h (List.mem_append_right before' List.mem_cons_self) hfirst).elim

/-- A rule in front makes no difference if it does not match or has a greater priority. -/
theorem Decides.cons (h : Decides o rules r)
    (ha : a.recognises o = true → Number.lt r.priority a.priority = true) : Decides o (a :: rules) r := by
  obtain ⟨before, after, rfl, hfirst⟩ := h.first
  refine ⟨h.recognises, ?_, a :: before, after, rfl, ?_⟩
  · rw [List.forall_mem_cons]
    exact ⟨fun hmatch => Number.le_of_lt (ha hmatch), h.least⟩
  · rw [List.forall_mem_cons]
    exact ⟨fun hmatch => Number.ne_of_lt (ha hmatch), hfirst⟩

/-- A rule in front decides if it matches and none that matches has a smaller priority. -/
theorem decides_cons_self (ha : a.recognises o = true) (hnumber : a.priority ≠ .nan)
    (hleast : ∀ q ∈ rules, q.recognises o = true → Number.le a.priority q.priority = true) :
    Decides o (a :: rules) a := by
  refine ⟨ha, ?_, [], rules, rfl, fun q hq => absurd hq List.not_mem_nil⟩
  rw [List.forall_mem_cons]
  exact ⟨fun _ => Number.le_self hnumber, hleast⟩

/-- Rules that do not match do not count. -/
theorem decides_filter_iff : Decides o (rules.filter (·.recognises o)) r ↔ Decides o rules r := by
  constructor
  · intro h
    obtain ⟨before, after, hsplit, hfirst⟩ := h.first
    obtain ⟨front, back, rfl, rfl, hback⟩ := List.filter_eq_append_iff.mp hsplit
    obtain ⟨skipped, after', rfl, hskipped, -, -⟩ := List.filter_eq_cons_iff.mp hback
    refine ⟨h.recognises, ?_, front ++ skipped, after', by simp, ?_⟩
    · intro q hq hmatch
      exact h.least q (List.mem_filter.mpr ⟨hq, hmatch⟩) hmatch
    · intro q hq hmatch
      rcases List.mem_append.mp hq with hq | hq
      · exact hfirst q (List.mem_filter.mpr ⟨hq, hmatch⟩) hmatch
      · exact absurd hmatch (hskipped q hq)
  · intro h
    obtain ⟨before, after, rfl, hfirst⟩ := h.first
    refine ⟨h.recognises, ?_, before.filter (·.recognises o), after.filter (·.recognises o), ?_, ?_⟩
    · intro q hq hmatch
      exact h.least q ((List.mem_filter.mp hq).1) hmatch
    · rw [List.filter_append, List.filter_cons, if_pos h.recognises]
    · intro q hq hmatch
      exact hfirst q ((List.mem_filter.mp hq).1) hmatch

/-- Where no two priorities are equal, the places of the rules do not count. -/
theorem Decides.perm (h : Decides o rules r) (hperm : others.Perm rules)
    (hdistinct : rules.Pairwise fun a b => Number.eq a.priority b.priority = false) : Decides o others r := by
  obtain ⟨before, after, rfl⟩ := List.append_of_mem (hperm.mem_iff.mpr h.mem)
  refine ⟨h.recognises, fun q hq => h.least q (hperm.mem_iff.mp hq), before, after, rfl, ?_⟩
  intro q hq _
  have hothers := (hperm.pairwise_iff fun {x y} hxy => (Number.eq_symm y.priority x.priority).trans hxy).mpr hdistinct
  obtain ⟨-, -, hacross⟩ := List.pairwise_append.mp hothers
  exact hacross q hq r List.mem_cons_self

end Deciding

/-! ### The sort -/

/-- An order of all rules: by priority, and those whose priority is no number last. -/
def ranks (a b : Rule) : Bool := b.priority = .nan || (a.priority ≠ .nan && before a b)

theorem ranks_iff {a b : Rule} :
    ranks a b = true ↔ b.priority = .nan ∨ (a.priority ≠ .nan ∧ Number.lt b.priority a.priority = false) := by
  simp [ranks, before, precedes]

theorem ranks_trans (a b c : Rule) (h : ranks a b = true) (h' : ranks b c = true) : ranks a c = true := by
  rw [ranks_iff] at h h' ⊢
  rcases h' with hc | ⟨hb, hbc⟩
  · exact .inl hc
  · rcases h with hnan | ⟨ha, hab⟩
    · exact absurd hnan hb
    · exact .inr ⟨ha, Number.not_lt_trans hb hab hbc⟩

theorem ranks_total (a b : Rule) : (ranks a b || ranks b a) = true := by
  rw [Bool.or_eq_true, ranks_iff, ranks_iff]
  by_cases ha : a.priority = .nan
  · exact .inr (.inl ha)
  · by_cases hb : b.priority = .nan
    · exact .inl (.inl hb)
    · cases hlt : Number.lt b.priority a.priority with
      | false => exact .inl (.inr ⟨ha, rfl⟩)
      | true => exact .inr (.inr ⟨hb, Number.lt_asymm hlt⟩)

/-- Rules whose priorities are numbers are tried in this order. -/
theorem orderRules_eq {rules : List Rule} (hnumbers : ∀ r ∈ rules, r.priority ≠ .nan) :
    orderRules rules = rules.mergeSort ranks := by
  have hnone : ¬(rules.any fun r => r.priority = .nan) = true := by
    rw [List.any_eq_true]
    rintro ⟨r, hr, hnan⟩
    exact hnumbers r hr (of_decide_eq_true hnan)
  have hsame : ∀ a ∈ rules, ∀ b ∈ rules, before a b = ranks a b := by
    intro a ha b hb
    simp [ranks, hnumbers a ha, hnumbers b hb]
  have hsorted := List.map_mergeSort (f := fun r => r) hsame
  rw [List.map_id', List.map_id'] at hsorted
  rw [orderRules, if_neg hnone, hsorted]

/-- **The first match is the deciding rule.** -/
theorem decides_of_find? {o : Observation} {rules : List Rule} {r : Rule} (hnumbers : ∀ r ∈ rules, r.priority ≠ .nan)
    (h : (rules.mergeSort ranks).find? (·.recognises o) = some r) : Decides o rules r := by
  induction rules generalizing r with
  | nil => simp at h
  | cons a rules ih =>
    obtain ⟨ha, hrules⟩ := List.forall_mem_cons.mp hnumbers
    obtain ⟨smaller, others, hsort, hrest, hsmaller⟩ := List.mergeSort_cons ranks_trans ranks_total a rules
    replace ih := ih (r := r) hrules
    rw [hrest, List.find?_append] at ih
    rw [hsort, List.find?_append] at h
    have hmem : ∀ q, q ∈ rules ↔ q ∈ smaller ∨ q ∈ others := by
      intro q
      rw [← List.mem_append, ← hrest, List.mem_mergeSort]
    cases hfound : smaller.find? (·.recognises o) with
    | some q =>
      -- the first match has a smaller priority than the rule in front
      rw [hfound, Option.some_or] at h ih
      obtain rfl := Option.some.inj h
      have hq := List.mem_of_find?_eq_some hfound
      have hlt := hsmaller q hq
      rw [Bool.not_eq_true', Bool.eq_false_iff, ne_eq, ranks_iff, not_or, not_and] at hlt
      refine (ih rfl).cons fun _ => ?_
      simpa using hlt.2 ha
    | none =>
      rw [hfound, Option.none_or] at h ih
      cases hmatch : a.recognises o with
      | false =>
        rw [List.find?_cons_of_neg (by simp [hmatch])] at h
        refine (ih h).cons fun hyes => ?_
        rw [hmatch] at hyes
        cases hyes
      | true =>
        rw [List.find?_cons_of_pos (by exact hmatch)] at h
        obtain rfl := Option.some.inj h
        refine decides_cons_self hmatch ha fun q hq hyes => ?_
        -- what matches and is not of smaller priority stands behind the rule in the sorted list
        rcases (hmem q).mp hq with hq' | hq'
        · exact absurd hyes (List.find?_eq_none.mp hfound q hq')
        · have hsorted := List.pairwise_mergeSort ranks_trans ranks_total (a :: rules)
          rw [hsort] at hsorted
          have hrank := (List.pairwise_cons.mp (List.pairwise_append.mp hsorted).2.1).1 q hq'
          rw [Number.le_iff_not_lt ha (hrules q hq)]
          rcases ranks_iff.mp hrank with hnan | ⟨-, hle⟩
          · exact absurd hnan (hrules q hq)
          · exact hle

end Rule

/-! ## Classification -/

open Rule

section Classification

variable {o : Observation} {rules others : List Rule} {r : Rule}

/-- If some rule matches, one decides. -/
theorem exists_decides (hnumbers : ∀ r ∈ rules, r.priority ≠ .nan) (hmatch : ∃ r ∈ rules, r.recognises o = true) :
    ∃ r, Decides o rules r := by
  have hfound : ((rules.mergeSort ranks).find? (·.recognises o)).isSome = true := by
    obtain ⟨q, hq, hyes⟩ := hmatch
    rw [List.find?_isSome]
    exact ⟨q, List.mem_mergeSort.mpr hq, hyes⟩
  obtain ⟨r, hr⟩ := Option.isSome_iff_exists.mp hfound
  exact ⟨r, decides_of_find? hnumbers hr⟩

/-- The deciding rule gives the classification. -/
theorem classify_of_decides (hnumbers : ∀ r ∈ rules, r.priority ≠ .nan) (h : Decides o rules r) :
    classify o rules = ⟨r.verdict, r.id⟩ := by
  rw [classify, orderRules_eq hnumbers]
  cases hfound : (rules.mergeSort ranks).find? (·.recognises o) with
  | some q => rw [(decides_of_find? hnumbers hfound).unique h]
  | none => exact absurd h.recognises (List.find?_eq_none.mp hfound r (List.mem_mergeSort.mpr h.mem))

theorem classify_of_unmatched (hnumbers : ∀ r ∈ rules, r.priority ≠ .nan)
    (h : ∀ r ∈ rules, r.recognises o = false) : classify o rules = ⟨.error, "unmatched"⟩ := by
  have hnone : (rules.mergeSort ranks).find? (·.recognises o) = none := by
    rw [List.find?_eq_none]
    intro q hq
    rw [h q (List.mem_mergeSort.mp hq)]
    exact Bool.false_ne_true
  rw [classify, orderRules_eq hnumbers, hnone]

/-- One rule decides, or none matches. -/
theorem decides_or_unmatched (o : Observation) (hnumbers : ∀ r ∈ rules, r.priority ≠ .nan) :
    (∃ r, Decides o rules r) ∨ ∀ r ∈ rules, r.recognises o = false := by
  by_cases hmatch : ∃ r ∈ rules, r.recognises o = true
  · exact .inl (exists_decides hnumbers hmatch)
  · refine .inr fun r hr => Bool.eq_false_iff.mpr fun hyes => hmatch ⟨r, hr, hyes⟩

/-- Lists with the same deciding rule classify alike. -/
theorem classify_congr (hrules : ∀ r ∈ rules, r.priority ≠ .nan) (hothers : ∀ r ∈ others, r.priority ≠ .nan)
    (h : ∀ r, Decides o others r ↔ Decides o rules r) : classify o others = classify o rules := by
  rcases decides_or_unmatched o hrules with ⟨r, hr⟩ | hnone
  · rw [classify_of_decides hrules hr, classify_of_decides hothers ((h r).mpr hr)]
  · rcases decides_or_unmatched o hothers with ⟨r, hr⟩ | hnone'
    · have hmatch := ((h r).mp hr).recognises
      rw [hnone r ((h r).mp hr).mem] at hmatch
      cases hmatch
    · rw [classify_of_unmatched hrules hnone, classify_of_unmatched hothers hnone']

/-! ### The built-in table -/

theorem builtin_ascending : builtin.Pairwise fun a b => Number.lt a.priority b.priority = true := by decide

theorem builtin_numbers : ∀ r ∈ builtin, r.priority ≠ .nan := by decide

theorem builtin_distinct : builtin.Pairwise fun a b => Number.eq a.priority b.priority = false :=
  builtin_ascending.imp fun {a b} h => (Number.eq_symm a.priority b.priority).trans (Number.ne_of_lt h)

/-- The last rule of the table matches everything. -/
theorem exists_find?_builtin (o : Observation) : ∃ r, builtin.find? (·.recognises o) = some r := by
  have hfound : (builtin.find? (·.recognises o)).isSome = true := by
    rw [List.find?_isSome]
    exact ⟨cleanExit, by simp [builtin], rfl⟩
  exact Option.isSome_iff_exists.mp hfound

/-- The table is sorted, so its first match decides. -/
theorem decides_builtin (h : builtin.find? (·.recognises o) = some r) : Decides o builtin r := by
  obtain ⟨hmatch, before, after, hsplit, hbefore⟩ := List.find?_eq_some_iff_append.mp h
  have hascending := builtin_ascending
  rw [hsplit] at hascending
  obtain ⟨hafter, -⟩ := List.pairwise_cons.mp (List.pairwise_append.mp hascending).2.1
  refine ⟨hmatch, ?_, before, after, hsplit, ?_⟩
  · intro q hq hyes
    rw [hsplit, List.mem_append, List.mem_cons] at hq
    rcases hq with hq | rfl | hq
    · exact absurd hyes (by simpa using hbefore q hq)
    · exact Number.le_self (builtin_numbers q (List.mem_of_find?_eq_some h))
    · exact Number.le_of_lt (hafter q hq)
  · intro q hq hyes
    exact absurd hyes (by simpa using hbefore q hq)

theorem id_ne_unmatched : ∀ r ∈ builtin, r.id ≠ "unmatched" := by decide

/-- **The rule of least priority decides.** For every list of rules whose priorities are numbers, in any order and with
    ties, and every observation:
    * if some rule matches, one decides, and its verdict and its id are the answer;
    * the answer is `error` by no rule if none matches, and otherwise only if the deciding rule itself says so;
    * rules that do not match may be added and removed anywhere;
    * where no two priorities are equal, the rules may be permuted;
    * every permutation of the built-in table answers with the first match in the table, and never with no rule. -/
theorem classify_by_priority (o : Observation) (rules : List Rule) (hnumbers : ∀ r ∈ rules, r.priority ≠ .nan) :
    ((∃ r ∈ rules, r.recognises o = true) ↔ ∃ r, Decides o rules r) ∧
    (∀ r, Decides o rules r → classify o rules = ⟨r.verdict, r.id⟩) ∧
    (classify o rules = ⟨.error, "unmatched"⟩ ↔
      (∀ r ∈ rules, r.recognises o = false) ∨
        ∃ r, Decides o rules r ∧ r.verdict = .error ∧ r.id = "unmatched") ∧
    (∀ others, (∀ r ∈ others, r.priority ≠ .nan) →
      others.filter (·.recognises o) = rules.filter (·.recognises o) → classify o others = classify o rules) ∧
    (rules.Pairwise (fun a b => Number.eq a.priority b.priority = false) →
      ∀ others, others.Perm rules → classify o others = classify o rules) ∧
    (rules.Perm builtin →
      ∃ r, builtin.find? (·.recognises o) = some r ∧ classify o rules = ⟨r.verdict, r.id⟩ ∧ r.id ≠ "unmatched") := by
  refine ⟨⟨exists_decides hnumbers, ?_⟩, fun r => classify_of_decides hnumbers, ⟨?_, ?_⟩, ?_, ?_, ?_⟩
  · rintro ⟨r, hr⟩
    exact ⟨r, hr.mem, hr.recognises⟩
  · intro hanswer
    rcases decides_or_unmatched o hnumbers with ⟨r, hr⟩ | hnone
    · rw [classify_of_decides hnumbers hr] at hanswer
      obtain ⟨hverdict, hid⟩ := Classification.mk.inj hanswer
      exact .inr ⟨r, hr, hverdict, hid⟩
    · exact .inl hnone
  · rintro (hnone | ⟨r, hr, hverdict, hid⟩)
    · exact classify_of_unmatched hnumbers hnone
    · rw [classify_of_decides hnumbers hr, hverdict, hid]
  · intro others hothers hsame
    refine classify_congr hnumbers hothers fun r => ?_
    rw [← decides_filter_iff, hsame, decides_filter_iff]
  · intro hdistinct others hperm
    have hothers : ∀ r ∈ others, r.priority ≠ .nan := fun r hr => hnumbers r (hperm.mem_iff.mp hr)
    have hdistinct' := (hperm.pairwise_iff fun {x y} hxy =>
      (Number.eq_symm y.priority x.priority).trans hxy).mpr hdistinct
    exact classify_congr hnumbers hothers fun r =>
      ⟨fun h => h.perm hperm.symm hdistinct', fun h => h.perm hperm hdistinct⟩
  · intro hperm
    obtain ⟨r, hr⟩ := exists_find?_builtin o
    have hdecides := (decides_builtin hr).perm hperm builtin_distinct
    exact ⟨r, hr, classify_of_decides hnumbers hdecides, id_ne_unmatched r (List.mem_of_find?_eq_some hr)⟩

end Classification

/-! ### Lists of plain rules -/

/-- A rule that matches everything or nothing. -/
def Rule.plain (id : String) (priority : Number) (verdict : Verdict) (answer : Bool) : Rule where
  id := id
  priority := priority
  description := ""
  verdict := verdict
  recognises _ := answer

/-- An engine that left cleanly and silently. -/
def Observation.silent : Observation := ⟨"", false, some 0, []⟩

/-- Rules out of order, two of them with one priority; the rule with the least priority does not match. -/
def tiedRules : List Rule :=
  [.plain "late" 2 .holds true, .plain "early" 1 .unknown true, .plain "tied" 1 .violated true,
    .plain "absent" 0 .error false]

/-- The earlier of the two rules with the same priority decides. -/
theorem tiedRules_decided :
    Decides .silent tiedRules (.plain "early" 1 .unknown true) ∧ classify .silent tiedRules = ⟨.unknown, "early"⟩ := by
  have hdecides : Decides .silent tiedRules (.plain "early" 1 .unknown true) :=
    ⟨rfl, by decide, [.plain "late" 2 .holds true], _, rfl, by decide⟩
  obtain ⟨-, hanswer, -⟩ := classify_by_priority .silent tiedRules (by decide)
  exact ⟨hdecides, hanswer _ hdecides⟩

/-- The answer of no rule can be that of a rule: one of that verdict and that id. -/
theorem unmatched_although_matched :
    (∀ r ∈ [Rule.plain "unmatched" 1 .error true, .plain "clean-exit" 2 .holds true],
      r.priority.isInteger = true ∧ r.recognises .silent = true) ∧
    classify .silent [.plain "unmatched" 1 .error true, .plain "clean-exit" 2 .holds true] =
      ⟨.error, "unmatched"⟩ := by
  refine ⟨by decide, ?_⟩
  have hdecides : Decides .silent [.plain "unmatched" 1 .error true, .plain "clean-exit" 2 .holds true]
      (.plain "unmatched" 1 .error true) := ⟨rfl, by decide, [], _, rfl, by decide⟩
  exact classify_of_decides (by decide) hdecides

end DataplaneVerdict
