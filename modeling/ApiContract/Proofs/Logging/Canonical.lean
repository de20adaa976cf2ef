import Mathlib.Data.List.Basic
import Mathlib.Order.Compare
import ApiContract.Logging.Settings

/-
Filters in canonical order.

The directives of a filter that need no more than the place of an event stand in strictly
descending order of their scopes.  Between such scopes the order is a strict one, for only their
texts are compared, and scopes of one rank are the same.  So there is one directive for a scope,
and the list is told by the level that it holds for each of them.

Main definitions:

* `ApiContract.Logging.Directive.Canonical` — static directives in descending order.

Main results:

* `ApiContract.Logging.Scope.compare_eq_eq_iff` — static scopes of one rank are the same;
* `ApiContract.Logging.Directive.Canonical.insert` — an added directive keeps the order;
* `ApiContract.Logging.Directive.Canonical.eq_of_levelOf?_eq` — **a canonical list is told by the
  levels that it holds**;
* `ApiContract.Logging.Settings.canonical_baseFilter` — the filter that a program begins with is in
  order.
-/

set_option autoImplicit false

namespace ApiContract.Logging

/-! ### The order of static scopes -/

namespace Scope

variable {s t u : Scope}

/-- The order of scopes by what a static scope has, the parts one after the other. -/
def compareStatic : Scope → Scope → Ordering :=
  compareLex (compareOn fun s => s.target.map String.utf8ByteSize) <|
    compareLex (compareOn fun s => s.condition.isSome.toNat) <|
      compareLex (compareOn Scope.target) (compareOn fun s => s.condition.map Condition.field)

instance : Std.TransCmp compareStatic := by unfold compareStatic; infer_instance

theorem orderParts_eq_compare {α : Type} [Ord α] (a b : Option α) :
    orderParts Ord.compare a b = Ord.compare a b := by
  cases a <;> cases b <;> rfl

theorem isStatic_iff :
    s.isStatic = true ↔ s.span = none ∧ ∀ c, s.condition = some c → c.value = none := by
  simp [isStatic, Option.all_eq_true]

/-- Conditions without a value are ordered by their fields. -/
theorem orderParts_condition (hs : s.isStatic) (ht : t.isStatic) :
    orderParts Condition.compare s.condition t.condition =
      Ord.compare (s.condition.map Condition.field) (t.condition.map Condition.field) := by
  have hs := (isStatic_iff.1 hs).2
  have ht := (isStatic_iff.1 ht).2
  cases hc : s.condition with
  | none => cases t.condition <;> rfl
  | some c =>
    cases hd : t.condition with
    | none => rfl
    | some d =>
      have hcompare : c.compare d = order c.field d.field := by
        simp [Condition.compare, hs c hc, ht d hd]
      exact hcompare

theorem compare_eq_compareStatic (hs : s.isStatic) (ht : t.isStatic) :
    s.compare t = compareStatic s t := by
  have hspan : s.span = none ∧ t.span = none := ⟨(isStatic_iff.1 hs).1, (isStatic_iff.1 ht).1⟩
  have htarget : orderParts order s.target t.target = Ord.compare s.target t.target :=
    orderParts_eq_compare s.target t.target
  rw [compare, orderParts_eq_compare, htarget, orderParts_condition hs ht, hspan.1, hspan.2]
  rfl

/-- Conditions of static scopes are told by their fields. -/
theorem condition_eq_of_fields (hs : s.isStatic) (ht : t.isStatic)
    (h : s.condition.map Condition.field = t.condition.map Condition.field) :
    s.condition = t.condition := by
  have hs := (isStatic_iff.1 hs).2
  have ht := (isStatic_iff.1 ht).2
  cases hc : s.condition with
  | none =>
    rw [hc] at h
    exact (Option.map_eq_none_iff.1 h.symm).symm
  | some c =>
    rw [hc] at h
    obtain ⟨d, hd, hfield⟩ := Option.map_eq_some_iff.1 h.symm
    have hvalue : d.value = c.value := (ht d hd).trans (hs c hc).symm
    cases c
    cases d
    simp_all

/-- Static scopes of one rank are the same. -/
theorem compare_eq_eq_iff (hs : s.isStatic) (ht : t.isStatic) : s.compare t = .eq ↔ s = t := by
  constructor
  · intro h
    rw [compare_eq_compareStatic hs ht] at h
    simp only [compareStatic, compareLex, compareOn, Ordering.then_eq_eq,
      Std.LawfulEqOrd.compare_eq_iff_eq] at h
    obtain ⟨-, -, htarget, hfields⟩ := h
    have hcondition := condition_eq_of_fields hs ht hfields
    have hspan : s.span = t.span := (isStatic_iff.1 hs).1.trans (isStatic_iff.1 ht).1.symm
    cases s
    cases t
    simp_all
  · rintro rfl
    rw [compare_eq_compareStatic hs hs]
    exact Std.ReflCmp.compare_self

theorem compare_gt_iff (hs : s.isStatic) (ht : t.isStatic) :
    s.compare t = .gt ↔ t.compare s = .lt := by
  rw [compare_eq_compareStatic hs ht, compare_eq_compareStatic ht hs]
  exact Std.OrientedCmp.gt_iff_lt

theorem compare_gt_trans (hs : s.isStatic) (ht : t.isStatic) (hu : u.isStatic)
    (hst : s.compare t = .gt) (htu : t.compare u = .gt) : s.compare u = .gt := by
  rw [compare_eq_compareStatic hs ht] at hst
  rw [compare_eq_compareStatic ht hu] at htu
  rw [compare_eq_compareStatic hs hu]
  exact Std.TransCmp.gt_trans hst htu

end Scope

/-! ### Directives in order -/

namespace Directive

variable {d e : Directive} {ds es : List Directive} {scope : Scope} {level : Level}

@[simp] theorem levelOf?_nil : levelOf? [] scope = none := rfl

theorem levelOf?_cons :
    levelOf? (d :: ds) scope = if d.scope = scope then some d.level else levelOf? ds scope := by
  by_cases h : d.scope = scope <;> simp [levelOf?, h]

theorem mem_insert (h : e ∈ d.insert ds) : e = d ∨ e ∈ ds := by
  induction ds with
  | nil => exact .inl (List.mem_singleton.1 h)
  | cons first rest ih =>
    unfold insert at h
    split at h
    · exact (List.mem_cons.1 h).imp_right (List.mem_cons_of_mem first)
    · exact List.mem_cons.1 h
    · rcases List.mem_cons.1 h with rfl | h
      · exact .inr List.mem_cons_self
      · exact (ih h).imp_right (List.mem_cons_of_mem first)

/-- Static directives in strictly descending order of their scopes. -/
structure Canonical (ds : List Directive) : Prop where
  /-- The directives need no more than the place of an event. -/
  static : ∀ d ∈ ds, d.scope.isStatic = true
  /-- They stand in descending order, so that there is one for a scope. -/
  descending : ds.Pairwise fun d e => d.scope.compare e.scope = .gt

namespace Canonical

theorem nil : Canonical [] := ⟨nofun, .nil⟩

theorem tail (h : Canonical (d :: ds)) : Canonical ds :=
  ⟨fun e he => h.static e (List.mem_cons_of_mem d he), (List.pairwise_cons.1 h.descending).2⟩

/-- A static directive that is added keeps the order. -/
theorem insert (h : Canonical ds) (hd : d.scope.isStatic) : Canonical (d.insert ds) := by
  refine ⟨fun e he => (mem_insert he).elim (fun heq => heq ▸ hd) (h.static e), ?_⟩
  induction ds with
  | nil => exact List.pairwise_singleton _ d
  | cons first rest ih =>
    have hfirst : first.scope.isStatic := h.static first List.mem_cons_self
    obtain ⟨hbefore, hrest⟩ := List.pairwise_cons.1 h.descending
    unfold Directive.insert
    split
    · -- it takes the place of a directive with the same scope
      next heq =>
        have hscope : d.scope = first.scope := (Scope.compare_eq_eq_iff hd hfirst).1 heq
        exact List.pairwise_cons.2 ⟨hscope ▸ hbefore, hrest⟩
    · next hgt =>
        refine List.pairwise_cons.2 ⟨fun e he => ?_, h.descending⟩
        rcases List.mem_cons.1 he with rfl | hmem
        · exact hgt
        · exact Scope.compare_gt_trans hd hfirst (h.static e he) hgt (hbefore e hmem)
    · next hlt =>
        refine List.pairwise_cons.2 ⟨fun e he => ?_, ih h.tail⟩
        rcases mem_insert he with rfl | he
        · exact (Scope.compare_gt_iff hfirst hd).2 hlt
        · exact hbefore e he

/-- A directive that is added gives its scope its level, and no other scope changes. -/
theorem levelOf?_insert (h : Canonical ds) (hd : d.scope.isStatic) (scope : Scope) :
    levelOf? (d.insert ds) scope =
      if d.scope = scope then some d.level else levelOf? ds scope := by
  induction ds with
  | nil => exact levelOf?_cons
  | cons first rest ih =>
    have hfirst : first.scope.isStatic := h.static first List.mem_cons_self
    unfold Directive.insert
    split
    · next heq =>
        rw [levelOf?_cons, levelOf?_cons, (Scope.compare_eq_eq_iff hd hfirst).1 heq]
        split <;> rfl
    · exact levelOf?_cons
    · next hlt =>
        have hne : d.scope ≠ first.scope := fun hscope => by
          rw [(Scope.compare_eq_eq_iff hd hfirst).2 hscope] at hlt
          cases hlt
        rw [levelOf?_cons, levelOf?_cons, ih h.tail]
        by_cases hscope : first.scope = scope
        · rw [if_pos hscope, if_pos hscope, if_neg fun heq => hne (heq.trans hscope.symm)]
        · rw [if_neg hscope, if_neg hscope]

theorem levelOf?_eq_some_iff (h : Canonical ds) :
    levelOf? ds scope = some level ↔ ⟨scope, level⟩ ∈ ds := by
  induction ds with
  | nil => simp
  | cons first rest ih =>
    have hfirst : first.scope.isStatic := h.static first List.mem_cons_self
    rw [levelOf?_cons, List.mem_cons]
    by_cases hscope : first.scope = scope
    · -- a later directive has a scope below this one
      have hlater : (⟨scope, level⟩ : Directive) ∉ rest := fun hmem => by
        have hgt := (List.pairwise_cons.1 h.descending).1 _ hmem
        rw [hscope, (Scope.compare_eq_eq_iff (hscope ▸ hfirst) (hscope ▸ hfirst)).2 rfl] at hgt
        cases hgt
      obtain ⟨scope', level'⟩ := first
      obtain rfl : scope' = scope := hscope
      simp [hlater, eq_comm]
    · have hne : (⟨scope, level⟩ : Directive) ≠ first := fun heq => hscope (heq ▸ rfl)
      rw [if_neg hscope, ih h.tail]
      exact ⟨.inr, fun hmem => hmem.resolve_left hne⟩

/-- **Two canonical lists that hold the same level for each scope are the same.** -/
theorem eq_of_levelOf?_eq (h : Canonical ds) (h' : Canonical es)
    (heq : ∀ scope, levelOf? ds scope = levelOf? es scope) : ds = es := by
  have hirrefl : ∀ {ds : List Directive}, Canonical ds → ds.Nodup := fun {ds} hds => by
    refine hds.descending.imp_of_mem fun {d e} hd he hgt hde => ?_
    subst hde
    rw [(Scope.compare_eq_eq_iff (hds.static d hd) (hds.static d hd)).2 rfl] at hgt
    cases hgt
  have hperm : ds.Perm es := by
    refine (List.perm_ext_iff_of_nodup (hirrefl h) (hirrefl h')).2 fun d => ?_
    rw [← h.levelOf?_eq_some_iff, ← h'.levelOf?_eq_some_iff, heq]
  refine hperm.eq_of_pairwise (fun d e hd he hgt hgt' => ?_) h.descending h'.descending
  rw [Scope.compare_gt_iff (h'.static e he) (h.static d hd), hgt] at hgt'
  cases hgt'

end Canonical

/-- Static directives that are put in order one after the other are canonical. -/
theorem canonical_foldl_insert (hds : Canonical ds) (hes : ∀ e ∈ es, e.scope.isStatic) :
    Canonical (es.foldl (fun ds e => e.insert ds) ds) := by
  induction es generalizing ds with
  | nil => exact hds
  | cons first rest ih =>
    exact ih (hds.insert (hes first List.mem_cons_self))
      fun e he => hes e (List.mem_cons_of_mem first he)

end Directive

/-! ### Filters -/

theorem Scope.isStatic_of_not_isDynamic {s : Scope} (h : s.isDynamic = false) :
    s.isStatic = true := by
  obtain ⟨target, span, condition⟩ := s
  cases span <;> cases condition <;> simp_all [Scope.isDynamic, Scope.isStatic]

theorem Filter.canonical_ofDirectives (ds : List Directive) :
    Directive.Canonical (Filter.ofDirectives ds).static := by
  simp only [Filter.ofDirectives, List.partition_eq_filter_filter]
  refine Directive.canonical_foldl_insert .nil fun d hd => ?_
  simp only [List.mem_append, List.mem_filter] at hd
  rcases hd with ⟨-, hplain⟩ | ⟨-, hstatic⟩
  · exact Scope.isStatic_of_not_isDynamic (by simpa using hplain)
  · exact hstatic

theorem Filter.canonical_ofText? {text : String} {f : Filter} (h : Filter.ofText? text = some f) :
    Directive.Canonical f.static := by
  obtain ⟨ds, -, rfl⟩ := Option.map_eq_some_iff.1 h
  exact Filter.canonical_ofDirectives ds

/-- The filter that a program begins with is in order, wherever it comes from. -/
theorem Settings.canonical_baseFilter (s : Settings) (environment : Environment) :
    Directive.Canonical (s.baseFilter environment).static := by
  unfold Settings.baseFilter
  cases h : (environment "RUST_LOG").bind Filter.ofText? with
  | none => exact Filter.canonical_ofDirectives [⟨.plain none, s.level⟩]
  | some f =>
    obtain ⟨text, -, htext⟩ := Option.bind_eq_some_iff.1 h
    exact Filter.canonical_ofText? htext

end ApiContract.Logging
