import ApiContract.Document.Reference
import ApiContract.Proofs.Document.Sections

/-
Chains of aliases: what following references comes to.

`ApiContract.Document.resolve` follows references with a list of the names it has met.  Here the
same is told without the list: a schema leads to content through names, or it is broken in one of
three ways.  Since every definition has at most one successor, a chain that ends never meets a
name twice; the list of names met is therefore never what stops a chain that would have ended.

Main definitions:

* `ApiContract.Document.Alias` — a schema is a reference to a definition;
* `ApiContract.Document.Leads` — a schema leads to content, through the names of definitions;
* `ApiContract.Document.Broken` — following references from a schema ends in a fault;
* `ApiContract.Document.DefinitionsRelated` — two documents with related definitions.

Main results:

* `ApiContract.Document.Leads.unique`, `ApiContract.Document.Leads.nodup` — content and names are
  determined, and no name is met twice;
* `ApiContract.Document.resolve_eq_ok_iff`, `resolve_outcome_eq_error_iff` — **both ends of
  `resolve`, for every list of names already met**;
* `ApiContract.Document.Leads.related`, `Broken.related` — related schemas come to the same end.
-/

set_option autoImplicit false

namespace ApiContract

namespace Document

/-! ### One alias, and chains of them -/

/-- The schema is a reference to the definition `name`, which is `next`. -/
structure Alias (d : Document) (schema : Json) (name : String) (next : Json) : Prop where
  /-- The reference points at the name. -/
  target : (reference? schema).bind (target? "definitions") = some name
  /-- The name is defined. -/
  defined : d.definitions.get? name = some next

/-- The schema leads to `content`, which is no reference, through the definitions `names`. -/
inductive Leads (d : Document) : Json → List String → Json → Prop
  | content {schema : Json} : reference? schema = none → Leads d schema [] schema
  | step {schema next content : Json} {name : String} {names : List String} :
      d.Alias schema name next → Leads d next names content →
      Leads d schema (name :: names) content

/-- Following references from the schema ends in `fault`, when the names in `chain` were met. -/
inductive Broken (d : Document) : List String → Json → Fault → Prop
  /-- The reference points at no definition. -/
  | untargeted {chain : List String} {schema : Json} {reference : String} :
      reference? schema = some reference → target? "definitions" reference = none →
      Broken d chain schema (.unresolvedReference reference)
  /-- The definition was met before. -/
  | repeated {chain : List String} {schema : Json} {name : String} :
      (reference? schema).bind (target? "definitions") = some name → name ∈ chain →
      Broken d chain schema (.cyclicReference (chain ++ [name]))
  /-- The definition is missing. -/
  | undefined {chain : List String} {schema : Json} {name : String} :
      (reference? schema).bind (target? "definitions") = some name → name ∉ chain →
      d.definitions.get? name = none →
      Broken d chain schema (.unresolvedReference ("#/definitions/" ++ name))
  | step {chain : List String} {schema next : Json} {name : String} {fault : Fault} :
      d.Alias schema name next → name ∉ chain → Broken d (chain ++ [name]) next fault →
      Broken d chain schema fault

variable {d : Document} {schema next content : Json} {name : String} {names chain met : List String}
  {fault : Fault}

theorem Alias.not_content (h : d.Alias schema name next) : reference? schema ≠ none := by
  intro hr
  simpa [hr] using h.target

theorem Alias.unique {name' : String} {next' : Json} (h : d.Alias schema name next)
    (h' : d.Alias schema name' next') : name = name' ∧ next = next' := by
  obtain rfl : name = name' := Option.some.inj (h.target.symm.trans h'.target)
  exact ⟨rfl, Option.some.inj (h.defined.symm.trans h'.defined)⟩

/-! ### Chains that end -/

theorem Leads.reference?_eq_none (h : d.Leads schema names content) :
    reference? content = none := by
  induction h with
  | content h => exact h
  | step _ _ ih => exact ih

theorem Leads.self (h : d.Leads schema names content) : d.Leads content [] content :=
  .content h.reference?_eq_none

/-- **Names and content are determined by the schema.** -/
theorem Leads.unique {names' : List String} {content' : Json} (h : d.Leads schema names content)
    (h' : d.Leads schema names' content') : names = names' ∧ content = content' := by
  induction h generalizing names' with
  | content h =>
      cases h' with
      | content _ => exact ⟨rfl, rfl⟩
      | step ha _ => exact absurd h ha.not_content
  | step ha _ ih =>
      cases h' with
      | content h => exact absurd h ha.not_content
      | step ha' h' =>
          obtain ⟨rfl, rfl⟩ := ha.unique ha'
          obtain ⟨rfl, rfl⟩ := ih h'
          exact ⟨rfl, rfl⟩

/-- From a definition on the way the rest of the way is left. -/
theorem Leads.of_mem (h : d.Leads schema names content) (hn : name ∈ names)
    (hd : d.definitions.get? name = some next) :
    ∃ rest, d.Leads next rest content ∧ rest.length < names.length := by
  induction h with
  | content => cases hn
  | @step schema' next' content' name' names' ha hl ih =>
      rcases List.mem_cons.1 hn with rfl | hn
      · obtain rfl : next' = next := Option.some.inj (ha.defined.symm.trans hd)
        exact ⟨names', hl, by simp⟩
      · obtain ⟨rest, hrest, hlt⟩ := ih hn
        exact ⟨rest, hrest, by simp only [List.length_cons]; omega⟩

/-- **A chain that ends meets no name twice.** -/
theorem Leads.nodup (h : d.Leads schema names content) : names.Nodup := by
  induction h with
  | content => exact List.nodup_nil
  | @step schema' next' content' name' names' ha hl ih =>
      refine List.nodup_cons.2 ⟨fun hn => ?_, ih⟩
      -- a second visit would leave a shorter way from the same definition
      obtain ⟨rest, hrest, hlt⟩ := hl.of_mem hn ha.defined
      rw [(hl.unique hrest).1] at hlt
      exact Nat.lt_irrefl _ hlt

/-! ### The two ends of `resolve` -/

theorem resolve_of_untargeted {reference : String} (hr : reference? schema = some reference)
    (ht : target? "definitions" reference = none) :
    d.resolve chain schema = ⟨.error (.unresolvedReference reference), chain⟩ := by
  rw [resolve]
  simp [hr, ht]

theorem resolve_of_repeated (ht : (reference? schema).bind (target? "definitions") = some name)
    (hn : name ∈ chain) :
    d.resolve chain schema = ⟨.error (.cyclicReference (chain ++ [name])), []⟩ := by
  obtain ⟨reference, hr, ht⟩ := Option.bind_eq_some_iff.1 ht
  rw [resolve]
  simp [hr, ht, hn]

theorem resolve_of_undefined (ht : (reference? schema).bind (target? "definitions") = some name)
    (hn : name ∉ chain) (hd : d.definitions.get? name = none) :
    d.resolve chain schema =
      ⟨.error (.unresolvedReference ("#/definitions/" ++ name)), chain ++ [name]⟩ := by
  obtain ⟨reference, hr, ht⟩ := Option.bind_eq_some_iff.1 ht
  rw [resolve]
  simp only [hr, ht, hn, dite_false]
  split
  · rfl
  · next hsome =>
      rw [hd] at hsome
      cases hsome

/-- An alias whose name was not met is followed. -/
theorem resolve_of_alias (ha : d.Alias schema name next) (hn : name ∉ chain) :
    d.resolve chain schema = d.resolve (chain ++ [name]) next := by
  obtain ⟨reference, hr, ht⟩ := Option.bind_eq_some_iff.1 ha.target
  rw [resolve]
  simp only [hr, ht, hn, dite_false]
  split
  · next hd => simp [ha.defined] at hd
  · next hd => rw [Option.some.inj (ha.defined.symm.trans hd)]

/-- `resolve` ends at the content to which the schema leads, through names that were not met
before. -/
theorem resolve_eq_ok_iff :
    d.resolve chain schema = ⟨.ok content, met⟩ ↔
      ∃ names, d.Leads schema names content ∧ (∀ n ∈ names, n ∉ chain) ∧ met = chain ++ names := by
  constructor
  · intro h
    induction chain, schema using resolve.induct d with
    | case1 chain schema hr =>
        rw [resolve_of_not_reference hr] at h
        cases h
        exact ⟨[], .content hr, by simp, by simp⟩
    | case2 chain schema reference hr ht =>
        rw [resolve_of_untargeted hr ht] at h
        cases h
    | case3 chain schema reference hr name ht hn =>
        rw [resolve_of_repeated (by simp [hr, ht]) hn] at h
        cases h
    | case4 chain schema reference hr name ht hn hd =>
        rw [resolve_of_undefined (by simp [hr, ht]) hn hd] at h
        cases h
    | case5 chain schema reference hr name ht hn next hd _ ih =>
        have ha : d.Alias schema name next := ⟨by simp [hr, ht], hd⟩
        rw [resolve_of_alias ha hn] at h
        obtain ⟨names, hl, hnames, rfl⟩ := ih h
        refine ⟨name :: names, .step ha hl, ?_, by simp⟩
        intro n hmem
        rcases List.mem_cons.1 hmem with rfl | hmem
        · exact hn
        · exact fun hc => hnames n hmem (by simp [hc])
  · rintro ⟨names, hl, hnames, rfl⟩
    induction hl generalizing chain with
    | content hr => simpa using resolve_of_not_reference hr
    | @step schema' next' content' name' names' ha hl ih =>
        rw [resolve_of_alias ha (hnames name' (by simp)), ih, List.append_assoc]
        · rfl
        · -- the chain grows by a name that does not come again
          intro n hmem hc
          rcases List.mem_append.1 hc with hc | hc
          · exact hnames n (by simp [hmem]) hc
          · obtain rfl := List.mem_singleton.1 hc
            exact (List.nodup_cons.1 (Leads.step ha hl).nodup).1 hmem

/-- With nothing met before, `resolve` ends where the schema leads. -/
theorem resolve_nil_eq_ok_iff : d.resolve [] schema = ⟨.ok content, names⟩ ↔
    d.Leads schema names content := by
  simp [resolve_eq_ok_iff]

theorem resolve_outcome_eq_error_iff :
    (d.resolve chain schema).outcome = .error fault ↔ d.Broken chain schema fault := by
  constructor
  · intro h
    induction chain, schema using resolve.induct d with
    | case1 chain schema hr =>
        rw [resolve_of_not_reference hr] at h
        cases h
    | case2 chain schema reference hr ht =>
        rw [resolve_of_untargeted hr ht] at h
        obtain rfl := Except.error.inj h
        exact .untargeted hr ht
    | case3 chain schema reference hr name ht hn =>
        have ht : (reference? schema).bind (target? "definitions") = some name := by simp [hr, ht]
        rw [resolve_of_repeated ht hn] at h
        obtain rfl := Except.error.inj h
        exact .repeated ht hn
    | case4 chain schema reference hr name ht hn hd =>
        have ht : (reference? schema).bind (target? "definitions") = some name := by simp [hr, ht]
        rw [resolve_of_undefined ht hn hd] at h
        obtain rfl := Except.error.inj h
        exact .undefined ht hn hd
    | case5 chain schema reference hr name ht hn next hd _ ih =>
        have ha : d.Alias schema name next := ⟨by simp [hr, ht], hd⟩
        rw [resolve_of_alias ha hn] at h
        exact .step ha hn (ih h)
  · intro h
    induction h with
    | untargeted hr ht => rw [resolve_of_untargeted hr ht]
    | repeated ht hn => rw [resolve_of_repeated ht hn]
    | undefined ht hn hd => rw [resolve_of_undefined ht hn hd]
    | step ha hn _ ih => rw [resolve_of_alias ha hn, ih]

/-! ### One end or the other -/

theorem leads_or_broken (d : Document) (schema : Json) :
    (∃ names content, d.Leads schema names content) ∨ ∃ fault, d.Broken [] schema fault := by
  rcases h : d.resolve [] schema with ⟨fault | content, names⟩
  · exact .inr ⟨fault, resolve_outcome_eq_error_iff.1 (by rw [h])⟩
  · exact .inl ⟨names, content, resolve_nil_eq_ok_iff.1 h⟩

theorem Leads.not_broken (h : d.Leads schema names content) : ¬ d.Broken [] schema fault := by
  intro hb
  have hf := resolve_outcome_eq_error_iff.2 hb
  rw [resolve_nil_eq_ok_iff.2 h] at hf
  cases hf

theorem Broken.unique {fault' : Fault} (h : d.Broken chain schema fault)
    (h' : d.Broken chain schema fault') : fault = fault' := by
  have hf := resolve_outcome_eq_error_iff.2 h
  rw [resolve_outcome_eq_error_iff.2 h'] at hf
  exact (Except.error.inj hf).symm

/-! ### Two documents side by side -/

/-- Both documents define the same names, by schemas that are related. -/
def DefinitionsRelated (R : Json → Json → Prop) (d d' : Document) : Prop :=
  ∀ name, Option.Rel R (d.definitions.get? name) (d'.definitions.get? name)

section Related

variable {d' : Document} {schema' : Json} {R : Json → Json → Prop}
  (hdefs : DefinitionsRelated R d d')
  (href : ∀ {s s' : Json}, R s s' → reference? s' = reference? s)

include hdefs href

/-- An alias stays an alias of the same name. -/
theorem Alias.related (ha : d.Alias schema name next) (h : R schema schema') :
    ∃ next', d'.Alias schema' name next' ∧ R next next' := by
  rcases none_or_some_of_rel (hdefs name) with ⟨hnone, -⟩ | ⟨found, next', hfound, hdef, hnext⟩
  · rw [ha.defined] at hnone
    cases hnone
  · obtain rfl : found = next := Option.some.inj (hfound.symm.trans ha.defined)
    exact ⟨next', ⟨by rw [href h, ha.target], hdef⟩, hnext⟩

/-- Chains of aliases go through the same names, to related contents. -/
theorem Leads.related (hl : d.Leads schema names content) (h : R schema schema') :
    ∃ content', d'.Leads schema' names content' ∧ R content content' := by
  induction hl generalizing schema' with
  | content hr => exact ⟨schema', .content (by rw [href h, hr]), h⟩
  | step ha _ ih =>
      obtain ⟨next', ha', hnext⟩ := ha.related hdefs href h
      obtain ⟨content', hl', hc⟩ := ih hnext
      exact ⟨content', .step ha' hl', hc⟩

theorem Broken.related (hb : d.Broken chain schema fault) (h : R schema schema') :
    d'.Broken chain schema' fault := by
  induction hb generalizing schema' with
  | untargeted hr ht => exact .untargeted (by rw [href h, hr]) ht
  | repeated ht hn => exact .repeated (by rw [href h, ht]) hn
  | @undefined chain schema name ht hn hdef =>
      rcases none_or_some_of_rel (hdefs name) with ⟨-, hdef'⟩ | ⟨next, _, hsome, -⟩
      · exact .undefined (by rw [href h, ht]) hn hdef'
      · rw [hdef] at hsome
        cases hsome
  | step ha hn _ ih =>
      obtain ⟨next', ha', hnext⟩ := ha.related hdefs href h
      exact .step ha' hn (ih hnext)

end Related

end Document

end ApiContract
