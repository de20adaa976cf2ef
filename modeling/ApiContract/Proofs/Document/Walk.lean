import Mathlib.Data.List.Chain
import ApiContract.Proofs.Document.Alias

/-
The walk along aliases: how far following references comes, and what stops it.

`ApiContract.Document.Leads` and `Broken` tell where a schema ends up.  Here the way is told too:
the names of the definitions that are met, one after the other, until there is content, or a name
comes back, or a reference points at nothing.  Since no name is met twice before that, there are at
most as many rounds as definitions, and one more.

Main definitions:

* `ApiContract.Document.Walk` — references lead from a schema through defined names to another one;
* `ApiContract.Document.Fresh` — names that differ from each other and from those met before;
* `ApiContract.Document.Links` — a definition refers to another one;
* `ApiContract.Document.DeadEnd` — the walk comes to a reference that points at nothing;
* `ApiContract.Document.round`, `resolveIn` — one round of following aliases, and a bounded number.

Main results:

* `ApiContract.Document.resolveIn_eq_resolve` — **one round more than there are definitions is
  always enough**;
* `ApiContract.Document.cyclic_iff_walk`, `unresolved_iff_walk` — what stops a walk;
* `ApiContract.Document.resolve_ends` — **every end of `resolve`, by the walk**.
-/

set_option autoImplicit false

namespace ApiContract

namespace Document

/-! ### The walk -/

/-- Following references from the schema meets the definitions `names`, and comes to `last`. -/
inductive Walk (d : Document) : Json → List String → Json → Prop
  | here (schema : Json) : Walk d schema [] schema
  | step {schema next last : Json} {name : String} {names : List String} :
      d.Alias schema name next → Walk d next names last → Walk d schema (name :: names) last

/-- The names differ from each other, and none of them is in `chain`. -/
structure Fresh (chain names : List String) : Prop where
  nodup : names.Nodup
  unmet : ∀ name ∈ names, name ∉ chain

/-- The definition `name` is a reference to `next`. -/
def Links (d : Document) (name next : String) : Prop :=
  ∃ schema, d.definitions.get? name = some schema ∧
    (reference? schema).bind (target? "definitions") = some next

/-- After names that were not met before comes a reference that points at nothing; the fault tells
it by the text `reference`. -/
inductive DeadEnd (d : Document) (chain : List String) (schema : Json) (reference : String) : Prop
  /-- It points at no definition. -/
  | untargeted {names : List String} {last : Json} :
      d.Walk schema names last → Fresh chain names → reference? last = some reference →
      target? "definitions" reference = none → DeadEnd d chain schema reference
  /-- It points at a definition that is missing. -/
  | undefined {names : List String} {last : Json} {name : String} :
      d.Walk schema names last → Fresh chain names →
      (reference? last).bind (target? "definitions") = some name → name ∉ chain ++ names →
      d.definitions.get? name = none → reference = "#/definitions/" ++ name →
      DeadEnd d chain schema reference

variable {d : Document} {schema next last content : Json} {name reference : String}
  {names chain met : List String}

theorem fresh_nil : Fresh chain [] := ⟨List.nodup_nil, by simp⟩

/-- The first of new names is met before the others. -/
theorem fresh_cons_iff :
    Fresh chain (name :: names) ↔ name ∉ chain ∧ Fresh (chain ++ [name]) names := by
  constructor
  · rintro ⟨hn, hu⟩
    obtain ⟨hname, hn⟩ := List.nodup_cons.1 hn
    refine ⟨hu name (by simp), hn, fun n hmem hc => ?_⟩
    rcases List.mem_append.1 hc with hc | hc
    · exact hu n (by simp [hmem]) hc
    · obtain rfl := List.mem_singleton.1 hc
      exact hname hmem
  · rintro ⟨hname, hn, hu⟩
    refine ⟨List.nodup_cons.2 ⟨fun hmem => hu name hmem (by simp), hn⟩, fun n hmem => ?_⟩
    rcases List.mem_cons.1 hmem with rfl | hmem
    · exact hname
    · exact fun hc => hu n hmem (by simp [hc])

theorem leads_iff_walk :
    d.Leads schema names content ↔ d.Walk schema names content ∧ reference? content = none := by
  constructor
  · intro h
    refine ⟨?_, h.reference?_eq_none⟩
    induction h with
    | content _ => exact .here _
    | step ha _ ih => exact .step ha ih
  · rintro ⟨h, hr⟩
    induction h with
    | here => exact .content hr
    | step ha _ ih => exact .step ha (ih hr)

/-- Each name that is met refers to the next one. -/
theorem Walk.isChain (h : d.Walk schema names last)
    (ht : (reference? last).bind (target? "definitions") = some name) :
    (names ++ [name]).IsChain d.Links ∧
      (reference? schema).bind (target? "definitions") = (names ++ [name]).head? := by
  induction h with
  | here => exact ⟨.singleton _, ht⟩
  | step ha _ ih =>
      obtain ⟨hchain, hhead⟩ := ih ht
      refine ⟨List.isChain_cons.2 ⟨fun next hnext => ?_, hchain⟩, ha.target⟩
      exact ⟨_, ha.defined, hhead.trans hnext⟩

/-! ### What stops a walk -/

/-- A walk over names not met before is followed to its last schema. -/
theorem Walk.resolve_eq (h : d.Walk schema names last) (hf : Fresh chain names) :
    d.resolve chain schema = d.resolve (chain ++ names) last := by
  induction h generalizing chain with
  | here => rw [List.append_nil]
  | step ha _ ih =>
      obtain ⟨hn, hf⟩ := fresh_cons_iff.1 hf
      rw [resolve_of_alias ha hn, ih hf, List.append_assoc]
      rfl

/-- `resolve` ends in a cycle when the first of the names that are not new comes after `names`. -/
theorem resolve_eq_cyclic_iff {loop : List String} :
    d.resolve chain schema = ⟨.error (.cyclicReference loop), met⟩ ↔
      met = [] ∧ ∃ names last name, d.Walk schema names last ∧ Fresh chain names ∧
        (reference? last).bind (target? "definitions") = some name ∧ name ∈ chain ++ names ∧
        loop = chain ++ names ++ [name] := by
  constructor
  · intro h
    have hb : d.Broken chain schema (.cyclicReference loop) :=
      resolve_outcome_eq_error_iff.1 (by rw [h])
    generalize hfault : Fault.cyclicReference loop = fault at hb
    induction hb with
    | untargeted => cases hfault
    | undefined => cases hfault
    | @repeated chain schema name ht hn =>
        cases hfault
        rw [resolve_of_repeated ht hn] at h
        refine ⟨by cases h; rfl, [], schema, name, .here schema, fresh_nil, ht, ?_, ?_⟩
        · simpa using hn
        · simp
    | @step chain schema next name fault ha hn _ ih =>
        rw [resolve_of_alias ha hn] at h
        obtain ⟨hmet, names, last, back, hw, hf, ht, hmem, rfl⟩ := ih h hfault
        refine ⟨hmet, name :: names, last, back, .step ha hw, fresh_cons_iff.2 ⟨hn, hf⟩, ht, ?_, ?_⟩
        · simpa using hmem
        · simp
  · rintro ⟨rfl, names, last, name, hw, hf, ht, hmem, rfl⟩
    rw [hw.resolve_eq hf, resolve_of_repeated ht hmem]

/-- A cycle is found as soon as the walk comes to any name a second time. -/
theorem cyclic_iff_walk :
    (∃ loop, (d.resolve chain schema).outcome = .error (.cyclicReference loop)) ↔
      ∃ names last name, d.Walk schema names last ∧
        (reference? last).bind (target? "definitions") = some name ∧ name ∈ chain ++ names := by
  constructor
  · rintro ⟨loop, h⟩
    obtain ⟨-, names, last, name, hw, -, ht, hmem, -⟩ :=
      resolve_eq_cyclic_iff.1 (show d.resolve chain schema = ⟨_, _⟩ by rw [← h])
    exact ⟨names, last, name, hw, ht, hmem⟩
  · rintro ⟨names, last, name, hw, ht, hmem⟩
    -- the walk may pass names met before; the first of them is what is found
    induction hw generalizing chain with
    | here => exact ⟨_, by rw [resolve_of_repeated ht (by simpa using hmem)]⟩
    | @step schema next last met names ha _ ih =>
        by_cases hn : met ∈ chain
        · exact ⟨_, by rw [resolve_of_repeated ha.target hn]⟩
        · rw [resolve_of_alias ha hn]
          exact ih ht (by simpa using hmem)

theorem unresolved_iff_walk :
    (d.resolve chain schema).outcome = .error (.unresolvedReference reference) ↔
      d.DeadEnd chain schema reference := by
  rw [resolve_outcome_eq_error_iff]
  constructor
  · intro hb
    generalize hfault : Fault.unresolvedReference reference = fault at hb
    induction hb with
    | repeated => cases hfault
    | untargeted hr ht =>
        cases hfault
        exact .untargeted (.here _) fresh_nil hr ht
    | undefined ht hn hd =>
        cases hfault
        exact .undefined (.here _) fresh_nil ht (by simpa using hn) hd rfl
    | step ha hn _ ih =>
        cases ih hfault with
        | untargeted hw hf hr ht =>
            exact .untargeted (.step ha hw) (fresh_cons_iff.2 ⟨hn, hf⟩) hr ht
        | undefined hw hf ht hmem hd heq =>
            refine .undefined (.step ha hw) (fresh_cons_iff.2 ⟨hn, hf⟩) ht ?_ hd heq
            simpa using hmem
  · intro h
    rw [← resolve_outcome_eq_error_iff]
    cases h with
    | untargeted hw hf hr ht => rw [hw.resolve_eq hf, resolve_of_untargeted hr ht]
    | undefined hw hf ht hmem hd heq => rw [hw.resolve_eq hf, resolve_of_undefined ht hmem hd, heq]

/-- Nothing else stops a walk. -/
theorem resolve_fault {fault : Fault} (h : (d.resolve chain schema).outcome = .error fault) :
    (∃ loop, fault = .cyclicReference loop) ∨
      ∃ reference, fault = .unresolvedReference reference := by
  have hb := resolve_outcome_eq_error_iff.1 h
  clear h
  induction hb with
  | untargeted => exact .inr ⟨_, rfl⟩
  | undefined => exact .inr ⟨_, rfl⟩
  | repeated => exact .inl ⟨_, rfl⟩
  | step _ _ _ ih => exact ih

/-! ### Rounds -/

/-- One round of following aliases: what the reference comes to, or the names met by then and the
schema to look at next. -/
def round (d : Document) (chain : List String) (reference : String) :
    Except Resolution (List String × Json) :=
  match target? "definitions" reference with
  | none => .error ⟨.error (.unresolvedReference reference), chain⟩
  | some name =>
    if name ∈ chain then .error ⟨.error (.cyclicReference (chain ++ [name])), []⟩
    else
      match d.definitions.get? name with
      | none => .error ⟨.error (.unresolvedReference ("#/definitions/" ++ name)), chain ++ [name]⟩
      | some next => .ok (chain ++ [name], next)

/-- Follows aliases for at most `rounds` rounds; nothing if they do not suffice. -/
def resolveIn (d : Document) (rounds : Nat) (chain : List String) (schema : Json) :
    Option Resolution :=
  match reference? schema with
  | none => some ⟨.ok schema, chain⟩
  | some reference =>
    match rounds with
    | 0 => none
    | rounds + 1 =>
      match d.round chain reference with
      | .error resolution => some resolution
      | .ok (chain, next) => d.resolveIn rounds chain next

/-- `resolve` takes one round after the other. -/
theorem resolve_eq_round (hr : reference? schema = some reference) :
    d.resolve chain schema =
      match d.round chain reference with
      | .error resolution => resolution
      | .ok (chain, next) => d.resolve chain next := by
  unfold round
  cases ht : target? "definitions" reference with
  | none => exact resolve_of_untargeted hr ht
  | some name =>
      have ht : (reference? schema).bind (target? "definitions") = some name := by simp [hr, ht]
      by_cases hn : name ∈ chain
      · simpa [hn] using resolve_of_repeated ht hn
      · cases hd : d.definitions.get? name with
        | none => simpa [hn, hd] using resolve_of_undefined ht hn hd
        | some next => simpa [hn, hd] using resolve_of_alias ⟨ht, hd⟩ hn

/-- A round that does not come to an end meets a definition that was not met before. -/
theorem unmet_lt_of_round (h : d.round chain reference = .ok (met, next)) :
    (d.unmet met).length < (d.unmet chain).length := by
  unfold round at h
  split at h
  · cases h
  · split at h
    · cases h
    · next hn =>
        split at h
        · cases h
        · next hd =>
            cases h
            exact unmet_length_lt hn hd

/-- As many rounds are enough as there are definitions not met yet, and one more. -/
theorem resolveIn_of_unmet {rounds : Nat} (h : (d.unmet chain).length < rounds) :
    d.resolveIn rounds chain schema = some (d.resolve chain schema) := by
  induction rounds generalizing chain schema with
  | zero => omega
  | succ rounds ih =>
      rw [resolveIn]
      cases hr : reference? schema with
      | none => simp only [resolve_of_not_reference hr]
      | some reference =>
          rw [resolve_eq_round hr]
          rcases hround : d.round chain reference with resolution | ⟨met, next⟩
          · simp only [hround]
          · have hlt := unmet_lt_of_round hround
            simp only [hround]
            exact ih (by omega)

theorem resolveIn_eq_resolve (d : Document) (chain : List String) (schema : Json) :
    d.resolveIn (d.definitions.length + 1) chain schema = some (d.resolve chain schema) := by
  have hle : (d.unmet chain).length ≤ d.definitions.length := by
    simpa [unmet, Fields.keys] using List.length_filter_le (· ∉ chain) d.definitions.keys
  exact resolveIn_of_unmet (by omega)

/-! ### Every end -/

/-- **Following aliases ends after at most one round more than there are definitions**: at content,
through new names; in a cycle, as soon as a name comes back; or at a reference that points at
nothing, whichever comes first.  Content is no reference and stays as it is. -/
theorem resolve_ends (d : Document) (chain : List String) (schema : Json) :
    d.resolveIn (d.definitions.length + 1) chain schema = some (d.resolve chain schema) ∧
    -- Content, with the names that were met behind those met before.
    (∀ content met, d.resolve chain schema = ⟨.ok content, met⟩ ↔
      ∃ names, d.Walk schema names content ∧ reference? content = none ∧ Fresh chain names ∧
        met = chain ++ names) ∧
    -- A cycle; its names are linked, and none is left in the chain.
    ((∃ loop, (d.resolve chain schema).outcome = .error (.cyclicReference loop)) ↔
      ∃ names last name, d.Walk schema names last ∧
        (reference? last).bind (target? "definitions") = some name ∧ name ∈ chain ++ names) ∧
    (∀ loop, (d.resolve chain schema).outcome = .error (.cyclicReference loop) →
      (d.resolve chain schema).chain = [] ∧
      ∃ names last name, d.Walk schema names last ∧ Fresh chain names ∧
        (reference? last).bind (target? "definitions") = some name ∧ name ∈ chain ++ names ∧
        loop = chain ++ names ++ [name] ∧ (names ++ [name]).IsChain d.Links) ∧
    -- A reference that points at nothing, and no other failure.
    (∀ reference, (d.resolve chain schema).outcome = .error (.unresolvedReference reference) ↔
      d.DeadEnd chain schema reference) ∧
    (∀ fault, (d.resolve chain schema).outcome = .error fault →
      (∃ loop, fault = .cyclicReference loop) ∨
        ∃ reference, fault = .unresolvedReference reference) ∧
    ∀ content, (d.resolve chain schema).outcome = .ok content →
      reference? content = none ∧ ∀ chain', d.resolve chain' content = ⟨.ok content, chain'⟩ := by
  refine ⟨resolveIn_eq_resolve d chain schema, fun content met => ?_, cyclic_iff_walk,
    fun loop h => ?_, fun reference => unresolved_iff_walk, fun fault => resolve_fault,
    fun content h => ?_⟩
  · rw [resolve_eq_ok_iff]
    constructor
    · rintro ⟨names, hl, hu, rfl⟩
      obtain ⟨hw, hr⟩ := leads_iff_walk.1 hl
      exact ⟨names, hw, hr, ⟨hl.nodup, hu⟩, rfl⟩
    · rintro ⟨names, hw, hr, hf, rfl⟩
      exact ⟨names, leads_iff_walk.2 ⟨hw, hr⟩, hf.unmet, rfl⟩
  · obtain ⟨hchain, names, last, name, hw, hf, ht, hmem, hloop⟩ :=
      resolve_eq_cyclic_iff.1 (show d.resolve chain schema = ⟨_, _⟩ by rw [← h])
    exact ⟨hchain, names, last, name, hw, hf, ht, hmem, hloop, (hw.isChain ht).1⟩
  · obtain ⟨names, hl, -, -⟩ :=
      resolve_eq_ok_iff.1 (show d.resolve chain schema = ⟨_, _⟩ by rw [← h])
    exact ⟨hl.reference?_eq_none, fun chain' => resolve_of_not_reference hl.reference?_eq_none⟩

end Document

end ApiContract
