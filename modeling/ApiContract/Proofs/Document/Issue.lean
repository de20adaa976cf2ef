import ApiContract.Document.Issue
import ApiContract.Proofs.Document.Alias
import ApiContract.Proofs.FirstFailure

/-
What a document without issues is known to satisfy.

The first pass over a document tells something of every operation, the second of every reference
that it collects.  Here both are turned into facts about look-ups, which is how validation reaches
operations and schemas.

Main definitions:

* `ApiContract.Json.Refers` — some object in a value carries a reference;
* `ApiContract.Document.Collected` — a reference is among those of the document.

Main results:

* `ApiContract.Json.Refers.exists_mem_references` — every object that carries a reference outside
  the values of `$ref` is collected;
* `ApiContract.Document.item_of_issues_eq_nil`, `operation_of_issues_eq_nil` — the shapes of path
  items and operations;
* `ApiContract.Document.operationParameters_of_issues_eq_nil` — **the parameters of an operation can
  be read and its bodies have schemas, unless a parameter reference is unresolved**;
* `ApiContract.Document.leads_or_shared_of_collected` — **a collected reference leads to a schema,
  or names a shared parameter**.
-/

set_option autoImplicit false

namespace ApiContract

/-! ### References inside a value -/

namespace Json

/-- Some object in the value carries the reference.  What stands under `$ref` is not looked into. -/
inductive Refers : Json → String → Prop
  | here {fields : Fields} {reference : String} :
      ("$ref", text reference) ∈ fields → Refers (object fields) reference
  | item {items : List Json} {v : Json} {reference : String} :
      v ∈ items → Refers v reference → Refers (array items) reference
  | field {fields : Fields} {key : String} {v : Json} {reference : String} :
      (key, v) ∈ fields → key ≠ "$ref" → Refers v reference → Refers (object fields) reference

/-- What is collected in an item is collected in the array. -/
theorem exists_mem_itemReferences {reference location : String} {index : Nat} {items : List Json}
    {v : Json} (hv : v ∈ items) (h : ∀ place, ∃ l, (l, reference) ∈ v.references place) :
    ∃ l, (l, reference) ∈ itemReferences location index items := by
  induction items generalizing index with
  | nil => cases hv
  | cons w items ih =>
      simp only [itemReferences, List.mem_append]
      rcases List.mem_cons.1 hv with rfl | hv
      · obtain ⟨l, hl⟩ := h s!"{location}/{index}"
        exact ⟨l, .inl hl⟩
      · obtain ⟨l, hl⟩ := @ih (index + 1) hv
        exact ⟨l, .inr hl⟩

/-- The references of the fields are those of each field. -/
theorem mem_fieldReferences {located : String × String} {location : String} {fields : Fields} :
    located ∈ fieldReferences location fields ↔
      ∃ key v, (key, v) ∈ fields ∧
        located ∈ if key = "$ref" then (v.text?.map fun r => (location, r)).toList
          else references s!"{location}/{key}" v := by
  induction fields with
  | nil => simp [fieldReferences]
  | cons entry fields ih =>
      obtain ⟨key, v⟩ := entry
      simp only [fieldReferences, List.mem_append, ih, List.mem_cons, Prod.mk.injEq]
      constructor
      · rintro (h | ⟨key', v', hmem, h⟩)
        · exact ⟨key, v, .inl ⟨rfl, rfl⟩, h⟩
        · exact ⟨key', v', .inr hmem, h⟩
      · rintro ⟨key', v', ⟨rfl, rfl⟩ | hmem, h⟩
        · exact .inl h
        · exact .inr ⟨key', v', hmem, h⟩

/-- Every object that carries a reference is collected, at some location. -/
theorem Refers.exists_mem_references {v : Json} {reference : String} (h : v.Refers reference)
    (location : String) : ∃ l, (l, reference) ∈ v.references location := by
  induction h generalizing location with
  | here hmem =>
      refine ⟨location, ?_⟩
      rw [references, mem_fieldReferences]
      exact ⟨_, _, hmem, by simp [text?]⟩
  | @item items v reference hmem _ ih =>
      rw [references]
      exact exists_mem_itemReferences hmem ih
  | @field fields key v reference hmem hk _ ih =>
      obtain ⟨l, hl⟩ := ih s!"{location}/{key}"
      refine ⟨l, ?_⟩
      rw [references, mem_fieldReferences]
      exact ⟨key, v, hmem, by rwa [if_neg hk]⟩

end Json

namespace Document

variable {d : Document} {template key reference : String} {item op fields : Fields}
  {v schema content : Json} {names : List String}

/-! ### References of the document -/

/-- The reference is among those of the document, at some location. -/
def Collected (d : Document) (reference : String) : Prop :=
  ∃ location, (location, reference) ∈ d.references

theorem exists_mem_sectionReferences {part : Fields} (location : String) (hmem : (key, v) ∈ part)
    (h : v.Refers reference) : ∃ l, (l, reference) ∈ sectionReferences location part := by
  obtain ⟨l, hl⟩ := h.exists_mem_references s!"{location}/{key}"
  exact ⟨l, List.mem_flatMap.2 ⟨(key, v), hmem, hl⟩⟩

theorem collected_of_paths (hmem : (key, v) ∈ d.paths) (h : v.Refers reference) :
    d.Collected reference := by
  obtain ⟨l, hl⟩ := exists_mem_sectionReferences "#/paths" hmem h
  exact ⟨l, by simp [references, hl]⟩

theorem collected_of_definitions (hmem : (key, v) ∈ d.definitions) (h : v.Refers reference) :
    d.Collected reference := by
  obtain ⟨l, hl⟩ := exists_mem_sectionReferences "#/definitions" hmem h
  exact ⟨l, by simp [references, hl]⟩

/-- A node that is a reference carries it. -/
theorem refers_of_reference? (h : reference? v = some reference) : v.Refers reference := by
  obtain ⟨w, hw, hr⟩ := Option.bind_eq_some_iff.1 h
  cases v with
  | object fields =>
      cases w with
      | text s =>
          obtain rfl : s = reference := Option.some.inj hr
          exact .here (Fields.mem_of_get?_eq_some hw)
      | _ => cases hr
  | _ => cases hw

/-! ### Chains from a reference alone -/

/-- Of a reference only its text counts. -/
theorem Alias.of_reference? {next : Json} {name : String} (hv : reference? v = some reference)
    (hs : reference? schema = some reference) (h : d.Alias v name next) :
    d.Alias schema name next :=
  ⟨by rw [hs, ← hv]; exact h.target, h.defined⟩

theorem Leads.of_reference? (hv : reference? v = some reference)
    (hs : reference? schema = some reference) (h : d.Leads v names content) :
    d.Leads schema names content := by
  cases h with
  | content hr => rw [hv] at hr; cases hr
  | step ha hl => exact .step (ha.of_reference? hv hs) hl

/-! ### A document without issues -/

theorem issues_eq_nil_iff :
    d.issues = [] ↔ (∀ entry ∈ d.paths, d.pathIssues entry = []) ∧
      ∀ located ∈ d.references, d.referenceDefect? located.2 = none := by
  simp [issues, referenceIssue?]

/-- A reference that leads to a schema points at a definition. -/
theorem Leads.exists_target (hl : d.Leads schema names content)
    (hs : reference? schema = some reference) :
    ∃ name, target? "definitions" reference = some name := by
  cases hl with
  | content hr => rw [hs] at hr; cases hr
  | step ha _ =>
      have ht := ha.target
      rw [hs] at ht
      exact ⟨_, ht⟩

/-- A reference that leads to a schema has no defect. -/
theorem referenceDefect?_of_leads (hs : reference? schema = some reference)
    (hl : d.Leads schema names content) : d.referenceDefect? reference = none := by
  have hr : reference? (.object [("$ref", .text reference)]) = some reference := rfl
  obtain ⟨name, ht⟩ := hl.exists_target hs
  have hresolve := resolve_nil_eq_ok_iff.2 (hl.of_reference? hs hr)
  simp only [referenceDefect?, ht, hresolve]

section Clean

variable (hd : d.issues = [])

include hd

/-- **A collected reference leads to a schema, or names a shared parameter.** -/
theorem leads_or_shared_of_collected (h : d.Collected reference)
    (hs : reference? schema = some reference) :
    (∃ names content, d.Leads schema names content) ∨
      (target? "definitions" reference = none ∧
        ∃ name node, target? "parameters" reference = some name ∧
          d.parameters.get? name = some node) := by
  obtain ⟨location, hmem⟩ := h
  have hdefect := (issues_eq_nil_iff.1 hd).2 _ hmem
  have hr : reference? (.object [("$ref", .text reference)]) = some reference := rfl
  simp only [referenceDefect?] at hdefect
  split at hdefect
  · -- the pass resolves a schema of its own that holds the reference and nothing else
    rcases d.leads_or_broken (.object [("$ref", .text reference)]) with
      ⟨names, content, hl⟩ | ⟨fault, hb⟩
    · exact .inl ⟨names, content, hl.of_reference? hr hs⟩
    · rw [resolve_outcome_eq_error_iff.2 hb] at hdefect
      cases hdefect
  · next htarget =>
      refine .inr ⟨htarget, ?_⟩
      split at hdefect
      · next name hname =>
          refine ⟨name, ?_⟩
          cases hnode : d.parameters.get? name with
          | some node => exact ⟨node, hname, rfl⟩
          | none => simp [sharedParameter, hnode] at hdefect
      · cases hdefect

theorem item_of_issues_eq_nil (hmem : (template, v) ∈ d.paths) : ∃ item, v = .object item := by
  have hpath := (issues_eq_nil_iff.1 hd).1 _ hmem
  cases v with
  | object item => exact ⟨item, rfl⟩
  | _ => simp [pathIssues] at hpath

theorem operationIssues_of_issues_eq_nil (hmem : (template, .object item) ∈ d.paths)
    (hv : (key, v) ∈ item) : d.operationIssues template item (key, v) = [] := by
  have hpath := (issues_eq_nil_iff.1 hd).1 _ hmem
  simp only [pathIssues, List.append_eq_nil_iff, List.flatMap_eq_nil_iff] at hpath
  exact hpath.2 _ hv

theorem operation_of_issues_eq_nil (hmem : (template, .object item) ∈ d.paths)
    (hv : (key, v) ∈ item) (hk : key ∈ operationKeys) : ∃ op, v = .object op := by
  have hop := operationIssues_of_issues_eq_nil hd hmem hv
  cases v with
  | object op => exact ⟨op, rfl⟩
  | _ => simp [operationIssues, hk] at hop

/-- **The parameters of an operation can be read and its bodies have schemas, unless a parameter
reference is unresolved.** -/
theorem operationParameters_of_issues_eq_nil (hmem : (template, .object item) ∈ d.paths)
    (hv : (key, .object op) ∈ item) (hk : key ∈ operationKeys) :
    (∃ reference, d.operationParameters template item key op =
        .error (.unresolvedReference reference)) ∨
      ∃ ps, d.operationParameters template item key op = .ok ps ∧
        ∀ p ∈ ps, p.place = some .body → ∃ schema, p.schema = some schema := by
  have hop := operationIssues_of_issues_eq_nil hd hmem hv
  simp only [operationIssues, if_pos hk] at hop
  cases hp : d.operationParameters template item key op with
  | error fault =>
      rw [hp] at hop
      -- only an unresolved reference is left to the other pass
      cases fault with
      | unresolvedReference reference => exact .inl ⟨reference, rfl⟩
      | _ => simp [parameterIssues] at hop
  | ok ps =>
      rw [hp] at hop
      refine .inr ⟨ps, rfl, fun p hmem hbody => ?_⟩
      cases hs : p.schema with
      | some schema => exact ⟨schema, rfl⟩
      | none =>
          simp only [parameterIssues, List.map_eq_nil_iff, List.filter_eq_nil_iff] at hop
          exact absurd (by simp [hbody, hs]) (hop p hmem)

end Clean

end Document

end ApiContract
