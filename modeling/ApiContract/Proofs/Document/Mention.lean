import ApiContract.Proofs.Document.Suppression
import ApiContract.Proofs.Document.Target

/-
The references of a document, and how faults tell them.

A fault that is about a reference has a text for it.  Where the reference points at nothing that it
could point at, this is the text of the document.  Where it points at a definition or at a shared
parameter that is missing, the text is put together again from the name, and is the one of the
document only if that has the usual form.

Main definitions:

* `ApiContract.Json.Mentions`, `ApiContract.Document.Mentions` — a reference stands in an object at
  any depth;
* `ApiContract.Document.Covers` — all references of a value stand in the document;
* `ApiContract.Document.Tells` — the text by which a reference is told that points at nothing;
* `ApiContract.Document.Usual` — such a reference has the usual form.

Main results:

* `ApiContract.Json.mentions_iff`, `ApiContract.Document.mentions_iff` — references part by part;
* `ApiContract.Document.usual_iff` — **a reference in the usual form is told as it is written**;
* `ApiContract.Document.exists_tells_of_broken` — aliases that come to nothing end in a reference of
  the document;
* `ApiContract.Document.exists_tells_of_unreadable` — so do parameters that cannot be read;
* `ApiContract.Document.coversSchema_of_operationParameters` — the schemas of parameters are inside
  the document.
-/

set_option autoImplicit false

namespace ApiContract

/-! ### Mentions -/

/-- An object in the value, at any depth, carries the reference. -/
def Json.Mentions (v : Json) (reference : String) : Prop :=
  ∃ s, v.Carries s ∧ s.reference = reference

/-- An object in an entry of a section, at any depth, carries the reference. -/
def Document.Mentions (d : Document) (reference : String) : Prop :=
  ∃ s, d.Carries s ∧ s.reference = reference

/-- A reference stands right under a field `$ref`, or inside a part. -/
theorem Json.mentions_iff {v : Json} {reference : String} :
    v.Mentions reference ↔
      ∃ part ∈ v.parts, part = (.key "$ref", .text reference) ∨ part.2.Mentions reference := by
  constructor
  · rintro ⟨s, hs, rfl⟩
    cases hs with
    | here hp => exact ⟨_, List.mem_of_getElem? hp, .inl rfl⟩
    | inside hp hs => exact ⟨_, List.mem_of_getElem? hp, .inr ⟨_, hs, rfl⟩⟩
  · rintro ⟨⟨step, w⟩, hpart, hw⟩
    obtain ⟨number, hnumber⟩ := List.getElem?_of_mem hpart
    rcases hw with heq | ⟨s, hs, rfl⟩
    · exact ⟨_, .here (heq ▸ hnumber), rfl⟩
    · exact ⟨_, .inside hnumber hs, rfl⟩

@[simp] theorem Json.mentions_object {fields : Fields} {reference : String} :
    (object fields).Mentions reference ↔
      ∃ field ∈ fields, field = ("$ref", .text reference) ∨ field.2.Mentions reference := by
  rw [mentions_iff]
  simp only [parts, List.mem_map, exists_exists_and_eq_and, Prod.mk.injEq, Step.key.injEq]
  exact exists_congr fun field => by rw [Prod.ext_iff]

@[simp] theorem Json.mentions_array {items : List Json} {reference : String} :
    (array items).Mentions reference ↔ ∃ item ∈ items, item.Mentions reference := by
  rw [mentions_iff]
  constructor
  · rintro ⟨part, hpart, hw⟩
    obtain ⟨item, hitem, rfl⟩ := List.mem_map.1 hpart
    exact ⟨item.1, List.fst_mem_of_mem_zipIdx hitem, hw.resolve_left (by simp)⟩
  · rintro ⟨item, hitem, hw⟩
    obtain ⟨index, hindex⟩ := List.getElem?_of_mem hitem
    exact ⟨(.index index, item),
      List.mem_map.2 ⟨(item, index), List.mk_mem_zipIdx_iff_getElem?.2 hindex, rfl⟩, .inr hw⟩

@[simp] theorem Json.not_mentions_text {content reference : String} :
    ¬ (text content).Mentions reference := by
  rw [mentions_iff]
  simp only [parts, List.not_mem_nil, false_and, exists_false, not_false_eq_true]

theorem Json.mentions_of_reference? {v : Json} {reference : String}
    (h : reference? v = some reference) : v.Mentions reference := by
  obtain ⟨s, hs, -, hreference⟩ := Json.exists_carries_of_reference? h
  exact ⟨s, hs, hreference⟩

namespace Document

variable {d : Document} {v w schema content : Json} {reference name key : String}
  {names : List String} {part fields : Fields}

theorem mentions_iff :
    d.Mentions reference ↔ ∃ part ∈ d.sections, ∃ entry ∈ part.2, entry.2.Mentions reference := by
  constructor
  · rintro ⟨s, hs, rfl⟩
    cases hs with
    | inside hpart hentry hs =>
        exact ⟨_, List.mem_of_getElem? hpart, _, List.mem_of_getElem? hentry, _, hs, rfl⟩
  · rintro ⟨⟨name, part⟩, hpart, ⟨key, v⟩, hentry, s, hs, rfl⟩
    obtain ⟨number, index, hcarries⟩ := Carries.of_mem hs hpart hentry
    exact ⟨_, hcarries, rfl⟩

/-! ### Values inside a document -/

/-- Every reference of the value stands in the document. -/
def Covers (d : Document) (v : Json) : Prop :=
  ∀ reference, v.Mentions reference → d.Mentions reference

theorem covers_of_mem (hpart : (name, part) ∈ d.sections) (h : (key, v) ∈ part) : d.Covers v :=
  fun _ hv => mentions_iff.2 ⟨_, hpart, _, h, hv⟩

theorem covers_pathItem (h : (name, v) ∈ d.paths) : d.Covers v :=
  have hpart : ("paths", d.paths) ∈ d.sections := by simp [sections]
  covers_of_mem hpart h

theorem covers_definition (h : d.definitions.get? name = some v) : d.Covers v :=
  have hpart : ("definitions", d.definitions) ∈ d.sections := by simp [sections]
  covers_of_mem hpart (Fields.mem_of_get?_eq_some h)

theorem covers_sharedParameter (h : d.parameters.get? name = some v) : d.Covers v :=
  have hpart : ("parameters", d.parameters) ∈ d.sections := by simp [sections]
  covers_of_mem hpart (Fields.mem_of_get?_eq_some h)

namespace Covers

theorem of_mem_fields (hv : d.Covers (.object fields)) (h : (key, w) ∈ fields) : d.Covers w :=
  fun _ hw => hv _ (Json.mentions_object.2 ⟨_, h, .inr hw⟩)

theorem of_mem_items {items : List Json} (hv : d.Covers (.array items)) (h : w ∈ items) :
    d.Covers w :=
  fun _ hw => hv _ (Json.mentions_array.2 ⟨w, h, hw⟩)

theorem get? (hv : d.Covers v) (h : v.get? key = some w) : d.Covers w := by
  cases v with
  | object fields => exact hv.of_mem_fields (Fields.mem_of_get?_eq_some h)
  | _ => cases h

theorem mentions (hv : d.Covers v) (h : reference? v = some reference) : d.Mentions reference :=
  hv _ (Json.mentions_of_reference? h)

end Covers

/-- Following aliases does not leave the document. -/
theorem Leads.covers (h : d.Leads schema names content) (hc : d.Covers schema) :
    d.Covers content := by
  induction h with
  | content _ => exact hc
  | step ha _ ih => exact ih (covers_definition ha.defined)

end Document

/-! ### Telling a reference -/

namespace Document

/-- The text by which the reference is told where it points at nothing. -/
inductive Tells (d : Document) (reference : String) : String → Prop
  /-- It is no reference to what is asked for, a definition or a shared parameter. -/
  | written {part : String} :
      part = "definitions" ∨ part = "parameters" → (∀ name, ¬ Spells part name reference) →
      Tells d reference reference
  /-- The definition is missing. -/
  | definition {name : String} :
      Spells "definitions" name reference → d.definitions.get? name = none →
      Tells d reference ("#/definitions/" ++ name)
  /-- The shared parameter is missing. -/
  | parameter {name : String} :
      Spells "parameters" name reference → d.parameters.get? name = none →
      Tells d reference ("#/parameters/" ++ name)

/-- If the reference points at a definition or a shared parameter that is missing, then it has the
usual form. -/
structure Usual (d : Document) (reference : String) : Prop where
  definition (name : String) : Spells "definitions" name reference →
    d.definitions.get? name = none → reference = "#/definitions/" ++ name
  parameter (name : String) : Spells "parameters" name reference →
    d.parameters.get? name = none → reference = "#/parameters/" ++ name

variable {d : Document} {schema : Json} {reference text template key : String}
  {chain : List String} {item op : Fields} {p : Parameter} {ps : List Parameter}

/-- **A reference is told as it is written exactly if it has the usual form.** -/
theorem usual_iff : d.Usual reference ↔ ∀ text, d.Tells reference text → text = reference := by
  constructor
  · intro hu text h
    cases h with
    | written => rfl
    | definition hs hn => exact (hu.definition _ hs hn).symm
    | parameter hs hn => exact (hu.parameter _ hs hn).symm
  · intro h
    exact ⟨fun _ hs hn => (h _ (.definition hs hn)).symm,
      fun _ hs hn => (h _ (.parameter hs hn)).symm⟩

/-- The usual forms are usual, whatever there is in the document. -/
theorem usual_forms (d : Document) {name : String} (hname : '/' ∉ name.toList) :
    d.Usual ("#/definitions/" ++ name) ∧ d.Usual ("#/parameters/" ++ name) := by
  have hdefinition : ∀ other found, other ≠ "#" →
      Spells other found ("#/definitions/" ++ name) → other = "definitions" ∧ found = name :=
    fun _ _ hother => @Spells.eq_of_usual "definitions" name _ _ hother (by decide) hname
  have hparameter : ∀ other found, other ≠ "#" →
      Spells other found ("#/parameters/" ++ name) → other = "parameters" ∧ found = name :=
    fun _ _ hother => @Spells.eq_of_usual "parameters" name _ _ hother (by decide) hname
  refine ⟨⟨fun found hs _ => ?_, fun found hs _ => ?_⟩, ⟨fun found hs _ => ?_, fun found hs _ => ?_⟩⟩
  · rw [(hdefinition _ _ (by decide) hs).2]
  · exact absurd (hdefinition _ _ (by decide) hs).1 (by decide)
  · exact absurd (hparameter _ _ (by decide) hs).1 (by decide)
  · rw [(hparameter _ _ (by decide) hs).2]

/-- Aliases of a covered schema that come to nothing end in a reference of the document. -/
theorem exists_tells_of_broken (h : d.Broken chain schema (.unresolvedReference text))
    (hc : d.Covers schema) : ∃ reference, d.Mentions reference ∧ d.Tells reference text := by
  generalize hfault : Fault.unresolvedReference text = fault at h
  induction h with
  | repeated => cases hfault
  | untargeted hr ht =>
      cases hfault
      exact ⟨_, hc.mentions hr, .written (.inl rfl) (target?_eq_none_iff.1 ht)⟩
  | undefined ht _ hd =>
      cases hfault
      obtain ⟨reference, hr, ht⟩ := Option.bind_eq_some_iff.1 ht
      exact ⟨reference, hc.mentions hr, .definition (target?_eq_some_iff.1 ht) hd⟩
  | step ha _ _ ih => exact ih (covers_definition ha.defined) hfault

/-- A declaration that is read has the schema of its node. -/
theorem schema_of_ofNode {node : Json} {location : String}
    (h : Parameter.ofNode location node = .ok p) : p.schema = node.get? "schema" := by
  unfold Parameter.ofNode at h
  split at h
  · split at h
    · cases h
    · cases h
      rfl
  · cases h

/-- The schema of the parameter, if it has one, is covered. -/
def CoversSchema (d : Document) (p : Parameter) : Prop :=
  ∀ schema, p.schema = some schema → d.Covers schema

theorem EntryDeclares.coversSchema {entry : Json} (h : d.EntryDeclares entry p)
    (hc : d.Covers entry) : d.CoversSchema p := by
  intro schema hs
  obtain ⟨node, hnode, hof⟩ := h
  rw [schema_of_ofNode (hof "")] at hs
  cases parameterNode_eq_ok_iff.1 hnode with
  | itself _ => exact hc.get? hs
  | shared _ _ hn => exact (covers_sharedParameter hn).get? hs

theorem coversSchema_of_entries {entries : List Json}
    (h : List.Forall₂ d.EntryDeclares entries ps) (hc : ∀ entry ∈ entries, d.Covers entry) :
    ∀ p ∈ ps, d.CoversSchema p := by
  induction h with
  | nil => simp
  | cons hp _ ih =>
      rw [List.forall_mem_cons] at hc ⊢
      exact ⟨hp.coversSchema hc.1, ih hc.2⟩

theorem Lists.coversSchema {owner : Fields} (h : d.Lists owner ps)
    (hc : d.Covers (.object owner)) : ∀ p ∈ ps, d.CoversSchema p := by
  cases h with
  | absent _ => simp
  | null _ => simp
  | entries hentries hps =>
      exact coversSchema_of_entries hps fun _ hentry => (hc.get? hentries).of_mem_items hentry

section Documented

variable (hitem : (template, .object item) ∈ d.paths) (hop : (key, .object op) ∈ item)

include hitem hop

/-- Parameters that cannot be read for want of a reference have one in the document. -/
theorem exists_tells_of_unreadable (hkey : key ∈ operationKeys)
    (h : d.operationParameters template item key op = .error (.unresolvedReference text)) :
    ∃ reference, d.Mentions reference ∧ d.Tells reference text := by
  obtain ⟨location, entry, hentry, hfaulty⟩ := exists_entryFaulty_of_unresolved h
  obtain ⟨reference, hr⟩ := hfaulty.exists_reference?
  obtain ⟨s, hs, -, -, rfl⟩ := hentry.exists_site hitem hop hkey hr
  refine ⟨s.reference, ⟨s, hs, rfl⟩, ?_⟩
  cases hfaulty with
  | untargeted hr' ht =>
      obtain rfl := Option.some.inj (hr.symm.trans hr')
      exact .written (.inr rfl) (target?_eq_none_iff.1 ht)
  | undefined hr' ht hn =>
      obtain rfl := Option.some.inj (hr.symm.trans hr')
      exact .parameter (target?_eq_some_iff.1 ht) hn

/-- **The schemas of the parameters of an operation are covered.** -/
theorem coversSchema_of_operationParameters
    (h : d.operationParameters template item key op = .ok ps) : ∀ p ∈ ps, d.CoversSchema p := by
  have hc : d.Covers (.object item) := covers_pathItem hitem
  obtain ⟨shared, hshared, h⟩ := FirstFailure.bind_eq_ok_iff.1 h
  obtain ⟨own, hown, h⟩ := FirstFailure.bind_eq_ok_iff.1 h
  cases h
  have hs := (ownParameters_eq_ok_iff.1 hshared).coversSchema hc
  have ho := (ownParameters_eq_ok_iff.1 hown).coversSchema (hc.of_mem_fields hop)
  exact Parameter.forall_merge hs ho

end Documented

end Document

end ApiContract
