import Mathlib.Data.List.Perm.Subperm
import ApiContract.Proofs.Document.Issue
import ApiContract.Proofs.Document.Site

/-
Which references are reported as issues.

Every reference that the walk through a document comes to is looked into, and is reported where it
does not resolve.  The issues about references are therefore those of sites, one for each and in
order.  They leave out what the walk leaves out: below a field `$ref` that holds an object or an
array, as the schema of a property of that name does, nothing is reported.

Main definitions:

* `ApiContract.Document.Resolves`, `Blames` — a reference resolves, or why it does not;
* `ApiContract.Document.referenceIssues` — the issues about references;
* `ApiContract.Document.ReportsEach` — these issues are those of given sites, one for each and in
  order.

Main results:

* `ApiContract.Document.referenceDefect?_eq_some_iff`, `referenceDefect?_eq_none_iff` — what is
  found when a reference is looked into;
* `ApiContract.Document.reportsEach_exposed` — the exposed sites that do not resolve are reported;
* `ApiContract.Document.references_reported` — **every reference is reported as it should be,
  exactly if those below a field `$ref` resolve**.
-/

set_option autoImplicit false

namespace ApiContract

/-- The reference with a text, and nothing else. -/
def referenceNode (reference : String) : Json := .object [("$ref", .text reference)]

@[simp] theorem reference?_referenceNode (reference : String) :
    reference? (referenceNode reference) = some reference := rfl

/-- The issue is about a reference. -/
def Issue.concernsReference (issue : Issue) : Bool :=
  issue.defect.kind = "UnresolvedRef" || issue.defect.kind = "UnsupportedRef"

namespace Document

/-! ### Looking into a reference -/

/-- The reference leads to a schema, or it points at no definition and names a shared parameter. -/
inductive Resolves (d : Document) (reference : String) : Prop
  | schema {names : List String} {content : Json} :
      d.Leads (referenceNode reference) names content → Resolves d reference
  | parameter {name : String} {node : Json} :
      target? "definitions" reference = none → target? "parameters" reference = some name →
      d.parameters.get? name = some node → Resolves d reference

/-- Why a reference does not resolve. -/
inductive Blames (d : Document) (reference : String) : Defect → Prop
  /-- It points at nothing that it could point at. -/
  | unsupported :
      target? "definitions" reference = none → target? "parameters" reference = none →
      Blames d reference (.unsupportedReference reference)
  /-- It points at a definition, from which no schema is reached. -/
  | broken {name : String} {fault : Fault} :
      target? "definitions" reference = some name → d.Broken [] (referenceNode reference) fault →
      Blames d reference (.unresolvedReference fault)
  /-- It points at a shared parameter that is missing. -/
  | undefined {name : String} :
      target? "definitions" reference = none → target? "parameters" reference = some name →
      d.parameters.get? name = none →
      Blames d reference (.unresolvedReference (.unresolvedReference ("#/parameters/" ++ name)))

variable {d : Document} {reference : String} {defect : Defect} {issue : Issue} {s : Site}

theorem referenceDefect?_eq_some_iff :
    d.referenceDefect? reference = some defect ↔ d.Blames reference defect := by
  constructor
  · intro h
    unfold referenceDefect? at h
    split at h
    · next name ht =>
        split at h
        · cases h
        · next fault hfault =>
            cases h
            exact .broken ht (resolve_outcome_eq_error_iff.1 hfault)
    · next ht =>
        split at h
        · next name hname =>
            cases hn : d.parameters.get? name with
            | some node => simp [sharedParameter, hn] at h
            | none =>
                simp only [sharedParameter, hn, Option.some.injEq] at h
                exact h ▸ .undefined ht hname hn
        · next hname =>
            cases h
            exact .unsupported ht hname
  · rintro (⟨ht, hname⟩ | ⟨ht, hb⟩ | ⟨ht, hname, hn⟩)
    · simp only [referenceDefect?, ht, hname]
    · rw [← resolve_outcome_eq_error_iff, referenceNode] at hb
      simp only [referenceDefect?, ht, hb]
    · simp only [referenceDefect?, ht, hname, sharedParameter, hn]

theorem referenceDefect?_eq_none_iff :
    d.referenceDefect? reference = none ↔ d.Resolves reference := by
  constructor
  · intro h
    rcases d.leads_or_broken (referenceNode reference) with ⟨names, content, hl⟩ | ⟨fault, hb⟩
    · exact .schema hl
    · -- the reference has no definition as its target, or it would be blamed
      cases ht : target? "definitions" reference with
      | some name =>
          rw [referenceDefect?_eq_some_iff.2 (.broken ht hb)] at h
          cases h
      | none =>
          cases hname : target? "parameters" reference with
          | none =>
              rw [referenceDefect?_eq_some_iff.2 (.unsupported ht hname)] at h
              cases h
          | some name =>
              cases hn : d.parameters.get? name with
              | some node => exact .parameter ht hname hn
              | none =>
                  rw [referenceDefect?_eq_some_iff.2 (.undefined ht hname hn)] at h
                  cases h
  · rintro (hl | ⟨ht, hname, hn⟩)
    · exact referenceDefect?_of_leads (reference?_referenceNode reference) hl
    · simp only [referenceDefect?, ht, hname, sharedParameter, hn]

/-- **A reference resolves unless there is something to blame it for.** -/
theorem not_resolves_iff : ¬ d.Resolves reference ↔ ∃ defect, d.Blames reference defect := by
  rw [← referenceDefect?_eq_none_iff, ← ne_eq, Option.ne_none_iff_exists']
  simp only [referenceDefect?_eq_some_iff]

/-! ### The issues about references -/

/-- The issues about references, in the order of all issues. -/
def referenceIssues (d : Document) : List Issue := d.issues.filter Issue.concernsReference

/-- The issue is that of the site: it is located at the object, and has the blame of the
reference. -/
structure Reports (d : Document) (issue : Issue) (s : Site) : Prop where
  location : issue.location = s.locationFrom "#"
  defect : d.Blames s.reference issue.defect

/-- The issues about references are those of the sites for which `P` holds, one for each, in the
order of the text. -/
def ReportsEach (d : Document) (P : Site → Prop) : Prop :=
  ∃ sites : List Site, sites.Pairwise Site.Before ∧ (∀ s, s ∈ sites ↔ P s) ∧
    List.Forall₂ d.Reports d.referenceIssues sites

theorem Blames.concernsReference (h : d.Blames reference issue.defect) :
    issue.concernsReference = true := by
  generalize hdefect : issue.defect = defect at h
  cases h <;> simp [Issue.concernsReference, hdefect, Defect.kind]

theorem not_concernsReference_of_mem_parameterIssues {location : String}
    {outcome : Except Fault (List Parameter)} (h : issue ∈ parameterIssues location outcome) :
    issue.concernsReference = false := by
  unfold parameterIssues at h
  split at h
  · cases h
  · obtain rfl := List.mem_singleton.1 h
    rfl
  · obtain ⟨p, -, rfl⟩ := List.mem_map.1 h
    rfl

theorem not_concernsReference_of_mem_operationIssues {template : String} {item : Fields}
    {entry : String × Json} (h : issue ∈ d.operationIssues template item entry) :
    issue.concernsReference = false := by
  unfold operationIssues at h
  split at h
  · split at h
    · exact not_concernsReference_of_mem_parameterIssues h
    · obtain rfl := List.mem_singleton.1 h
      rfl
  · cases h

/-- The first pass has no issues about references. -/
theorem not_concernsReference_of_mem_pathIssues {entry : String × Json}
    (h : issue ∈ d.pathIssues entry) : issue.concernsReference = false := by
  have hslash : ∀ issue ∈ (if entry.1.toList.head? = some '/' then []
      else [⟨"#/paths/" ++ entry.1, .invalidPath⟩] : List Issue),
      issue.concernsReference = false := by
    intro issue h
    split at h
    · cases h
    · obtain rfl := List.mem_singleton.1 h
      rfl
  obtain ⟨template, node⟩ := entry
  cases node with
  | object item =>
      simp only [pathIssues, List.mem_append] at h
      rcases h with h | h
      · exact hslash _ h
      · obtain ⟨field, -, h⟩ := List.mem_flatMap.1 h
        exact not_concernsReference_of_mem_operationIssues h
  | _ =>
      simp only [pathIssues, List.mem_append, List.mem_singleton] at h
      rcases h with h | rfl
      · exact hslash _ h
      · rfl

theorem referenceIssue?_eq_some_iff {located : String × String} :
    d.referenceIssue? located = some issue ↔
      issue.location = located.1 ∧ d.Blames located.2 issue.defect := by
  rw [referenceIssue?, ← referenceDefect?_eq_some_iff]
  cases d.referenceDefect? located.2 <;> cases issue <;> simp [eq_comm]

/-- The second pass has no others. -/
theorem referenceIssues_eq (d : Document) :
    d.referenceIssues = d.references.filterMap d.referenceIssue? := by
  rw [referenceIssues, issues, List.filter_append, List.filter_eq_nil_iff.2, List.nil_append,
    List.filter_eq_self]
  · intro issue h
    obtain ⟨located, -, h⟩ := List.mem_filterMap.1 h
    exact (referenceIssue?_eq_some_iff.1 h).2.concernsReference
  · intro issue h
    obtain ⟨entry, -, h⟩ := List.mem_flatMap.1 h
    simp [not_concernsReference_of_mem_pathIssues h]

/-! ### The sites that are reported -/

/-- Of a list of sites, those that do not resolve are reported. -/
theorem forall₂_reports (d : Document) (sites : List Site) :
    List.Forall₂ d.Reports
      ((sites.map fun s => (s.locationFrom "#", s.reference)).filterMap d.referenceIssue?)
      (sites.filter fun s => (d.referenceDefect? s.reference).isSome) := by
  induction sites with
  | nil => exact .nil
  | cons s sites ih =>
      rw [List.map_cons]
      cases hdefect : d.referenceDefect? s.reference with
      | none =>
          rw [List.filterMap_cons_none (by simp [referenceIssue?, hdefect]),
            List.filter_cons_of_neg (by simp [hdefect])]
          exact ih
      | some defect =>
          have hissue : d.referenceIssue? (s.locationFrom "#", s.reference) =
              some ⟨s.locationFrom "#", defect⟩ := by simp [referenceIssue?, hdefect]
          rw [List.filterMap_cons_some hissue, List.filter_cons_of_pos (by simp [hdefect])]
          exact .cons ⟨rfl, referenceDefect?_eq_some_iff.1 hdefect⟩ ih

/-- **The exposed sites that do not resolve are reported**, one by one and in order. -/
theorem reportsEach_exposed (d : Document) :
    d.ReportsEach fun s => d.Carries s ∧ s.Exposed ∧ ¬ d.Resolves s.reference := by
  obtain ⟨sites, hordered, hmem, hfound⟩ := d.lists_references
  refine ⟨sites.filter fun s => (d.referenceDefect? s.reference).isSome, hordered.filter _,
    fun s => ?_, ?_⟩
  · rw [List.mem_filter, hmem, Option.isSome_iff_ne_none, ne_eq, referenceDefect?_eq_none_iff,
      and_assoc]
  · rw [referenceIssues_eq, hfound]
    exact forall₂_reports d sites

/-- **An issue about a reference is that of an exposed site.** -/
theorem mem_referenceIssues_iff :
    issue ∈ d.referenceIssues ↔ ∃ s, d.Carries s ∧ s.Exposed ∧ d.Reports issue s := by
  obtain ⟨sites, -, hmem, hfound⟩ := d.lists_references
  rw [referenceIssues_eq, hfound, List.mem_filterMap]
  constructor
  · rintro ⟨located, hlocated, hissue⟩
    obtain ⟨s, hs, rfl⟩ := List.mem_map.1 hlocated
    obtain ⟨hlocation, hblames⟩ := referenceIssue?_eq_some_iff.1 hissue
    exact ⟨s, ((hmem s).1 hs).1, ((hmem s).1 hs).2, hlocation, hblames⟩
  · rintro ⟨s, hs, hexposed, hlocation, hblames⟩
    exact ⟨_, List.mem_map_of_mem ((hmem s).2 ⟨hs, hexposed⟩),
      referenceIssue?_eq_some_iff.2 ⟨hlocation, hblames⟩⟩

/-- Of two kinds of sites that are reported, none can be larger than the other. -/
theorem ReportsEach.of_imp {P Q : Site → Prop} (hP : d.ReportsEach P) (hQ : d.ReportsEach Q)
    (hPQ : ∀ s, P s → Q s) (hs : Q s) : P s := by
  obtain ⟨sites, hordered, hmem, hreports⟩ := hP
  obtain ⟨sites', -, hmem', hreports'⟩ := hQ
  have hnodup : sites.Nodup := hordered.imp Site.Before.ne
  have hsub : sites ⊆ sites' := fun s hs => (hmem' s).2 (hPQ s ((hmem s).1 hs))
  -- both have as many sites as there are issues
  have hlength : sites'.length = sites.length :=
    hreports'.length_eq.symm.trans hreports.length_eq
  have hperm := (hnodup.subperm hsub).perm_of_length_le (Nat.le_of_eq hlength)
  exact (hmem s).1 (hperm.mem_iff.2 ((hmem' s).2 hs))

/-- Every reference is reported as it should be, exactly if those that are not exposed resolve. -/
theorem reportsEach_iff :
    (d.ReportsEach fun s => d.Carries s ∧ ¬ d.Resolves s.reference) ↔
      ∀ s, d.Carries s → s.Exposed ∨ d.Resolves s.reference := by
  constructor
  · intro h s hs
    by_cases hr : d.Resolves s.reference
    · exact .inr hr
    · exact .inl (d.reportsEach_exposed.of_imp h (fun _ hs => ⟨hs.1, hs.2.2⟩) ⟨hs, hr⟩).2.1
  · intro h
    obtain ⟨sites, hordered, hmem, hreports⟩ := d.reportsEach_exposed
    refine ⟨sites, hordered, fun s => (hmem s).trans ⟨fun hs => ⟨hs.1, hs.2.2⟩, fun hs => ?_⟩,
      hreports⟩
    exact ⟨hs.1, (h s hs.1).resolve_right hs.2, hs.2⟩

/-- **The issues about references** are those of the exposed sites that do not resolve, one for each
and in the order of the text.  They are those of all sites that do not resolve exactly if every
reference below a field `$ref` resolves.  An object that repeats no key has one site. -/
theorem references_reported (d : Document) :
    (d.ReportsEach fun s => d.Carries s ∧ s.Exposed ∧ ¬ d.Resolves s.reference) ∧
    ((d.ReportsEach fun s => d.Carries s ∧ ¬ d.Resolves s.reference) ↔
      ∀ s, d.Carries s → s.Exposed ∨ d.Resolves s.reference) ∧
    ((∀ part ∈ d.sections, (Json.object part.2).KeysDistinct) →
      ∀ s s', d.Carries s → d.Carries s' → s.address.dropLast = s'.address.dropLast → s = s') :=
  ⟨d.reportsEach_exposed, reportsEach_iff, fun hd _ _ hs hs' => hs.eq_of_object hs' hd⟩

/-! ### A property with the name of a reference -/

/-- The schema of a property that is called `$ref` refers to no definition. -/
def oddSchema : Json :=
  .object [("properties", .object [("$ref", referenceNode "#/definitions/Ghost")])]

/-- A document with that schema. -/
def oddDocument : Document where
  paths := []
  definitions := [("Odd", oddSchema)]
  parameters := []
  others := []

/-- **A reference that does not resolve and is not reported.** -/
theorem not_reportsEach_oddDocument :
    oddDocument.issues = [] ∧
      ¬ oddDocument.ReportsEach fun s =>
        oddDocument.Carries s ∧ ¬ oddDocument.Resolves s.reference := by
  refine ⟨rfl, fun h => ?_⟩
  have hcarries : oddDocument.Carries ⟨[1, 0, 0, 0, 0],
      [.key "definitions", .key "Odd", .key "properties", .key "$ref"], "#/definitions/Ghost"⟩ :=
    @Carries.inside _ 1 0 _ _ _ _ _ rfl rfl
      (@Json.Carries.inside _ _ 0 _ _ rfl (@Json.Carries.inside _ _ 0 _ _ rfl
        (@Json.Carries.here _ 0 _ rfl)))
  have hblames : oddDocument.Blames "#/definitions/Ghost"
      (.unresolvedReference (.unresolvedReference "#/definitions/Ghost")) :=
    @Blames.broken _ _ "Ghost" _ (by decide)
      (@Broken.undefined _ _ _ "Ghost" (by decide) (by simp) rfl)
  rcases reportsEach_iff.1 h _ hcarries with hexposed | hresolves
  · exact hexposed (by decide)
  · exact not_resolves_iff.2 ⟨_, hblames⟩ hresolves

end Document

end ApiContract
