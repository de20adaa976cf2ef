import ApiContract.Proofs.Document.Inspection
import ApiContract.Proofs.Document.Merging

/-
Parameter lists that cannot be read for want of a reference.

The first pass over a document is silent when the parameters of an operation cannot be read because
a reference is unresolved; it counts on the second pass to report the reference.  The second pass
accepts a reference to a definition wherever it stands, while an entry of a parameter list has to
name a shared parameter.  What the second pass reports of an entry, and what it passes over, is
stated here.

Main definitions:

* `ApiContract.Document.EntryAt` — the entries of the two parameter lists of an operation, by
  location;
* `ApiContract.Document.ReportedAt` — an issue at a location is about a reference.

Main results:

* `ApiContract.Document.reportedAt_iff` — an entry is reported exactly if it does not resolve;
* `ApiContract.Document.unreadable_reported_iff` — **what is reported of parameters that cannot be
  read for want of a reference**.
-/

set_option autoImplicit false

namespace ApiContract

namespace Document

/-- The entry stands in the parameter list of the path item or in that of the operation, at the
location. -/
inductive EntryAt (template key : String) (item op : Fields) : String → Json → Prop
  | shared {entries : List Json} {index : Nat} {entry : Json} :
      item.get? "parameters" = some (.array entries) → entries[index]? = some entry →
      EntryAt template key item op s!"#/paths/{template}/parameters/{index}" entry
  | own {entries : List Json} {index : Nat} {entry : Json} :
      op.get? "parameters" = some (.array entries) → entries[index]? = some entry →
      EntryAt template key item op s!"#/paths/{template}/{key}/parameters/{index}" entry

/-- One of the issues about references is located there, and has the blame of the reference. -/
def ReportedAt (d : Document) (location reference : String) : Prop :=
  ∃ issue ∈ d.referenceIssues, issue.location = location ∧ d.Blames reference issue.defect

variable {d : Document} {template key location reference text : String} {item op owner : Fields}
  {entry : Json} {entries : List Json}

/-! ### The sites of entries -/

/-- An entry that is a reference is a site of the object with the list. -/
theorem exists_carries_of_entry {index : Nat}
    (hentries : owner.get? "parameters" = some (.array entries))
    (hentry : entries[index]? = some entry) (hr : reference? entry = some reference) :
    ∃ s, (Json.object owner).Carries s ∧ s.steps = [.key "parameters", .index index] ∧
      s.reference = reference := by
  obtain ⟨s, hs, hsteps, hreference⟩ := Json.exists_carries_of_reference? hr
  obtain ⟨number, hnumber⟩ :=
    (hs.of_item hentry).of_mem_fields (Fields.mem_of_get?_eq_some hentries)
  exact ⟨_, hnumber, by simp [Site.under, hsteps], hreference⟩

section Documented

variable (hitem : (template, .object item) ∈ d.paths) (hop : (key, .object op) ∈ item)
  (hkey : key ∈ operationKeys)

include hitem hop hkey

/-- The entries of an operation are exposed to the second pass, at their locations. -/
theorem EntryAt.exists_site (h : EntryAt template key item op location entry)
    (hr : reference? entry = some reference) :
    ∃ s, d.Carries s ∧ s.Exposed ∧ s.locationFrom "#" = location ∧ s.reference = reference := by
  have hpaths : ("paths", d.paths) ∈ d.sections := by simp [sections]
  cases h with
  | shared hentries hentry =>
      obtain ⟨s, hs, hsteps, hreference⟩ := exists_carries_of_entry hentries hentry hr
      obtain ⟨number, index, hcarries⟩ := Carries.of_mem hs hpaths hitem
      refine ⟨_, hcarries, ?_, ?_, hreference⟩
      · simp [Site.Exposed, Site.under, hsteps]
      · apply String.toList_injective
        simp [Site.locationFrom, Site.under, hsteps, Json.Step.text, toString]
  | own hentries hentry =>
      -- the key of an operation is no `$ref`
      have hne : key ≠ "$ref" := by
        rintro rfl
        exact absurd hkey (by decide)
      obtain ⟨s, hs, hsteps, hreference⟩ := exists_carries_of_entry hentries hentry hr
      obtain ⟨position, hobject⟩ := hs.of_mem_fields hop
      obtain ⟨number, index, hcarries⟩ := Carries.of_mem hobject hpaths hitem
      refine ⟨_, hcarries, ?_, ?_, hreference⟩
      · simp [Site.Exposed, Site.under, hsteps, Ne.symm hne]
      · apply String.toList_injective
        simp [Site.locationFrom, Site.under, hsteps, Json.Step.text, toString]

/-- **An entry that is a reference is reported exactly if it does not resolve.** -/
theorem reportedAt_iff (h : EntryAt template key item op location entry)
    (hr : reference? entry = some reference) :
    d.ReportedAt location reference ↔ ¬ d.Resolves reference := by
  rw [not_resolves_iff]
  constructor
  · rintro ⟨issue, -, -, hblames⟩
    exact ⟨issue.defect, hblames⟩
  · rintro ⟨defect, hblames⟩
    obtain ⟨s, hs, hexposed, hlocation, rfl⟩ := h.exists_site hitem hop hkey hr
    exact ⟨⟨location, defect⟩,
      mem_referenceIssues_iff.2 ⟨s, hs, hexposed, hlocation.symm, hblames⟩, rfl, hblames⟩

end Documented

/-! ### The entry in the way -/

/-- An entry with an unresolved reference is a reference. -/
theorem EntryFaulty.exists_reference?
    (h : d.EntryFaulty location entry (.unresolvedReference text)) :
    ∃ reference, reference? entry = some reference := by
  cases h with
  | untargeted hr _ => exact ⟨_, hr⟩
  | undefined hr _ _ => exact ⟨_, hr⟩

/-- A list fails for want of a reference with one of its entries. -/
theorem ListFaulty.exists_entryFaulty
    (h : d.ListFaulty location owner (.unresolvedReference text)) :
    ∃ (entries : List Json) (index : Nat) (entry : Json),
      owner.get? "parameters" = some (.array entries) ∧ entries[index]? = some entry ∧
      d.EntryFaulty s!"{location}/parameters/{index}" entry (.unresolvedReference text) := by
  cases h with
  | @entry before after entry earlier fault hentries _ hentry =>
      exact ⟨_, before.length, entry, hentries, by simp, hentry⟩

/-- Parameters that cannot be read for want of a reference have an entry in the way. -/
theorem exists_entryFaulty_of_unresolved
    (h : d.operationParameters template item key op = .error (.unresolvedReference text)) :
    ∃ location entry, EntryAt template key item op location entry ∧
      d.EntryFaulty location entry (.unresolvedReference text) := by
  rcases operationParameters_eq_error_iff.1 h with hfaulty | ⟨-, hfaulty⟩
  · obtain ⟨entries, index, entry, hentries, hentry, hfaulty⟩ := hfaulty.exists_entryFaulty
    exact ⟨_, entry, .shared hentries hentry, hfaulty⟩
  · obtain ⟨entries, index, entry, hentries, hentry, hfaulty⟩ := hfaulty.exists_entryFaulty
    exact ⟨_, entry, .own hentries hentry, hfaulty⟩

/-- An entry that names no shared parameter resolves only if it leads to a schema. -/
theorem EntryFaulty.resolves_iff (h : d.EntryFaulty location entry (.unresolvedReference text))
    (hr : reference? entry = some reference) :
    d.Resolves reference ↔ ∃ names content, d.Leads entry names content := by
  constructor
  · rintro (hl | ⟨-, hname, hnode⟩)
    · exact ⟨_, _, hl.of_reference? (reference?_referenceNode reference) hr⟩
    · -- no shared parameter goes by the name
      cases h with
      | untargeted hr' ht =>
          cases hr.symm.trans hr'
          cases hname.symm.trans ht
      | undefined hr' ht hnone =>
          cases hr.symm.trans hr'
          cases hname.symm.trans ht
          cases hnode.symm.trans hnone
  · rintro ⟨names, content, hl⟩
    exact .schema (hl.of_reference? hr (reference?_referenceNode reference))

/-- **What is reported of parameters that cannot be read for want of a reference.**  An entry of the
two lists is reported exactly if there is one that does not resolve.  The entry in the way is not
reported itself exactly if it leads to a schema. -/
theorem unreadable_reported_iff (hitem : (template, .object item) ∈ d.paths)
    (hop : (key, .object op) ∈ item) (hkey : key ∈ operationKeys)
    (h : d.operationParameters template item key op = .error (.unresolvedReference text)) :
    ((∃ location entry reference, EntryAt template key item op location entry ∧
        reference? entry = some reference ∧ d.ReportedAt location reference) ↔
      ∃ location entry reference, EntryAt template key item op location entry ∧
        reference? entry = some reference ∧ ¬ d.Resolves reference) ∧
    ∃ location entry reference, EntryAt template key item op location entry ∧
      reference? entry = some reference ∧
      d.EntryFaulty location entry (.unresolvedReference text) ∧
      (¬ d.ReportedAt location reference ↔ ∃ names content, d.Leads entry names content) := by
  constructor
  · refine exists_congr fun location => exists_congr fun entry => exists_congr fun reference => ?_
    refine and_congr_right fun hentry => and_congr_right fun hr => ?_
    exact reportedAt_iff hitem hop hkey hentry hr
  · obtain ⟨location, entry, hentry, hfaulty⟩ := exists_entryFaulty_of_unresolved h
    obtain ⟨reference, hr⟩ := hfaulty.exists_reference?
    refine ⟨location, entry, reference, hentry, hr, hfaulty, ?_⟩
    rw [reportedAt_iff hitem hop hkey hentry hr, not_not, hfaulty.resolves_iff hr]

/-! ### Orders by the page -/

/-- A path item with a parameter that stands among the definitions. -/
def orderItem (op : Fields) : Fields :=
  [("parameters", .array [referenceNode "#/definitions/Page"]), ("get", .object op)]

/-- A document with that path item. -/
def orders (op : Fields) : Document where
  paths := [("/orders", .object (orderItem op))]
  definitions := [("Page", .object [("name", .text "page"), ("in", .text "query")])]
  parameters := []
  others := []

theorem operationParameters_orders (op : Fields) :
    (orders op).operationParameters "/orders" (orderItem op) "get" op =
      .error (.unresolvedReference "#/definitions/Page") :=
  operationParameters_eq_error_iff.2 (.inl
    (@ListFaulty.entry _ _ _ [] [] _ [] _ rfl .nil (.untargeted rfl (by decide))))

/-- An operation that refers to a shared parameter which is missing. -/
def limitedOperation : Fields := [("parameters", .array [referenceNode "#/parameters/Limit"])]

/-- The entry in the way is not reported, but the one of the operation is. -/
theorem reportedAt_limitedOrders :
    ("/orders", .object (orderItem limitedOperation)) ∈ (orders limitedOperation).paths ∧
      ("get", .object limitedOperation) ∈ orderItem limitedOperation ∧ "get" ∈ operationKeys ∧
      (orders limitedOperation).operationParameters "/orders" (orderItem limitedOperation) "get"
        limitedOperation = .error (.unresolvedReference "#/definitions/Page") ∧
      ∃ location entry reference,
        EntryAt "/orders" "get" (orderItem limitedOperation) limitedOperation location entry ∧
        reference? entry = some reference ∧
        (orders limitedOperation).ReportedAt location reference := by
  have hp := operationParameters_orders limitedOperation
  have hblames : (orders limitedOperation).Blames "#/parameters/Limit"
      (.unresolvedReference (.unresolvedReference "#/parameters/Limit")) :=
    @Blames.undefined _ _ "Limit" (by decide) (by decide) rfl
  have hitem : ("/orders", .object (orderItem limitedOperation)) ∈
      (orders limitedOperation).paths := List.mem_singleton.2 rfl
  have hop : ("get", .object limitedOperation) ∈ orderItem limitedOperation := by simp [orderItem]
  have hkey : "get" ∈ operationKeys := by decide
  have hreported := (unreadable_reported_iff hitem hop hkey hp).1
  obtain ⟨location, hentry⟩ : ∃ location, EntryAt "/orders" "get" (orderItem limitedOperation)
      limitedOperation location (referenceNode "#/parameters/Limit") :=
    ⟨_, @EntryAt.own _ _ _ _ _ 0 _ rfl rfl⟩
  exact ⟨hitem, hop, hkey, hp, hreported.2
    ⟨location, _, _, hentry, rfl, not_resolves_iff.2 ⟨_, hblames⟩⟩⟩

/-- **Parameters that cannot be read for want of a reference, in a document without issues.** -/
theorem issues_orders :
    ("/orders", .object (orderItem [])) ∈ (orders []).paths ∧
      ("get", .object []) ∈ orderItem [] ∧ "get" ∈ operationKeys ∧
      (orders []).operationParameters "/orders" (orderItem []) "get" [] =
        .error (.unresolvedReference "#/definitions/Page") ∧
      (orders []).issues = [] := by
  have hl : (orders []).Leads (referenceNode "#/definitions/Page") ["Page"]
      (.object [("name", .text "page"), ("in", .text "query")]) :=
    .step ⟨by decide, rfl⟩ (.content rfl)
  refine ⟨by simp [orders], by simp [orderItem], by decide, operationParameters_orders [],
    issues_eq_nil_iff.2 ⟨fun entry hmem => ?_, fun located hmem => ?_⟩⟩
  · obtain rfl := List.mem_singleton.1 hmem
    rfl
  · have hlocated : located.2 = "#/definitions/Page" := by
      obtain rfl := List.mem_singleton.1 hmem
      rfl
    rw [hlocated]
    exact referenceDefect?_of_leads rfl hl

end Document

end ApiContract
