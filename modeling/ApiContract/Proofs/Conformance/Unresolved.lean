import ApiContract.Proofs.Conformance.Guarantee
import ApiContract.Proofs.Document.Mention

/-
The text of the fault when validation comes to an unresolved reference.

Validation reads references in two places: among the parameters of the operation, and in the schemas
of bodies and of their properties.  Both are inside the document, and so are the definitions that
aliases lead to.  The reference in the way therefore stands in the document, but the fault need not
have its text.

Main results:

* `ApiContract.Conformance.Descends.covers` — the check of a body does not leave the document;
* `ApiContract.Conformance.unresolved_told` — **the fault tells a reference of the document**, and
  has its text if the document writes its references in the usual form.
-/

set_option autoImplicit false

namespace ApiContract

namespace Conformance

open Document

variable {settings : Settings} {d : Document} {request : Http.Request} {route : Route}
  {text : String} {p : Parameter} {start stage : Stage}

/-! ### Where references are read -/

/-- The content of a covered schema declares covered properties. -/
theorem Declares.covers {content property : Json} {properties : Fields} {key : String}
    (h : Declares content properties) (hc : d.Covers content)
    (hmem : (key, property) ∈ properties) : d.Covers property := by
  cases h with
  | absent _ => cases hmem
  | null _ => cases hmem
  | mapping hp => exact (hc.get? hp).of_mem_fields hmem

/-- **The check of a body does not leave the document.** -/
theorem Descends.covers (h : Descends d start stage) (hc : d.Covers start.schema) :
    d.Covers stage.schema := by
  cases h with
  | property hl hp _ _ _ => exact hp.covers (hl.covers hc) List.mem_append_cons_self

theorem covers_of_reflTransGen (h : Relation.ReflTransGen (Descends d) start stage)
    (hc : d.Covers start.schema) : d.Covers stage.schema := by
  induction h with
  | refl => exact hc
  | tail _ hdescends ih => exact hdescends.covers ih

/-- A shape that is wrong is no reference. -/
theorem Misshapen.ne_unresolvedReference : ¬ Misshapen d stage (.unresolvedReference text) := by
  rintro ⟨⟩

/-- A covered schema that faults for want of a reference has one of the document in the way. -/
theorem exists_tells_of_rejects
    (h : Rejects d start.location start.schema start.data (.faulty (.unresolvedReference text)))
    (hc : d.Covers start.schema) : ∃ reference, d.Mentions reference ∧ d.Tells reference text := by
  obtain ⟨stage, hvisits, hb | hm⟩ := rejects_faulty_iff.1 h
  · exact exists_tells_of_broken hb (covers_of_reflTransGen hvisits hc)
  · exact absurd hm Misshapen.ne_unresolvedReference

theorem exists_tells_of_parameterMisses
    (h : ParameterMisses settings d request route p (.faulty (.unresolvedReference text)))
    (hc : d.CoversSchema p) : ∃ reference, d.Mentions reference ∧ d.Tells reference text := by
  cases h with
  | bodyRejected _ _ hs hr => exact @exists_tells_of_rejects d text ⟨_, _, _⟩ hr (hc _ hs)

/-! ### What the fault tells -/

/-- A fault for want of a reference tells one of the document. -/
theorem exists_tells_of_unresolved
    (h : validate settings d request = .error (.unresolvedReference text)) :
    ∃ reference, d.Mentions reference ∧ d.Tells reference text := by
  rcases exists_of_validate_eq_error h with
    hroute | ⟨route, hroute, hp | ⟨before, p, after, hp, -, hmiss⟩⟩
  · obtain ⟨location, expected, hfault⟩ := malformed_of_route_eq_faulty hroute
    cases hfault
  · obtain ⟨hitem, hop, hkey⟩ := mem_of_route hroute
    exact exists_tells_of_unreadable hitem hop hkey hp
  · obtain ⟨hitem, hop, -⟩ := mem_of_route hroute
    have hc := coversSchema_of_operationParameters hitem hop hp p (by simp)
    exact exists_tells_of_parameterMisses hmiss hc

/-- **What validation tells of an unresolved reference.**  The reference stands in the document, and
points at nothing.  Its own text is in the fault if the document has every such reference in the
usual form; the text in the fault can then be found in it. -/
theorem unresolved_told (h : validate settings d request = .error (.unresolvedReference text)) :
    (∃ reference, d.Mentions reference ∧ d.Tells reference text) ∧
      ((∀ reference, d.Mentions reference → d.Usual reference) → d.Mentions text) := by
  obtain ⟨reference, hmentions, htells⟩ := exists_tells_of_unresolved h
  refine ⟨⟨reference, hmentions, htells⟩, fun hu => ?_⟩
  rw [usual_iff.1 (hu reference hmentions) text htells]
  exact hmentions

/-! ### Two references that point at nothing -/

/-- A document with an operation at one path, and with the definitions. -/
def withDefinitions (op definitions : Fields) : Document where
  paths := [("/users", .object [("get", .object op)])]
  definitions := definitions
  parameters := []
  others := []

/-- Users are persons, of which nothing is known. -/
def unknownPerson : Document :=
  withDefinitions updateOperation [("User", referenceNode "#/definitions/Person")]

theorem validate_unknownPerson :
    validate underApi unknownPerson withUser =
      .error (.unresolvedReference "#/definitions/Person") := by
  have hroute : unknownPerson.route withUser.method (underApi.relative withUser.path) =
      .ok (routeTo underApi withUser "/users" [("get", .object updateOperation)]
        updateOperation) :=
    route_of_answered ofPath?_limitTen (answered_limitTen rfl)
  have hp : unknownPerson.operationParameters "/users" [("get", .object updateOperation)]
      withUser.method.key updateOperation =
        .ok ([] ++ ⟨"update", some .body, false, .unchecked, some updateSchema⟩ :: []) := by
    rfl
  have hb : unknownPerson.Broken [] userReference (.unresolvedReference "#/definitions/Person") :=
    @Broken.step _ _ _ _ "User" _ ⟨by decide, rfl⟩ (by simp)
      (@Broken.undefined _ _ _ "Person" (by decide) (by simp) rfl)
  have hr : Rejects unknownPerson "body parameter 'update'" updateSchema
      (.object [("user", .object [])]) (.faulty (.unresolvedReference "#/definitions/Person")) :=
    @Rejects.missed _ _ _ _ _ _ [] [] _ _ (.content rfl) (.mapping rfl) (by simp)
      (.nested rfl rfl (.broken hb))
  exact validate_of_missed hroute hp (by simp) (.bodyRejected rfl decodeBody_withUser rfl hr)

/-- The alias that ends in a missing definition has the usual form, and its text is found. -/
theorem mentions_unknownPerson :
    validate underApi unknownPerson withUser =
        .error (.unresolvedReference "#/definitions/Person") ∧
      unknownPerson.Mentions "#/definitions/Person" := by
  refine ⟨validate_unknownPerson, (unresolved_told validate_unknownPerson).2 ?_⟩
  intro reference hmentions
  have hreference : reference = "#/definitions/User" ∨ reference = "#/definitions/Person" := by
    simpa [Document.mentions_iff, sections, unknownPerson, withDefinitions, updateOperation,
      updateSchema, userReference, referenceNode, eq_comm] using hmentions
  rcases hreference with rfl | rfl
  · exact (@usual_forms unknownPerson "User" (by decide)).1
  · exact (@usual_forms unknownPerson "Person" (by decide)).1

/-- A parameter list that refers to a shared parameter by less than the usual text. -/
def ghostOperation : Fields := [("parameters", .array [referenceNode "parameters/Ghost"])]

/-- **The text of the fault is nowhere in the document.** -/
theorem not_mentions_ghost :
    validate underApi (withDefinitions ghostOperation []) limitTen =
        .error (.unresolvedReference "#/parameters/Ghost") ∧
      ¬ (withDefinitions ghostOperation []).Mentions "#/parameters/Ghost" := by
  have hroute : (withDefinitions ghostOperation []).route limitTen.method
      (underApi.relative limitTen.path) = .ok (routeTo underApi limitTen "/users"
        [("get", .object ghostOperation)] ghostOperation) :=
    route_of_answered ofPath?_limitTen (answered_limitTen rfl)
  have hp : (withDefinitions ghostOperation []).operationParameters "/users"
      [("get", .object ghostOperation)] limitTen.method.key ghostOperation =
        .error (.unresolvedReference "#/parameters/Ghost") := by
    rfl
  refine ⟨validate_of_unreadable hroute hp, ?_⟩
  simp [Document.mentions_iff, sections, withDefinitions, ghostOperation, referenceNode]

end Conformance

end ApiContract
