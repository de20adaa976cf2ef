import ApiContract.Proofs.Conformance.Verdict
import ApiContract.Proofs.Document.Issue

/-
How far a document without issues keeps validation from faulting.

Issues are looked for so that validation meets no fault later.  Most faults are indeed ruled out:
the shapes of path items, operations and parameters, missing body schemas, and every cycle of
references.  Some are not, since the two walks of the document differ: a reference is accepted when
it leads to a schema *or* names a shared parameter, wherever it stands, and the shapes under
`properties` are not looked at.  This module states exactly which requests meet a fault all the
same.

Main definitions:

* `ApiContract.Document.Astray` — a parameter list refers to a definition, and to no parameter;
* `ApiContract.Document.Dangles` — a schema refers to no definition, one alias further at most;
* `ApiContract.Conformance.Stumbles` — a value takes its check to a defect of the schema;
* `ApiContract.Conformance.Escapes` — a request takes validation to one of these.

Main results:

* `ApiContract.Document.dangles_of_broken` — without issues, broken references are short;
* `ApiContract.Conformance.exists_rejects_faulty_iff` — faults of a body;
* `ApiContract.Conformance.validate_faults_iff` — **without issues, validation faults exactly on the
  requests that escape**.
-/

set_option autoImplicit false

namespace ApiContract

namespace Document

variable {d : Document} {location reference template key : String} {item op owner : Fields}
  {entry schema : Json} {fault : Fault}

/-! ### Parameter lists -/

/-- The parameter list of a path item or an operation has an entry that refers to a definition, and
to no shared parameter. -/
def Astray (d : Document) (owner : Fields) : Prop :=
  ∃ entries entry reference, owner.get? "parameters" = some (.array entries) ∧ entry ∈ entries ∧
    reference? entry = some reference ∧ (target? "definitions" reference).isSome = true ∧
    ∀ name, target? "parameters" reference = some name → d.parameters.get? name = none

/-- An entry stands for no node when it is a reference that names no shared parameter. -/
theorem parameterNode_eq_error_iff :
    (∃ fault, d.parameterNode entry = .error fault) ↔
      ∃ reference, reference? entry = some reference ∧
        ∀ name, target? "parameters" reference = some name → d.parameters.get? name = none := by
  unfold parameterNode
  cases hr : reference? entry with
  | none => simp
  | some reference =>
      cases ht : target? "parameters" reference with
      | none => simp [ht]
      | some name => cases hn : d.parameters.get? name <;> simp [sharedParameter, ht, hn]

/-- Reading a declaration finds no reference unresolved. -/
theorem ofNode_ne_unresolvedReference {node : Json} :
    Parameter.ofNode location node ≠ .error (.unresolvedReference reference) := by
  unfold Parameter.ofNode
  split
  · split <;> simp
  · simp

/-- A parameter list that fails for want of a reference has an entry that stands for no node. -/
theorem exists_entry_of_ownParameters_eq_error
    (h : d.ownParameters location owner = .error (.unresolvedReference reference)) :
    ∃ entries entry, owner.get? "parameters" = some (.array entries) ∧ entry ∈ entries ∧
      ∃ fault, d.parameterNode entry = .error fault := by
  unfold ownParameters at h
  split at h
  · cases h
  · cases h
  · next entries hentries =>
      obtain ⟨before, ⟨entry, index⟩, after, hdiv, -, hentry⟩ :=
        FirstFailure.mapM_eq_error_iff.1 h
      have hmem : (entry, index) ∈ entries.zipIdx := by rw [hdiv]; simp
      refine ⟨entries, entry, hentries, List.fst_mem_of_mem_zipIdx hmem, ?_⟩
      rcases FirstFailure.bind_eq_error_iff.1 hentry with hnode | ⟨node, -, hof⟩
      · exact ⟨_, hnode⟩
      · exact absurd hof ofNode_ne_unresolvedReference
  · cases h

/-- A parameter list with an entry that stands for no node cannot be read. -/
theorem exists_ownParameters_eq_error {entries : List Json}
    (hentries : owner.get? "parameters" = some (.array entries)) (hmem : entry ∈ entries)
    (h : ∃ fault, d.parameterNode entry = .error fault) :
    ∃ fault, d.ownParameters location owner = .error fault := by
  -- an earlier entry may be the one that fails, so only the existence of a fault is claimed
  obtain ⟨fault, hfault⟩ := h
  cases hown : d.ownParameters location owner with
  | error fault => exact ⟨fault, rfl⟩
  | ok ps =>
      obtain ⟨index, hindex⟩ := List.getElem?_of_mem hmem
      have hpair : (entry, index) ∈ entries.zipIdx := List.mk_mem_zipIdx_iff_getElem?.2 hindex
      simp only [ownParameters, hentries] at hown
      obtain ⟨p, hp⟩ := FirstFailure.exists_of_mapM_eq_ok hown _ hpair
      obtain ⟨node, hnode, -⟩ := FirstFailure.bind_eq_ok_iff.1 hp
      rw [hfault] at hnode
      cases hnode

/-- The references of a parameter list belong to its owner. -/
theorem refers_of_mem_entries {entries : List Json}
    (hentries : owner.get? "parameters" = some (.array entries)) (hmem : entry ∈ entries)
    (hr : reference? entry = some reference) : (Json.object owner).Refers reference :=
  .field (Fields.mem_of_get?_eq_some hentries) (by decide) (.item hmem (refers_of_reference? hr))

/-- An owner that goes astray makes the parameters of an operation unreadable. -/
theorem Astray.exists_operationParameters_eq_error (howner : owner = item ∨ owner = op)
    (h : d.Astray owner) : ∃ fault, d.operationParameters template item key op = .error fault := by
  obtain ⟨entries, entry, reference, hentries, hmem, hr, -, hnone⟩ := h
  have hnode := parameterNode_eq_error_iff.2 ⟨reference, hr, hnone⟩
  unfold operationParameters
  rcases howner with rfl | rfl
  · obtain ⟨fault, hfault⟩ := exists_ownParameters_eq_error hentries hmem hnode
    exact ⟨fault, FirstFailure.bind_eq_error_iff.2 (.inl hfault)⟩
  · obtain ⟨fault, hfault⟩ := exists_ownParameters_eq_error hentries hmem hnode
    cases hshared : d.ownParameters ("#/paths/" ++ template) item with
    | error earlier => exact ⟨earlier, rfl⟩
    | ok shared =>
        exact ⟨fault, FirstFailure.bind_eq_error_iff.2
          (.inr ⟨shared, rfl, FirstFailure.bind_eq_error_iff.2 (.inl hfault)⟩)⟩

/-- What fails for want of a reference fails in the list of the path item or of the operation. -/
theorem exists_owner_of_operationParameters_eq_error
    (h : d.operationParameters template item key op = .error (.unresolvedReference reference)) :
    ∃ owner location, (owner = item ∨ owner = op) ∧
      d.ownParameters location owner = .error (.unresolvedReference reference) := by
  rcases FirstFailure.bind_eq_error_iff.1 h with hshared | ⟨shared, -, h⟩
  · exact ⟨item, _, .inl rfl, hshared⟩
  · rcases FirstFailure.bind_eq_error_iff.1 h with hown | ⟨own, -, hmerge⟩
    · exact ⟨op, _, .inr rfl, hown⟩
    · cases hmerge

/-! ### References of schemas -/

/-- The schema is a reference to no definition, or an alias of one that is. -/
inductive Dangles (d : Document) : Json → Prop
  | untargeted {schema : Json} {reference : String} :
      reference? schema = some reference → target? "definitions" reference = none →
      Dangles d schema
  | undefined {schema : Json} {name : String} :
      (reference? schema).bind (target? "definitions") = some name →
      d.definitions.get? name = none → Dangles d schema
  | behind {schema next : Json} {name reference : String} :
      d.Alias schema name next → reference? next = some reference →
      target? "definitions" reference = none → Dangles d schema

/-- Validation cannot get past a reference that dangles, and says so of the reference. -/
theorem Dangles.exists_broken (h : d.Dangles schema) :
    ∃ reference, d.Broken [] schema (.unresolvedReference reference) := by
  cases h with
  | untargeted hr ht => exact ⟨_, .untargeted hr ht⟩
  | undefined ht hn => exact ⟨_, .undefined ht List.not_mem_nil hn⟩
  | behind ha hr ht => exact ⟨_, .step ha List.not_mem_nil (.untargeted hr ht)⟩

section Clean

variable (hd : d.issues = [])

include hd

/-- **Without issues, broken references are short**: the definitions refer only to what leads to a
schema or names a shared parameter, so cycles and long broken chains are ruled out. -/
theorem dangles_of_broken (h : d.Broken [] schema fault) : d.Dangles schema := by
  -- kept for the chain from the schema itself, to which the one from its definition extends
  have hb := h
  cases h with
  | untargeted hr ht => exact .untargeted hr ht
  | repeated _ hn => cases hn
  | undefined ht _ hn => exact .undefined ht hn
  | @step _ _ next name _ ha _ _ =>
      cases hr : reference? next with
      | none => exact absurd hb (Leads.step ha (.content hr)).not_broken
      | some reference =>
          have hc := collected_of_definitions (Fields.mem_of_get?_eq_some ha.defined)
            (refers_of_reference? hr)
          rcases leads_or_shared_of_collected hd hc hr with ⟨names, content, hl⟩ | ⟨ht, -⟩
          · exact absurd hb (Leads.step ha hl).not_broken
          · exact .behind ha hr ht

/-- Without issues, a list that fails for want of a reference refers to a definition. -/
theorem astray_of_ownParameters_eq_error
    (hrefers : ∀ reference, (Json.object owner).Refers reference → d.Collected reference)
    (h : d.ownParameters location owner = .error (.unresolvedReference reference)) :
    d.Astray owner := by
  obtain ⟨entries, entry, hentries, hmem, hnode⟩ := exists_entry_of_ownParameters_eq_error h
  obtain ⟨reference, hr, hnone⟩ := parameterNode_eq_error_iff.1 hnode
  refine ⟨entries, entry, reference, hentries, hmem, hr, ?_, hnone⟩
  -- the reference was accepted: it names no shared parameter, so it leads to a schema
  have hc := hrefers _ (refers_of_mem_entries hentries hmem hr)
  rcases leads_or_shared_of_collected hd hc hr with ⟨names, content, hl⟩ | ⟨-, name, node, ht, hn⟩
  · exact Option.isSome_iff_exists.2 (hl.exists_target hr)
  · rw [hnone name ht] at hn
    cases hn

end Clean

end Document

namespace Conformance

open Document

/-! ### Bodies -/

/-- The check of the value `data` runs into a defect of the schema, before anything of the value is
missed: a reference that dangles, properties that are no mapping, or a property that is none. -/
inductive Stumbles (d : Document) : Json → Json → Prop
  | reference {schema data : Json} : d.Dangles schema → Stumbles d schema data
  | properties {schema data content : Json} {names : List String} :
      d.Leads schema names content → (∀ properties, ¬ Declares content properties) →
      Stumbles d schema data
  | property {schema data content value property : Json} {names : List String}
      {before after : Fields} {key : String} :
      d.Leads schema names content → Declares content (before ++ (key, property) :: after) →
      (∀ earlier ∈ before, Meets d data earlier) → present? data key = some value →
      (∀ fields, property ≠ .object fields) → Stumbles d schema data
  | inside {schema data content value : Json} {names : List String} {before after fields : Fields}
      {key : String} :
      d.Leads schema names content → Declares content (before ++ (key, .object fields) :: after) →
      (∀ earlier ∈ before, Meets d data earlier) → present? data key = some value →
      isNested (.object fields) = true → Stumbles d (.object fields) value → Stumbles d schema data

variable {settings : Settings} {d : Document} {request : Http.Request} {route : Route}
  {schema data : Json} {location : String} {fault : Fault}

theorem Stumbles.exists_rejects (h : Stumbles d schema data) :
    ∃ fault, Rejects d location schema data (.faulty fault) := by
  induction h generalizing location with
  | reference hdangles =>
      obtain ⟨reference, hb⟩ := hdangles.exists_broken
      exact ⟨_, .broken hb⟩
  | properties hl hp => exact ⟨_, .malformed hl hp⟩
  | property hl hp hbefore hv hshape => exact ⟨_, .missed hl hp hbefore (.shapeless hv hshape)⟩
  | inside hl hp hbefore hv hn _ ih =>
      obtain ⟨fault, hr⟩ := ih
      exact ⟨fault, .missed hl hp hbefore (.nested hv hn hr)⟩

section Clean

variable (hd : d.issues = [])

include hd

/-- Without issues, a value that is rejected with a fault stumbles. -/
theorem stumbles_of_rejects (h : Rejects d location schema data (.faulty fault)) :
    Stumbles d schema data := by
  -- the value shrinks with every property that is descended into
  induction hsize : sizeOf data using Nat.strongRecOn generalizing data schema location with
  | _ n ih =>
      subst hsize
      cases h with
      | broken hb => exact .reference (dangles_of_broken hd hb)
      | malformed hl hp => exact .properties hl hp
      | missed hl hp hbefore hm =>
          cases hm with
          | shapeless hv hshape => exact .property hl hp hbefore hv hshape
          | nested hv hn hr =>
              exact .inside hl hp hbefore hv hn (ih _ (sizeOf_lt_of_present? hv) hr rfl)

/-- **Without issues, bodies meet a fault exactly when they stumble.** -/
theorem exists_rejects_faulty_iff :
    (∃ fault, Rejects d location schema data (.faulty fault)) ↔ Stumbles d schema data := by
  constructor
  · rintro ⟨fault, h⟩
    exact stumbles_of_rejects hd h
  · exact fun h => h.exists_rejects

end Clean

/-! ### Requests -/

/-- The request takes validation to something that documents are not looked over for: a parameter
list that refers to a definition, or a defect that the first body parameter on which the request
fails runs into. -/
inductive Escapes (settings : Settings) (d : Document) (request : Http.Request) : Prop
  | parameters {route : Route} {owner : Fields} :
      d.route request.method (settings.relative request.path) = .ok route →
      (owner = route.item ∨ owner = route.operation) → d.Astray owner →
      Escapes settings d request
  | body {route : Route} {before after : List Parameter} {p : Parameter} {schema data : Json} :
      d.route request.method (settings.relative request.path) = .ok route →
      d.operationParameters route.template route.item route.method route.operation =
        .ok (before ++ p :: after) →
      (∀ q ∈ before, ∀ r, ¬ ParameterMisses settings d request route q r) →
      p.place = some .body → decodeBody request.body = .ok data → p.schema = some schema →
      Stumbles d schema data → Escapes settings d request

theorem Escapes.exists_fault (h : Escapes settings d request) :
    ∃ fault, validate settings d request = .error fault := by
  cases h with
  | parameters hroute howner hastray =>
      obtain ⟨fault, hp⟩ := hastray.exists_operationParameters_eq_error howner
      exact ⟨fault, validate_of_unreadable hroute hp⟩
  | body hroute hp hbefore hplace hdata hs hstumbles =>
      obtain ⟨fault, hr⟩ := hstumbles.exists_rejects
      exact ⟨fault, validate_of_missed hroute hp hbefore (.bodyRejected hplace hdata hs hr)⟩

theorem mem_of_route (h : d.route request.method (settings.relative request.path) = .ok route) :
    (route.template, .object route.item) ∈ d.paths ∧
      (route.method, .object route.operation) ∈ route.item ∧ route.method ∈ operationKeys := by
  obtain ⟨rule, template, item, op, ha, rfl⟩ := exists_answers_of_route h
  exact ⟨Fields.mem_of_get?_eq_some ha.pathItem, Fields.mem_of_get?_eq_some ha.entry, ha.documented⟩

section Clean

variable (hd : d.issues = [])

include hd

/-- Without issues, a request without a route is refused. -/
theorem exists_refusal_of_route_eq_error {method : Http.Method} {path : String}
    {rejection : Rejection} (h : d.route method path = .error rejection) :
    ∃ refusal, rejection = .refused refusal := by
  cases ht : d.templateFor path with
  | error refusal =>
      rw [route_of_templateFor_error ht] at h
      exact ⟨refusal, (Except.error.inj h).symm⟩
  | ok template =>
      obtain ⟨rule, hrule⟩ := exists_rule_of_templateFor ht
      have hmem := ((templateFor_eq_ok_iff hrule).1 ht).2.mem
      cases hi : d.pathItem template with
      | error fault =>
          obtain ⟨⟨node, hnode, hshape⟩, -⟩ := (pathItem_eq_error_iff hmem).1 hi
          obtain ⟨item, hitem⟩ := item_of_issues_eq_nil hd (Fields.mem_of_get?_eq_some hnode)
          exact absurd hitem (hshape item)
      | ok item =>
          have hpath := Fields.mem_of_get?_eq_some (pathItem_eq_ok_iff.1 hi)
          cases ho : operation template item method.key with
          | ok op =>
              rw [route_of_operation ht hi ho] at h
              cases h
          | error stopped =>
              rw [route_of_operation_error ht hi ho] at h
              obtain rfl := Except.error.inj h
              cases stopped with
              | refused refusal => exact ⟨refusal, rfl⟩
              | faulty fault =>
                  obtain ⟨hk, ⟨node, hnode, hshape⟩, -⟩ := operation_eq_faulty_iff.1 ho
                  obtain ⟨op, hop⟩ := operation_of_issues_eq_nil hd hpath
                    (Fields.mem_of_get?_eq_some hnode) hk
                  exact absurd hop (hshape op)

/-- Without issues, parameters of a route that cannot be read are in a list that goes astray. -/
theorem exists_astray_of_operationParameters_eq_error
    (hroute : d.route request.method (settings.relative request.path) = .ok route)
    (h : d.operationParameters route.template route.item route.method route.operation =
      .error fault) :
    ∃ owner, (owner = route.item ∨ owner = route.operation) ∧ d.Astray owner := by
  obtain ⟨hpath, hop, hk⟩ := mem_of_route hroute
  rcases operationParameters_of_issues_eq_nil hd hpath hop hk with ⟨reference, hp⟩ | ⟨ps, hp, -⟩
  · obtain ⟨owner, location, howner, hown⟩ := exists_owner_of_operationParameters_eq_error hp
    refine ⟨owner, howner, astray_of_ownParameters_eq_error hd (fun r hr => ?_) hown⟩
    refine collected_of_paths hpath ?_
    rcases howner with rfl | rfl
    · exact hr
    · have hne : route.method ≠ "$ref" := by
        intro heq
        rw [heq] at hk
        exact absurd hk (by decide)
      exact .field hop hne hr
  · rw [hp] at h
    cases h

/-- Without issues, a parameter of a route that is missed with a fault is one of the body whose
value stumbles. -/
theorem stumbles_of_parameterMisses {ps : List Parameter} {p : Parameter}
    (hroute : d.route request.method (settings.relative request.path) = .ok route)
    (hp : d.operationParameters route.template route.item route.method route.operation = .ok ps)
    (hmem : p ∈ ps) (h : ParameterMisses settings d request route p (.faulty fault)) :
    ∃ data schema, p.place = some .body ∧ decodeBody request.body = .ok data ∧
      p.schema = some schema ∧ Stumbles d schema data := by
  obtain ⟨hpath, hop, hk⟩ := mem_of_route hroute
  cases h with
  | schemaless hplace hdata hs =>
      rcases operationParameters_of_issues_eq_nil hd hpath hop hk with
        ⟨reference, hp'⟩ | ⟨ps', hp', hschema⟩
      · rw [hp] at hp'
        cases hp'
      · obtain rfl : ps = ps' := Except.ok.inj (hp.symm.trans hp')
        obtain ⟨schema, hsome⟩ := hschema p hmem hplace
        rw [hs] at hsome
        cases hsome
  | bodyRejected hplace hdata hs hr =>
      exact ⟨_, _, hplace, hdata, hs, (exists_rejects_faulty_iff hd).1 ⟨_, hr⟩⟩

/-- Without issues, a request that meets a fault escapes. -/
theorem escapes_of_fault (h : validate settings d request = .error fault) :
    Escapes settings d request := by
  rcases exists_of_validate_eq_error h with
    hroute | ⟨route, hroute, hp | ⟨before, p, after, hp, hbefore, hmiss⟩⟩
  · obtain ⟨refusal, hr⟩ := exists_refusal_of_route_eq_error hd hroute
    cases hr
  · obtain ⟨owner, howner, hastray⟩ := exists_astray_of_operationParameters_eq_error hd hroute hp
    exact .parameters hroute howner hastray
  · obtain ⟨data, schema, hplace, hdata, hs, hstumbles⟩ :=
      stumbles_of_parameterMisses hd hroute hp (by simp) hmiss
    exact .body hroute hp hbefore hplace hdata hs hstumbles

end Clean

/-- **Without issues, validation faults exactly on the requests that escape**, and gives every
other request a verdict. -/
theorem validate_faults_iff (settings : Settings) (d : Document) (request : Http.Request)
    (hd : d.issues = []) :
    ((∃ fault, validate settings d request = .error fault) ↔ Escapes settings d request) ∧
      ((∃ verdict, validate settings d request = .ok verdict) ↔ ¬ Escapes settings d request) := by
  have hfault : (∃ fault, validate settings d request = .error fault) ↔
      Escapes settings d request :=
    ⟨fun ⟨_, h⟩ => escapes_of_fault hd h, fun h => h.exists_fault⟩
  -- there is a verdict wherever there is no fault
  refine ⟨hfault, ?_⟩
  rw [← hfault]
  cases validate settings d request <;> simp

/-! ### Two documents without issues -/

/-- A body whose schema refers to a shared parameter. -/
def filterOperation : Fields :=
  [("parameters", .array [.object [("name", .text "filter"), ("in", .text "body"),
    ("schema", .object [("$ref", .text "#/parameters/Filter")])]])]

/-- A document with that operation and the shared parameter. -/
def sharedFilter : Document where
  paths := [("/users", .object [("get", .object filterOperation)])]
  definitions := []
  parameters := [("Filter", .object [("name", .text "filter"), ("in", .text "body")])]
  others := []

/-- The schema of the body takes the request to a fault. -/
theorem validate_sharedFilter :
    sharedFilter.issues = [] ∧ ∃ fault, validate underApi sharedFilter limitTen = .error fault := by
  have hissues : sharedFilter.issues = [] := by rfl
  have hroute : sharedFilter.route limitTen.method (underApi.relative limitTen.path) =
      .ok (routeTo underApi limitTen "/users" [("get", .object filterOperation)] filterOperation) :=
    route_of_answered ofPath?_limitTen (answered_limitTen rfl)
  have hp : sharedFilter.operationParameters "/users" [("get", .object filterOperation)]
      limitTen.method.key filterOperation =
        .ok ([] ++ ⟨"filter", some .body, false, .unchecked,
          some (.object [("$ref", .text "#/parameters/Filter")])⟩ :: []) := by
    rfl
  have hstumbles :
      Stumbles sharedFilter (.object [("$ref", .text "#/parameters/Filter")]) .null :=
    .reference (.untargeted rfl (by decide))
  have hdata : decodeBody limitTen.body = .ok .null := by
    refine if_pos ?_
    rw [ByteArray.toList, ByteArray.toList.loop]
    rfl
  exact ⟨hissues, (validate_faults_iff _ _ _ hissues).1.2
    (.body hroute hp (by simp) rfl hdata rfl hstumbles)⟩

/-- An operation whose parameter stands among the definitions. -/
def borrowingOperation : Fields :=
  [("parameters", .array [.object [("$ref", .text "#/definitions/Limit")]])]

/-- A document with that operation and the definition. -/
def borrowedLimit : Document where
  paths := [("/users", .object [("get", .object borrowingOperation)])]
  definitions := [("Limit", .object [("name", .text "limit"), ("in", .text "query")])]
  parameters := []
  others := []

/-- **A document without issues on which validation faults.** -/
theorem validate_borrowedLimit :
    borrowedLimit.issues = [] ∧ validate underApi borrowedLimit limitTen =
      .error (.unresolvedReference "#/definitions/Limit") := by
  have hp : borrowedLimit.operationParameters "/users" [("get", .object borrowingOperation)]
      limitTen.method.key borrowingOperation =
        .error (.unresolvedReference "#/definitions/Limit") := by
    rfl
  have hl : borrowedLimit.Leads (.object [("$ref", .text "#/definitions/Limit")]) ["Limit"]
      (.object [("name", .text "limit"), ("in", .text "query")]) :=
    .step ⟨by decide, rfl⟩ (.content rfl)
  have hissues : borrowedLimit.issues = [] := by
    refine issues_eq_nil_iff.2 ⟨fun entry hmem => ?_, fun located hmem => ?_⟩
    · obtain rfl := List.mem_singleton.1 hmem
      rfl
    · have hlocated : located.2 = "#/definitions/Limit" := by
        obtain rfl := List.mem_singleton.1 hmem
        rfl
      rw [hlocated]
      exact referenceDefect?_of_leads rfl hl
  exact ⟨hissues, (Judged.parameters (answered_limitTen rfl) hp).validate_eq ofPath?_limitTen⟩

end Conformance

end ApiContract
