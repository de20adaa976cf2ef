import Mathlib.Logic.Relation
import ApiContract.Proofs.Conformance.Payload
import ApiContract.Proofs.Conformance.Soundness

/-
What a document without issues is good for, although validation may still fault on it.

`ApiContract.Conformance.validate_faults_iff` names the requests that meet a fault.  This module is
about the faults themselves.  Whatever value is resolved, reachable or not, it is never found to
lead back to itself; every documented operation can be read but for a parameter that is not found;
so of the kinds of faults only two are left, and one of them is always the doing of a body schema.

To say where in a schema, the check of a body is followed from stage to stage: from a value and its
schema into the value and the schema of a property.

Main definitions:

* `ApiContract.Conformance.Stage`, `Descends` — a value before its schema, and the way from there to
  the value of a property;
* `ApiContract.Conformance.Misshapen` — the properties of a schema, or one of them, are no mapping;
* `ApiContract.Conformance.RaisedByBody` — a fault comes from a stage of the check of a body.

Main results:

* `ApiContract.Document.exists_unresolvedReference_of_broken` — without issues there are no cycles;
* `ApiContract.Conformance.rejects_faulty_iff` — a schema faults with the first stage that does;
* `ApiContract.Conformance.faults_of_issues_eq_nil` — **what is left of the faults**.
-/

set_option autoImplicit false

namespace ApiContract

namespace Document

variable {d : Document} {schema : Json} {fault : Fault}

/-- Without issues, references that are broken are unresolved; no schema leads in a circle, whether
the document refers to it or not. -/
theorem exists_unresolvedReference_of_broken (hd : d.issues = [])
    (h : d.Broken [] schema fault) : ∃ reference, fault = .unresolvedReference reference := by
  obtain ⟨reference, hb⟩ := (dangles_of_broken hd h).exists_broken
  exact ⟨reference, h.unique hb⟩

end Document

namespace Conformance

open Document

/-! ### The stages of a check -/

/-- A stage of the check of a body: a value, the schema before which it stands, and the location by
which faults name the schema. -/
structure Stage where
  location : String
  schema : Json
  data : Json

/-- The check goes on from a stage to the value of a nested property, all properties before it
being met. -/
inductive Descends (d : Document) : Stage → Stage → Prop
  | property {location key : String} {schema data content value : Json} {names : List String}
      {before after fields : Fields} :
      d.Leads schema names content → Declares content (before ++ (key, .object fields) :: after) →
      (∀ earlier ∈ before, Meets d data earlier) → present? data key = some value →
      isNested (.object fields) = true →
      Descends d ⟨location, schema, data⟩
        ⟨s!"{schemaLocation location names}/properties/{key}", .object fields, value⟩

/-- The schema of a stage has properties that are no mapping, or comes to a property that is none. -/
inductive Misshapen (d : Document) : Stage → Fault → Prop
  | properties {location : String} {schema data content : Json} {names : List String} :
      d.Leads schema names content → (∀ properties, ¬ Declares content properties) →
      Misshapen d ⟨location, schema, data⟩
        (.malformedNode (schemaLocation location names ++ "/properties") .mapping)
  | property {location key : String} {schema data content value property : Json}
      {names : List String} {before after : Fields} :
      d.Leads schema names content → Declares content (before ++ (key, property) :: after) →
      (∀ earlier ∈ before, Meets d data earlier) → present? data key = some value →
      (∀ fields, property ≠ .object fields) →
      Misshapen d ⟨location, schema, data⟩
        (.malformedNode s!"{schemaLocation location names}/properties/{key}" .schemaMapping)

variable {settings : Settings} {d : Document} {request : Http.Request} {fault : Fault}
  {start stage : Stage}

theorem Descends.sizeOf_lt (h : Descends d start stage) :
    sizeOf stage.data < sizeOf start.data := by
  cases h with
  | property _ _ _ hv _ => exact sizeOf_lt_of_present? hv

/-- A fault is handed back from stage to stage. -/
theorem Descends.rejects {rejection : Rejection} (h : Descends d start stage)
    (hr : Rejects d stage.location stage.schema stage.data rejection) :
    Rejects d start.location start.schema start.data rejection := by
  cases h with
  | property hl hp hbefore hv hn => exact .missed hl hp hbefore (.nested hv hn hr)

theorem Misshapen.rejects (h : Misshapen d stage fault) :
    Rejects d stage.location stage.schema stage.data (.faulty fault) := by
  cases h with
  | properties hl hp => exact .malformed hl hp
  | property hl hp hbefore hv hshape => exact .missed hl hp hbefore (.shapeless hv hshape)

/-- A schema that faults does so by itself, or in a stage that follows. -/
theorem exists_of_rejects_faulty
    (h : Rejects d start.location start.schema start.data (.faulty fault)) :
    d.Broken [] start.schema fault ∨ Misshapen d start fault ∨
      ∃ stage, Descends d start stage ∧
        Rejects d stage.location stage.schema stage.data (.faulty fault) := by
  obtain ⟨location, schema, data⟩ := start
  cases h with
  | broken hb => exact .inl hb
  | malformed hl hp => exact .inr (.inl (.properties hl hp))
  | missed hl hp hbefore hm =>
      cases hm with
      | shapeless hv hshape => exact .inr (.inl (.property hl hp hbefore hv hshape))
      | nested hv hn hr => exact .inr (.inr ⟨⟨_, _, _⟩, .property hl hp hbefore hv hn, hr⟩)

/-- **A schema faults with the references or the shape of a stage that its check comes to.** -/
theorem rejects_faulty_iff :
    Rejects d start.location start.schema start.data (.faulty fault) ↔
      ∃ stage, Relation.ReflTransGen (Descends d) start stage ∧
        (d.Broken [] stage.schema fault ∨ Misshapen d stage fault) := by
  constructor
  · intro h
    -- values shrink from stage to stage
    induction hsize : sizeOf start.data using Nat.strongRecOn generalizing start with
    | _ n ih =>
        subst hsize
        rcases exists_of_rejects_faulty h with hb | hm | ⟨next, hdescends, hr⟩
        · exact ⟨start, .refl, .inl hb⟩
        · exact ⟨start, .refl, .inr hm⟩
        · obtain ⟨stage, hvisits, hstage⟩ := ih _ hdescends.sizeOf_lt hr rfl
          exact ⟨stage, .head hdescends hvisits, hstage⟩
  · rintro ⟨stage, hvisits, hstage⟩
    induction hvisits using Relation.ReflTransGen.head_induction_on with
    | refl =>
        rcases hstage with hb | hm
        · exact .broken hb
        · exact hm.rejects
    | head hdescends _ ih => exact hdescends.rejects ih

/-! ### Faults of requests -/

/-- The fault is raised at a stage of the check of a body: that of the first parameter which the
request misses. -/
inductive RaisedByBody (settings : Settings) (d : Document) (request : Http.Request)
    (fault : Fault) : Prop
  | intro {route : Route} {before after : List Parameter} {p : Parameter} {schema data : Json}
      {stage : Stage} :
      d.route request.method (settings.relative request.path) = .ok route →
      d.operationParameters route.template route.item route.method route.operation =
        .ok (before ++ p :: after) →
      (∀ q ∈ before, ∀ r, ¬ ParameterMisses settings d request route q r) →
      p.place = some .body → decodeBody request.body = .ok data → p.schema = some schema →
      Relation.ReflTransGen (Descends d) ⟨s!"body parameter '{p.name}'", schema, data⟩ stage →
      Misshapen d stage fault → RaisedByBody settings d request fault

theorem RaisedByBody.validate_eq (h : RaisedByBody settings d request fault) :
    validate settings d request = .error fault := by
  cases h with
  | intro hroute hp hbefore hplace hdata hs hvisits hm =>
      have hr := rejects_faulty_iff.2 ⟨_, hvisits, .inr hm⟩
      exact validate_of_missed hroute hp hbefore (.bodyRejected hplace hdata hs hr)

section Clean

variable (hd : d.issues = [])

include hd

/-- Without issues, a fault is an unresolved reference or raised by a body. -/
theorem unresolved_or_raised (h : validate settings d request = .error fault) :
    (∃ reference, fault = .unresolvedReference reference) ∨
      RaisedByBody settings d request fault := by
  rcases exists_of_validate_eq_error h with
    hroute | ⟨route, hroute, hp | ⟨before, p, after, hp, hbefore, hmiss⟩⟩
  · obtain ⟨refusal, hr⟩ := exists_refusal_of_route_eq_error hd hroute
    cases hr
  · obtain ⟨hpath, hop, hk⟩ := mem_of_route hroute
    rcases operationParameters_of_issues_eq_nil hd hpath hop hk with ⟨reference, hp'⟩ | ⟨ps, hp', -⟩
    · rw [hp] at hp'
      exact .inl ⟨reference, Except.error.inj hp'⟩
    · rw [hp] at hp'
      cases hp'
  · obtain ⟨data, schema, hplace, hdata, hs, -⟩ :=
      stumbles_of_parameterMisses hd hroute hp (by simp) hmiss
    -- with value and schema in place, the parameter can only be missed by its schema
    cases hmiss with
    | schemaless _ _ hnone =>
        rw [hs] at hnone
        cases hnone
    | bodyRejected _ hdata' hs' hr =>
        obtain ⟨stage, hvisits, hb | hm⟩ := (@rejects_faulty_iff d _ ⟨_, _, _⟩).1 hr
        · exact .inl (exists_unresolvedReference_of_broken hd hb)
        · exact .inr (.intro hroute hp hbefore hplace hdata' hs' hvisits hm)

end Clean

/-- **What a document without issues guarantees.**  No value at all leads in a circle.  Every path
item is a mapping and so is every operation in it, whose parameters can be read, with a schema for
each body, unless a reference is unresolved.  Validation never misses paths or a body schema and
never meets a cycle, and the nodes that it finds malformed are the properties of a schema, or one of
them, at a stage of the check of a body. -/
theorem faults_of_issues_eq_nil (d : Document) (hd : d.issues = []) :
    (∀ schema chain, (d.resolve [] schema).outcome ≠ .error (.cyclicReference chain)) ∧
    (∀ template node, (template, node) ∈ d.paths → ∃ item, node = .object item ∧
      ∀ key v, (key, v) ∈ item → key ∈ operationKeys → ∃ op, v = .object op ∧
        ((∃ reference, d.operationParameters template item key op =
            .error (.unresolvedReference reference)) ∨
          ∃ ps, d.operationParameters template item key op = .ok ps ∧
            ∀ p ∈ ps, p.place = some .body → ∃ schema, p.schema = some schema)) ∧
    ∀ settings request,
      validate settings d request ≠ .error .missingPaths ∧
      (∀ name, validate settings d request ≠ .error (.missingBodySchema name)) ∧
      (∀ chain, validate settings d request ≠ .error (.cyclicReference chain)) ∧
      ∀ location expected,
        validate settings d request = .error (.malformedNode location expected) ↔
          RaisedByBody settings d request (.malformedNode location expected) := by
  refine ⟨fun schema chain h => ?_, fun template node hnode => ?_, fun settings request => ?_⟩
  · obtain ⟨reference, hr⟩ :=
      exists_unresolvedReference_of_broken hd (resolve_outcome_eq_error_iff.1 h)
    cases hr
  · obtain ⟨item, rfl⟩ := item_of_issues_eq_nil hd hnode
    refine ⟨item, rfl, fun key v hv hk => ?_⟩
    obtain ⟨op, rfl⟩ := operation_of_issues_eq_nil hd hnode hv hk
    exact ⟨op, rfl, operationParameters_of_issues_eq_nil hd hnode hv hk⟩
  · -- a stage is misshapen by a malformed node and by nothing else
    have hleft : ∀ fault, validate settings d request = .error fault →
        (∃ reference, fault = .unresolvedReference reference) ∨
          ∃ location expected, fault = .malformedNode location expected := by
      intro fault h
      rcases unresolved_or_raised hd h with hr | hr
      · exact .inl hr
      · obtain ⟨-, -, -, -, -, -, -, hm⟩ := hr
        cases hm with
        | properties => exact .inr ⟨_, _, rfl⟩
        | property => exact .inr ⟨_, _, rfl⟩
    refine ⟨fun h => ?_, fun name h => ?_, fun chain h => ?_, fun location expected => ?_⟩
    · simpa using hleft _ h
    · simpa using hleft _ h
    · simpa using hleft _ h
    · constructor
      · intro h
        simpa using unresolved_or_raised hd h
      · exact fun h => h.validate_eq

/-! ### A body that comes to a misshapen definition -/

def userReference : Json := .object [("$ref", .text "#/definitions/User")]

/-- The schema of a body that has a user. -/
def updateSchema : Json := .object [("properties", .object [("user", userReference)])]

/-- An operation with that body. -/
def updateOperation : Fields :=
  [("parameters", .array [.object
    [("name", .text "update"), ("in", .text "body"), ("schema", updateSchema)]])]

/-- A document with that operation, in which users have a list for their properties. -/
def listedUser : Document where
  paths := [("/users", .object [("get", .object updateOperation)])]
  definitions := [("User", .object [("properties", .array [.text "name"])])]
  parameters := []
  others := []

/-- A request for the operation, with a user. -/
def withUser : Http.Request := limitTen.withBody "\x7b\"user\":\x7b\x7d\x7d".toUTF8

theorem decodeBody_withUser :
    decodeBody withUser.body = .ok (.object [("user", .object [])]) := by
  have hinner : (Json.object []).Portable := .object (by decide) (by simp)
  have hportable : (Json.object [("user", .object [])]).Portable :=
    .object (by decide) (by simp [hinner])
  exact decodeBody_of_compact hportable (by decide) rfl

theorem leads_userReference :
    listedUser.Leads userReference ["User"] (.object [("properties", .array [.text "name"])]) :=
  .step ⟨by decide, rfl⟩ (.content rfl)

/-- The document has no issues; the check of the body goes on to the user, and comes there to the
list of its properties. -/
theorem validate_listedUser :
    listedUser.issues = [] ∧ validate underApi listedUser withUser =
      .error (.malformedNode "#/definitions/User/properties" .mapping) := by
  have hissues : listedUser.issues = [] := by
    refine issues_eq_nil_iff.2 ⟨fun entry hmem => ?_, fun located hmem => ?_⟩
    · obtain rfl := List.mem_singleton.1 hmem
      rfl
    · obtain rfl := List.mem_singleton.1 hmem
      exact referenceDefect?_of_leads rfl leads_userReference
  have hroute : listedUser.route withUser.method (underApi.relative withUser.path) =
      .ok (routeTo underApi withUser "/users" [("get", .object updateOperation)]
        updateOperation) :=
    route_of_answered ofPath?_limitTen (answered_limitTen rfl)
  have hp : listedUser.operationParameters "/users" [("get", .object updateOperation)]
      withUser.method.key updateOperation =
        .ok ([] ++ ⟨"update", some .body, false, .unchecked, some updateSchema⟩ :: []) := by
    rfl
  have hdescends : Descends listedUser
      ⟨"body parameter 'update'", updateSchema, .object [("user", .object [])]⟩
      ⟨"body parameter 'update'/properties/user", userReference, .object []⟩ :=
    @Descends.property _ _ "user" _ _ _ _ [] [] [] _ (.content rfl) (.mapping rfl) (by simp) rfl rfl
  have hmisshapen : Misshapen listedUser
      ⟨"body parameter 'update'/properties/user", userReference, .object []⟩
      (.malformedNode "#/definitions/User/properties" .mapping) := by
    refine .properties leads_userReference fun properties hdeclares => ?_
    cases hdeclares with
    | absent h => cases h
    | null h => cases h
    | mapping h => cases h
  have hraised : RaisedByBody underApi listedUser withUser
      (.malformedNode "#/definitions/User/properties" .mapping) :=
    .intro hroute hp (by simp) rfl decodeBody_withUser rfl (.single hdescends) hmisshapen
  have hleft := ((faults_of_issues_eq_nil listedUser hissues).2.2 underApi withUser).2.2.2
  exact ⟨hissues, (hleft _ _).2 hraised⟩

end Conformance

end ApiContract
