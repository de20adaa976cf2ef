import ApiContract.Conformance.Request
import ApiContract.Proofs.Conformance.Schema
import ApiContract.Proofs.Routing.Dispatch

/-
The verdict on a whole request, rule by rule.

`ApiContract.validate` goes from the mount point to a template, to an operation, to its parameters,
and stops where something is missed.  This module states the order of precedence as a relation with
one rule for each way a request can end, and shows that validation follows it.

Main definitions:

* `ApiContract.Conformance.ParameterMisses` — a parameter is missed by a request;
* `ApiContract.Conformance.dispatchPath` — the path by which a request is dispatched;
* `ApiContract.Conformance.Judged` — the outcome for a request, by the rules.

Main results:

* `ApiContract.Conformance.checkOne_eq_error_iff` — the check of one parameter;
* `ApiContract.Conformance.validate_eq_iff_judged` — validation follows the rules;
* `ApiContract.Conformance.validate_precedence` — **the same with the three refusals of a route
  singled out**.
-/

set_option autoImplicit false

namespace ApiContract

namespace Conformance

open Document

/-! ### One parameter -/

/-- The request misses a parameter, whose check fails with a rejection.  Parameters at other places
than query, path and body cannot be missed. -/
inductive ParameterMisses (settings : Settings) (d : Document) (request : Http.Request)
    (route : Route) : Parameter → Rejection → Prop
  | queryMissing {p : Parameter} :
      p.place = some .query → request.query.get? p.name = none → p.required = true →
      ParameterMisses settings d request route p (.refused (.queryMissing p.name))
  | queryMistyped {p : Parameter} {value : Json} :
      p.place = some .query → request.query.get? p.name = some value →
      hasType p.type value = false →
      ParameterMisses settings d request route p (.refused (.wrongType .query p.name p.type))
  | pathMistyped {p : Parameter} {value : String} :
      p.place = some .path → pathValue? settings.binding route p.name = some value →
      hasType p.type (.text value) = false →
      ParameterMisses settings d request route p (.refused (.wrongType .path p.name p.type))
  | undecodable {p : Parameter} :
      p.place = some .body → decodeBody request.body = .error .bodyNotJson →
      ParameterMisses settings d request route p (.refused .bodyNotJson)
  | schemaless {p : Parameter} {data : Json} :
      p.place = some .body → decodeBody request.body = .ok data → p.schema = none →
      ParameterMisses settings d request route p (.faulty (.missingBodySchema p.name))
  | bodyRejected {p : Parameter} {data schema : Json} {rejection : Rejection} :
      p.place = some .body → decodeBody request.body = .ok data → p.schema = some schema →
      Rejects d s!"body parameter '{p.name}'" schema data rejection →
      ParameterMisses settings d request route p rejection

variable {settings : Settings} {d : Document} {request : Http.Request} {route : Route}
  {p : Parameter} {rejection : Rejection}

/-- The only thing wrong with a payload is that it is no JSON text. -/
theorem decodeBody_eq_error {bytes : ByteArray} {refusal : Refusal}
    (h : decodeBody bytes = .error refusal) : refusal = .bodyNotJson := by
  unfold decodeBody at h
  split at h
  · cases h
  · split at h
    · cases h
    · exact (Except.error.inj h).symm

/-- Only parameters at the query, the path and the body are checked. -/
theorem checkOne_of_not_checked (h : p.isChecked = false) :
    checkOne settings d request route p = .ok () := by
  have hplace : p.place ≠ some .query ∧ p.place ≠ some .path ∧ p.place ≠ some .body := by
    simpa [Parameter.isChecked, and_assoc] using h
  unfold checkOne checkParameter
  split
  · next hb => exact absurd hb hplace.2.2
  · split
    · next hq => exact absurd hq hplace.1
    · next hp => exact absurd hp hplace.2.1
    · rfl

theorem checkOne_of_query (h : p.place = some .query) :
    checkOne settings d request route p =
      match request.query.get? p.name with
      | some value => Check.ofRefusal (checkType .query p.name p.type value)
      | none => if p.required then .error (.refused (.queryMissing p.name)) else .ok () := by
  unfold checkOne checkParameter
  rw [if_neg (by simp [h])]
  simp only [h]
  cases request.query.get? p.name with
  | some value => rfl
  | none => cases p.required <;> rfl

theorem checkOne_of_path (h : p.place = some .path) :
    checkOne settings d request route p =
      match pathValue? settings.binding route p.name with
      | some value => Check.ofRefusal (checkType .path p.name p.type (.text value))
      | none => .ok () := by
  unfold checkOne checkParameter
  rw [if_neg (by simp [h])]
  simp only [h]
  cases pathValue? settings.binding route p.name <;> rfl

theorem checkOne_of_body (h : p.place = some .body) :
    checkOne settings d request route p =
      match decodeBody request.body with
      | .ok data => checkBody d p data
      | .error refusal => .error (.refused refusal) := by
  unfold checkOne
  rw [if_pos h]
  cases decodeBody request.body <;> rfl

/-- **The check of a parameter fails exactly as the parameter is missed.** -/
theorem checkOne_eq_error_iff :
    checkOne settings d request route p = .error rejection ↔
      ParameterMisses settings d request route p rejection := by
  constructor
  · intro h
    cases hc : p.isChecked with
    | false =>
        rw [checkOne_of_not_checked hc] at h
        cases h
    | true =>
        -- the three places that are checked, each by its own rule
        rcases Parameter.isChecked_iff.1 hc with hp | hp | hp
        · rw [checkOne_of_query hp] at h
          cases hq : request.query.get? p.name with
          | some value =>
              rw [hq] at h
              obtain ⟨refusal, hr, rfl⟩ := Check.ofRefusal_eq_error_iff.1 h
              obtain ⟨ht, rfl⟩ := checkType_eq_error_iff.1 hr
              exact .queryMistyped hp hq ht
          | none =>
              simp only [hq] at h
              split at h
              · next hreq =>
                  cases h
                  exact .queryMissing hp hq hreq
              · cases h
        · rw [checkOne_of_path hp] at h
          cases hv : pathValue? settings.binding route p.name with
          | some value =>
              rw [hv] at h
              obtain ⟨refusal, hr, rfl⟩ := Check.ofRefusal_eq_error_iff.1 h
              obtain ⟨ht, rfl⟩ := checkType_eq_error_iff.1 hr
              exact .pathMistyped hp hv ht
          | none =>
              rw [hv] at h
              cases h
        · rw [checkOne_of_body hp] at h
          cases hb : decodeBody request.body with
          | ok data =>
              simp only [hb, checkBody] at h
              split at h
              · next hs =>
                  cases h
                  exact .schemaless hp hb hs
              · next schema hs =>
                  exact .bodyRejected hp hb hs (((decided d data _ _).2 _).1 h)
          | error refusal =>
              rw [hb] at h
              cases h
              obtain rfl := decodeBody_eq_error hb
              exact .undecodable hp hb
  · intro h
    cases h with
    | queryMissing hp hq hr => simp [checkOne_of_query hp, hq, hr]
    | queryMistyped hp hq ht =>
        rw [checkOne_of_query hp, hq]
        exact Check.ofRefusal_eq_error_iff.2 ⟨_, checkType_eq_error_iff.2 ⟨ht, rfl⟩, rfl⟩
    | pathMistyped hp hv ht =>
        rw [checkOne_of_path hp, hv]
        exact Check.ofRefusal_eq_error_iff.2 ⟨_, checkType_eq_error_iff.2 ⟨ht, rfl⟩, rfl⟩
    | undecodable hp hb => simp [checkOne_of_body hp, hb]
    | schemaless hp hb hs => simp [checkOne_of_body hp, hb, checkBody, hs]
    | bodyRejected hp hb hs hr =>
        simp only [checkOne_of_body hp, hb, checkBody, hs]
        exact ((decided d _ _ _).2 _).2 hr

/-- The check of a parameter passes when the parameter is not missed. -/
theorem checkOne_eq_ok_iff :
    checkOne settings d request route p = .ok () ↔
      ∀ rejection, ¬ ParameterMisses settings d request route p rejection := by
  simp only [← checkOne_eq_error_iff]
  cases checkOne settings d request route p <;> simp

/-- The parameters of an operation are a run of checks. -/
theorem checkParameters_eq_forM (ps : List Parameter) :
    checkParameters settings d request route ps = forM ps (checkOne settings d request route) := by
  induction ps with
  | nil => rfl
  | cons p ps ih => rw [checkParameters, List.forM_cons, ih]

/-- Requests that are routed alike are checked alike, if every parameter that comes up is. -/
theorem check_eq_of_checkOne_eq {settings' : Settings} {request' : Http.Request}
    (hroute : d.route request'.method (settings'.relative request'.path) =
      d.route request.method (settings.relative request.path))
    (hone : ∀ route ps, d.route request.method (settings.relative request.path) = .ok route →
      d.operationParameters route.template route.item route.method route.operation = .ok ps →
      ∀ p ∈ ps, checkOne settings' d request' route p = checkOne settings d request route p) :
    check settings' d request' = check settings d request := by
  unfold check
  rw [hroute]
  cases hr : d.route request.method (settings.relative request.path) with
  | error rejection => rfl
  | ok route =>
      cases hp : d.operationParameters route.template route.item route.method route.operation with
      | error fault => simp only [bind, Except.bind, hp, Check.ofFault]
      | ok ps =>
          have hrun : forM ps (checkOne settings' d request' route) =
              forM ps (checkOne settings d request route) :=
            FirstFailure.linkedChecks_eq_iff.1 (FirstFailure.linked_forM (List.forall₂_same.2
              fun p hmem => FirstFailure.linkedChecks_eq_iff.2 (hone route ps hr hp p hmem)))
          simp only [bind, Except.bind, hp, Check.ofFault, checkParameters_eq_forM, hrun]

/-! ### The kind of a refusal -/

/-- What a schema refuses is a bad request. -/
theorem Rejects.kind_eq {refusal : Refusal} {data schema : Json} {location : String}
    (h : Rejects d location schema data (.refused refusal)) : refusal.kind = .badRequest := by
  -- a refusal from further inside is one of a smaller value
  induction hn : sizeOf data using Nat.strongRecOn generalizing data schema location with
  | _ n ih =>
      subst hn
      cases h with
      | missed _ _ _ hm =>
          cases hm with
          | missing => rfl
          | nested hv _ hr => exact ih _ (sizeOf_lt_of_present? hv) hr rfl
          | mistyped => rfl

/-- A missed parameter is a bad request. -/
theorem ParameterMisses.kind_eq {refusal : Refusal}
    (h : ParameterMisses settings d request route p (.refused refusal)) :
    refusal.kind = .badRequest := by
  cases h with
  | bodyRejected _ _ _ hr => exact hr.kind_eq
  | _ => rfl

/-! ### The rules -/

/-- The path by which a request is dispatched: seen from the mount point, without trailing
slashes. -/
def dispatchPath (settings : Settings) (request : Http.Request) : String :=
  Routing.normalPath (settings.relative request.path)

def routeTo (settings : Settings) (request : Http.Request) (template : String)
    (item operation : Fields) : Route :=
  Route.of request.method (settings.relative request.path) template item operation

def Answered (settings : Settings) (d : Document) (request : Http.Request) (rule : Routing.Rule)
    (template : String) (item operation : Fields) : Prop :=
  d.Answers rule request.method (settings.relative request.path) template item operation

/-- The outcome for a request whose path has the given rule.  The rules stand in the order of their
precedence; each one but the first two says of the document that the earlier ones do not apply. -/
inductive Judged (settings : Settings) (d : Document) (request : Http.Request)
    (rule : Routing.Rule) : Except Fault Verdict → Prop
  /-- No template. -/
  | unknown :
      ((dispatchPath settings request).toList.head? ≠ some '/' ∨
        ∀ template ∈ d.templates, rule.selects template = false) →
      Judged settings d request rule (.ok (.invalid .unknownUrl))
  /-- Several templates. -/
  | ambiguous :
      (dispatchPath settings request).toList.head? = some '/' →
      2 ≤ d.templates.countP rule.selects →
      Judged settings d request rule (.ok (.invalid .ambiguousUrl))
  /-- One template, whose item is no mapping. -/
  | itemShape {template : String} {node : Json} :
      (dispatchPath settings request).toList.head? = some '/' → d.Selects rule template →
      d.paths.get? template = some node → (∀ item, node ≠ .object item) →
      Judged settings d request rule (.error (.malformedNode ("#/paths/" ++ template) .mapping))
  /-- The item does not document the method. -/
  | method {template : String} {item : Fields} :
      (dispatchPath settings request).toList.head? = some '/' → d.Selects rule template →
      d.paths.get? template = some (.object item) →
      (request.method.key ∉ operationKeys ∨ item.get? request.method.key = none) →
      Judged settings d request rule (.ok (.invalid .methodNotAllowed))
  /-- The operation is no mapping. -/
  | operationShape {template : String} {item : Fields} {node : Json} :
      (dispatchPath settings request).toList.head? = some '/' → d.Selects rule template →
      d.paths.get? template = some (.object item) → request.method.key ∈ operationKeys →
      item.get? request.method.key = some node → (∀ operation, node ≠ .object operation) →
      Judged settings d request rule
        (.error (.malformedNode s!"#/paths/{template}/{request.method.key}" .mapping))
  /-- The parameters of the operation cannot be read. -/
  | parameters {template : String} {item operation : Fields} {fault : Fault} :
      Answered settings d request rule template item operation →
      d.operationParameters template item request.method.key operation = .error fault →
      Judged settings d request rule (.error fault)
  /-- A parameter is missed, and none before it. -/
  | missed {template : String} {item operation : Fields} {before after : List Parameter}
      {p : Parameter} {rejection : Rejection} :
      Answered settings d request rule template item operation →
      d.operationParameters template item request.method.key operation =
        .ok (before ++ p :: after) →
      (∀ q ∈ before, ∀ r, ¬ ParameterMisses settings d request
        (routeTo settings request template item operation) q r) →
      ParameterMisses settings d request (routeTo settings request template item operation) p
        rejection →
      Judged settings d request rule (Verdict.ofCheck (.error rejection))
  /-- No parameter is missed. -/
  | valid {template : String} {item operation : Fields} {ps : List Parameter} :
      Answered settings d request rule template item operation →
      d.operationParameters template item request.method.key operation = .ok ps →
      (∀ p ∈ ps, ∀ r, ¬ ParameterMisses settings d request
        (routeTo settings request template item operation) p r) →
      Judged settings d request rule (.ok .valid)

/-! ### Validation follows the rules -/

theorem validate_of_route_error
    (h : d.route request.method (settings.relative request.path) = .error rejection) :
    validate settings d request = Verdict.ofCheck (.error rejection) := by
  simp only [validate, check, h, bind, Except.bind]

theorem validate_of_route
    (h : d.route request.method (settings.relative request.path) = .ok route) :
    validate settings d request = Verdict.ofCheck
      (Check.ofFault (d.operationParameters route.template route.item route.method
        route.operation) >>= fun ps => forM ps (checkOne settings d request route)) := by
  simp only [validate, check, h, checkParameters_eq_forM]
  rfl

section Route

variable (hroute : d.route request.method (settings.relative request.path) = .ok route)

include hroute

/-- Parameters that cannot be read are a fault. -/
theorem validate_of_unreadable {fault : Fault}
    (hp : d.operationParameters route.template route.item route.method route.operation =
      .error fault) :
    validate settings d request = .error fault := by
  rw [validate_of_route hroute, hp]
  rfl

/-- The first parameter that is missed decides. -/
theorem validate_of_missed {before after : List Parameter}
    (hp : d.operationParameters route.template route.item route.method route.operation =
      .ok (before ++ p :: after))
    (hbefore : ∀ q ∈ before, ∀ r, ¬ ParameterMisses settings d request route q r)
    (hmiss : ParameterMisses settings d request route p rejection) :
    validate settings d request = Verdict.ofCheck (.error rejection) := by
  have hrun : forM (before ++ p :: after) (checkOne settings d request route) =
      .error rejection :=
    FirstFailure.forM_eq_error_iff.2 ⟨before, p, after, rfl,
      fun q hq => checkOne_eq_ok_iff.2 (hbefore q hq), checkOne_eq_error_iff.2 hmiss⟩
  rw [validate_of_route hroute, hp]
  simp only [Check.ofFault, bind, Except.bind, hrun]

/-- A request that misses no parameter is valid. -/
theorem validate_of_unmissed {ps : List Parameter}
    (hp : d.operationParameters route.template route.item route.method route.operation = .ok ps)
    (hall : ∀ p ∈ ps, ∀ r, ¬ ParameterMisses settings d request route p r) :
    validate settings d request = .ok .valid := by
  have hrun : forM ps (checkOne settings d request route) = .ok () :=
    FirstFailure.forM_eq_ok_iff.2 fun p hmem => checkOne_eq_ok_iff.2 (hall p hmem)
  rw [validate_of_route hroute, hp]
  simp only [Check.ofFault, bind, Except.bind, hrun]
  rfl

end Route

/-- No parameter is missed, or one is missed before all others. -/
theorem unmissed_or_missed (settings : Settings) (d : Document) (request : Http.Request)
    (route : Route) (ps : List Parameter) :
    (∀ p ∈ ps, ∀ r, ¬ ParameterMisses settings d request route p r) ∨
      ∃ before p after rejection, ps = before ++ p :: after ∧
        (∀ q ∈ before, ∀ r, ¬ ParameterMisses settings d request route q r) ∧
        ParameterMisses settings d request route p rejection := by
  cases hrun : forM ps (checkOne settings d request route) with
  | ok _ =>
      refine .inl fun p hmem => ?_
      exact checkOne_eq_ok_iff.1 (FirstFailure.forM_eq_ok_iff.1 hrun p hmem)
  | error rejection =>
      obtain ⟨before, p, after, rfl, hbefore, hcheck⟩ := FirstFailure.forM_eq_error_iff.1 hrun
      exact .inr ⟨before, p, after, rejection, rfl,
        fun q hq => checkOne_eq_ok_iff.1 (hbefore q hq), checkOne_eq_error_iff.1 hcheck⟩

/-- A fault is one of the route, of its parameters as a list, or of the first one that is missed. -/
theorem exists_of_validate_eq_error {fault : Fault}
    (h : validate settings d request = .error fault) :
    d.route request.method (settings.relative request.path) = .error (.faulty fault) ∨
      ∃ route, d.route request.method (settings.relative request.path) = .ok route ∧
        (d.operationParameters route.template route.item route.method route.operation =
            .error fault ∨
          ∃ before p after,
            d.operationParameters route.template route.item route.method route.operation =
              .ok (before ++ p :: after) ∧
            (∀ q ∈ before, ∀ r, ¬ ParameterMisses settings d request route q r) ∧
            ParameterMisses settings d request route p (.faulty fault)) := by
  cases hroute : d.route request.method (settings.relative request.path) with
  | error rejection =>
      rw [validate_of_route_error hroute] at h
      cases rejection with
      | refused refusal => cases h
      | faulty stopped =>
          cases h
          exact .inl rfl
  | ok route =>
      refine .inr ⟨route, rfl, ?_⟩
      cases hp : d.operationParameters route.template route.item route.method route.operation with
      | error stopped =>
          rw [validate_of_unreadable hroute hp] at h
          cases h
          exact .inl rfl
      | ok ps =>
          rcases unmissed_or_missed settings d request route ps with
            hall | ⟨before, p, after, rejection, rfl, hbefore, hmiss⟩
          · rw [validate_of_unmissed hroute hp hall] at h
            cases h
          · rw [validate_of_missed hroute hp hbefore hmiss] at h
            cases rejection with
            | refused refusal => cases h
            | faulty stopped =>
                cases h
                exact .inr ⟨before, p, after, rfl, hbefore, hmiss⟩

section Rules

variable {rule : Routing.Rule}
  (hrule : Routing.Rule.ofPath? (dispatchPath settings request) = some rule)

include hrule

/-- An operation that answers is the one to which the request is routed. -/
theorem route_of_answered {template : String} {item operation : Fields}
    (ha : Answered settings d request rule template item operation) :
    d.route request.method (settings.relative request.path) =
      .ok (routeTo settings request template item operation) :=
  (route_eq_ok_iff hrule).2 ⟨template, item, operation, ha, rfl⟩

theorem judged_validate : Judged settings d request rule (validate settings d request) := by
  -- along the route: where a step fails, the rule is that of its failure
  cases ht : d.templateFor (settings.relative request.path) with
  | error refusal =>
      rw [validate_of_route_error (route_of_templateFor_error ht)]
      rcases templateFor_eq_error hrule ht with rfl | rfl
      · exact .unknown ((templateFor_eq_unknownUrl_iff hrule).1 ht)
      · obtain ⟨hslash, htwo⟩ := (templateFor_eq_ambiguousUrl_iff hrule).1 ht
        exact .ambiguous hslash htwo
  | ok template =>
      obtain ⟨hslash, hsel⟩ := (templateFor_eq_ok_iff hrule).1 ht
      cases hi : d.pathItem template with
      | error fault =>
          rw [validate_of_route_error (route_of_pathItem_error ht hi)]
          obtain ⟨⟨node, hnode, hshape⟩, rfl⟩ := (pathItem_eq_error_iff hsel.mem).1 hi
          exact .itemShape hslash hsel hnode hshape
      | ok item =>
          have hitem := pathItem_eq_ok_iff.1 hi
          cases ho : operation template item request.method.key with
          | error rejection =>
              rw [validate_of_route_error (route_of_operation_error ht hi ho)]
              cases rejection with
              | refused refusal =>
                  obtain ⟨hmethod, rfl⟩ := operation_eq_refused_iff.1 ho
                  exact .method hslash hsel hitem hmethod
              | faulty fault =>
                  obtain ⟨hk, ⟨node, hnode, hshape⟩, rfl⟩ := operation_eq_faulty_iff.1 ho
                  exact .operationShape hslash hsel hitem hk hnode hshape
          | ok op =>
              obtain ⟨hk, hop⟩ := operation_eq_ok_iff.1 ho
              have ha : Answered settings d request rule template item op :=
                ⟨hslash, hsel, hitem, hk, hop⟩
              have hroute := route_of_answered hrule ha
              cases hp : d.operationParameters template item request.method.key op with
              | error fault =>
                  rw [validate_of_unreadable hroute hp]
                  exact .parameters ha hp
              | ok ps =>
                  rcases unmissed_or_missed settings d request
                      (routeTo settings request template item op) ps with
                    hall | ⟨before, p, after, rejection, rfl, hbefore, hmiss⟩
                  · rw [validate_of_unmissed hroute hp hall]
                    exact .valid ha hp hall
                  · rw [validate_of_missed hroute hp hbefore hmiss]
                    exact .missed ha hp hbefore hmiss

theorem Judged.validate_eq {outcome : Except Fault Verdict}
    (h : Judged settings d request rule outcome) : validate settings d request = outcome := by
  cases h with
  | unknown h =>
      rw [validate_of_route_error (route_of_templateFor_error
        ((templateFor_eq_unknownUrl_iff hrule).2 h))]
      rfl
  | ambiguous hslash htwo =>
      rw [validate_of_route_error (route_of_templateFor_error
        ((templateFor_eq_ambiguousUrl_iff hrule).2 ⟨hslash, htwo⟩))]
      rfl
  | itemShape hslash hsel hnode hshape =>
      have ht := (templateFor_eq_ok_iff hrule).2 ⟨hslash, hsel⟩
      rw [validate_of_route_error (route_of_pathItem_error ht
        ((pathItem_eq_error_iff hsel.mem).2 ⟨⟨_, hnode, hshape⟩, rfl⟩))]
      rfl
  | method hslash hsel hitem hmethod =>
      have ht := (templateFor_eq_ok_iff hrule).2 ⟨hslash, hsel⟩
      rw [validate_of_route_error (route_of_operation_error ht (pathItem_eq_ok_iff.2 hitem)
        (operation_eq_refused_iff.2 ⟨hmethod, rfl⟩))]
      rfl
  | operationShape hslash hsel hitem hk hnode hshape =>
      have ht := (templateFor_eq_ok_iff hrule).2 ⟨hslash, hsel⟩
      rw [validate_of_route_error (route_of_operation_error ht (pathItem_eq_ok_iff.2 hitem)
        (operation_eq_faulty_iff.2 ⟨hk, ⟨_, hnode, hshape⟩, rfl⟩))]
      rfl
  | parameters ha hp => exact validate_of_unreadable (route_of_answered hrule ha) hp
  | missed ha hp hbefore hmiss =>
      exact validate_of_missed (route_of_answered hrule ha) hp hbefore hmiss
  | valid ha hp hall => exact validate_of_unmissed (route_of_answered hrule ha) hp hall

theorem validate_eq_iff_judged {outcome : Except Fault Verdict} :
    validate settings d request = outcome ↔ Judged settings d request rule outcome := by
  constructor
  · rintro rfl
    exact judged_validate hrule
  · exact fun h => h.validate_eq hrule

end Rules

/-! ### The refusals of a route -/

/-- A refused request is refused by one of the three rules about its route, or is a bad request. -/
theorem Judged.invalid {rule : Routing.Rule} {outcome : Except Fault Verdict} {refusal : Refusal}
    (h : Judged settings d request rule outcome) (ho : outcome = .ok (.invalid refusal)) :
    (refusal = .unknownUrl ∧ ((dispatchPath settings request).toList.head? ≠ some '/' ∨
      ∀ template ∈ d.templates, rule.selects template = false)) ∨
    (refusal = .ambiguousUrl ∧ (dispatchPath settings request).toList.head? = some '/' ∧
      2 ≤ d.templates.countP rule.selects) ∨
    (refusal = .methodNotAllowed ∧ ∃ (template : String) (item : Fields),
      (dispatchPath settings request).toList.head? = some '/' ∧ d.Selects rule template ∧
      d.paths.get? template = some (.object item) ∧
      (request.method.key ∉ operationKeys ∨ item.get? request.method.key = none)) ∨
    refusal.kind = .badRequest := by
  cases h with
  | unknown h =>
      cases ho
      exact .inl ⟨rfl, h⟩
  | ambiguous hslash htwo =>
      cases ho
      exact .inr (.inl ⟨rfl, hslash, htwo⟩)
  | method hslash hsel hitem hmethod =>
      cases ho
      exact .inr (.inr (.inl ⟨rfl, _, _, hslash, hsel, hitem, hmethod⟩))
  | @missed _ _ _ _ _ _ rejection ha hp hbefore hmiss =>
      cases rejection with
      | refused missed =>
          cases ho
          exact .inr (.inr (.inr hmiss.kind_eq))
      | faulty fault => cases ho
  | _ => cases ho

/-- **Validation follows the rules in their order of precedence.**  A request is answered by
`Url not found` when its path begins with no slash or selects no template, by `Url conflict` when it
selects several, by the kind `BAD_METHOD` when the only template does not document its method, and
every outcome at all is the one that the rules give. -/
theorem validate_precedence {rule : Routing.Rule}
    (hrule : Routing.Rule.ofPath? (dispatchPath settings request) = some rule) :
    ((∃ refusal, validate settings d request = .ok (.invalid refusal) ∧
        refusal.kind = .badUrl ∧ refusal.message = "Url not found") ↔
      ((dispatchPath settings request).toList.head? ≠ some '/' ∨
        ∀ template ∈ d.templates, rule.selects template = false)) ∧
    ((∃ refusal, validate settings d request = .ok (.invalid refusal) ∧
        refusal.kind = .badUrl ∧ refusal.message = "Url conflict") ↔
      ((dispatchPath settings request).toList.head? = some '/' ∧
        2 ≤ d.templates.countP rule.selects)) ∧
    ((∃ refusal, validate settings d request = .ok (.invalid refusal) ∧
        refusal.kind = .badMethod) ↔
      ∃ (template : String) (item : Fields),
        (dispatchPath settings request).toList.head? = some '/' ∧ d.Selects rule template ∧
        d.paths.get? template = some (.object item) ∧
        (request.method.key ∉ operationKeys ∨ item.get? request.method.key = none)) ∧
    ∀ outcome, validate settings d request = outcome ↔
      Judged settings d request rule outcome := by
  refine ⟨⟨?_, fun h => ?_⟩, ⟨?_, fun h => ?_⟩, ⟨?_, fun h => ?_⟩,
    fun _ => validate_eq_iff_judged hrule⟩
  · rintro ⟨refusal, hv, hkind, hmessage⟩
    rcases ((validate_eq_iff_judged hrule).1 hv).invalid rfl with
      ⟨rfl, h⟩ | ⟨rfl, -⟩ | ⟨rfl, -⟩ | hbad
    · exact h
    · simp [Refusal.message] at hmessage
    · cases hkind
    · rw [hbad] at hkind
      cases hkind
  · exact ⟨.unknownUrl, (Judged.unknown h).validate_eq hrule, rfl, rfl⟩
  · rintro ⟨refusal, hv, hkind, hmessage⟩
    rcases ((validate_eq_iff_judged hrule).1 hv).invalid rfl with
      ⟨rfl, -⟩ | ⟨rfl, h⟩ | ⟨rfl, -⟩ | hbad
    · simp [Refusal.message] at hmessage
    · exact h
    · cases hkind
    · rw [hbad] at hkind
      cases hkind
  · exact ⟨.ambiguousUrl, (Judged.ambiguous h.1 h.2).validate_eq hrule, rfl, rfl⟩
  · rintro ⟨refusal, hv, hkind⟩
    rcases ((validate_eq_iff_judged hrule).1 hv).invalid rfl with
      ⟨rfl, -⟩ | ⟨rfl, -⟩ | ⟨rfl, h⟩ | hbad
    · cases hkind
    · cases hkind
    · exact h
    · rw [hbad] at hkind
      cases hkind
  · obtain ⟨template, item, hslash, hsel, hitem, hmethod⟩ := h
    exact ⟨.methodNotAllowed, (Judged.method hslash hsel hitem hmethod).validate_eq hrule, rfl⟩

/-! ### A request that is refused -/

/-- An operation that takes a number from the query. -/
def listOperation : Fields :=
  [("parameters", .array
    [.object [("name", .text "limit"), ("in", .text "query"), ("type", .text "integer")]])]

/-- A document with that operation alone. -/
def userListing : Document where
  paths := [("/users", .object [("get", .object listOperation)])]
  definitions := []
  parameters := []
  others := []

/-- Settings that mount the document under a prefix. -/
def underApi : Settings := ⟨"api", "", .template⟩

/-- A request for the operation whose number is none. -/
def limitTen : Http.Request where
  method := ⟨"GET", by decide, by decide⟩
  path := "/api/users/"
  query := [("limit", .text "ten")]
  body := .empty

/-- The same request with a value that no query string gives. -/
def limitNull : Http.Request := { limitTen with query := [("limit", .null)] }

theorem key_limitTen : limitTen.method.key = "get" := by
  rw [← String.toList_inj, Http.Method.key, Text.toList_lower]
  rfl

theorem ofPath?_limitTen :
    Routing.Rule.ofPath? (dispatchPath underApi limitTen) = some ⟨"users", false⟩ := by
  have hpath : dispatchPath underApi limitTen = "/users" := by decide
  have hrule : Routing.Rule.ofPath "/users" = ⟨"users", false⟩ := by decide
  unfold Routing.Rule.ofPath?
  rw [hpath, hrule]
  exact if_pos (by decide)

/-- The operation for the request, in any document that has it at the only template. -/
theorem answered_limitTen {d : Document} {operation : Fields}
    (hd : d.paths = [("/users", .object [("get", .object operation)])]) :
    Answered underApi d limitTen ⟨"users", false⟩ "/users" [("get", .object operation)]
      operation := by
  have hselects : Routing.Rule.selects ⟨"users", false⟩ "/users" = true := by
    simp [Routing.Rule.selects, Routing.Rule.pattern, Routing.accepts]
  have hslash : (dispatchPath underApi limitTen).toList.head? = some '/' := by decide
  refine ⟨hslash, ⟨?_, hselects, ?_⟩, ?_, ?_, ?_⟩
  · simp [templates, Fields.keys, hd]
  · simp [templates, Fields.keys, hd, hselects]
  · rw [hd]
    rfl
  · rw [key_limitTen]
    decide
  · rw [key_limitTen]
    rfl

/-- The number is what both requests miss. -/
theorem validate_limitTen :
    Routing.Rule.ofPath? (dispatchPath underApi limitTen) = some ⟨"users", false⟩ ∧
    validate underApi userListing limitTen =
      .ok (.invalid (.wrongType .query "limit" .integer)) ∧
    validate underApi userListing limitNull =
      .ok (.invalid (.wrongType .query "limit" .integer)) := by
  have hp : userListing.operationParameters "/users" [("get", .object listOperation)]
      limitTen.method.key listOperation =
        .ok ([] ++ ⟨"limit", some .query, false, .integer, none⟩ :: []) := by
    rfl
  have hten : Judged underApi userListing limitTen ⟨"users", false⟩
      (.ok (.invalid (.wrongType .query "limit" .integer))) :=
    .missed (answered_limitTen rfl) hp (by simp) (.queryMistyped rfl rfl (by decide))
  -- dispatch does not look at the query
  have hrule : Routing.Rule.ofPath? (dispatchPath underApi limitNull) = some ⟨"users", false⟩ :=
    ofPath?_limitTen
  have hanswered : Answered underApi userListing limitNull ⟨"users", false⟩ "/users"
      [("get", .object listOperation)] listOperation := answered_limitTen rfl
  have hnull : Judged underApi userListing limitNull ⟨"users", false⟩
      (.ok (.invalid (.wrongType .query "limit" .integer))) :=
    .missed hanswered hp (by simp) (.queryMistyped rfl rfl (by decide))
  exact ⟨ofPath?_limitTen, ((validate_precedence ofPath?_limitTen).2.2.2 _).2 hten,
    ((validate_precedence hrule).2.2.2 _).2 hnull⟩

end Conformance

end ApiContract
