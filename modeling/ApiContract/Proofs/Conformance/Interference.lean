import ApiContract.Proofs.Conformance.Acceptance

/-
What a request can be judged by.

Path and method lead to an operation, and the parameters of the operation say what else is looked
at: the query under the names that they give for it, and the body if one of them is at the body.
Two requests that are the same there get the same verdict, whatever else they bring along.

Main definitions:

* `ApiContract.Conformance.askedOf` — the parameters that a request is checked against;
* `ApiContract.Conformance.AgreeOn` — two requests that are the same where parameters look.

Main results:

* `ApiContract.Conformance.checkOne_eq_of_agreeOn` — the check of one parameter;
* `ApiContract.Conformance.validate_eq_of_agreeOn` — **no verdict depends on what is not declared**.
-/

set_option autoImplicit false

namespace ApiContract

namespace Conformance

open Document FirstFailure

/-- The parameters of the operation to which a request is routed. -/
def askedOf (settings : Settings) (d : Document) (request : Http.Request) :
    Except Rejection (List Parameter) := do
  let route ← d.route request.method (settings.relative request.path)
  Check.ofFault (d.operationParameters route.template route.item route.method route.operation)

/-- The second request has the same query values as the first under the names of query parameters,
and the same body where there is a body parameter. -/
structure AgreeOn (ps : List Parameter) (request request' : Http.Request) : Prop where
  query : ∀ p ∈ ps, p.place = some .query →
    request'.query.get? p.name = request.query.get? p.name
  body : (∃ p ∈ ps, p.place = some .body) → request'.body = request.body

variable {settings : Settings} {d : Document} {request request' : Http.Request}
  {ps : List Parameter} {p : Parameter}

/-! ### One parameter -/

/-- A parameter looks at its own place. -/
theorem checkOne_eq_of_agreeOn (h : AgreeOn ps request request') (hp : p ∈ ps) (route : Route) :
    checkOne settings d request' route p = checkOne settings d request route p := by
  cases hc : p.isChecked with
  | false => rw [checkOne_of_not_checked hc, checkOne_of_not_checked hc]
  | true =>
      rcases Parameter.isChecked_iff.1 hc with hquery | hpath | hbody
      · rw [checkOne_of_query hquery, checkOne_of_query hquery, h.query p hp hquery]
      · rw [checkOne_of_path hpath, checkOne_of_path hpath]
      · rw [checkOne_of_body hbody, checkOne_of_body hbody, h.body ⟨p, hp, hbody⟩]

/-! ### Method and path -/

section Routed

variable (hpath : request'.path = request.path)
  (hmethod : Text.eqIgnoringCase request'.method.name request.method.name = true)

include hpath hmethod

/-- Letter case apart, the same method of the same path leads to the same operation. -/
theorem route_eq_of_same :
    d.route request'.method (settings.relative request'.path) =
      d.route request.method (settings.relative request.path) := by
  have hkey : request'.method.key = request.method.key := of_decide_eq_true hmethod
  unfold Document.route
  rw [hpath, hkey]

/-- The checks are the same if the requests agree on what they are asked for, and if there is nothing
that they could be asked for. -/
theorem check_eq_of_agreeOn
    (h : ∀ ps, askedOf settings d request = .ok ps → AgreeOn ps request request') :
    check settings d request' = check settings d request := by
  refine check_eq_of_checkOne_eq (route_eq_of_same hpath hmethod) fun route ps hroute hps p hp => ?_
  have hasked : askedOf settings d request = .ok ps := by
    simp only [askedOf, hroute, bind, Except.bind, hps, Check.ofFault]
  exact checkOne_eq_of_agreeOn (h ps hasked) hp route

/-- **No verdict depends on what is not declared.**  Two requests with the same path and, letter case
apart, the same method get the same verdict if they agree on what the operation declares, and
whatever else they hold if they come to no operation. -/
theorem validate_eq_of_agreeOn :
    ((∀ ps, askedOf settings d request = .ok ps → AgreeOn ps request request') →
      validate settings d request' = validate settings d request) ∧
    ∀ rejection, d.route request.method (settings.relative request.path) = .error rejection →
      validate settings d request' = validate settings d request := by
  have hvalidate : (∀ ps, askedOf settings d request = .ok ps → AgreeOn ps request request') →
      validate settings d request' = validate settings d request := fun h => by
    unfold validate
    rw [check_eq_of_agreeOn hpath hmethod h]
  refine ⟨hvalidate, fun rejection hroute => hvalidate fun ps hps => ?_⟩
  simp [askedOf, hroute, bind, Except.bind] at hps

end Routed

/-! ### A request with more than it is asked for -/

/-- A document with an operation that takes the size of a batch and no body. -/
def batchDocument : Document := signUpDocument [batchDeclaration]

/-- A request for it with a mapping under a name that is not declared, and with a body that is no
JSON. -/
def crowded : Http.Request where
  method := ⟨"get", by decide, by decide⟩
  path := "/api/users/"
  query := [("debug", .object [("level", .int 3)]), ("batch", .text "2")]
  body := "\x7b".toUTF8

/-- The request at a path that leads nowhere. -/
def stray (request : Http.Request) : Http.Request := { request with path := "users" }

theorem askedOf_signUp : askedOf underApi batchDocument signUp = .ok [batchParameter] := by
  have hroute : batchDocument.route signUp.method (underApi.relative signUp.path) =
      .ok (routeTo underApi limitTen "/users"
        [("get", .object (operationOf [batchDeclaration]))] (operationOf [batchDeclaration])) :=
    route_of_answered ofPath?_limitTen (answered_limitTen rfl)
  unfold askedOf
  rw [hroute]
  rfl

theorem route_stray :
    batchDocument.route (stray signUp).method (underApi.relative (stray signUp).path) =
      .error (.refused .unknownUrl) :=
  route_of_templateFor_error (templateFor_of_not_slash (by decide))

theorem agreeOn_crowded : AgreeOn [batchParameter] signUp crowded where
  query p hmem _ := by
    obtain rfl := List.mem_singleton.1 hmem
    rfl
  body h := by
    obtain ⟨p, hmem, hbody⟩ := h
    obtain rfl := List.mem_singleton.1 hmem
    cases hbody

/-- The body is not even read, and at a path that leads nowhere nothing is. -/
theorem validate_crowded :
    crowded.path = signUp.path ∧
    Text.eqIgnoringCase crowded.method.name signUp.method.name = true ∧
    (∀ ps, askedOf underApi batchDocument signUp = .ok ps → AgreeOn ps signUp crowded) ∧
    validate underApi batchDocument crowded = .ok .valid ∧
    validate underApi batchDocument (stray crowded) = .ok (.invalid .unknownUrl) := by
  have hpath : crowded.path = signUp.path := rfl
  have hstray : (stray crowded).path = (stray signUp).path := rfl
  have hmethod : Text.eqIgnoringCase crowded.method.name signUp.method.name = true := by
    refine decide_eq_true ?_
    rw [← String.toList_inj, Text.toList_lower, Text.toList_lower]
    rfl
  have hagree : ∀ ps, askedOf underApi batchDocument signUp = .ok ps →
      AgreeOn ps signUp crowded := by
    intro ps hps
    obtain rfl := Except.ok.inj (askedOf_signUp.symm.trans hps)
    exact agreeOn_crowded
  refine ⟨hpath, hmethod, hagree, ?_, ?_⟩
  · rw [(validate_eq_of_agreeOn hpath hmethod).1 hagree]
    exact @validate_signUp _ [batchParameter] rfl (by simp)
  · rw [(validate_eq_of_agreeOn hstray hmethod).2 _ route_stray]
    exact validate_of_route_error route_stray

end Conformance

end ApiContract
