import ApiContract.Proofs.Conformance.Mounting
import ApiContract.Proofs.Routing.Instance

/-
The two modes of binding.

By the template a path parameter has the value of the placeholder with its name; by the third segment
it has the segment after the resource, whatever its name.  The two can differ only for a parameter
that is named like a placeholder at another position, or like none.

Main definitions:

* `ApiContract.Routing.NamedOnce` — the placeholder after the resource is the only one of its name;
* `ApiContract.Conformance.BoundAfterResource` — this placeholder has the name of every path parameter
  that a request is checked against.

Main results:

* `ApiContract.Conformance.value?_eq_thirdSegment` — the value of a name that is bound there only;
* `ApiContract.Conformance.validate_template_eq_thirdSegment` — **a request is answered alike in both
  modes when all path parameters that it is checked against are bound there**.
-/

set_option autoImplicit false

namespace ApiContract

/-- The placeholder right after the resource has the name, and no other one has. -/
def Routing.NamedOnce (template name : String) : Prop :=
  ∀ i, placeholderAt template i = some name ↔ i = 2

namespace Conformance

open Document Routing

variable {settings : Settings} {d : Document} {request : Http.Request} {method : Http.Method}
  {path name : String} {route : Route} {p : Parameter}

/-! ### One parameter -/

/-- A name that is bound right after the resource has the third segment for its value, and none where
the path ends before. -/
theorem value?_eq_thirdSegment (hroute : d.route method path = .ok route)
    (h : NamedOnce route.template name) : route.value? name = route.thirdSegment := by
  obtain ⟨rule, template, item, op, -, rfl⟩ := exists_answers_of_route hroute
  have hbindings : (Route.of method path template item op).bindings =
      bindings template (normalPath path) := rfl
  refine Option.ext fun value => ?_
  rw [value?_eq_some_iff hbindings]
  constructor
  · rintro ⟨i, hname, hvalue, -⟩
    obtain rfl := (h i).1 hname
    exact hvalue
  · intro hvalue
    refine ⟨2, (h 2).2 rfl, hvalue, fun j hj hname => ?_⟩
    exact absurd ((h j).1 hname) (Nat.ne_of_gt hj)

/-- Only path parameters are looked up by a mode of binding. -/
theorem checkOne_binding_eq (hroute : d.route method path = .ok route)
    (h : p.place = some .path → NamedOnce route.template p.name) :
    checkOne { settings with binding := .template } d request route p =
      checkOne { settings with binding := .thirdSegment } d request route p := by
  by_cases hpath : p.place = some .path
  · rw [checkOne_of_path hpath, checkOne_of_path hpath]
    have hvalue : pathValue? .template route p.name = pathValue? .thirdSegment route p.name :=
      value?_eq_thirdSegment hroute (h hpath)
    rw [hvalue]
  · unfold checkOne checkParameter
    split
    · rfl
    · split
      · rfl
      · next hp => exact absurd hp hpath
      · rfl

/-! ### A request -/

/-- Every path parameter that the request is checked against is named like the placeholder right
after the resource, and no other placeholder has that name. -/
def BoundAfterResource (settings : Settings) (d : Document) (request : Http.Request) : Prop :=
  ∀ route ps, d.route request.method (settings.relative request.path) = .ok route →
    d.operationParameters route.template route.item route.method route.operation = .ok ps →
    ∀ p ∈ ps, p.place = some .path → NamedOnce route.template p.name

/-- **A request is answered alike in both modes of binding**, if the path parameters that it is
checked against are bound right after the resource and nowhere else. -/
theorem validate_template_eq_thirdSegment (settings : Settings) (d : Document)
    (request : Http.Request) (h : BoundAfterResource settings d request) :
    validate { settings with binding := .template } d request =
      validate { settings with binding := .thirdSegment } d request := by
  have hcheck : check { settings with binding := .template } d request =
      check { settings with binding := .thirdSegment } d request :=
    check_eq_of_checkOne_eq rfl fun route ps hroute hps p hmem =>
      checkOne_binding_eq hroute (h route ps hroute hps p hmem)
  rw [validate, hcheck, validate]

/-! ### The orders of a user -/

/-- A template with one placeholder and a segment behind it. -/
def ordersTemplate : String := "/users/\x7bid\x7d/orders"

/-- An operation that takes a number from the path. -/
def ordersOperation : Fields :=
  [("parameters", .array
    [.object [("name", .text "id"), ("in", .text "path"), ("type", .text "integer")]])]

/-- A document with that operation alone. -/
def ordersDocument : Document where
  paths := [(ordersTemplate, .object [("get", .object ordersOperation)])]
  definitions := []
  parameters := []
  others := []

/-- A request for it that goes on further, with a number that is none. -/
def ordersOfTen : Http.Request := limitTen.atPath "/api/users/ten/orders/7/"

theorem namedOnce_orders : NamedOnce ordersTemplate "id" := by
  have hsegments : Text.segments '/' ordersTemplate = ["", "users", "\x7bid\x7d", "orders"] := by
    decide
  intro i
  rw [placeholderAt, hsegments]
  rcases i with _ | _ | _ | _ | i
  · decide
  · decide
  · decide
  · decide
  · simp

theorem ofPath?_ordersOfTen :
    Rule.ofPath? (dispatchPath underApi ordersOfTen) = some ⟨"users", true⟩ := by
  have hpath : dispatchPath underApi ordersOfTen = "/users/ten/orders/7" := by decide
  rw [hpath]
  exact Rule.ofPath?_eq_some_iff.2 ⟨by decide, by decide⟩

theorem answered_ordersOfTen :
    Answered underApi ordersDocument ordersOfTen ⟨"users", true⟩ ordersTemplate
      [("get", .object ordersOperation)] ordersOperation := by
  have hslash : (dispatchPath underApi ordersOfTen).toList.head? = some '/' := by decide
  have hselects : Rule.selects ⟨"users", true⟩ ordersTemplate = true :=
    (Rule.selects_nested_iff rfl).2 ⟨"\x7bid\x7d/orders".toList, by decide, by decide⟩
  have hkey : ordersOfTen.method.key = "get" := key_limitTen
  refine ⟨hslash, ⟨by decide, hselects, ?_⟩, rfl, ?_, ?_⟩
  · simp [templates, Fields.keys, ordersDocument, hselects]
  · rw [hkey]
    decide
  · rw [hkey]
    rfl

theorem operationParameters_orders (key : String) :
    ordersDocument.operationParameters ordersTemplate [("get", .object ordersOperation)] key
      ordersOperation = .ok [⟨"id", some .path, false, .integer, none⟩] := rfl

theorem route_ordersOfTen :
    ordersDocument.route ordersOfTen.method (underApi.relative ordersOfTen.path) =
      .ok (routeTo underApi ordersOfTen ordersTemplate [("get", .object ordersOperation)]
        ordersOperation) :=
  route_of_answered ofPath?_ordersOfTen answered_ordersOfTen

theorem boundAfterResource_ordersOfTen :
    BoundAfterResource underApi ordersDocument ordersOfTen := by
  intro route ps hroute hps p hmem _
  obtain rfl := Except.ok.inj (route_ordersOfTen.symm.trans hroute)
  obtain rfl := Except.ok.inj ((operationParameters_orders _).symm.trans hps)
  obtain rfl := List.mem_singleton.1 hmem
  exact namedOnce_orders

/-- The number is missed by its name and by its position. -/
theorem validate_ordersOfTen :
    BoundAfterResource underApi ordersDocument ordersOfTen ∧
    validate { underApi with binding := .template } ordersDocument ordersOfTen =
      .ok (.invalid (.wrongType .path "id" .integer)) ∧
    validate { underApi with binding := .thirdSegment } ordersDocument ordersOfTen =
      .ok (.invalid (.wrongType .path "id" .integer)) := by
  have hvalue : pathValue? .template (routeTo underApi ordersOfTen ordersTemplate
      [("get", .object ordersOperation)] ordersOperation) "id" = some "ten" := by
    decide
  have hmissed : validate { underApi with binding := .template } ordersDocument ordersOfTen =
      .ok (.invalid (.wrongType .path "id" .integer)) :=
    @validate_of_missed underApi _ _ _ _ _ route_ordersOfTen [] [] (operationParameters_orders _)
      (by simp) (.pathMistyped rfl hvalue (by decide))
  refine ⟨boundAfterResource_ordersOfTen, hmissed, ?_⟩
  rw [← validate_template_eq_thirdSegment underApi ordersDocument ordersOfTen
    boundAfterResource_ordersOfTen]
  exact hmissed

end Conformance

end ApiContract
