import ApiContract.Document.Issue
import ApiContract.Http.Method
import ApiContract.Routing.Rule
import ApiContract.Routing.Template
import ApiContract.Verdict

/-
Routes: from method and path of a request to the one operation that documents it.

Main definitions:

* `ApiContract.Document.templateFor` — the only template that a path selects;
* `ApiContract.Document.operation` — the operation of a path item under a method;
* `ApiContract.Route` — an operation with what the path binds, `ApiContract.Document.route`.
-/

set_option autoImplicit false

namespace ApiContract

open Routing

/-- An operation that documents a request, with what the path of the request binds. -/
structure Route where
  /-- The template that was selected. -/
  template : String
  /-- The key of the operation. -/
  method : String
  item : Fields
  operation : Fields
  /-- Names and values of the placeholders of the template. -/
  bindings : List (String × String)
  /-- The segment of the path after the resource. -/
  thirdSegment : Option String

/-- The value of the last placeholder with a name. -/
def Route.value? (r : Route) (name : String) : Option String :=
  (r.bindings.reverse.find? fun b => b.1 = name).map Prod.snd

namespace Document

/-- The only template that a path selects. -/
def templateFor (d : Document) (path : String) : Except Refusal String :=
  let path := normalPath path
  if path.toList.head? = some '/' then
    match Rule.ofPath? path with
    | none => .error .unknownUrl
    | some rule =>
      match d.templates.filter rule.selects with
      | [] => .error .unknownUrl
      | [template] => .ok template
      | _ => .error .ambiguousUrl
  else .error .unknownUrl

/-- The operation of a path item under a key. -/
def operation (template : String) (item : Fields) (key : String) : Except Rejection Fields :=
  if key ∈ operationKeys then
    match item.get? key with
    | none => .error (.refused .methodNotAllowed)
    | some (.object operation) => .ok operation
    | some _ => .error (.faulty (.malformedNode s!"#/paths/{template}/{key}" .mapping))
  else .error (.refused .methodNotAllowed)

/-- The route of a method and a path. -/
def route (d : Document) (method : Http.Method) (path : String) : Except Rejection Route := do
  let template ← Check.ofRefusal (d.templateFor path)
  let item ← Check.ofFault (d.pathItem template)
  let operation ← operation template item method.key
  let path := normalPath path
  return {
    template
    method := method.key
    item
    operation
    bindings := bindings template path
    thirdSegment := (Text.segments '/' path)[2]? }

end Document

end ApiContract
