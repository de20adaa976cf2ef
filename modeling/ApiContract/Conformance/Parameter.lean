import ApiContract.Conformance.Scalar
import ApiContract.Http.Request
import ApiContract.Routing.Route
import ApiContract.Settings.Basic

/-
Whether the query and path parameters of a request conform to their declarations.

Only a query parameter can be missing.  A path parameter to which the path gives no value is
passed over, whatever its declaration says about being required.

Main definitions:

* `ApiContract.Conformance.pathValue?` — the value of a path parameter under a mode of binding;
* `ApiContract.Conformance.checkParameter` — the check of one parameter.
-/

set_option autoImplicit false

namespace ApiContract.Conformance

/-- The value that a path parameter has on a route. -/
def pathValue? (binding : PathBinding) (route : Route) (name : String) : Option String :=
  match binding with
  | .template => route.value? name
  | .thirdSegment => route.thirdSegment

/-- Checks a query or path parameter; parameters at other places pass. -/
def checkParameter (binding : PathBinding) (request : Http.Request) (route : Route)
    (p : Parameter) : Except Refusal Unit :=
  match p.place with
  | some .query =>
    match request.query.get? p.name with
    | some value => checkType .query p.name p.type value
    | none => if p.required then .error (.queryMissing p.name) else .ok ()
  | some .path =>
    match pathValue? binding route p.name with
    | some value => checkType .path p.name p.type (.text value)
    | none => .ok ()
  | _ => .ok ()

end ApiContract.Conformance
