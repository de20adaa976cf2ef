import ApiContract.Conformance.Body
import ApiContract.Conformance.Parameter

/-
Validation of whole requests: from mount point to route, to the parameters in the order of their
declaration, to a verdict.

Main definitions:

* `ApiContract.Conformance.checkParameters` — the parameters of an operation, one after the other;
* `ApiContract.Conformance.check` — all checks of a request;
* `ApiContract.validate` — the verdict on a request.
-/

set_option autoImplicit false

namespace ApiContract

namespace Conformance

/-- Checks one parameter, of the body or of another place. -/
def checkOne (settings : Settings) (d : Document) (request : Http.Request) (route : Route)
    (p : Parameter) : Check :=
  if p.place = some .body then do
    let data ← Check.ofRefusal (decodeBody request.body)
    checkBody d p data
  else Check.ofRefusal (checkParameter settings.binding request route p)

/-- Checks parameters one after the other. -/
def checkParameters (settings : Settings) (d : Document) (request : Http.Request) (route : Route) :
    List Parameter → Check
  | [] => .ok ()
  | p :: rest => do
    checkOne settings d request route p
    checkParameters settings d request route rest

/-- All checks of a request. -/
def check (settings : Settings) (d : Document) (request : Http.Request) : Check := do
  let route ← d.route request.method (settings.relative request.path)
  let parameters ← Check.ofFault
    (d.operationParameters route.template route.item route.method route.operation)
  checkParameters settings d request route parameters

end Conformance

/-- The verdict on a request. -/
def validate (settings : Settings) (d : Document) (request : Http.Request) :
    Except Fault Verdict :=
  Verdict.ofCheck (Conformance.check settings d request)

end ApiContract
