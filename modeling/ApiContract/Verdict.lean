import ApiContract.Document.Parameter

/-
What validation has to say about a request.

Main definitions:

* `ApiContract.Refusal` — why a request is refused; its kind, status and wording;
* `ApiContract.Rejection` — why a check stopped: a refusal, or a fault of the document;
* `ApiContract.Verdict` — the request is valid or it is refused.
-/

set_option autoImplicit false

namespace ApiContract

/-- The three kinds of refusal. -/
inductive RefusalKind where
  | badUrl
  | badMethod
  | badRequest
  deriving DecidableEq, Repr

namespace RefusalKind

/-- The name of a kind. -/
def name : RefusalKind → String
  | badUrl => "BAD_URL"
  | badMethod => "BAD_METHOD"
  | badRequest => "BAD_REQUEST"

/-- The kind of a name. -/
def ofName? (s : String) : Option RefusalKind :=
  if s = "BAD_URL" then some badUrl
  else if s = "BAD_METHOD" then some badMethod
  else if s = "BAD_REQUEST" then some badRequest
  else none

/-- The HTTP status of a kind. -/
def status : RefusalKind → Nat
  | badUrl => 404
  | badMethod => 405
  | badRequest => 400

/-- A message under its kind. -/
def headed (kind : RefusalKind) (message : String) : String := s!"{kind.name}: {message}"

end RefusalKind

/-- Why a request is refused. -/
inductive Refusal where
  /-- No documented path matches. -/
  | unknownUrl
  /-- Several documented paths match. -/
  | ambiguousUrl
  /-- The path does not document the method. -/
  | methodNotAllowed
  /-- A required query parameter is missing. -/
  | queryMissing (name : String)
  /-- A property of the body is missing or null. -/
  | propertyMissing (key : String)
  /-- A value is not of the declared type. -/
  | wrongType (place : Place) (name : String) (type : Primitive)
  /-- The body is no JSON text. -/
  | bodyNotJson
  deriving DecidableEq, Repr

namespace Refusal

/-- The kind of a refusal. -/
def kind : Refusal → RefusalKind
  | unknownUrl => .badUrl
  | ambiguousUrl => .badUrl
  | methodNotAllowed => .badMethod
  | _ => .badRequest

/-- What a value of a type is called. -/
def typePhrase : Primitive → String
  | .string => "a string"
  | .integer => "a integer or numeric"
  | .number => "a integer or numeric"
  | .boolean => "a boolean"
  | .array => "an array"
  | .unchecked => "anything"

/-- The wording of a refusal. -/
def message : Refusal → String
  | unknownUrl => "Url not found"
  | ambiguousUrl => "Url conflict"
  | methodNotAllowed => "Method not allowed"
  | queryMissing name => s!"Query param {name} not found"
  | propertyMissing key => s!"Body param {key} not found"
  | wrongType place name type => s!"{place.title} param {name} must be {typePhrase type}"
  | bodyNotJson => "Request body is not valid JSON"

/-- The HTTP status of a refusal. -/
def status (r : Refusal) : Nat := r.kind.status

/-- The refusal in one line, its kind first. -/
def display (r : Refusal) : String := r.kind.headed r.message

end Refusal

/-- Why a check stopped. -/
inductive Rejection where
  | refused (refusal : Refusal)
  | faulty (fault : Fault)
  deriving DecidableEq, Repr

namespace Rejection

/-- The rejection in one line. -/
def display : Rejection → String
  | refused r => r.display
  | faulty f => f.message

end Rejection

/-- A check passes, or it stops with a rejection. -/
abbrev Check := Except Rejection Unit

/-- A check that only refuses. -/
def Check.ofRefusal {α : Type} : Except Refusal α → Except Rejection α
  | .ok a => .ok a
  | .error r => .error (.refused r)

/-- A check that only faults. -/
def Check.ofFault {α : Type} : Except Fault α → Except Rejection α
  | .ok a => .ok a
  | .error f => .error (.faulty f)

/-- The outcome for a request against a sound document. -/
inductive Verdict where
  | valid
  | invalid (refusal : Refusal)
  deriving DecidableEq, Repr

/-- The verdict of a check: refusals are verdicts, faults are not. -/
def Verdict.ofCheck : Check → Except Fault Verdict
  | .ok () => .ok .valid
  | .error (.refused r) => .ok (.invalid r)
  | .error (.faulty f) => .error f

end ApiContract
