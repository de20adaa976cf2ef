import ApiContract.Routing.Pattern
import ApiContract.Text.Segments

/-
The rule by which the path of a request selects templates.

Only two things about the path matter: its first segment, the resource, and whether anything
follows it.  A flat path selects the templates of one segment that begin with the resource; a
nested one selects the templates with that very resource and something below it.

Main definitions:

* `ApiContract.Routing.Rule` — resource and depth, `ApiContract.Routing.Rule.ofPath?`;
* `ApiContract.Routing.Rule.pattern` — the pattern of the rule;
* `ApiContract.Routing.Rule.selects` — whether a template is selected.
-/

set_option autoImplicit false

namespace ApiContract.Routing

/-- Which templates a path selects. -/
structure Rule where
  /-- The first segment of the path. -/
  resource : String
  /-- Whether the path has further segments. -/
  nested : Bool
  deriving DecidableEq, Repr

namespace Rule

/-- The number of bytes from which on a resource is too long to be matched. -/
def resourceLimit : Nat := 10 * Nat.pow 2 20 / 32

/-- The rule of a path, of whatever length. -/
def ofPath (path : String) : Rule :=
  match Text.segments '/' path with
  | _ :: resource :: further => ⟨resource, !further.isEmpty⟩
  | _ => ⟨"", false⟩

/-- The rule of a path, unless its resource is too long. -/
def ofPath? (path : String) : Option Rule :=
  let rule := ofPath path
  if rule.resource.utf8ByteSize < resourceLimit then some rule else none

/-- The pattern of a rule: a slash and the resource, then the rest of a line behind another slash,
or the rest of a segment, or nothing. -/
def pattern (rule : Rule) : List Piece :=
  ('/' :: rule.resource.toList).map .literal ++
    (if rule.nested then [.literal '/', .run .withinLine]
     else if rule.resource = "" then []
     else [.run .withinSegment])

/-- Whether the rule selects a template. -/
def selects (rule : Rule) (template : String) : Bool := accepts rule.pattern template.toList

end Rule

end ApiContract.Routing
