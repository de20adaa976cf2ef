/-
Faults: what can be wrong with a specification document.

A fault is never the requester's doing.  It names the place in the document, or the reference, by
which its author can find the trouble.

Main definitions:

* `ApiContract.Shape` — what a node of the document was expected to be;
* `ApiContract.Fault` — the causes;
* `ApiContract.Fault.message` — their wording.
-/

set_option autoImplicit false

namespace ApiContract

/-- What a node of a document was expected to be. -/
inductive Shape where
  | mapping
  | sequence
  | string
  | documentedPath
  | parameterMapping
  | schemaMapping
  deriving DecidableEq, Repr

/-- The phrase for a shape. -/
def Shape.phrase : Shape → String
  | mapping => "a mapping"
  | sequence => "a sequence"
  | string => "a string"
  | documentedPath => "a documented path"
  | parameterMapping => "a parameter mapping"
  | schemaMapping => "a schema mapping"

/-- What can be wrong with a document. -/
inductive Fault where
  /-- There are no paths. -/
  | missingPaths
  /-- A node is there, but of the wrong shape. -/
  | malformedNode (location : String) (expected : Shape)
  /-- A reference points at nothing. -/
  | unresolvedReference (reference : String)
  /-- References lead back to a definition that was met before; the names in order. -/
  | cyclicReference (chain : List String)
  /-- A body parameter declares no schema. -/
  | missingBodySchema (parameter : String)
  deriving DecidableEq, Repr

/-- The wording of a fault. -/
def Fault.message : Fault → String
  | missingPaths => "specification error: document has no 'paths' mapping"
  | malformedNode location expected =>
    s!"specification error: {location} must be {expected.phrase}"
  | unresolvedReference reference => s!"specification error: unresolved reference '{reference}'"
  | cyclicReference chain =>
    "specification error: cyclic reference " ++ String.intercalate " -> " chain
  | missingBodySchema parameter =>
    s!"specification error: body parameter '{parameter}' has no schema"

end ApiContract
