import ApiContract.Document.Fault
import ApiContract.Json.Value

/-
Specification documents: a JSON object with the three sections that validation walks set apart.

Main definitions:

* `ApiContract.Document` — paths, definitions, shared parameters, and all other fields;
* `ApiContract.Document.ofJson` — splits an object into a document;
* `ApiContract.Document.toJson` — puts the object together again;
* `ApiContract.Document.pathItem`, `definition`, `sharedParameter` — look-ups that fault.

The sections are taken out in a fixed order, and each time the last of the remaining fields moves
into the gap; `toJson` therefore shows the other fields in the order that this leaves.
-/

set_option autoImplicit false

namespace ApiContract

/-- A specification document. -/
structure Document where
  /-- Path items by template. -/
  paths : Fields
  /-- Schemas by name. -/
  definitions : Fields
  /-- Shared parameters by name. -/
  parameters : Fields
  /-- Every other field. -/
  others : Fields

namespace Document

/-- The mapping of a section; an absent section and a null one are the same. -/
def sectionFields (key : String) : Option Json → Except Fault (Option Fields)
  | none => .ok none
  | some .null => .ok none
  | some (.object fields) => .ok (some fields)
  | some _ => .error (.malformedNode ("#/" ++ key) .mapping)

/-- Splits a value into a document. -/
def ofJson : Json → Except Fault Document
  | .object fields => do
    let (paths, others) := Fields.extract fields "paths"
    let some paths ← sectionFields "paths" paths | throw .missingPaths
    let (definitions, others) := Fields.extract others "definitions"
    let definitions ← sectionFields "definitions" definitions
    let (parameters, others) := Fields.extract others "parameters"
    let parameters ← sectionFields "parameters" parameters
    return ⟨paths, definitions.getD [], parameters.getD [], others⟩
  | _ => .error (.malformedNode "#" .mapping)

/-- A section written back into an object, unless it is empty. -/
def putSection (key : String) (part : Fields) (fields : Fields) : Fields :=
  if part.isEmpty then fields else Fields.set fields key (.object part)

/-- The object that a document was split from, its sections last. -/
def toJson (d : Document) : Json :=
  .object (putSection "parameters" d.parameters
    (putSection "definitions" d.definitions (d.others.set "paths" (.object d.paths))))

/-- The path templates, in the order of the document. -/
def templates (d : Document) : List String := d.paths.keys

/-- A field outside the three sections. -/
def field? (d : Document) (key : String) : Option Json := d.others.get? key

/-- The path item under a template. -/
def pathItem (d : Document) (template : String) : Except Fault Fields :=
  match d.paths.get? template with
  | none => .error (.malformedNode ("#/paths/" ++ template) .documentedPath)
  | some (.object item) => .ok item
  | some _ => .error (.malformedNode ("#/paths/" ++ template) .mapping)

/-- The schema registered under a name. -/
def definition (d : Document) (name : String) : Except Fault Json :=
  match d.definitions.get? name with
  | some schema => .ok schema
  | none => .error (.unresolvedReference ("#/definitions/" ++ name))

/-- The shared parameter registered under a name. -/
def sharedParameter (d : Document) (name : String) : Except Fault Json :=
  match d.parameters.get? name with
  | some node => .ok node
  | none => .error (.unresolvedReference ("#/parameters/" ++ name))

end Document

end ApiContract
