import ApiContract.Document.Parameter

/-
Issues: defects of a document that are found before any request comes in.

Two passes make up the list.  The first looks at every documented operation, its parameters
included; the second looks at every reference inside the three sections.  A parameter list that
fails only for want of a reference is left to the second pass.

Main definitions:

* `ApiContract.operationKeys` — the keys of a path item under which operations stand;
* `ApiContract.Defect`, `ApiContract.Issue` — what is wrong, and where;
* `ApiContract.Json.references` — every reference in a value, with its location;
* `ApiContract.Document.issues` — all issues of a document;
* `ApiContract.Issue.report` — their text, a line each.
-/

set_option autoImplicit false

namespace ApiContract

/-- The keys of a path item under which operations stand. -/
def operationKeys : List String :=
  ["get", "post", "put", "delete", "patch", "options", "head", "trace"]

/-- What is wrong with a node. -/
inductive Defect where
  /-- A path template does not begin with a slash. -/
  | invalidPath
  | malformedPathItem
  | malformedOperation
  /-- A parameter list is broken otherwise than by a reference. -/
  | invalidParameter (fault : Fault)
  | missingBodySchema (parameter : String)
  | unresolvedReference (fault : Fault)
  /-- A reference points into neither definitions nor parameters. -/
  | unsupportedReference (reference : String)
  deriving DecidableEq, Repr

namespace Defect

/-- The name of the kind of a defect. -/
def kind : Defect → String
  | invalidPath => "InvalidPath"
  | malformedPathItem => "MalformedPathItem"
  | malformedOperation => "MalformedOperation"
  | invalidParameter _ => "InvalidParameter"
  | missingBodySchema _ => "MissingBodySchema"
  | unresolvedReference _ => "UnresolvedRef"
  | unsupportedReference _ => "UnsupportedRef"

/-- The wording of a defect. -/
def message : Defect → String
  | invalidPath => "Path template must start with '/'"
  | malformedPathItem => "Path item must be a mapping"
  | malformedOperation => "Operation must be a mapping"
  | invalidParameter fault => fault.message
  | missingBodySchema parameter => s!"Body parameter '{parameter}' has no schema"
  | unresolvedReference fault => fault.message
  | unsupportedReference reference =>
    s!"'{reference}' must point into #/definitions or #/parameters"

end Defect

/-- A defect and its place in the document. -/
structure Issue where
  location : String
  defect : Defect
  deriving DecidableEq, Repr

namespace Issue

/-- The line for an issue. -/
def line (i : Issue) : String := s!"[{i.defect.kind}] {i.location}: {i.defect.message}\n"

/-- The lines for a list of issues. -/
def report (issues : List Issue) : String := String.join (issues.map line)

end Issue

/-! ### Operations -/

namespace Document

/-- The issues of the parameters of an operation. -/
def parameterIssues (location : String) : Except Fault (List Parameter) → List Issue
  | .error (.unresolvedReference _) => []
  | .error fault => [⟨location, .invalidParameter fault⟩]
  | .ok parameters =>
    (parameters.filter fun p => p.place = some .body && p.schema.isNone).map fun p =>
      ⟨location, .missingBodySchema p.name⟩

/-- The issues of one field of a path item. -/
def operationIssues (d : Document) (template : String) (item : Fields) (entry : String × Json) :
    List Issue :=
  if entry.1 ∈ operationKeys then
    let location := s!"#/paths/{template}/{entry.1}"
    match entry.2 with
    | .object operation =>
      parameterIssues location (d.operationParameters template item entry.1 operation)
    | _ => [⟨location, .malformedOperation⟩]
  else []

/-- The issues of one entry of the paths, references apart. -/
def pathIssues (d : Document) (entry : String × Json) : List Issue :=
  let location := "#/paths/" ++ entry.1
  let slash : List Issue :=
    if entry.1.toList.head? = some '/' then [] else [⟨location, .invalidPath⟩]
  match entry.2 with
  | .object item => slash ++ item.flatMap (d.operationIssues entry.1 item)
  | _ => slash ++ [⟨location, .malformedPathItem⟩]

end Document

/-! ### References -/

namespace Json

mutual

/-- Every reference in a value, in order, with the location of the object that carries it. -/
def references (location : String) : Json → List (String × String)
  | array items => itemReferences location 0 items
  | object fields => fieldReferences location fields
  | _ => []

/-- The references in the items of an array, the first of which has the number `index`. -/
def itemReferences (location : String) (index : Nat) : List Json → List (String × String)
  | [] => []
  | v :: rest =>
    references s!"{location}/{index}" v ++ itemReferences location (index + 1) rest

/-- The references in the fields of an object.  The value under `$ref` is not descended into. -/
def fieldReferences (location : String) : List (String × Json) → List (String × String)
  | [] => []
  | (key, v) :: rest =>
    (if key = "$ref" then (v.text?.map fun r => (location, r)).toList
      else references s!"{location}/{key}" v) ++ fieldReferences location rest

end

end Json

namespace Document

/-- The references of a section, each entry by itself. -/
def sectionReferences (location : String) (part : Fields) : List (String × String) :=
  part.flatMap fun entry => entry.2.references s!"{location}/{entry.1}"

/-- Every reference of a document: in the paths, the definitions and the shared parameters. -/
def references (d : Document) : List (String × String) :=
  sectionReferences "#/paths" d.paths
    ++ sectionReferences "#/definitions" d.definitions
    ++ sectionReferences "#/parameters" d.parameters

/-- What is wrong with a reference, if anything. -/
def referenceDefect? (d : Document) (reference : String) : Option Defect :=
  match target? "definitions" reference with
  | some _ =>
    match (d.resolve [] (.object [("$ref", .text reference)])).outcome with
    | .ok _ => none
    | .error fault => some (.unresolvedReference fault)
  | none =>
    match target? "parameters" reference with
    | some name =>
      match d.sharedParameter name with
      | .ok _ => none
      | .error fault => some (.unresolvedReference fault)
    | none => some (.unsupportedReference reference)

/-- The issue of a reference at a location, if it has one. -/
def referenceIssue? (d : Document) (located : String × String) : Option Issue :=
  (d.referenceDefect? located.2).map fun defect => ⟨located.1, defect⟩

/-- All issues of a document: those of its operations, then those of its references. -/
def issues (d : Document) : List Issue :=
  d.paths.flatMap d.pathIssues ++ d.references.filterMap d.referenceIssue?

end Document

end ApiContract
