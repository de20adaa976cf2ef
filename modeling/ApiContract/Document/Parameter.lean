import ApiContract.Document.Reference

/-
Declared parameters, and how the lists of a path item and of an operation combine.

Main definitions:

* `ApiContract.Place` — where a parameter is carried;
* `ApiContract.Primitive` — the type tag of a parameter or of a schema property;
* `ApiContract.Parameter` — one declaration, `ApiContract.Parameter.ofNode` reads it;
* `ApiContract.Parameter.merge` — an operation's declarations over those of its path item;
* `ApiContract.Document.operationParameters` — all parameters of an operation.

Two declarations are of the same parameter when name and place agree; the operation's one then
stands at the position of the other.
-/

set_option autoImplicit false

namespace ApiContract

/-- Where a parameter is carried. -/
inductive Place where
  | query
  | path
  | body
  | header
  | formData
  deriving DecidableEq, Repr

namespace Place

/-- The place named by the `in` field of a parameter. -/
def ofKeyword? (keyword : String) : Option Place :=
  if keyword = "query" then some query
  else if keyword = "path" then some path
  else if keyword = "body" then some body
  else if keyword = "header" then some header
  else if keyword = "formData" then some formData
  else none

/-- The place as messages name it. -/
def title : Place → String
  | query => "Query"
  | path => "Path"
  | body => "Body"
  | header => "Header"
  | formData => "FormData"

end Place

/-- The type that a `type` field declares. -/
inductive Primitive where
  | string
  | integer
  | number
  | boolean
  | array
  /-- Any other tag, or none; nothing is checked. -/
  | unchecked
  deriving DecidableEq, Repr

namespace Primitive

/-- The type of a tag. -/
def ofTag (tag : String) : Primitive :=
  if tag = "string" then string
  else if tag = "integer" then integer
  else if tag = "number" then number
  else if tag = "boolean" then boolean
  else if tag = "array" then array
  else unchecked

/-- The type that a parameter or a schema declares. -/
def ofNode (node : Json) : Primitive :=
  match (node.get? "type").bind Json.text? with
  | some tag => ofTag tag
  | none => unchecked

end Primitive

/-- A declared parameter. -/
structure Parameter where
  name : String
  /-- Absent when the `in` field is missing or names no place. -/
  place : Option Place
  required : Bool
  type : Primitive
  /-- The schema, of which only body parameters make use. -/
  schema : Option Json

namespace Parameter

/-- Reads the declaration at `location`. -/
def ofNode (location : String) (node : Json) : Except Fault Parameter :=
  match node with
  | .object _ =>
    match (node.get? "name").bind Json.text? with
    | none => .error (.malformedNode (location ++ "/name") .string)
    | some name => .ok {
        name
        place := ((node.get? "in").bind Json.text?).bind Place.ofKeyword?
        required := ((node.get? "required").bind Json.bool?).getD false
        type := Primitive.ofNode node
        schema := node.get? "schema" }
  | _ => .error (.malformedNode location .parameterMapping)

/-- Whether a request is checked against the parameter at all. -/
def isChecked (p : Parameter) : Bool :=
  p.place = some .query || p.place = some .path || p.place = some .body

theorem isChecked_iff {p : Parameter} :
    p.isChecked = true ↔
      p.place = some .query ∨ p.place = some .path ∨ p.place = some .body := by
  simp [isChecked, or_assoc]

/-- Whether two declarations are of the same parameter. -/
def same (p q : Parameter) : Bool := p.name = q.name && p.place = q.place

/-- Puts a declaration in the place of the first one of the same parameter, or at the end. -/
def override : List Parameter → Parameter → List Parameter
  | [], p => [p]
  | q :: rest, p => if q.same p then p :: rest else q :: override rest p

/-- The declarations of a path item, with those of an operation put over them in order. -/
def merge (shared own : List Parameter) : List Parameter := own.foldl override shared

end Parameter

namespace Document

/-- The node that an entry of a parameter list stands for: a reference is followed once. -/
def parameterNode (d : Document) (entry : Json) : Except Fault Json :=
  match reference? entry with
  | none => .ok entry
  | some reference =>
    match target? "parameters" reference with
    | none => .error (.unresolvedReference reference)
    | some name => d.sharedParameter name

/-- The parameter that the entry at a position of a list declares. -/
def parameterEntry (d : Document) (location : String) (entry : Json × Nat) :
    Except Fault Parameter := do
  Parameter.ofNode s!"{location}/parameters/{entry.2}" (← d.parameterNode entry.1)

/-- The parameters that a path item or an operation declares itself. -/
def ownParameters (d : Document) (location : String) (owner : Fields) :
    Except Fault (List Parameter) :=
  match owner.get? "parameters" with
  | none => .ok []
  | some .null => .ok []
  | some (.array entries) => entries.zipIdx.mapM (d.parameterEntry location)
  | some _ => .error (.malformedNode (location ++ "/parameters") .sequence)

/-- The parameters of the operation `method` of the path item `item` under `template`. -/
def operationParameters (d : Document) (template : String) (item : Fields) (method : String)
    (operation : Fields) : Except Fault (List Parameter) := do
  let shared ← d.ownParameters ("#/paths/" ++ template) item
  let own ← d.ownParameters s!"#/paths/{template}/{method}" operation
  return Parameter.merge shared own

end Document

end ApiContract
