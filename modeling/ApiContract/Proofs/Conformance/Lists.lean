import ApiContract.Proofs.Conformance.Agreement
import ApiContract.Proofs.Conformance.Comparison

/-
Documents with other lists of parameters.

The lists of parameters stand in path items and in operations, and nothing else of these is changed
here.  What a list may be changed to is left open.

Main definitions:

* `ApiContract.Conformance.EditedPath` — a path item with other lists of parameters; `EditedField`,
  `EditedItemField` for its fields;
* `ApiContract.Conformance.EditedOwner` — what is seen of this by a lookup.

Main results:

* `ApiContract.Conformance.rel_paths_of_edited` — edited documents at the lookup of a path item;
* `ApiContract.Conformance.checkOne_eq_of_definitions` — lists play no part in the check of a single
  parameter.
-/

set_option autoImplicit false

namespace ApiContract

namespace Conformance

open Document FirstFailure

/-! ### Edited lists -/

section Edited

variable (L : List Json → List Json → Prop)

/-- A field of a path item or of an operation: a list of parameters may have become another one. -/
inductive EditedField : String × Json → String × Json → Prop
  | same (entry : String × Json) : EditedField entry entry
  | list {entries entries' : List Json} :
      L entries entries' →
      EditedField ("parameters", .array entries) ("parameters", .array entries')

/-- A field of a path item, with an operation among them. -/
inductive EditedItemField : String × Json → String × Json → Prop
  | own {entry entry' : String × Json} : EditedField L entry entry' → EditedItemField entry entry'
  | operation {key : String} {operation operation' : Fields} :
      key ∈ operationKeys → List.Forall₂ (EditedField L) operation operation' →
      EditedItemField (key, .object operation) (key, .object operation')

/-- A path item under its template. -/
inductive EditedPath : String × Json → String × Json → Prop
  | same (entry : String × Json) : EditedPath entry entry
  | item {template : String} {item item' : Fields} :
      List.Forall₂ (EditedItemField L) item item' →
      EditedPath (template, .object item) (template, .object item')

/-- Path items or operations, of which the list may be edited. -/
def EditedOwner (owner owner' : Fields) : Prop :=
  Option.Rel (fun listing listing' =>
    EditedField L ("parameters", listing) ("parameters", listing'))
      (owner.get? "parameters") (owner'.get? "parameters")

end Edited

variable {L : List Json → List Json → Prop} {d d' : Document} {entry entry' : String × Json}
  {key template : String} {node node' : Json}

theorem EditedField.key_eq (entry entry' : String × Json) (h : EditedField L entry entry') :
    entry'.1 = entry.1 := by
  cases h <;> rfl

theorem EditedItemField.key_eq (entry entry' : String × Json)
    (h : EditedItemField L entry entry') : entry'.1 = entry.1 := by
  cases h with
  | own h => exact h.key_eq
  | operation => rfl

theorem EditedPath.key_eq (entry entry' : String × Json) (h : EditedPath L entry entry') :
    entry'.1 = entry.1 := by
  cases h <;> rfl

/-! ### At a lookup -/

theorem EditedOwner.refl (owner : Fields) : EditedOwner L owner owner :=
  rel_refl (fun listing => .same ("parameters", listing)) _

theorem editedOwner_of_forall₂ {owner owner' : Fields}
    (h : List.Forall₂ (EditedField L) owner owner') : EditedOwner L owner owner' :=
  Fields.rel_of_forall₂ EditedField.key_eq h "parameters"

/-- Under the key of an operation stands an operation with other lists, or what stood there. -/
theorem EditedItemField.shaped (h : EditedItemField L (key, node) (key, node'))
    (hk : key ∈ operationKeys) : Shaped (EditedOwner L) node node' := by
  cases h with
  | own h =>
      cases h with
      | same => exact .refl EditedOwner.refl _
      | list => exact absurd hk (by decide)
  | operation _ h => exact .some (editedOwner_of_forall₂ h)

/-- Under the key of a list stands an edited list. -/
theorem EditedItemField.listed
    (h : EditedItemField L ("parameters", node) ("parameters", node')) :
    EditedField L ("parameters", node) ("parameters", node') := by
  cases h with
  | own h => exact h
  | operation hk => exact absurd hk (by decide)

theorem EditedPath.shaped (h : EditedPath L (template, node) (template, node')) :
    Shaped (ComparedItem (EditedOwner L)) node node' := by
  cases h with
  | same =>
      exact .refl (fun item => ⟨.refl item, fun _ _ => rel_refl (.refl EditedOwner.refl) _⟩) _
  | item h =>
      refine .some ⟨?_, fun key hk => ?_⟩
      · exact rel_mono (fun _ _ => EditedItemField.listed)
          (Fields.rel_of_forall₂ EditedItemField.key_eq h "parameters")
      · exact rel_mono (fun _ _ hfield => hfield.shaped hk)
          (Fields.rel_of_forall₂ EditedItemField.key_eq h key)

theorem rel_paths_of_edited (h : List.Forall₂ (EditedPath L) d.paths d'.paths)
    (template : String) :
    Option.Rel (Shaped (ComparedItem (EditedOwner L))) (d.paths.get? template)
      (d'.paths.get? template) :=
  rel_mono (fun _ _ => EditedPath.shaped) (Fields.rel_of_forall₂ EditedPath.key_eq h template)

theorem templates_eq_of_edited (h : List.Forall₂ (EditedPath L) d.paths d'.paths) :
    d'.templates = d.templates :=
  Fields.keys_eq_of_forall₂ EditedPath.key_eq h

/-! ### Documents with the same definitions -/

section Definitions

variable (hdefs : d'.definitions = d.definitions)

include hdefs

/-- Of a document a schema needs the definitions. -/
theorem checkSchema_eq_of_definitions (location : String) (schema data : Json) :
    checkSchema d' location schema data = checkSchema d location schema data := by
  have hrelated : DefinitionsRelated (Agree fun _ => False) d d' := by
    intro name
    rw [hdefs]
    exact rel_refl .same _
  rcases checkSchema_kept hrelated (.same schema) with heq | ⟨_, _, hfalse, -⟩
  · exact heq
  · exact hfalse.elim

theorem checkOne_eq_of_definitions (settings : Settings) (request : Http.Request) (route : Route)
    (p : Parameter) :
    checkOne settings d' request route p = checkOne settings d request route p := by
  unfold checkOne checkBody
  simp only [checkSchema_eq_of_definitions hdefs]

end Definitions

end Conformance

end ApiContract
