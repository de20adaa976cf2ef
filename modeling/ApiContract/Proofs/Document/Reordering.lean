import ApiContract.Document.Parameter
import ApiContract.Proofs.Document.Sections

/-
Values whose mappings are in another order.

A mapping can be read by its keys or gone through in order, and which of the two happens depends on
what it stands for.  Here a value is compared with one in which mappings have been put in another
order, all the way down, where the keys under which this may happen are given.  Everything that is
read by key stays the same, or related in turn.

Main definitions:

* `ApiContract.Fields.Rearranged` — the same fields in another order;
* `ApiContract.Json.Reordered` — a value with some of its mappings in another order;
* `ApiContract.Document.Reordered` — the same for the three sections of a document.

Main results:

* `ApiContract.Json.Reordered.get?` — **a lookup gives a value with mappings in another order**;
* `ApiContract.Json.Reordered.reference?_eq`, `ofNode_eq` — references and types stay what they are.
-/

set_option autoImplicit false

namespace ApiContract

/-- The fields are in the same order, or else no key is repeated among them and another order is
free. -/
def Fields.Rearranged (free : Prop) (fields fields' : Fields) : Prop :=
  fields' = fields ∨ free ∧ fields.keys.Nodup ∧ fields.Perm fields'

namespace Json

mutual

/-- The second value is the first with mappings in another order, where `free` says whether this
goes for the value itself.  Of the values inside it goes for those that stand in an array or under a
key in `loose`. -/
inductive Reordered (loose : String → Prop) : Prop → Json → Json → Prop
  | same {free : Prop} (v : Json) : Reordered loose free v v
  | array {free : Prop} {items items' : List Json} :
      List.Forall₂ (Reordered loose True) items items' →
      Reordered loose free (.array items) (.array items')
  | object {free : Prop} {fields between fields' : Fields} :
      List.Forall₂ (ReorderedField loose) fields between → between.Rearranged free fields' →
      Reordered loose free (.object fields) (.object fields')

/-- Two fields under one key, whose values are in another order. -/
inductive ReorderedField (loose : String → Prop) : String × Json → String × Json → Prop
  | intro {key : String} {v v' : Json} :
      Reordered loose (loose key) v v' → ReorderedField loose (key, v) (key, v')

end

variable {loose : String → Prop} {free : Prop} {v v' : Json}

theorem ReorderedField.refl (entry : String × Json) : ReorderedField loose entry entry :=
  .intro (.same entry.2)

theorem ReorderedField.key_eq (entry entry' : String × Json)
    (h : ReorderedField loose entry entry') : entry'.1 = entry.1 := by
  cases h
  rfl

/-- Only the value's own order is let free by this. -/
theorem Reordered.loosen (h : Reordered loose free v v') : Reordered loose True v v' := by
  cases h with
  | same => exact .same v
  | array hitems => exact .array hitems
  | object hfields hbetween => exact .object hfields (hbetween.imp_right fun ⟨_, h⟩ => ⟨trivial, h⟩)

/-- **What stands under a key is in another order at most.** -/
theorem Reordered.get? (h : Reordered loose free v v') (key : String) :
    Option.Rel (Reordered loose (loose key)) (v.get? key) (v'.get? key) := by
  cases h with
  | same => exact rel_refl .same _
  | array => exact .none
  | @object _ fields between fields' hfields hbetween =>
      have hlookup : fields'.get? key = between.get? key := by
        rcases hbetween with rfl | ⟨-, hn, hp⟩
        · rfl
        · exact Fields.get?_eq_of_perm hn hp key
      rw [get?_object, get?_object, hlookup]
      rcases none_or_some_of_rel (Fields.rel_of_forall₂ ReorderedField.key_eq hfields key) with
        ⟨hnone, hnone'⟩ | ⟨w, w', hsome, hsome', hfield⟩
      · rw [hnone, hnone']
        exact .none
      · rw [hsome, hsome']
        cases hfield with
        | intro h => exact .some h

/-! ### What stays the same -/

theorem Reordered.text?_eq (h : Reordered loose free v v') : v'.text? = v.text? := by
  cases h <;> rfl

theorem Reordered.bool?_eq (h : Reordered loose free v v') : v'.bool? = v.bool? := by
  cases h <;> rfl

/-- A scalar under a key. -/
theorem Reordered.bind_get?_eq {α : Type} {read : Json → Option α} (h : Reordered loose free v v')
    (hread : ∀ {free : Prop} {w w' : Json}, Reordered loose free w w' → read w' = read w)
    (key : String) : (v'.get? key).bind read = (v.get? key).bind read := by
  rcases none_or_some_of_rel (h.get? key) with ⟨hnone, hnone'⟩ | ⟨w, w', hsome, hsome', hw⟩
  · rw [hnone, hnone']
  · rw [hsome, hsome']
    exact hread hw

theorem Reordered.reference?_eq (h : Reordered loose free v v') :
    reference? v' = reference? v :=
  h.bind_get?_eq Reordered.text?_eq "$ref"

theorem Reordered.ofNode_eq (h : Reordered loose free v v') :
    Primitive.ofNode v' = Primitive.ofNode v := by
  unfold Primitive.ofNode
  rw [h.bind_get?_eq Reordered.text?_eq "type"]

/-- Mappings stay mappings. -/
theorem Reordered.fields? (h : Reordered loose free v v') :
    Option.Rel (fun fields fields' => Reordered loose free (.object fields) (.object fields'))
      v.fields? v'.fields? := by
  cases h with
  | same => exact rel_refl (fun fields => .same (.object fields)) _
  | array => exact .none
  | object hfields hbetween => exact .some (.object hfields hbetween)

/-- Where the keys are the same, they are so in some order. -/
theorem Reordered.keys_perm {fields fields' : Fields}
    (h : Reordered loose free (.object fields) (.object fields')) :
    fields'.keys.Perm fields.keys := by
  cases h with
  | same => exact .refl _
  | object hfields hbetween =>
      rw [← Fields.keys_eq_of_forall₂ ReorderedField.key_eq hfields]
      rcases hbetween with rfl | ⟨-, -, hp⟩
      · exact .refl _
      · exact (hp.map Prod.fst).symm

end Json

/-! ### Documents -/

/-- The three sections of the documents are the same but for the order of mappings. -/
structure Document.Reordered (loose : String → Prop) (d d' : Document) : Prop where
  paths : Json.Reordered loose (loose "paths") (.object d.paths) (.object d'.paths)
  definitions :
    Json.Reordered loose (loose "definitions") (.object d.definitions) (.object d'.definitions)
  parameters :
    Json.Reordered loose (loose "parameters") (.object d.parameters) (.object d'.parameters)

end ApiContract
