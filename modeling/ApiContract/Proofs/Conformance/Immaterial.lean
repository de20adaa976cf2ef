import Mathlib.Logic.Relation
import ApiContract.Proofs.Conformance.Inlining

/-
What of a value does not matter to its check.

The check of a value looks up the properties that are declared, and a null under one of them counts
as if nothing were there.  So the order of fields, null fields, and fields that no property is
declared for are never seen: a value that is changed there, in whatever places and however often,
passes if it passed, and fails as it failed.

Main definitions:

* `ApiContract.Conformance.Respelled` — a value in which one object is written with its fields in
  another order, or with a null field more or less;
* `ApiContract.Conformance.propertiesOf` — the properties in force for a schema;
* `ApiContract.Conformance.Immaterial` — one change that a schema does not ask about;
* `ApiContract.Conformance.Indistinct` — two values that no schema tells apart.

Main results:

* `ApiContract.Conformance.checkSchema_eq_of_present?` — a check depends on what is present under
  the declared properties;
* `ApiContract.Conformance.Respelled.indistinct`, `Immaterial.checkSchema_eq` — one change;
* `ApiContract.Conformance.checkSchema_eq_of_immaterial` — **any number of changes**.
-/

set_option autoImplicit false

namespace ApiContract

namespace Conformance

open FirstFailure

/-! ### Changes that are not asked about -/

/-- The second value is the first with one object, at any depth, written in another way: its fields
are in another order, or it has a null field more or less. -/
inductive Respelled : Json → Json → Prop
  | permuted {fields fields' : Fields} :
      fields.keys.Nodup → fields.Perm fields' → Respelled (.object fields) (.object fields')
  | nullAdded {before after : Fields} {key : String} :
      key ∉ Fields.keys (before ++ after) →
      Respelled (.object (before ++ after)) (.object (before ++ (key, .null) :: after))
  | nullRemoved {before after : Fields} {key : String} :
      key ∉ Fields.keys (before ++ after) →
      Respelled (.object (before ++ (key, .null) :: after)) (.object (before ++ after))
  | item {before after : List Json} {v v' : Json} :
      Respelled v v' → Respelled (.array (before ++ v :: after)) (.array (before ++ v' :: after))
  | field {before after : Fields} {key : String} {v v' : Json} :
      Respelled v v' →
      Respelled (.object (before ++ (key, v) :: after)) (.object (before ++ (key, v') :: after))

/-- The properties in force for a schema: those that are declared by the content it leads to. -/
def propertiesOf (d : Document) (schema : Json) : Fields :=
  match (d.resolve [] schema).outcome with
  | .ok content =>
    match content.get? "properties" with
    | some (.object properties) => properties
    | _ => []
  | .error _ => []

/-- One change of a value that the schema does not ask about. -/
inductive Immaterial (d : Document) : Json → Json → Json → Prop
  /-- Some object anywhere in the value is written in another way. -/
  | respelled {schema data data' : Json} : Respelled data data' → Immaterial d schema data data'
  /-- Fields are added or changed for which no property is declared. -/
  | undeclared {schema : Json} {fields fields' : Fields} :
      (∀ key ∈ (propertiesOf d schema).keys, fields'.get? key = fields.get? key) →
      Immaterial d schema (.object fields) (.object fields')
  /-- Such a change is made in a value that is descended into, under the schema of its property. -/
  | within {schema value value' : Json} {fields : Fields} {key : String} :
      fields.get? key = some value →
      (∀ property, (key, property) ∈ propertiesOf d schema → isNested property = true) →
      (∀ property, (key, property) ∈ propertiesOf d schema →
        Immaterial d property value value') →
      Immaterial d schema (.object fields) (.object (fields.set key value'))

/-- No schema tells the two values apart, and no type does. -/
structure Indistinct (d : Document) (value value' : Json) : Prop where
  check : ∀ location schema, checkSchema d location schema value' =
    checkSchema d location schema value
  type : ∀ type, hasType type value' = hasType type value

/-- It makes no difference which of the two values stands under the property. -/
structure SameUnder (d : Document) (property value value' : Json) : Prop where
  nested : isNested property = true → ∀ location,
    checkSchema d location property value' = checkSchema d location property value
  primitive : isNested property = false →
    hasType (Primitive.ofNode property) value' = hasType (Primitive.ofNode property) value

variable {d : Document} {location key : String} {schema property data data' value value' : Json}
  {fields fields' before after : Fields}

/-! ### What is looked up -/

theorem propertiesOf_eq {names : List String} {content : Json} {properties : Fields}
    (hl : d.Leads schema names content) (hp : Declares content properties) :
    propertiesOf d schema = properties := by
  unfold propertiesOf
  rw [Document.resolve_nil_eq_ok_iff.2 hl]
  cases hp with
  | absent hp => simp [hp]
  | null hp => simp [hp]
  | mapping hp => simp [hp]

theorem present?_object_eq (h : fields'.get? key = fields.get? key) :
    present? (.object fields') key = present? (.object fields) key := by
  rw [present?, present?, Json.get?_object, Json.get?_object, h]

theorem present?_object_of_ne_null (h : fields.get? key = some value) (hne : value ≠ .null) :
    present? (.object fields) key = some value :=
  present?_of_ne_null h hne

/-- A null field is not present, whether it is there or not. -/
theorem present?_append_null (h : key ∉ Fields.keys (before ++ after)) (other : String) :
    present? (.object (before ++ (key, .null) :: after)) other =
      present? (.object (before ++ after)) other := by
  by_cases ho : other = key
  · subst ho
    have hbefore : other ∉ before.keys := fun hmem => h (by
      rw [Fields.keys_append]
      exact List.mem_append_left _ hmem)
    have hnull : Fields.get? (before ++ (other, .null) :: after) other = some .null := by
      rw [Fields.get?_append_of_not_mem hbefore, Fields.get?_cons, if_pos rfl]
    rw [present?, Json.get?_object, hnull, present?, Json.get?_object,
      Fields.get?_eq_none_of_not_mem_keys h]
  · exact present?_object_eq (Fields.get?_append_cons_of_ne ho)

/-! ### What a check depends on -/

theorem SameUnder.refl (property value : Json) : SameUnder d property value value :=
  ⟨fun _ _ => rfl, fun _ => rfl⟩

theorem Indistinct.refl (value : Json) : Indistinct d value value :=
  ⟨fun _ _ => rfl, fun _ => rfl⟩

theorem Indistinct.sameUnder (h : Indistinct d value value') (property : Json) :
    SameUnder d property value value' :=
  ⟨fun _ location => h.check location property, fun _ => h.type _⟩

theorem checkProperty_eq_of_present?
    (h : Option.Rel (SameUnder d property) (present? data key) (present? data' key)) :
    checkProperty d location data' (key, property) =
      checkProperty d location data (key, property) := by
  rcases none_or_some_of_rel h with ⟨hv, hv'⟩ | ⟨value, value', hv, hv', hsame⟩
  · rw [checkProperty_of_missing hv, checkProperty_of_missing hv']
  · cases property with
    | object fields =>
        rw [checkProperty_object hv, checkProperty_object hv']
        by_cases hn : isNested (.object fields) = true
        · rw [if_pos hn, if_pos hn, hsame.nested hn]
        · rw [if_neg hn, if_neg hn, checkType, checkType,
            hsame.primitive (Bool.eq_false_iff.2 hn)]
    | _ =>
        rw [checkProperty_of_shapeless hv (by simp), checkProperty_of_shapeless hv' (by simp)]

/-- **A check depends on no more than what is present under the declared properties.** -/
theorem checkSchema_eq_of_present?
    (h : ∀ entry ∈ propertiesOf d schema,
      Option.Rel (SameUnder d entry.2) (present? data entry.1) (present? data' entry.1)) :
    checkSchema d location schema data' = checkSchema d location schema data := by
  rcases d.leads_or_broken schema with ⟨names, content, hl⟩ | ⟨fault, hb⟩
  · rw [checkSchema_of_leads hl, checkSchema_of_leads hl]
    cases hp : declaredProperties (schemaLocation location names) content with
    | error rejection => rfl
    | ok properties =>
        rw [propertiesOf_eq hl (declaredProperties_eq_ok_iff.1 hp)] at h
        exact linkedChecks_eq_iff.1 (linked_forM (List.forall₂_same.2 fun entry hmem =>
          linkedChecks_eq_iff.2 (checkProperty_eq_of_present? (h entry hmem))))
  · rw [checkSchema_of_broken hb, checkSchema_of_broken hb]

/-! ### One change -/

/-- Only arrays and objects can be written in another way. -/
theorem Respelled.ne_null (h : Respelled data data') : data ≠ .null ∧ data' ≠ .null := by
  cases h <;> simp

theorem Respelled.hasType_eq (h : Respelled data data') (type : Primitive) :
    hasType type data' = hasType type data := by
  cases h <;> cases type <;> rfl

theorem indistinct_of_present? (htype : ∀ type, hasType type data' = hasType type data)
    (h : ∀ key, Option.Rel (Indistinct d) (present? data key) (present? data' key)) :
    Indistinct d data data' :=
  ⟨fun _ _ => checkSchema_eq_of_present? fun entry _ =>
    rel_mono (fun _ _ hi => hi.sameUnder entry.2) (h entry.1), htype⟩

theorem indistinct_of_present?_eq (htype : ∀ type, hasType type data' = hasType type data)
    (h : ∀ key, present? data' key = present? data key) : Indistinct d data data' :=
  indistinct_of_present? htype fun key => by
    rw [h key]
    exact rel_refl .refl _

/-- In one field stands a value that is not told apart from the one before. -/
theorem present?_rel_of_field (hne : value ≠ .null) (hne' : value' ≠ .null)
    (h : Indistinct d value value') (other : String) :
    Option.Rel (Indistinct d) (present? (.object (before ++ (key, value) :: after)) other)
      (present? (.object (before ++ (key, value') :: after)) other) := by
  have hsame : ∀ fields : Fields, List.Forall₂
      (fun entry entry' : String × Json => entry'.1 = entry.1 ∧
        (entry'.2 = entry.2 ∨ entry.2 = value ∧ entry'.2 = value')) fields fields :=
    fun _ => List.forall₂_same.2 fun _ _ => ⟨rfl, .inl rfl⟩
  have hfields := List.rel_append (hsame before)
    (.cons (a := (key, value)) (b := (key, value')) ⟨rfl, .inr ⟨rfl, rfl⟩⟩ (hsame after))
  rcases none_or_some_of_rel (Fields.rel_of_forall₂ (fun _ _ h => h.1) hfields other) with
    ⟨hn, hn'⟩ | ⟨found, found', hf, hf', -, heq | ⟨rfl, rfl⟩⟩
  · rw [present?_object_eq (hn'.trans hn.symm)]
    exact rel_refl .refl _
  · rw [present?_object_eq (hf'.trans ((congrArg some heq).trans hf.symm))]
    exact rel_refl .refl _
  · rw [present?_object_of_ne_null hf hne, present?_object_of_ne_null hf' hne']
    exact .some h

/-- **The order of fields and null fields are not told apart**, at any depth. -/
theorem Respelled.indistinct (h : Respelled data data') : Indistinct d data data' := by
  have htype := h.hasType_eq
  -- what is present is decided at the top, unless the change is inside one of the fields
  induction h with
  | permuted hn hp =>
      exact indistinct_of_present?_eq htype fun key =>
        present?_object_eq (Fields.get?_eq_of_perm hn hp key)
  | nullAdded hkey => exact indistinct_of_present?_eq htype (present?_append_null hkey)
  | nullRemoved hkey =>
      exact indistinct_of_present?_eq htype fun key => (present?_append_null hkey key).symm
  | item _ _ => exact indistinct_of_present?_eq htype fun _ => rfl
  | field hv ih =>
      exact indistinct_of_present? htype
        (present?_rel_of_field hv.ne_null.1 hv.ne_null.2 (ih hv.hasType_eq))

theorem Immaterial.ne_null (h : Immaterial d schema data data') :
    data ≠ .null ∧ data' ≠ .null := by
  cases h with
  | respelled h => exact h.ne_null
  | _ => simp

/-- **One change that is not asked about leaves the check as it is.** -/
theorem Immaterial.checkSchema_eq (h : Immaterial d schema data data') (location : String) :
    checkSchema d location schema data' = checkSchema d location schema data := by
  induction h generalizing location with
  | respelled h => exact h.indistinct.check location _
  | undeclared hkeys =>
      refine checkSchema_eq_of_present? fun entry hmem => ?_
      have hget := hkeys entry.1 (List.mem_map_of_mem hmem)
      rw [present?_object_eq hget]
      exact rel_refl (SameUnder.refl entry.2) _
  | @within schema value value' fields key hget hnested hin ih =>
      refine checkSchema_eq_of_present? fun entry hmem => ?_
      obtain ⟨other, property⟩ := entry
      by_cases ho : other = key
      · subst ho
        have hne := (hin property hmem).ne_null
        rw [present?_object_of_ne_null hget hne.1,
          present?_object_of_ne_null (Fields.get?_set_self fields other value') hne.2]
        refine .some ⟨fun _ location => ih property hmem location, fun hn => ?_⟩
        rw [hnested property hmem] at hn
        cases hn
      · rw [present?_object_eq (Fields.sameBut_set fields key value' other ho)]
        exact rel_refl (SameUnder.refl property) _

/-! ### Any number of changes -/

/-- **Only declared data other than null matters to a check**: however often fields are put in
another order, null fields are added or removed, and fields are added or changed that are not
declared where they stand, the value passes, is refused or comes to a fault as before. -/
theorem checkSchema_eq_of_immaterial
    (h : Relation.ReflTransGen (Immaterial d schema) data data') (location : String) :
    checkSchema d location schema data' = checkSchema d location schema data := by
  induction h with
  | refl => rfl
  | tail _ hchange ih => rw [hchange.checkSchema_eq, ih]

/-! ### An owner with more than is asked for -/

/-- A schema that asks for an owner, and for nothing else. -/
def ownedSchema : Json := .object (single "owner" (referenceTo "Person"))

/-- A value with an owner and a tag. -/
def ownedBy (owner tag : Fields) : Json :=
  .object [("owner", .object owner), ("tags", .array [.object tag])]

/-- A value whose owner lives in a city that is a number. -/
def owned : Json := ownedBy [("city", .int 5), ("zip", .text "1")] [("a", .int 1), ("b", .int 2)]

/-- The value with its fields and those of the tag in another order, another `zip`, and a null
note. -/
def ownedAnew : Json :=
  .object [("tags", .array [.object [("b", .int 2), ("a", .int 1)]]), ("note", .null),
    ("owner", .object [("zip", .int 7), ("city", .int 5)])]

theorem leads_person : directory.Leads (referenceTo "Person") ["Person", "User"]
    (.object (single "city" textSchema)) := by
  exact .step ⟨by decide, rfl⟩ (.step ⟨by decide, rfl⟩ (.content rfl))

theorem propertiesOf_owned :
    propertiesOf directory ownedSchema = [("owner", referenceTo "Person")] :=
  propertiesOf_eq (.content rfl) (.mapping rfl)

/-- Neither the order of fields nor the `zip` is asked about where an owner is. -/
theorem immaterial_owner :
    Immaterial directory (referenceTo "Person") (.object [("city", .int 5), ("zip", .text "1")])
      (.object [("zip", .int 7), ("city", .int 5)]) := by
  refine .undeclared ?_
  rw [propertiesOf_eq leads_person (.mapping rfl)]
  simp [Fields.keys, Fields.get?_cons]

theorem immaterial_owned :
    Relation.ReflTransGen (Immaterial directory ownedSchema) owned ownedAnew := by
  have htag : Immaterial directory ownedSchema owned
      (ownedBy [("city", .int 5), ("zip", .text "1")] [("b", .int 2), ("a", .int 1)]) :=
    .respelled (@Respelled.field [_] [] _ _ _ (@Respelled.item [] [] _ _
      (.permuted (by decide) (.swap _ _ []))))
  have howner : Immaterial directory ownedSchema
      (ownedBy [("city", .int 5), ("zip", .text "1")] [("b", .int 2), ("a", .int 1)])
      (ownedBy [("zip", .int 7), ("city", .int 5)] [("b", .int 2), ("a", .int 1)]) := by
    refine @Immaterial.within _ _ _ _ _ "owner" rfl ?_ ?_ <;> rw [propertiesOf_owned]
    · simp [isNested, referenceTo, isReference, reference?, Fields.get?_cons, Json.text?]
    · simpa using immaterial_owner
  have horder : Immaterial directory ownedSchema
      (ownedBy [("zip", .int 7), ("city", .int 5)] [("b", .int 2), ("a", .int 1)])
      (.object ([("tags", .array [.object [("b", .int 2), ("a", .int 1)]])] ++
        [("owner", .object [("zip", .int 7), ("city", .int 5)])])) :=
    .respelled (.permuted (by decide) (.swap _ _ []))
  exact .tail (.tail (.tail (.single htag) howner) horder) (.respelled (.nullAdded (by decide)))

/-- The city is refused either way. -/
theorem checkSchema_ownedAnew :
    Relation.ReflTransGen (Immaterial directory ownedSchema) owned ownedAnew ∧
    checkSchema directory "body" ownedSchema owned =
      .error (.refused (.wrongType .body "city" .string)) ∧
    checkSchema directory "body" ownedSchema ownedAnew =
      .error (.refused (.wrongType .body "city" .string)) := by
  have howner : Rejects directory "body/properties/owner" (referenceTo "Person")
      (.object [("city", .int 5), ("zip", .text "1")])
      (.refused (.wrongType .body "city" .string)) :=
    @Rejects.missed _ _ _ _ _ _ [] [] _ _ leads_person (.mapping rfl) (by simp)
      (.mistyped rfl rfl rfl)
  have howned : checkSchema directory "body" ownedSchema owned =
      .error (.refused (.wrongType .body "city" .string)) :=
    ((decided _ _ _ _).2 _).2 (@Rejects.missed _ _ _ _ _ [] [] [] _ _ (.content rfl) (.mapping rfl)
      (by simp) (.nested rfl rfl howner))
  refine ⟨immaterial_owned, howned, ?_⟩
  rw [checkSchema_eq_of_immaterial immaterial_owned, howned]

end Conformance

end ApiContract
