import Mathlib.Data.List.Forall2
import ApiContract.Proofs.Conformance.Schema

/-
Writing out references: a property schema that is a reference, and the schema it leads to.

A property schema may be a reference or stand in place, and `ApiContract.Conformance.checkSchema`
treats the two by different rules: what is behind a reference is always descended into, while a
schema in place is descended into only if it has properties of its own, and its type is checked
otherwise.  This module compares the two for any number of properties written out at once, in the
schema and in the definitions of the document, at any depth.

Main definitions:

* `ApiContract.Conformance.Inlined` — a schema with references of properties written out;
* `ApiContract.Conformance.Alike` — outcomes that differ at most in the location a fault names;
* `ApiContract.Conformance.Structural` — a schema of which only the properties count.

Main results:

* `ApiContract.Conformance.checkSchema_inlined` — **writing out structural schemas leaves the
  outcome as it is; writing out any other can only add the check of its type**;
* `ApiContract.Conformance.reference_hides_type` — that check is not made behind a reference.
-/

set_option autoImplicit false

namespace ApiContract

namespace Conformance

/-! ### Outcomes that are alike -/

/-- Two outcomes differ at most in the location that a fault names. -/
inductive Alike : Check → Check → Prop
  | passed : Alike (.ok ()) (.ok ())
  | refused (refusal : Refusal) : Alike (.error (.refused refusal)) (.error (.refused refusal))
  | faulty (fault : Fault) : Alike (.error (.faulty fault)) (.error (.faulty fault))
  | moved (location location' : String) (expected : Shape) :
      Alike (.error (.faulty (.malformedNode location expected)))
        (.error (.faulty (.malformedNode location' expected)))

theorem Alike.refl (outcome : Check) : Alike outcome outcome := by
  rcases outcome with (refusal | fault) | ⟨⟨⟩⟩
  · exact .refused refusal
  · exact .faulty fault
  · exact .passed

/-! ### Schemas with references written out -/

/-- Only the properties of the schema count: it has some of its own, or its type is not checked. -/
def Structural (content : Json) : Prop :=
  (content.get? "properties").isSome = true ∨ Primitive.ofNode content = .unchecked

mutual

/-- The second schema is the first with some properties written out, where `allowed` says which
schemas may take the place of a reference. -/
inductive Inlined (d : Document) (allowed : Json → Prop) : Json → Json → Prop
  | same (schema : Json) : Inlined d allowed schema schema
  | within {fields properties properties' : Fields} :
      fields.get? "properties" = some (.object properties) →
      List.Forall₂ (InlinedEntry d allowed) properties properties' →
      Inlined d allowed (.object fields) (.object (fields.set "properties" (.object properties')))

/-- The same for a single property: its schema is written out further inside, or it is a reference
that gives way to the mapping to which it leads. -/
inductive InlinedEntry (d : Document) (allowed : Json → Prop) : String × Json → String × Json → Prop
  | within {key : String} {schema schema' : Json} :
      Inlined d allowed schema schema' → InlinedEntry d allowed (key, schema) (key, schema')
  | reference {key : String} {schema schema' : Json} {names : List String} {content : Fields} :
      isReference schema = true → d.Leads schema names (.object content) →
      allowed (.object content) → Inlined d allowed (.object content) schema' →
      InlinedEntry d allowed (key, schema) (key, schema')

end

/-- The definitions of the second document are those of the first with properties written out. -/
def InlinedDefinitions (d : Document) (allowed : Json → Prop) (d' : Document) : Prop :=
  ∀ name, Option.Rel (Inlined d allowed) (d.definitions.get? name) (d'.definitions.get? name)

variable {d d' : Document} {allowed : Json → Prop} {schema schema' : Json}
  {location location' : String} {data : Json}

theorem InlinedDefinitions.refl (d : Document) (allowed : Json → Prop) :
    InlinedDefinitions d allowed d :=
  fun _ => rel_refl .same _

/-! ### What writing out keeps -/

/-- Every field but the properties stays. -/
theorem Inlined.get?_eq {key : String} (h : Inlined d allowed schema schema')
    (hk : key ≠ "properties") : schema'.get? key = schema.get? key := by
  cases h with
  | same => rfl
  | within => simp [Fields.get?_set, hk]

theorem Inlined.reference?_eq (h : Inlined d allowed schema schema') :
    reference? schema' = reference? schema := by
  simp [reference?, h.get?_eq]

theorem Inlined.ofNode_eq (h : Inlined d allowed schema schema') :
    Primitive.ofNode schema' = Primitive.ofNode schema := by
  simp [Primitive.ofNode, h.get?_eq]

/-- A schema has properties of its own when it had them before. -/
theorem Inlined.properties_isSome (h : Inlined d allowed schema schema') :
    (schema'.get? "properties").isSome = (schema.get? "properties").isSome := by
  cases h with
  | same => rfl
  | within hp => simp [Fields.get?_set, hp]

theorem Inlined.isNested_eq (h : Inlined d allowed schema schema') :
    isNested schema' = isNested schema := by
  simp [isNested, isReference, h.reference?_eq, h.properties_isSome]

theorem Inlined.object {fields : Fields} (h : Inlined d allowed (.object fields) schema') :
    ∃ fields', schema' = .object fields' := by
  cases h with
  | same => exact ⟨fields, rfl⟩
  | within => exact ⟨_, rfl⟩

/-- Declared properties are written out one by one. -/
theorem Inlined.declares {properties : Fields} (h : Inlined d allowed schema schema')
    (hp : Declares schema properties) :
    ∃ properties', Declares schema' properties' ∧
      List.Forall₂ (InlinedEntry d allowed) properties properties' := by
  cases h with
  | same =>
      exact ⟨properties, hp, List.forall₂_same.2 fun entry _ => .within (.same entry.2)⟩
  | @within fields declared properties' hf hall =>
      have hdeclares : Declares (.object (fields.set "properties" (.object properties')))
          properties' := .mapping (by simp [Fields.get?_set])
      cases hp with
      | absent hn => simp [hf] at hn
      | null hn => simp [hf] at hn
      | mapping hm =>
          obtain rfl : declared = properties := by simpa [hf] using hm
          exact ⟨properties', hdeclares, hall⟩

theorem Inlined.not_declares (h : Inlined d allowed schema schema')
    (hp : ∀ properties, ¬ Declares schema properties) (properties : Fields) :
    ¬ Declares schema' properties := by
  cases h with
  | same => exact hp properties
  | within hf => exact absurd (.mapping hf) (hp _)

/-! ### Two runs side by side -/

/-- The outcome with references written out follows the outcome without: it is alike, or the type
of a schema that is not structural has refused a value. -/
def Follows (allowed : Json → Prop) (outcome outcome' : Check) : Prop :=
  Alike outcome outcome' ∨
    ∃ key content, allowed content ∧ ¬ Structural content ∧
      outcome' = .error (.refused (.wrongType .body key (Primitive.ofNode content)))

/-- Runs follow one another when their entries do. -/
theorem Follows.forM {entries entries' : Fields} {check check' : String × Json → Check}
    (h : List.Forall₂ (fun e e' => Follows allowed (check e) (check' e')) entries entries') :
    Follows allowed (forM entries check) (forM entries' check') := by
  induction h with
  | nil => exact .inl .passed
  | @cons e e' entries entries' he _ ih =>
      rw [List.forM_cons, List.forM_cons]
      rcases he with he | ⟨key, content, hc, hs, he⟩
      · generalize check e = outcome at he ⊢
        generalize check' e' = outcome' at he ⊢
        cases he with
        | passed => exact ih
        | refused refusal => exact .inl (.refused refusal)
        | faulty fault => exact .inl (.faulty fault)
        | moved location location' expected => exact .inl (.moved location location' expected)
      · -- a type that refuses ends the second run, whatever the first goes on to do
        exact .inr ⟨key, content, hc, hs, by rw [he]; rfl⟩

/-- A schema is checked as its content is, which faults name by the last definition. -/
theorem checkSchema_eq_of_leads {names : List String} {content : Json}
    (hl : d.Leads schema names content) :
    checkSchema d location schema data =
      checkSchema d (schemaLocation location names) content data := by
  rw [checkSchema_of_leads hl, checkSchema_of_leads hl.self]
  rfl

/-- A schema without properties accepts every value. -/
theorem checkSchema_of_no_properties (hr : reference? schema = none)
    (hp : (schema.get? "properties").isSome = false) :
    checkSchema d location schema data = .ok () := by
  refine checkSchema_eq_ok_iff_checkProperty.2
    ⟨[], schema, [], .content hr, .absent ?_, by simp⟩
  simpa using hp

theorem isNested_of_content (hr : reference? schema = none) :
    isNested schema = (schema.get? "properties").isSome := by
  simp [isNested, isReference, hr]

section Step

variable (hd : InlinedDefinitions d allowed d')
  (ih : ∀ value, sizeOf value < sizeOf data → ∀ location location' schema schema',
    Inlined d allowed schema schema' →
    Follows allowed (checkSchema d location schema value) (checkSchema d' location' schema' value))

include ih

theorem checkProperty_within {key : String} (h : Inlined d allowed schema schema') :
    Follows allowed (checkProperty d location data (key, schema))
      (checkProperty d' location' data (key, schema')) := by
  cases hv : present? data key with
  | none =>
      rw [checkProperty_of_missing hv, checkProperty_of_missing hv]
      exact .inl (.refused _)
  | some value =>
      cases schema with
      | object fields =>
          obtain ⟨fields', rfl⟩ := h.object
          rw [checkProperty_object hv, checkProperty_object hv, h.isNested_eq, h.ofNode_eq]
          split
          · exact ih value (sizeOf_lt_of_present? hv) _ _ _ _ h
          · exact .inl (.refl _)
      | _ =>
          cases h with
          | same =>
              rw [checkProperty_of_shapeless hv (by simp), checkProperty_of_shapeless hv (by simp)]
              exact .inl (.moved _ _ _)

/-- A property that was a reference: what it leads to is descended into on one side, and checked by
the rule for schemas in place on the other. -/
theorem checkProperty_reference {key : String} {names : List String} {content : Fields}
    (hr : isReference schema = true) (hl : d.Leads schema names (.object content))
    (ha : allowed (.object content)) (h : Inlined d allowed (.object content) schema') :
    Follows allowed (checkProperty d location data (key, schema))
      (checkProperty d' location' data (key, schema')) := by
  cases hv : present? data key with
  | none =>
      rw [checkProperty_of_missing hv, checkProperty_of_missing hv]
      exact .inl (.refused _)
  | some value =>
      obtain ⟨fields', rfl⟩ := h.object
      have hcontent := hl.reference?_eq_none
      obtain ⟨fields, rfl⟩ : ∃ fields, schema = .object fields := by
        cases schema with
        | object fields => exact ⟨fields, rfl⟩
        | _ => simp [isReference, reference?, Json.get?] at hr
      have hnested : isNested (.object fields) = true := by simp [isNested, hr]
      rw [checkProperty_object hv, if_pos hnested, checkSchema_eq_of_leads hl,
        checkProperty_object hv, h.isNested_eq, h.ofNode_eq, isNested_of_content hcontent]
      -- with properties both sides descend; without, one accepts and the other checks the type
      cases hp : ((Json.object content).get? "properties").isSome with
      | true => exact ih value (sizeOf_lt_of_present? hv) _ _ _ _ h
      | false =>
          rw [checkSchema_of_no_properties hcontent hp]
          cases ht : hasType (Primitive.ofNode (.object content)) value with
          | true =>
              rw [checkType_eq_ok_iff.2 ht]
              exact .inl .passed
          | false =>
              rw [checkType_eq_error_iff.2 ⟨ht, rfl⟩]
              refine .inr ⟨key, .object content, ha, ?_, rfl⟩
              rintro (hs | hs)
              · rw [hp] at hs
                cases hs
              · simp [hs, hasType] at ht

include hd

/-- The step of the induction on the value: only smaller values are descended into. -/
theorem follows_of_smaller (h : Inlined d allowed schema schema') :
    Follows allowed (checkSchema d location schema data)
      (checkSchema d' location' schema' data) := by
  rcases d.leads_or_broken schema with ⟨names, content, hl⟩ | ⟨fault, hb⟩
  · obtain ⟨content', hl', hc⟩ := hl.related hd Inlined.reference?_eq h
    rw [checkSchema_of_leads hl, checkSchema_of_leads hl']
    cases hp : declaredProperties (schemaLocation location names) content with
    | ok properties =>
        obtain ⟨properties', hp', hall⟩ := hc.declares (declaredProperties_eq_ok_iff.1 hp)
        rw [declaredProperties_eq_ok_iff.2 hp']
        refine Follows.forM (hall.imp fun e e' he => ?_)
        cases he with
        | within h => exact checkProperty_within ih h
        | reference hr hl ha h => exact checkProperty_reference ih hr hl ha h
    | error rejection =>
        obtain ⟨hnone, rfl⟩ := declaredProperties_eq_error_iff.1 hp
        rw [declaredProperties_eq_error_iff.2 ⟨hc.not_declares hnone, rfl⟩]
        exact .inl (.moved _ _ _)
  · rw [checkSchema_of_broken hb, checkSchema_of_broken (hb.related hd Inlined.reference?_eq h)]
    exact .inl (.faulty fault)

end Step

/-- The outcome with references written out follows the outcome without, at every value. -/
theorem follows_inlined (hd : InlinedDefinitions d allowed d')
    (h : Inlined d allowed schema schema') :
    Follows allowed (checkSchema d location schema data)
      (checkSchema d' location' schema' data) := by
  -- strong induction on the size of the value: the schemas may unfold without end
  induction hn : sizeOf data using Nat.strongRecOn
    generalizing data location location' schema schema' with
  | _ n ih =>
      subst hn
      exact follows_of_smaller hd
        (fun value hlt location location' schema schema' h => ih _ hlt h rfl) h

/-- A single property of a schema written out. -/
theorem Inlined.of_property {fields content : Fields} {key : String} {names : List String}
    (before after : Fields)
    (hf : fields.get? "properties" = some (.object (before ++ (key, schema) :: after)))
    (hr : isReference schema = true) (hl : d.Leads schema names (.object content))
    (ha : allowed (.object content)) :
    Inlined d allowed (.object fields)
      (.object
        (fields.set "properties" (.object (before ++ (key, .object content) :: after)))) := by
  have hsame : ∀ entries : Fields, List.Forall₂ (InlinedEntry d allowed) entries entries :=
    fun entries => List.forall₂_same.2 fun entry _ => .within (.same entry.2)
  exact .within hf (List.rel_append (hsame before)
    (.cons (.reference hr hl ha (.same _)) (hsame after)))

/-- **Writing out references to structural schemas leaves the outcome as it is, but for the location
of faults.  Where another schema is written out, the only other outcome is that its type refuses a
value.** -/
theorem checkSchema_inlined (hd : InlinedDefinitions d allowed d')
    (h : Inlined d allowed schema schema') (location location' : String) (data : Json) :
    ((∀ content, allowed content → Structural content) →
      Alike (checkSchema d location schema data) (checkSchema d' location' schema' data)) ∧
    (Alike (checkSchema d location schema data) (checkSchema d' location' schema' data) ∨
      ∃ key content, allowed content ∧ ¬ Structural content ∧
        checkSchema d' location' schema' data =
          .error (.refused (.wrongType .body key (Primitive.ofNode content)))) := by
  have hfollows : Follows allowed (checkSchema d location schema data)
      (checkSchema d' location' schema' data) := follows_inlined hd h
  refine ⟨fun hall => ?_, hfollows⟩
  rcases hfollows with halike | ⟨key, content, hc, hs, -⟩
  · exact halike
  · exact absurd (hall content hc) hs

/-! ### A small directory -/

def referenceTo (name : String) : Json := .object [("$ref", .text ("#/definitions/" ++ name))]

def textSchema : Json := .object [("type", .text "string")]

/-- The schema with a single property. -/
def single (key : String) (property : Json) : Fields :=
  [("properties", .object [(key, property)])]

/-- A document in which `Person` is an alias of `User`, and `Name` is a text. -/
def directory : Document where
  paths := []
  definitions :=
    [("Person", referenceTo "User"), ("User", .object (single "city" textSchema)),
      ("Name", textSchema)]
  parameters := []
  others := []

/-- An owner given by an alias and one written out refuse the same city. -/
theorem checkSchema_inlined_person :
    InlinedDefinitions directory Structural directory ∧
    Inlined directory Structural (.object (single "owner" (referenceTo "Person")))
      (.object (single "owner" (.object (single "city" textSchema)))) ∧
    Alike
      (checkSchema directory "body" (.object (single "owner" (referenceTo "Person")))
        (.object [("owner", .object [("city", .int 5)])]))
      (checkSchema directory "body"
        (.object (single "owner" (.object (single "city" textSchema))))
        (.object [("owner", .object [("city", .int 5)])])) := by
  have hd := InlinedDefinitions.refl directory Structural
  have hl : directory.Leads (referenceTo "Person") ["Person", "User"]
      (.object (single "city" textSchema)) := by
    exact .step ⟨by decide, rfl⟩ (.step ⟨by decide, rfl⟩ (.content rfl))
  have hs : Inlined directory Structural (.object (single "owner" (referenceTo "Person")))
      (.object (single "owner" (.object (single "city" textSchema)))) :=
    Inlined.of_property [] [] rfl rfl hl (.inl rfl)
  exact ⟨hd, hs, (checkSchema_inlined hd hs "body" "body" _).1 fun _ hc => hc⟩

/-- **The type of a definition is not checked behind a reference**: a name that is a number passes
where the reference stands, and is refused where the definition is written out. -/
theorem reference_hides_type :
    directory.resolve [] (referenceTo "Name") = ⟨.ok textSchema, ["Name"]⟩ ∧
    checkSchema directory "body" (.object (single "name" (referenceTo "Name")))
      (.object [("name", .int 5)]) = .ok () ∧
    checkSchema directory "body" (.object (single "name" textSchema))
      (.object [("name", .int 5)]) = .error (.refused (.wrongType .body "name" .string)) := by
  have hl : directory.Leads (referenceTo "Name") ["Name"] textSchema :=
    .step ⟨by decide, rfl⟩ (.content rfl)
  have hmeets : Meets directory (.object [("name", .int 5)]) ("name", referenceTo "Name") :=
    .nested rfl rfl (.intro hl (.absent rfl) (by simp))
  have hmisses : Misses directory "body" (.object [("name", .int 5)]) ("name", textSchema)
      (.refused (.wrongType .body "name" .string)) := .mistyped rfl rfl rfl
  refine ⟨Document.resolve_nil_eq_ok_iff.2 hl, ?_, ?_⟩
  · exact (decided _ _ _ _).1.2 (.intro (.content rfl) (.mapping rfl) (by simpa using hmeets))
  · exact ((decided _ _ _ _).2 _).2
      (@Rejects.missed _ _ _ _ _ [] [] [] _ _ (.content rfl) (.mapping rfl) (by simp) hmisses)

end Conformance

end ApiContract
