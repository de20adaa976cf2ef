import ApiContract.Conformance.Body
import ApiContract.Proofs.Document.Alias
import ApiContract.Proofs.FirstFailure

/-
What it means for a value to conform to a schema.

`ApiContract.Conformance.checkSchema` recurses on the value, goes through the declared properties
one after the other, and follows aliases on the way.  This module gives the meaning of that walk
without it: conformance and rejection are least relations, closed under the obligations that a
schema puts on a value.

Main definitions:

* `ApiContract.Conformance.Declares` — the properties that a schema with content declares;
* `ApiContract.Conformance.Conforms`, `Meets` — a value conforms to a schema, and meets the
  obligation of one property;
* `ApiContract.Conformance.Rejects`, `Misses` — the rejection of a value by a schema, and by the
  obligation of one property;
* `ApiContract.Conformance.checkProperty` — the check of one obligation.

Main results:

* `ApiContract.Conformance.checkSchema_eq_ok_iff_checkProperty`,
  `checkSchema_eq_error_iff_checkProperty` — a schema as a run of obligations;
* `ApiContract.Conformance.checkSchema_decides` — **the check passes exactly the values that
  conform, and rejects any other with the first obligation that it misses**.
-/

set_option autoImplicit false

namespace ApiContract

namespace Conformance

/-! ### The relations -/

/-- The properties that a schema with content declares.  No field for them, and a null one, are
the same as no properties. -/
inductive Declares : Json → Fields → Prop
  | absent {content : Json} : content.get? "properties" = none → Declares content []
  | null {content : Json} : content.get? "properties" = some .null → Declares content []
  | mapping {content : Json} {properties : Fields} :
      content.get? "properties" = some (.object properties) → Declares content properties

mutual

/-- The value `data` conforms to a schema: the schema leads to content, and every property declared
there is met. -/
inductive Conforms (d : Document) : Json → Json → Prop
  | intro {schema data content : Json} {names : List String} {properties : Fields} :
      d.Leads schema names content → Declares content properties →
      (∀ entry ∈ properties, Meets d data entry) → Conforms d schema data

/-- The value `data` meets the obligation of a declared property: there is a value other than null
under its key, which conforms to a schema that is nested, and is of the type of any other. -/
inductive Meets (d : Document) : Json → String × Json → Prop
  | nested {data value : Json} {key : String} {fields : Fields} :
      present? data key = some value → isNested (.object fields) = true →
      Conforms d (.object fields) value → Meets d data (key, .object fields)
  | primitive {data value : Json} {key : String} {fields : Fields} :
      present? data key = some value → isNested (.object fields) = false →
      hasType (Primitive.ofNode (.object fields)) value = true → Meets d data (key, .object fields)

end

mutual

/-- A schema rejects the value `data`.  The fault of its references comes before its properties,
and the first property that is missed is the one that counts. -/
inductive Rejects (d : Document) : String → Json → Json → Rejection → Prop
  | broken {location : String} {schema data : Json} {fault : Fault} :
      d.Broken [] schema fault → Rejects d location schema data (.faulty fault)
  | malformed {location : String} {schema data content : Json} {names : List String} :
      d.Leads schema names content → (∀ properties, ¬ Declares content properties) →
      Rejects d location schema data
        (.faulty (.malformedNode (schemaLocation location names ++ "/properties") .mapping))
  | missed {location : String} {schema data content : Json} {names : List String}
      {before after : Fields} {entry : String × Json} {rejection : Rejection} :
      d.Leads schema names content → Declares content (before ++ entry :: after) →
      (∀ earlier ∈ before, Meets d data earlier) →
      Misses d (schemaLocation location names) data entry rejection →
      Rejects d location schema data rejection

/-- The value `data` misses the obligation of a declared property: the value under its key comes
first, then the shape of its schema, then what is inside. -/
inductive Misses (d : Document) : String → Json → String × Json → Rejection → Prop
  | missing {location key : String} {data property : Json} :
      present? data key = none →
      Misses d location data (key, property) (.refused (.propertyMissing key))
  | shapeless {location key : String} {data value property : Json} :
      present? data key = some value → (∀ fields, property ≠ .object fields) →
      Misses d location data (key, property)
        (.faulty (.malformedNode s!"{location}/properties/{key}" .schemaMapping))
  | nested {location key : String} {data value : Json} {fields : Fields} {rejection : Rejection} :
      present? data key = some value → isNested (.object fields) = true →
      Rejects d s!"{location}/properties/{key}" (.object fields) value rejection →
      Misses d location data (key, .object fields) rejection
  | mistyped {location key : String} {data value : Json} {fields : Fields} :
      present? data key = some value → isNested (.object fields) = false →
      hasType (Primitive.ofNode (.object fields)) value = false →
      Misses d location data (key, .object fields)
        (.refused (.wrongType .body key (Primitive.ofNode (.object fields))))

end

/-! ### One obligation -/

/-- Checks the obligation of one property. -/
def checkProperty (d : Document) (location : String) (data : Json) (entry : String × Json) :
    Check :=
  match present? data entry.1 with
  | none => .error (.refused (.propertyMissing entry.1))
  | some value =>
    match entry.2 with
    | .object _ =>
      if isNested entry.2 then checkSchema d s!"{location}/properties/{entry.1}" entry.2 value
      else Check.ofRefusal (checkType .body entry.1 (Primitive.ofNode entry.2) value)
    | _ => .error (.faulty (.malformedNode s!"{location}/properties/{entry.1}" .schemaMapping))

variable {d : Document} {location : String} {schema data : Json} {rejection : Rejection}

section Property

variable {key : String} {value property : Json} {fields : Fields}

/-- A value that is found is present, unless it is null. -/
theorem present?_of_ne_null (h : data.get? key = some value) (hne : value ≠ .null) :
    present? data key = some value := by
  unfold present?
  split
  · next hnull => exact absurd (Option.some.inj (h.symm.trans hnull)) hne
  · exact h

theorem checkProperty_of_missing (hv : present? data key = none) :
    checkProperty d location data (key, property) = .error (.refused (.propertyMissing key)) := by
  simp [checkProperty, hv]

theorem checkProperty_object (hv : present? data key = some value) :
    checkProperty d location data (key, .object fields) =
      if isNested (.object fields) then
        checkSchema d s!"{location}/properties/{key}" (.object fields) value
      else Check.ofRefusal (checkType .body key (Primitive.ofNode (.object fields)) value) := by
  simp [checkProperty, hv]

theorem checkProperty_of_shapeless (hv : present? data key = some value)
    (hs : ∀ fields, property ≠ .object fields) :
    checkProperty d location data (key, property) =
      .error (.faulty (.malformedNode s!"{location}/properties/{key}" .schemaMapping)) := by
  cases property with
  | object fields => exact absurd rfl (hs fields)
  | _ => simp [checkProperty, hv]

end Property

/-! ### A schema as a run of obligations -/

/-- **The properties of a schema are a run of obligations.** -/
theorem checkProperties_eq_forM (properties : Fields) :
    checkProperties d location properties data =
      forM properties (checkProperty d location data) := by
  induction properties with
  | nil =>
      rw [checkProperties]
      rfl
  | cons entry rest ih =>
      obtain ⟨key, property⟩ := entry
      rw [checkProperties, List.forM_cons, ← ih, checkProperty]
      split
      · next hv => simp [hv, bind, Except.bind]
      · next value hv =>
          simp only [hv]
          cases property with
          | object fields =>
              by_cases hn : isNested (.object fields) = true
              · simp only [hn, if_true]
                cases checkSchema d s!"{location}/properties/{key}" (.object fields) value <;> rfl
              · simp only [hn]
                cases checkType .body key (Primitive.ofNode (.object fields)) value <;> rfl
          | _ => rfl

/-- The content of a schema is checked as its declared properties are. -/
theorem checkSchema_of_leads {content : Json} {names : List String}
    (h : d.Leads schema names content) :
    checkSchema d location schema data =
      (declaredProperties (schemaLocation location names) content).bind fun properties =>
        forM properties (checkProperty d (schemaLocation location names) data) := by
  rw [checkSchema]
  simp only [Document.resolve_nil_eq_ok_iff.2 h, checkProperties_eq_forM]
  cases declaredProperties (schemaLocation location names) content <;> rfl

/-- A schema whose references are broken rejects every value. -/
theorem checkSchema_of_broken {fault : Fault} (h : d.Broken [] schema fault) :
    checkSchema d location schema data = .error (.faulty fault) := by
  rw [checkSchema]
  simp only [Document.resolve_outcome_eq_error_iff.2 h]

/-! ### The parts of a schema's check -/

theorem declaredProperties_eq_ok_iff {content : Json} {properties : Fields} :
    declaredProperties location content = .ok properties ↔ Declares content properties := by
  constructor
  · intro h
    unfold declaredProperties at h
    split at h
    · next hp => cases h; exact .absent hp
    · next hp => cases h; exact .null hp
    · next hp => cases h; exact .mapping hp
    · cases h
  · intro h
    cases h with
    | absent hp => simp [declaredProperties, hp]
    | null hp => simp [declaredProperties, hp]
    | mapping hp => simp [declaredProperties, hp]

theorem Declares.unique {content : Json} {properties properties' : Fields}
    (h : Declares content properties) (h' : Declares content properties') :
    properties = properties' := by
  have hok := (@declaredProperties_eq_ok_iff "" _ _).2 h
  rw [(@declaredProperties_eq_ok_iff "" _ _).2 h'] at hok
  exact (Except.ok.inj hok).symm

theorem declaredProperties_eq_error_iff {content : Json} :
    declaredProperties location content = .error rejection ↔
      (∀ properties, ¬ Declares content properties) ∧
        rejection = .faulty (.malformedNode (location ++ "/properties") .mapping) := by
  simp only [← @declaredProperties_eq_ok_iff location]
  unfold declaredProperties
  split <;> simp [eq_comm]

theorem checkType_eq_ok_iff {place : Place} {name : String} {type : Primitive} {value : Json} :
    checkType place name type value = .ok () ↔ hasType type value = true := by
  simp [checkType]

theorem checkType_eq_error_iff {place : Place} {name : String} {type : Primitive} {value : Json}
    {refusal : Refusal} :
    checkType place name type value = .error refusal ↔
      hasType type value = false ∧ .wrongType place name type = refusal := by
  cases h : hasType type value <;> simp [checkType, h]

/-- A schema passes when its references end and every declared property passes. -/
theorem checkSchema_eq_ok_iff_checkProperty :
    checkSchema d location schema data = .ok () ↔
      ∃ names content properties, d.Leads schema names content ∧ Declares content properties ∧
        ∀ entry ∈ properties,
          checkProperty d (schemaLocation location names) data entry = .ok () := by
  rcases d.leads_or_broken schema with ⟨names, content, hl⟩ | ⟨fault, hb⟩
  · rw [checkSchema_of_leads hl]
    constructor
    · intro h
      obtain ⟨properties, hp, h⟩ := FirstFailure.bind_eq_ok_iff.1 h
      exact ⟨names, content, properties, hl, declaredProperties_eq_ok_iff.1 hp,
        FirstFailure.forM_eq_ok_iff.1 h⟩
    · rintro ⟨names', content', properties, hl', hp, h⟩
      obtain ⟨rfl, rfl⟩ := hl.unique hl'
      exact FirstFailure.bind_eq_ok_iff.2
        ⟨properties, declaredProperties_eq_ok_iff.2 hp, FirstFailure.forM_eq_ok_iff.2 h⟩
  · rw [checkSchema_of_broken hb]
    constructor
    · intro h
      cases h
    · rintro ⟨names, content, properties, hl, -⟩
      exact absurd hb hl.not_broken

/-- A schema fails with its references, with the shape of its properties, or with the first
declared property that fails. -/
theorem checkSchema_eq_error_iff_checkProperty :
    checkSchema d location schema data = .error rejection ↔
      (∃ fault, d.Broken [] schema fault ∧ rejection = .faulty fault) ∨
      (∃ names content, d.Leads schema names content ∧
        (∀ properties, ¬ Declares content properties) ∧
        rejection =
          .faulty (.malformedNode (schemaLocation location names ++ "/properties") .mapping)) ∨
      ∃ names content before entry after, d.Leads schema names content ∧
        Declares content (before ++ entry :: after) ∧
        (∀ earlier ∈ before,
          checkProperty d (schemaLocation location names) data earlier = .ok ()) ∧
        checkProperty d (schemaLocation location names) data entry = .error rejection := by
  rcases d.leads_or_broken schema with ⟨names, content, hl⟩ | ⟨fault, hb⟩
  · rw [checkSchema_of_leads hl]
    constructor
    · intro h
      rcases FirstFailure.bind_eq_error_iff.1 h with h | ⟨properties, hp, h⟩
      · obtain ⟨hp, rfl⟩ := declaredProperties_eq_error_iff.1 h
        exact .inr (.inl ⟨names, content, hl, hp, rfl⟩)
      · obtain ⟨before, entry, after, rfl, hbefore, hentry⟩ := FirstFailure.forM_eq_error_iff.1 h
        exact .inr (.inr ⟨names, content, before, entry, after, hl,
          declaredProperties_eq_ok_iff.1 hp, hbefore, hentry⟩)
    · rintro (⟨fault, hb, -⟩ | ⟨names', content', hl', hp, rfl⟩ |
        ⟨names', content', before, entry, after, hl', hp, hbefore, hentry⟩)
      · exact absurd hb hl.not_broken
      · obtain ⟨rfl, rfl⟩ := hl.unique hl'
        exact FirstFailure.bind_eq_error_iff.2 (.inl (declaredProperties_eq_error_iff.2 ⟨hp, rfl⟩))
      · obtain ⟨rfl, rfl⟩ := hl.unique hl'
        exact FirstFailure.bind_eq_error_iff.2 (.inr ⟨_, declaredProperties_eq_ok_iff.2 hp,
          FirstFailure.forM_eq_error_iff.2 ⟨before, entry, after, rfl, hbefore, hentry⟩⟩)
  · rw [checkSchema_of_broken hb]
    constructor
    · intro h
      exact .inl ⟨fault, hb, (Except.error.inj h).symm⟩
    · rintro (⟨fault', hb', rfl⟩ | ⟨names, content, hl, -⟩ | ⟨names, content, -, -, -, hl, -⟩)
      · rw [hb.unique hb']
      · exact absurd hb hl.not_broken
      · exact absurd hb hl.not_broken

/-! ### The check decides conformance -/

/-- At the value `data` the check and the relations agree, for every schema and location. -/
def Decided (d : Document) (data : Json) : Prop :=
  ∀ location schema, (checkSchema d location schema data = .ok () ↔ Conforms d schema data) ∧
    ∀ rejection, checkSchema d location schema data = .error rejection ↔
      Rejects d location schema data rejection

section Step

variable (ih : ∀ value, sizeOf value < sizeOf data → Decided d value) {entry : String × Json}

include ih

/-- One obligation passes exactly when it is met. -/
theorem checkProperty_eq_ok_iff :
    checkProperty d location data entry = .ok () ↔ Meets d data entry := by
  obtain ⟨key, property⟩ := entry
  constructor
  · intro h
    cases hv : present? data key with
    | none =>
        rw [checkProperty_of_missing hv] at h
        cases h
    | some value =>
        cases property with
        | object fields =>
            rw [checkProperty_object hv] at h
            split at h
            · next hn => exact .nested hv hn ((ih value (sizeOf_lt_of_present? hv) _ _).1.1 h)
            · next hn =>
                rw [Check.ofRefusal_eq_ok_iff, checkType_eq_ok_iff] at h
                exact .primitive hv (Bool.eq_false_iff.2 hn) h
        | _ =>
            rw [checkProperty_of_shapeless hv (by simp)] at h
            cases h
  · intro h
    cases h with
    | nested hv hn hc =>
        rw [checkProperty_object hv, if_pos hn]
        exact (ih _ (sizeOf_lt_of_present? hv) _ _).1.2 hc
    | primitive hv hn ht =>
        rw [checkProperty_object hv, if_neg (Bool.eq_false_iff.1 hn)]
        exact Check.ofRefusal_eq_ok_iff.2 (checkType_eq_ok_iff.2 ht)

/-- One obligation fails exactly as it is missed. -/
theorem checkProperty_eq_error_iff :
    checkProperty d location data entry = .error rejection ↔
      Misses d location data entry rejection := by
  obtain ⟨key, property⟩ := entry
  constructor
  · intro h
    cases hv : present? data key with
    | none =>
        rw [checkProperty_of_missing hv] at h
        cases h
        exact .missing hv
    | some value =>
        cases property with
        | object fields =>
            rw [checkProperty_object hv] at h
            split at h
            · next hn => exact .nested hv hn (((ih value (sizeOf_lt_of_present? hv) _ _).2 _).1 h)
            · next hn =>
                obtain ⟨refusal, hr, rfl⟩ := Check.ofRefusal_eq_error_iff.1 h
                obtain ⟨ht, rfl⟩ := checkType_eq_error_iff.1 hr
                exact .mistyped hv (Bool.eq_false_iff.2 hn) ht
        | _ =>
            rw [checkProperty_of_shapeless hv (by simp)] at h
            cases h
            exact .shapeless hv (by simp)
  · intro h
    cases h with
    | missing hv => exact checkProperty_of_missing hv
    | shapeless hv hs => exact checkProperty_of_shapeless hv hs
    | nested hv hn hr =>
        rw [checkProperty_object hv, if_pos hn]
        exact ((ih _ (sizeOf_lt_of_present? hv) _ _).2 _).2 hr
    | mistyped hv hn ht =>
        rw [checkProperty_object hv, if_neg (Bool.eq_false_iff.1 hn)]
        exact Check.ofRefusal_eq_error_iff.2 ⟨_, checkType_eq_error_iff.2 ⟨ht, rfl⟩, rfl⟩

/-- The step of the induction on the value: only smaller values are descended into. -/
theorem decided_of_smaller : Decided d data := by
  intro location schema
  refine ⟨?_, fun rejection => ?_⟩
  · rw [checkSchema_eq_ok_iff_checkProperty]
    simp only [checkProperty_eq_ok_iff ih]
    constructor
    · rintro ⟨names, content, properties, hl, hp, h⟩
      exact .intro hl hp h
    · rintro ⟨hl, hp, h⟩
      exact ⟨_, _, _, hl, hp, h⟩
  · rw [checkSchema_eq_error_iff_checkProperty]
    simp only [checkProperty_eq_ok_iff ih, checkProperty_eq_error_iff ih]
    constructor
    · rintro (⟨fault, hb, rfl⟩ | ⟨names, content, hl, hp, rfl⟩ |
        ⟨names, content, before, entry, after, hl, hp, hbefore, hentry⟩)
      · exact .broken hb
      · exact .malformed hl hp
      · exact .missed hl hp hbefore hentry
    · intro h
      cases h with
      | broken hb => exact .inl ⟨_, hb, rfl⟩
      | malformed hl hp => exact .inr (.inl ⟨_, _, hl, hp, rfl⟩)
      | missed hl hp hbefore hentry =>
          exact .inr (.inr ⟨_, _, _, _, _, hl, hp, hbefore, hentry⟩)

end Step

/-- The check and the relations agree at every value. -/
theorem decided (d : Document) (data : Json) : Decided d data := by
  -- strong induction on the size of the value, which descending makes smaller
  induction h : sizeOf data using Nat.strongRecOn generalizing data with
  | _ n ih =>
      subst h
      exact decided_of_smaller fun value hlt => ih _ hlt value rfl

/-- **The check passes exactly the values that conform to the schema, and it rejects any other
with the first obligation that the value misses.** -/
theorem checkSchema_decides (d : Document) (location : String) (schema data : Json) :
    (checkSchema d location schema data = .ok () ↔ Conforms d schema data) ∧
      ∀ rejection, checkSchema d location schema data = .error rejection ↔
        Rejects d location schema data rejection :=
  decided d data location schema

end Conformance

end ApiContract
