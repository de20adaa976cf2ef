import Mathlib.Data.Set.Insert
import ApiContract.Proofs.Conformance.Inlining

/-
Schemas that recur, and how deep their checks go.

Definitions may refer to one another in a circle, so a schema can unfold without end.  The check of
a value does not: it descends with the value, once for each level of it at most.  And where every
schema of the circle demands a property with a schema of the circle again, no value is deep enough
to satisfy it, since every value ends somewhere.

Main definitions:

* `ApiContract.Conformance.SameSchema` — two schemas lead to the same content;
* `ApiContract.Conformance.Recurs` — each of some definitions demands a property that refers to one
  of them again;
* `ApiContract.Conformance.checkSchemaIn` — the check with a bound on how many checks of schemas may
  be carried out inside one another.

Main results:

* `ApiContract.Conformance.not_conforms_of_recurs` — no value conforms to definitions that recur;
* `ApiContract.Conformance.checkSchemaIn_eq_of_depth_lt` — one level more than the value has is
  always enough;
* `ApiContract.Conformance.checkSchema_recurring` — **both, for the check itself**.
-/

set_option autoImplicit false

namespace ApiContract

namespace Conformance

variable {d : Document} {location name : String} {schema schema' data value : Json}
  {names : Set String}

/-! ### Definitions that recur -/

/-- Two schemas are resolved to the same content. -/
def SameSchema (d : Document) (schema schema' : Json) : Prop :=
  ∃ content, (d.resolve [] schema).outcome = .ok content ∧
    (d.resolve [] schema').outcome = .ok content

/-- The definition of each of the names declares a property that is a reference, namely to the same
schema as the definition of one of the names. -/
def Recurs (d : Document) (names : Set String) : Prop :=
  ∀ name ∈ names, ∃ content properties,
    (d.resolve [] (referenceTo name)).outcome = .ok content ∧
    content.get? "properties" = some (.object properties) ∧
    ∃ entry ∈ properties, isReference entry.2 = true ∧
      ∃ again ∈ names, SameSchema d entry.2 (referenceTo again)

theorem leads_of_outcome {content : Json} (h : (d.resolve [] schema).outcome = .ok content) :
    ∃ names, d.Leads schema names content :=
  ⟨_, Document.resolve_nil_eq_ok_iff.1 (show d.resolve [] schema = ⟨_, _⟩ by rw [← h])⟩

/-- It is the content that a value conforms to. -/
theorem Conforms.of_sameSchema (h : Conforms d schema data) (hs : SameSchema d schema schema') :
    Conforms d schema' data := by
  obtain ⟨content, hc, hc'⟩ := hs
  obtain ⟨met, hl⟩ := leads_of_outcome hc
  obtain ⟨met', hl'⟩ := leads_of_outcome hc'
  cases h with
  | intro hl₀ hp hmeets =>
      obtain ⟨-, rfl⟩ := hl.unique hl₀
      exact .intro hl' hp hmeets

/-- What meets a property that is a reference has a value for it which conforms to it. -/
theorem Meets.exists_conforms {entry : String × Json} (h : Meets d data entry)
    (hr : isReference entry.2 = true) :
    ∃ value, present? data entry.1 = some value ∧ Conforms d entry.2 value := by
  cases h with
  | nested hv _ hc => exact ⟨_, hv, hc⟩
  | primitive hv hn ht =>
      rw [isNested, hr, Bool.true_or] at hn
      cases hn

/-- **No value conforms to definitions that recur.** -/
theorem not_conforms_of_recurs (h : Recurs d names) (hn : name ∈ names) (data : Json) :
    ¬ Conforms d (referenceTo name) data := by
  -- strong induction on the size of the value, for all of the names at once
  induction hsize : sizeOf data using Nat.strongRecOn generalizing name data with
  | _ n ih =>
      subst hsize
      intro hconforms
      obtain ⟨content, properties, hcontent, hproperties, entry, hentry, hr, again, hagain,
        hsame⟩ := h name hn
      obtain ⟨met, hl⟩ := leads_of_outcome hcontent
      cases hconforms with
      | intro hl₀ hp hmeets =>
          obtain ⟨-, rfl⟩ := hl.unique hl₀
          obtain rfl := hp.unique (.mapping hproperties)
          obtain ⟨value, hv, hc⟩ := (hmeets entry hentry).exists_conforms hr
          exact ih _ (sizeOf_lt_of_present? hv) hagain value rfl (hc.of_sameSchema hsame)

/-! ### Levels of checks -/

/-- Checks the obligation of one property, where `nested` is the check of a property that is
descended into. -/
def checkPropertyIn (nested : String → Json → Json → Option Check) (location : String)
    (data : Json) (entry : String × Json) : ExceptT Rejection Option Unit :=
  match present? data entry.1 with
  | none => some (.error (.refused (.propertyMissing entry.1)))
  | some value =>
    match entry.2 with
    | .object _ =>
      if isNested entry.2 then nested s!"{location}/properties/{entry.1}" entry.2 value
      else some (Check.ofRefusal (checkType .body entry.1 (Primitive.ofNode entry.2) value))
    | _ =>
      some (.error (.faulty (.malformedNode s!"{location}/properties/{entry.1}" .schemaMapping)))

/-- Checks a value against a schema with at most `levels` checks of schemas inside one another, this
one included; nothing if they do not suffice. -/
def checkSchemaIn (d : Document) : (levels : Nat) → String → Json → Json → Option Check
  | 0, _, _, _ => none
  | levels + 1, location, schema, data =>
    match d.resolve [] schema with
    | ⟨.error fault, _⟩ => some (.error (.faulty fault))
    | ⟨.ok content, names⟩ =>
      match declaredProperties (schemaLocation location names) content with
      | .error rejection => some (.error rejection)
      | .ok properties =>
        forM properties
          (checkPropertyIn (checkSchemaIn d levels) (schemaLocation location names) data)

/-- A run in which nothing is short of levels is the run without them. -/
theorem forM_eq_some {properties : Fields} {check : String × Json → Check}
    {checkIn : String × Json → ExceptT Rejection Option Unit}
    (h : ∀ entry ∈ properties, checkIn entry = some (check entry)) :
    forM properties checkIn = some (forM properties check) := by
  induction properties with
  | nil => rfl
  | cons entry rest ih =>
      obtain ⟨hentry, hrest⟩ := List.forall_mem_cons.1 h
      rw [List.forM_cons, List.forM_cons, hentry]
      cases hc : check entry with
      | error rejection => rfl
      | ok _ => exact ih hrest

/-- A present value is less deep than the object it is found in. -/
theorem depth_lt_of_present? {key : String} (h : present? data key = some value) :
    value.depth < data.depth := by
  unfold present? at h
  split at h
  · cases h
  · exact Json.depth_lt_of_get? h

theorem checkPropertyIn_eq {nested : String → Json → Json → Option Check} {entry : String × Json}
    (h : ∀ value, present? data entry.1 = some value → ∀ location schema,
      nested location schema value = some (checkSchema d location schema value)) :
    checkPropertyIn nested location data entry = some (checkProperty d location data entry) := by
  unfold checkPropertyIn checkProperty
  cases hv : present? data entry.1 with
  | none => rfl
  | some value =>
      cases entry.2 with
      | object fields =>
          dsimp only
          split
          · exact h value hv _ _
          · rfl
      | _ => rfl

/-- **One level more than the value has is always enough.** -/
theorem checkSchemaIn_eq_of_depth_lt {levels : Nat} (h : data.depth < levels) :
    checkSchemaIn d levels location schema data = some (checkSchema d location schema data) := by
  induction levels generalizing location schema data with
  | zero => omega
  | succ levels ih =>
      rw [checkSchemaIn]
      rcases d.leads_or_broken schema with ⟨met, content, hl⟩ | ⟨fault, hb⟩
      · rw [Document.resolve_nil_eq_ok_iff.2 hl, checkSchema_of_leads hl]
        dsimp only
        cases declaredProperties (schemaLocation location met) content with
        | error rejection => rfl
        | ok properties =>
            refine forM_eq_some fun entry _ =>
              checkPropertyIn_eq fun value hv location schema => ih ?_
            have := depth_lt_of_present? hv
            omega
      · obtain ⟨chain, hchain⟩ : ∃ chain, d.resolve [] schema = ⟨.error fault, chain⟩ :=
          ⟨_, by rw [← Document.resolve_outcome_eq_error_iff.2 hb]⟩
        rw [hchain, checkSchema_of_broken hb]

/-! ### The check -/

/-- **Schemas that recur through properties accept no value, and no check goes deeper than its
value**: checks of schemas are nested at most once more than arrays and objects are nested in the
value, whether the schemas recur or not. -/
theorem checkSchema_recurring (d : Document) :
    (∀ names, Recurs d names → ∀ name ∈ names, ∀ location data,
      checkSchema d location (referenceTo name) data ≠ .ok ()) ∧
    ∀ location schema data,
      checkSchemaIn d (data.depth + 1) location schema data =
        some (checkSchema d location schema data) := by
  refine ⟨fun names hrecurs name hn location data hok => ?_, fun location schema data => ?_⟩
  · exact not_conforms_of_recurs hrecurs hn data ((checkSchema_decides d _ _ _).1.1 hok)
  · exact checkSchemaIn_eq_of_depth_lt (Nat.lt_succ_self _)

/-! ### Users and teams -/

/-- A document in which every user has a team and every team has a lead, who is a user by another
name. -/
def staff : Document where
  paths := []
  definitions :=
    [("User", .object (single "team" (referenceTo "Team"))),
      ("Team", .object (single "lead" (referenceTo "Person"))), ("Person", referenceTo "User")]
  parameters := []
  others := []

theorem leads_staff :
    staff.Leads (referenceTo "User") ["User"] (.object (single "team" (referenceTo "Team"))) ∧
    staff.Leads (referenceTo "Team") ["Team"] (.object (single "lead" (referenceTo "Person"))) ∧
    staff.Leads (referenceTo "Person") ["Person", "User"]
      (.object (single "team" (referenceTo "Team"))) :=
  ⟨.step ⟨by decide, rfl⟩ (.content rfl), .step ⟨by decide, rfl⟩ (.content rfl),
    .step ⟨by decide, rfl⟩ (.step ⟨by decide, rfl⟩ (.content rfl))⟩

theorem recurs_staff : Recurs staff {"User", "Team"} := by
  obtain ⟨huser, hteam, hperson⟩ := leads_staff
  have outcome : ∀ {schema content : Json} {names : List String},
      staff.Leads schema names content → (staff.resolve [] schema).outcome = .ok content :=
    fun hl => by rw [Document.resolve_nil_eq_ok_iff.2 hl]
  rintro name (rfl | rfl)
  · exact ⟨_, _, outcome huser, rfl, ("team", referenceTo "Team"), by simp, rfl, "Team", by simp,
      _, outcome hteam, outcome hteam⟩
  · exact ⟨_, _, outcome hteam, rfl, ("lead", referenceTo "Person"), by simp, rfl, "User", by simp,
      _, outcome hperson, outcome huser⟩

/-- A user with a team, which has a lead, who has a team: somebody is always missing. -/
theorem checkSchema_staff :
    Recurs staff {"User", "Team"} ∧
    checkSchema staff "body" (referenceTo "User")
      (.object [("team", .object [("lead", .object [("team", .object [])])])]) ≠ .ok () :=
  ⟨recurs_staff, (checkSchema_recurring staff).1 _ recurs_staff "User" (by simp) "body" _⟩

end Conformance

end ApiContract
