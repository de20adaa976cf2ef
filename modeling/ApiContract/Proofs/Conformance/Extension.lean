import ApiContract.Proofs.Conformance.Guarantee
import ApiContract.Proofs.Conformance.Ordering

/-
Documents that grow.

A schema that is defined and a parameter that is shared are reached by name only.  As long as every
name stands for what it stood for, more of them can only help: a reference that was followed is
followed to the same end, and one that led nowhere may come to lead somewhere.  A verdict is
therefore kept, and nothing but a fault gives way to something else.

Main definitions:

* `ApiContract.Fields.Extends` — every key keeps its value;
* `ApiContract.Document.Extends` — the same paths, and every definition and shared parameter kept;
* `ApiContract.Conformance.IsFault` — the failures that may give way.

Main results:

* `ApiContract.Document.Leads.extended` — chains of aliases are kept;
* `ApiContract.Conformance.checkSchema_upheld`, `operationParameters_upheld`, `check_upheld` — what
  does not fault is checked alike;
* `ApiContract.Conformance.validate_extended` — **adding definitions is conservative**.
-/

set_option autoImplicit false

namespace ApiContract

/-! ### Sections that grow -/

/-- Every key keeps its value. -/
def Fields.Extends (fields fields' : Fields) : Prop :=
  ∀ {key : String} {value : Json}, fields.get? key = some value → fields'.get? key = some value

/-- New entries may stand anywhere, as long as no key is repeated. -/
theorem Fields.extends_of_subset {fields fields' : Fields} (hn : fields'.keys.Nodup)
    (h : fields ⊆ fields') : fields.Extends fields' :=
  fun hv => (get?_eq_some_iff_mem hn).2 (h (mem_of_get?_eq_some hv))

namespace Document

/-- The second document has the paths of the first, and keeps its definitions and its shared
parameters.  It may have more of both. -/
structure Extends (d d' : Document) : Prop where
  paths : d'.paths = d.paths
  definitions : d.definitions.Extends d'.definitions
  parameters : d.parameters.Extends d'.parameters

variable {d d' : Document} {schema next content : Json} {name : String} {names : List String}

theorem Alias.extended (h : d.Extends d') (ha : d.Alias schema name next) :
    d'.Alias schema name next :=
  ⟨ha.target, h.definitions ha.defined⟩

/-- A chain of aliases that ends is kept. -/
theorem Leads.extended (h : d.Extends d') (hl : d.Leads schema names content) :
    d'.Leads schema names content := by
  induction hl with
  | content hr => exact .content hr
  | step ha _ ih => exact .step (ha.extended h) ih

theorem Extends.route_eq (h : d.Extends d') (method : Http.Method) (path : String) :
    d'.route method path = d.route method path := by
  have htemplates : d'.templates = d.templates := by rw [templates, h.paths, templates]
  unfold route templateFor pathItem
  rw [htemplates, h.paths]

end Document

namespace Conformance

open Document FirstFailure

variable {d d' : Document} {location : String} {schema data : Json}

/-- The failure is a fault of the document, not a refusal of the request. -/
def IsFault (rejection : Rejection) : Prop := ∃ fault, rejection = .faulty fault

theorem ofFault_upheld {α : Type} {x y : Except Fault α} (h : Upheld (fun _ => True) x y) :
    Upheld IsFault (Check.ofFault x) (Check.ofFault y) := by
  rcases h with rfl | ⟨fault, -, rfl⟩
  · exact .refl _
  · exact .inr ⟨.faulty fault, ⟨fault, rfl⟩, rfl⟩

/-! ### Schemas -/

section Step

variable (ih : ∀ value, sizeOf value < sizeOf data → ∀ location schema,
  Upheld IsFault (checkSchema d location schema value) (checkSchema d' location schema value))

include ih

theorem checkProperty_upheld (entry : String × Json) :
    Upheld IsFault (checkProperty d location data entry) (checkProperty d' location data entry) := by
  obtain ⟨key, property⟩ := entry
  cases hv : present? data key with
  | none =>
      rw [checkProperty_of_missing hv, checkProperty_of_missing hv]
      exact .refl _
  | some value =>
      cases property with
      | object fields =>
          rw [checkProperty_object hv, checkProperty_object hv]
          split
          · exact ih value (sizeOf_lt_of_present? hv) _ _
          · exact .refl _
      | _ =>
          rw [checkProperty_of_shapeless hv (by simp), checkProperty_of_shapeless hv (by simp)]
          exact .refl _

/-- The step of the induction on the value: only smaller values are descended into. -/
theorem upheld_of_smaller (h : d.Extends d') (location : String) (schema : Json) :
    Upheld IsFault (checkSchema d location schema data) (checkSchema d' location schema data) := by
  rcases d.leads_or_broken schema with ⟨names, content, hl⟩ | ⟨fault, hb⟩
  · rw [checkSchema_of_leads hl, checkSchema_of_leads (hl.extended h)]
    refine (Upheld.refl _).bind fun properties => .forM (List.forall₂_same.2 fun entry _ => ?_)
    exact checkProperty_upheld ih entry
  · -- a reference that is broken may be mended
    exact .inr ⟨.faulty fault, ⟨fault, rfl⟩, checkSchema_of_broken hb⟩

end Step

section Extended

variable (h : d.Extends d')

include h

/-- A schema that does not fault at a value has the same outcome there. -/
theorem checkSchema_upheld (location : String) (schema data : Json) :
    Upheld IsFault (checkSchema d location schema data) (checkSchema d' location schema data) := by
  -- strong induction on the size of the value: the schemas may unfold without end
  induction hn : sizeOf data using Nat.strongRecOn generalizing data location schema with
  | _ n ih =>
      subst hn
      exact upheld_of_smaller (fun value hlt location schema => ih _ hlt location schema value rfl) h
        location schema

/-! ### Parameters -/

/-- A shared parameter that is not found is the only thing that may change. -/
theorem parameterNode_upheld (entry : Json) :
    Upheld (fun _ => True) (d.parameterNode entry) (d'.parameterNode entry) := by
  unfold parameterNode
  split
  · exact .refl _
  · split
    · exact .refl _
    · next name _ =>
        unfold sharedParameter
        cases hshared : d.parameters.get? name with
        | none => exact .inr ⟨_, trivial, rfl⟩
        | some node =>
            rw [h.parameters hshared]
            exact .refl _

theorem ownParameters_upheld (location : String) (owner : Fields) :
    Upheld (fun _ => True) (d.ownParameters location owner) (d'.ownParameters location owner) := by
  have hentry : ∀ entry, Upheld (fun _ => True) (d.parameterEntry location entry)
      (d'.parameterEntry location entry) := fun entry =>
    (parameterNode_upheld h entry.1).bind fun _ => .refl _
  unfold ownParameters
  split
  · exact .refl _
  · exact .refl _
  · exact .mapM (List.forall₂_same.2 fun entry _ => hentry entry)
  · exact .refl _

theorem operationParameters_upheld (template key : String) (item operation : Fields) :
    Upheld (fun _ => True) (d.operationParameters template item key operation)
      (d'.operationParameters template item key operation) :=
  (ownParameters_upheld h _ item).bind fun _ =>
    (ownParameters_upheld h _ operation).bind fun _ => .refl _

/-! ### Requests -/

theorem checkOne_upheld (settings : Settings) (request : Http.Request) (route : Route)
    (p : Parameter) :
    Upheld IsFault (checkOne settings d request route p) (checkOne settings d' request route p) := by
  unfold checkOne
  split
  · refine (Upheld.refl _).bind fun data => ?_
    unfold checkBody
    split
    · exact .refl _
    · exact checkSchema_upheld h _ _ data
  · exact .refl _

theorem check_upheld (settings : Settings) (request : Http.Request) :
    Upheld IsFault (check settings d request) (check settings d' request) := by
  unfold check
  rw [h.route_eq]
  refine (Upheld.refl _).bind fun route => ?_
  refine Upheld.bind ?_ fun ps => ?_
  · exact ofFault_upheld (operationParameters_upheld h _ _ _ _)
  · rw [checkParameters_eq_forM, checkParameters_eq_forM]
    exact .forM (List.forall₂_same.2 fun p _ => checkOne_upheld h settings request route p)

/-- **Adding definitions is conservative.**  A document that keeps all definitions and all shared
parameters gives the same verdict on every request that the smaller document has a verdict on. -/
theorem validate_extended (settings : Settings) (request : Http.Request) (verdict : Verdict)
    (hv : validate settings d request = .ok verdict) :
    validate settings d' request = .ok verdict := by
  have hno : ∀ rejection, IsFault rejection → check settings d request ≠ .error rejection := by
    rintro _ ⟨fault, rfl⟩ heq
    rw [validate, heq] at hv
    cases hv
  rw [validate, (check_upheld h settings request).eq_of_not_lost hno]
  exact hv

end Extended

/-! ### A user that is shared -/

/-- The declaration of a user whose schema is defined elsewhere. -/
def sharedUser : Json :=
  .object [("name", .text "user"), ("in", .text "body"), ("schema", userReference)]

/-- A list with the shared declaration alone. -/
def sharedEntries : List Json := [.object [("$ref", .text "#/parameters/User")]]

/-- A document in which a user has an age, and declaration and schema of a user are shared. -/
def userDocument : Document where
  paths := [("/users", itemOf sharedEntries)]
  definitions := [("User", ageSchema integerAge)]
  parameters := [("User", sharedUser)]
  others := []

/-- The same document with names for more than a user. -/
def groupDocument : Document :=
  { userDocument with
    definitions := [("Group", .null), ("User", ageSchema integerAge)]
    parameters := [("User", sharedUser), ("Group", .null)] }

theorem extends_groupDocument : userDocument.Extends groupDocument where
  paths := rfl
  definitions := Fields.extends_of_subset (by decide) (by simp [userDocument, groupDocument])
  parameters := Fields.extends_of_subset (by decide) (by simp [userDocument, groupDocument])

theorem validate_userDocument :
    validate underApi userDocument withAge = .ok (.invalid (.wrongType .body "age" .integer)) := by
  have hp : userDocument.operationParameters "/users" [("get", .object (operationOf sharedEntries))]
      withAge.method.key (operationOf sharedEntries) =
        .ok ([] ++ ⟨"user", some .body, false, .unchecked, some userReference⟩ :: []) := rfl
  have hroute : userDocument.route withAge.method (underApi.relative withAge.path) =
      .ok (routeTo underApi withAge "/users" [("get", .object (operationOf sharedEntries))]
        (operationOf sharedEntries)) :=
    route_of_answered ofPath?_limitTen (answered_limitTen rfl)
  have hleads : userDocument.Leads userReference ["User"] (ageSchema integerAge) :=
    .step ⟨by decide, rfl⟩ (.content rfl)
  have hmisses : Misses userDocument "#/definitions/User" ageData ("age", integerAge)
      (.refused (.wrongType .body "age" .integer)) :=
    .mistyped rfl rfl (by decide)
  have hrejects : Rejects userDocument "body parameter 'user'" userReference ageData
      (.refused (.wrongType .body "age" .integer)) :=
    @Rejects.missed _ _ _ _ _ _ [] [] _ _ hleads (.mapping rfl) (by simp) hmisses
  exact validate_of_missed hroute hp (by simp)
    (.bodyRejected rfl decodeBody_withAge rfl hrejects)

/-- The age is missed in the larger document too. -/
theorem validate_groupDocument :
    userDocument.Extends groupDocument ∧
    validate underApi userDocument withAge = .ok (.invalid (.wrongType .body "age" .integer)) ∧
    validate underApi groupDocument withAge = .ok (.invalid (.wrongType .body "age" .integer)) :=
  ⟨extends_groupDocument, validate_userDocument,
    validate_extended extends_groupDocument underApi withAge _ validate_userDocument⟩

end Conformance

end ApiContract
