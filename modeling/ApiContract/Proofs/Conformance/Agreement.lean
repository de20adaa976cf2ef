import ApiContract.Proofs.Conformance.Verdict
import ApiContract.Proofs.Document.Parameters
import ApiContract.Proofs.Document.Sections

/-
Documents that say the same about every request.

Validation looks a document up by key, section by section, and takes a null section for one that is
not there; only the properties of a schema and the entries of a parameter list are gone through in
order.  Two documents agree when these readings agree, and they then give the same verdict.  One
difference is let through on purpose: a property schema without properties may be descended into in
the first document and be checked for its type in the second.  The schemas for which this may happen
are given as a parameter, and all that can come of it is that the type of one of them refuses a
value.

Main definitions:

* `ApiContract.Conformance.Agree` — schemas that agree; `AgreeParameter`, `AgreeOwner`, `AgreeItem`,
  `AgreeDocument` — the same for the parts of a document that lead to schemas;
* `ApiContract.Conformance.Typed` — a property schema whose type counts when it has no properties;
* `ApiContract.Conformance.Kept` — outcomes that are the same but for such a type.

Main results:

* `ApiContract.Conformance.checkSchema_kept` — schemas that agree, at every value;
* `ApiContract.Conformance.route_paired`, `operationParameters_paired` — routes and parameters;
* `ApiContract.Conformance.validate_kept` — **documents that agree give the same verdict, or the
  second one refuses a value by the type of a schema that it was allowed to check**.
-/

set_option autoImplicit false

namespace ApiContract

namespace Conformance

open Document FirstFailure

/-! ### Schemas that agree -/

/-- There is nothing under the key, or null. -/
def Lacks (fields : Fields) (key : String) : Prop :=
  fields.get? key = none ∨ fields.get? key = some .null

mutual

/-- Two schemas have the same fields apart from their properties, which neither declares, or which
agree one by one.  The property schemas in `freed` may be nested in the first schema only. -/
inductive Agree (freed : Json → Prop) : Json → Json → Prop
  | same (schema : Json) : Agree freed schema schema
  | alike {fields fields' : Fields} :
      (∀ key, fields'.get? key = fields.get? key) → Agree freed (.object fields) (.object fields')
  | lacking {fields fields' : Fields} :
      Fields.SameBut "properties" fields fields' → Lacks fields "properties" →
      Lacks fields' "properties" → Agree freed (.object fields) (.object fields')
  | declaring {fields fields' properties properties' : Fields} :
      Fields.SameBut "properties" fields fields' →
      fields.get? "properties" = some (.object properties) →
      fields'.get? "properties" = some (.object properties') →
      List.Forall₂ (AgreeEntry freed) properties properties' →
      Agree freed (.object fields) (.object fields')

/-- The schemas of a property agree, and both are nested or neither is, unless the first one is
freed. -/
inductive AgreeEntry (freed : Json → Prop) : String × Json → String × Json → Prop
  | intro {key : String} {schema schema' : Json} :
      Agree freed schema schema' →
      (isNested schema' = isNested schema ∨ freed schema ∧ isNested schema' = false) →
      AgreeEntry freed (key, schema) (key, schema')

end

variable {freed : Json → Prop} {schema schema' data : Json} {d d' : Document} {location : String}

theorem AgreeEntry.refl (entry : String × Json) : AgreeEntry freed entry entry :=
  .intro (.same entry.2) (.inl rfl)

/-- Every field but the properties is the same. -/
theorem Agree.get?_eq {key : String} (h : Agree freed schema schema') (hk : key ≠ "properties") :
    schema'.get? key = schema.get? key := by
  cases h with
  | same => rfl
  | alike hall => exact hall key
  | lacking hbut => exact hbut key hk
  | declaring hbut => exact hbut key hk

theorem Agree.reference?_eq (h : Agree freed schema schema') :
    reference? schema' = reference? schema := by
  simp [reference?, h.get?_eq]

theorem Agree.ofNode_eq (h : Agree freed schema schema') :
    Primitive.ofNode schema' = Primitive.ofNode schema := by
  simp [Primitive.ofNode, h.get?_eq]

theorem Agree.object {fields : Fields} (h : Agree freed (.object fields) schema') :
    ∃ fields', schema' = .object fields' := by
  cases h with
  | same => exact ⟨fields, rfl⟩
  | alike => exact ⟨_, rfl⟩
  | lacking => exact ⟨_, rfl⟩
  | declaring => exact ⟨_, rfl⟩

/-- A schema that is nested on one side only is no reference. -/
theorem Agree.isReference_eq_false (h : Agree freed schema schema')
    (hn : isNested schema' = false) : isReference schema = false := by
  rw [isReference, ← h.reference?_eq]
  exact (Bool.or_eq_false_iff.1 hn).1

theorem Lacks.declares {fields : Fields} (h : Lacks fields "properties") :
    Declares (.object fields) [] := by
  rcases h with h | h
  · exact .absent h
  · exact .null h

theorem Declares.alike {fields fields' properties : Fields}
    (h : fields'.get? "properties" = fields.get? "properties")
    (hp : Declares (.object fields) properties) : Declares (.object fields') properties := by
  cases hp with
  | absent hn => exact .absent (h.trans hn)
  | null hn => exact .null (h.trans hn)
  | mapping hm => exact .mapping (h.trans hm)

/-- What the one schema declares the other one declares too, property by property. -/
theorem Agree.declares_iff (h : Agree freed schema schema') :
    (∃ properties, Declares schema properties) ↔ ∃ properties', Declares schema' properties' := by
  cases h with
  | same => rfl
  | alike hall =>
      have hp := hall "properties"
      exact exists_congr fun properties => ⟨fun h => h.alike hp, fun h => h.alike hp.symm⟩
  | lacking _ hl hl' => exact ⟨fun _ => ⟨[], hl'.declares⟩, fun _ => ⟨[], hl.declares⟩⟩
  | declaring _ hp hp' => exact ⟨fun _ => ⟨_, .mapping hp'⟩, fun _ => ⟨_, .mapping hp⟩⟩

theorem Agree.declared {properties properties' : Fields} (h : Agree freed schema schema')
    (hp : Declares schema properties) (hp' : Declares schema' properties') :
    List.Forall₂ (AgreeEntry freed) properties properties' := by
  cases h with
  | same =>
      rw [hp.unique hp']
      exact List.forall₂_same.2 fun entry _ => .refl entry
  | alike hall =>
      rw [hp.unique (hp'.alike (hall "properties").symm)]
      exact List.forall₂_same.2 fun entry _ => .refl entry
  | lacking _ hl hl' =>
      rw [hp.unique hl.declares, hp'.unique hl'.declares]
      exact .nil
  | declaring _ hf hf' hall =>
      rw [hp.unique (.mapping hf), hp'.unique (.mapping hf')]
      exact hall

/-! ### Outcomes that are kept -/

/-- The type of the property schema counts when it has no properties. -/
def Typed (property : Json) : Prop :=
  isReference property = false ∧ Primitive.ofNode property ≠ .unchecked

/-- The second outcome is the first, or the type of a freed schema has refused a value. -/
def Kept (freed : Json → Prop) (outcome outcome' : Check) : Prop :=
  outcome' = outcome ∨ ∃ key content, freed content ∧ Typed content ∧
    outcome' = .error (.refused (.wrongType .body key (Primitive.ofNode content)))

theorem kept_iff_upheld {outcome outcome' : Check} :
    Kept freed outcome outcome' ↔
      Upheld (fun rejection => ∃ key content, freed content ∧ Typed content ∧
        rejection = .refused (.wrongType .body key (Primitive.ofNode content))) outcome' outcome := by
  unfold Kept Upheld
  refine or_congr eq_comm ⟨?_, ?_⟩
  · rintro ⟨key, content, hf, ht, heq⟩
    exact ⟨_, ⟨key, content, hf, ht, rfl⟩, heq⟩
  · rintro ⟨_, ⟨key, content, hf, ht, rfl⟩, heq⟩
    exact ⟨key, content, hf, ht, heq⟩

/-- A type that refuses ends the second run, whatever the first goes on to do. -/
theorem Kept.forM {α β : Type} {check : α → Check} {check' : β → Check} {entries : List α}
    {entries' : List β}
    (h : List.Forall₂ (fun e e' => Kept freed (check e) (check' e')) entries entries') :
    Kept freed (forM entries check) (forM entries' check') :=
  kept_iff_upheld.2 (.forM (h.imp fun _ _ he => kept_iff_upheld.1 he).flip)

theorem Kept.bind {α β : Type} {R : α → β → Prop} {x : Except Rejection α}
    {x' : Except Rejection β} {check : α → Check} {check' : β → Check} (h : Paired R x x')
    (hc : ∀ a b, R a b → Kept freed (check a) (check' b)) :
    Kept freed (x >>= check) (x' >>= check') := by
  cases h with
  | ok hab => exact hc _ _ hab
  | error rejection => exact .inl rfl

/-- A schema that agrees with one that is not nested declares nothing, and accepts every value. -/
theorem Agree.accepts (h : Agree freed schema schema') (hn : isNested schema' = false) :
    checkSchema d location schema data = .ok () := by
  have hempty : Declares schema' [] := .absent (by simpa using (Bool.or_eq_false_iff.1 hn).2)
  obtain ⟨properties, hp⟩ := h.declares_iff.2 ⟨[], hempty⟩
  obtain rfl := List.forall₂_nil_right_iff.1 (h.declared hp hempty)
  have href : reference? schema = none := by
    simpa [isReference] using h.isReference_eq_false hn
  exact checkSchema_eq_ok_iff_checkProperty.2 ⟨[], schema, [], .content href, hp, by simp⟩

section Step

variable (hdefs : DefinitionsRelated (Agree freed) d d')
  (ih : ∀ value, sizeOf value < sizeOf data → ∀ location schema schema',
    Agree freed schema schema' →
    Kept freed (checkSchema d location schema value) (checkSchema d' location schema' value))

include ih

theorem checkProperty_kept {entry entry' : String × Json} (h : AgreeEntry freed entry entry') :
    Kept freed (checkProperty d location data entry) (checkProperty d' location data entry') := by
  cases h with
  | @intro key schema schema' h hnested =>
  cases hv : present? data key with
  | none =>
      rw [checkProperty_of_missing hv, checkProperty_of_missing hv]
      exact .inl rfl
  | some value =>
      cases schema with
      | object fields =>
          obtain ⟨fields', rfl⟩ := h.object
          rw [checkProperty_object hv, checkProperty_object hv, h.ofNode_eq]
          by_cases heq : isNested (.object fields') = isNested (.object fields)
          · rw [heq]
            split
            · exact ih value (sizeOf_lt_of_present? hv) _ _ _ h
            · exact .inl rfl
          · -- the first document descends and accepts, the second one checks the type
            obtain ⟨hfreed, hn'⟩ := hnested.resolve_left heq
            have hn : isNested (.object fields) = true := by simpa [hn'] using heq
            rw [hn, hn', if_pos rfl, h.accepts hn', if_neg (by simp)]
            cases ht : hasType (Primitive.ofNode (.object fields)) value with
            | true =>
                rw [checkType_eq_ok_iff.2 ht]
                exact .inl rfl
            | false =>
                rw [checkType_eq_error_iff.2 ⟨ht, rfl⟩]
                refine .inr ⟨key, .object fields, hfreed,
                  ⟨h.isReference_eq_false hn', fun hu => ?_⟩, rfl⟩
                simp [hu, hasType] at ht
      | _ =>
          cases h with
          | same =>
              rw [checkProperty_of_shapeless hv (by simp), checkProperty_of_shapeless hv (by simp)]
              exact .inl rfl

include hdefs

/-- The step of the induction on the value: only smaller values are descended into. -/
theorem kept_of_smaller (h : Agree freed schema schema') :
    Kept freed (checkSchema d location schema data) (checkSchema d' location schema' data) := by
  rcases d.leads_or_broken schema with ⟨names, content, hl⟩ | ⟨fault, hb⟩
  · obtain ⟨content', hl', hc⟩ := hl.related hdefs Agree.reference?_eq h
    rw [checkSchema_of_leads hl, checkSchema_of_leads hl']
    cases hp : declaredProperties (schemaLocation location names) content with
    | ok properties =>
        have hdeclares := declaredProperties_eq_ok_iff.1 hp
        obtain ⟨properties', hdeclares'⟩ := hc.declares_iff.1 ⟨properties, hdeclares⟩
        rw [declaredProperties_eq_ok_iff.2 hdeclares']
        refine Kept.forM ((hc.declared hdeclares hdeclares').imp fun e e' he => ?_)
        exact checkProperty_kept ih he
    | error rejection =>
        obtain ⟨hnone, rfl⟩ := declaredProperties_eq_error_iff.1 hp
        have hnone' : ∀ properties', ¬ Declares content' properties' := fun properties' hp' =>
          (hc.declares_iff.2 ⟨properties', hp'⟩).elim hnone
        rw [declaredProperties_eq_error_iff.2 ⟨hnone', rfl⟩]
        exact .inl rfl
  · rw [checkSchema_of_broken hb, checkSchema_of_broken (hb.related hdefs Agree.reference?_eq h)]
    exact .inl rfl

end Step

/-- Schemas that agree have the same outcome at every value, but for the types of freed ones. -/
theorem checkSchema_kept (hdefs : DefinitionsRelated (Agree freed) d d')
    (h : Agree freed schema schema') :
    Kept freed (checkSchema d location schema data) (checkSchema d' location schema' data) := by
  -- strong induction on the size of the value: the schemas may unfold without end
  induction hn : sizeOf data using Nat.strongRecOn generalizing data location schema schema' with
  | _ n ih =>
      subst hn
      exact kept_of_smaller hdefs (fun value hlt location schema schema' h => ih _ hlt h rfl) h

/-! ### Parameters that agree -/

/-- Two nodes are the same, or mappings that are related. -/
inductive OnMappings (R : Fields → Fields → Prop) : Json → Json → Prop
  | same (node : Json) : OnMappings R node node
  | mapping {fields fields' : Fields} :
      R fields fields' → OnMappings R (.object fields) (.object fields')

/-- Declarations of parameters whose schemas agree. -/
def AgreeDeclaration (freed : Json → Prop) (fields fields' : Fields) : Prop :=
  Fields.SameBut "schema" fields fields' ∧
    Option.Rel (Agree freed) (fields.get? "schema") (fields'.get? "schema")

/-- Path items or operations, whose lists of parameters agree entry by entry. -/
inductive AgreeOwner (freed : Json → Prop) (owner owner' : Fields) : Prop
  | same : owner'.get? "parameters" = owner.get? "parameters" → AgreeOwner freed owner owner'
  | lacking : Lacks owner "parameters" → Lacks owner' "parameters" → AgreeOwner freed owner owner'
  | listing {entries entries' : List Json} :
      owner.get? "parameters" = some (.array entries) →
      owner'.get? "parameters" = some (.array entries') →
      List.Forall₂ (OnMappings (AgreeDeclaration freed)) entries entries' →
      AgreeOwner freed owner owner'

/-- Parameters that differ in their schemas only, and these agree. -/
inductive AgreeParameter (freed : Json → Prop) : Parameter → Parameter → Prop
  | intro {p : Parameter} {schema' : Option Json} :
      Option.Rel (Agree freed) p.schema schema' →
      AgreeParameter freed p { p with schema := schema' }

theorem AgreeParameter.refl (p : Parameter) : AgreeParameter freed p p :=
  .intro (rel_refl .same p.schema)

theorem ofNode_paired {node node' : Json} (h : OnMappings (AgreeDeclaration freed) node node') :
    Paired (AgreeParameter freed) (Parameter.ofNode location node)
      (Parameter.ofNode location node') := by
  cases h with
  | same => exact .refl .refl _
  | @mapping fields fields' h =>
      obtain ⟨hbut, hschema⟩ := h
      have hother : ∀ key, key ≠ "schema" →
          (Json.object fields').get? key = (Json.object fields).get? key := hbut
      unfold Parameter.ofNode
      rw [hother "name" (by decide), hother "in" (by decide), hother "required" (by decide)]
      have htype : Primitive.ofNode (.object fields') = Primitive.ofNode (.object fields) := by
        simp [Primitive.ofNode, hbut "type" (by decide)]
      rw [htype]
      dsimp only
      split
      · exact .error _
      · exact .ok (.intro hschema)

theorem AgreeParameter.name_place {p p' : Parameter} (h : AgreeParameter freed p p') :
    p'.name = p.name ∧ p'.place = p.place := by
  cases h
  exact ⟨rfl, rfl⟩

/-! ### Documents that agree -/

/-- Path items whose parameters and operations agree. -/
structure AgreeItem (freed : Json → Prop) (item item' : Fields) : Prop where
  owner : AgreeOwner freed item item'
  operation : ∀ key ∈ operationKeys,
    Option.Rel (OnMappings (AgreeOwner freed)) (item.get? key) (item'.get? key)

/-- Documents whose sections agree under every key. -/
structure AgreeDocument (freed : Json → Prop) (d d' : Document) : Prop where
  templates : d'.templates.Perm d.templates
  paths : ∀ template,
    Option.Rel (OnMappings (AgreeItem freed)) (d.paths.get? template) (d'.paths.get? template)
  definitions : DefinitionsRelated (Agree freed) d d'
  parameters : ∀ name, Option.Rel (OnMappings (AgreeDeclaration freed)) (d.parameters.get? name)
    (d'.parameters.get? name)

theorem AgreeOwner.refl (owner : Fields) : AgreeOwner freed owner owner := .same rfl

theorem AgreeItem.refl (item : Fields) : AgreeItem freed item item :=
  ⟨.refl item, fun _ _ => rel_refl .same _⟩

section Document

variable (h : AgreeDocument freed d d')

include h

theorem agreeing_entries_paired {entries entries' : List Json}
    (he : List.Forall₂ (OnMappings (AgreeDeclaration freed)) entries entries') :
    Paired (List.Forall₂ (AgreeParameter freed))
      (entries.zipIdx.mapM (d.parameterEntry location))
      (entries'.zipIdx.mapM (d'.parameterEntry location)) := by
  refine entries_paired h.parameters (fun entry entry' hentry => ?_)
    (fun _ _ _ hnode => ofNode_paired hnode) he
  cases hentry with
  | same => rfl
  | mapping hd => simp [reference?, hd.1 "$ref" (by decide)]

theorem ownParameters_paired {owner owner' : Fields} (ho : AgreeOwner freed owner owner') :
    Paired (List.Forall₂ (AgreeParameter freed)) (d.ownParameters location owner)
      (d'.ownParameters location owner') := by
  have hlacks : ∀ {d : Document} {owner : Fields}, Lacks owner "parameters" →
      d.ownParameters location owner = .ok [] := by
    intro d owner hl
    unfold ownParameters
    rcases hl with hl | hl <;> rw [hl]
  cases ho with
  | lacking hl hl' =>
      rw [hlacks hl, hlacks hl']
      exact .ok .nil
  | listing he he' hall =>
      unfold ownParameters
      rw [he, he']
      exact agreeing_entries_paired h hall
  | same heq =>
      unfold ownParameters
      rw [heq]
      split
      · exact .ok .nil
      · exact .ok .nil
      · exact agreeing_entries_paired h (List.forall₂_same.2 fun entry _ => .same entry)
      · exact .error _

theorem operationParameters_paired {template key : String} {item item' op op' : Fields}
    (hi : AgreeOwner freed item item') (ho : AgreeOwner freed op op') :
    Paired (List.Forall₂ (AgreeParameter freed)) (d.operationParameters template item key op)
      (d'.operationParameters template item' key op') := by
  unfold operationParameters
  refine (ownParameters_paired h hi).bind fun shared shared' hshared => ?_
  refine (ownParameters_paired h ho).bind fun own own' hown => ?_
  exact .ok (Parameter.forall₂_merge (fun _ _ hp => hp.name_place) hshared hown)

theorem pathItem_paired (template : String) :
    Paired (AgreeItem freed) (d.pathItem template) (d'.pathItem template) := by
  unfold pathItem
  rcases none_or_some_of_rel (h.paths template) with ⟨hp, hp'⟩ | ⟨node, node', hp, hp', hnode⟩
  · rw [hp, hp']
    exact .error _
  · rw [hp, hp']
    cases hnode with
    | mapping hi => exact .ok hi
    | same => exact .refl .refl _

end Document

theorem operation_paired {template key : String} {item item' : Fields}
    (h : AgreeItem freed item item') :
    Paired (AgreeOwner freed) (operation template item key) (operation template item' key) := by
  unfold operation
  by_cases hk : key ∈ operationKeys
  · rw [if_pos hk, if_pos hk]
    rcases none_or_some_of_rel (h.operation key hk) with
      ⟨ho, ho'⟩ | ⟨node, node', ho, ho', hnode⟩
    · rw [ho, ho']
      exact .error _
    · rw [ho, ho']
      cases hnode with
      | mapping hop => exact .ok hop
      | same => exact .refl .refl _
  · rw [if_neg hk, if_neg hk]
    exact .error _

/-! ### Documents as they are read -/

/-- Path items under the same templates, which agree. -/
def AgreePaths (freed : Json → Prop) (paths paths' : Fields) : Prop :=
  paths'.keys.Perm paths.keys ∧
    ∀ template, Option.Rel (OnMappings (AgreeItem freed)) (paths.get? template)
      (paths'.get? template)

/-- Sections that are related under every name.  One that is not there has no names. -/
def SectionRelated (R : Json → Json → Prop) (part part' : Option Fields) : Prop :=
  ∀ name, Option.Rel R ((part.getD []).get? name) ((part'.getD []).get? name)

/-- Documents agree when the sections of their objects do. -/
theorem ofJson_paired {root root' : Fields} (hn : root.keys.Nodup) (hn' : root'.keys.Nodup)
    (hpaths : Paired (Option.Rel (AgreePaths freed)) (sectionFields "paths" (root.get? "paths"))
      (sectionFields "paths" (root'.get? "paths")))
    (hdefs : Paired (SectionRelated (Agree freed))
      (sectionFields "definitions" (root.get? "definitions"))
      (sectionFields "definitions" (root'.get? "definitions")))
    (hparams : Paired (SectionRelated (OnMappings (AgreeDeclaration freed)))
      (sectionFields "parameters" (root.get? "parameters"))
      (sectionFields "parameters" (root'.get? "parameters"))) :
    Paired (AgreeDocument freed) (ofJson (.object root)) (ofJson (.object root')) := by
  rw [ofJson_object hn, ofJson_object hn']
  unfold ofSections
  refine hpaths.bind fun paths paths' hp => ?_
  cases hp with
  | none => exact .error _
  | some hp =>
      refine hdefs.bind fun definitions definitions' hd => ?_
      refine hparams.bind fun parameters parameters' hs => ?_
      exact .ok ⟨hp.1, hp.2, hd, hs⟩

theorem AgreePaths.refl (paths : Fields) : AgreePaths freed paths paths :=
  ⟨.refl _, fun _ => rel_refl .same _⟩

theorem SectionRelated.refl {R : Json → Json → Prop} (h : ∀ value, R value value)
    (part : Option Fields) : SectionRelated R part part :=
  fun _ => rel_refl h _

/-! ### Requests to documents that agree -/

/-- Routes that differ in path item and operation only, and these agree. -/
inductive AgreeRoute (freed : Json → Prop) : Route → Route → Prop
  | intro {route : Route} {item' operation' : Fields} :
      AgreeOwner freed route.item item' → AgreeOwner freed route.operation operation' →
      AgreeRoute freed route { route with item := item', operation := operation' }

section Request

variable (h : AgreeDocument freed d d')

include h

theorem route_paired (method : Http.Method) (path : String) :
    Paired (AgreeRoute freed) (d.route method path) (d'.route method path) := by
  unfold Document.route
  rw [templateFor_eq_of_perm h.templates]
  refine (Paired.refl (fun _ => rfl) _).bind fun template template' htemplate => ?_
  subst htemplate
  refine (pathItem_paired h template).ofFault.bind fun item item' hitem => ?_
  refine (operation_paired hitem).bind fun op op' hop => ?_
  exact .ok (.intro hitem.owner hop)

variable {settings : Settings} {request : Http.Request}

/-- Only the body is checked against the document. -/
theorem checkOne_kept {route route' : Route} {p p' : Parameter}
    (hroute : AgreeRoute freed route route') (hp : AgreeParameter freed p p') :
    Kept freed (checkOne settings d request route p) (checkOne settings d' request route' p') := by
  cases hroute
  cases hp with
  | @intro schema' hschema =>
  unfold checkOne
  split
  · refine Kept.bind (R := Eq) (.refl (fun _ => rfl) _) fun data data' hdata => ?_
    subst hdata
    unfold checkBody
    rcases none_or_some_of_rel hschema with ⟨hs, rfl⟩ | ⟨schema, schema', hs, rfl, hagree⟩
    · rw [hs]
      exact .inl rfl
    · rw [hs]
      exact checkSchema_kept h.definitions hagree
  · exact .inl rfl

theorem check_kept (settings : Settings) (request : Http.Request) :
    Kept freed (check settings d request) (check settings d' request) := by
  unfold check
  refine Kept.bind (route_paired h _ _) fun route route' hroute => ?_
  have hparameters : Paired (List.Forall₂ (AgreeParameter freed))
      (d.operationParameters route.template route.item route.method route.operation)
      (d'.operationParameters route'.template route'.item route'.method route'.operation) := by
    cases hroute with
    | intro hitem hop => exact operationParameters_paired h hitem hop
  refine Kept.bind hparameters.ofFault fun ps ps' hps => ?_
  rw [checkParameters_eq_forM, checkParameters_eq_forM]
  exact Kept.forM (hps.imp fun p p' hp => checkOne_kept h hroute hp)

/-- **Documents that agree give the same verdict, or the second one refuses a value by the type of a
property schema that is nested in the first one only.** -/
theorem validate_kept (settings : Settings) (request : Http.Request) :
    validate settings d' request = validate settings d request ∨
      ∃ key content, freed content ∧ Typed content ∧
        validate settings d' request =
          .ok (.invalid (.wrongType .body key (Primitive.ofNode content))) := by
  unfold validate
  rcases check_kept h settings request with heq | ⟨key, content, hf, ht, heq⟩
  · exact .inl (by rw [heq])
  · exact .inr ⟨key, content, hf, ht, by rw [heq]; rfl⟩

end Request

end Conformance

end ApiContract
