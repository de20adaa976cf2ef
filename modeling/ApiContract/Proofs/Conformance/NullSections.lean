import Mathlib.Logic.Relation
import ApiContract.Proofs.Conformance.Agreement
import ApiContract.Proofs.Conformance.Payload

/-
Null sections: what becomes of a document when they are left out.

A document may have null where a section is expected: for its definitions, its shared parameters,
the parameters of a path item or of an operation, and the properties of a schema.  Such a null
counts as nothing there, with one exception.  A property schema is descended into as soon as there
is anything at all under its properties, so that null keeps its type from being checked, and leaving
the null out brings the check about.

Main definitions:

* `ApiContract.Conformance.LeavesOut` — a document with one null section left out; for schemas,
  parameters and path items `SchemaLeavesOut`, `DeclarationLeavesOut`, `OwnerLeavesOut`,
  `ItemLeavesOut`;
* `ApiContract.Conformance.validateJson` — validation against a document as it is read.

Main results:

* `ApiContract.Conformance.SchemaLeavesOut.agree`, `LeavesOut.paired` — the documents agree;
* `ApiContract.Conformance.validateJson_leavesOut` — **leaving out null sections, as many as there
  are, changes no verdict, except that the type of a property schema may now be checked**;
* `ApiContract.Conformance.null_hides_type` — that type is not checked as long as null stands there.
-/

set_option autoImplicit false

namespace ApiContract

namespace Conformance

open Document FirstFailure

/-! ### Leaving out null -/

/-- The null properties of a schema are left out, or those of a property schema at any depth, which
has to be one in `allowed`. -/
inductive SchemaLeavesOut (allowed : Json → Prop) : Json → Json → Prop
  | here {fields : Fields} :
      fields.get? "properties" = some .null →
      SchemaLeavesOut allowed (.object fields) (.object (fields.delete "properties"))
  | property {fields properties : Fields} {key : String} {schema schema' : Json} :
      fields.get? "properties" = some (.object properties) → properties.get? key = some schema →
      SchemaLeavesOut allowed schema schema' →
      (schema.get? "properties" = some .null → allowed schema) →
      SchemaLeavesOut allowed (.object fields)
        (.object (fields.set "properties" (.object (properties.set key schema'))))

/-- Something null is left out of the schema of a parameter. -/
inductive DeclarationLeavesOut (allowed : Json → Prop) : Json → Json → Prop
  | schema {fields : Fields} {schema schema' : Json} :
      fields.get? "schema" = some schema → SchemaLeavesOut allowed schema schema' →
      DeclarationLeavesOut allowed (.object fields) (.object (fields.set "schema" schema'))

/-- The null parameters of a path item or of an operation are left out, or something null in one of
them. -/
inductive OwnerLeavesOut (allowed : Json → Prop) : Fields → Fields → Prop
  | parameters {owner : Fields} :
      owner.get? "parameters" = some .null →
      OwnerLeavesOut allowed owner (owner.delete "parameters")
  | entry {owner : Fields} {before after : List Json} {entry entry' : Json} :
      owner.get? "parameters" = some (.array (before ++ entry :: after)) →
      DeclarationLeavesOut allowed entry entry' →
      OwnerLeavesOut allowed owner
        (owner.set "parameters" (.array (before ++ entry' :: after)))

/-- Something null is left out of a path item or of one of its operations. -/
inductive ItemLeavesOut (allowed : Json → Prop) : Fields → Fields → Prop
  | own {item item' : Fields} : OwnerLeavesOut allowed item item' → ItemLeavesOut allowed item item'
  | operation {item operation operation' : Fields} {key : String} :
      key ∈ operationKeys → item.get? key = some (.object operation) →
      OwnerLeavesOut allowed operation operation' →
      ItemLeavesOut allowed item (item.set key (.object operation'))

/-- Something null is left out of the object of a document. -/
inductive LeavesOut (allowed : Json → Prop) : Fields → Fields → Prop
  | part {root : Fields} {part : String} :
      part = "definitions" ∨ part = "parameters" → root.get? part = some .null →
      LeavesOut allowed root (root.delete part)
  | definition {root definitions : Fields} {name : String} {schema schema' : Json} :
      root.get? "definitions" = some (.object definitions) →
      definitions.get? name = some schema → SchemaLeavesOut allowed schema schema' →
      LeavesOut allowed root (root.set "definitions" (.object (definitions.set name schema')))
  | parameter {root parameters : Fields} {name : String} {node node' : Json} :
      root.get? "parameters" = some (.object parameters) →
      parameters.get? name = some node → DeclarationLeavesOut allowed node node' →
      LeavesOut allowed root (root.set "parameters" (.object (parameters.set name node')))
  | item {root paths item item' : Fields} {template : String} :
      root.get? "paths" = some (.object paths) → paths.get? template = some (.object item) →
      ItemLeavesOut allowed item item' →
      LeavesOut allowed root (root.set "paths" (.object (paths.set template (.object item'))))

variable {allowed : Json → Prop}

/-! ### What is left agrees -/

theorem lacks_delete (fields : Fields) (key : String) : Lacks (fields.delete key) key :=
  .inl (by rw [Fields.get?_delete, if_pos rfl])

/-- There was something under the properties of a schema that has lost a null. -/
theorem SchemaLeavesOut.isNested {schema schema' : Json}
    (h : SchemaLeavesOut allowed schema schema') : isNested schema = true := by
  cases h with
  | here hp => simp [Conformance.isNested, hp]
  | property hp => simp [Conformance.isNested, hp]

/-- Only its own null properties can make a schema nested. -/
theorem SchemaLeavesOut.null_of_not_isNested {schema schema' : Json}
    (h : SchemaLeavesOut allowed schema schema') (hn : Conformance.isNested schema' = false) :
    schema.get? "properties" = some .null := by
  cases h with
  | here hp => exact hp
  | property => simp [Conformance.isNested, Fields.get?_set_self] at hn

theorem SchemaLeavesOut.agree {schema schema' : Json}
    (h : SchemaLeavesOut allowed schema schema') : Agree allowed schema schema' := by
  induction h with
  | @here fields hp =>
      exact .lacking (Fields.sameBut_delete fields "properties") (.inr hp) (lacks_delete _ _)
  | @property fields properties key schema schema' hp hkey h hallowed ih =>
      refine .declaring (Fields.sameBut_set _ _ _) hp (Fields.get?_set_self _ _ _)
        (Fields.forall₂_set .refl hkey (.intro ih ?_))
      -- the property stays nested, unless the null was its own
      cases hn : Conformance.isNested schema' with
      | true => exact .inl h.isNested.symm
      | false => exact .inr ⟨hallowed (h.null_of_not_isNested hn), rfl⟩

theorem DeclarationLeavesOut.agree {node node' : Json}
    (h : DeclarationLeavesOut allowed node node') :
    OnMappings (AgreeDeclaration allowed) node node' := by
  cases h with
  | schema hs h =>
      refine .mapping ⟨Fields.sameBut_set _ _ _, ?_⟩
      rw [hs, Fields.get?_set_self]
      exact .some h.agree

theorem OwnerLeavesOut.agree {owner owner' : Fields} (h : OwnerLeavesOut allowed owner owner') :
    AgreeOwner allowed owner owner' := by
  cases h with
  | parameters hp => exact .lacking (.inr hp) (lacks_delete _ _)
  | entry hp h =>
      have hsame : ∀ entries : List Json,
          List.Forall₂ (OnMappings (AgreeDeclaration allowed)) entries entries :=
        fun entries => List.forall₂_same.2 fun entry _ => .same entry
      exact .listing hp (Fields.get?_set_self _ _ _)
        (List.rel_append (hsame _) (.cons h.agree (hsame _)))

/-- Every operation stays what it is when only the parameters of the item lose something. -/
theorem OwnerLeavesOut.sameBut {owner owner' : Fields}
    (h : OwnerLeavesOut allowed owner owner') : Fields.SameBut "parameters" owner owner' := by
  cases h with
  | parameters => exact Fields.sameBut_delete _ _
  | entry => exact Fields.sameBut_set _ _ _

theorem ItemLeavesOut.agree {item item' : Fields} (h : ItemLeavesOut allowed item item') :
    AgreeItem allowed item item' := by
  cases h with
  | own h =>
      refine ⟨h.agree, fun key hk => ?_⟩
      have hne : key ≠ "parameters" := by
        rintro rfl
        exact absurd hk (by decide)
      rw [h.sameBut key hne]
      exact rel_refl .same _
  | @operation operation operation' key hk ho h =>
      refine ⟨.same (Fields.sameBut_set _ _ _ _ ?_), fun other _ => ?_⟩
      · rintro rfl
        exact absurd hk (by decide)
      · exact Fields.rel_set .same ho (.mapping h.agree) other

/-! ### The documents agree -/

theorem LeavesOut.nodup_keys {root root' : Fields} (h : LeavesOut allowed root root')
    (hn : root.keys.Nodup) : root'.keys.Nodup := by
  cases h with
  | part => exact Fields.nodup_keys_delete hn
  | definition hr => exact Fields.nodup_keys_set hn hr _
  | parameter hr => exact Fields.nodup_keys_set hn hr _
  | item hr => exact Fields.nodup_keys_set hn hr _

section Unchanged

variable {root root' : Fields}

/-- Sections that are found in both objects alike agree. -/
theorem paths_paired_of_eq (h : root'.get? "paths" = root.get? "paths") :
    Paired (Option.Rel (AgreePaths allowed)) (sectionFields "paths" (root.get? "paths"))
      (sectionFields "paths" (root'.get? "paths")) := by
  rw [h]
  exact .refl (rel_refl .refl) _

theorem section_paired_of_eq {R : Json → Json → Prop} {part : String} (hR : ∀ value, R value value)
    (h : root'.get? part = root.get? part) :
    Paired (SectionRelated R) (sectionFields part (root.get? part))
      (sectionFields part (root'.get? part)) := by
  rw [h]
  exact .refl (.refl hR) _

/-- A null section is as good as none. -/
theorem section_paired_delete {R : Json → Json → Prop} {part : String}
    (h : root.get? part = some .null) :
    Paired (SectionRelated R) (sectionFields part (root.get? part))
      (sectionFields part ((root.delete part).get? part)) := by
  rw [h, Fields.get?_delete, if_pos rfl]
  exact .ok fun _ => .none

theorem section_paired_set {R : Json → Json → Prop} {part name : String} {values : Fields}
    {value value' : Json} (hR : ∀ value, R value value) (h : root.get? part = some (.object values))
    (hv : values.get? name = some value) (hvalue : R value value') :
    Paired (SectionRelated R) (sectionFields part (root.get? part))
      (sectionFields part ((root.set part (.object (values.set name value'))).get? part)) := by
  rw [h, Fields.get?_set_self]
  exact .ok (Fields.rel_set hR hv hvalue)

end Unchanged

/-- **A document and the one without the null agree.** -/
theorem LeavesOut.paired {root root' : Fields} (h : LeavesOut allowed root root')
    (hn : root.keys.Nodup) :
    Paired (AgreeDocument allowed) (ofJson (.object root)) (ofJson (.object root')) := by
  have hn' := h.nodup_keys hn
  cases h with
  | @part part hpart hnull =>
      have hother : ∀ key, key ≠ part → (root.delete part).get? key = root.get? key :=
        Fields.sameBut_delete root part
      rcases hpart with rfl | rfl
      · exact ofJson_paired hn hn' (paths_paired_of_eq (hother _ (by decide)))
          (section_paired_delete hnull) (section_paired_of_eq .same (hother _ (by decide)))
      · exact ofJson_paired hn hn' (paths_paired_of_eq (hother _ (by decide)))
          (section_paired_of_eq .same (hother _ (by decide))) (section_paired_delete hnull)
  | definition hr hs h =>
      have hother := Fields.sameBut_set root "definitions"
      exact ofJson_paired hn hn' (paths_paired_of_eq (hother _ _ (by decide)))
        (section_paired_set .same hr hs h.agree)
        (section_paired_of_eq .same (hother _ _ (by decide)))
  | parameter hr hs h =>
      have hother := Fields.sameBut_set root "parameters"
      exact ofJson_paired hn hn' (paths_paired_of_eq (hother _ _ (by decide)))
        (section_paired_of_eq .same (hother _ _ (by decide)))
        (section_paired_set .same hr hs h.agree)
  | @item paths item item' template hr hi h =>
      have hother := Fields.sameBut_set root "paths"
      have hmem : template ∈ paths.keys := List.mem_map_of_mem (Fields.mem_of_get?_eq_some hi)
      refine ofJson_paired hn hn' ?_ (section_paired_of_eq .same (hother _ _ (by decide)))
        (section_paired_of_eq .same (hother _ _ (by decide)))
      rw [hr, Fields.get?_set_self]
      refine .ok (.some ⟨?_, Fields.rel_set .same hi (.mapping h.agree)⟩)
      rw [Fields.keys_set, if_pos hmem]

/-! ### Verdicts -/

/-- Validation against a document as it is read. -/
def validateJson (settings : Settings) (root : Json) (request : Http.Request) :
    Except Fault Verdict := do
  validate settings (← ofJson root) request

theorem validateJson_of_ok {settings : Settings} {root : Json} {request : Http.Request}
    {d : Document} (h : ofJson root = .ok d) :
    validateJson settings root request = validate settings d request := by
  simp only [validateJson, h, bind, Except.bind]

theorem validateJson_of_error {settings : Settings} {root : Json} {request : Http.Request}
    {fault : Fault} (h : ofJson root = .error fault) :
    validateJson settings root request = .error fault := by
  simp only [validateJson, h, bind, Except.bind]

/-- One null section less. -/
theorem LeavesOut.validateJson_eq_or {root root' : Fields} (h : LeavesOut allowed root root')
    (hn : root.keys.Nodup) (settings : Settings) (request : Http.Request) :
    validateJson settings (.object root') request = validateJson settings (.object root) request ∨
      ∃ key content, allowed content ∧ Typed content ∧
        validateJson settings (.object root') request =
          .ok (.invalid (.wrongType .body key (Primitive.ofNode content))) := by
  rcases (h.paired hn).ok_or_error with ⟨d, d', hd, hd', hagree⟩ | ⟨fault, hf, hf'⟩
  · rw [validateJson_of_ok hd, validateJson_of_ok hd']
    exact validate_kept hagree settings request
  · rw [validateJson_of_error hf, validateJson_of_error hf']
    exact .inl rfl

section Steps

variable {root root' : Fields} (h : Relation.ReflTransGen (LeavesOut allowed) root root')
  (hn : root.keys.Nodup)

include h hn

theorem nodup_keys_of_leavesOut : root'.keys.Nodup := by
  induction h with
  | refl => exact hn
  | tail _ hstep ih => exact hstep.nodup_keys ih

/-- Any number of null sections less. -/
theorem validateJson_eq_or_of_leavesOut (settings : Settings) (request : Http.Request) :
    validateJson settings (.object root') request = validateJson settings (.object root) request ∨
      ∃ key content, allowed content ∧ Typed content ∧
        validateJson settings (.object root') request =
          .ok (.invalid (.wrongType .body key (Primitive.ofNode content))) := by
  induction h with
  | refl => exact .inl rfl
  | @tail mid root' hsteps hstep ih =>
      have hmid := nodup_keys_of_leavesOut hsteps hn
      -- a verdict that stays the same is the one that was reached before
      rcases hstep.validateJson_eq_or hmid settings request with heq | hrefuses
      · rwa [heq]
      · exact .inr hrefuses

/-- **Leaving out null sections changes no verdict, as long as the property schemas that lose their
null properties are references or of no type that is checked.  Where others lose them, the only
other verdict is that the type of one of them refuses a value.**  The object of a document repeats
no key. -/
theorem validateJson_leavesOut (settings : Settings) (request : Http.Request) :
    ((∀ content, allowed content → ¬ Typed content) →
      validateJson settings (.object root') request =
        validateJson settings (.object root) request) ∧
    (validateJson settings (.object root') request =
        validateJson settings (.object root) request ∨
      ∃ key content, allowed content ∧ Typed content ∧
        validateJson settings (.object root') request =
          .ok (.invalid (.wrongType .body key (Primitive.ofNode content)))) := by
  have hor := validateJson_eq_or_of_leavesOut h hn settings request
  refine ⟨fun hall => ?_, hor⟩
  rcases hor with heq | ⟨key, content, hc, ht, -⟩
  · exact heq
  · exact absurd ht (hall content hc)

end Steps

/-! ### The age of a user -/

def ageSchema (property : Json) : Json := .object [("properties", .object [("age", property)])]

def ageDeclaration (property : Json) : Json :=
  .object [("name", .text "user"), ("in", .text "body"), ("schema", ageSchema property)]

/-- An operation that takes a user with an age. -/
def ageOperation (property : Json) : Fields := [("parameters", .array [ageDeclaration property])]

/-- The object of a document with that operation. -/
def ageRoot (property : Json) : Fields :=
  [("paths", .object [("/users", .object [("get", .object (ageOperation property))])])]

def ageDocument (property : Json) : Document where
  paths := [("/users", .object [("get", .object (ageOperation property))])]
  definitions := []
  parameters := []
  others := []

/-- A request with an age that is no number. -/
def withAge : Http.Request := limitTen.withBody "\x7b\"age\":\"x\"\x7d".toUTF8

def ageData : Json := .object [("age", .text "x")]

theorem decodeBody_withAge : decodeBody withAge.body = .ok ageData := by
  have hportable : ageData.Portable := .object (by decide) (by simp [Json.Portable.text])
  exact decodeBody_of_compact hportable (by decide) rfl

theorem ageParameters (property : Json) :
    (ageDocument property).operationParameters "/users"
      [("get", .object (ageOperation property))] withAge.method.key (ageOperation property) =
        .ok ([] ++ ⟨"user", some .body, false, .unchecked, some (ageSchema property)⟩ :: []) := by
  rfl

section Age

variable {property property' : Json}

/-- What is left out of the schema of the age is left out of the object. -/
theorem leavesOut_ageRoot (h : SchemaLeavesOut allowed property property')
    (ha : property.get? "properties" = some .null → allowed property) :
    LeavesOut allowed (ageRoot property) (ageRoot property') := by
  have hschema : SchemaLeavesOut allowed (ageSchema property) (ageSchema property') :=
    @SchemaLeavesOut.property _ _ [("age", property)] "age" _ _ rfl rfl h ha
  have hdeclaration :
      DeclarationLeavesOut allowed (ageDeclaration property) (ageDeclaration property') :=
    @DeclarationLeavesOut.schema _ _ (ageSchema property) _ rfl hschema
  have howner : OwnerLeavesOut allowed (ageOperation property) (ageOperation property') :=
    @OwnerLeavesOut.entry _ _ [] [] (ageDeclaration property) _ rfl hdeclaration
  have hitem : ItemLeavesOut allowed [("get", .object (ageOperation property))]
      [("get", .object (ageOperation property'))] :=
    @ItemLeavesOut.operation _ _ (ageOperation property) _ "get" (by decide) rfl howner
  exact @LeavesOut.item _ (ageRoot property) [("/users", .object _)] _ _ "/users" rfl rfl hitem

theorem ofJson_ageRoot : ofJson (.object (ageRoot property)) = .ok (ageDocument property) := rfl

theorem route_withAge :
    (ageDocument property).route withAge.method (underApi.relative withAge.path) =
      .ok (routeTo underApi withAge "/users" [("get", .object (ageOperation property))]
        (ageOperation property)) :=
  route_of_answered ofPath?_limitTen (answered_limitTen rfl)

theorem validateJson_of_meets (h : Meets (ageDocument property) ageData ("age", property)) :
    validateJson underApi (.object (ageRoot property)) withAge = .ok .valid := by
  have hconforms : Conforms (ageDocument property) (ageSchema property) ageData :=
    .intro (.content rfl) (.mapping rfl) (by simpa using h)
  rw [validateJson_of_ok ofJson_ageRoot]
  refine validate_of_unmissed route_withAge (ageParameters property) fun p hmem => ?_
  obtain rfl := List.mem_singleton.1 hmem
  refine checkOne_eq_ok_iff.1 ?_
  rw [checkOne_of_body rfl, decodeBody_withAge]
  exact (decided _ _ _ _).1.2 hconforms

theorem validateJson_of_misses {refusal : Refusal}
    (h : Misses (ageDocument property) "body parameter 'user'" ageData ("age", property)
      (.refused refusal)) :
    validateJson underApi (.object (ageRoot property)) withAge = .ok (.invalid refusal) := by
  have hrejects : Rejects (ageDocument property) "body parameter 'user'" (ageSchema property)
      ageData (.refused refusal) :=
    @Rejects.missed _ _ _ _ _ [] [] [] _ _ (.content rfl) (.mapping rfl) (by simp) h
  rw [validateJson_of_ok ofJson_ageRoot]
  exact validate_of_missed route_withAge (ageParameters property) (by simp)
    (.bodyRejected rfl decodeBody_withAge rfl hrejects)

end Age

/-- **Null keeps the type of a property from being checked**: an age that is no number passes where
null stands for the properties of its schema, and is refused where the null is left out. -/
theorem null_hides_type :
    LeavesOut (fun _ => True)
      (ageRoot (.object [("type", .text "integer"), ("properties", .null)]))
      (ageRoot (.object [("type", .text "integer")])) ∧
    validateJson underApi
      (.object (ageRoot (.object [("type", .text "integer"), ("properties", .null)]))) withAge =
        .ok .valid ∧
    validateJson underApi (.object (ageRoot (.object [("type", .text "integer")]))) withAge =
      .ok (.invalid (.wrongType .body "age" .integer)) := by
  refine ⟨?_, validateJson_of_meets ?_, validateJson_of_misses ?_⟩
  · exact leavesOut_ageRoot (.here rfl) fun _ => trivial
  · exact .nested rfl rfl (.intro (.content rfl) (.null rfl) (by simp))
  · exact .mistyped rfl rfl (by decide)

/-- The object of a document with null for its definitions, for the parameters of its path item and
for the properties of the age, which has no type. -/
def nullRoot : Fields :=
  [("paths", .object [("/users", .object [("parameters", .null),
    ("get", .object (ageOperation (.object [("properties", .null)])))])]),
    ("definitions", .null)]

/-- Nothing is lost with the three of them. -/
theorem validateJson_nullRoot :
    Relation.ReflTransGen (LeavesOut fun content => ¬ Typed content) nullRoot
      (ageRoot (.object [])) ∧
    validateJson underApi (.object nullRoot) withAge = .ok .valid := by
  have huntyped : ¬ Typed (.object [("properties", .null)]) := fun h => h.2 rfl
  have hfirst : LeavesOut (fun content => ¬ Typed content) nullRoot
      (nullRoot.delete "definitions") :=
    .part (.inl rfl) rfl
  have hsecond : LeavesOut (fun content => ¬ Typed content) (nullRoot.delete "definitions")
      (ageRoot (.object [("properties", .null)])) :=
    @LeavesOut.item _ _ [("/users", .object _)] _ _ "/users" rfl rfl (.own (.parameters rfl))
  have hthird : LeavesOut (fun content => ¬ Typed content)
      (ageRoot (.object [("properties", .null)])) (ageRoot (.object [])) :=
    leavesOut_ageRoot (.here rfl) fun _ => huntyped
  have hsteps := ((Relation.ReflTransGen.single hfirst).tail hsecond).tail hthird
  have hvalid : validateJson underApi (.object (ageRoot (.object []))) withAge = .ok .valid :=
    validateJson_of_meets (.primitive rfl rfl rfl)
  have hsame := (validateJson_leavesOut hsteps (by decide) underApi withAge).1 fun _ h => h
  exact ⟨hsteps, hsame.symm.trans hvalid⟩

end Conformance

end ApiContract
