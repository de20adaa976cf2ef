import ApiContract.Proofs.Conformance.Comparison
import ApiContract.Proofs.Conformance.NullSections
import ApiContract.Proofs.Document.Alias
import ApiContract.Proofs.Document.Reordering

/-
The order of the mappings in a document.

Validation looks nearly everything up by its key.  It goes through two kinds of mappings in order:
the templates, of which it needs the only one that is selected, and the properties of a schema, of
which the first failure counts.  So the order of all mappings but properties is seen by no request,
faults and their wording included; with another order of properties it may be another failure that
counts, but the same requests are accepted.

Main definitions:

* `ApiContract.Conformance.ReorderedListing` — properties with mappings in another order;
* `ApiContract.Conformance.ReorderedParameter` — parameters whose schemas have.

Main results:

* `ApiContract.Conformance.checkSchema_reordered` — schemas, at every value;
* `ApiContract.Conformance.compared_of_reordered` — documents, wherever validation looks;
* `ApiContract.Conformance.validateJson_reordered` — **no verdict depends on the order of a mapping,
  properties excepted**.
-/

set_option autoImplicit false

namespace ApiContract

namespace Conformance

open Document FirstFailure Json

variable {loose : String → Prop} {free : Prop} {E : Rejection → Rejection → Prop}
  {d d' : Document} {location : String} {schema schema' data : Json}

/-! ### Schemas -/

/-- The properties of the two schemas are the same but for the order of mappings, their own order
included where it is free. -/
def ReorderedListing (loose : String → Prop) (properties properties' : Fields) : Prop :=
  ∃ between : Fields, List.Forall₂ (ReorderedField loose) properties between ∧
    between.Rearranged (loose "properties") properties'

theorem ReorderedListing.refl (properties : Fields) :
    ReorderedListing loose properties properties :=
  ⟨properties, List.forall₂_same.2 fun entry _ => .refl entry, .inl rfl⟩

theorem declaredProperties_reordered (h : Reordered loose free schema schema') :
    Paired (ReorderedListing loose) (declaredProperties location schema)
      (declaredProperties location schema') := by
  unfold declaredProperties
  rcases none_or_some_of_rel (h.get? "properties") with ⟨hn, hn'⟩ | ⟨node, node', hs, hs', hnode⟩
  · rw [hn, hn']
    exact .ok (.refl [])
  · rw [hs, hs']
    cases hnode with
    | same => exact .refl .refl _
    | array => exact .error _
    | object hfields hbetween => exact .ok ⟨_, hfields, hbetween⟩

theorem isNested_reordered (h : Reordered loose free schema schema') :
    isNested schema' = isNested schema := by
  have hsome : (schema'.get? "properties").isSome = (schema.get? "properties").isSome := by
    rcases none_or_some_of_rel (h.get? "properties") with ⟨hn, hn'⟩ | ⟨_, _, hs, hs', -⟩
    · rw [hn, hn']
    · rw [hs, hs']
      rfl
  rw [isNested, isNested, isReference, isReference, h.reference?_eq, hsome]

section Walk

variable (hE : ∀ rejection, E rejection rejection)
  (hany : loose "properties" → ∀ rejection rejection', E rejection rejection')

/-- Properties are checked in order, and where another order is free any failure may count. -/
theorem forM_reordered {check check' : String × Json → Check} {properties properties' : Fields}
    (hany : loose "properties" → ∀ rejection rejection', E rejection rejection')
    (h : ReorderedListing loose properties properties')
    (hcheck : ∀ entry entry', ReorderedField loose entry entry' →
      LinkedChecks E (check entry) (check' entry')) :
    LinkedChecks E (forM properties check) (forM properties' check') := by
  obtain ⟨between, hfields, hbetween⟩ := h
  have hforM : LinkedChecks E (forM properties check) (forM between check') :=
    linked_forM (hfields.imp hcheck)
  rcases hbetween with rfl | ⟨hfree, -, hp⟩
  · exact hforM
  · have hperm : LinkedChecks E (forM between check') (forM properties' check') :=
      linked_forM_of_perm (hany hfree) hp
    exact .of_ok_iff (hany hfree) (hforM.ok_iff.trans hperm.ok_iff)

section Step

variable (ih : ∀ value, sizeOf value < sizeOf data → ∀ location schema schema',
    Reordered loose True schema schema' →
    LinkedChecks E (checkSchema d location schema value) (checkSchema d' location schema' value))

include ih hE

theorem checkProperty_reordered {entry entry' : String × Json}
    (h : ReorderedField loose entry entry') :
    LinkedChecks E (checkProperty d location data entry) (checkProperty d' location data entry') := by
  cases h with
  | @intro key schema schema' h =>
  have hsame : ∀ outcome : Check, LinkedChecks E outcome outcome := fun outcome =>
    (Paired.refl (fun _ => trivial) outcome).linked hE
  cases hv : present? data key with
  | none =>
      rw [checkProperty_of_missing hv, checkProperty_of_missing hv]
      exact hsame _
  | some value =>
      rcases none_or_some_of_rel h.fields? with ⟨hn, hn'⟩ | ⟨fields, fields', hf, hf', -⟩
      · have hshapeless : ∀ {schema : Json}, schema.fields? = none →
            ∀ fields, schema ≠ .object fields := by
          rintro schema hnone fields rfl
          cases hnone
        rw [checkProperty_of_shapeless hv (hshapeless hn),
          checkProperty_of_shapeless hv (hshapeless hn')]
        exact hsame _
      · have hobject : ∀ {schema : Json} {fields : Fields}, schema.fields? = some fields →
            schema = .object fields := by
          intro schema fields hsome
          cases schema <;> cases hsome
          rfl
        obtain rfl := hobject hf
        obtain rfl := hobject hf'
        rw [checkProperty_object hv, checkProperty_object hv, isNested_reordered h, h.ofNode_eq]
        split
        · exact ih value (sizeOf_lt_of_present? hv) _ _ _ h.loosen
        · exact hsame _

include hany

/-- The step of the induction on the value: only smaller values are descended into. -/
theorem reordered_of_smaller (hdefs : DefinitionsRelated (Reordered loose True) d d')
    (h : Reordered loose True schema schema') :
    LinkedChecks E (checkSchema d location schema data)
      (checkSchema d' location schema' data) := by
  rcases d.leads_or_broken schema with ⟨names, content, hl⟩ | ⟨fault, hb⟩
  · obtain ⟨content', hl', hc⟩ := hl.related hdefs Reordered.reference?_eq h
    rw [checkSchema_of_leads hl, checkSchema_of_leads hl']
    refine ((declaredProperties_reordered hc).linked hE).bind fun properties properties' hp => ?_
    exact forM_reordered hany hp fun _ _ hentry => checkProperty_reordered hE ih hentry
  · rw [checkSchema_of_broken hb,
      checkSchema_of_broken (hb.related hdefs Reordered.reference?_eq h)]
    exact .error (hE _)

end Step

include hE hany

/-- Schemas with mappings in another order have linked outcomes at every value. -/
theorem checkSchema_reordered (hdefs : DefinitionsRelated (Reordered loose True) d d')
    (h : Reordered loose True schema schema') :
    LinkedChecks E (checkSchema d location schema data)
      (checkSchema d' location schema' data) := by
  -- strong induction on the size of the value: the schemas may unfold without end
  induction hn : sizeOf data using Nat.strongRecOn generalizing data location schema schema' with
  | _ n ih =>
      subst hn
      exact reordered_of_smaller hE hany
        (fun value hlt location schema schema' h => ih _ hlt h rfl) hdefs h

end Walk

/-! ### Parameters -/

/-- Parameters whose schemas are the same but for the order of mappings. -/
inductive ReorderedParameter (loose : String → Prop) : Parameter → Parameter → Prop
  | intro {p : Parameter} {schema' : Option Json} :
      Option.Rel (Reordered loose True) p.schema schema' →
      ReorderedParameter loose p { p with schema := schema' }

theorem ReorderedParameter.name_place {p p' : Parameter} (h : ReorderedParameter loose p p') :
    p'.name = p.name ∧ p'.place = p.place := by
  cases h
  exact ⟨rfl, rfl⟩

/-- What a mapping has under a key, whatever the order inside. -/
theorem rel_get?_of_reordered (h : Reordered loose free schema schema') (key : String) :
    Option.Rel (Reordered loose True) (schema.get? key) (schema'.get? key) :=
  rel_mono (fun _ _ hw => hw.loosen) (h.get? key)

theorem ofNode_reordered {node node' : Json} (h : Reordered loose free node node') :
    Paired (ReorderedParameter loose) (Parameter.ofNode location node)
      (Parameter.ofNode location node') := by
  have hname := h.bind_get?_eq Reordered.text?_eq "name"
  have hplace := h.bind_get?_eq Reordered.text?_eq "in"
  have hrequired := h.bind_get?_eq Reordered.bool?_eq "required"
  have htype := h.ofNode_eq
  have hschema := rel_get?_of_reordered h "schema"
  cases h with
  | same => exact .refl (fun p => .intro (rel_refl .same p.schema)) _
  | array => exact .error _
  | object =>
      unfold Parameter.ofNode
      rw [hname, hplace, hrequired, htype]
      dsimp only
      split
      · exact .error _
      · exact .ok (.intro hschema)

section Lists

variable (h : d.Reordered loose d')

include h

theorem listedParameters_reordered {listing listing' : Json}
    (hl : Reordered loose True listing listing') :
    Paired (List.Forall₂ (ReorderedParameter loose)) (d.listedParameters location listing)
      (d'.listedParameters location listing') := by
  have hentries : ∀ {entries entries' : List Json},
      List.Forall₂ (Reordered loose True) entries entries' →
      Paired (List.Forall₂ (ReorderedParameter loose))
        (d.listedParameters location (.array entries))
        (d'.listedParameters location (.array entries')) :=
    entries_paired (fun name => rel_get?_of_reordered h.parameters name)
      (fun _ _ hnode => hnode.reference?_eq) fun _ _ _ hnode => ofNode_reordered hnode
  cases hl with
  | same =>
      cases listing with
      | null => exact .ok .nil
      | array entries => exact hentries (List.forall₂_same.2 fun entry _ => .same entry)
      | _ => exact .error _
  | array hitems => exact hentries hitems
  | object => exact .error _

end Lists

/-! ### Documents -/

/-- Only the body is checked against the document. -/
theorem checkOne_reordered {p p' : Parameter} (h : d.Reordered loose d')
    (hE : ∀ rejection, E rejection rejection)
    (hany : loose "properties" → ∀ rejection rejection', E rejection rejection')
    (hp : ReorderedParameter loose p p') (settings : Settings) (request : Http.Request)
    (route : Route) :
    LinkedChecks E (checkOne settings d request route p) (checkOne settings d' request route p') := by
  cases hp with
  | @intro schema' hschema =>
  unfold checkOne
  split
  · refine ((Paired.refl (fun _ => rfl) _).linked hE).bind (R := Eq) fun data data' hdata => ?_
    subst hdata
    unfold checkBody
    rcases none_or_some_of_rel hschema with ⟨hs, rfl⟩ | ⟨schema, schema', hs, rfl, hr⟩
    · rw [hs]
      exact .error (hE _)
    · rw [hs]
      exact checkSchema_reordered hE hany (fun name => rel_get?_of_reordered h.definitions name) hr
  · exact (Paired.refl (fun _ => trivial) _).linked hE

/-- Path items and operations with mappings in another order. -/
def ReorderedOwner (loose : String → Prop) (owner owner' : Fields) : Prop :=
  Reordered loose True (.object owner) (.object owner')

theorem shaped_of_reordered {node node' : Json} (h : Reordered loose free node node') :
    Shaped (ReorderedOwner loose) node node' :=
  rel_mono (fun _ _ hfields => hfields.loosen) h.fields?

/-- Path items are related in turn: their lists of parameters, and their operations. -/
theorem shaped_item_of_reordered {node node' : Json} (h : Reordered loose free node node') :
    Shaped (ComparedItem (ReorderedOwner loose)) node node' := by
  refine rel_mono (fun item item' hitem => ⟨hitem, fun key _ => ?_⟩) (shaped_of_reordered h)
  exact rel_mono (fun _ _ => shaped_of_reordered) (rel_get?_of_reordered hitem key)

/-- **Documents with mappings in another order are related wherever validation looks.**  All
failures are the same, unless the order of properties is free. -/
theorem compared_of_reordered (h : d.Reordered loose d') (hE : ∀ rejection, E rejection rejection)
    (hany : loose "properties" → ∀ rejection rejection', E rejection rejection') :
    Compared E (ReorderedOwner loose) (List.Forall₂ (ReorderedParameter loose)) d d' where
  failure := hE
  templates := h.paths.keys_perm
  paths template :=
    rel_mono (fun _ _ => shaped_item_of_reordered) (rel_get?_of_reordered h.paths template)
  own ho _ :=
    ownParameters_linked (rel_get?_of_reordered ho "parameters") .nil fun _ _ hl =>
      (listedParameters_reordered h hl).linked fun _ => hE _
  merge hs ho := Parameter.forall₂_merge (fun _ _ hp => hp.name_place) hs ho
  run hps settings request route :=
    linked_forM (hps.imp fun _ _ hp => checkOne_reordered h hE hany hp settings request route)

/-! ### Documents as they are read -/

/-- A section is absent, null, a mapping or a fault in both. -/
theorem sectionFields_reordered {part : String} {o o' : Option Json}
    (h : Option.Rel (Reordered loose free) o o') :
    Paired
      (Option.Rel fun fields fields' => Reordered loose free (.object fields) (.object fields'))
      (sectionFields part o) (sectionFields part o') := by
  cases h with
  | none => exact .ok .none
  | some hv =>
      cases hv with
      | same => exact .refl (rel_refl fun fields => .same (.object fields)) _
      | array => exact .error _
      | object hfields hbetween => exact .ok (.some (.object hfields hbetween))

theorem getD_reordered {part part' : Option Fields}
    (h : Option.Rel (fun fields fields' => Reordered loose free (.object fields) (.object fields'))
      part part') : Reordered loose free (.object (part.getD [])) (.object (part'.getD [])) := by
  cases h with
  | none => exact .same _
  | some h => exact h

theorem ofJson_reordered {root root' : Fields} (hn : root.keys.Nodup)
    (h : Reordered loose free (.object root) (.object root')) :
    Paired (Document.Reordered loose) (ofJson (.object root)) (ofJson (.object root')) := by
  rw [ofJson_object hn, ofJson_object (h.keys_perm.nodup_iff.2 hn)]
  unfold ofSections
  refine (sectionFields_reordered (h.get? "paths")).bind fun paths paths' hpaths => ?_
  cases hpaths with
  | none => exact .error _
  | some hpaths =>
      refine (sectionFields_reordered (h.get? "definitions")).bind fun _ _ hdefs => ?_
      refine (sectionFields_reordered (h.get? "parameters")).bind fun _ _ hparams => ?_
      exact .ok ⟨hpaths, getD_reordered hdefs, getD_reordered hparams⟩

/-- **No verdict depends on the order of the mappings in a document, those under the key
`properties` excepted**, and neither does the template that a path selects.  The object of a
document repeats no key. -/
theorem validateJson_reordered {root root' : Fields} (hn : root.keys.Nodup)
    (h : Reordered (fun key => key ≠ "properties") True (.object root) (.object root'))
    (settings : Settings) (request : Http.Request) :
    validateJson settings (.object root') request = validateJson settings (.object root) request ∧
      ∀ path, (ofJson (.object root')).map (fun d => d.templateFor path) =
        (ofJson (.object root)).map fun d => d.templateFor path := by
  rcases (ofJson_reordered hn h).ok_or_error with ⟨d, d', hd, hd', hr⟩ | ⟨fault, hf, hf'⟩
  · refine ⟨?_, fun path => ?_⟩
    · rw [validateJson_of_ok hd, validateJson_of_ok hd']
      exact (compared_of_reordered hr (fun _ => rfl) fun hloose => absurd rfl hloose).validate_eq
        settings request
    · rw [hd, hd']
      exact congrArg Except.ok (templateFor_eq_of_perm hr.paths.keys_perm path)
  · refine ⟨?_, fun path => ?_⟩
    · rw [validateJson_of_error hf, validateJson_of_error hf']
    · rw [hf, hf']

/-! ### The users and their orders -/

def integerAge : Json := .object [("type", .text "integer")]

/-- The declaration of a user with an age, from back to front. -/
def turnedDeclaration : Json :=
  .object [("schema", ageSchema integerAge), ("in", .text "body"), ("name", .text "user")]

/-- An operation with a list of parameters. -/
def operationOf (entries : List Json) : Fields := [("parameters", .array entries)]

/-- A path item with that operation alone. -/
def itemOf (entries : List Json) : Json := .object [("get", .object (operationOf entries))]

/-- The object of a document with two paths, one of them for users with an age. -/
def usersAndOrders : Fields :=
  [("info", .null),
    ("paths", .object [("/users", itemOf [ageDeclaration integerAge]), ("/orders", .object [])])]

/-- The same with its own fields, its paths and the fields of the declaration in another order. -/
def ordersAndUsers : Fields :=
  [("paths", .object [("/orders", .object []), ("/users", itemOf [turnedDeclaration])]),
    ("info", .null)]

theorem reordered_itemOf {entries entries' : List Json}
    (h : List.Forall₂ (Reordered loose True) entries entries') :
    ReorderedField loose ("/users", itemOf entries) ("/users", itemOf entries') := by
  have hlist : ReorderedField loose ("parameters", .array entries) ("parameters", .array entries') :=
    .intro (.array h)
  have hget : ReorderedField loose ("get", .object (operationOf entries))
      ("get", .object (operationOf entries')) :=
    .intro (.object (.cons hlist .nil) (.inl rfl))
  exact .intro (.object (.cons hget .nil) (.inl rfl))

theorem reordered_usersAndOrders :
    Reordered (fun key => key ≠ "properties") True (.object usersAndOrders)
      (.object ordersAndUsers) := by
  have hdeclaration : Reordered (fun key => key ≠ "properties") True (ageDeclaration integerAge)
      turnedDeclaration := by
    refine .object (List.forall₂_same.2 fun entry _ => .refl entry) (.inr ⟨trivial, ?_, ?_⟩)
    · exact (by decide : ["name", "in", "schema"].Nodup)
    · exact (List.reverse_perm _).symm
  have hpaths : ReorderedField (fun key => key ≠ "properties")
      ("paths", .object [("/users", itemOf [ageDeclaration integerAge]), ("/orders", .object [])])
      ("paths", .object [("/orders", .object []), ("/users", itemOf [turnedDeclaration])]) := by
    refine .intro (.object (.cons (reordered_itemOf (.cons hdeclaration .nil)) (.cons (.refl _) .nil))
      (.inr ⟨by decide, ?_, .swap _ _ _⟩))
    exact (by decide : ["/users", "/orders"].Nodup)
  refine .object (.cons (.refl _) (.cons hpaths .nil)) (.inr ⟨trivial, ?_, .swap _ _ _⟩)
  exact (by decide : ["info", "paths"].Nodup)

/-- A path item of the document in both forms. -/
def usersDocument : Document where
  paths := [("/users", itemOf [ageDeclaration integerAge]), ("/orders", .object [])]
  definitions := []
  parameters := []
  others := [("info", .null)]

theorem route_usersDocument :
    usersDocument.route withAge.method (underApi.relative withAge.path) =
      .ok (routeTo underApi withAge "/users" [("get", .object (ageOperation integerAge))]
        (ageOperation integerAge)) := by
  have hsingle : Answered underApi (ageDocument integerAge) withAge ⟨"users", false⟩ "/users"
      [("get", .object (ageOperation integerAge))] (ageOperation integerAge) :=
    answered_limitTen rfl
  refine route_of_answered ofPath?_limitTen
    ⟨hsingle.slash, ⟨?_, hsingle.selects.selects, ?_⟩, rfl, hsingle.documented, hsingle.entry⟩
  · simp [templates, Fields.keys, usersDocument]
  · have hother : Routing.Rule.selects ⟨"users", false⟩ "/orders" = false := by
      simp [Routing.Rule.selects, Routing.Rule.pattern, Routing.accepts]
    simp [templates, Fields.keys, usersDocument, hsingle.selects.selects, hother]

/-- The age is no number in either order. -/
theorem validateJson_ordersAndUsers :
    usersAndOrders.keys.Nodup ∧
    Reordered (fun key => key ≠ "properties") True (.object usersAndOrders)
      (.object ordersAndUsers) ∧
    validateJson underApi (.object ordersAndUsers) withAge =
      .ok (.invalid (.wrongType .body "age" .integer)) := by
  have hn : usersAndOrders.keys.Nodup := (by decide : ["info", "paths"].Nodup)
  refine ⟨hn, reordered_usersAndOrders, ?_⟩
  rw [(validateJson_reordered hn reordered_usersAndOrders underApi withAge).1]
  have hrejects : Rejects usersDocument "body parameter 'user'" (ageSchema integerAge) ageData
      (.refused (.wrongType .body "age" .integer)) :=
    @Rejects.missed _ _ _ _ _ [] [] [] _ _ (.content rfl) (.mapping rfl) (by simp)
      (.mistyped rfl rfl (by decide))
  have hp : usersDocument.operationParameters "/users"
      [("get", .object (ageOperation integerAge))] withAge.method.key (ageOperation integerAge) =
        .ok ([] ++ ⟨"user", some .body, false, .unchecked, some (ageSchema integerAge)⟩ :: []) :=
    rfl
  rw [validateJson_of_ok (d := usersDocument) rfl]
  exact validate_of_missed route_usersDocument hp (by simp)
    (.bodyRejected rfl decodeBody_withAge rfl hrejects)

end Conformance

end ApiContract
