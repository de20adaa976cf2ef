import ApiContract.Proofs.Conformance.Verdict
import ApiContract.Proofs.Document.Parameters

/-
Two documents, step by step.

Validation meets a document at four points: it goes through the templates, looks up a path item and
an operation, reads their lists of parameters, and checks the merged list.  When two documents are
related at each of these points, so are their outcomes for every request.  What related means is
left open: for path items and operations, for lists of parameters, and for two failures, which may
have to be the same or may be any two.

Main definitions:

* `ApiContract.Conformance.Shaped` — two nodes are related mappings, or neither is a mapping;
* `ApiContract.Conformance.Compared` — two documents that are related at all four points.

Main results:

* `ApiContract.Conformance.Compared.check_linked` — the checks of a request are linked;
* `ApiContract.Conformance.Compared.validate_eq`, `Compared.validate_eq_valid_iff` — **the same
  verdict, where failures are the same; the same requests accepted, whatever the failures**.
-/

set_option autoImplicit false

namespace ApiContract

namespace Conformance

open Document FirstFailure

/-! ### Points of comparison -/

/-- Two nodes are mappings that are related, or neither is a mapping. -/
def Shaped (R : Fields → Fields → Prop) (node node' : Json) : Prop :=
  Option.Rel R node.fields? node'.fields?

theorem Shaped.refl {R : Fields → Fields → Prop} (hR : ∀ fields, R fields fields) (node : Json) :
    Shaped R node node :=
  rel_refl hR _

/-- Path items that are related as owners of parameters, and so are their operations. -/
structure ComparedItem (Owner : Fields → Fields → Prop) (item item' : Fields) : Prop where
  owner : Owner item item'
  operation : ∀ key ∈ operationKeys, Option.Rel (Shaped Owner) (item.get? key) (item'.get? key)

/-- Two documents that are related wherever validation looks: `E` relates failures, `Owner` path
items and operations, and `Listed` lists of parameters. -/
structure Compared (E : Rejection → Rejection → Prop) (Owner : Fields → Fields → Prop)
    (Listed : List Parameter → List Parameter → Prop) (d d' : Document) : Prop where
  failure : ∀ rejection, E rejection rejection
  templates : d'.templates.Perm d.templates
  paths : ∀ template,
    Option.Rel (Shaped (ComparedItem Owner)) (d.paths.get? template) (d'.paths.get? template)
  own : ∀ {owner owner' : Fields}, Owner owner owner' → ∀ location,
    Linked (fun fault fault' => E (.faulty fault) (.faulty fault')) Listed
      (d.ownParameters location owner) (d'.ownParameters location owner')
  merge : ∀ {shared shared' own own' : List Parameter}, Listed shared shared' → Listed own own' →
    Listed (Parameter.merge shared own) (Parameter.merge shared' own')
  run : ∀ {ps ps' : List Parameter}, Listed ps ps' →
    ∀ (settings : Settings) (request : Http.Request) (route : Route),
      LinkedChecks E (forM ps (checkOne settings d request route))
        (forM ps' (checkOne settings d' request route))

variable {E : Rejection → Rejection → Prop} {Owner : Fields → Fields → Prop}
  {Listed : List Parameter → List Parameter → Prop} {d d' : Document} {template key : String}

/-- A node that has to be a mapping, or else is rejected. -/
def mappingOr (rejection : Rejection) (node : Json) : Except Rejection Fields :=
  node.fields?.elim (.error rejection) .ok

theorem Shaped.linked {R : Fields → Fields → Prop} {node node' : Json} (hE : ∀ r, E r r)
    (h : Shaped R node node') (rejection : Rejection) :
    Linked E R (mappingOr rejection node) (mappingOr rejection node') := by
  unfold mappingOr
  rcases none_or_some_of_rel h with ⟨hn, hn'⟩ | ⟨fields, fields', hn, hn', hR⟩
  · rw [hn, hn']
    exact .error (hE _)
  · rw [hn, hn']
    exact .ok hR

theorem pathItem_eq (d : Document) (template : String) :
    Check.ofFault (d.pathItem template) =
      match d.paths.get? template with
      | none => .error (.faulty (.malformedNode ("#/paths/" ++ template) .documentedPath))
      | some node => mappingOr (.faulty (.malformedNode ("#/paths/" ++ template) .mapping)) node := by
  unfold pathItem
  rcases d.paths.get? template with _ | node
  · rfl
  · cases node <;> rfl

theorem operation_eq (template : String) (item : Fields) (key : String) :
    operation template item key =
      if key ∈ operationKeys then
        match item.get? key with
        | none => .error (.refused .methodNotAllowed)
        | some node => mappingOr (.faulty (.malformedNode s!"#/paths/{template}/{key}" .mapping)) node
      else .error (.refused .methodNotAllowed) := by
  unfold operation
  rcases item.get? key with _ | node
  · rfl
  · cases node <;> rfl

/-- Routes that differ in path item and operation only, and these are related. -/
inductive ComparedRoute (Owner : Fields → Fields → Prop) : Route → Route → Prop
  | intro {route : Route} {item' operation' : Fields} :
      Owner route.item item' → Owner route.operation operation' →
      ComparedRoute Owner route { route with item := item', operation := operation' }

/-- Nothing but bindings and third segment of a route is looked at by a check. -/
theorem ComparedRoute.checkOne_eq {route route' : Route} (h : ComparedRoute Owner route route')
    (settings : Settings) (d : Document) (request : Http.Request) :
    checkOne settings d request route' = checkOne settings d request route := by
  cases h
  rfl

theorem ofFault_linked {α β : Type} {R : α → β → Prop} {x : Except Fault α} {y : Except Fault β}
    (h : Linked (fun fault fault' => E (.faulty fault) (.faulty fault')) R x y) :
    Linked E R (Check.ofFault x) (Check.ofFault y) := by
  cases h with
  | ok hab => exact .ok hab
  | error he => exact .error he

theorem operation_linked {item item' : Fields} (hE : ∀ r, E r r)
    (h : ComparedItem Owner item item') :
    Linked E Owner (operation template item key) (operation template item' key) := by
  rw [operation_eq, operation_eq]
  by_cases hk : key ∈ operationKeys
  · rw [if_pos hk, if_pos hk]
    rcases none_or_some_of_rel (h.operation key hk) with
      ⟨ho, ho'⟩ | ⟨node, node', ho, ho', hnode⟩
    · rw [ho, ho']
      exact .error (hE _)
    · rw [ho, ho']
      exact hnode.linked hE _
  · rw [if_neg hk, if_neg hk]
    exact .error (hE _)

/-! ### From point to point -/

namespace Compared

variable (h : Compared E Owner Listed d d')

include h

theorem pathItem_linked (template : String) :
    Linked E (ComparedItem Owner) (Check.ofFault (d.pathItem template))
      (Check.ofFault (d'.pathItem template)) := by
  rw [pathItem_eq, pathItem_eq]
  rcases none_or_some_of_rel (h.paths template) with ⟨hp, hp'⟩ | ⟨node, node', hp, hp', hnode⟩
  · rw [hp, hp']
    exact .error (h.failure _)
  · rw [hp, hp']
    exact hnode.linked h.failure _

theorem route_linked (method : Http.Method) (path : String) :
    Linked E (ComparedRoute Owner) (d.route method path) (d'.route method path) := by
  unfold Document.route
  rw [templateFor_eq_of_perm h.templates]
  refine ((Paired.refl (fun _ => rfl) _).linked h.failure).bind fun template template' ht => ?_
  subst ht
  refine (h.pathItem_linked template).bind fun item item' hitem => ?_
  refine (operation_linked h.failure hitem).bind fun op op' hop => ?_
  exact .ok (.intro hitem.owner hop)

theorem operationParameters_linked {item item' op op' : Fields} (hi : Owner item item')
    (ho : Owner op op') :
    Linked (fun fault fault' => E (.faulty fault) (.faulty fault')) Listed
      (d.operationParameters template item key op)
      (d'.operationParameters template item' key op') := by
  unfold operationParameters
  refine (h.own hi _).bind fun shared shared' hshared => ?_
  refine (h.own ho _).bind fun own own' hown => ?_
  exact .ok (h.merge hshared hown)

theorem check_linked (settings : Settings) (request : Http.Request) :
    LinkedChecks E (check settings d request) (check settings d' request) := by
  unfold check
  refine (h.route_linked _ _).bind fun route route' hroute => ?_
  have hparameters : Linked (fun fault fault' => E (.faulty fault) (.faulty fault')) Listed
      (d.operationParameters route.template route.item route.method route.operation)
      (d'.operationParameters route'.template route'.item route'.method route'.operation) := by
    cases hroute with
    | intro hi ho => exact h.operationParameters_linked hi ho
  refine (ofFault_linked hparameters).bind fun ps ps' hps => ?_
  rw [checkParameters_eq_forM, checkParameters_eq_forM, hroute.checkOne_eq]
  exact h.run hps settings request route

end Compared

/-! ### Verdicts -/

theorem validate_eq_valid_iff {settings : Settings} {request : Http.Request} :
    validate settings d request = .ok .valid ↔ check settings d request = .ok () := by
  unfold validate
  rcases check settings d request with (refusal | fault) | ⟨⟨⟩⟩ <;> simp [Verdict.ofCheck]

/-- Where failures are the same, so are the verdicts. -/
theorem Compared.validate_eq (h : Compared Eq Owner Listed d d') (settings : Settings)
    (request : Http.Request) : validate settings d' request = validate settings d request := by
  unfold validate
  rw [linkedChecks_eq_iff.1 (h.check_linked settings request)]

/-- Whatever the failures, the same requests are accepted. -/
theorem Compared.validate_eq_valid_iff (h : Compared E Owner Listed d d') (settings : Settings)
    (request : Http.Request) :
    validate settings d' request = .ok .valid ↔ validate settings d request = .ok .valid := by
  rw [Conformance.validate_eq_valid_iff, Conformance.validate_eq_valid_iff]
  exact (h.check_linked settings request).ok_iff.symm

end Conformance

end ApiContract
