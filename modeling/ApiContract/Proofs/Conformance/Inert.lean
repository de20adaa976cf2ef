import ApiContract.Proofs.Conformance.Acceptance

/-
Declarations that play no part.

A header or a form field is declared for the reader: requests are checked against parameters at the
query, the path and the body only.  Whether a parameter is required is asked of query parameters
only.  So the former can be left out of the lists, and the flags of all others can be set as one
likes, without any request telling the difference.  What is left out cannot have stood in the way
of a checked parameter when the lists were merged, as only the same parameters override each other.

Main definitions:

* `ApiContract.Conformance.Reflagged` — a declaration with another flag;
* `ApiContract.Conformance.Thinned` — a list with other flags and without unchecked parameters;
* `ApiContract.Conformance.ThinnedDocument` — a document with such lists and shared parameters;
* `ApiContract.Conformance.CheckedAlike` — parameters that are checked alike.

Main results:

* `ApiContract.Conformance.compared_of_thinned` — thinned documents, wherever validation looks;
* `ApiContract.Conformance.validate_thinned` — **unchecked parameters and the flags of parameters
  outside the query are inert**.
-/

set_option autoImplicit false

namespace ApiContract

namespace Conformance

open Document FirstFailure Parameter

variable {d d' : Document} {entry entry' : Json} {entries entries' : List Json}
  {location : String} {p p' : Parameter} {ps ps' shared shared' own own' : List Parameter}

/-! ### Declarations -/

/-- The same declaration, or one of a parameter outside the query whose flag `required` is added,
changed or taken away. -/
inductive Reflagged : Json → Json → Prop
  | same (node : Json) : Reflagged node node
  | flag {fields fields' : Fields} :
      fields.get? "in" ≠ some (.text "query") → Fields.SameBut "required" fields fields' →
      Reflagged (.object fields) (.object fields')

/-- The same parameter, which at the query is required in both or in neither. -/
inductive CheckedAlike : Parameter → Parameter → Prop
  | intro {p : Parameter} {required : Bool} :
      (p.place = some .query → required = p.required) → CheckedAlike p { p with required }

theorem CheckedAlike.refl (p : Parameter) : CheckedAlike p p := @CheckedAlike.intro p _ fun _ => rfl

theorem CheckedAlike.name_place (p p' : Parameter) (h : CheckedAlike p p') :
    p'.name = p.name ∧ p'.place = p.place := by
  cases h
  exact ⟨rfl, rfl⟩

theorem CheckedAlike.isChecked_eq (h : CheckedAlike p p') : p'.isChecked = p.isChecked := by
  cases h
  rfl

/-- Whether a parameter is required is asked at the query only. -/
theorem CheckedAlike.checkOne_eq (h : CheckedAlike p p') (settings : Settings) (d : Document)
    (request : Http.Request) (route : Route) :
    checkOne settings d request route p' = checkOne settings d request route p := by
  cases h with
  | @intro required hrequired =>
  obtain ⟨name, place, flag, type, schema⟩ := p
  match place with
  | some .query =>
      obtain rfl : required = flag := hrequired rfl
      rfl
  | none | some .path | some .body | some .header | some .formData => rfl

theorem Reflagged.reference?_eq (node node' : Json) (h : Reflagged node node') :
    reference? node' = reference? node := by
  cases h with
  | same => rfl
  | flag _ hbut => simp [reference?, hbut "$ref" (by decide)]

theorem Reflagged.ofNode_paired (location : String) (node node' : Json) (h : Reflagged node node') :
    Paired CheckedAlike (Parameter.ofNode location node) (Parameter.ofNode location node') := by
  cases h with
  | same => exact .refl .refl _
  | @flag fields fields' hplace hbut =>
      unfold Parameter.ofNode
      simp only [Json.get?_object, Primitive.ofNode, hbut "name" (by decide),
        hbut "in" (by decide), hbut "type" (by decide), hbut "schema" (by decide)]
      split
      · exact .error _
      · exact .ok (.intro fun hquery => absurd (place_eq_some_iff.1 hquery) hplace)

/-! ### Lists -/

/-- The checked parameters of two lists are checked alike, one by one. -/
def CheckedLists (ps ps' : List Parameter) : Prop :=
  List.Forall₂ CheckedAlike (ps.filter isChecked) (ps'.filter isChecked)

theorem CheckedLists.cons (hp : CheckedAlike p p') (h : CheckedLists ps ps') :
    CheckedLists (p :: ps) (p' :: ps') := by
  unfold CheckedLists
  cases hc : p.isChecked with
  | true =>
      rw [List.filter_cons_of_pos hc, List.filter_cons_of_pos (hp.isChecked_eq.trans hc)]
      exact .cons hp h
  | false =>
      rw [List.filter_cons_of_neg (by simp [hc]),
        List.filter_cons_of_neg (by simp [hp.isChecked_eq, hc])]
      exact h

/-- An unchecked parameter can be left out. -/
theorem CheckedLists.drop (hp : p.isChecked = false) (h : CheckedLists ps ps') :
    CheckedLists (p :: ps) ps' := by
  unfold CheckedLists
  rw [List.filter_cons_of_neg (by simp [hp])]
  exact h

theorem checkedLists_of_forall₂ (h : List.Forall₂ CheckedAlike ps ps') : CheckedLists ps ps' := by
  induction h with
  | nil => exact .nil
  | cons hp _ ih => exact ih.cons hp

/-- What is left out overrides nothing that is checked. -/
theorem CheckedLists.merge (hs : CheckedLists shared shared') (ho : CheckedLists own own') :
    CheckedLists (Parameter.merge shared own) (Parameter.merge shared' own') := by
  unfold CheckedLists
  rw [filter_merge fun _ _ => isChecked_eq_of_same, filter_merge fun _ _ => isChecked_eq_of_same]
  exact forall₂_merge CheckedAlike.name_place hs ho

/-- A run over a list is one over its checked parameters. -/
theorem forM_filter_isChecked (settings : Settings) (d : Document) (request : Http.Request)
    (route : Route) (ps : List Parameter) :
    forM (ps.filter isChecked) (checkOne settings d request route) =
      forM ps (checkOne settings d request route) := by
  induction ps with
  | nil => rfl
  | cons p ps ih =>
      cases hc : p.isChecked with
      | true => rw [List.filter_cons_of_pos hc, List.forM_cons, List.forM_cons, ih]
      | false =>
          rw [List.filter_cons_of_neg (by simp [hc]), List.forM_cons, checkOne_of_not_checked hc]
          exact ih

theorem CheckedLists.run (h : CheckedLists ps ps') (hdefs : d'.definitions = d.definitions)
    (settings : Settings) (request : Http.Request) (route : Route) :
    LinkedChecks Eq (forM ps (checkOne settings d request route))
      (forM ps' (checkOne settings d' request route)) := by
  rw [← forM_filter_isChecked settings d, ← forM_filter_isChecked settings d']
  refine linked_forM (h.imp fun p p' hp => linkedChecks_eq_iff.2 ?_)
  rw [hp.checkOne_eq, checkOne_eq_of_definitions hdefs]

/-! ### Documents -/

/-- A list without some of its unchecked parameters, and with other flags. -/
inductive Thinned (d : Document) : List Json → List Json → Prop
  | nil : Thinned d [] []
  | keep {entry entry' : Json} {entries entries' : List Json} :
      Reflagged entry entry' → Thinned d entries entries' →
      Thinned d (entry :: entries) (entry' :: entries')
  | drop {entry : Json} {entries entries' : List Json} {p : Parameter} :
      d.EntryDeclares entry p → p.isChecked = false → Thinned d entries entries' →
      Thinned d (entry :: entries) entries'

/-- The same for a list of which every entry declares a parameter. -/
def ThinnedList (d : Document) (entries entries' : List Json) : Prop :=
  (∀ entry ∈ entries, ∃ p, d.EntryDeclares entry p) ∧ Thinned d entries entries'

/-- The second document is the first with thinned lists and other flags of shared parameters. -/
structure ThinnedDocument (d d' : Document) : Prop where
  paths : List.Forall₂ (EditedPath (ThinnedList d)) d.paths d'.paths
  definitions : d'.definitions = d.definitions
  parameters : List.Forall₂ (fun shared shared' => shared'.1 = shared.1 ∧
    Reflagged shared.2 shared'.2) d.parameters d'.parameters

section Documents

variable (h : ThinnedDocument d d')

include h

theorem rel_shared_of_thinned (name : String) :
    Option.Rel Reflagged (d.parameters.get? name) (d'.parameters.get? name) :=
  rel_mono (fun _ _ hshared => hshared.2)
    (Fields.rel_of_forall₂ (fun _ _ hshared => hshared.1) h.parameters name)

/-- An entry with another flag declares a parameter that is checked alike. -/
theorem exists_declared_of_reflagged (he : Reflagged entry entry') (hp : d.EntryDeclares entry p) :
    ∃ p', d'.EntryDeclares entry' p' ∧ CheckedAlike p p' := by
  have hpaired : Paired CheckedAlike (d.parameterEntry "" (entry, 0))
      (d'.parameterEntry "" (entry', 0)) :=
    parameterEntry_paired (rel_shared_of_thinned h) Reflagged.reference?_eq
      Reflagged.ofNode_paired he 0
  rw [parameterEntry_eq_ok_iff.2 hp] at hpaired
  cases hd' : d'.parameterEntry "" (entry', 0) with
  | ok p' =>
      rw [hd'] at hpaired
      cases hpaired with
      | ok halike => exact ⟨p', parameterEntry_eq_ok_iff.1 hd', halike⟩
  | error fault =>
      rw [hd'] at hpaired
      cases hpaired

/-- Both lists can be read, and their checked parameters are checked alike. -/
theorem exists_declared_of_thinned (hall : ∀ entry ∈ entries, ∃ p, d.EntryDeclares entry p)
    (ht : Thinned d entries entries') :
    ∃ ps ps', List.Forall₂ d.EntryDeclares entries ps ∧
      List.Forall₂ d'.EntryDeclares entries' ps' ∧ CheckedLists ps ps' := by
  induction ht with
  | nil => exact ⟨[], [], .nil, .nil, .nil⟩
  | keep he _ ih =>
      rw [List.forall_mem_cons] at hall
      obtain ⟨ps, ps', hps, hps', hlists⟩ := ih hall.2
      obtain ⟨p, hp⟩ := hall.1
      obtain ⟨p', hp', halike⟩ := exists_declared_of_reflagged h he hp
      exact ⟨p :: ps, p' :: ps', .cons hp hps, .cons hp' hps', hlists.cons halike⟩
  | drop hp hunchecked _ ih =>
      -- the entry gives a parameter on the one side only, and it is not checked
      rw [List.forall_mem_cons] at hall
      obtain ⟨ps, ps', hps, hps', hlists⟩ := ih hall.2
      exact ⟨_ :: ps, ps', .cons hp hps, hps', hlists.drop hunchecked⟩

theorem listedParameters_thinned (listing : Json) :
    Paired CheckedLists (d.listedParameters location listing)
      (d'.listedParameters location listing) := by
  cases listing with
  | null => exact .ok .nil
  | array entries =>
      have hpaired : Paired (List.Forall₂ CheckedAlike)
          (d.listedParameters location (.array entries))
          (d'.listedParameters location (.array entries)) :=
        entries_paired (rel_shared_of_thinned h) Reflagged.reference?_eq Reflagged.ofNode_paired
          (List.forall₂_same.2 fun entry _ => .same entry)
      exact hpaired.mono fun _ _ => checkedLists_of_forall₂
  | _ => exact .error _

theorem ownParameters_thinned {owner owner' : Fields}
    (ho : EditedOwner (ThinnedList d) owner owner') :
    Linked (fun fault fault' => Rejection.faulty fault = .faulty fault') CheckedLists
      (d.ownParameters location owner) (d'.ownParameters location owner') := by
  refine ownParameters_linked ho .nil fun listing listing' hl => ?_
  cases hl with
  | same => exact (listedParameters_thinned h listing).linked fun _ => rfl
  | list hentries =>
      obtain ⟨ps, ps', hps, hps', hlists⟩ := exists_declared_of_thinned h hentries.1 hentries.2
      rw [listedParameters, listedParameters, entries_eq_ok_iff.2 hps, entries_eq_ok_iff.2 hps']
      exact .ok hlists

/-- **Thinned documents are related wherever validation looks**, with the same failures. -/
theorem compared_of_thinned : Compared Eq (EditedOwner (ThinnedList d)) CheckedLists d d' where
  failure _ := rfl
  templates := .of_eq (templates_eq_of_edited h.paths)
  paths := rel_paths_of_edited h.paths
  own ho _ := ownParameters_thinned h ho
  merge hs ho := hs.merge ho
  run hps settings request route := hps.run h.definitions settings request route

/-- **Unchecked parameters and the flags of parameters outside the query are inert.**  No verdict
and no fault changes when some of the former are left out of the lists, and when the latter are set
in any way, in the lists and among the shared parameters. -/
theorem validate_thinned (settings : Settings) (request : Http.Request) :
    validate settings d' request = validate settings d request :=
  (compared_of_thinned h).validate_eq settings request

end Documents

/-! ### A header, and a body that is required -/

def traceDeclaration : Json := .object [("name", .text "trace"), ("in", .text "header")]

/-- The declaration of a user who has to be there. -/
def requiredUser : Json :=
  .object [("required", .bool true), ("name", .text "user"), ("in", .text "body"),
    ("schema", .object [("properties", .object userProperties)])]

theorem entryDeclares_trace :
    d.EntryDeclares traceDeclaration ⟨"trace", some .header, false, .unchecked, none⟩ :=
  ⟨traceDeclaration, rfl, fun _ => rfl⟩

theorem reflagged_user : Reflagged (userDeclaration userProperties) requiredUser :=
  .flag (by simp [Fields.get?_cons]) fun other hne => by rw [Fields.get?_cons, if_neg hne]

theorem thinned_signUp :
    ThinnedDocument
      (signUpDocument [traceDeclaration, batchDeclaration, userDeclaration userProperties])
      (signUpDocument [batchDeclaration, requiredUser]) := by
  refine ⟨.cons (.item (.cons (.operation (by decide) (.cons (.list ⟨?_, ?_⟩) .nil)) .nil)) .nil,
    rfl, .nil⟩
  · simp only [List.forall_mem_cons]
    exact ⟨⟨_, entryDeclares_trace⟩, ⟨_, entryDeclares_batch⟩, ⟨_, entryDeclares_user⟩, by simp⟩
  · exact .drop entryDeclares_trace rfl (.keep (.same _) (.keep reflagged_user .nil))

/-- The header is gone and the user required, and the request is accepted as before. -/
theorem validate_signUp_thinned :
    ThinnedDocument
      (signUpDocument [traceDeclaration, batchDeclaration, userDeclaration userProperties])
      (signUpDocument [batchDeclaration, requiredUser]) ∧
    validate underApi (signUpDocument [batchDeclaration, requiredUser]) signUp = .ok .valid := by
  refine ⟨thinned_signUp, ?_⟩
  rw [validate_thinned thinned_signUp]
  exact @validate_signUp _
    [⟨"trace", some .header, false, .unchecked, none⟩, batchParameter, userParameter] rfl
    (by simp [isChecked])

end Conformance

end ApiContract
