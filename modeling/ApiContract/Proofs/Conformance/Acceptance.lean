import Mathlib.Data.List.Perm.Basic
import ApiContract.Proofs.Conformance.Lists
import ApiContract.Proofs.Conformance.Ordering
import ApiContract.Proofs.Conformance.Payload

/-
Acceptance, whatever the order of declarations.

A request is accepted when it passes every check, and no check depends on another.  The lists of a
path item and of an operation are merged in order, though, where a declaration takes the place of
the first one of the same parameter.  As long as no list declares a checked parameter twice, what is
left of a parameter after merging is the same in every order.

Main definitions:

* `ApiContract.Parameter.Distinct` — a list that declares no checked parameter twice;
* `ApiContract.Parameter.SameChecked` — two lists with the same declarations of each checked
  parameter;
* `ApiContract.Conformance.Shuffled` — a document with such lists in another order.

Main results:

* `ApiContract.Parameter.SameChecked.merge` — merging keeps the declarations of each parameter;
* `ApiContract.Conformance.compared_of_shuffled` — shuffled documents, wherever validation looks;
* `ApiContract.Conformance.valid_iff_of_shuffled` — **the order of parameters and of properties
  does not decide whether a request is accepted**.
-/

set_option autoImplicit false

namespace ApiContract

/-! ### Lists of parameters -/

namespace Parameter

variable {p q r : Parameter} {ps ps' shared shared' own own' : List Parameter}

theorem same_eq_of_same (h : p.same q = true) (r : Parameter) : p.same r = q.same r := by
  unfold same
  rw [(same_iff.1 h).1, (same_iff.1 h).2]

/-- No parameter is declared twice, except for parameters that are not checked. -/
def Distinct (ps : List Parameter) : Prop :=
  ps.Pairwise fun p q => p.same q = true → p.isChecked = false

/-- Every checked parameter has the same declarations in both lists, in the same order. -/
def SameChecked (ps ps' : List Parameter) : Prop :=
  ∀ p, p.isChecked = true → ps'.filter (·.same p) = ps.filter (·.same p)

/-- Of a checked parameter there is one declaration at most, and so it is the same in any order. -/
theorem Distinct.sameChecked_of_perm (hd : Distinct ps) (h : ps.Perm ps') :
    SameChecked ps ps' := by
  intro p hp
  have hperm : (ps.filter (·.same p)).Perm (ps'.filter (·.same p)) := h.filter _
  have hdistinct : Distinct (ps.filter (·.same p)) := List.Pairwise.filter _ hd
  have hsame : ∀ q ∈ ps.filter (·.same p), q.same p = true := fun q hq =>
    (List.mem_filter.1 hq).2
  generalize ps.filter (·.same p) = declarations at hperm hdistinct hsame ⊢
  match declarations with
  | [] => exact hperm.symm.eq_nil
  | [q] => exact List.perm_singleton.1 hperm.symm
  | q :: r :: rest =>
      -- two declarations of one parameter, which is checked
      have hq : q.same p = true := hsame q (by simp)
      have hr : r.same p = true := hsame r (by simp)
      have hqr : q.same r = true := by
        rw [same_iff] at hq hr ⊢
        exact ⟨hq.1.trans hr.1.symm, hq.2.trans hr.2.symm⟩
      have hunchecked : q.isChecked = false :=
        (List.pairwise_cons.1 hdistinct).1 r (by simp) hqr
      rw [isChecked_eq_of_same hq, hp] at hunchecked
      cases hunchecked

namespace SameChecked

theorem refl (ps : List Parameter) : SameChecked ps ps := fun _ _ => rfl

theorem symm (h : SameChecked ps ps') : SameChecked ps' ps := fun p hp => (h p hp).symm

/-- A parameter goes its own way when lists are merged. -/
theorem merge (hs : SameChecked shared shared') (ho : SameChecked own own') :
    SameChecked (Parameter.merge shared own) (Parameter.merge shared' own') := by
  intro p hp
  rw [filter_merge fun _ _ h => same_eq_of_same h p, filter_merge fun _ _ h => same_eq_of_same h p,
    hs p hp, ho p hp]

theorem mem (h : SameChecked ps ps') (hp : p.isChecked = true) (hmem : p ∈ ps) : p ∈ ps' := by
  have hfilter : p ∈ ps.filter (·.same p) := List.mem_filter.2 ⟨hmem, same_iff.2 ⟨rfl, rfl⟩⟩
  rw [← h p hp] at hfilter
  exact (List.mem_filter.1 hfilter).1

/-- What all unchecked parameters have anyway is had by all of both lists. -/
theorem forall_iff (h : SameChecked ps ps') {P : Parameter → Prop}
    (hP : ∀ p, p.isChecked = false → P p) : (∀ p ∈ ps, P p) ↔ ∀ p ∈ ps', P p := by
  have himp : ∀ {ps ps' : List Parameter}, SameChecked ps ps' → (∀ p ∈ ps, P p) →
      ∀ p ∈ ps', P p := by
    intro ps ps' h hall p hmem
    cases hp : p.isChecked with
    | true => exact hall p (h.symm.mem hp hmem)
    | false => exact hP p hp
  exact ⟨himp h, himp h.symm⟩

end SameChecked

end Parameter

namespace Conformance

open Document FirstFailure Json Parameter

variable {d d' between : Document}

/-! ### Shuffled documents -/

/-- A list of parameters in another order, where every parameter is declared once. -/
def ShuffledList (d : Document) (entries entries' : List Json) : Prop :=
  (∀ ps, List.Forall₂ d.EntryDeclares entries ps → Distinct ps) ∧ entries.Perm entries'

/-- The second document is the first with lists of parameters in another order. -/
structure Shuffled (d d' : Document) : Prop where
  paths : List.Forall₂ (EditedPath (ShuffledList d)) d.paths d'.paths
  definitions : d'.definitions = d.definitions
  parameters : d'.parameters = d.parameters

section Lists

variable {location location' : String} {entries entries' : List Json}

/-- The parameters of a list come in the order of its entries. -/
theorem exists_perm_of_entries_perm {ps : List Parameter} (h : entries.Perm entries')
    (hps : List.Forall₂ d.EntryDeclares entries ps) :
    ∃ ps', List.Forall₂ d.EntryDeclares entries' ps' ∧ ps.Perm ps' := by
  obtain ⟨ps', hps', hperm⟩ := List.perm_comp_forall₂ h.symm hps
  exact ⟨ps', hps', hperm.symm⟩

/-- A list can be read in every order or in none, and declares the same parameters. -/
theorem entries_shuffled (h : ShuffledList d entries entries') :
    Linked (fun _ _ => True) SameChecked (entries.zipIdx.mapM (d.parameterEntry location))
      (entries'.zipIdx.mapM (d.parameterEntry location)) := by
  cases hread : entries.zipIdx.mapM (d.parameterEntry location) with
  | ok ps =>
      have hps : List.Forall₂ d.EntryDeclares entries ps := entries_eq_ok_iff.1 hread
      obtain ⟨ps', hps', hperm⟩ := exists_perm_of_entries_perm h.2 hps
      rw [entries_eq_ok_iff.2 hps']
      exact .ok ((h.1 ps hps).sameChecked_of_perm hperm)
  | error fault =>
      cases hread' : entries'.zipIdx.mapM (d.parameterEntry location) with
      | ok ps' =>
          obtain ⟨ps, hps, -⟩ :=
            exists_perm_of_entries_perm h.2.symm (entries_eq_ok_iff.1 hread')
          rw [entries_eq_ok_iff.2 hps] at hread
          cases hread
      | error fault' => exact .error trivial

end Lists

section Documents

variable (h : Shuffled d d')

include h

theorem listedParameters_eq_of_shuffled (location : String) (listing : Json) :
    d'.listedParameters location listing = d.listedParameters location listing := by
  have hentry : ∀ entry, d'.parameterEntry location entry = d.parameterEntry location entry := by
    intro entry
    simp only [parameterEntry, parameterNode, sharedParameter, h.parameters]
  unfold listedParameters
  simp only [funext hentry]

/-- Path items and operations declare the same parameters. -/
theorem ownParameters_shuffled {owner owner' : Fields} {location : String}
    (ho : EditedOwner (ShuffledList d) owner owner') :
    Linked (fun _ _ => True) SameChecked (d.ownParameters location owner)
      (d'.ownParameters location owner') := by
  refine ownParameters_linked ho (.refl []) fun listing listing' hl => ?_
  rw [listedParameters_eq_of_shuffled h]
  cases hl with
  | same => exact (Paired.refl SameChecked.refl _).linked fun _ => trivial
  | list hentries => exact entries_shuffled hentries

/-- **Shuffled documents are related wherever validation looks.** -/
theorem compared_of_shuffled :
    Compared (fun _ _ => True) (EditedOwner (ShuffledList d)) SameChecked d d' where
  failure _ := trivial
  templates := .of_eq (templates_eq_of_edited h.paths)
  paths := rel_paths_of_edited h.paths
  own ho _ := ownParameters_shuffled h ho
  merge hs ho := hs.merge ho
  run hps settings request route := by
    refine .of_ok_iff (fun _ _ => trivial) ?_
    simp only [forM_eq_ok_iff, checkOne_eq_of_definitions h.definitions]
    exact hps.forall_iff fun p hp => checkOne_of_not_checked hp

end Documents

/-! ### Acceptance -/

/-- **Acceptance does not depend on the order of declarations.**  Lists of parameters, none of which
declares a checked parameter twice, and then mappings, properties among them, are put in another
order: the same requests are accepted. -/
theorem valid_iff_of_shuffled {loose : String → Prop} (hs : Shuffled d between)
    (hr : between.Reordered loose d') (settings : Settings) (request : Http.Request) :
    validate settings d' request = .ok .valid ↔ validate settings d request = .ok .valid := by
  have hreordered : Compared (fun _ _ => True) (ReorderedOwner loose)
      (List.Forall₂ (ReorderedParameter loose)) between d' :=
    compared_of_reordered hr (fun _ => trivial) fun _ _ _ => trivial
  exact (hreordered.validate_eq_valid_iff settings request).trans
    ((compared_of_shuffled hs).validate_eq_valid_iff settings request)

/-! ### A user who is signed up -/

def nameSchema : Json := .object [("type", .text "string")]

/-- A user has a name and a mail address. -/
def userProperties : Fields := [("name", nameSchema), ("mail", nameSchema)]

def batchDeclaration : Json :=
  .object [("name", .text "batch"), ("in", .text "query"), ("type", .text "integer")]

def userDeclaration (properties : Fields) : Json :=
  .object [("name", .text "user"), ("in", .text "body"),
    ("schema", .object [("properties", .object properties)])]

/-- A document with an operation that declares the parameters of the entries. -/
def signUpDocument (entries : List Json) : Document where
  paths := [("/users", itemOf entries)]
  definitions := []
  parameters := []
  others := []

/-- A request with everything that is asked for. -/
def signUp : Http.Request :=
  (limitTen.withQuery "batch" "2").withBody
    "\x7b\"name\":\"a\",\"mail\":\"b\"\x7d".toUTF8

def signUpData : Json := .object [("name", .text "a"), ("mail", .text "b")]

theorem decodeBody_signUp : decodeBody signUp.body = .ok signUpData := by
  have hportable : signUpData.Portable := .object (by decide) (by simp [Json.Portable.text])
  exact decodeBody_of_compact hportable (by decide) rfl

def batchParameter : Parameter := ⟨"batch", some .query, false, .integer, none⟩

def userParameter : Parameter :=
  ⟨"user", some .body, false, .unchecked,
    some (.object [("properties", .object userProperties)])⟩

theorem entryDeclares_batch : d.EntryDeclares batchDeclaration batchParameter :=
  ⟨batchDeclaration, rfl, fun _ => rfl⟩

theorem entryDeclares_user : d.EntryDeclares (userDeclaration userProperties) userParameter :=
  ⟨userDeclaration userProperties, rfl, fun _ => rfl⟩

/-- The request is accepted by every document that checks no other parameters. -/
theorem validate_signUp {entries : List Json} {ps : List Parameter}
    (hp : (signUpDocument entries).operationParameters "/users"
      [("get", .object (operationOf entries))] limitTen.method.key (operationOf entries) = .ok ps)
    (hall : ∀ p ∈ ps, p.isChecked = true → p = batchParameter ∨ p = userParameter) :
    validate underApi (signUpDocument entries) signUp = .ok .valid := by
  have hroute : (signUpDocument entries).route signUp.method (underApi.relative signUp.path) =
      .ok (routeTo underApi limitTen "/users" [("get", .object (operationOf entries))]
        (operationOf entries)) :=
    route_of_answered ofPath?_limitTen (answered_limitTen rfl)
  refine validate_of_unmissed hroute hp fun p hmem => checkOne_eq_ok_iff.1 ?_
  cases hc : p.isChecked with
  | false => exact checkOne_of_not_checked hc
  | true =>
      rcases hall p hmem hc with rfl | rfl
      · rfl
      · have hmeets : ∀ entry ∈ userProperties, Meets (signUpDocument entries) signUpData entry := by
          intro entry hentry
          obtain rfl | rfl : entry = ("name", nameSchema) ∨ entry = ("mail", nameSchema) := by
            simpa [userProperties] using hentry
          · exact .primitive rfl rfl rfl
          · exact .primitive rfl rfl rfl
        rw [checkOne_of_body rfl, decodeBody_signUp]
        exact (decided _ _ _ _).1.2 (.intro (.content rfl) (.mapping rfl) hmeets)

theorem shuffled_signUp :
    Shuffled (signUpDocument [batchDeclaration, userDeclaration userProperties])
      (signUpDocument [userDeclaration userProperties, batchDeclaration]) := by
  refine ⟨.cons (.item (.cons (.operation (by decide) (.cons (.list ⟨?_, .swap _ _ _⟩) .nil))
    .nil)) .nil, rfl, rfl⟩
  intro ps hps
  obtain ⟨p, _, hp, hrest, rfl⟩ := List.forall₂_cons_left_iff.1 hps
  obtain ⟨q, _, hq, hnil, rfl⟩ := List.forall₂_cons_left_iff.1 hrest
  obtain rfl := List.forall₂_nil_left_iff.1 hnil
  obtain rfl := hp.unique entryDeclares_batch
  obtain rfl := hq.unique entryDeclares_user
  simp [Distinct, same, batchParameter, userParameter]

theorem reordered_signUp :
    Document.Reordered (fun key => key = "properties")
      (signUpDocument [userDeclaration userProperties, batchDeclaration])
      (signUpDocument [userDeclaration userProperties.reverse, batchDeclaration]) := by
  have hproperties : ReorderedField (fun key => key = "properties")
      ("properties", .object userProperties) ("properties", .object userProperties.reverse) := by
    refine .intro (.object (List.forall₂_same.2 fun entry _ => .refl entry) (.inr ⟨rfl, ?_, ?_⟩))
    · exact (by decide : ["name", "mail"].Nodup)
    · exact (List.reverse_perm _).symm
  have huser : Json.Reordered (fun key => key = "properties") True (userDeclaration userProperties)
      (userDeclaration userProperties.reverse) :=
    .object (.cons (.refl _) (.cons (.refl _) (.cons (.intro (.object (.cons hproperties .nil)
      (.inl rfl))) .nil))) (.inl rfl)
  exact ⟨.object (.cons (reordered_itemOf (.cons huser (.cons (.same _) .nil))) .nil) (.inl rfl),
    .same _, .same _⟩

/-- The user before the size of the batch, and the mail address before the name. -/
theorem validate_signUp_turned :
    Shuffled (signUpDocument [batchDeclaration, userDeclaration userProperties])
      (signUpDocument [userDeclaration userProperties, batchDeclaration]) ∧
    Document.Reordered (fun key => key = "properties")
      (signUpDocument [userDeclaration userProperties, batchDeclaration])
      (signUpDocument [userDeclaration userProperties.reverse, batchDeclaration]) ∧
    validate underApi (signUpDocument [userDeclaration userProperties.reverse, batchDeclaration])
      signUp = .ok .valid := by
  refine ⟨shuffled_signUp, reordered_signUp, ?_⟩
  rw [valid_iff_of_shuffled shuffled_signUp reordered_signUp underApi signUp]
  exact @validate_signUp _ [batchParameter, userParameter] rfl (by simp)

end Conformance

end ApiContract
