import ApiContract.Document.Parameter
import ApiContract.Proofs.Document.Sections
import ApiContract.Proofs.FirstFailure

/-
Lists of parameters: what their entries declare, and what becomes of two of them.

The place of an entry in its list is seen in faults only; a list that can be read gives the
parameters of its entries, one for each.  When the list of an operation is put over that of its path
item, every parameter goes its own way: what stands under one name and place in the outcome depends
on what stands there in the two lists.

Main definitions:

* `ApiContract.Place.keyword` — how a declaration names a place;
* `ApiContract.Document.EntryDeclares` — an entry declares a parameter;
* `ApiContract.Document.listedParameters` — the parameters under the key of a list.

Main results:

* `ApiContract.Parameter.forall₂_merge` — related lists are merged to related ones;
* `ApiContract.Parameter.filter_merge` — **leaving out some parameters, and merging**;
* `ApiContract.Document.entries_eq_ok_iff` — **a list is read entry by entry**;
* `ApiContract.Document.entries_paired`, `ownParameters_linked` — two lists side by side.
-/

set_option autoImplicit false

namespace ApiContract

/-! ### Texts and places -/

/-- The keyword of the `in` field. -/
def Place.keyword : Place → String
  | query => "query"
  | path => "path"
  | body => "body"
  | header => "header"
  | formData => "formData"

theorem Place.ofKeyword?_eq_some_iff {keyword : String} {place : Place} :
    ofKeyword? keyword = some place ↔ keyword = place.keyword := by
  constructor
  · unfold ofKeyword?
    intro h
    split_ifs at h with hkeyword hkeyword hkeyword hkeyword hkeyword <;> cases h <;> exact hkeyword
  · rintro rfl
    cases place <;> decide

theorem text?_bind_eq_some_iff {value : Option Json} {text : String} :
    value.bind Json.text? = some text ↔ value = some (.text text) := by
  rcases value with _ | value
  · simp
  · cases value <;> simp [Json.text?]

theorem text?_bind_eq_none_iff {value : Option Json} :
    value.bind Json.text? = none ↔ ∀ text, value ≠ some (.text text) := by
  simp only [Option.eq_none_iff_forall_ne_some, ne_eq, text?_bind_eq_some_iff]

/-- A place is named by one word only. -/
theorem place_eq_some_iff {value : Option Json} {place : Place} :
    (value.bind Json.text?).bind Place.ofKeyword? = some place ↔
      value = some (.text place.keyword) := by
  simp [Option.bind_eq_some_iff, Place.ofKeyword?_eq_some_iff, ← text?_bind_eq_some_iff]

/-! ### Merging -/

namespace Parameter

variable {p q : Parameter} {ps ps' shared shared' own own' : List Parameter}

theorem same_iff : p.same q = true ↔ p.name = q.name ∧ p.place = q.place := by
  simp [same]

theorem isChecked_eq_of_same (h : p.same q = true) : p.isChecked = q.isChecked := by
  rw [isChecked, isChecked, (same_iff.1 h).2]

section Related

variable {P : Parameter → Parameter → Prop}
  (hP : ∀ p p', P p p' → p'.name = p.name ∧ p'.place = p.place)

include hP

/-- Overriding goes by name and place. -/
theorem forall₂_override {p' : Parameter} (h : List.Forall₂ P ps ps') (hp : P p p') :
    List.Forall₂ P (override ps p) (override ps' p') := by
  induction h with
  | nil => exact .cons hp .nil
  | @cons q q' ps ps' hq hps ih =>
      have hsame : q'.same p' = q.same p := by
        unfold same
        rw [(hP q q' hq).1, (hP q q' hq).2, (hP p p' hp).1, (hP p p' hp).2]
      rw [override, override, hsame]
      split
      · exact .cons hp hps
      · exact .cons hq ih

theorem forall₂_merge (hs : List.Forall₂ P shared shared') (ho : List.Forall₂ P own own') :
    List.Forall₂ P (merge shared own) (merge shared' own') := by
  unfold merge
  induction ho generalizing shared shared' with
  | nil => exact hs
  | cons hp _ ih => exact ih (forall₂_override hP hs hp)

end Related

/-- What holds of both lists holds of the merged one. -/
theorem forall_merge {Q : Parameter → Prop} (hs : ∀ p ∈ shared, Q p) (ho : ∀ p ∈ own, Q p) :
    ∀ p ∈ merge shared own, Q p := by
  have h := @forall₂_merge _ _ _ _ (fun p p' => p' = p ∧ Q p) (by rintro p _ ⟨rfl, -⟩; simp)
    (List.forall₂_same.2 fun p hp => ⟨rfl, hs p hp⟩)
    (List.forall₂_same.2 fun p hp => ⟨rfl, ho p hp⟩)
  exact fun p hp => (List.forall₂_same.1 h p hp).2

section Filter

variable {keep : Parameter → Bool} (hkeep : ∀ p q, p.same q = true → keep p = keep q)

include hkeep

/-- A parameter that is left out overrides nothing that is kept. -/
theorem filter_override (ps : List Parameter) (p : Parameter) :
    (override ps p).filter keep =
      if keep p then override (ps.filter keep) p else ps.filter keep := by
  induction ps with
  | nil => cases hk : keep p <;> simp [override, hk]
  | cons q ps ih =>
      rw [override]
      by_cases hsame : q.same p = true
      · have hq : keep q = keep p := hkeep q p hsame
        cases hk : keep p <;> simp [hsame, hq, hk, override]
      · cases hk : keep p <;> cases hq : keep q <;> simp [hsame, hq, hk, override, ih]

/-- **Parameters can be left out before merging or after it**, as long as the same are left out
everywhere. -/
theorem filter_merge (shared own : List Parameter) :
    (merge shared own).filter keep = merge (shared.filter keep) (own.filter keep) := by
  unfold merge
  induction own generalizing shared with
  | nil => rfl
  | cons p own ih =>
      rw [List.foldl_cons, ih, filter_override hkeep]
      cases hk : keep p <;> simp [hk]

end Filter

end Parameter

namespace Document

open FirstFailure

variable {d d' : Document} {location : String} {node entry : Json} {entries : List Json}
  {p : Parameter} {ps : List Parameter}

/-! ### Entries -/

/-- The entry of a parameter list declares a parameter, wherever the list stands. -/
def EntryDeclares (d : Document) (entry : Json) (p : Parameter) : Prop :=
  ∃ node, d.parameterNode entry = .ok node ∧ ∀ location, Parameter.ofNode location node = .ok p

/-- The location is seen in faults only. -/
theorem ofNode_eq_ok_of_location (h : Parameter.ofNode location node = .ok p) (other : String) :
    Parameter.ofNode other node = .ok p := by
  unfold Parameter.ofNode at h ⊢
  split at h
  · split at h
    · cases h
    · exact h
  · cases h

theorem parameterEntry_eq_ok_iff {index : Nat} :
    d.parameterEntry location (entry, index) = .ok p ↔ d.EntryDeclares entry p := by
  unfold parameterEntry EntryDeclares
  rw [bind_eq_ok_iff]
  refine exists_congr fun node => and_congr Iff.rfl ⟨fun h => ofNode_eq_ok_of_location h, fun h => ?_⟩
  exact h _

/-- **A list is read when every entry declares a parameter, and gives these.** -/
theorem entries_eq_ok_iff :
    entries.zipIdx.mapM (d.parameterEntry location) = .ok ps ↔
      List.Forall₂ d.EntryDeclares entries ps := by
  rw [mapM_eq_ok_iff]
  -- the index of the first entry plays no part
  generalize 0 = index
  induction entries generalizing index ps with
  | nil => simp
  | cons entry entries ih =>
      simp only [List.zipIdx_cons, List.forall₂_cons_left_iff, parameterEntry_eq_ok_iff, ih]

theorem forall₂_zipIdx {α β : Type} {R : α → β → Prop} {xs : List α} {ys : List β}
    (h : List.Forall₂ R xs ys) (n : Nat) :
    List.Forall₂ (fun x y => R x.1 y.1 ∧ x.2 = y.2) (xs.zipIdx n) (ys.zipIdx n) := by
  induction h generalizing n with
  | nil => exact .nil
  | cons hxy _ ih => exact .cons ⟨hxy, rfl⟩ (ih (n + 1))

section Related

variable {R : Json → Json → Prop} {P : Parameter → Parameter → Prop}
  (hshared : ∀ name, Option.Rel R (d.parameters.get? name) (d'.parameters.get? name))
  (href : ∀ node node', R node node' → reference? node' = reference? node)
  (hnode : ∀ location node node', R node node' →
    Paired P (Parameter.ofNode location node) (Parameter.ofNode location node'))

include hshared href hnode

/-- Related entries stand for related nodes, whether they are references or not. -/
theorem parameterEntry_paired {entry entry' : Json} (h : R entry entry') (index : Nat) :
    Paired P (d.parameterEntry location (entry, index))
      (d'.parameterEntry location (entry', index)) := by
  have hfollowed : Paired R (d.parameterNode entry) (d'.parameterNode entry') := by
    unfold parameterNode
    rw [href entry entry' h]
    split
    · exact .ok h
    · split
      · exact .error _
      · next name _ =>
          unfold sharedParameter
          rcases none_or_some_of_rel (hshared name) with ⟨hn, hn'⟩ | ⟨node, node', hs, hs', hR⟩
          · rw [hn, hn']
            exact .error _
          · rw [hs, hs']
            exact .ok hR
  exact hfollowed.bind fun node node' hR => hnode _ node node' hR

/-- Lists are read alike when their entries are related, one by one. -/
theorem entries_paired {entries entries' : List Json} (h : List.Forall₂ R entries entries') :
    Paired (List.Forall₂ P) (entries.zipIdx.mapM (d.parameterEntry location))
      (entries'.zipIdx.mapM (d'.parameterEntry location)) := by
  refine Paired.mapM ((forall₂_zipIdx h 0).imp fun entry entry' hentry => ?_)
  obtain ⟨entry, index⟩ := entry
  obtain ⟨entry', index'⟩ := entry'
  obtain ⟨hentry, rfl⟩ := hentry
  exact parameterEntry_paired hshared href hnode hentry index

end Related

/-- An entry declares one parameter at most. -/
theorem EntryDeclares.unique {q : Parameter} (h : d.EntryDeclares entry p)
    (h' : d.EntryDeclares entry q) : p = q := by
  have hp := (@parameterEntry_eq_ok_iff d "" entry p 0).2 h
  rw [parameterEntry_eq_ok_iff.2 h'] at hp
  exact (Except.ok.inj hp).symm

/-! ### The list of a path item or an operation -/

/-- The parameters that a value gives which stands in the place of a list. -/
def listedParameters (d : Document) (location : String) :
    Json → Except Fault (List Parameter)
  | .null => .ok []
  | .array entries => entries.zipIdx.mapM (d.parameterEntry location)
  | _ => .error (.malformedNode (location ++ "/parameters") .sequence)

theorem ownParameters_eq (owner : Fields) :
    d.ownParameters location owner =
      match owner.get? "parameters" with
      | none => .ok []
      | some listing => d.listedParameters location listing := by
  unfold ownParameters
  rcases owner.get? "parameters" with _ | listing
  · rfl
  · cases listing <;> rfl

/-- Path items and operations are compared by what stands in the place of their lists. -/
theorem ownParameters_linked {F : Fault → Fault → Prop}
    {Listed : List Parameter → List Parameter → Prop} {V : Json → Json → Prop}
    {owner owner' : Fields} (h : Option.Rel V (owner.get? "parameters") (owner'.get? "parameters"))
    (hnil : Listed [] [])
    (hV : ∀ listing listing', V listing listing' →
      Linked F Listed (d.listedParameters location listing)
        (d'.listedParameters location listing')) :
    Linked F Listed (d.ownParameters location owner) (d'.ownParameters location owner') := by
  rw [ownParameters_eq, ownParameters_eq]
  rcases none_or_some_of_rel h with ⟨ho, ho'⟩ | ⟨listing, listing', ho, ho', hl⟩
  · rw [ho, ho']
    exact .ok hnil
  · rw [ho, ho']
    exact hV _ _ hl

end Document

end ApiContract
