import Mathlib.Data.List.Forall2
import ApiContract.Document.Basic

/-
The sections of a document, as they are found in the object it is read from.

`ApiContract.Document.ofJson` takes one section out of the object after the other, and each time the
last of the remaining fields moves into the gap.  As long as no key is repeated this is seen by no
later lookup, so that every section is the one under its key in the object itself.

Main definitions:

* `ApiContract.Fields.delete` — the fields without a key;
* `ApiContract.Fields.SameBut` — the same values under all keys but one;
* `ApiContract.Document.ofSections` — the document with given sections.

Main results:

* `ApiContract.Fields.get?_delete`, `get?_remove` — lookups after a key is gone;
* `ApiContract.Fields.forall₂_set`, `rel_set` — writing a field, entry by entry and key by key;
* `ApiContract.Fields.rel_of_forall₂` — from entries that are related to keys;
* `ApiContract.Document.ofJson_object` — **a document is made of the sections of its object**.
-/

set_option autoImplicit false

namespace ApiContract

/-! ### Two values that may be missing -/

theorem rel_refl {α : Type} {R : α → α → Prop} (h : ∀ a, R a a) (o : Option α) :
    Option.Rel R o o := by
  cases o with
  | none => exact .none
  | some a => exact .some (h a)

theorem rel_mono {α β : Type} {R S : α → β → Prop} (h : ∀ a b, R a b → S a b) {o : Option α}
    {o' : Option β} (ho : Option.Rel R o o') : Option.Rel S o o' := by
  cases ho with
  | none => exact .none
  | some hab => exact .some (h _ _ hab)

/-- Related values are both missing, or both there. -/
theorem none_or_some_of_rel {α β : Type} {R : α → β → Prop} {o : Option α} {o' : Option β}
    (h : Option.Rel R o o') :
    (o = none ∧ o' = none) ∨ ∃ a b, o = some a ∧ o' = some b ∧ R a b := by
  cases h with
  | none => exact .inl ⟨rfl, rfl⟩
  | some hab => exact .inr ⟨_, _, rfl, rfl, hab⟩

namespace Fields

/-! ### Fields behind others -/

section Append

variable {fields rest : Fields} {key other : String} {value : Json}

theorem get?_eq_none_of_not_mem_keys (h : key ∉ fields.keys) : fields.get? key = none := by
  by_contra hsome
  obtain ⟨found, hfound⟩ := Option.ne_none_iff_exists'.1 hsome
  exact h (List.mem_map_of_mem (mem_of_get?_eq_some hfound))

theorem keys_append (fields rest : Fields) : keys (fields ++ rest) = fields.keys ++ rest.keys :=
  List.map_append

theorem not_mem_keys_append (h : key ∉ fields.keys) (hrest : key ∉ rest.keys) :
    key ∉ keys (fields ++ rest) := by
  rw [keys_append, List.mem_append]
  exact not_or.2 ⟨h, hrest⟩

theorem get?_append_of_not_mem (h : key ∉ fields.keys) :
    get? (fields ++ rest) key = rest.get? key := by
  induction fields with
  | nil => rfl
  | cons entry fields ih =>
      obtain ⟨k, v⟩ := entry
      simp only [keys, List.map_cons, List.mem_cons, not_or] at h
      rw [List.cons_append, get?_cons, if_neg h.1]
      exact ih h.2

/-- A field in between is not found under another key. -/
theorem get?_append_cons_of_ne (h : other ≠ key) :
    get? (fields ++ (key, value) :: rest) other = get? (fields ++ rest) other := by
  induction fields with
  | nil => rw [List.nil_append, List.nil_append, get?_cons, if_neg h]
  | cons entry fields ih =>
      obtain ⟨k, v⟩ := entry
      rw [List.cons_append, List.cons_append, get?_cons, get?_cons, ih]

end Append

/-! ### Fields with a key less, or another value -/

variable {fields fields' : Fields} {key other : String} {value : Json}

/-- The fields without a key. -/
def delete (fields : Fields) (key : String) : Fields := fields.filter fun entry => entry.1 ≠ key

/-- Under every key but one stands the same value. -/
def SameBut (key : String) (fields fields' : Fields) : Prop :=
  ∀ other, other ≠ key → fields'.get? other = fields.get? other

theorem get?_delete (fields : Fields) (key other : String) :
    (fields.delete key).get? other = if other = key then none else fields.get? other := by
  induction fields with
  | nil => simp [delete]
  | cons entry rest ih =>
      obtain ⟨k, v⟩ := entry
      rw [get?_cons]
      by_cases hk : k = key
      · subst hk
        have hdelete : delete ((k, v) :: rest) k = delete rest k := by simp [delete]
        rw [hdelete, ih]
        split <;> rfl
      · have hdelete : delete ((k, v) :: rest) key = (k, v) :: delete rest key := by
          simp [delete, hk]
        rw [hdelete, get?_cons, ih]
        by_cases ho : other = k
        · simp [ho, hk]
        · simp [ho]

theorem get?_set_self (fields : Fields) (key : String) (value : Json) :
    (fields.set key value).get? key = some value := by
  rw [get?_set, if_pos rfl]

theorem sameBut_delete (fields : Fields) (key : String) : SameBut key fields (fields.delete key) :=
  fun other hne => by rw [get?_delete, if_neg hne]

theorem sameBut_set (fields : Fields) (key : String) (value : Json) :
    SameBut key fields (fields.set key value) :=
  fun other hne => by rw [get?_set, if_neg hne]

/-- A field that is written in place of another one changes that entry and no other. -/
theorem forall₂_set {R : String × Json → String × Json → Prop} {value' : Json}
    (hrefl : ∀ entry, R entry entry) (h : fields.get? key = some value)
    (hR : R (key, value) (key, value')) : List.Forall₂ R fields (fields.set key value') := by
  induction fields with
  | nil => cases h
  | cons entry rest ih =>
      obtain ⟨k, v⟩ := entry
      rw [get?_cons] at h
      rw [set]
      split at h
      · next hk =>
          subst hk
          obtain rfl := Option.some.inj h
          rw [if_pos rfl]
          exact .cons hR (List.forall₂_same.2 fun entry _ => hrefl entry)
      · next hk =>
          rw [if_neg (Ne.symm hk)]
          exact .cons (hrefl _) (ih h)

/-- The same under every key. -/
theorem rel_set {R : Json → Json → Prop} {value' : Json} (hrefl : ∀ value, R value value)
    (h : fields.get? key = some value) (hR : R value value') (other : String) :
    Option.Rel R (fields.get? other) ((fields.set key value').get? other) := by
  rw [get?_set]
  by_cases heq : other = key
  · rw [if_pos heq, heq, h]
    exact .some hR
  · rw [if_neg heq]
    exact rel_refl hrefl _

/-- Fields that are related one by one have the same keys. -/
theorem keys_eq_of_forall₂ {R : String × Json → String × Json → Prop}
    (hkey : ∀ entry entry', R entry entry' → entry'.1 = entry.1) (h : List.Forall₂ R fields fields') :
    fields'.keys = fields.keys := by
  induction h with
  | nil => rfl
  | cons hR _ ih => simp only [keys, List.map_cons, hkey _ _ hR] at ih ⊢; rw [ih]

theorem rel_of_forall₂ {R : String × Json → String × Json → Prop}
    (hkey : ∀ entry entry', R entry entry' → entry'.1 = entry.1) (h : List.Forall₂ R fields fields')
    (key : String) :
    Option.Rel (fun value value' => R (key, value) (key, value')) (fields.get? key)
      (fields'.get? key) := by
  induction h with
  | nil => exact .none
  | @cons entry entry' rest rest' hR _ ih =>
      obtain ⟨k, v⟩ := entry
      obtain ⟨k', v'⟩ := entry'
      obtain rfl : k' = k := hkey _ _ hR
      rw [get?_cons, get?_cons]
      split
      · next heq => exact .some (heq ▸ hR)
      · exact ih

/-! ### Keys that are not repeated -/

theorem get?_eq_some_iff_mem (hn : fields.keys.Nodup) :
    fields.get? key = some value ↔ (key, value) ∈ fields := by
  refine ⟨mem_of_get?_eq_some, fun hmem => ?_⟩
  induction fields with
  | nil => cases hmem
  | cons entry rest ih =>
      obtain ⟨k, v⟩ := entry
      obtain ⟨hk, hn⟩ := List.nodup_cons.1 hn
      rw [get?_cons]
      rcases List.mem_cons.1 hmem with heq | hmem
      · cases heq
        exact if_pos rfl
      · have hne : key ≠ k := fun heq => hk (List.mem_map.2 ⟨_, hmem, heq⟩)
        rw [if_neg hne]
        exact ih hn hmem

/-- The order of the fields does not matter to a lookup. -/
theorem get?_eq_of_perm (hn : fields.keys.Nodup) (hp : fields.Perm fields') (key : String) :
    fields'.get? key = fields.get? key := by
  have hn' : fields'.keys.Nodup := (hp.map Prod.fst).nodup_iff.1 hn
  refine Option.ext fun value => ?_
  rw [get?_eq_some_iff_mem hn, get?_eq_some_iff_mem hn', hp.mem_iff]

theorem perm_remove (hn : fields.keys.Nodup) : (fields.remove key).Perm (fields.delete key) := by
  induction fields with
  | nil => exact .nil
  | cons entry rest ih =>
      obtain ⟨k, v⟩ := entry
      obtain ⟨hk, hn⟩ := List.nodup_cons.1 hn
      rw [remove]
      by_cases hkey : k = key
      · subst hkey
        have hdelete : delete ((k, v) :: rest) k = rest := by
          have hall : ∀ entry ∈ rest, entry.1 ≠ k := fun entry hmem heq =>
            hk (List.mem_map.2 ⟨entry, hmem, heq⟩)
          simpa [delete] using hall
        rw [if_pos rfl, hdelete]
        cases hlast : rest.getLast? with
        | none => rw [List.getLast?_eq_none_iff.1 hlast]
        | some last =>
            -- the last field has moved to the front
            have hsplit := List.dropLast_append_getLast? last hlast
            exact (List.perm_append_singleton last _).symm.trans (.of_eq hsplit)
      · have hdelete : delete ((k, v) :: rest) key = (k, v) :: delete rest key := by
          simp [delete, hkey]
        rw [if_neg hkey, hdelete]
        exact (ih hn).cons _

theorem nodup_keys_delete (hn : fields.keys.Nodup) : (fields.delete key).keys.Nodup :=
  hn.sublist (List.filter_sublist.map Prod.fst)

theorem nodup_keys_set (hn : fields.keys.Nodup) (h : fields.get? key = some value)
    (value' : Json) : (fields.set key value').keys.Nodup := by
  have hmem : key ∈ fields.keys := List.mem_map_of_mem (mem_of_get?_eq_some h)
  rwa [keys_set, if_pos hmem]

theorem nodup_keys_remove (hn : fields.keys.Nodup) : (fields.remove key).keys.Nodup :=
  ((perm_remove hn).map Prod.fst).nodup_iff.2 (nodup_keys_delete hn)

theorem get?_remove (hn : fields.keys.Nodup) (hne : other ≠ key) :
    (fields.remove key).get? other = fields.get? other := by
  rw [get?_eq_of_perm (nodup_keys_delete hn) (perm_remove hn).symm, get?_delete, if_neg hne]

end Fields

namespace Document

/-- The document with the given sections. -/
def ofSections (paths definitions parameters : Option Json) (others : Fields) :
    Except Fault Document := do
  let some paths ← sectionFields "paths" paths | throw .missingPaths
  let definitions ← sectionFields "definitions" definitions
  let parameters ← sectionFields "parameters" parameters
  return ⟨paths, definitions.getD [], parameters.getD [], others⟩

/-- **A document is made of the sections that stand in its object.** -/
theorem ofJson_object {fields : Fields} (hn : fields.keys.Nodup) :
    ofJson (.object fields) =
      ofSections (fields.get? "paths") (fields.get? "definitions") (fields.get? "parameters")
        (((fields.remove "paths").remove "definitions").remove "parameters") := by
  have hn' : (fields.remove "paths").keys.Nodup := Fields.nodup_keys_remove hn
  have hdefinitions : (fields.remove "paths").get? "definitions" = fields.get? "definitions" :=
    Fields.get?_remove hn (by decide)
  have hparameters : ((fields.remove "paths").remove "definitions").get? "parameters" =
      fields.get? "parameters" := by
    rw [Fields.get?_remove hn' (by decide), Fields.get?_remove hn (by decide)]
  -- each section is looked up in what is left at its turn
  have hsections : ofJson (.object fields) =
      ofSections (fields.get? "paths") ((fields.remove "paths").get? "definitions")
        (((fields.remove "paths").remove "definitions").get? "parameters")
        (((fields.remove "paths").remove "definitions").remove "parameters") := rfl
  rw [hsections, hdefinitions, hparameters]

end Document

end ApiContract
