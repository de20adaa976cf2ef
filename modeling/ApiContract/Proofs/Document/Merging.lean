import Mathlib.Data.List.Induction
import ApiContract.Proofs.Document.Parameters

/-
The parameters of an operation: both lists read, and the one put over the other.

The parameters that a path item declares for all of its operations come first, in their order; those
of the operation follow, except that a declaration of a parameter that is there already takes the
place of the first one.  What comes out is told here position by position, and what can be wrong
with the two lists is told defect by defect.

Main definitions:

* `ApiContract.Parameter.key` — name and place, by which a parameter is known;
* `ApiContract.Parameter.Merged` — the outcome of putting one list over another;
* `ApiContract.Document.StandsFor` — the node that an entry of a list comes to;
* `ApiContract.Document.Lists` — the parameters that a path item or an operation declares;
* `ApiContract.Document.EntryFaulty`, `ListFaulty` — what is wrong with an entry, and what is wrong
  first with a list.

Main results:

* `ApiContract.Parameter.Merged.override`, `merged_merge` — one declaration more, and all of them;
* `ApiContract.Parameter.Merged.unique` — keys and positions determine the outcome;
* `ApiContract.Document.entryFaulty_iff`, `ownParameters_eq_ok_iff`, `ownParameters_eq_error_iff` —
  one entry, and one list;
* `ApiContract.Document.operationParameters_merged` — **both lists**.
-/

set_option autoImplicit false

namespace ApiContract

/-! ### First occurrences -/

section First

variable {α : Type}

/-- What stands first at two positions stands at one. -/
theorem eq_of_first {xs : List α} {x : α} {i j : Nat} (hi : xs[i]? = some x)
    (hj : xs[j]? = some x) (hi' : x ∉ xs.take i) (hj' : x ∉ xs.take j) : i = j := by
  have hle : ∀ m n, xs[m]? = some x → x ∉ xs.take n → n ≤ m := fun m n hm hn => by
    by_contra hlt
    refine hn (@List.mem_of_getElem? _ _ m _ ?_)
    rw [List.getElem?_take, if_pos (Nat.lt_of_not_le hlt), hm]
  exact Nat.le_antisymm (hle j i hj hi') (hle i j hi hj')

variable [BEq α] [LawfulBEq α]

theorem eraseDups_concat (xs : List α) (x : α) :
    (xs ++ [x]).eraseDups = if x ∈ xs then xs.eraseDups else xs.eraseDups ++ [x] := by
  rw [List.eraseDups_append]
  by_cases hx : x ∈ xs
  · simp [List.removeAll, hx]
  · simp [List.removeAll, hx, List.eraseDups_cons]

theorem nodup_eraseDups (xs : List α) : xs.eraseDups.Nodup := by
  induction xs using List.reverseRecOn with
  | nil => exact .nil
  | append_singleton xs x ih =>
      rw [eraseDups_concat]
      split
      · exact ih
      · next hx =>
          refine List.nodup_append.2 ⟨ih, List.pairwise_singleton _ x, fun y hy z hz hyz => hx ?_⟩
          rw [← List.mem_singleton.1 hz, ← hyz]
          exact List.mem_eraseDups.1 hy

end First

namespace Parameter

variable {p q : Parameter} {ps shared own merged merged' : List Parameter}

/-- What a parameter is known by.  Those that name no place, or an unknown one, are at one place of
their own. -/
def key (p : Parameter) : String × Option Place := (p.name, p.place)

/-- The parameters that come of putting `own` over `shared`. -/
structure Merged (shared own merged : List Parameter) : Prop where
  /-- The keys of `shared` come first, then those that are new, each where it occurs first. -/
  keys : merged.map key =
    shared.map key ++ ((own.map key).filter (· ∉ shared.map key)).eraseDups
  /-- Where a key of `own` stands first, there stands the last declaration that `own` has of it. -/
  last : ∀ i p, merged[i]? = some p → p.key ∈ own.map key → p.key ∉ (merged.map key).take i →
    own.findRev? (·.key = p.key) = some p
  /-- Everywhere else stands what stands there in `shared`. -/
  other : ∀ i p, merged[i]? = some p → p.key ∉ own.map key ∨ p.key ∈ (merged.map key).take i →
    shared[i]? = some p

theorem same_iff_key_eq : p.same q = true ↔ p.key = q.key := by
  rw [same_iff, key, key, Prod.mk.injEq]

/-! ### One declaration -/

/-- **One declaration is put at the end when its key is new, and else in place of the first one that
has its key.** -/
theorem override_cases (ps : List Parameter) (q : Parameter) :
    (q.key ∉ ps.map key ∧ override ps q = ps ++ [q]) ∨
      ∃ j, (ps.map key)[j]? = some q.key ∧ q.key ∉ (ps.map key).take j ∧
        override ps q = ps.set j q := by
  induction ps with
  | nil => exact .inl ⟨by simp, rfl⟩
  | cons p ps ih =>
      rw [override]
      by_cases hsame : p.same q = true
      · rw [if_pos hsame]
        exact .inr ⟨0, by simp [same_iff_key_eq.1 hsame], by simp, rfl⟩
      · rw [if_neg hsame]
        have hne : q.key ≠ p.key := fun heq => hsame (same_iff_key_eq.2 heq.symm)
        rcases ih with ⟨hnew, heq⟩ | ⟨j, hj, hfirst, heq⟩
        · exact .inl ⟨by simpa [hne] using hnew, by rw [heq]; rfl⟩
        · exact .inr ⟨j + 1, by simpa using hj, by simpa [hne] using hfirst, by rw [heq]; rfl⟩

theorem findRev?_concat (own : List Parameter) (q : Parameter) (k : String × Option Place) :
    (own ++ [q]).findRev? (·.key = k) =
      if q.key = k then some q else own.findRev? (·.key = k) := by
  rw [List.findRev?_eq_find?_reverse, List.findRev?_eq_find?_reverse, List.reverse_concat,
    List.find?_cons]
  by_cases hk : q.key = k <;> simp [hk]

theorem key_getElem? {i : Nat} (h : ps[i]? = some p) : (ps.map key)[i]? = some p.key := by
  rw [List.getElem?_map, h]
  rfl

theorem Merged.keys_concat (h : Merged shared own merged) (q : Parameter) :
    shared.map key ++ (((own ++ [q]).map key).filter (· ∉ shared.map key)).eraseDups =
      if q.key ∈ merged.map key then merged.map key else merged.map key ++ [q.key] := by
  rw [h.keys, List.map_append, List.filter_append, List.map_singleton, List.filter_singleton]
  by_cases hs : q.key ∈ shared.map key
  · rw [if_pos (List.mem_append_left _ hs), decide_eq_false (not_not.2 hs), cond_false,
      List.append_nil]
  · rw [decide_eq_true hs, cond_true, eraseDups_concat]
    by_cases ho : q.key ∈ (own.map key).filter (· ∉ shared.map key)
    · rw [if_pos ho, if_pos (List.mem_append_right _ (List.mem_eraseDups.2 ho))]
    · have hnew : q.key ∉ shared.map key ++
          ((own.map key).filter (· ∉ shared.map key)).eraseDups := by
        rw [List.mem_append, List.mem_eraseDups]
        exact not_or.2 ⟨hs, ho⟩
      rw [if_neg ho, if_neg hnew, List.append_assoc]

/-- A declaration under another key changes nothing for a key. -/
theorem Merged.of_ne (h : Merged shared own merged) {i : Nat} (hp : merged[i]? = some p)
    (hne : q.key ≠ p.key) :
    (p.key ∈ (own ++ [q]).map key → p.key ∉ (merged.map key).take i →
      (own ++ [q]).findRev? (·.key = p.key) = some p) ∧
    (p.key ∉ (own ++ [q]).map key ∨ p.key ∈ (merged.map key).take i → shared[i]? = some p) := by
  have hown : p.key ∈ (own ++ [q]).map key ↔ p.key ∈ own.map key := by
    simp [Ne.symm hne]
  rw [hown, findRev?_concat, if_neg hne]
  exact ⟨h.last i p hp, h.other i p hp⟩

/-- A declaration with a new key is put at the end. -/
theorem Merged.concat (h : Merged shared own merged) (hnew : q.key ∉ merged.map key) :
    Merged shared (own ++ [q]) (merged ++ [q]) := by
  have hkeys : (merged ++ [q]).map key = merged.map key ++ [q.key] := by simp
  have htake : ∀ {i : Nat}, i ≤ merged.length →
      ((merged ++ [q]).map key).take i = (merged.map key).take i := fun hi => by
    rw [hkeys, List.take_append_of_le_length (by simpa using hi)]
  -- the positions of before, and the one that is new
  have hposition : ∀ {i : Nat} {p : Parameter}, (merged ++ [q])[i]? = some p →
      merged[i]? = some p ∧ q.key ≠ p.key ∧ i ≤ merged.length ∨ p = q ∧ i = merged.length :=
    fun {i p} hp => by
      rcases Nat.lt_or_ge i merged.length with hi | hi
      · rw [List.getElem?_append_left hi] at hp
        have hmem : p.key ∈ merged.map key := List.mem_map_of_mem (List.mem_of_getElem? hp)
        exact .inl ⟨hp, fun hk => hnew (hk ▸ hmem), Nat.le_of_lt hi⟩
      · rw [List.getElem?_append_right hi, List.getElem?_singleton] at hp
        obtain ⟨hzero, hpq⟩ := Option.ite_none_right_eq_some.1 hp
        exact .inr ⟨(Option.some.inj hpq).symm, by omega⟩
  refine ⟨by rw [h.keys_concat, if_neg hnew, hkeys], fun i p hp hown hfirst => ?_,
    fun i p hp hother => ?_⟩
  · rcases hposition hp with ⟨hp, hne, hi⟩ | ⟨rfl, rfl⟩
    · exact (h.of_ne hp hne).1 hown (by rwa [htake hi] at hfirst)
    · rw [findRev?_concat, if_pos rfl]
  · rcases hposition hp with ⟨hp, hne, hi⟩ | ⟨rfl, rfl⟩
    · exact (h.of_ne hp hne).2 (by rwa [htake hi] at hother)
    · -- the key at the end is one of `own`, and has not occurred before
      rcases hother with hown | hbefore
      · exact absurd (by simp) hown
      · rw [htake (Nat.le_refl _)] at hbefore
        exact absurd (List.mem_of_mem_take hbefore) hnew

/-- A declaration with a key that is there takes the place of the first one that has it. -/
theorem Merged.set {j : Nat} (h : Merged shared own merged)
    (hj : (merged.map key)[j]? = some q.key) (hfirst : q.key ∉ (merged.map key).take j) :
    Merged shared (own ++ [q]) (merged.set j q) := by
  obtain ⟨hlt, hget⟩ := List.getElem?_eq_some_iff.1 hj
  have hkeys : (merged.set j q).map key = merged.map key := by
    rw [List.map_set, ← hget, List.set_getElem_self]
  -- the position that is taken, and the others
  have hposition : ∀ {i : Nat} {p : Parameter}, (merged.set j q)[i]? = some p →
      p = q ∧ i = j ∨ merged[i]? = some p ∧ i ≠ j := fun {i p} hp => by
    rw [List.getElem?_set] at hp
    by_cases hij : j = i
    · rw [if_pos hij, if_pos (by simpa using hlt)] at hp
      exact .inl ⟨(Option.some.inj hp).symm, hij.symm⟩
    · rw [if_neg hij] at hp
      exact .inr ⟨hp, Ne.symm hij⟩
  -- nowhere else does the key stand first
  have hfirst_eq : ∀ {i : Nat} {p : Parameter}, merged[i]? = some p → q.key = p.key →
      p.key ∉ (merged.map key).take i → i = j := fun hp hk hfirst' =>
    eq_of_first (key_getElem? hp) (hk ▸ hj) hfirst' (hk ▸ hfirst)
  refine ⟨by rw [h.keys_concat, if_pos (List.mem_of_getElem? hj), hkeys],
    fun i p hp hown hfirst' => ?_, fun i p hp hother => ?_⟩
  · rw [hkeys] at hfirst'
    rcases hposition hp with ⟨rfl, rfl⟩ | ⟨hp, hij⟩
    · rw [findRev?_concat, if_pos rfl]
    · have hne : q.key ≠ p.key := fun hk => hij (hfirst_eq hp hk hfirst')
      exact (h.of_ne hp hne).1 hown hfirst'
  · rw [hkeys] at hother
    rcases hposition hp with ⟨rfl, rfl⟩ | ⟨hp, hij⟩
    · rcases hother with hown | hbefore
      · exact absurd (by simp) hown
      · exact absurd hbefore hfirst
    · by_cases hk : q.key = p.key
      · -- behind the position that is taken the key has occurred before
        refine h.other i p hp (.inr ?_)
        by_contra hfirst'
        exact hij (hfirst_eq hp hk hfirst')
      · exact (h.of_ne hp hk).2 hother

/-- **One declaration more.** -/
theorem Merged.override (h : Merged shared own merged) (q : Parameter) :
    Merged shared (own ++ [q]) (override merged q) := by
  rcases override_cases merged q with ⟨hnew, heq⟩ | ⟨j, hj, hfirst, heq⟩
  · rw [heq]
    exact h.concat hnew
  · rw [heq]
    exact h.set hj hfirst

/-- **All declarations of an operation, put over those of its path item.** -/
theorem merged_merge (shared own : List Parameter) : Merged shared own (merge shared own) := by
  induction own using List.reverseRecOn with
  | nil =>
      refine ⟨by simp [merge], fun i p _ hown => ?_, fun i p hp _ => hp⟩
      cases hown
  | append_singleton own q ih =>
      have hmerge : merge shared (own ++ [q]) = Parameter.override (merge shared own) q := by
        rw [merge, List.foldl_append]
        rfl
      rw [hmerge]
      exact ih.override q

/-! ### What the outcome is like -/

/-- Keys and positions leave no choice. -/
theorem Merged.unique (h : Merged shared own merged) (h' : Merged shared own merged') :
    merged = merged' := by
  have hkeys : merged.map key = merged'.map key := h.keys.trans h'.keys.symm
  have hlength : merged.length = merged'.length := by simpa using congrArg List.length hkeys
  refine List.ext_getElem hlength fun i hi hi' => ?_
  have hp := List.getElem?_eq_getElem hi
  have hp' := List.getElem?_eq_getElem hi'
  have hkey : merged[i].key = merged'[i].key := by
    have := key_getElem? hp
    rw [hkeys, key_getElem? hp'] at this
    exact (Option.some.inj this).symm
  by_cases hfirst : merged[i].key ∈ own.map key ∧ merged[i].key ∉ (merged.map key).take i
  · have hlast := h.last i _ hp hfirst.1 hfirst.2
    rw [hkey] at hfirst hlast
    rw [hkeys] at hfirst
    exact Option.some.inj (hlast.symm.trans (h'.last i _ hp' hfirst.1 hfirst.2))
  · have hother := not_and_or.1 hfirst
    rw [not_not] at hother
    have hstays := h.other i _ hp hother
    rw [hkey, hkeys] at hother
    exact Option.some.inj (hstays.symm.trans (h'.other i _ hp' hother))

/-- Only `shared` can bring in a key twice. -/
theorem Merged.nodup (h : Merged shared own merged) (hn : (shared.map key).Nodup) :
    (merged.map key).Nodup := by
  rw [h.keys]
  refine List.nodup_append.2 ⟨hn, nodup_eraseDups _, fun k hk k' hk' heq => ?_⟩
  have hnew := (List.mem_filter.1 (List.mem_eraseDups.1 hk')).2
  exact of_decide_eq_true hnew (heq ▸ hk)

/-- What `own` does not declare stays. -/
theorem Merged.mem_of_mem_shared (h : Merged shared own merged) (hp : p ∈ shared)
    (hown : p.key ∉ own.map key) : p ∈ merged := by
  obtain ⟨i, hi⟩ := List.getElem?_of_mem hp
  have hkey : (merged.map key)[i]? = some p.key := by
    have hlt : i < (shared.map key).length := by
      simpa using (List.getElem?_eq_some_iff.1 hi).1
    rw [h.keys, List.getElem?_append_left hlt, key_getElem? hi]
  obtain ⟨q, hq, hk⟩ := Option.map_eq_some_iff.1 ((List.getElem?_map ..).symm.trans hkey)
  have hstays := h.other i q hq (.inl (hk ▸ hown))
  obtain rfl := Option.some.inj (hi.symm.trans hstays)
  exact List.mem_of_getElem? hq

/-- The last declaration of a key in `own` is in the outcome. -/
theorem Merged.mem_of_findRev? (h : Merged shared own merged)
    (hp : own.findRev? (·.key = p.key) = some p) : p ∈ merged := by
  have hown : p.key ∈ own.map key := by
    rw [List.findRev?_eq_find?_reverse] at hp
    exact List.mem_map_of_mem (List.mem_reverse.1 (List.mem_of_find?_eq_some hp))
  have hkey : p.key ∈ merged.map key := by
    rw [h.keys, List.mem_append, List.mem_eraseDups, List.mem_filter]
    by_cases hs : p.key ∈ shared.map key
    · exact .inl hs
    · exact .inr ⟨hown, decide_eq_true hs⟩
  obtain ⟨before, after, hsplit, hfirst⟩ := List.eq_append_cons_of_mem hkey
  have hi : (merged.map key)[before.length]? = some p.key := by simp [hsplit]
  obtain ⟨q, hq, hk⟩ := Option.map_eq_some_iff.1 ((List.getElem?_map ..).symm.trans hi)
  have hlast := h.last _ q hq (hk ▸ hown) (by rw [hsplit, List.take_left, hk]; exact hfirst)
  rw [hk, hp] at hlast
  obtain rfl := Option.some.inj hlast
  exact List.mem_of_getElem? hq

/-- **Nothing that is declared only once is lost.** -/
theorem Merged.mem_of_count (h : Merged shared own merged) (hp : p ∈ shared ++ own)
    (hone : ((shared ++ own).map key).count p.key = 1) : p ∈ merged := by
  rw [List.map_append, List.count_append] at hone
  rcases List.mem_append.1 hp with hp | hp
  · have hpos := List.count_pos_iff.2 (List.mem_map_of_mem (f := key) hp)
    exact h.mem_of_mem_shared hp (List.count_eq_zero.1 (by omega))
  · refine h.mem_of_findRev? ?_
    obtain ⟨before, after, rfl⟩ := List.append_of_mem hp
    simp only [List.map_append, List.map_cons, List.count_append, List.count_cons_self] at hone
    have hafter : p.key ∉ after.map key := List.count_eq_zero.1 (by omega)
    rw [List.findRev?_eq_find?_reverse, List.reverse_append, List.reverse_cons, List.append_assoc]
    rw [List.find?_append, List.find?_eq_none.2 (by simpa using hafter)]
    simp

end Parameter

namespace Document

open FirstFailure Parameter

variable {d : Document} {location : String} {node entry : Json} {entries : List Json}
  {p : Parameter} {ps : List Parameter} {fault : Fault} {owner : Fields}

/-! ### What is wrong with an entry -/

/-- The entry is the node, or refers to it as a shared parameter. -/
inductive StandsFor (d : Document) (entry : Json) : Json → Prop
  | itself : reference? entry = none → StandsFor d entry entry
  | shared {reference name : String} {node : Json} :
      reference? entry = some reference → target? "parameters" reference = some name →
      d.parameters.get? name = some node → StandsFor d entry node

/-- The entry at `location` declares no parameter, for the reason that `fault` names. -/
inductive EntryFaulty (d : Document) (location : String) (entry : Json) : Fault → Prop
  /-- The reference points at no shared parameter. -/
  | untargeted {reference : String} :
      reference? entry = some reference → target? "parameters" reference = none →
      EntryFaulty d location entry (.unresolvedReference reference)
  /-- The shared parameter is missing. -/
  | undefined {reference name : String} :
      reference? entry = some reference → target? "parameters" reference = some name →
      d.parameters.get? name = none →
      EntryFaulty d location entry (.unresolvedReference ("#/parameters/" ++ name))
  /-- The node is no mapping. -/
  | shapeless {node : Json} :
      d.StandsFor entry node → (∀ fields, node ≠ .object fields) →
      EntryFaulty d location entry (.malformedNode location .parameterMapping)
  /-- The mapping has no text for a name. -/
  | nameless {fields : Fields} :
      d.StandsFor entry (.object fields) → (∀ name, fields.get? "name" ≠ some (.text name)) →
      EntryFaulty d location entry (.malformedNode (location ++ "/name") .string)

theorem parameterNode_eq_ok_iff : d.parameterNode entry = .ok node ↔ d.StandsFor entry node := by
  constructor
  · intro h
    unfold parameterNode at h
    split at h
    · next hr =>
        cases h
        exact .itself hr
    · next reference hr =>
        split at h
        · cases h
        · next name ht =>
            unfold sharedParameter at h
            split at h
            · next node hn =>
                cases h
                exact .shared hr ht hn
            · cases h
  · rintro (hr | ⟨hr, ht, hn⟩)
    · rw [parameterNode, hr]
    · simp only [parameterNode, hr, ht, sharedParameter, hn]

theorem parameterNode_fault_iff :
    d.parameterNode entry = .error fault ↔ ∃ reference, reference? entry = some reference ∧
      (target? "parameters" reference = none ∧ fault = .unresolvedReference reference ∨
        ∃ name, target? "parameters" reference = some name ∧ d.parameters.get? name = none ∧
          fault = .unresolvedReference ("#/parameters/" ++ name)) := by
  unfold parameterNode
  cases hr : reference? entry with
  | none => simp
  | some reference =>
      cases ht : target? "parameters" reference with
      | none => simp [ht, eq_comm]
      | some name => cases hn : d.parameters.get? name <;> simp [sharedParameter, ht, hn, eq_comm]

theorem ofNode_eq_error_iff :
    Parameter.ofNode location node = .error fault ↔
      (∀ fields, node ≠ .object fields) ∧ fault = .malformedNode location .parameterMapping ∨
      ∃ fields : Fields, node = .object fields ∧
        (∀ name, fields.get? "name" ≠ some (.text name)) ∧
        fault = .malformedNode (location ++ "/name") .string := by
  cases node with
  | object fields =>
      simp only [Parameter.ofNode, Json.get?_object, ← text?_bind_eq_none_iff]
      cases hname : (Fields.get? fields "name").bind Json.text? <;> simp [hname, eq_comm]
  | _ => simp [Parameter.ofNode, eq_comm]

/-- **Why an entry cannot be read**: it refers to nothing, or its node declares nothing. -/
theorem entryFaulty_iff :
    d.EntryFaulty location entry fault ↔
      d.parameterNode entry >>= Parameter.ofNode location = .error fault := by
  rw [bind_eq_error_iff]
  constructor
  · rintro (⟨hr, ht⟩ | ⟨hr, ht, hn⟩ | ⟨hstands, hshape⟩ | ⟨hstands, hname⟩)
    · exact .inl (parameterNode_fault_iff.2 ⟨_, hr, .inl ⟨ht, rfl⟩⟩)
    · exact .inl (parameterNode_fault_iff.2 ⟨_, hr, .inr ⟨_, ht, hn, rfl⟩⟩)
    · exact .inr ⟨_, parameterNode_eq_ok_iff.2 hstands,
        ofNode_eq_error_iff.2 (.inl ⟨hshape, rfl⟩)⟩
    · exact .inr ⟨_, parameterNode_eq_ok_iff.2 hstands,
        ofNode_eq_error_iff.2 (.inr ⟨_, rfl, hname, rfl⟩)⟩
  · rintro (h | ⟨node, hnode, h⟩)
    · obtain ⟨reference, hr, ⟨ht, rfl⟩ | ⟨name, ht, hn, rfl⟩⟩ := parameterNode_fault_iff.1 h
      · exact .untargeted hr ht
      · exact .undefined hr ht hn
    · have hstands := parameterNode_eq_ok_iff.1 hnode
      rcases ofNode_eq_error_iff.1 h with ⟨hshape, rfl⟩ | ⟨fields, rfl, hname, rfl⟩
      · exact .shapeless hstands hshape
      · exact .nameless hstands hname

/-- No entry that is faulty anywhere declares a parameter. -/
theorem EntryFaulty.not_declares (h : d.EntryFaulty location entry fault) :
    ¬ d.EntryDeclares entry p := by
  rintro ⟨node, hnode, hp⟩
  rcases bind_eq_error_iff.1 (entryFaulty_iff.1 h) with herror | ⟨other, hother, herror⟩
  · cases hnode.symm.trans herror
  · obtain rfl := Except.ok.inj (hnode.symm.trans hother)
    cases (hp location).symm.trans herror

/-- **What an entry declares**: the name and the place that the node has which it stands for.  A
parameter without a place is one that names none, or no place that there is. -/
theorem EntryDeclares.name_place (h : d.EntryDeclares entry p) :
    ∃ node, d.StandsFor entry node ∧ node.get? "name" = some (.text p.name) ∧
      ∀ place, p.place = some place ↔ node.get? "in" = some (.text place.keyword) := by
  obtain ⟨node, hnode, hof⟩ := h
  refine ⟨node, parameterNode_eq_ok_iff.1 hnode, ?_⟩
  have hp := hof ""
  unfold Parameter.ofNode at hp
  split at hp
  · split at hp
    · cases hp
    · next name hname =>
        cases hp
        exact ⟨text?_bind_eq_some_iff.1 hname, fun _ => place_eq_some_iff⟩
  · cases hp

/-! ### What is wrong with a list -/

/-- The path item or the operation declares the parameters. -/
inductive Lists (d : Document) (owner : Fields) : List Parameter → Prop
  | absent : owner.get? "parameters" = none → Lists d owner []
  | null : owner.get? "parameters" = some .null → Lists d owner []
  | entries {entries : List Json} {ps : List Parameter} :
      owner.get? "parameters" = some (.array entries) →
      List.Forall₂ d.EntryDeclares entries ps → Lists d owner ps

/-- The first thing that is wrong with the parameters of the path item or the operation at
`location`. -/
inductive ListFaulty (d : Document) (location : String) (owner : Fields) : Fault → Prop
  /-- There is something else in the place of a list. -/
  | shapeless {listing : Json} :
      owner.get? "parameters" = some listing → listing ≠ .null →
      (∀ entries, listing ≠ .array entries) →
      ListFaulty d location owner (.malformedNode (location ++ "/parameters") .sequence)
  /-- An entry is faulty, and those before it are not. -/
  | entry {before after : List Json} {entry : Json} {earlier : List Parameter} {fault : Fault} :
      owner.get? "parameters" = some (.array (before ++ entry :: after)) →
      List.Forall₂ d.EntryDeclares before earlier →
      d.EntryFaulty s!"{location}/parameters/{before.length}" entry fault →
      ListFaulty d location owner fault

/-- There is something else in the place of a list, or one of the entries is faulty. -/
def Unlistable (d : Document) (owner : Fields) : Prop :=
  (∃ listing, owner.get? "parameters" = some listing ∧ listing ≠ .null ∧
    ∀ entries, listing ≠ .array entries) ∨
  ∃ entries, owner.get? "parameters" = some (.array entries) ∧
    ∃ entry ∈ entries, ∃ location fault, d.EntryFaulty location entry fault

/-- **A list cannot be read because of its first faulty entry.** -/
theorem entries_eq_error_iff :
    entries.zipIdx.mapM (d.parameterEntry location) = .error fault ↔
      ∃ before entry after earlier, entries = before ++ entry :: after ∧
        List.Forall₂ d.EntryDeclares before earlier ∧
        d.EntryFaulty s!"{location}/parameters/{before.length}" entry fault := by
  rw [mapM_eq_error_iff]
  constructor
  · rintro ⟨_, ⟨entry, index⟩, _, hdiv, hbefore, hfault⟩
    obtain ⟨before, rest, rfl, rfl, hrest⟩ := List.zipIdx_eq_append_iff.1 hdiv
    obtain ⟨_, after, rfl, hentry, rfl⟩ := List.zipIdx_eq_cons_iff.1 hrest.symm
    obtain ⟨rfl, rfl⟩ := Prod.mk.inj hentry
    rw [Nat.zero_add] at hfault
    cases hread : before.zipIdx.mapM (d.parameterEntry location) with
    | ok earlier =>
        exact ⟨before, _, after, earlier, rfl, entries_eq_ok_iff.1 hread,
          entryFaulty_iff.2 hfault⟩
    | error other =>
        obtain ⟨_, x, _, hx, -, hother⟩ := mapM_eq_error_iff.1 hread
        obtain ⟨p, hp⟩ := hbefore x (by simp [hx])
        rw [hother] at hp
        cases hp
  · rintro ⟨before, entry, after, earlier, rfl, hbefore, hfault⟩
    refine ⟨before.zipIdx, (entry, before.length), after.zipIdx (before.length + 1), ?_, ?_,
      entryFaulty_iff.1 hfault⟩
    · rw [List.zipIdx_append, List.zipIdx_cons, Nat.zero_add]
    · exact exists_of_mapM_eq_ok (entries_eq_ok_iff.2 hbefore)

theorem ownParameters_eq_ok_iff :
    d.ownParameters location owner = .ok ps ↔ d.Lists owner ps := by
  constructor
  · intro h
    unfold ownParameters at h
    split at h
    · next ho =>
        cases h
        exact .absent ho
    · next ho =>
        cases h
        exact .null ho
    · next entries ho => exact .entries ho (entries_eq_ok_iff.1 h)
    · cases h
  · rintro (ho | ho | ⟨ho, hps⟩)
    · rw [ownParameters, ho]
    · rw [ownParameters, ho]
    · rw [ownParameters, ho]
      exact entries_eq_ok_iff.2 hps

theorem ownParameters_eq_error_iff :
    d.ownParameters location owner = .error fault ↔ d.ListFaulty location owner fault := by
  constructor
  · intro h
    unfold ownParameters at h
    split at h
    · cases h
    · cases h
    · next entries ho =>
        obtain ⟨before, entry, after, earlier, rfl, hbefore, hfault⟩ := entries_eq_error_iff.1 h
        exact .entry ho hbefore hfault
    · next listing hnull harray ho =>
        cases h
        exact .shapeless ho hnull harray
  · rintro (⟨ho, hnull, harray⟩ | ⟨ho, hbefore, hfault⟩)
    · rw [ownParameters, ho]
      split
      · next heq => cases heq
      · next heq => exact absurd (Option.some.inj heq) hnull
      · next heq => exact absurd (Option.some.inj heq) (harray _)
      · rfl
    · rw [ownParameters, ho]
      exact entries_eq_error_iff.2 ⟨_, _, _, _, rfl, hbefore, hfault⟩

theorem exists_listFaulty_iff :
    (∃ fault, d.ListFaulty location owner fault) ↔ d.Unlistable owner := by
  constructor
  · rintro ⟨fault, ⟨ho, hnull, harray⟩ | ⟨ho, -, hfault⟩⟩
    · exact .inl ⟨_, ho, hnull, harray⟩
    · exact .inr ⟨_, ho, _, by simp, _, _, hfault⟩
  · rintro (⟨listing, ho, hnull, harray⟩ | ⟨entries, ho, entry, hentry, _, _, hfault⟩)
    · exact ⟨_, .shapeless ho hnull harray⟩
    · -- an earlier entry may be the one that is reported
      cases hown : d.ownParameters location owner with
      | error fault => exact ⟨fault, ownParameters_eq_error_iff.1 hown⟩
      | ok ps =>
          rw [ownParameters, ho] at hown
          obtain ⟨index, hindex⟩ := List.getElem?_of_mem hentry
          obtain ⟨p, hp⟩ := exists_of_mapM_eq_ok hown _ (List.mk_mem_zipIdx_iff_getElem?.2 hindex)
          exact absurd (parameterEntry_eq_ok_iff.1 hp) hfault.not_declares

/-! ### Both lists -/

/-- A defect of the path item is reported before one of the operation. -/
theorem operationParameters_eq_error_iff {template method : String} {item operation : Fields} :
    d.operationParameters template item method operation = .error fault ↔
      d.ListFaulty ("#/paths/" ++ template) item fault ∨
      (∃ shared, d.Lists item shared) ∧
        d.ListFaulty s!"#/paths/{template}/{method}" operation fault := by
  rw [operationParameters, bind_eq_error_iff, ownParameters_eq_error_iff]
  simp only [bind_eq_error_iff, ownParameters_eq_error_iff, ownParameters_eq_ok_iff]
  refine or_congr_right ⟨?_, ?_⟩
  · rintro ⟨shared, hshared, hown | ⟨own, -, hmerge⟩⟩
    · exact ⟨⟨shared, hshared⟩, hown⟩
    · cases hmerge
  · rintro ⟨⟨shared, hshared⟩, hown⟩
    exact ⟨shared, hshared, .inl hown⟩

theorem exists_operationParameters_eq_error_iff {template method : String}
    {item operation : Fields} :
    (∃ fault, d.operationParameters template item method operation = .error fault) ↔
      d.Unlistable item ∨ d.Unlistable operation := by
  simp only [operationParameters_eq_error_iff, exists_or, exists_and_left, exists_listFaulty_iff]
  constructor
  · rintro (hitem | ⟨-, hoperation⟩)
    · exact .inl hitem
    · exact .inr hoperation
  · rintro (hitem | hoperation)
    · exact .inl hitem
    · -- unless the path item has a defect as well
      cases hshared : d.ownParameters ("#/paths/" ++ template) item with
      | ok shared => exact .inr ⟨⟨shared, ownParameters_eq_ok_iff.1 hshared⟩, hoperation⟩
      | error fault =>
          exact .inl (exists_listFaulty_iff.1 ⟨fault, ownParameters_eq_error_iff.1 hshared⟩)

/-- **The parameters of an operation** are those of its path item, with its own ones put over them:
in the order of the keys, each declaration in the place of the first one with its key.  A key is
there twice only if the path item has it twice, and what is declared only once is there.  There is
an outcome unless one of the lists is no list or has a faulty entry, and then the fault is that of
the first such defect, the path item's before the operation's. -/
theorem operationParameters_merged (d : Document) (template : String) (item : Fields)
    (method : String) (operation : Fields) :
    (∀ shared own, d.Lists item shared → d.Lists operation own →
      ∃ ps, d.operationParameters template item method operation = .ok ps ∧
        (∀ ps', Merged shared own ps' ↔ ps' = ps) ∧
        ((shared.map key).Nodup → (ps.map key).Nodup) ∧
        ∀ p ∈ shared ++ own, ((shared ++ own).map key).count p.key = 1 → p ∈ ps) ∧
    (∀ entry p, d.EntryDeclares entry p → ∃ node, d.StandsFor entry node ∧
      node.get? "name" = some (.text p.name) ∧
      ∀ place, p.place = some place ↔ node.get? "in" = some (.text place.keyword)) ∧
    ((∃ fault, d.operationParameters template item method operation = .error fault) ↔
      d.Unlistable item ∨ d.Unlistable operation) ∧
    ∀ fault, d.operationParameters template item method operation = .error fault ↔
      d.ListFaulty ("#/paths/" ++ template) item fault ∨
      (∃ shared, d.Lists item shared) ∧
        d.ListFaulty s!"#/paths/{template}/{method}" operation fault := by
  refine ⟨fun shared own hshared hown => ?_, fun entry p hp => hp.name_place,
    exists_operationParameters_eq_error_iff, fun fault => operationParameters_eq_error_iff⟩
  have hmerged := merged_merge shared own
  refine ⟨merge shared own, ?_, fun ps' => ⟨fun h => h.unique hmerged, fun h => h ▸ hmerged⟩,
    hmerged.nodup, fun p hp hone => hmerged.mem_of_count hp hone⟩
  rw [operationParameters, ownParameters_eq_ok_iff.2 hshared, ownParameters_eq_ok_iff.2 hown]
  rfl

/-! ### Two lists put together -/

/-- A declaration with what stands under `in`, and a type. -/
def declarationOf (name : String) (place : Fields) (tag : String) : Json :=
  .object (("name", .text name) :: place ++ [("type", .text tag)])

def declaredAs (name : String) (place : Option Place) (type : Primitive) : Parameter :=
  ⟨name, place, false, type, none⟩

def pageDeclaration : Json := declarationOf "page" [("in", .text "query")] "integer"

/-- A document that shares the number of a page. -/
def pagedDocument : Document := ⟨[], [], [("page", pageDeclaration)], []⟩

/-- The name twice at the query, the number of a page, and a session nowhere. -/
def pagedItem : Fields :=
  [("parameters", .array [declarationOf "name" [("in", .text "query")] "string",
    .object [("$ref", .text "#/parameters/page")],
    declarationOf "name" [("in", .text "query")] "number",
    declarationOf "session" [] "string"])]

/-- The name twice again, the session in a place that there is not, and an identifier. -/
def pagedOperation : Fields :=
  [("parameters", .array [declarationOf "name" [("in", .text "query")] "integer",
    declarationOf "session" [("in", .text "cookie")] "integer",
    declarationOf "id" [("in", .text "path")] "integer",
    declarationOf "name" [("in", .text "query")] "boolean"])]

theorem entryDeclares_declarationOf {name tag : String} {place : Fields} {p : Parameter}
    (href : reference? (declarationOf name place tag) = none)
    (hp : Parameter.ofNode "" (declarationOf name place tag) = .ok p) :
    pagedDocument.EntryDeclares (declarationOf name place tag) p :=
  ⟨_, parameterNode_eq_ok_iff.2 (.itself href), ofNode_eq_ok_of_location hp⟩

theorem standsFor_page :
    pagedDocument.StandsFor (.object [("$ref", .text "#/parameters/page")]) pageDeclaration := by
  have htarget : target? "parameters" "#/parameters/page" = some "page" := by decide
  exact .shared rfl htarget rfl

theorem lists_pagedItem : pagedDocument.Lists pagedItem
    [declaredAs "name" (some .query) .string, declaredAs "page" (some .query) .integer,
      declaredAs "name" (some .query) .number, declaredAs "session" none .string] :=
  .entries rfl (.cons (entryDeclares_declarationOf rfl rfl)
    (.cons ⟨_, parameterNode_eq_ok_iff.2 standsFor_page, fun _ => rfl⟩
    (.cons (entryDeclares_declarationOf rfl rfl)
    (.cons (entryDeclares_declarationOf rfl rfl) .nil))))

theorem lists_pagedOperation : pagedDocument.Lists pagedOperation
    [declaredAs "name" (some .query) .integer, declaredAs "session" none .integer,
      declaredAs "id" (some .path) .integer, declaredAs "name" (some .query) .boolean] :=
  .entries rfl (.cons (entryDeclares_declarationOf rfl rfl)
    (.cons (entryDeclares_declarationOf rfl rfl)
    (.cons (entryDeclares_declarationOf rfl rfl)
    (.cons (entryDeclares_declarationOf rfl rfl) .nil))))

/-- The last declarations of the operation stand where the first ones of the path item were; a name
that the path item declares once more stays behind.  A declaration without a name is a defect. -/
theorem operationParameters_paged :
    pagedDocument.operationParameters "/users" pagedItem "get" pagedOperation =
      .ok [declaredAs "name" (some .query) .boolean, declaredAs "page" (some .query) .integer,
        declaredAs "name" (some .query) .number, declaredAs "session" none .integer,
        declaredAs "id" (some .path) .integer] ∧
    pagedDocument.operationParameters "/users" pagedItem "get"
        [("parameters", .array [pageDeclaration, .object [("in", .text "query")]])] =
      .error (.malformedNode "#/paths//users/get/parameters/1/name" .string) := by
  constructor
  · obtain ⟨ps, hps, hmerged, -, -⟩ := (operationParameters_merged pagedDocument "/users" pagedItem
      "get" pagedOperation).1 _ _ lists_pagedItem lists_pagedOperation
    rw [hps, ← (hmerged _).1 (merged_merge _ _)]
    rfl
  · refine ((operationParameters_merged _ _ _ _ _).2.2.2 _).2 (.inr ⟨⟨_, lists_pagedItem⟩, ?_⟩)
    exact @ListFaulty.entry _ _ _ [pageDeclaration] [] _ _ _ rfl
      (.cons (entryDeclares_declarationOf rfl rfl) .nil)
      (.nameless (.itself rfl) fun name => by simp [Fields.get?_cons])

end Document

end ApiContract
