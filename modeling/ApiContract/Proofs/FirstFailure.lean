import Mathlib.Data.List.Forall2
import ApiContract.Verdict

/-
Runs of checks: the first failure counts.

Validation is made of checks that are carried out one after the other and stop at the first that
fails.  What a run says is told here once, by a division of the list: everything before some entry
passes, and that entry fails.

Main definitions:

* `ApiContract.FirstFailure.Paired` — two runs fail alike, or give related values;
* `ApiContract.FirstFailure.Linked` — the same with failures that may differ;
* `ApiContract.FirstFailure.Upheld` — two runs are the same, or the first one has failed in a way that
  is given up.

Main results:

* `ApiContract.FirstFailure.bind_eq_ok_iff`, `bind_eq_error_iff` — two steps in a row;
* `ApiContract.FirstFailure.forM_eq_ok_iff`, `forM_eq_error_iff` — **a run passes when every entry
  passes, and fails as its first failing entry does**;
* `ApiContract.FirstFailure.mapM_eq_ok_iff`, `mapM_eq_error_iff` — the same for a run that collects
  values;
* `ApiContract.FirstFailure.Paired.bind`, `Paired.mapM` — runs are paired when their steps are;
* `ApiContract.FirstFailure.Linked.bind`, `linked_forM`, `linked_forM_of_perm` — runs are linked when
  their steps are, in any order where failures need not agree;
* `ApiContract.FirstFailure.Upheld.bind`, `Upheld.forM`, `Upheld.mapM` — runs are upheld when their
  steps are.
-/

set_option autoImplicit false

namespace ApiContract

/-! ### Checks that only refuse -/

namespace Check

variable {α : Type}

@[simp] theorem ofRefusal_eq_ok_iff {x : Except Refusal α} {a : α} :
    ofRefusal x = .ok a ↔ x = .ok a := by
  cases x <;> simp [ofRefusal]

@[simp] theorem ofRefusal_eq_error_iff {x : Except Refusal α} {r : Rejection} :
    ofRefusal x = .error r ↔ ∃ refusal, x = .error refusal ∧ .refused refusal = r := by
  cases x <;> simp [ofRefusal]

end Check

namespace FirstFailure

variable {ε α β : Type}

/-! ### Two steps -/

theorem bind_eq_ok_iff {x : Except ε α} {f : α → Except ε β} {b : β} :
    x >>= f = .ok b ↔ ∃ a, x = .ok a ∧ f a = .ok b := by
  cases x <;> simp [bind, Except.bind]

theorem bind_eq_error_iff {x : Except ε α} {f : α → Except ε β} {e : ε} :
    x >>= f = .error e ↔ x = .error e ∨ ∃ a, x = .ok a ∧ f a = .error e := by
  cases x <;> simp [bind, Except.bind]

/-! ### A run -/

/-- A run passes when every entry passes. -/
theorem forM_eq_ok_iff {check : α → Except ε Unit} {entries : List α} :
    forM entries check = .ok () ↔ ∀ x ∈ entries, check x = .ok () := by
  induction entries with
  | nil => simp [pure, Except.pure]
  | cons x entries ih =>
      rw [List.forM_cons, bind_eq_ok_iff, List.forall_mem_cons, ← ih]
      exact ⟨fun ⟨_, hx, h⟩ => ⟨hx, h⟩, fun ⟨hx, h⟩ => ⟨(), hx, h⟩⟩

/-- **A run fails as its first failing entry does.** -/
theorem forM_eq_error_iff {check : α → Except ε Unit} {entries : List α} {e : ε} :
    forM entries check = .error e ↔
      ∃ before x after, entries = before ++ x :: after ∧ (∀ y ∈ before, check y = .ok ()) ∧
        check x = .error e := by
  constructor
  · intro h
    induction entries with
    | nil => cases h
    | cons x entries ih =>
        rw [List.forM_cons, bind_eq_error_iff] at h
        rcases h with hx | ⟨⟨⟩, hx, h⟩
        · exact ⟨[], x, entries, rfl, by simp, hx⟩
        · obtain ⟨before, y, after, rfl, hbefore, hy⟩ := ih h
          exact ⟨x :: before, y, after, rfl, by simpa using ⟨hx, hbefore⟩, hy⟩
  · rintro ⟨before, x, after, rfl, hbefore, hx⟩
    rw [List.forM_append, forM_eq_ok_iff.2 hbefore, List.forM_cons, hx]
    rfl

/-- A run that collects values passes when every entry gives its value. -/
theorem mapM_eq_ok_iff {read : α → Except ε β} {entries : List α} {values : List β} :
    entries.mapM read = .ok values ↔ List.Forall₂ (fun x b => read x = .ok b) entries values := by
  induction entries generalizing values with
  | nil => simp [pure, Except.pure, eq_comm]
  | cons x entries ih =>
      rw [List.mapM_cons, bind_eq_ok_iff, List.forall₂_cons_left_iff]
      refine exists_congr fun b => ?_
      simp only [bind_eq_ok_iff, ih]
      constructor
      · rintro ⟨hx, rest, hrest, h⟩
        exact ⟨rest, hx, hrest, (Except.ok.inj h).symm⟩
      · rintro ⟨rest, hx, hrest, rfl⟩
        exact ⟨hx, rest, hrest, rfl⟩

/-- A run that collects values passes only when every entry gives one. -/
theorem exists_of_mapM_eq_ok {read : α → Except ε β} {entries : List α} {values : List β}
    (h : entries.mapM read = .ok values) : ∀ x ∈ entries, ∃ b, read x = .ok b := by
  have hall := mapM_eq_ok_iff.1 h
  induction hall with
  | nil => simp
  | @cons x b entries values hx hrest ih =>
      exact List.forall_mem_cons.2 ⟨⟨b, hx⟩, ih (mapM_eq_ok_iff.2 hrest)⟩

/-- A run that collects values fails as its first failing entry does. -/
theorem mapM_eq_error_iff {read : α → Except ε β} {entries : List α} {e : ε} :
    entries.mapM read = .error e ↔
      ∃ before x after, entries = before ++ x :: after ∧ (∀ y ∈ before, ∃ b, read y = .ok b) ∧
        read x = .error e := by
  induction entries with
  | nil => simp [pure, Except.pure]
  | cons x entries ih =>
      rw [List.mapM_cons, bind_eq_error_iff]
      simp only [bind_eq_error_iff, ih]
      constructor
      · rintro (hx | ⟨b, hx, ⟨before, y, after, rfl, hbefore, hy⟩ | ⟨bs, -, h⟩⟩)
        · exact ⟨[], x, entries, rfl, by simp, hx⟩
        · exact ⟨x :: before, y, after, rfl, by simpa using ⟨⟨b, hx⟩, hbefore⟩, hy⟩
        · cases h
      · rintro ⟨before, y, after, h, hbefore, hy⟩
        cases before with
        | nil =>
            obtain ⟨rfl, rfl⟩ := List.cons.inj h
            exact .inl hy
        | cons z before =>
            obtain ⟨rfl, rfl⟩ := List.cons.inj h
            obtain ⟨b, hb⟩ := hbefore x (by simp)
            exact .inr ⟨b, hb, .inl
              ⟨before, y, after, rfl, fun w hw => hbefore w (by simp [hw]), hy⟩⟩

/-! ### Two runs side by side -/

/-- Two runs fail alike, or give values that are related. -/
inductive Paired (R : α → β → Prop) : Except ε α → Except ε β → Prop
  | ok {a : α} {b : β} : R a b → Paired R (.ok a) (.ok b)
  | error (e : ε) : Paired R (.error e) (.error e)

namespace Paired

variable {γ δ : Type} {R : α → β → Prop} {S : γ → δ → Prop}

theorem refl {R : α → α → Prop} (h : ∀ a, R a a) (x : Except ε α) : Paired R x x := by
  cases x with
  | ok a => exact .ok (h a)
  | error e => exact .error e

theorem ok_or_error {x : Except ε α} {y : Except ε β} (h : Paired R x y) :
    (∃ a b, x = .ok a ∧ y = .ok b ∧ R a b) ∨ ∃ e, x = .error e ∧ y = .error e := by
  cases h with
  | @ok a b hab => exact .inl ⟨a, b, rfl, rfl, hab⟩
  | error e => exact .inr ⟨e, rfl, rfl⟩

theorem mono {R' : α → β → Prop} {x : Except ε α} {y : Except ε β} (h : Paired R x y)
    (hR : ∀ a b, R a b → R' a b) : Paired R' x y := by
  cases h with
  | ok hab => exact .ok (hR _ _ hab)
  | error e => exact .error e

theorem bind {x : Except ε α} {y : Except ε β} {f : α → Except ε γ} {g : β → Except ε δ}
    (h : Paired R x y) (hf : ∀ a b, R a b → Paired S (f a) (g b)) :
    Paired S (x >>= f) (y >>= g) := by
  cases h with
  | ok hab => exact hf _ _ hab
  | error e => exact .error e

theorem mapM {read : α → Except ε γ} {read' : β → Except ε δ} {entries : List α}
    {entries' : List β}
    (h : List.Forall₂ (fun x y => Paired S (read x) (read' y)) entries entries') :
    Paired (List.Forall₂ S) (entries.mapM read) (entries'.mapM read') := by
  induction h with
  | nil => exact .ok .nil
  | @cons x y entries entries' hxy _ ih =>
      rw [List.mapM_cons, List.mapM_cons]
      refine hxy.bind fun a b hab => ih.bind fun as bs habs => ?_
      exact .ok (.cons hab habs)

theorem ofFault {x : Except Fault α} {y : Except Fault β} (h : Paired R x y) :
    Paired R (Check.ofFault x) (Check.ofFault y) := by
  cases h with
  | ok hab => exact .ok hab
  | error fault => exact .error _

end Paired

/-! ### Failures that may differ -/

/-- Two runs fail with failures that are related, or give values that are. -/
inductive Linked (E : ε → ε → Prop) (R : α → β → Prop) : Except ε α → Except ε β → Prop
  | ok {a : α} {b : β} : R a b → Linked E R (.ok a) (.ok b)
  | error {e e' : ε} : E e e' → Linked E R (.error e) (.error e')

/-- Two checks pass, or fail with failures that are related. -/
abbrev LinkedChecks (E : ε → ε → Prop) : Except ε Unit → Except ε Unit → Prop :=
  Linked E fun _ _ => True

variable {E : ε → ε → Prop}

theorem Paired.linked {R : α → β → Prop} {x : Except ε α} {y : Except ε β} (h : Paired R x y)
    (hE : ∀ e, E e e) : Linked E R x y := by
  cases h with
  | ok hab => exact .ok hab
  | error e => exact .error (hE e)

theorem linkedChecks_eq_iff {x y : Except ε Unit} : LinkedChecks Eq x y ↔ x = y := by
  constructor
  · rintro (_ | rfl) <;> rfl
  · rintro rfl
    cases x with
    | ok _ => exact .ok trivial
    | error e => exact .error rfl

namespace Linked

variable {γ δ : Type} {R : α → β → Prop} {S : γ → δ → Prop}

theorem bind {x : Except ε α} {y : Except ε β} {f : α → Except ε γ} {g : β → Except ε δ}
    (h : Linked E R x y) (hf : ∀ a b, R a b → Linked E S (f a) (g b)) :
    Linked E S (x >>= f) (y >>= g) := by
  cases h with
  | ok hab => exact hf _ _ hab
  | error he => exact .error he

theorem ok_iff {x y : Except ε Unit} (h : LinkedChecks E x y) : x = .ok () ↔ y = .ok () := by
  cases h with
  | ok => exact Iff.rfl
  | error => simp

/-- Where any two failures are related, it only counts whether both runs pass. -/
theorem of_ok_iff (hE : ∀ e e', E e e') {x y : Except ε Unit} (h : x = .ok () ↔ y = .ok ()) :
    LinkedChecks E x y := by
  rcases x with e | ⟨⟨⟩⟩ <;> rcases y with e' | ⟨⟨⟩⟩
  · exact .error (hE e e')
  · simp at h
  · simp at h
  · exact .ok trivial

end Linked

theorem linked_forM {check : α → Except ε Unit} {check' : β → Except ε Unit} {entries : List α}
    {entries' : List β}
    (h : List.Forall₂ (fun x y => LinkedChecks E (check x) (check' y)) entries entries') :
    LinkedChecks E (forM entries check) (forM entries' check') := by
  induction h with
  | nil => exact .ok trivial
  | @cons x y entries entries' hxy _ ih =>
      rw [List.forM_cons, List.forM_cons]
      exact hxy.bind fun _ _ _ => ih

/-- The order of a run decides only which failure counts. -/
theorem linked_forM_of_perm (hE : ∀ e e', E e e') {check : α → Except ε Unit}
    {entries entries' : List α} (h : entries.Perm entries') :
    LinkedChecks E (forM entries check) (forM entries' check) := by
  refine Linked.of_ok_iff hE ?_
  simp only [forM_eq_ok_iff, h.mem_iff]

/-! ### Failures that are given up -/

/-- The second run is the same as the first, unless the first one fails in a way that is given up. -/
def Upheld (lost : ε → Prop) (x y : Except ε α) : Prop := y = x ∨ ∃ e, lost e ∧ x = .error e

namespace Upheld

variable {γ : Type} {lost : ε → Prop}

theorem refl (x : Except ε α) : Upheld lost x x := .inl rfl

/-- What does not fail in such a way is upheld. -/
theorem eq_of_not_lost {x y : Except ε α} (h : Upheld lost x y)
    (hx : ∀ e, lost e → x ≠ .error e) : y = x :=
  h.resolve_right fun ⟨e, he, heq⟩ => hx e he heq

theorem bind {x y : Except ε α} {f g : α → Except ε β} (h : Upheld lost x y)
    (hf : ∀ a, Upheld lost (f a) (g a)) : Upheld lost (x >>= f) (y >>= g) := by
  rcases h with rfl | ⟨e, he, rfl⟩
  · cases y with
    | ok a => exact hf a
    | error e => exact .inl rfl
  · -- the first run is over, whatever the second one goes on to do
    exact .inr ⟨e, he, rfl⟩

theorem forM {check : α → Except ε Unit} {check' : β → Except ε Unit} {entries : List α}
    {entries' : List β}
    (h : List.Forall₂ (fun x y => Upheld lost (check x) (check' y)) entries entries') :
    Upheld lost (forM entries check) (forM entries' check') := by
  induction h with
  | nil => exact .refl _
  | @cons x y entries entries' hxy _ ih =>
      rw [List.forM_cons, List.forM_cons]
      exact hxy.bind fun _ => ih

theorem mapM {read : α → Except ε γ} {read' : β → Except ε γ} {entries : List α}
    {entries' : List β}
    (h : List.Forall₂ (fun x y => Upheld lost (read x) (read' y)) entries entries') :
    Upheld lost (entries.mapM read) (entries'.mapM read') := by
  induction h with
  | nil => exact .refl _
  | @cons x y entries entries' hxy _ ih =>
      rw [List.mapM_cons, List.mapM_cons]
      exact hxy.bind fun _ => ih.bind fun _ => .refl _

end Upheld

end FirstFailure

end ApiContract
