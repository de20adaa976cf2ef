import ApiContract.Proofs.Routing.Selection
import ApiContract.Settings.Basic

/-
Mount points, and request paths seen from them.

A request path is the mount point, or it lies below it, or outside.  The mount point ends in no slash,
so trailing slashes never lead from one of the three to another; and since they are taken off before
a path is dispatched, it does not matter whether they are put before or after the mount point is
taken off.

Main definitions:

* `ApiContract.Text.slashes` — a text of slashes;
* `ApiContract.Settings.Outside` — a path is neither the mount point nor below it;
* `ApiContract.Settings.unmounted` — the settings without a mount point;
* `ApiContract.Settings.SlashVariant` — two parts of a mount point that differ in slashes at their
  ends.

Main results:

* `ApiContract.Settings.at_or_below_or_outside` — **the three places of a path**;
* `ApiContract.Settings.relative_below`, `normalPath_relative_base`, `Outside.relative_eq` — what is
  seen of a path at each of them;
* `ApiContract.Settings.normalPath_relative_append_slashes` — **trailing slashes are taken off at
  every place**.
-/

set_option autoImplicit false

namespace ApiContract

/-! ### Slashes at the end -/

/-- A text of slashes. -/
def Text.slashes (k : Nat) : String := String.ofList (List.replicate k '/')

@[simp] theorem Text.toList_slashes (k : Nat) : (slashes k).toList = List.replicate k '/' := by
  rw [slashes, String.toList_ofList]

open Text Routing

theorem Routing.normalPath_append_slashes (path : String) (k : Nat) :
    normalPath (path ++ slashes k) = normalPath path := by
  have htrim : trimEndWhere (· = '/') (path ++ slashes k).toList =
      trimEndWhere (· = '/') path.toList := by
    rw [String.toList_append, toList_slashes]
    exact trimEndWhere_append (fun c hc => decide_eq_true (List.eq_of_mem_replicate hc)) _
  rw [normalPath, htrim, normalPath]

theorem Routing.normalPath_slashes (k : Nat) : normalPath (slashes k) = "/" := by
  have h := normalPath_append_slashes "" k
  rwa [String.empty_append] at h

namespace Settings

/-! ### The mount point -/

theorem mountPart_ends (part : String) :
    mountPart part = [] ∨
      (mountPart part).head? = some '/' ∧ (mountPart part).getLast? ≠ some '/' := by
  have hlast : (trimWhere (· = '/') part.toList).getLast? ≠ some '/' :=
    getLast?_trimEndWhere_ne (decide_eq_true rfl) _
  unfold mountPart
  cases htrim : trimWhere (· = '/') part.toList with
  | nil => exact .inl rfl
  | cons c cs =>
      rw [htrim] at hlast
      exact .inr ⟨rfl, by rwa [List.getLast?_cons_cons]⟩

variable {s s' : Settings} {path below : String}

@[simp] theorem toList_base (s : Settings) : s.base.toList = s.baseChars := by
  rw [base, String.toList_ofList]

/-- There is no mount point, or it begins with a slash; it never ends in one. -/
theorem base_ends (s : Settings) :
    (s.base = "" ∨ s.base.toList.head? = some '/') ∧ s.base.toList.getLast? ≠ some '/' := by
  rw [← String.toList_eq_nil_iff, toList_base, baseChars]
  rcases mountPart_ends s.pathPrefix with hp | ⟨hp, hp'⟩ <;>
    rcases mountPart_ends s.version with hv | ⟨hv, hv'⟩
  · simp [hp, hv]
  · simp [hp, hv, hv']
  · simp [hp, hp', hv]
  · simp [hp, hp', hv']

/-! ### The three places of a path -/

/-- The path is neither the mount point nor below it. -/
structure Outside (s : Settings) (path : String) : Prop where
  ne_base : path ≠ s.base
  ne_below : ∀ below, below.toList.head? = some '/' → path ≠ s.base ++ below

theorem at_or_below_or_outside (s : Settings) (path : String) :
    path = s.base ∨ (∃ below, below.toList.head? = some '/' ∧ path = s.base ++ below) ∨
      s.Outside path := by
  by_cases hbase : path = s.base
  · exact .inl hbase
  · by_cases hbelow : ∃ below, below.toList.head? = some '/' ∧ path = s.base ++ below
    · exact .inr (.inl hbelow)
    · exact .inr (.inr ⟨hbase, fun below hslash heq => hbelow ⟨below, hslash, heq⟩⟩)

/-- Below the mount point a path is seen from there. -/
theorem relative_below (hslash : below.toList.head? = some '/') :
    s.relative (s.base ++ below) = below := by
  obtain ⟨rest, hrest⟩ := List.head?_eq_some_iff.1 hslash
  unfold relative
  split
  · next hnone => rw [base, hnone, String.ofList_nil, String.empty_append]
  · have hdrop : dropPrefix s.baseChars (s.base ++ below).toList = some ('/' :: rest) :=
      dropPrefix_eq_some_iff.2 (by rw [String.toList_append, toList_base, hrest])
    simp only [hdrop]
    rw [← hrest, String.ofList_toList]

/-- The mount point is the root of what is below it. -/
theorem normalPath_relative_base (s : Settings) : normalPath (s.relative s.base) = "/" := by
  unfold relative
  split
  · next hnone =>
      rw [base, hnone]
      rfl
  · have hdrop : dropPrefix s.baseChars s.base.toList = some [] :=
      dropPrefix_eq_some_iff.2 (by rw [toList_base, List.append_nil])
    rw [hdrop]
    exact normalPath_slashes 1

theorem Outside.relative_eq (h : s.Outside path) : s.relative path = path := by
  unfold relative
  split
  · rfl
  · split
    · next hdrop =>
        refine absurd (String.toList_inj.1 ?_) h.ne_base
        rw [dropPrefix_eq_some_iff.1 hdrop, List.append_nil, toList_base]
    · next rest hdrop =>
        refine absurd (String.toList_inj.1 ?_) (h.ne_below (String.ofList ('/' :: rest)) ?_)
        · rw [dropPrefix_eq_some_iff.1 hdrop, String.toList_append, toList_base,
            String.toList_ofList]
        · rw [String.toList_ofList]
          rfl
    · rfl

/-- Slashes at its end do not bring a path to the mount point. -/
theorem Outside.append_slashes (h : s.Outside path) (k : Nat) : s.Outside (path ++ slashes k) := by
  -- a path with slashes behind it is no beginning of the mount point, which ends in no slash
  have hstart : ∀ m, s.base ≠ path ++ slashes m := by
    intro m heq
    cases m with
    | zero => exact h.ne_base (by rw [heq, slashes, List.replicate_zero, String.ofList_nil,
        String.append_empty])
    | succ m =>
        refine (base_ends s).2 ?_
        rw [heq, String.toList_append, toList_slashes, List.replicate_succ', ← List.append_assoc,
          List.getLast?_concat]
  refine ⟨fun heq => hstart k heq.symm, fun below hslash heq => ?_⟩
  have htext : path.toList ++ List.replicate k '/' = s.base.toList ++ below.toList := by
    rw [← toList_slashes, ← String.toList_append, heq, String.toList_append]
  rcases List.append_eq_append_iff.1 htext with ⟨middle, hbase, hslashes⟩ | ⟨middle, hpath, hbelow⟩
  · -- the path ends within the mount point
    obtain ⟨-, hmiddle, -⟩ := List.append_eq_replicate_iff.1 hslashes.symm
    refine hstart middle.length (String.toList_inj.1 ?_)
    rw [hbase, String.toList_append, toList_slashes, ← hmiddle]
  · cases middle with
    | nil => exact h.ne_base (String.toList_inj.1 (by rw [hpath, List.append_nil]))
    | cons c rest =>
        rw [hbelow, List.cons_append, List.head?_cons] at hslash
        refine h.ne_below (String.ofList (c :: rest)) (by rw [String.toList_ofList]; exact hslash) ?_
        exact String.toList_inj.1 (by rw [hpath, String.toList_append, String.toList_ofList])

/-- **Trailing slashes are taken off wherever a path lies.** -/
theorem normalPath_relative_append_slashes (s : Settings) (path : String) (k : Nat) :
    normalPath (s.relative (path ++ slashes k)) = normalPath (s.relative path) := by
  rcases at_or_below_or_outside s path with rfl | ⟨below, hslash, rfl⟩ | h
  · cases k with
    | zero => rw [slashes, List.replicate_zero, String.ofList_nil, String.append_empty]
    | succ k =>
        have hslash : (slashes (k + 1)).toList.head? = some '/' := by
          rw [toList_slashes, List.replicate_succ, List.head?_cons]
        rw [relative_below hslash, normalPath_slashes, normalPath_relative_base]
  · have hslash' : (below ++ slashes k).toList.head? = some '/' := by
      obtain ⟨rest, hrest⟩ := List.head?_eq_some_iff.1 hslash
      rw [String.toList_append, hrest, List.cons_append, List.head?_cons]
    rw [String.append_assoc, relative_below hslash', relative_below hslash,
      normalPath_append_slashes]
  · rw [(h.append_slashes k).relative_eq, h.relative_eq, normalPath_append_slashes]

/-! ### Settings with the same mount point -/

/-- The settings without a mount point. -/
def unmounted (s : Settings) : Settings := { s with pathPrefix := "", version := "" }

/-- Without a mount point every path is seen as it is. -/
@[simp] theorem relative_unmounted (s : Settings) (path : String) :
    s.unmounted.relative path = path :=
  if_pos rfl

/-- The second part is the first with slashes added or removed at its ends. -/
def SlashVariant (part part' : String) : Prop :=
  ∃ (core : List Char) (i j i' j' : Nat),
    part.toList = List.replicate i '/' ++ (core ++ List.replicate j '/') ∧
      part'.toList = List.replicate i' '/' ++ (core ++ List.replicate j' '/')

theorem SlashVariant.mountPart_eq {part part' : String} (h : SlashVariant part part') :
    mountPart part' = mountPart part := by
  obtain ⟨core, i, j, i', j', hpart, hpart'⟩ := h
  have hslash : ∀ (n : Nat), ∀ c ∈ List.replicate n '/', decide (c = '/') = true :=
    fun _ _ hc => decide_eq_true (List.eq_of_mem_replicate hc)
  have htrim : trimWhere (· = '/') part'.toList = trimWhere (· = '/') part.toList := by
    rw [hpart, hpart', trimWhere_append (hslash i') (hslash j'),
      trimWhere_append (hslash i) (hslash j)]
  rw [mountPart, htrim, mountPart]

/-- The mount point is all that a path is seen by. -/
theorem relative_eq_of_baseChars (h : s'.baseChars = s.baseChars) (path : String) :
    s'.relative path = s.relative path := by
  rw [relative, h, relative]

end Settings

end ApiContract
