import Mathlib.Data.List.Induction
import Mathlib.Data.String.Basic
import ApiContract.Http.Query

/-
The table of a query string, name by name.

The pairs of a query string are written into the table one after the other.  A pair concerns one
name: its key is that name, or that name with brackets behind it.  What the table holds for a name
in the end is told by the pairs that concern it, by the last plain one among them and by those with
brackets that come after it.

Main definitions:

* `ApiContract.Http.Plain`, `Bracketed`, `Concerns` — the two kinds of pairs that concern a name;
* `ApiContract.Http.Gives` — what pairs in order give a name;
* `ApiContract.Http.Query.Sorted` — the names of a table are in order, and none stands twice.

Main results:

* `ApiContract.Http.Query.get?_write` — what one pair does to a name;
* `ApiContract.Http.Query.get?_foldl_of_not_plain` — what a run of pairs without a plain one does;
* `ApiContract.Http.Query.eq_of_get?_eq` — a table is told by what it holds for each name;
* `ApiContract.Http.Query.get?_ofText` — **the table holds what the pairs of its text give**.
-/

set_option autoImplicit false

namespace ApiContract.Http

/-! ### Pairs that concern a name -/

/-- A name with brackets at its end. -/
def EndsInBrackets (name : String) : Prop := ['[', ']'] <:+ name.toList

instance (name : String) : Decidable (EndsInBrackets name) :=
  inferInstanceAs (Decidable (['[', ']'] <:+ name.toList))

/-- The pair gives the name a text. -/
def Plain (name : String) (pair : String × String) : Prop :=
  pair.1 = name ∧ ¬ EndsInBrackets name

/-- The pair adds to the list of the name. -/
def Bracketed (name : String) (pair : String × String) : Prop := pair.1 = name ++ "[]"

/-- The pair has to do with the name. -/
def Concerns (name : String) (pair : String × String) : Prop := Plain name pair ∨ Bracketed name pair

instance (name : String) : DecidablePred (Plain name) := fun pair =>
  inferInstanceAs (Decidable (pair.1 = name ∧ ¬ EndsInBrackets name))

instance (name : String) : DecidablePred (Bracketed name) := fun pair =>
  inferInstanceAs (Decidable (pair.1 = name ++ "[]"))

instance (name : String) : DecidablePred (Concerns name) := fun pair =>
  inferInstanceAs (Decidable (Plain name pair ∨ Bracketed name pair))

/-- What pairs, one after the other, give a name. -/
inductive Gives (name : String) : List (String × String) → Option Json → Prop
  /-- No pair concerns the name. -/
  | nothing {pairs : List (String × String)} :
      (∀ pair ∈ pairs, ¬ Concerns name pair) → Gives name pairs none
  /-- The last pair that concerns the name is a plain one. -/
  | text {before after : List (String × String)} {value : String} :
      Plain name (name, value) → (∀ pair ∈ after, ¬ Concerns name pair) →
      Gives name (before ++ (name, value) :: after) (some (.text value))
  /-- There are pairs with brackets behind the last plain one, or without a plain one. -/
  | list {before after : List (String × String)} :
      (∀ pair, before.getLast? = some pair → Plain name pair) →
      (∀ pair ∈ after, ¬ Plain name pair) → (∃ pair ∈ after, Bracketed name pair) →
      Gives name (before ++ after)
        (some (.texts ((after.filter fun pair => Bracketed name pair).map Prod.snd)))

namespace Query

variable {name other key : String} {pair : String × String} {pairs : List (String × String)}
  {q q' : Query}

theorem collected?_eq_some_iff : collected? key = some name ↔ key = name ++ "[]" := by
  rw [← String.toList_inj, String.toList_append]
  unfold collected?
  constructor
  · split
    · next rest hrev =>
        intro h
        have htext := congrArg List.reverse hrev
        rw [← Option.some.inj h]
        simpa using htext
    · nofun
  · intro h
    rw [h]
    simp

theorem collected?_eq_none_iff : collected? key = none ↔ ¬ EndsInBrackets key := by
  rw [Option.eq_none_iff_forall_ne_some]
  simp only [ne_eq, collected?_eq_some_iff]
  constructor
  · rintro h ⟨base, hbase⟩
    refine h (String.ofList base) ?_
    rw [← String.toList_inj, ← hbase]
    simp
  · rintro h name rfl
    exact h ⟨name.toList, by simp⟩

theorem endsInBrackets_append (name : String) : EndsInBrackets (name ++ "[]") :=
  ⟨name.toList, by simp⟩

theorem not_bracketed_of_plain (h : Plain name pair) : ¬ Bracketed name pair := by
  intro hb
  have hself : name.length = (name ++ "[]").length := congrArg String.length (h.1.symm.trans hb)
  simp at hself

/-! ### Writing pairs -/

/-- The items of a list; there are none where there is no list. -/
def listed : Option Json → List Json
  | some (.array items) => items
  | _ => []

theorem get?_add (q : Query) (name other value : String) :
    (add q name value).get? other =
      if other = name then some (.array (listed (q.get? name) ++ [.text value]))
      else q.get? other := by
  unfold add
  cases hget : q.get? name with
  | none => rw [get?_set]; rfl
  | some found => cases found <;> rw [get?_set] <;> rfl

/-- **A pair does something to the name that it concerns, and nothing to any other.** -/
theorem get?_write (q : Query) (pair : String × String) (name : String) :
    (write q pair).get? name =
      if Bracketed name pair then some (.array (listed (q.get? name) ++ [.text pair.2]))
      else if Plain name pair then some (.text pair.2)
      else q.get? name := by
  unfold write
  cases hc : collected? pair.1 with
  | some base =>
      have hkey := collected?_eq_some_iff.1 hc
      have hplain : ¬ Plain name pair := fun h => h.2 (h.1 ▸ hkey ▸ endsInBrackets_append base)
      have hiff : Bracketed name pair ↔ name = base := by
        rw [Bracketed, hkey]
        exact ⟨fun h => by simpa using h.symm, fun h => by rw [h]⟩
      simp only [get?_add, hiff, if_neg hplain]
      by_cases hn : name = base
      · rw [if_pos hn, if_pos hn, hn]
      · rw [if_neg hn, if_neg hn]
  | none =>
      have hends := collected?_eq_none_iff.1 hc
      have hbracketed : ¬ Bracketed name pair := fun h => hends (h ▸ endsInBrackets_append name)
      have hiff : Plain name pair ↔ name = pair.1 :=
        ⟨fun h => h.1.symm, fun h => ⟨h.symm, h ▸ hends⟩⟩
      simp only [get?_set, hiff, if_neg hbracketed]

/-- **A run of pairs without a plain one adds the values of its pairs with brackets, in order.** -/
theorem get?_foldl_of_not_plain (h : ∀ pair ∈ pairs, ¬ Plain name pair) :
    (pairs.foldl write q).get? name =
      if ∃ pair ∈ pairs, Bracketed name pair then
        some (.array (listed (q.get? name) ++
          (pairs.filter fun pair => Bracketed name pair).map fun pair => .text pair.2))
      else q.get? name := by
  induction pairs generalizing q with
  | nil => simp
  | cons pair pairs ih =>
      rw [List.foldl_cons, ih fun later hlater => h later (List.mem_cons_of_mem _ hlater),
        get?_write]
      have hplain : ¬ Plain name pair := h pair List.mem_cons_self
      by_cases hb : Bracketed name pair
      · -- whether or not there are more of them, there is a list now
        have hsome : ∃ pair' ∈ pair :: pairs, Bracketed name pair' :=
          ⟨pair, List.mem_cons_self, hb⟩
        rw [if_pos hb, List.filter_cons_of_pos (by simpa using hb), if_pos hsome]
        split
        · simp [listed]
        · next hnone =>
            have hrest : (pairs.filter fun pair => Bracketed name pair) = [] := by
              rw [List.filter_eq_nil_iff]
              exact fun later hlater hb' => hnone ⟨later, hlater, of_decide_eq_true hb'⟩
            simp [listed, hrest]
      · have hiff : (∃ pair' ∈ pair :: pairs, Bracketed name pair') ↔
            ∃ pair' ∈ pairs, Bracketed name pair' := by simp [hb]
        simp only [if_neg hb, if_neg hplain, hiff]
        rw [List.filter_cons_of_neg (by simpa using hb)]

theorem get?_foldl_of_not_concerns (h : ∀ pair ∈ pairs, ¬ Concerns name pair) :
    (pairs.foldl write q).get? name = q.get? name := by
  rw [get?_foldl_of_not_plain fun pair hpair hplain => h pair hpair (.inl hplain), if_neg]
  rintro ⟨pair, hpair, hb⟩
  exact h pair hpair (.inr hb)

/-- The pairs of other names do nothing to a name. -/
theorem get?_foldl_filter (h : q.get? name = q'.get? name) :
    (pairs.foldl write q).get? name =
      ((pairs.filter fun pair => Concerns name pair).foldl write q').get? name := by
  induction pairs generalizing q q' with
  | nil => exact h
  | cons pair pairs ih =>
      rw [List.foldl_cons]
      by_cases hpair : Concerns name pair
      · rw [List.filter_cons_of_pos (by simpa using hpair), List.foldl_cons]
        exact ih (by rw [get?_write, get?_write, h])
      · rw [List.filter_cons_of_neg (by simpa using hpair)]
        obtain ⟨hplain, hb⟩ := not_or.1 hpair
        exact ih (by rw [get?_write, if_neg hb, if_neg hplain, h])

end Query

/-! ### What pairs give a name -/

namespace Gives

open Query

variable {name : String} {pairs : List (String × String)} {value : Option Json}

/-- A table into which pairs are written holds what they give. -/
theorem get?_foldl (h : Gives name pairs value) : (pairs.foldl write []).get? name = value := by
  cases h with
  | nothing hnone => exact get?_foldl_of_not_concerns hnone
  | @text before after value hplain hnone =>
      rw [List.foldl_append, List.foldl_cons, get?_foldl_of_not_concerns hnone, get?_write,
        if_neg (not_bracketed_of_plain hplain), if_pos hplain]
  | @list before after hlast hplain hsome =>
      -- where the list begins there is no list yet
      have hfresh : listed ((before.foldl write []).get? name) = [] := by
        cases before using List.reverseRecOn with
        | nil => rfl
        | append_singleton init last =>
            have hp : Plain name last := hlast last List.getLast?_concat
            rw [List.foldl_append, List.foldl_cons, List.foldl_nil, get?_write,
              if_neg (not_bracketed_of_plain hp), if_pos hp]
            rfl
      rw [List.foldl_append, get?_foldl_of_not_plain hplain, if_pos hsome, hfresh, List.nil_append,
        Json.texts, List.map_map]
      rfl

/-- Pairs are parted behind the last plain one. -/
theorem exists_split (name : String) (pairs : List (String × String)) :
    ∃ before after, pairs = before ++ after ∧
      (∀ pair, before.getLast? = some pair → Plain name pair) ∧
      ∀ pair ∈ after, ¬ Plain name pair := by
  induction pairs using List.reverseRecOn with
  | nil => exact ⟨[], [], rfl, nofun, nofun⟩
  | append_singleton pairs last ih =>
      by_cases hp : Plain name last
      · refine ⟨pairs ++ [last], [], (List.append_nil _).symm, fun pair hpair => ?_, nofun⟩
        rw [List.getLast?_concat] at hpair
        exact Option.some.inj hpair ▸ hp
      · obtain ⟨before, after, rfl, hlast, hafter⟩ := ih
        refine ⟨before, after ++ [last], List.append_assoc .., hlast, fun pair hpair => ?_⟩
        rcases List.mem_append.1 hpair with hmem | hmem
        · exact hafter pair hmem
        · exact List.mem_singleton.1 hmem ▸ hp

/-- Any pairs give a name something, if only nothing. -/
theorem exists_gives (name : String) (pairs : List (String × String)) :
    ∃ value, Gives name pairs value := by
  obtain ⟨before, after, rfl, hlast, hafter⟩ := exists_split name pairs
  by_cases hsome : ∃ pair ∈ after, Bracketed name pair
  · exact ⟨_, .list hlast hafter hsome⟩
  · have hnone : ∀ pair ∈ after, ¬ Concerns name pair :=
      fun pair hpair hc => hc.elim (hafter pair hpair) fun hb => hsome ⟨pair, hpair, hb⟩
    cases before using List.reverseRecOn with
    | nil => exact ⟨none, .nothing hnone⟩
    | append_singleton init last =>
        obtain ⟨key, value⟩ := last
        have hp : Plain name (key, value) := hlast _ List.getLast?_concat
        obtain rfl : key = name := hp.1
        rw [List.append_assoc, List.singleton_append]
        exact ⟨_, .text hp hnone⟩

end Gives

namespace Query

variable {name : String} {q q' : Query}

/-! ### Tables in order -/

/-- The names stand in order, each of them once. -/
def Sorted (q : Query) : Prop := q.Pairwise fun entry entry' => entry.1 < entry'.1

theorem mem_set {value : Json} {entry : String × Json}
    (h : entry ∈ Query.set q name value) : entry = (name, value) ∨ entry ∈ q := by
  induction q with
  | nil => exact .inl (by simpa [set] using h)
  | cons first rest ih =>
      obtain ⟨n, v⟩ := first
      unfold set at h
      split at h
      · exact (List.mem_cons.1 h).imp_right (List.mem_cons_of_mem _)
      · split at h
        · exact List.mem_cons.1 h
        · rcases List.mem_cons.1 h with rfl | h
          · exact .inr List.mem_cons_self
          · exact (ih h).imp_right (List.mem_cons_of_mem _)

theorem Sorted.set (h : Sorted q) (name : String) (value : Json) :
    Sorted (Query.set q name value) := by
  induction q with
  | nil => exact List.pairwise_singleton _ _
  | cons first rest ih =>
      obtain ⟨n, v⟩ := first
      obtain ⟨hfirst, hrest⟩ := List.pairwise_cons.1 h
      unfold Query.set
      split
      · next heq =>
          subst heq
          exact List.pairwise_cons.2 ⟨hfirst, hrest⟩
      · next hne =>
          split
          · next hlt =>
              refine List.pairwise_cons.2 ⟨fun entry hentry => ?_, h⟩
              rcases List.mem_cons.1 hentry with rfl | hentry
              · exact hlt
              · exact lt_trans hlt (hfirst entry hentry)
          · next hge =>
              refine List.pairwise_cons.2 ⟨fun entry hentry => ?_, ih hrest⟩
              rcases mem_set hentry with rfl | hentry
              · exact lt_of_le_of_ne (not_lt.1 hge) (Ne.symm hne)
              · exact hfirst entry hentry

theorem Sorted.write (h : Sorted q) (pair : String × String) : Sorted (write q pair) := by
  unfold Query.write add
  split
  · split <;> exact h.set _ _
  · exact h.set _ _

theorem Sorted.foldl_write (h : Sorted q) (pairs : List (String × String)) :
    Sorted (pairs.foldl Query.write q) := by
  induction pairs generalizing q with
  | nil => exact h
  | cons pair pairs ih => exact ih (h.write pair)

theorem Sorted.get?_eq_some_iff_mem (h : Sorted q) {value : Json} :
    q.get? name = some value ↔ (name, value) ∈ q := by
  induction q with
  | nil => simp [get?]
  | cons first rest ih =>
      obtain ⟨n, v⟩ := first
      obtain ⟨hfirst, hrest⟩ := List.pairwise_cons.1 h
      rw [get?_cons, List.mem_cons, ← ih hrest, Prod.mk.injEq]
      by_cases hn : name = n
      · subst hn
        rw [if_pos rfl]
        constructor
        · exact fun heq => .inl ⟨rfl, (Option.some.inj heq).symm⟩
        · rintro (⟨-, rfl⟩ | hlater)
          · rfl
          · exact absurd (hfirst _ ((ih hrest).1 hlater)) (lt_irrefl name)
      · rw [if_neg hn]
        exact ⟨.inr, fun h => h.resolve_left fun heq => hn heq.1⟩

/-- **Two tables that hold the same for each name are the same.** -/
theorem eq_of_get?_eq (h : Sorted q) (h' : Sorted q') (heq : ∀ name, q.get? name = q'.get? name) :
    q = q' := by
  have hnodup : ∀ {q : Query}, Sorted q → q.Nodup := fun hq =>
    hq.imp fun hlt heq => absurd (heq ▸ hlt) (lt_irrefl _)
  have hperm : q.Perm q' := by
    refine (List.perm_ext_iff_of_nodup (hnodup h) (hnodup h')).2 fun entry => ?_
    rw [← h.get?_eq_some_iff_mem, ← h'.get?_eq_some_iff_mem, heq]
  exact hperm.eq_of_pairwise (fun _ _ _ _ hlt hlt' => absurd hlt' (lt_asymm hlt)) h h'

/-! ### Query strings -/

/-- **The table of a query string holds for each name what the pairs of the text give it**: nothing
when no pair concerns the name, the text of the last plain pair when no pair with brackets follows
it, and otherwise the values of the pairs with brackets behind the last plain one.  Pairs of other
names do not matter, and each name stands in the table once. -/
theorem get?_ofText (query name : String) :
    (∀ value, (ofText query).get? name = value ↔ Gives name (Form.pairs query) value) ∧
      (ofText query).get? name =
        (((Form.pairs query).filter fun pair => Concerns name pair).foldl write []).get? name ∧
      Sorted (ofText query) := by
  refine ⟨fun value => ?_, get?_foldl_filter rfl, Sorted.foldl_write List.Pairwise.nil _⟩
  constructor
  · rintro rfl
    obtain ⟨value, hgives⟩ := Gives.exists_gives name (Form.pairs query)
    have hvalue : (ofText query).get? name = value := hgives.get?_foldl
    exact hvalue ▸ hgives
  · exact Gives.get?_foldl

example : (listed ((ofText "a[]=1&a=2&b=4&a[]=3&a[]=").get? "a")).map Json.text? =
    [some "3", some ""] := by
  decide +kernel

end Query

end ApiContract.Http
