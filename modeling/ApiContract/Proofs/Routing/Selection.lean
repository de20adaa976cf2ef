import Mathlib.Data.List.DropRight
import ApiContract.Routing.Rule
import ApiContract.Routing.Template

/-
Which templates the rule of a path selects, told by the segments of both.

A rule is carried out by an anchored pattern on the text of a template.  Path and template are
better known by their segments: when they agree in the first one, the rule asks no more than that
both end there or both go on.  The path comes without trailing slashes, the template with those that
it was written with.

Main results:

* `ApiContract.Routing.Rule.selects_nested_iff`, `selects_flat_iff`, `selects_root_iff` — a rule
  without its pattern;
* `ApiContract.Routing.exists_segments_normalPath` — trailing slashes are empty segments at the end;
* `ApiContract.Routing.selects_iff_of_segments` — **templates with the first segment of the path**.
-/

set_option autoImplicit false

namespace ApiContract.Routing

open Text

variable {path template resource : String} {further further' : List String}

/-! ### Rules without patterns -/

namespace Rule

variable {rule : Rule}

theorem ofPath?_eq_some_iff :
    ofPath? path = some rule ↔
      ofPath path = rule ∧ rule.resource.utf8ByteSize < resourceLimit := by
  constructor
  · intro h
    obtain ⟨hsize, hsome⟩ := Option.ite_none_right_eq_some.1 h
    obtain rfl := Option.some.inj hsome
    exact ⟨rfl, hsize⟩
  · rintro ⟨rfl, hsize⟩
    exact if_pos hsize

theorem selects_nested_iff (hn : rule.nested = true) :
    rule.selects template = true ↔
      ∃ line, template.toList = '/' :: (rule.resource.toList ++ '/' :: line) ∧ '\n' ∉ line := by
  rw [selects, pattern, if_pos hn, accepts_literals]
  constructor
  · rintro ⟨rest, hrest, haccepts⟩
    -- the slash behind the resource is one more literal
    obtain ⟨line, rfl, hline⟩ := (@accepts_literals ['/'] _ _).1 haccepts
    refine ⟨line, by simpa using hrest, fun hmem => ?_⟩
    simpa [RunClass.holds] using accepts_run.1 hline _ hmem
  · rintro ⟨line, hline, hmem⟩
    refine ⟨'/' :: line, by simpa using hline, ?_⟩
    refine (@accepts_literals ['/'] _ _).2 ⟨line, rfl, accepts_run.2 fun c hc => ?_⟩
    have hne : c ≠ '\n' := fun heq => hmem (heq ▸ hc)
    simp [RunClass.holds, hne]

theorem selects_flat_iff (hn : rule.nested = false) (hr : rule.resource ≠ "") :
    rule.selects template = true ↔
      ∃ rest, template.toList = '/' :: (rule.resource.toList ++ rest) ∧ '/' ∉ rest := by
  rw [selects, pattern, if_neg (by simp [hn]), if_neg hr, accepts_literals]
  refine exists_congr fun rest => and_congr (by simp) ?_
  rw [accepts_run]
  constructor
  · intro h hmem
    simpa [RunClass.holds] using h _ hmem
  · intro h c hc
    have hne : c ≠ '/' := fun heq => h (heq ▸ hc)
    simp [RunClass.holds, hne]

theorem selects_root_iff (hn : rule.nested = false) (hr : rule.resource = "") :
    rule.selects template = true ↔ template = "/" := by
  rw [selects, pattern, if_neg (by simp [hn]), if_pos hr, accepts_literals, ← String.toList_inj]
  simp [hr, accepts]

end Rule

/-! ### Segments of a path -/

theorem exists_segments (h : path.toList.head? = some '/') :
    ∃ resource further, segments '/' path = "" :: resource :: further := by
  obtain ⟨rest, hrest⟩ := List.head?_eq_some_iff.1 h
  have hsplit := segments_append_cons '/' [] rest
  rw [List.nil_append, ← hrest, String.ofList_toList] at hsplit
  obtain ⟨resource, further, hfurther⟩ :=
    List.exists_cons_of_ne_nil (segments_ne_nil '/' (String.ofList rest))
  exact ⟨resource, further, by rw [hsplit, hfurther]; simp [segments]⟩

/-- A path is its resource behind a slash, and each further segment behind another. -/
theorem toList_of_segments (h : segments '/' path = "" :: resource :: further) :
    path.toList = '/' :: (resource.toList ++ further.flatMap fun s => '/' :: s.toList) := by
  rw [← join_segments '/' path, h, toList_join_cons]
  simp

theorem Rule.ofPath_of_segments (h : segments '/' path = "" :: resource :: further) :
    Rule.ofPath path = ⟨resource, !further.isEmpty⟩ := by
  rw [Rule.ofPath, h]

/-- **A rule selects the templates with the resource for their first segment that end there when the
path does, and go on when it goes on.** -/
theorem selects_iff_of_segments (hpath : segments '/' path = "" :: resource :: further)
    (htemplate : segments '/' template = "" :: resource :: further')
    (hline : '\n' ∉ template.toList) :
    (Rule.ofPath path).selects template = true ↔ (further = [] ↔ further' = []) := by
  have htext := toList_of_segments htemplate
  rw [Rule.ofPath_of_segments hpath]
  cases further with
  | nil =>
      by_cases hr : resource = ""
      · rw [Rule.selects_root_iff rfl hr, ← String.toList_inj, htext, hr]
        cases further' <;> simp
      · rw [Rule.selects_flat_iff rfl hr, htext]
        constructor
        · rintro ⟨rest, hrest, hslash⟩
          have hbelow := List.append_cancel_left (List.cons.inj hrest).2
          cases further' with
          | nil => simp
          | cons s further' => simp [← hbelow] at hslash
        · intro h
          exact ⟨[], by simp [h.1 rfl], List.not_mem_nil⟩
  | cons s further =>
      rw [Rule.selects_nested_iff rfl, htext]
      constructor
      · rintro ⟨line, hline, -⟩
        have hbelow := List.append_cancel_left (List.cons.inj hline).2
        cases further' with
        | nil => simp at hbelow
        | cons s' further' => simp
      · intro h
        obtain ⟨s', further', rfl⟩ := List.exists_cons_of_ne_nil (mt h.2 (by simp))
        refine ⟨_, rfl, fun hmem => hline ?_⟩
        rw [htext]
        exact List.mem_cons_of_mem _ (List.mem_append_right _ (List.mem_cons_of_mem _ hmem))

/-! ### Trailing slashes -/

/-- A path ends in a slash when its last segment is empty, and not its only one. -/
theorem getLast?_eq_slash_iff :
    path.toList.getLast? = some '/' ↔
      2 ≤ (segments '/' path).length ∧ (segments '/' path).getLast? = some "" := by
  obtain ⟨init, last, hsegments⟩ : ∃ init last, segments '/' path = init ++ [last] :=
    ⟨_, _, (List.dropLast_append_getLast (segments_ne_nil '/' path)).symm⟩
  have hmem : last ∈ segments '/' path := by simp [hsegments]
  have hslash : last.toList.getLast? ≠ some '/' := fun h =>
    not_mem_of_mem_segments hmem (List.mem_of_getLast? h)
  have hjoin : path = join '/' (init ++ [last]) := by rw [← hsegments, join_segments]
  rw [hsegments]
  cases init with
  | nil =>
      rw [hjoin, List.nil_append, toList_join_cons]
      simpa using hslash
  | cons first init =>
      -- whatever comes before, the text ends in the last segment behind its slash
      have htext : path.toList =
          (join '/' (first :: init)).toList ++ '/' :: last.toList := by
        rw [hjoin, List.cons_append, toList_join_cons, toList_join_cons]
        simp
      rw [htext, List.getLast?_append, List.getLast?_cons, List.getLast?_concat]
      by_cases hempty : last = ""
      · simp [hempty]
      · obtain ⟨c, hc⟩ := Option.ne_none_iff_exists'.1
          (mt List.getLast?_eq_none_iff.1 (mt String.toList_eq_nil_iff.1 hempty))
        rw [hc] at hslash
        simpa [hc, hempty] using hslash

/-- A path that does not end in a slash is its own normal form, and so is the root. -/
theorem normalPath_eq_self (hne : path ≠ "") (h : path = "/" ∨ path.toList.getLast? ≠ some '/') :
    normalPath path = path := by
  rcases h with rfl | h
  · rfl
  · have htrim : trimEndWhere (· = '/') path.toList = path.toList := by
      refine List.rdropWhile_eq_self_iff.2 fun hl hslash => h ?_
      rw [List.getLast?_eq_getLast_of_ne_nil hl, of_decide_eq_true hslash]
    unfold normalPath
    rw [htrim]
    split
    · next hnil => exact absurd (String.toList_eq_nil_iff.1 hnil) hne
    · rw [String.ofList_toList]

theorem normalPath_eq_or (path : String) :
    normalPath path = "/" ∨ (normalPath path).toList.getLast? ≠ some '/' := by
  cases htrim : trimEndWhere (· = '/') path.toList with
  | nil => exact .inl (by rw [normalPath, htrim])
  | cons c cs =>
      refine .inr fun hlast => ?_
      rw [normalPath, htrim, String.toList_ofList, ← htrim] at hlast
      exact getLast?_trimEndWhere_ne (by decide) path.toList hlast

theorem normalPath_ne_empty (path : String) : normalPath path ≠ "" := by
  unfold normalPath
  split
  · decide
  · next hne => exact fun hempty => hne (String.ofList_eq_empty_iff.1 hempty)

/-- A path is its normal form and trailing slashes. -/
theorem exists_toList_normalPath (h : path.toList.head? = some '/') :
    ∃ k, path.toList = (normalPath path).toList ++ List.replicate k '/' := by
  have hsplit : trimEndWhere (· = '/') path.toList ++
      path.toList.rtakeWhile (· = '/') = path.toList := List.rdropWhile_append_rtakeWhile ..
  obtain ⟨n, hslashes⟩ : ∃ n, path.toList.rtakeWhile (· = '/') = List.replicate n '/' :=
    ⟨_, List.eq_replicate_of_mem fun c hc =>
      of_decide_eq_true (List.mem_rtakeWhile_imp (p := fun c => decide (c = '/')) hc)⟩
  rw [hslashes] at hsplit
  cases htrim : trimEndWhere (· = '/') path.toList with
  | nil =>
      -- of the slashes of the root, the first one stays
      rw [htrim, List.nil_append] at hsplit
      rw [← hsplit] at h
      obtain ⟨k, rfl⟩ := Nat.exists_eq_succ_of_ne_zero (n := n) (by rintro rfl; simp at h)
      refine ⟨k, ?_⟩
      rw [normalPath, htrim, ← hsplit]
      rfl
  | cons c cs =>
      refine ⟨n, ?_⟩
      rw [normalPath, htrim, String.toList_ofList, ← htrim, hsplit]

theorem head?_normalPath (h : path.toList.head? = some '/') :
    (normalPath path).toList.head? = some '/' := by
  obtain ⟨k, htext⟩ := exists_toList_normalPath h
  rwa [htext, List.head?_append_of_ne_nil _
    (mt String.toList_eq_nil_iff.1 (normalPath_ne_empty path))] at h

/-- The last segment below the resource is not empty, or its slash would have been taken off. -/
theorem getLast_normalPath_ne
    (h : segments '/' (normalPath path) = "" :: resource :: further) (hne : further ≠ []) :
    further.getLast hne ≠ "" := by
  intro hempty
  rcases normalPath_eq_or path with hroot | hlast
  · rw [hroot] at h
    exact hne (List.cons.inj (List.cons.inj h).2).2.symm
  · refine hlast (getLast?_eq_slash_iff.2 ⟨by simp [h], ?_⟩)
    rw [h, List.getLast?_cons_cons, List.getLast?_cons, List.getLast?_eq_getLast_of_ne_nil hne,
      hempty]
    rfl

theorem segments_append_replicate (cs : List Char) (k : Nat) :
    segments '/' (String.ofList (cs ++ List.replicate k '/')) =
      segments '/' (String.ofList cs) ++ List.replicate k "" := by
  induction k with
  | zero => simp
  | succ k ih =>
      have hlast := segments_append_cons '/' (cs ++ List.replicate k '/') []
      have hempty : segments '/' (String.ofList []) = [""] := by simp [segments]
      rw [List.replicate_succ', ← List.append_assoc, hlast, ih, hempty, List.append_assoc,
        ← List.replicate_succ']

/-- **Trailing slashes are empty segments at the end.** -/
theorem exists_segments_normalPath (h : path.toList.head? = some '/') :
    ∃ k, path.toList = (normalPath path).toList ++ List.replicate k '/' ∧
      segments '/' path = segments '/' (normalPath path) ++ List.replicate k "" := by
  obtain ⟨k, hk⟩ := exists_toList_normalPath h
  have hsegments := segments_append_replicate (normalPath path).toList k
  rw [← hk, String.ofList_toList, String.ofList_toList] at hsegments
  exact ⟨k, hk, hsegments⟩

end ApiContract.Routing
