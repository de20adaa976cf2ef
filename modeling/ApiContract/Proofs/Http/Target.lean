import Mathlib.Data.List.TakeWhile
import ApiContract.Conformance.Request

/-
Request targets by their parts.

A target is read in two ways.  A server checks it as a URI and drops its fragment; a request that is
put together by hand parts it at the first question mark and looks no further.  Of a target that
starts with a slash both read the same path and the same query, as long as there is no fragment:
where there is one, it must be cut off before the second way is taken.

Main definitions:

* `ApiContract.Http.Target.text` — path and query of a target, as they are written;
* `ApiContract.Http.Target.Parts` — a text of a path, a query and a fragment;
* `ApiContract.Http.Target.withoutFragment` — a text up to its fragment.

Main results:

* `ApiContract.Http.Target.parts_of_ofUri?` — a URI that starts with a slash is made of such parts;
* `ApiContract.Http.Target.split_withoutFragment` — **both ways of reading lead to the same target**;
* `ApiContract.Http.Request.ofPathAndQuery_withoutFragment` — and so to the same request and verdict.
-/

set_option autoImplicit false

namespace ApiContract.Http

namespace Target

variable {path s : String} {target : Target} {cs fragment : List Char} {c : Char}

/-! ### Parting a text at its question mark -/

/-- A text is parted at its first question mark, and at no later one. -/
theorem split_append (h : '?' ∉ path.toList) (query : String) :
    split (path ++ "?" ++ query) = ⟨path, some query⟩ := by
  have htext : (path ++ "?" ++ query).toList = path.toList ++ '?' :: query.toList := by simp
  simp only [split, htext, Text.dropWhile_ne_append h, Text.takeWhile_ne_append h,
    String.ofList_toList]

theorem split_of_not_mem (h : '?' ∉ s.toList) : split s = ⟨s, none⟩ := by
  have hdrop : s.toList.dropWhile (· ≠ '?') = [] :=
    List.dropWhile_eq_nil_iff.2 (Text.decide_ne_of_not_mem h)
  simp only [split, hdrop]

/-- Path and query of a target, as they are written. -/
def text (target : Target) : String :=
  match target.query with
  | none => target.path
  | some query => target.path ++ "?" ++ query

/-- Nothing is lost where a text is parted. -/
theorem text_split (s : String) : (split s).text = s := by
  by_cases h : '?' ∈ s.toList
  · obtain ⟨path, query, htext, hpath⟩ := List.eq_append_cons_of_mem h
    have hs : s = String.ofList path ++ "?" ++ String.ofList query := by
      apply String.toList_inj.1
      simp [htext]
    rw [← String.toList_ofList (l := path)] at hpath
    rw [hs, split_append hpath, text]
  · rw [split_of_not_mem h, text]

/-! ### Path, query and fragment -/

/-- The text is made of path and query of the target and of a fragment, if there is one. -/
structure Parts (cs : List Char) (target : Target) (fragment : List Char) : Prop where
  text : cs = target.text.toList ++ fragment
  path : ∀ c ∈ target.path.toList, isPathChar c
  query : ∀ query, target.query = some query → ∀ c ∈ query.toList, isQueryChar c
  fragment : fragment = [] ∨ ∃ rest, fragment = '#' :: rest

/-- Neither the sign of a query nor that of a fragment stands in a path. -/
theorem ne_of_isPathChar (h : isPathChar c) : c ≠ '?' ∧ c ≠ '#' := by
  constructor <;> rintro rfl <;> revert h <;> decide

theorem ne_of_isQueryChar (h : isQueryChar c) : c ≠ '#' := by
  rintro rfl
  revert h
  decide

/-- A query is read up to the fragment. -/
theorem exists_fragment_of_query? {query : List Char} (h : query? cs = some query) :
    (∀ c ∈ query, isQueryChar c) ∧
      ∃ fragment, cs = query ++ fragment ∧ (fragment = [] ∨ ∃ rest, fragment = '#' :: rest) := by
  have hparts := List.takeWhile_append_dropWhile (p := isQueryChar) (l := cs)
  unfold query? at h
  split at h
  · next hdrop =>
      obtain rfl := Option.some.inj h
      exact ⟨List.dropWhile_eq_nil_iff.1 hdrop, [], (List.append_nil _).symm, .inl rfl⟩
  · next rest hdrop =>
      obtain rfl := Option.some.inj h
      exact ⟨fun c hc => List.mem_takeWhile_imp hc, _, hparts.symm, .inr ⟨rest, hdrop⟩⟩
  · cases h

/-- What is read from a text that starts with a slash, and what is passed over. -/
theorem parts_of_ofPathAndQuery? (hslash : cs.head? = some '/')
    (h : ofPathAndQuery? cs = some target) : ∃ fragment, Parts cs target fragment := by
  have hpath : ∀ c ∈ cs.takeWhile isPathChar, isPathChar c := fun c hc => List.mem_takeWhile_imp hc
  -- the path is not empty, so it is not replaced by the root
  have hne : (cs.takeWhile isPathChar).isEmpty = false := by
    obtain ⟨rest, rfl⟩ := List.head?_eq_some_iff.1 hslash
    rfl
  have hbare (hfragment : cs.dropWhile isPathChar = [] ∨
      ∃ rest, cs.dropWhile isPathChar = '#' :: rest) :
      Parts cs ⟨String.ofList (cs.takeWhile isPathChar), none⟩ (cs.dropWhile isPathChar) :=
    ⟨by simp [text], by simpa using hpath, nofun, hfragment⟩
  simp only [ofPathAndQuery?, hne] at h
  split at h
  · next hdrop =>
      obtain rfl := Option.some.inj h
      exact ⟨_, hbare (.inl hdrop)⟩
  · next rest hdrop =>
      obtain rfl := Option.some.inj h
      exact ⟨_, hbare (.inr ⟨rest, hdrop⟩)⟩
  · next rest hdrop =>
      obtain ⟨query, hquery, rfl⟩ := Option.map_eq_some_iff.1 h
      obtain ⟨hchars, fragment, hrest, hfragment⟩ := exists_fragment_of_query? hquery
      have hparts := List.takeWhile_append_dropWhile (p := isPathChar) (l := cs)
      refine ⟨fragment, ?_, ?_, ?_, hfragment⟩
      · simpa [text, hdrop, hrest] using hparts.symm
      · simpa using hpath
      · rintro query ⟨rfl⟩
        simpa using hchars
  · cases h

/-- **A URI that starts with a slash is made of a path, a query and a fragment.** -/
theorem parts_of_ofUri? (hslash : s.toList.head? = some '/') (h : ofUri? s = some target) :
    ∃ fragment, Parts s.toList target fragment := by
  have hstar : s.toList ≠ ['*'] := by
    intro heq
    simp [heq] at hslash
  simp only [ofUri?, if_neg hstar, if_pos hslash] at h
  split at h
  · cases h
  · exact parts_of_ofPathAndQuery? hslash h

/-! ### Two ways of reading -/

/-- A text up to its fragment. -/
def withoutFragment (s : String) : String := String.ofList (s.toList.takeWhile (· ≠ '#'))

theorem withoutFragment_of_not_mem (h : '#' ∉ s.toList) : withoutFragment s = s := by
  rw [withoutFragment, List.takeWhile_eq_self_iff.2 (Text.decide_ne_of_not_mem h),
    String.ofList_toList]

namespace Parts

/-- The question mark behind the path is the first. -/
theorem split_text (h : Parts cs target fragment) : split target.text = target := by
  have hpath : '?' ∉ target.path.toList := fun hmem => (ne_of_isPathChar (h.path _ hmem)).1 rfl
  obtain ⟨path, query⟩ := target
  cases query with
  | none => exact split_of_not_mem hpath
  | some query => exact split_append hpath query

theorem not_mem_text (h : Parts cs target fragment) : '#' ∉ target.text.toList := by
  have hpath : '#' ∉ target.path.toList := fun hmem => (ne_of_isPathChar (h.path _ hmem)).2 rfl
  have hquery := h.query
  obtain ⟨path, query⟩ := target
  cases query with
  | none => exact hpath
  | some query =>
      have hquery : '#' ∉ query.toList := fun hmem => ne_of_isQueryChar (hquery _ rfl _ hmem) rfl
      simpa [Target.text, hquery] using hpath

/-- What stands before the fragment is path and query. -/
theorem withoutFragment_eq (h : Parts s.toList target fragment) :
    withoutFragment s = target.text := by
  rcases h.fragment with rfl | ⟨rest, rfl⟩
  · have hs : s = target.text := by
      apply String.toList_inj.1
      rw [h.text, List.append_nil]
    rw [hs, withoutFragment_of_not_mem h.not_mem_text]
  · rw [withoutFragment, h.text, Text.takeWhile_ne_append h.not_mem_text, String.ofList_toList]

end Parts

/-- **Both ways of reading lead to the same target**, once the fragment is cut off. -/
theorem split_withoutFragment (hslash : s.toList.head? = some '/') (h : ofUri? s = some target) :
    split (withoutFragment s) = target := by
  obtain ⟨fragment, hparts⟩ := parts_of_ofUri? hslash h
  rw [hparts.withoutFragment_eq, hparts.split_text]

/-- Where no fragment is cut off, both ways of reading agree just on the texts without one. -/
theorem split_eq_iff (hslash : s.toList.head? = some '/') (h : ofUri? s = some target) :
    split s = target ↔ '#' ∉ s.toList := by
  constructor
  · intro hsplit
    obtain ⟨fragment, hparts⟩ := parts_of_ofUri? hslash h
    rw [← text_split s, hsplit]
    exact hparts.not_mem_text
  · intro hnone
    rw [← split_withoutFragment hslash h, withoutFragment_of_not_mem hnone]

end Target

namespace Request

variable {s : String} {target : Target}

/-- **Requests by hand and requests to a server are the same**: of a URI that starts with a slash,
path and query parameters are the same whether it is parted at its question mark or read as a URI,
if it has no fragment or the fragment is cut off first, and so is the verdict with any payload. -/
theorem ofPathAndQuery_withoutFragment (hslash : s.toList.head? = some '/')
    (h : Target.ofUri? s = some target) (method : Method) :
    ofPathAndQuery method (Target.withoutFragment s) = ofTarget method target ∧
      ('#' ∉ s.toList → ofPathAndQuery method s = ofTarget method target) ∧
      ∀ settings d body,
        validate settings d ((ofPathAndQuery method (Target.withoutFragment s)).withBody body) =
          validate settings d ((ofTarget method target).withBody body) := by
  have hsame : ofPathAndQuery method (Target.withoutFragment s) = ofTarget method target := by
    rw [ofPathAndQuery, Target.split_withoutFragment hslash h]
  refine ⟨hsame, fun hnone => ?_, fun settings d body => by rw [hsame]⟩
  rw [ofPathAndQuery, (Target.split_eq_iff hslash h).2 hnone]

/-- The second question mark belongs to the query, the third to the fragment. -/
theorem ofPathAndQuery_threeQuestionMarks :
    "/a\"b?x=1?2&y[]=#?z".toList.head? = some '/' ∧
      Target.ofUri? "/a\"b?x=1?2&y[]=#?z" = some ⟨"/a\"b", some "x=1?2&y[]="⟩ ∧
      ∀ method, ofPathAndQuery method "/a\"b?x=1?2&y[]=" =
        ofTarget method ⟨"/a\"b", some "x=1?2&y[]="⟩ := by
  have hslash : "/a\"b?x=1?2&y[]=#?z".toList.head? = some '/' := by decide
  have huri : Target.ofUri? "/a\"b?x=1?2&y[]=#?z" = some ⟨"/a\"b", some "x=1?2&y[]="⟩ := by decide
  have hcut : Target.withoutFragment "/a\"b?x=1?2&y[]=#?z" = "/a\"b?x=1?2&y[]=" := by decide
  refine ⟨hslash, huri, fun method => ?_⟩
  rw [← hcut]
  exact (ofPathAndQuery_withoutFragment hslash huri method).1

/-- Where a fragment stays, it ends up in the path or in a query parameter. -/
theorem ofPathAndQuery_ne_of_fragment :
    "/users#top".toList.head? = some '/' ∧ Target.ofUri? "/users#top" = some ⟨"/users", none⟩ ∧
      (∀ method, (ofPathAndQuery method "/users#top").path ≠
        (ofTarget method ⟨"/users", none⟩).path) ∧
      "/users?limit=10#top".toList.head? = some '/' ∧
      Target.ofUri? "/users?limit=10#top" = some ⟨"/users", some "limit=10"⟩ ∧
      ∀ method, (ofPathAndQuery method "/users?limit=10#top").query ≠
        (ofTarget method ⟨"/users", some "limit=10"⟩).query := by
  have hpath : (Target.split "/users#top").path ≠ "/users" := by decide
  have hlimit : ((Query.ofText "limit=10#top").get? "limit").bind Json.text? ≠
      ((Query.ofText "limit=10").get? "limit").bind Json.text? := by decide +kernel
  have hsplit : Target.split "/users?limit=10#top" = ⟨"/users", some "limit=10#top"⟩ := by decide
  refine ⟨by decide, by decide, fun method => hpath, by decide, by decide, fun method => ?_⟩
  rw [ofPathAndQuery, hsplit]
  intro heq
  have hsame : Query.ofText "limit=10#top" = Query.ofText "limit=10" := heq
  exact hlimit (by rw [hsame])

end Request

end ApiContract.Http
