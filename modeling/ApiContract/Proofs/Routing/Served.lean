import ApiContract.Proofs.Routing.Instance

/-
What a route tells of its request.

A route is put together in several steps, from the text of the path, from the paths of the document
and from one path item.  Here every part of it is told by itself: the template is the only one that
the path selects, the operation stands under the method and under nothing else, and each placeholder
of the template that the path is long enough for has its segment of the path.

Main definitions:

* `ApiContract.Routing.boundPositions` — the positions of the placeholders that a path binds;
* `ApiContract.Document.Serves` — what a route holds, part by part.

Main results:

* `ApiContract.Routing.forall₂_bindings` — one binding for each bound position, in order;
* `ApiContract.Routing.Rule.exists_third_of_selects` — a template with more than one segment is
  selected only by paths with a third segment;
* `ApiContract.Document.route_serves` — **a request has a route exactly when the route serves it**.
-/

set_option autoImplicit false

namespace ApiContract

namespace Routing

open Text

variable {template path : String}

/-! ### Bindings by position -/

/-- The positions of the placeholders for which the path has a segment, in order. -/
def boundPositions (template path : String) : List Nat :=
  (List.range (segments '/' path).length).filter fun i => (placeholderAt template i).isSome

/-- The pair has the name of the placeholder at the position, and the segment that the path has
there. -/
def BindsAt (template path : String) (i : Nat) (pair : String × String) : Prop :=
  placeholderAt template i = some pair.1 ∧ (segments '/' path)[i]? = some pair.2

theorem forall₂_filter_range (slots values : List String) :
    List.Forall₂ (fun i (pair : String × String) =>
        slots[i]?.bind placeholder? = some pair.1 ∧ values[i]? = some pair.2)
      ((List.range values.length).filter fun i => (slots[i]?.bind placeholder?).isSome)
      ((slots.zip values).filterMap fun pair =>
        (placeholder? pair.1).map fun name => (name, pair.2)) := by
  induction values generalizing slots with
  | nil => simp
  | cons value values ih =>
      cases slots with
      | nil => simp
      | cons slot slots =>
          -- behind the first position, every other one is one further
          rw [List.length_cons, List.range_succ_eq_map, List.filter_cons, List.filter_map,
            List.zip_cons_cons, List.filterMap_cons]
          cases hslot : placeholder? slot with
          | none => simpa [hslot, Function.comp_def] using ih slots
          | some name => simpa [hslot, Function.comp_def] using ih slots

/-- **A path has one binding for each placeholder that it is long enough for, in their order.** -/
theorem forall₂_bindings (template path : String) :
    List.Forall₂ (BindsAt template path) (boundPositions template path) (bindings template path) :=
  forall₂_filter_range (segments '/' template) (segments '/' path)

theorem BindsAt.unique {i : Nat} {pair pair' : String × String} (h : BindsAt template path i pair)
    (h' : BindsAt template path i pair') : pair = pair' :=
  Prod.ext (Option.some.inj (h.1.symm.trans h'.1)) (Option.some.inj (h.2.symm.trans h'.2))

/-- There are no other lists with a pair for each bound position. -/
theorem forall₂_bindsAt_iff {pairs : List (String × String)} :
    List.Forall₂ (BindsAt template path) (boundPositions template path) pairs ↔
      pairs = bindings template path := by
  constructor
  · intro h
    exact List.right_unique_forall₂' (fun _ _ _ h h' => h.unique h') h (forall₂_bindings _ _)
  · rintro rfl
    exact forall₂_bindings template path

/-! ### The third segment -/

theorem segments_of_single_slash {s : String} {rest : List Char} (h : s.toList = '/' :: rest)
    (hrest : '/' ∉ rest) : segments '/' s = ["", String.ofList rest] := by
  have hsplit := segments_append_cons '/' [] rest
  rw [List.nil_append, ← h, String.ofList_toList,
    segments_eq_singleton (s := String.ofList rest) (by simpa using hrest)] at hsplit
  simpa [segments] using hsplit

/-- **A template with more than one segment is selected only by paths with a third segment.** -/
theorem Rule.exists_third_of_selects (hslash : path.toList.head? = some '/')
    (hsel : (Rule.ofPath path).selects template = true)
    (hlong : 2 < (segments '/' template).length) :
    ∃ segment, (segments '/' path)[2]? = some segment := by
  obtain ⟨resource, further, hpath⟩ := exists_segments hslash
  rw [hpath]
  cases further with
  | cons segment further => exact ⟨segment, rfl⟩
  | nil =>
      -- a path with nothing below the resource selects templates that have nothing below theirs
      rw [Rule.ofPath_of_segments hpath] at hsel
      obtain ⟨rest, htemplate, hrest⟩ : ∃ rest, template.toList = '/' :: rest ∧ '/' ∉ rest := by
        by_cases hr : resource = ""
        · rw [Rule.selects_root_iff rfl hr] at hsel
          exact ⟨[], by rw [hsel]; rfl, List.not_mem_nil⟩
        · obtain ⟨rest, htemplate, hrest⟩ := (Rule.selects_flat_iff rfl hr).1 hsel
          have hresource : '/' ∉ resource.toList :=
            not_mem_of_mem_segments (s := path) (by simp [hpath])
          exact ⟨_, htemplate, by simp [hresource, hrest]⟩
      rw [segments_of_single_slash htemplate hrest] at hlong
      exact absurd hlong (Nat.lt_irrefl _)

end Routing

namespace Document

open Routing

/-! ### Routes -/

/-- What a route holds, told by the document, the method and the path. -/
structure Serves (d : Document) (method : Http.Method) (path : String) (route : Route) : Prop where
  slash : (normalPath path).toList.head? = some '/'
  /-- The template is the only key of the paths that the path selects. -/
  selects : ∃ rule, Rule.ofPath? (normalPath path) = some rule ∧ d.Selects rule route.template
  item : d.paths.get? route.template = some (.object route.item)
  method : route.method = Text.lower method.name
  /-- No other key of a path item leads to an operation. -/
  documented : route.method ∈ operationKeys
  operation : route.item.get? route.method = some (.object route.operation)
  bindings : List.Forall₂ (BindsAt route.template (normalPath path))
    (boundPositions route.template (normalPath path)) route.bindings
  third : route.thirdSegment = (Text.segments '/' (normalPath path))[2]?

variable {d : Document} {method : Http.Method} {path : String} {route : Route}

theorem route_eq_ok_iff_serves : d.route method path = .ok route ↔ d.Serves method path route := by
  constructor
  · intro h
    cases ht : d.templateFor path with
    | error refusal => rw [route_of_templateFor_error ht] at h; cases h
    | ok template =>
        obtain ⟨rule, hrule⟩ := exists_rule_of_templateFor ht
        obtain ⟨template, item, op, ha, rfl⟩ := (route_eq_ok_iff hrule).1 h
        exact ⟨ha.slash, ⟨rule, hrule, ha.selects⟩, ha.pathItem, rfl, ha.documented, ha.entry,
          forall₂_bindings template _, rfl⟩
  · intro h
    obtain ⟨rule, hrule, hsel⟩ := h.selects
    obtain ⟨template, key, item, op, pairs, third⟩ := route
    obtain rfl : key = method.key := h.method
    obtain rfl : pairs = Routing.bindings template (normalPath path) :=
      forall₂_bindsAt_iff.1 h.bindings
    obtain rfl : third = (Text.segments '/' (normalPath path))[2]? := h.third
    exact (route_eq_ok_iff hrule).2
      ⟨template, item, op, ⟨h.slash, hsel, h.item, h.documented, h.operation⟩, rfl⟩

/-- **A request has a route exactly when the route serves it.**  Then a name has the value of its
last placeholder for which the path has a segment, and a template with more than one segment comes
with a third segment. -/
theorem route_serves :
    (d.route method path = .ok route ↔ d.Serves method path route) ∧
      (d.route method path = .ok route →
        (∀ name value, route.value? name = some value ↔
          ∃ i, placeholderAt route.template i = some name ∧
            (Text.segments '/' (normalPath path))[i]? = some value ∧
            ∀ j, i < j → placeholderAt route.template j = some name →
              (Text.segments '/' (normalPath path))[j]? = none) ∧
        (2 < (Text.segments '/' route.template).length →
          ∃ segment, route.thirdSegment = some segment)) := by
  refine ⟨route_eq_ok_iff_serves, fun hroute => ?_⟩
  have h := route_eq_ok_iff_serves.1 hroute
  refine ⟨fun name value => value?_eq_some_iff (forall₂_bindsAt_iff.1 h.bindings), fun hlong => ?_⟩
  obtain ⟨rule, hrule, hsel⟩ := h.selects
  rw [h.third]
  refine Rule.exists_third_of_selects h.slash ?_ hlong
  rw [(Rule.ofPath?_eq_some_iff.1 hrule).1]
  exact hsel.selects

/-- The route of a path that ends before the second placeholder of its template, and has an empty
segment at the first. -/
def routeOfNobody : Route where
  template := orderTemplate
  method := "get"
  item := [("get", .object [])]
  operation := []
  bindings := [("id", "")]
  thirdSegment := some ""

theorem serves_nobody :
    orderListing.Serves ⟨"gEt", by decide, by decide⟩ "/users//orders/" routeOfNobody where
  slash := by decide
  selects := by
    have hselects : Rule.selects ⟨"users", true⟩ orderTemplate = true :=
      (Rule.selects_nested_iff rfl).2
        ⟨"\x7bid\x7d/orders/\x7bid\x7d".toList, by decide, by decide⟩
    refine ⟨⟨"users", true⟩, Rule.ofPath?_eq_some_iff.2 ⟨by decide, by decide⟩, by decide,
      hselects, ?_⟩
    simp [templates, Fields.keys, orderListing, hselects]
  item := rfl
  method := by
    rw [← String.toList_inj, Text.toList_lower]
    rfl
  documented := by decide
  operation := rfl
  bindings := forall₂_bindsAt_iff.2 (by decide)
  third := rfl

/-- The name has the empty segment: for its last placeholder the path has no segment. -/
theorem route_nobody :
    orderListing.route ⟨"gEt", by decide, by decide⟩ "/users//orders/" = .ok routeOfNobody ∧
      routeOfNobody.value? "id" = some "" ∧
      2 < (Text.segments '/' routeOfNobody.template).length ∧
      ∃ segment, routeOfNobody.thirdSegment = some segment := by
  have hroute := route_serves.1.2 serves_nobody
  obtain ⟨hvalue, hthird⟩ := route_serves.2 hroute
  have hlong : 2 < (Text.segments '/' routeOfNobody.template).length := by decide
  refine ⟨hroute, (hvalue "id" "").2 ⟨2, by decide, by decide, ?_⟩, hlong, hthird hlong⟩
  intro j hj hname
  have hlength : (Text.segments '/' (normalPath "/users//orders/")).length = 4 := by decide
  have hliteral : placeholderAt routeOfNobody.template 3 ≠ some "id" := by decide
  have hne : j ≠ 3 := fun heq => hliteral (heq ▸ hname)
  exact List.getElem?_eq_none (by omega)

end Document

end ApiContract
