import ApiContract.Proofs.Routing.Dispatch
import ApiContract.Proofs.Routing.Selection

/-
Requests for the instances of a template.

Putting values for the placeholders of a template gives a path.  A request for that path is
dispatched to the template, unless another one claims it too, and binds every placeholder to its
value.  A template without placeholders is its own only instance, and is requested by its own text;
this fails for templates of one segment with trailing slashes, since those of a request are taken
off and those of a template are not.

Main definitions:

* `ApiContract.Routing.placeholderAt` — the placeholder at a position of a template;
* `ApiContract.Routing.fill`, `assigned` — a template with values for its placeholders, and the
  list of these values with their names;
* `ApiContract.Routing.Requestable` — a template stays apart from its resource when trailing slashes
  are taken off.

Main results:

* `ApiContract.Routing.value?_eq_some_iff` — the value of a name is that of its last placeholder;
* `ApiContract.Document.route_fill` — **instances of a template reach it and bind its values**;
* `ApiContract.Document.templateFor_self` — **a template that is requestable is reached by its own
  text, and no other is**.
-/

set_option autoImplicit false

namespace ApiContract

namespace Routing

open Text

/-! ### What a path binds -/

/-- The name of the placeholder at a position of a template, if there is one. -/
def placeholderAt (template : String) (i : Nat) : Option String :=
  (segments '/' template)[i]?.bind placeholder?

variable {template path name value : String}

theorem getElem?_concat_eq_some_iff {α : Type} {l : List α} {a b : α} {i : Nat} :
    (l ++ [a])[i]? = some b ↔ l[i]? = some b ∨ i = l.length ∧ a = b := by
  rcases Nat.lt_trichotomy i l.length with h | h | h
  · rw [List.getElem?_append_left h]
    exact ⟨.inl, fun h' => h'.resolve_right fun h'' => by omega⟩
  · subst h
    simp
  · rw [List.getElem?_eq_none (by simp; omega), List.getElem?_eq_none (by omega)]
    simp
    omega

/-- What is found from the end is the last. -/
theorem find?_bound_iff {pairs : List (String × String)} :
    ((pairs.filterMap fun pair => (placeholder? pair.1).map fun n => (n, pair.2)).reverse.find?
        fun b => b.1 = name).map Prod.snd = some value ↔
      ∃ (i : Nat) (slot : String), pairs[i]? = some (slot, value) ∧ placeholder? slot = some name ∧
        ∀ j, i < j → ∀ slot' value', pairs[j]? = some (slot', value') →
          placeholder? slot' ≠ some name := by
  induction pairs using List.reverseRecOn with
  | nil => simp
  | append_singleton pairs last ih =>
      obtain ⟨slot, bound⟩ := last
      simp only [getElem?_concat_eq_some_iff]
      by_cases hslot : placeholder? slot = some name
      · -- the last pair is found, and no other one has nothing behind it
        have hfound : ((pairs ++ [(slot, bound)]).filterMap fun pair =>
            (placeholder? pair.1).map fun n => (n, pair.2)).reverse.find?
              (fun b => b.1 = name) = some (name, bound) := by
          simp [hslot]
        rw [hfound]
        constructor
        · intro h
          refine ⟨pairs.length, slot, .inr ⟨rfl, by simpa using h⟩, hslot, ?_⟩
          rintro j hj slot' value' (hpair | ⟨rfl, -⟩)
          · rw [List.getElem?_eq_none (by omega)] at hpair
            cases hpair
          · exact absurd hj (Nat.lt_irrefl _)
        · rintro ⟨i, slot', hpair | ⟨rfl, heq⟩, hname, hlast⟩
          · obtain ⟨hi, -⟩ := List.getElem?_eq_some_iff.1 hpair
            exact absurd hslot (hlast pairs.length hi slot bound (.inr ⟨rfl, rfl⟩))
          · cases heq
            rfl
      · have hfound : ((pairs ++ [(slot, bound)]).filterMap fun pair =>
            (placeholder? pair.1).map fun n => (n, pair.2)).reverse.find?
              (fun b => b.1 = name) =
            (pairs.filterMap fun pair =>
              (placeholder? pair.1).map fun n => (n, pair.2)).reverse.find?
                (fun b => b.1 = name) := by
          cases hp : placeholder? slot with
          | none => simp [hp]
          | some n =>
              have hne : n ≠ name := fun heq => hslot (by rw [hp, heq])
              simp [hp, hne]
        rw [hfound, ih]
        refine exists_congr fun i => exists_congr fun slot' => ?_
        constructor
        · rintro ⟨hpair, hname, hlast⟩
          refine ⟨.inl hpair, hname, ?_⟩
          rintro j hj slot'' value' (hpair' | ⟨-, heq⟩)
          · exact hlast j hj slot'' value' hpair'
          · cases heq
            exact hslot
        · rintro ⟨hpair | ⟨-, heq⟩, hname, hlast⟩
          · exact ⟨hpair, hname, fun j hj slot'' value' h => hlast j hj slot'' value' (.inl h)⟩
          · cases heq
            exact absurd hname hslot

theorem placeholderAt_eq_some_iff {i : Nat} :
    placeholderAt template i = some name ↔
      ∃ slot, (segments '/' template)[i]? = some slot ∧ placeholder? slot = some name :=
  Option.bind_eq_some_iff

/-- **The value of a name is that of its last placeholder for which the path has a segment.** -/
theorem value?_eq_some_iff {route : Route} (h : route.bindings = bindings template path) :
    route.value? name = some value ↔
      ∃ i, placeholderAt template i = some name ∧ (segments '/' path)[i]? = some value ∧
        ∀ j, i < j → placeholderAt template j = some name → (segments '/' path)[j]? = none := by
  rw [Route.value?, h, bindings]
  refine find?_bound_iff.trans (exists_congr fun i => ?_)
  simp only [List.getElem?_zip_eq_some, placeholderAt_eq_some_iff]
  constructor
  · rintro ⟨slot, ⟨hslot, hvalue⟩, hname, hlast⟩
    refine ⟨⟨slot, hslot, hname⟩, hvalue, ?_⟩
    rintro j hj ⟨slot', hslot', hname'⟩
    refine Option.eq_none_iff_forall_not_mem.2 fun value' hvalue' => ?_
    exact hlast j hj slot' value' ⟨hslot', hvalue'⟩ hname'
  · rintro ⟨⟨slot, hslot, hname⟩, hvalue, hlast⟩
    refine ⟨slot, ⟨hslot, hvalue⟩, hname, ?_⟩
    rintro j hj slot' value' ⟨hslot', hvalue'⟩ hname'
    rw [hlast j hj ⟨slot', hslot', hname'⟩] at hvalue'
    cases hvalue'

/-! ### Instances -/

/-- The segments of a template, with values at the positions of placeholders. -/
def filledSegments (values : Nat → String) (template : String) : List String :=
  (segments '/' template).mapIdx fun i slot =>
    if (placeholder? slot).isSome then values i else slot

/-- The template with values for its placeholders. -/
def fill (values : Nat → String) (template : String) : String :=
  join '/' (filledSegments values template)

/-- The names of the placeholders with the values that are put for them, in order. -/
def assigned (values : Nat → String) (template : String) : List (String × String) :=
  (segments '/' template).zipIdx.filterMap fun (slot, i) =>
    (placeholder? slot).map fun name => (name, values i)

/-- The values can be told from each other in an instance of the template, and the template from its
resource: no value is empty or has a slash, the resource is no placeholder, and a slash ends no
template but the root. -/
structure Fits (values : Nat → String) (template : String) : Prop where
  slash : template.toList.head? = some '/'
  line : '\n' ∉ template.toList
  ending : template = "/" ∨ template.toList.getLast? ≠ some '/'
  resource : placeholderAt template 1 = none
  value : ∀ i name, placeholderAt template i = some name →
    values i ≠ "" ∧ '/' ∉ (values i).toList

variable {values : Nat → String}

theorem getElem?_filledSegments (i : Nat) :
    (filledSegments values template)[i]? = (segments '/' template)[i]?.map fun slot =>
      if (placeholder? slot).isSome then values i else slot := by
  rw [filledSegments, List.getElem?_mapIdx]

theorem length_filledSegments :
    (filledSegments values template).length = (segments '/' template).length := by
  rw [filledSegments, List.length_mapIdx]

/-- At a placeholder stands its value, and everywhere else what the template has. -/
theorem getElem?_filledSegments_eq_some {i : Nat} {part : String}
    (hpart : (filledSegments values template)[i]? = some part) :
    (∃ name, placeholderAt template i = some name ∧ part = values i) ∨
      (segments '/' template)[i]? = some part := by
  rw [getElem?_filledSegments] at hpart
  obtain ⟨slot, hslot, rfl⟩ := Option.map_eq_some_iff.1 hpart
  cases hp : placeholder? slot with
  | none => exact .inr (by simpa [hp] using hslot)
  | some name =>
      exact .inl ⟨name, placeholderAt_eq_some_iff.2 ⟨slot, hslot, hp⟩, by simp⟩

theorem getElem?_filledSegments_of_placeholderAt {i : Nat}
    (hname : placeholderAt template i = some name) :
    (filledSegments values template)[i]? = some (values i) := by
  obtain ⟨slot, hslot, hp⟩ := placeholderAt_eq_some_iff.1 hname
  rw [getElem?_filledSegments, hslot, Option.map_some, hp]
  rfl

theorem Fits.segments_fill (h : Fits values template) :
    segments '/' (fill values template) = filledSegments values template := by
  refine segments_join ?_ fun part hpart => ?_
  · intro hnil
    have hlength := @length_filledSegments template values
    rw [hnil] at hlength
    exact segments_ne_nil '/' template (List.length_eq_zero_iff.1 hlength.symm)
  · obtain ⟨i, hi⟩ := List.getElem?_of_mem hpart
    rcases getElem?_filledSegments_eq_some hi with ⟨name, hname, rfl⟩ | htemplate
    · exact (h.value i name hname).2
    · exact not_mem_of_mem_segments (List.mem_of_getElem? htemplate)

/-- An instance has the resource of the template, and ends there when the template does. -/
theorem Fits.exists_segments (h : Fits values template) :
    ∃ resource further further', segments '/' template = "" :: resource :: further ∧
      segments '/' (fill values template) = "" :: resource :: further' ∧
      (further' = [] ↔ further = []) := by
  obtain ⟨resource, further, hsegments⟩ := Routing.exists_segments h.slash
  have hresource : placeholder? resource = none := by
    simpa [placeholderAt, hsegments] using h.resource
  have hroot : placeholder? "" = none := rfl
  have hfilled : filledSegments values template = "" :: resource ::
      further.mapIdx fun i slot => if (placeholder? slot).isSome then values (i + 1 + 1) else slot := by
    rw [filledSegments, hsegments, List.mapIdx_cons, List.mapIdx_cons, hresource, hroot]
    rfl
  exact ⟨resource, further, _, hsegments, by rw [h.segments_fill, hfilled], by simp⟩

theorem Fits.selects (h : Fits values template) :
    (Rule.ofPath (fill values template)).selects template = true := by
  obtain ⟨resource, further, further', htemplate, hpath, hends⟩ := h.exists_segments
  exact (selects_iff_of_segments hpath htemplate h.line).2 hends

/-- No slash is taken off an instance. -/
theorem Fits.normalPath_fill (h : Fits values template) :
    normalPath (fill values template) = fill values template := by
  obtain ⟨resource, further, further', -, hpath, -⟩ := h.exists_segments
  have hne : fill values template ≠ "" := by
    intro hempty
    have htext := toList_of_segments hpath
    rw [hempty] at htext
    cases htext
  refine normalPath_eq_self hne ?_
  by_cases hroot : template = "/"
  · subst hroot
    exact .inl rfl
  · -- an empty segment at the end would be one of the template
    refine .inr fun hslash => ?_
    obtain ⟨htwo, hlast⟩ := getLast?_eq_slash_iff.1 hslash
    rw [h.segments_fill, length_filledSegments] at htwo
    rw [h.segments_fill, List.getLast?_eq_getElem?, length_filledSegments] at hlast
    rcases getElem?_filledSegments_eq_some hlast with ⟨name, hname, hvalue⟩ | htemplate
    · exact (h.value _ name hname).1 hvalue.symm
    · rw [← List.getLast?_eq_getElem?] at htemplate
      exact (h.ending.resolve_left hroot) (getLast?_eq_slash_iff.2 ⟨htwo, htemplate⟩)

theorem Fits.bindings_fill (h : Fits values template) :
    bindings template (fill values template) = assigned values template := by
  have hzip : (segments '/' template).zip (filledSegments values template) =
      (segments '/' template).zipIdx.map fun (slot, i) =>
        (slot, if (placeholder? slot).isSome then values i else slot) := by
    refine List.ext_getElem? fun i => ?_
    rw [List.zip, List.getElem?_zipWith, getElem?_filledSegments, List.getElem?_map,
      List.getElem?_zipIdx]
    cases (segments '/' template)[i]? <;> simp
  rw [bindings, h.segments_fill, hzip, List.filterMap_map, assigned]
  refine List.filterMap_congr fun ⟨slot, i⟩ _ => ?_
  cases hp : placeholder? slot <;> simp [hp]

theorem Fits.head?_fill (h : Fits values template) :
    (fill values template).toList.head? = some '/' := by
  obtain ⟨resource, further, further', -, hpath, -⟩ := h.exists_segments
  rw [toList_of_segments hpath]
  rfl

end Routing

/-! ### Templates as paths -/

namespace Routing

open Text

variable {template : String}

/-- Taking trailing slashes off does not leave just the resource of a longer template: there are
none, or a segment below the resource stays. -/
def Requestable (template : String) : Prop :=
  template = "/" ∨ template.toList.getLast? ≠ some '/' ∨
    ∃ s ∈ (segments '/' template).drop 2, s ≠ ""

/-- The rule of a template's own text selects it when the template is requestable. -/
theorem selects_self_iff (hslash : template.toList.head? = some '/')
    (hline : '\n' ∉ template.toList) :
    (Rule.ofPath (normalPath template)).selects template = true ↔ Requestable template := by
  obtain ⟨k, htext, hsegments⟩ := exists_segments_normalPath hslash
  obtain ⟨resource, further, hnormal⟩ := exists_segments (head?_normalPath hslash)
  rw [hnormal] at hsegments
  rw [List.cons_append, List.cons_append] at hsegments
  rw [selects_iff_of_segments hnormal hsegments hline, Requestable, hsegments]
  have hends : (further = [] ↔ further ++ List.replicate k "" = []) ↔ further ≠ [] ∨ k = 0 := by
    cases further <;> cases k <;> simp
  rw [hends]
  constructor
  · rintro (hbelow | rfl)
    · exact .inr (.inr ⟨further.getLast hbelow,
        List.mem_append_left _ (List.getLast_mem hbelow), getLast_normalPath_ne hnormal hbelow⟩)
    · have hself : normalPath template = template := by
        rw [← String.toList_inj, htext, List.replicate_zero, List.append_nil]
      have hor := normalPath_eq_or template
      rw [hself] at hor
      exact hor.imp_right .inl
  · rintro (rfl | hlast | ⟨s, hs, hne⟩)
    · have hlength := congrArg List.length htext
      rw [List.length_append, List.length_replicate] at hlength
      exact .inr (Nat.left_eq_add.1 hlength)
    · refine .inr (Nat.eq_zero_of_not_pos fun hk => hlast ?_)
      rw [htext, List.getLast?_append, List.getLast?_replicate, if_neg (Nat.ne_of_gt hk)]
      rfl
    · rcases List.mem_append.1 hs with hmem | hmem
      · exact .inl (List.ne_nil_of_mem hmem)
      · exact absurd (List.eq_of_mem_replicate hmem) hne

end Routing

/-! ### Dispatch -/

namespace Document

open Routing

variable {d : Document} {values : Nat → String} {template : String} {rule : Rule}

/-- **A request for an instance of a template is dispatched to it, unless another template claims it
too, and binds what was put for the placeholders.** -/
theorem route_fill (h : Fits values template) (hmem : template ∈ d.templates)
    (hrule : Rule.ofPath? (normalPath (fill values template)) = some rule) :
    rule.selects template = true ∧
      (d.templateFor (fill values template) = .ok template ∨
        d.templateFor (fill values template) = .error .ambiguousUrl) ∧
      (d.templateFor (fill values template) = .ok template ↔
        ∀ other ∈ d.templates.erase template, rule.selects other = false) ∧
      ∀ method route, d.route method (fill values template) = .ok route →
        route.bindings = assigned values template ∧
          ∀ name value, route.value? name = some value ↔
            ∃ i, placeholderAt template i = some name ∧ values i = value ∧
              ∀ j, i < j → placeholderAt template j ≠ some name := by
  have hnormal := h.normalPath_fill
  have hslash : (normalPath (fill values template)).toList.head? = some '/' := by
    rw [hnormal]
    exact h.head?_fill
  have hsel : rule.selects template = true := by
    rw [← (Rule.ofPath?_eq_some_iff.1 hrule).1, hnormal]
    exact h.selects
  have hfound := templateFor_of_selects hrule hslash hmem hsel
  refine ⟨hsel, hfound, templateFor_eq_ok_iff_erase hrule hslash hmem hsel, ?_⟩
  intro method route hroute
  have hbindings : route.bindings = bindings template (fill values template) := by
    obtain ⟨found, item, op, ha, rfl⟩ := (route_eq_ok_iff hrule).1 hroute
    have hok := (templateFor_eq_ok_iff hrule).2 ⟨ha.slash, ha.selects⟩
    -- of the two outcomes for the path, a route leaves the first
    rcases hfound with heq | heq
    · rw [hok] at heq
      obtain rfl := Except.ok.inj heq
      rw [Route.of, hnormal]
    · rw [hok] at heq
      cases heq
  refine ⟨hbindings.trans h.bindings_fill, fun name value => ?_⟩
  rw [value?_eq_some_iff hbindings, h.segments_fill]
  refine exists_congr fun i => and_congr_right fun hname => and_congr ?_ ?_
  · rw [getElem?_filledSegments_of_placeholderAt hname, Option.some.injEq]
  · refine forall₂_congr fun j hj => ?_
    constructor
    · intro hnone hname'
      rw [getElem?_filledSegments_of_placeholderAt hname'] at hnone
      cases hnone hname'
    · exact fun hne hname' => absurd hname' hne

/-- A template with a name twice. -/
def orderTemplate : String := "/users/\x7bid\x7d/orders/\x7bid\x7d"

/-- A document with that template alone. -/
def orderListing : Document where
  paths := [(orderTemplate, .object [("get", .object [])])]
  definitions := []
  parameters := []
  others := []

/-- The values for the two placeholders, at the segments where these stand. -/
def seventhEighth (i : Nat) : String := if i = 2 then "7" else "8"

theorem fits_seventhEighth : Fits seventhEighth orderTemplate where
  slash := by decide
  line := by decide
  ending := .inr (by decide)
  resource := by decide
  value i name _ := by
    unfold seventhEighth
    split <;> decide

theorem fill_seventhEighth : fill seventhEighth orderTemplate = "/users/7/orders/8" := by
  decide

theorem ofPath?_seventhEighth :
    Rule.ofPath? (normalPath (fill seventhEighth orderTemplate)) = some ⟨"users", true⟩ := by
  rw [fill_seventhEighth]
  exact Rule.ofPath?_eq_some_iff.2 ⟨by decide, by decide⟩

/-- The name has the second value. -/
theorem route_seventhEighth :
    Fits seventhEighth orderTemplate ∧ orderTemplate ∈ orderListing.templates ∧
      Rule.ofPath? (normalPath (fill seventhEighth orderTemplate)) = some ⟨"users", true⟩ ∧
      ∃ route, orderListing.route ⟨"GET", by decide, by decide⟩ "/users/7/orders/8" = .ok route ∧
        route.bindings = [("id", "7"), ("id", "8")] ∧ route.value? "id" = some "8" := by
  have hmem : orderTemplate ∈ orderListing.templates := by decide
  obtain ⟨-, -, hunique, hroute⟩ :=
    route_fill fits_seventhEighth hmem ofPath?_seventhEighth
  rw [fill_seventhEighth] at hunique hroute
  have hkey : Http.Method.key ⟨"GET", by decide, by decide⟩ = "get" := by
    rw [← String.toList_inj, Http.Method.key, Text.toList_lower]
    rfl
  have hok : orderListing.route ⟨"GET", by decide, by decide⟩ "/users/7/orders/8" =
      .ok (Route.of _ _ orderTemplate [("get", .object [])] []) :=
    route_of_operation (hunique.2 (by decide)) rfl (by rw [hkey]; rfl)
  obtain ⟨hbindings, hvalue⟩ := hroute _ _ hok
  have hlast : ∀ j, 4 < j → placeholderAt orderTemplate j ≠ some "id" := by
    intro j hj
    have hlength : (Text.segments '/' orderTemplate).length = 5 := by decide
    rw [placeholderAt, List.getElem?_eq_none (by omega)]
    exact nofun
  exact ⟨fits_seventhEighth, hmem, ofPath?_seventhEighth,
    _, hok, hbindings, (hvalue "id" "8").2 ⟨4, by decide, rfl, hlast⟩⟩

/-- **A template is reached by its own text, unless another one claims it too, when it is
requestable and only then.** -/
theorem templateFor_self (hmem : template ∈ d.templates)
    (hslash : template.toList.head? = some '/') (hline : '\n' ∉ template.toList)
    (hrule : Rule.ofPath? (normalPath template) = some rule) :
    (Requestable template →
      d.templateFor template = .ok template ∨ d.templateFor template = .error .ambiguousUrl) ∧
    (d.templateFor template = .ok template ↔
      Requestable template ∧ ∀ other ∈ d.templates.erase template, rule.selects other = false) := by
  have hnormal := head?_normalPath hslash
  have hself : rule.selects template = true ↔ Requestable template := by
    rw [← (Rule.ofPath?_eq_some_iff.1 hrule).1]
    exact selects_self_iff hslash hline
  constructor
  · exact fun hrequestable => templateFor_of_selects hrule hnormal hmem (hself.2 hrequestable)
  · constructor
    · intro hok
      have hsel := ((templateFor_eq_ok_iff hrule).1 hok).2.selects
      exact ⟨hself.1 hsel, (templateFor_eq_ok_iff_erase hrule hnormal hmem hsel).1 hok⟩
    · rintro ⟨hrequestable, hothers⟩
      have hsel := hself.2 hrequestable
      exact (templateFor_eq_ok_iff_erase hrule hnormal hmem hsel).2 hothers

/-- A document with the given templates, none of which has an operation. -/
def bare (templates : List String) : Document where
  paths := templates.map fun template => (template, .object [])
  definitions := []
  parameters := []
  others := []

@[simp] theorem templates_bare (templates : List String) :
    (bare templates).templates = templates := by
  rw [Document.templates, bare, Fields.keys, List.map_map]
  exact List.map_id' templates

theorem ofPath?_usersList :
    Rule.ofPath? (normalPath "/users/list/") = some ⟨"users", true⟩ :=
  Rule.ofPath?_eq_some_iff.2 ⟨by decide, by decide⟩

/-- With a second segment, the slash at the end of a template does not matter. -/
theorem templateFor_usersList :
    "/users/list/" ∈ (bare ["/users/list/"]).templates ∧
      Rule.ofPath? (normalPath "/users/list/") = some ⟨"users", true⟩ ∧
      Requestable "/users/list/" ∧
      (bare ["/users/list/"]).templateFor "/users/list/" = .ok "/users/list/" := by
  have hmem : "/users/list/" ∈ (bare ["/users/list/"]).templates := by decide
  have hrequestable : Requestable "/users/list/" := .inr (.inr ⟨"list", by decide, by decide⟩)
  obtain ⟨-, hiff⟩ := templateFor_self hmem (by decide) (by decide) ofPath?_usersList
  exact ⟨hmem, ofPath?_usersList, hrequestable, hiff.2 ⟨hrequestable, by decide⟩⟩

theorem ofPath?_users : Rule.ofPath? (normalPath "/users/") = some ⟨"users", false⟩ :=
  Rule.ofPath?_eq_some_iff.2 ⟨by decide, by decide⟩

/-- A template of one segment with a slash at the end is not found by its own text, and another
template may be found instead. -/
theorem templateFor_trailing_slash :
    (("/users/").toList.head? = some '/' ∧ '\n' ∉ ("/users/").toList ∧
      (∀ s ∈ Text.segments '/' "/users/", placeholder? s = none) ∧
      Rule.ofPath? (normalPath "/users/") = some ⟨"users", false⟩ ∧
      "/users/" ∈ (bare ["/users/"]).templates ∧
      "/users/" ∈ (bare ["/users/", "/users_admin"]).templates) ∧
    (bare ["/users/"]).templateFor "/users/" = .error .unknownUrl ∧
    (bare ["/users/", "/users_admin"]).templateFor "/users/" = .ok "/users_admin" := by
  have hslash : (normalPath "/users/").toList.head? = some '/' := by decide
  have hself : Rule.selects ⟨"users", false⟩ "/users/" = false := by
    simp [Rule.selects, Rule.pattern, accepts, RunClass.holds]
  have hother : Rule.selects ⟨"users", false⟩ "/users_admin" = true := by
    simp [Rule.selects, Rule.pattern, accepts, RunClass.holds]
  refine ⟨⟨by decide, by decide, by decide, ofPath?_users, by decide, by decide⟩, ?_, ?_⟩
  · exact (templateFor_eq_unknownUrl_iff ofPath?_users).2 (.inr (by simpa using hself))
  · refine (templateFor_eq_ok_iff ofPath?_users).2 ⟨hslash, by decide, hother, ?_⟩
    simp [hself, hother]

end Document

end ApiContract
