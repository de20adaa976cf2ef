import ApiContract.Routing.Route
import ApiContract.Proofs.FirstFailure

/-
Dispatch: which operation answers a path and a method.

`ApiContract.Document.route` runs through path, template, path item and operation.  Each step is
given here by what has to hold of the document for its outcome, for paths that have a rule at all.

Main definitions:

* `ApiContract.Document.Selects` — a template is the only one that a rule selects;
* `ApiContract.Document.Answers` — an operation of the document answers a method and a path.

Main results:

* `ApiContract.Document.templateFor_eq_ok_iff`, `templateFor_eq_unknownUrl_iff`,
  `templateFor_eq_ambiguousUrl_iff` — the template of a path;
* `ApiContract.Document.pathItem_eq_ok_iff`, `ApiContract.Document.operation_eq_ok_iff` and their
  counterparts for failure — path item and operation;
* `ApiContract.Document.route_eq_ok_iff` — **a route is a template, an item and an operation that
  the document has, with the bindings of the path**.
-/

set_option autoImplicit false

namespace ApiContract

open Routing

namespace Document

/-- The template is the only one that the rule selects. -/
structure Selects (d : Document) (rule : Rule) (template : String) : Prop where
  mem : template ∈ d.templates
  selects : rule.selects template = true
  /-- No other entry of the paths is selected. -/
  single : d.templates.countP rule.selects = 1

variable {d : Document} {rule : Rule} {path template key : String} {item : Fields}

/-! ### Templates -/

theorem filter_eq_singleton_iff :
    d.templates.filter rule.selects = [template] ↔ d.Selects rule template := by
  constructor
  · intro h
    have hmem : template ∈ d.templates.filter rule.selects := by simp [h]
    obtain ⟨hmem, hsel⟩ := List.mem_filter.1 hmem
    exact ⟨hmem, hsel, by rw [List.countP_eq_length_filter, h, List.length_singleton]⟩
  · intro h
    have hlen := h.single
    rw [List.countP_eq_length_filter] at hlen
    obtain ⟨other, ho⟩ := List.length_eq_one_iff.1 hlen
    have hmem : template ∈ d.templates.filter rule.selects := List.mem_filter.2 ⟨h.mem, h.selects⟩
    rw [ho, List.mem_singleton] at hmem
    rw [ho, hmem]

section Template

variable (hrule : Rule.ofPath? (normalPath path) = some rule)

include hrule

/-- Only the templates that the rule selects decide. -/
theorem templateFor_eq (hslash : (normalPath path).toList.head? = some '/') :
    d.templateFor path =
      match d.templates.filter rule.selects with
      | [] => .error .unknownUrl
      | [template] => .ok template
      | _ => .error .ambiguousUrl := by
  unfold templateFor
  rw [if_pos hslash]
  split
  · next hnone =>
      rw [hrule] at hnone
      cases hnone
  · next found hfound =>
      rw [hrule] at hfound
      obtain rfl := Option.some.inj hfound
      rfl

omit hrule in
/-- A path with a template has a rule. -/
theorem exists_rule_of_templateFor (h : d.templateFor path = .ok template) :
    ∃ rule, Rule.ofPath? (normalPath path) = some rule := by
  cases hrule : Rule.ofPath? (normalPath path) with
  | some rule => exact ⟨rule, rfl⟩
  | none => simp [templateFor, hrule] at h

omit hrule in
theorem templateFor_of_not_slash (hslash : (normalPath path).toList.head? ≠ some '/') :
    d.templateFor path = .error .unknownUrl := by
  unfold templateFor
  simp only [if_neg hslash]

theorem templateFor_eq_ok_iff :
    d.templateFor path = .ok template ↔
      (normalPath path).toList.head? = some '/' ∧ d.Selects rule template := by
  rw [← filter_eq_singleton_iff]
  by_cases hslash : (normalPath path).toList.head? = some '/'
  · rw [templateFor_eq hrule hslash]
    rcases d.templates.filter rule.selects with _ | ⟨t, _ | ⟨t', rest⟩⟩ <;> simp [hslash]
  · simp [templateFor_of_not_slash hslash, hslash]

theorem templateFor_eq_unknownUrl_iff :
    d.templateFor path = .error .unknownUrl ↔
      (normalPath path).toList.head? ≠ some '/' ∨
        ∀ template ∈ d.templates, rule.selects template = false := by
  have hnone : (∀ template ∈ d.templates, rule.selects template = false) ↔
      d.templates.filter rule.selects = [] := by simp [List.filter_eq_nil_iff]
  rw [hnone]
  by_cases hslash : (normalPath path).toList.head? = some '/'
  · rw [templateFor_eq hrule hslash]
    rcases d.templates.filter rule.selects with _ | ⟨t, _ | ⟨t', rest⟩⟩ <;> simp [hslash]
  · simp [templateFor_of_not_slash hslash, hslash]

theorem templateFor_eq_ambiguousUrl_iff :
    d.templateFor path = .error .ambiguousUrl ↔
      (normalPath path).toList.head? = some '/' ∧ 2 ≤ d.templates.countP rule.selects := by
  rw [List.countP_eq_length_filter]
  by_cases hslash : (normalPath path).toList.head? = some '/'
  · rw [templateFor_eq hrule hslash]
    rcases d.templates.filter rule.selects with _ | ⟨t, _ | ⟨t', rest⟩⟩ <;> simp [hslash]
  · simp [templateFor_of_not_slash hslash, hslash]

/-- A path without a template is unknown or ambiguous. -/
theorem templateFor_eq_error {refusal : Refusal} (h : d.templateFor path = .error refusal) :
    refusal = .unknownUrl ∨ refusal = .ambiguousUrl := by
  by_cases hslash : (normalPath path).toList.head? = some '/'
  · rw [templateFor_eq hrule hslash] at h
    -- none, one or several templates
    generalize d.templates.filter rule.selects = selected at h
    rcases selected with _ | ⟨t, _ | ⟨t', rest⟩⟩
    · exact .inl (Except.error.inj h).symm
    · cases h
    · exact .inr (Except.error.inj h).symm
  · rw [templateFor_of_not_slash hslash] at h
    exact .inl (Except.error.inj h).symm

/-- A template that is selected is the one of the path unless another entry of the paths is selected
too. -/
theorem templateFor_eq_ok_iff_erase (hslash : (normalPath path).toList.head? = some '/')
    (hmem : template ∈ d.templates) (hsel : rule.selects template = true) :
    d.templateFor path = .ok template ↔
      ∀ other ∈ d.templates.erase template, rule.selects other = false := by
  have hcount : d.templates.countP rule.selects =
      (d.templates.erase template).countP rule.selects + 1 := by
    rw [(List.perm_cons_erase hmem).countP_eq, List.countP_cons_of_pos hsel]
  rw [templateFor_eq_ok_iff hrule]
  constructor
  · rintro ⟨-, h⟩ other hother
    have hsingle := h.single
    have hzero : (d.templates.erase template).countP rule.selects = 0 := by omega
    exact Bool.eq_false_iff.2 (List.countP_eq_zero.1 hzero other hother)
  · intro h
    have hzero : (d.templates.erase template).countP rule.selects = 0 :=
      List.countP_eq_zero.2 fun other hother => Bool.eq_false_iff.1 (h other hother)
    exact ⟨hslash, hmem, hsel, by omega⟩

/-- Where a template is selected, the path has no other template. -/
theorem templateFor_of_selects (hslash : (normalPath path).toList.head? = some '/')
    (hmem : template ∈ d.templates) (hsel : rule.selects template = true) :
    d.templateFor path = .ok template ∨ d.templateFor path = .error .ambiguousUrl := by
  cases h : d.templateFor path with
  | ok found =>
      have hfound := filter_eq_singleton_iff.2 ((templateFor_eq_ok_iff hrule).1 h).2
      have hin : template ∈ d.templates.filter rule.selects := List.mem_filter.2 ⟨hmem, hsel⟩
      rw [hfound, List.mem_singleton] at hin
      exact .inl (by rw [hin])
  | error refusal =>
      rcases templateFor_eq_error hrule h with rfl | rfl
      · rcases (templateFor_eq_unknownUrl_iff hrule).1 h with hno | hno
        · exact absurd hslash hno
        · rw [hno template hmem] at hsel
          cases hsel
      · exact .inr rfl

end Template

/-- The order of the templates does not matter. -/
theorem templateFor_eq_of_perm {d' : Document} (h : d'.templates.Perm d.templates)
    (path : String) : d'.templateFor path = d.templateFor path := by
  by_cases hslash : (normalPath path).toList.head? = some '/'
  · cases hrule : Rule.ofPath? (normalPath path) with
    | none => simp [templateFor, hrule]
    | some rule =>
        rw [templateFor_eq hrule hslash, templateFor_eq hrule hslash]
        -- none stays none, a single template is the same one, and several stay several
        have hfilter := h.filter rule.selects
        have hlength := hfilter.length_eq
        rcases hd : d.templates.filter rule.selects with _ | ⟨t, _ | ⟨t', rest⟩⟩
        · rw [hd] at hfilter
          rw [hfilter.eq_nil]
        · rw [hd] at hfilter
          rw [hfilter.eq_singleton]
        · rcases hd' : d'.templates.filter rule.selects with _ | ⟨s, _ | ⟨s', rest'⟩⟩
          · simp [hd, hd'] at hlength
          · simp [hd, hd'] at hlength
          · rfl
  · rw [templateFor_of_not_slash hslash, templateFor_of_not_slash hslash]

/-! ### Path items -/

theorem pathItem_eq_ok_iff :
    d.pathItem template = .ok item ↔ d.paths.get? template = some (.object item) := by
  unfold pathItem
  rcases d.paths.get? template with _ | node
  · simp
  · cases node <;> simp

/-- The item of a documented template is at fault when it is no mapping. -/
theorem pathItem_eq_error_iff {fault : Fault} (ht : template ∈ d.templates) :
    d.pathItem template = .error fault ↔
      (∃ node, d.paths.get? template = some node ∧ ∀ item, node ≠ .object item) ∧
        fault = .malformedNode ("#/paths/" ++ template) .mapping := by
  obtain ⟨node, hnode⟩ : ∃ node, d.paths.get? template = some node :=
    Fields.exists_get?_of_mem_keys ht
  unfold pathItem
  rw [hnode]
  cases node <;> simp [eq_comm]

/-! ### Operations -/

theorem operation_eq_ok_iff {op : Fields} :
    operation template item key = .ok op ↔
      key ∈ operationKeys ∧ item.get? key = some (.object op) := by
  unfold operation
  by_cases hk : key ∈ operationKeys
  · rw [if_pos hk]
    rcases item.get? key with _ | node
    · simp
    · cases node <;> simp [hk]
  · simp [hk]

theorem operation_eq_refused_iff {refusal : Refusal} :
    operation template item key = .error (.refused refusal) ↔
      (key ∉ operationKeys ∨ item.get? key = none) ∧ refusal = .methodNotAllowed := by
  unfold operation
  by_cases hk : key ∈ operationKeys
  · rw [if_pos hk]
    rcases item.get? key with _ | node
    · simp [eq_comm]
    · cases node <;> simp [hk]
  · simp [hk, eq_comm]

theorem operation_eq_faulty_iff {fault : Fault} :
    operation template item key = .error (.faulty fault) ↔
      key ∈ operationKeys ∧ (∃ node, item.get? key = some node ∧ ∀ op, node ≠ .object op) ∧
        fault = .malformedNode s!"#/paths/{template}/{key}" .mapping := by
  unfold operation
  by_cases hk : key ∈ operationKeys
  · rw [if_pos hk]
    rcases item.get? key with _ | node
    · simp
    · cases node <;> simp [hk, eq_comm]
  · simp [hk]

/-! ### Routes -/

/-- The operation of the item under `template` answers a method and a path with the given rule. -/
structure Answers (d : Document) (rule : Rule) (method : Http.Method) (path template : String)
    (item operation : Fields) : Prop where
  slash : (normalPath path).toList.head? = some '/'
  selects : d.Selects rule template
  pathItem : d.paths.get? template = some (.object item)
  documented : method.key ∈ operationKeys
  entry : item.get? method.key = some (.object operation)

end Document

/-- The route of a path to an operation, with what the template binds. -/
def Route.of (method : Http.Method) (path template : String) (item operation : Fields) : Route where
  template
  method := method.key
  item
  operation
  bindings := Routing.bindings template (normalPath path)
  thirdSegment := (Text.segments '/' (normalPath path))[2]?

namespace Document

variable {d : Document} {rule : Rule} {method : Http.Method} {path template : String}
  {item : Fields}

/-- Of a path the normal form counts. -/
theorem route_eq_of_normalPath {path' : String} (h : normalPath path' = normalPath path) :
    d.route method path' = d.route method path := by
  have ht : d.templateFor path' = d.templateFor path := by
    unfold templateFor
    rw [h]
  unfold route
  rw [ht, h]

theorem route_of_templateFor_error {refusal : Refusal}
    (ht : d.templateFor path = .error refusal) :
    d.route method path = .error (.refused refusal) := by
  unfold route
  rw [ht]
  rfl

theorem route_of_pathItem_error {fault : Fault} (ht : d.templateFor path = .ok template)
    (hi : d.pathItem template = .error fault) : d.route method path = .error (.faulty fault) := by
  unfold route
  rw [ht]
  simp only [Check.ofRefusal, bind, Except.bind, hi, Check.ofFault]

theorem route_of_operation_error {rejection : Rejection} (ht : d.templateFor path = .ok template)
    (hi : d.pathItem template = .ok item)
    (ho : operation template item method.key = .error rejection) :
    d.route method path = .error rejection := by
  unfold route
  rw [ht]
  simp only [Check.ofRefusal, bind, Except.bind, hi, Check.ofFault, ho]

theorem route_of_operation {op : Fields} (ht : d.templateFor path = .ok template)
    (hi : d.pathItem template = .ok item) (ho : operation template item method.key = .ok op) :
    d.route method path = .ok (Route.of method path template item op) := by
  unfold route
  rw [ht]
  simp only [Check.ofRefusal, bind, Except.bind, hi, Check.ofFault, ho]
  rfl

/-- **A route is an operation that answers, with the bindings of the path.** -/
theorem route_eq_ok_iff (hrule : Rule.ofPath? (normalPath path) = some rule) {route : Route} :
    d.route method path = .ok route ↔
      ∃ template item op, d.Answers rule method path template item op ∧
        route = Route.of method path template item op := by
  constructor
  · intro h
    cases ht : d.templateFor path with
    | error refusal => rw [route_of_templateFor_error ht] at h; cases h
    | ok template =>
        cases hi : d.pathItem template with
        | error fault => rw [route_of_pathItem_error ht hi] at h; cases h
        | ok item =>
            cases ho : operation template item method.key with
            | error rejection => rw [route_of_operation_error ht hi ho] at h; cases h
            | ok op =>
                rw [route_of_operation ht hi ho] at h
                obtain ⟨hslash, hsel⟩ := (templateFor_eq_ok_iff hrule).1 ht
                obtain ⟨hk, hop⟩ := operation_eq_ok_iff.1 ho
                exact ⟨template, item, op, ⟨hslash, hsel, pathItem_eq_ok_iff.1 hi, hk, hop⟩,
                  (Except.ok.inj h).symm⟩
  · rintro ⟨template, item, op, ha, rfl⟩
    exact route_of_operation ((templateFor_eq_ok_iff hrule).2 ⟨ha.slash, ha.selects⟩)
      (pathItem_eq_ok_iff.2 ha.pathItem) (operation_eq_ok_iff.2 ⟨ha.documented, ha.entry⟩)

/-- The operation of a route answers by some rule. -/
theorem exists_answers_of_route {route : Route} (h : d.route method path = .ok route) :
    ∃ rule template item op, d.Answers rule method path template item op ∧
      route = Route.of method path template item op := by
  cases ht : d.templateFor path with
  | error refusal => rw [route_of_templateFor_error ht] at h; cases h
  | ok template =>
      obtain ⟨rule, hrule⟩ := exists_rule_of_templateFor ht
      exact ⟨rule, (route_eq_ok_iff hrule).1 h⟩

/-- The only fault of a route is a malformed node. -/
theorem malformed_of_route_eq_faulty {fault : Fault}
    (h : d.route method path = .error (.faulty fault)) :
    ∃ location expected, fault = .malformedNode location expected := by
  cases ht : d.templateFor path with
  | error refusal => rw [route_of_templateFor_error ht] at h; cases h
  | ok template =>
      obtain ⟨rule, hrule⟩ := exists_rule_of_templateFor ht
      have hmem := ((templateFor_eq_ok_iff hrule).1 ht).2.mem
      cases hi : d.pathItem template with
      | error stopped =>
          rw [route_of_pathItem_error ht hi] at h
          cases h
          obtain ⟨-, rfl⟩ := (pathItem_eq_error_iff hmem).1 hi
          exact ⟨_, _, rfl⟩
      | ok item =>
          cases ho : operation template item method.key with
          | error rejection =>
              rw [route_of_operation_error ht hi ho] at h
              cases h
              obtain ⟨-, -, rfl⟩ := operation_eq_faulty_iff.1 ho
              exact ⟨_, _, rfl⟩
          | ok op => rw [route_of_operation ht hi ho] at h; cases h

end Document

end ApiContract
