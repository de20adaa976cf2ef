import Mathlib.Data.List.Nodup
import ApiContract.Document.Listing
import ApiContract.Proofs.Document.Issue
import ApiContract.Proofs.Routing.Dispatch
import ApiContract.Proofs.Routing.Selection

/-
The listing of operations and the dispatch of requests.

The listing goes through the keys of each path item and writes those of operations in capitals;
dispatch looks the method of a request up in small letters.  They agree: a request is refused for
its method exactly when its method and the template of its path are not listed together.

Main definitions:

* `ApiContract.Document.Precedes` — the order of documented pairs in a document.

Main results:

* `ApiContract.Document.mem_routes_iff`, `mem_routes_iff_of_get?` — which pairs are listed;
* `ApiContract.Document.pairwise_routes`, `nodup_routes` — in which order, and none twice;
* `ApiContract.Document.route_iff_listed` — **dispatch agrees with the listing**.
-/

set_option autoImplicit false

namespace ApiContract

/-- The keys of operations are in small letters. -/
theorem lower_of_mem_operationKeys {key : String} (h : key ∈ operationKeys) :
    Text.lower key = key := by
  have hletters : ∀ key ∈ operationKeys, key.toList.map Char.toLower = key.toList := by decide
  apply String.toList_injective
  rw [Text.toList_lower, hletters key h]

namespace Document

open Routing

variable {d : Document} {template name key : String} {item : Fields}

/-! ### The pairs that are listed -/

theorem mem_pathRoutes_iff {entry : String × Json} {pair : String × String} :
    pair ∈ pathRoutes entry ↔
      ∃ (item : Fields) (key : String), entry.2 = .object item ∧ key ∈ item.keys ∧
        key ∈ operationKeys ∧ pair = (Text.upper key, entry.1) := by
  unfold pathRoutes
  cases hnode : entry.2 with
  | object item =>
      constructor
      · intro hmem
        obtain ⟨field, hfield, rfl⟩ := List.mem_map.1 hmem
        obtain ⟨hfield, hop⟩ := List.mem_filter.1 hfield
        exact ⟨item, field.1, rfl, List.mem_map_of_mem hfield, by simpa using hop, rfl⟩
      · rintro ⟨item', key, heq, hkey, hop, rfl⟩
        cases heq
        obtain ⟨field, hfield, rfl⟩ := List.mem_map.1 hkey
        exact List.mem_map.2 ⟨field, List.mem_filter.2 ⟨hfield, by simpa using hop⟩, rfl⟩
  | _ => simp

/-- **A pair is listed for each key of an operation in a path item that is a mapping.** -/
theorem mem_routes_iff :
    (name, template) ∈ d.routes ↔
      ∃ (item : Fields) (key : String), (template, .object item) ∈ d.paths ∧ key ∈ item.keys ∧
        key ∈ operationKeys ∧ name = Text.upper key := by
  rw [routes, List.mem_flatMap]
  constructor
  · rintro ⟨⟨other, node⟩, hpath, hmem⟩
    obtain ⟨item, key, rfl, hkey, hop, heq⟩ := mem_pathRoutes_iff.1 hmem
    cases heq
    exact ⟨item, key, hpath, hkey, hop, rfl⟩
  · rintro ⟨item, key, hpath, hkey, hop, rfl⟩
    exact ⟨_, hpath, mem_pathRoutes_iff.2 ⟨item, key, rfl, hkey, hop, rfl⟩⟩

/-- The method of a request is listed with a template if the item of the template has its key. -/
theorem mem_routes_iff_of_get? (hn : d.paths.keys.Nodup)
    (hitem : d.paths.get? template = some (.object item)) (method : Http.Method) :
    (Text.upper method.name, template) ∈ d.routes ↔
      method.key ∈ operationKeys ∧ item.get? method.key ≠ none := by
  have hupper : Text.upper method.key = Text.upper method.name := Text.upper_lower _
  rw [mem_routes_iff]
  constructor
  · rintro ⟨other, key, hother, hkey, hop, hname⟩
    obtain rfl : other = item := by
      have hget := (Fields.get?_eq_some_iff_mem hn).2 hother
      rw [hitem] at hget
      cases hget
      rfl
    -- in small letters the key is the method's own
    obtain rfl : method.key = key := by
      rw [← lower_of_mem_operationKeys hop, ← Text.lower_upper key, ← hname, Text.lower_upper]
      rfl
    obtain ⟨node, hnode⟩ := Fields.exists_get?_of_mem_keys hkey
    exact ⟨hop, by simp [hnode]⟩
  · rintro ⟨hop, hget⟩
    obtain ⟨node, hnode⟩ := Option.ne_none_iff_exists'.1 hget
    refine ⟨item, method.key, Fields.mem_of_get?_eq_some hitem, ?_, hop, hupper.symm⟩
    exact List.mem_map_of_mem (Fields.mem_of_get?_eq_some hnode)

/-! ### The order of the listing -/

/-- In a document one listed pair comes before another: its template stands before the other one, or
both belong to one path item, and its key stands before the other one. -/
inductive Precedes (d : Document) : String × String → String × String → Prop
  | template {pair pair' : String × String} :
      [pair.2, pair'.2].Sublist d.templates → Precedes d pair pair'
  | key {template key key' : String} {item : Fields} :
      (template, .object item) ∈ d.paths → key ∈ operationKeys → key' ∈ operationKeys →
      [key, key'].Sublist (Fields.keys item) →
      Precedes d (Text.upper key, template) (Text.upper key', template)

/-- **The listing is in the order of the document.** -/
theorem pairwise_routes (d : Document) : d.routes.Pairwise d.Precedes := by
  rw [routes, List.pairwise_flatMap]
  constructor
  · -- within one path item
    rintro ⟨template, node⟩ hpath
    unfold pathRoutes
    cases node with
    | object item =>
        rw [List.pairwise_map, List.pairwise_iff_forall_sublist]
        intro field field' hsub
        have hop : ∀ f ∈ [field, field'], f.1 ∈ operationKeys := fun f hf => by
          simpa using (List.mem_filter.1 (hsub.subset hf)).2
        refine .key hpath (hop _ (by simp)) (hop _ (by simp)) ?_
        exact (hsub.trans List.filter_sublist).map Prod.fst
    | _ => exact .nil
  · -- between two entries of the paths
    rw [List.pairwise_iff_forall_sublist]
    intro entry entry' hsub pair hpair pair' hpair'
    obtain ⟨-, -, -, -, -, rfl⟩ := mem_pathRoutes_iff.1 hpair
    obtain ⟨-, -, -, -, -, rfl⟩ := mem_pathRoutes_iff.1 hpair'
    exact .template (hsub.map Prod.fst)

/-- No pair comes before itself when no object in the paths repeats a key. -/
theorem Precedes.ne {pair pair' : String × String} (h : d.Precedes pair pair')
    (hd : (Json.object d.paths).KeysDistinct) : pair ≠ pair' := by
  intro heq
  cases h with
  | template hsub =>
      rw [heq] at hsub
      exact List.nodup_iff_sublist.1 hd.1 _ hsub
  | @key template key key' item hpath hop hop' hsub =>
      -- capitals of two keys of operations are the same only if the keys are
      obtain rfl : key = key' := by
        rw [← lower_of_mem_operationKeys hop, ← lower_of_mem_operationKeys hop', ← Text.lower_upper,
          ← Text.lower_upper key', (Prod.mk.inj heq).1]
      have hitem : (Json.object item).KeysDistinct := hd.of_mem hpath
      exact List.nodup_iff_sublist.1 hitem.1 _ hsub

theorem nodup_routes (hd : (Json.object d.paths).KeysDistinct) : d.routes.Nodup :=
  (pairwise_routes d).imp fun h => h.ne hd

/-! ### Dispatch -/

section Selected

variable {method : Http.Method} {path : String} (ht : d.templateFor path = .ok template)
  (hi : d.pathItem template = .ok item)

include ht hi

/-- A method is refused when the item of the template has no operation under its key. -/
theorem route_eq_methodNotAllowed_iff :
    d.route method path = .error (.refused .methodNotAllowed) ↔
      method.key ∉ operationKeys ∨ item.get? method.key = none := by
  have hiff : operation template item method.key = .error (.refused .methodNotAllowed) ↔
      method.key ∉ operationKeys ∨ item.get? method.key = none := by
    simp [operation_eq_refused_iff]
  rw [← hiff]
  cases ho : operation template item method.key with
  | error rejection => rw [route_of_operation_error ht hi ho]; simp
  | ok op => rw [route_of_operation ht hi ho]; simp

theorem exists_route_iff :
    (∃ route, d.route method path = .ok route) ↔
      method.key ∈ operationKeys ∧ ∃ op, item.get? method.key = some (.object op) := by
  cases ho : operation template item method.key with
  | error rejection =>
      rw [route_of_operation_error ht hi ho]
      constructor
      · rintro ⟨_, ⟨⟩⟩
      · rintro ⟨hop, op, hget⟩
        rw [operation_eq_ok_iff.2 ⟨hop, hget⟩] at ho
        cases ho
  | ok op =>
      rw [route_of_operation ht hi ho]
      obtain ⟨hop, hget⟩ := operation_eq_ok_iff.1 ho
      exact ⟨fun _ => ⟨hop, op, hget⟩, fun _ => ⟨_, rfl⟩⟩

end Selected

/-- **Dispatch agrees with the listing.**  A request whose path selects a template is refused for
its method exactly when method and template are not listed together, and in a document without
issues it has a route exactly when they are.  Each pair is listed once, in the order of the
document, and only for path items that are mappings; the listing counts the pairs. -/
theorem route_iff_listed (hd : (Json.object d.paths).KeysDistinct) :
    (∀ (method : Http.Method) (path template : String) (item : Fields),
      d.templateFor path = .ok template → d.paths.get? template = some (.object item) →
      (d.route method path = .error (.refused .methodNotAllowed) ↔
        (Text.upper method.name, template) ∉ d.routes) ∧
      (d.issues = [] → ((∃ route, d.route method path = .ok route) ↔
        (Text.upper method.name, template) ∈ d.routes))) ∧
    d.routes.Nodup ∧ d.routes.Pairwise d.Precedes ∧
    (∀ name template, (name, template) ∈ d.routes ↔
      ∃ (item : Fields) (key : String), (template, .object item) ∈ d.paths ∧ key ∈ item.keys ∧
        key ∈ operationKeys ∧ name = Text.upper key) ∧
    d.listing = ⟨routeLines d.routes, d.routes.length⟩ := by
  refine ⟨fun method path template item ht hitem => ?_, nodup_routes hd, pairwise_routes d,
    fun _ _ => mem_routes_iff, d.listing_eq⟩
  have hi : d.pathItem template = .ok item := pathItem_eq_ok_iff.2 hitem
  have hlisted := mem_routes_iff_of_get? hd.1 hitem method
  constructor
  · rw [route_eq_methodNotAllowed_iff ht hi, hlisted, not_and_or, not_not]
  · intro hclean
    rw [exists_route_iff ht hi, hlisted]
    constructor
    · rintro ⟨hop, op, hget⟩
      exact ⟨hop, by simp [hget]⟩
    · rintro ⟨hop, hget⟩
      obtain ⟨node, hnode⟩ := Option.ne_none_iff_exists'.1 hget
      -- no issues: whatever stands under the key of an operation is a mapping
      obtain ⟨op, rfl⟩ := operation_of_issues_eq_nil hclean (Fields.mem_of_get?_eq_some hitem)
        (Fields.mem_of_get?_eq_some hnode) hop
      exact ⟨hop, op, hnode⟩

/-! ### Users that can be read and added -/

/-- A path item with two operations; the key in capitals is no key of an operation. -/
def usersItem : Fields :=
  [("parameters", .array []), ("DELETE", .object []), ("post", .object []), ("get", .object [])]

/-- A document with that path item alone. -/
def usersListed : Document where
  paths := [("/users", .object usersItem)]
  definitions := []
  parameters := []
  others := []

theorem keysDistinct_usersListed : (Json.object usersListed.paths).KeysDistinct := by
  simp [usersListed, usersItem, Json.KeysDistinct, Json.KeysDistinctFields, Json.KeysDistinctItems]

theorem templateFor_usersListed : usersListed.templateFor "/users/" = .ok "/users" := by
  have hrule : Rule.ofPath? (normalPath "/users/") = some ⟨"users", false⟩ :=
    Rule.ofPath?_eq_some_iff.2 ⟨by decide, by decide⟩
  have hselects : Rule.selects ⟨"users", false⟩ "/users" = true := by
    simp [Rule.selects, Rule.pattern, accepts]
  refine (templateFor_eq_ok_iff hrule).2 ⟨by decide, by decide, hselects, ?_⟩
  simp [templates, Fields.keys, usersListed, hselects]

theorem issues_usersListed : usersListed.issues = [] := by
  refine issues_eq_nil_iff.2 ⟨fun entry hmem => ?_, fun located hmem => nomatch hmem⟩
  obtain rfl := List.mem_singleton.1 hmem
  rfl

/-- In whatever letters it is written, the one method is dispatched, and the other refused. -/
theorem route_usersListed :
    (Json.object usersListed.paths).KeysDistinct ∧ usersListed.issues = [] ∧
      usersListed.templateFor "/users/" = .ok "/users" ∧
      (∃ route, usersListed.route ⟨"gEt", by decide, by decide⟩ "/users/" = .ok route) ∧
      usersListed.route ⟨"DELETE", by decide, by decide⟩ "/users/" =
        .error (.refused .methodNotAllowed) := by
  have hitem : usersListed.paths.get? "/users" = some (.object usersItem) := rfl
  obtain ⟨hdispatch, -⟩ := route_iff_listed keysDistinct_usersListed
  refine ⟨keysDistinct_usersListed, issues_usersListed, templateFor_usersListed, ?_, ?_⟩
  · have hkey : Http.Method.key ⟨"gEt", by decide, by decide⟩ = "get" := by
      rw [← String.toList_inj, Http.Method.key, Text.toList_lower]
      rfl
    refine ((hdispatch _ _ _ _ templateFor_usersListed hitem).2 issues_usersListed).2 ?_
    rw [mem_routes_iff_of_get? keysDistinct_usersListed.1 hitem, hkey]
    decide
  · have hkey : Http.Method.key ⟨"DELETE", by decide, by decide⟩ = "delete" := by
      rw [← String.toList_inj, Http.Method.key, Text.toList_lower]
      rfl
    refine (hdispatch _ _ _ _ templateFor_usersListed hitem).1.2 ?_
    rw [mem_routes_iff_of_get? keysDistinct_usersListed.1 hitem, hkey]
    decide

end Document

end ApiContract
