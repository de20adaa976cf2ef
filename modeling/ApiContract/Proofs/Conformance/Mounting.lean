import ApiContract.Proofs.Conformance.Verdict
import ApiContract.Proofs.Settings.MountPoint

/-
Where an API is mounted, and how its paths end.

The mount point and the trailing slashes of a request path are taken off before anything else is
looked at.  Two requests that differ there, and two settings that differ in the mount point, are
therefore told apart only as long as the paths that are left differ.

Main definitions:

* `ApiContract.Http.Request.atPath` — a request for another path.

Main results:

* `ApiContract.Conformance.validate_eq_of_normalPath` — of settings and path, the mode of binding and
  the path that is left count;
* `ApiContract.Conformance.validate_mounted` — **mounting only relocates an API**;
* `ApiContract.Conformance.validate_append_slashes` — **trailing slashes do not matter**.
-/

set_option autoImplicit false

namespace ApiContract

/-- The request for another path. -/
def Http.Request.atPath (r : Http.Request) (path : String) : Http.Request := { r with path }

namespace Conformance

open Document Routing Settings

variable {s s' : Settings} {d : Document} {request : Http.Request} {path path' : String}

/-! ### What is left of a path -/

/-- The mode of binding is all that a single parameter is checked by, apart from the route. -/
theorem checkOne_eq_of_binding (hb : s'.binding = s.binding) (route : Route) (p : Parameter) :
    checkOne s' d (request.atPath path') route p = checkOne s d (request.atPath path) route p := by
  unfold checkOne
  rw [hb]
  rfl

theorem validate_eq_of_normalPath (hb : s'.binding = s.binding)
    (hp : normalPath (s'.relative path') = normalPath (s.relative path)) :
    validate s' d (request.atPath path') = validate s d (request.atPath path) := by
  have hcheck : check s' d (request.atPath path') = check s d (request.atPath path) :=
    check_eq_of_checkOne_eq (route_eq_of_normalPath hp)
      fun route _ _ _ p _ => checkOne_eq_of_binding hb route p
  rw [validate, hcheck, validate]

/-! ### Mount points -/

/-- **Mounting only relocates an API.**  What is answered at a path without a mount point is answered
below it at the same path, the mount point being the root; and at every path outside the answer stays
what it is.  A mount point begins with a slash, ends in none, and does not depend on the slashes at
the ends of its parts. -/
theorem validate_mounted (s : Settings) (d : Document) (request : Http.Request) :
    (∀ path, path.toList.head? = some '/' →
      validate s d (request.atPath (s.base ++ path)) =
        validate s.unmounted d (request.atPath path)) ∧
    validate s d (request.atPath s.base) = validate s.unmounted d (request.atPath "/") ∧
    (∀ path, s.Outside path →
      validate s d (request.atPath path) = validate s.unmounted d (request.atPath path)) ∧
    ((s.base = "" ∨ s.base.toList.head? = some '/') ∧ s.base.toList.getLast? ≠ some '/') ∧
    ∀ pathPrefix version, SlashVariant s.pathPrefix pathPrefix → SlashVariant s.version version →
      validate { s with pathPrefix, version } d request = validate s d request := by
  refine ⟨fun path hslash => ?_, ?_, fun path hout => ?_, base_ends s, ?_⟩
  · refine validate_eq_of_normalPath rfl ?_
    rw [relative_below hslash, relative_unmounted]
  · refine validate_eq_of_normalPath rfl ?_
    rw [normalPath_relative_base, relative_unmounted]
    rfl
  · refine validate_eq_of_normalPath rfl ?_
    rw [hout.relative_eq, relative_unmounted]
  · intro pathPrefix version hp hv
    have hbase : Settings.baseChars { s with pathPrefix, version } = s.baseChars := by
      rw [baseChars, hp.mountPart_eq, hv.mountPart_eq, baseChars]
    exact @validate_eq_of_normalPath s _ d request request.path request.path rfl
      (by rw [relative_eq_of_baseChars hbase])

/-- The number that is none is what the request misses below the mount point. -/
theorem validate_underApi_limitTen :
    validate underApi userListing limitTen =
      .ok (.invalid (.wrongType .query "limit" .integer)) := by
  have hp : userListing.operationParameters "/users" [("get", .object listOperation)]
      limitTen.method.key listOperation =
        .ok ([] ++ ⟨"limit", some .query, false, .integer, none⟩ :: []) := rfl
  exact validate_of_missed (route_of_answered ofPath?_limitTen (answered_limitTen rfl)) hp (by simp)
    (.queryMistyped rfl rfl (by decide))

theorem outside_apis : underApi.Outside "/apis/users" where
  ne_base := by decide
  ne_below below hslash heq := by
    have htext : "/api".toList ++ "s/users".toList = "/api".toList ++ below.toList := by
      have hbase : underApi.base = "/api" := by decide
      rw [hbase] at heq
      rw [← String.toList_append, ← String.toList_append, ← heq]
      rfl
    rw [← List.append_cancel_left htext] at hslash
    exact absurd hslash (by decide)

/-- The same number is missed without a mount point, and under one with more slashes; a path that
only begins with the same letters is not below it. -/
theorem validate_limitTen_relocated :
    ("/users/").toList.head? = some '/' ∧ underApi.Outside "/apis/users" ∧
    SlashVariant "api" "//api/" ∧ SlashVariant "" "/" ∧
    validate underApi.unmounted userListing (limitTen.atPath "/users/") =
      .ok (.invalid (.wrongType .query "limit" .integer)) ∧
    validate underApi userListing (limitTen.atPath "/apis/users") =
      .ok (.invalid .unknownUrl) ∧
    validate { underApi with pathPrefix := "//api/", version := "/" } userListing limitTen =
      .ok (.invalid (.wrongType .query "limit" .integer)) := by
  obtain ⟨hbelow, -, houtside, -, hvariant⟩ := validate_mounted underApi userListing limitTen
  have hslash : ("/users/").toList.head? = some '/' := by decide
  have hprefix : SlashVariant "api" "//api/" := ⟨"api".toList, 0, 0, 2, 1, by decide, by decide⟩
  have hversion : SlashVariant "" "/" := ⟨[], 0, 0, 1, 0, by decide, by decide⟩
  refine ⟨hslash, outside_apis, hprefix, hversion, ?_, ?_, ?_⟩
  · have hpath : underApi.base ++ "/users/" = limitTen.path := by decide
    rw [← hbelow "/users/" hslash, hpath]
    exact validate_underApi_limitTen
  · have hrule : Rule.ofPath? (normalPath "/apis/users") = some ⟨"apis", true⟩ :=
      Rule.ofPath?_eq_some_iff.2 ⟨by decide, by decide⟩
    have hnone : userListing.templateFor "/apis/users" = .error .unknownUrl := by
      refine (templateFor_eq_unknownUrl_iff hrule).2 (.inr ?_)
      simp [templates, Fields.keys, userListing, Rule.selects, Rule.pattern, accepts]
    have hroute : userListing.route (limitTen.atPath "/apis/users").method
        (underApi.unmounted.relative (limitTen.atPath "/apis/users").path) =
          .error (.refused .unknownUrl) := by
      rw [relative_unmounted]
      exact route_of_templateFor_error hnone
    rw [houtside "/apis/users" outside_apis, validate_of_route_error hroute]
    rfl
  · rw [hvariant "//api/" "/" hprefix hversion]
    exact validate_underApi_limitTen

/-! ### Trailing slashes -/

/-- **Trailing slashes do not matter.**  A path with any number of slashes behind it has the route of
the path without, with the same bindings and the same third segment, and the same verdict. -/
theorem validate_append_slashes (s : Settings) (d : Document) (request : Http.Request)
    (path : String) (k : Nat) :
    d.route request.method (s.relative (path ++ Text.slashes k)) =
        d.route request.method (s.relative path) ∧
      validate s d (request.atPath (path ++ Text.slashes k)) =
        validate s d (request.atPath path) :=
  ⟨route_eq_of_normalPath (normalPath_relative_append_slashes s path k),
    validate_eq_of_normalPath rfl (normalPath_relative_append_slashes s path k)⟩

end Conformance

end ApiContract
