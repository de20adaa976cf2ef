import ApiContract.Document.Issue
import ApiContract.Text.Case

/-
The listing of documented operations: a line `METHOD template` for each, in the order of the
document.  Path items that are no mappings have no operations.

Main definitions:

* `ApiContract.Document.routes` — the documented pairs of method and template;
* `ApiContract.Listing` — lines that have been written, with their number;
* `ApiContract.Document.listing` — the listing of a document, written in one pass.

Main results:

* `ApiContract.Document.listing_eq` — the listing has a line for each documented pair, and counts
  them.
-/

set_option autoImplicit false

namespace ApiContract

namespace Document

/-- The documented pairs of an entry of the paths, methods in capitals. -/
def pathRoutes (entry : String × Json) : List (String × String) :=
  match entry.2 with
  | .object item =>
    (item.filter fun field => field.1 ∈ operationKeys).map fun field =>
      (Text.upper field.1, entry.1)
  | _ => []

/-- The documented pairs of method and template. -/
def routes (d : Document) : List (String × String) := d.paths.flatMap pathRoutes

/-- The lines for pairs of method and template. -/
def routeLines (routes : List (String × String)) : String :=
  String.join (routes.map fun (method, template) => s!"{method} {template}\n")

end Document

/-- Lines that have been written, and their number. -/
structure Listing where
  text : String
  count : Nat
  deriving DecidableEq, Repr

namespace Listing

/-- Nothing has been written. -/
def empty : Listing := ⟨"", 0⟩

/-- One line more. -/
def add (l : Listing) (method template : String) : Listing :=
  ⟨l.text ++ s!"{method} {template}\n", l.count + 1⟩

/-- A line more for each operation of an entry of the paths. -/
def addPath (l : Listing) (entry : String × Json) : Listing :=
  match entry.2 with
  | .object item =>
    (item.filter fun field => field.1 ∈ operationKeys).foldl
      (fun l field => l.add (Text.upper field.1) entry.1) l
  | _ => l

end Listing

/-- The listing of a document. -/
def Document.listing (d : Document) : Listing := d.paths.foldl Listing.addPath .empty

/-- Writing pairs one after the other adds their lines and their number. -/
theorem Listing.foldl_add (routes : List (String × String)) (l : Listing) :
    routes.foldl (fun l route => l.add route.1 route.2) l =
      ⟨l.text ++ Document.routeLines routes, l.count + routes.length⟩ := by
  induction routes generalizing l with
  | nil => simp [Document.routeLines]
  | cons route routes ih =>
      rw [List.foldl_cons, ih]
      simp [add, Document.routeLines, String.append_assoc, Nat.add_assoc, Nat.add_comm 1]

/-- **The listing has a line for each documented pair, and counts them.** -/
theorem Document.listing_eq (d : Document) :
    d.listing = ⟨routeLines d.routes, d.routes.length⟩ := by
  have hroutes : d.listing = d.routes.foldl (fun l route => l.add route.1 route.2) .empty := by
    rw [routes, List.foldl_flatMap, listing]
    congr 1
    funext l entry
    unfold Listing.addPath pathRoutes
    cases entry.2 with
    | object item => rw [List.foldl_map]
    | _ => rfl
  rw [hroutes, Listing.foldl_add]
  simp [Listing.empty]

end ApiContract
