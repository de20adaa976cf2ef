import ApiContract.Text.Blank
import ApiContract.Text.Segments

/-
Request paths, path templates, and what the one binds in the other.

Main definitions:

* `ApiContract.Routing.normalPath` — a path without trailing slashes;
* `ApiContract.Routing.placeholder?` — the name in a segment of the form of a name in braces;
* `ApiContract.Routing.bindings` — the segments of a path that stand at the placeholders of a
  template, with their names, in order.
-/

set_option autoImplicit false

namespace ApiContract.Routing

/-- A path without trailing slashes; the root path stays a slash. -/
def normalPath (path : String) : String :=
  match Text.trimEndWhere (· = '/') path.toList with
  | [] => "/"
  | cs => String.ofList cs

/-- The name in a segment that is a name in braces. -/
def placeholder? (segment : String) : Option String :=
  match segment.toList with
  | '\x7b' :: rest =>
    if rest.getLast? = some '\x7d' then some (String.ofList rest.dropLast) else none
  | _ => none

/-- Names and values of the placeholders of a template in a path, where the path is long enough to
have a segment for them. -/
def bindings (template path : String) : List (String × String) :=
  ((Text.segments '/' template).zip (Text.segments '/' path)).filterMap fun (slot, value) =>
    (placeholder? slot).map fun name => (name, value)

end ApiContract.Routing
