import ApiContract.Text.Blank
import ApiContract.Text.Case
import ApiContract.Text.Segments

/-
Settings: where an API is mounted, and how its path parameters get their values.

Main definitions:

* `ApiContract.PathBinding` — the two modes, and the words for them;
* `ApiContract.Settings` — path prefix, version and mode;
* `ApiContract.Settings.base` — the path under which the API is mounted;
* `ApiContract.Settings.relative` — a request path seen from there.
-/

set_option autoImplicit false

namespace ApiContract

/-- How a path parameter gets its value. -/
inductive PathBinding where
  /-- From the segment at its place in the template. -/
  | template
  /-- From the segment after the resource, whatever the template. -/
  | thirdSegment
  deriving DecidableEq, Repr

namespace PathBinding

/-- The name of a mode. -/
def name : PathBinding → String
  | template => "template"
  | thirdSegment => "third_segment"

/-- The mode with exactly this name. -/
def ofName? (s : String) : Option PathBinding :=
  if s = "template" then some template
  else if s = "third_segment" then some thirdSegment
  else none

/-- The mode that a word stands for, in any case and with hyphens for underscores. -/
def ofWord? (s : String) : Option PathBinding :=
  let word := (Text.lower s).map fun c => if c = '-' then '_' else c
  if word = "positional" then some thirdSegment else ofName? word

end PathBinding

/-- Where an API is mounted, and how path parameters get their values. -/
structure Settings where
  pathPrefix : String
  version : String
  binding : PathBinding
  deriving DecidableEq, Repr

namespace Settings

/-- No mount point, values from the template. -/
def default : Settings := ⟨"", "", .template⟩

/-- A slash and a part of the mount point, or nothing if only slashes are in the part. -/
def mountPart (part : String) : List Char :=
  match Text.trimWhere (· = '/') part.toList with
  | [] => []
  | cs => '/' :: cs

/-- The path under which the API is mounted: prefix and version, each behind one slash. -/
def baseChars (s : Settings) : List Char := mountPart s.pathPrefix ++ mountPart s.version

/-- The path under which the API is mounted. -/
def base (s : Settings) : String := String.ofList s.baseChars

/-- The path that is left when the base is taken off at the end of a segment; any other path stays
as it is. -/
def relative (s : Settings) (path : String) : String :=
  if s.baseChars = [] then path
  else
    match Text.dropPrefix s.baseChars path.toList with
    | some [] => "/"
    | some ('/' :: rest) => String.ofList ('/' :: rest)
    | _ => path

end Settings

end ApiContract
