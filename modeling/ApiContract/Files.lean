import ApiContract.Text.Case
import ApiContract.Text.Segments

/-
Files, as a view from paths to contents, and what the name of a file says about its format.

Main definitions:

* `ApiContract.Files` — the contents of the files that can be read;
* `ApiContract.Files.text?` — the text of a file;
* `ApiContract.fileName?`, `ApiContract.extension?` — the last name of a path, and its extension.
-/

set_option autoImplicit false

namespace ApiContract

/-- The contents of the files that can be read, by path. -/
abbrev Files := String → Option ByteArray

/-- The text of a file; a file that is not UTF-8 has none. -/
def Files.text? (files : Files) (path : String) : Option String :=
  (files path).bind String.fromUTF8?

/-- The last name of a path.  Empty names and names of one point do not count, unless the path
begins with the point; two points are no name. -/
def fileName? (path : String) : Option String :=
  let names := Text.segments '/' path
  let counted := (names.take 1).filter (· ≠ "") ++ (names.drop 1).filter fun n => n ≠ "" ∧ n ≠ "."
  match counted.getLast? with
  | none => none
  | some name => if name = "." ∨ name = ".." then none else some name

/-- The extension of a path: what follows the last point of its last name, unless the point comes
first. -/
def extension? (path : String) : Option String :=
  match fileName? path with
  | none => none
  | some name =>
    let cs := name.toList.reverse
    match cs.dropWhile (· ≠ '.') with
    | _ :: _ :: _ => some (String.ofList (cs.takeWhile (· ≠ '.')).reverse)
    | _ => none

/-- Whether a path has an extension, letter case apart. -/
def hasExtension (extension path : String) : Bool :=
  match extension? path with
  | some e => Text.eqIgnoringCase e extension
  | none => false

end ApiContract
