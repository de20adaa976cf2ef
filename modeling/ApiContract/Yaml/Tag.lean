import ApiContract.Json.Token
import ApiContract.Text.Utf8
import ApiContract.Yaml.Spot

/-
Tags, anchors and directives: the parts of a YAML text that are about nodes and not in them.

Main definitions:

* `ApiContract.Yaml.name?` — the name of an anchor or an alias;
* `ApiContract.Yaml.tag?` — a tag as handle and suffix;
* `ApiContract.Yaml.directive?` — a directive, which takes a line of its own.
-/

set_option autoImplicit false

namespace ApiContract.Yaml

/-! ### Names -/

/-- The characters ahead that belong to a name, and what follows them. -/
def nameSpan (spots : List Spot) : List Char × List Spot :=
  ((spots.takeWhile fun s => isNameChar s.char).map Spot.char,
    spots.dropWhile fun s => isNameChar s.char)

/-- The name of an anchor or an alias, from behind its indicator. -/
def name? (spots : List Spot) : Option (String × List Spot) :=
  let (name, rest) := nameSpan spots
  if name = [] then none
  else if atBlank rest ∨ atOneOf ['?', ':', ',', ']', '\x7d', '%', '@', '\x60'] rest then
    some (String.ofList name, rest)
  else none

/-! ### Tags -/

/-- Whether a character may stand in a tag; the separators of flow collections only may where a tag
has another end. -/
def isTagChar (delimited : Bool) (c : Char) : Bool :=
  isNameChar c ||
    [';', '/', '?', ':', '@', '&', '=', '+', '$', '.', '%', '!', '~', '*', '\'', '(',
      ')'].contains c ||
    (delimited && [',', '[', ']'].contains c)

/-- The bytes that the characters of a tag stand for, with `%` and two hexadecimal digits for a
byte. -/
def tagBytes? : List Char → Option (List UInt8)
  | [] => some []
  | '%' :: a :: b :: cs => do
    return UInt8.ofNat (16 * (← Json.hexDigit? a) + (← Json.hexDigit? b)) :: (← tagBytes? cs)
  | '%' :: _ => none
  | c :: cs => do return (String.singleton c).toUTF8.toList ++ (← tagBytes? cs)

/-- The text of the characters of a tag. -/
def tagText? (cs : List Char) : Option String := do
  String.fromUTF8? ⟨(← tagBytes? cs).toArray⟩

/-- The characters of a tag that are ahead, decoded, and what follows them. -/
def tagSpan? (delimited : Bool) (spots : List Spot) : Option (String × List Spot) := do
  let cs := (spots.takeWhile fun s => isTagChar delimited s.char).map Spot.char
  return (← tagText? cs, spots.dropWhile fun s => isTagChar delimited s.char)

/-- Whether a tag may end here. -/
def endsTag (flow : Bool) (rest : List Spot) : Bool := atBlank rest || (flow && atOneOf [','] rest)

/-- A tag between angle brackets, from behind the opening one. -/
def verbatimTag? (spots : List Spot) : Option (String × List Spot) := do
  let (suffix, rest) ← tagSpan? true spots
  if suffix = "" ∨ ¬ atOneOf ['>'] rest then none else some (suffix, rest.drop 1)

/-- A tag with or without a handle, from behind its exclamation mark. -/
def shorthandTag? (spots : List Spot) : Option (String × String × List Spot) := do
  let (name, rest) := nameSpan spots
  if atOneOf ['!'] rest then
    let (suffix, rest) ← tagSpan? false (rest.drop 1)
    if suffix = "" then none else some (String.ofList ('!' :: (name ++ ['!'])), suffix, rest)
  else
    let (suffix, rest) ← tagSpan? false spots
    if suffix = "" then some ("", "!", rest) else some ("!", suffix, rest)

/-- A tag as handle and suffix, from behind its exclamation mark.  The handle is empty when the
suffix is the whole tag. -/
def tag? (flow : Bool) (spots : List Spot) : Option (String × String × List Spot) := do
  let (handle, suffix, rest) ←
    if atOneOf ['<'] spots then
      (verbatimTag? (spots.drop 1)).map fun (suffix, rest) => ("", suffix, rest)
    else shorthandTag? spots
  if endsTag flow rest then some (handle, suffix, rest) else none

/-! ### Directives -/

/-- A directive. -/
inductive Directive where
  | version (major minor : Nat)
  | tag (handle target : String)

/-- A number of at most nine digits. -/
def number? (spots : List Spot) : Option (Nat × List Spot) :=
  let ds := (spots.takeWhile fun s => s.char.isDigit).map Spot.char
  if ds = [] ∨ 9 < ds.length then none
  else some (Json.ofDigits ds, spots.dropWhile fun s => s.char.isDigit)

/-- A version, from behind the name of its directive. -/
def versionDirective? (spots : List Spot) : Option (Directive × List Spot) := do
  let (major, rest) ← number? (dropBlanks spots)
  if atOneOf ['.'] rest then
    let (minor, rest) ← number? (rest.drop 1)
    return (.version major minor, rest)
  else none

/-- A handle and what it stands for, from behind the name of its directive. -/
def tagDirective? (spots : List Spot) : Option (Directive × List Spot) := do
  let spots := dropBlanks spots
  if ¬ atOneOf ['!'] spots then none
  else
    let (name, rest) := nameSpan (spots.drop 1)
    let (handle, rest) ←
      if atOneOf ['!'] rest then some (String.ofList ('!' :: (name ++ ['!'])), rest.drop 1)
      else if name = [] then some ("!", rest)
      else none
    if ¬ atBlank rest ∨ atBreak rest then none
    else
      let (target, rest) ← tagSpan? true (dropBlanks rest)
      if target = "" ∨ ¬ atBlank rest then none else some (.tag handle target, rest)

/-- A directive with the rest of its line, from behind its percent sign. -/
def directive? (spots : List Spot) : Option (Directive × List Spot) := do
  let (name, rest) := nameSpan spots
  if ¬ atBlank rest then none
  else
    let (directive, rest) ←
      if name = ['Y', 'A', 'M', 'L'] then versionDirective? rest
      else if name = ['T', 'A', 'G'] then tagDirective? rest
      else none
    return (directive, ← lineEnd? rest)

end ApiContract.Yaml
