/-
The characters of a YAML text, each with its place.

The spellings of a line break are made one here: carriage return, carriage return with line feed,
and next line (U+0085) are all a line feed.  Line and paragraph separators break lines as well but
stay themselves.

Main definitions:

* `ApiContract.Yaml.Spot` — a character with its line, its column and its index;
* `ApiContract.Yaml.Spot.ofText?` — the spots of a text; control characters make it fail;
* the classes of characters on which the syntax rests, and what may be asked about the spots ahead.
-/

set_option autoImplicit false

namespace ApiContract.Yaml

/-- A character and its place. -/
structure Spot where
  char : Char
  line : Nat
  column : Nat
  /-- The number of bytes in front of it. -/
  index : Nat
  deriving Repr

/-- Whether a character may stand in a YAML text. -/
def isAllowed (c : Char) : Bool :=
  c = '\t' || c = '\n' || c = '\r' || (' ' ≤ c && c ≤ '~') || c = '\x85' ||
    ('\xa0' ≤ c && c ≠ '\ufffe' && c ≠ '\uffff')

/-- Whether a character breaks lines. -/
def isBreak (c : Char) : Bool := c = '\n' || c = '\u2028' || c = '\u2029'

/-- Whether a character is a space or a tab. -/
def isBlank (c : Char) : Bool := c = ' ' || c = '\t'

/-- Whether a character may stand in the names of anchors and handles. -/
def isNameChar (c : Char) : Bool := c.isAlphanum || c = '_' || c = '-'

namespace Spot

/-- The spots of a text, the first of which has the given place. -/
def place (line column index : Nat) : List Char → List Spot
  | [] => []
  | '\r' :: '\n' :: cs => ⟨'\n', line, column, index⟩ :: place (line + 1) 0 (index + 2) cs
  | c :: cs =>
    let next := index + c.utf8Size
    let c := if c = '\r' ∨ c = '\x85' then '\n' else c
    ⟨c, line, column, index⟩ ::
      if isBreak c then place (line + 1) 0 next cs else place line (column + 1) next cs

/-- The spots of a text. -/
def ofText? (cs : List Char) : Option (List Spot) :=
  if cs.all isAllowed then some (place 0 0 0 cs) else none

end Spot

/-! ### Looking ahead -/

/-- Whether a blank, a line break or the end is ahead. -/
def atBlank : List Spot → Bool
  | [] => true
  | s :: _ => isBlank s.char || isBreak s.char

/-- Whether a line break or the end is ahead. -/
def atBreak : List Spot → Bool
  | [] => true
  | s :: _ => isBreak s.char

/-- Whether one of the characters is ahead. -/
def atOneOf (cs : List Char) : List Spot → Bool
  | [] => false
  | s :: _ => cs.contains s.char

/-- Whether a line begins here with three of the characters and then a blank. -/
def atMarker (c : Char) : List Spot → Bool
  | s :: t :: u :: rest =>
    s.column = 0 && s.char = c && t.char = c && u.char = c && atBlank rest
  | _ => false

/-- Whether a line begins here that starts or ends a document. -/
def atDocumentMarker (spots : List Spot) : Bool := atMarker '-' spots || atMarker '.' spots

/-- The rest of a line, without its break. -/
def dropLine (spots : List Spot) : List Spot := spots.dropWhile fun s => !isBreak s.char

/-- The spots behind blanks. -/
def dropBlanks (spots : List Spot) : List Spot := spots.dropWhile fun s => isBlank s.char

/-- The spots behind blanks and a comment, up to the end of the line; nothing if anything else is
on it. -/
def lineEnd? (spots : List Spot) : Option (List Spot) :=
  let spots := dropBlanks spots
  let spots := if atOneOf ['#'] spots then dropLine spots else spots
  if atBreak spots then some (spots.drop 1) else none

end ApiContract.Yaml
