import ApiContract.Json.Token
import ApiContract.Yaml.Spot

/-
The texts of YAML scalars: plain, in single quotes, in double quotes, and in blocks.

In all but the blocks the lines of a scalar are folded: a single line break between two words is a
space, and of several the first is dropped.  Blanks around a break do not count.

Main definitions:

* `ApiContract.Yaml.Folding` — text read so far, with the gap that has not been settled;
* `ApiContract.Yaml.plain?`, `singleQuoted?`, `doubleQuoted?` — the flow styles;
* `ApiContract.Yaml.block?` — literal and folded blocks, with their header.

Each yields the text and the spots behind it, or nothing when the scalar is malformed.
-/

set_option autoImplicit false

namespace ApiContract.Yaml

/-! ### Folding -/

/-- A text and the gap behind its last word.  All lists have the last character first. -/
structure Folding where
  text : List Char
  /-- The blanks in front of a first line break. -/
  blanks : List Char
  /-- Whether the gap holds a line break. -/
  broken : Bool
  /-- The first line break, unless it was escaped. -/
  first : List Char
  /-- The line breaks after the first. -/
  more : List Char

namespace Folding

/-- No text yet. -/
def empty : Folding := ⟨[], [], false, [], []⟩

/-- A blank in a gap. -/
def blank (f : Folding) (c : Char) : Folding :=
  if f.broken then f else { f with blanks := c :: f.blanks }

/-- A line break in a gap. -/
def lineBreak (f : Folding) (c : Char) : Folding :=
  if f.broken then { f with more := c :: f.more }
  else { f with blanks := [], broken := true, first := [c] }

/-- Settles the gap: blanks stay, line breaks are folded. -/
def settle (f : Folding) : Folding :=
  let gap :=
    if ¬ f.broken then f.blanks
    else if f.first = ['\n'] then if f.more = [] then [' '] else f.more
    else f.more ++ f.first
  ⟨gap ++ f.text, [], false, [], []⟩

/-- A character of a word. -/
def push (f : Folding) (c : Char) : Folding :=
  let f := f.settle
  { f with text := c :: f.text }

/-- A line break that a backslash takes away. -/
def escapedBreak (f : Folding) : Folding := { f.settle with broken := true }

/-- The text without the gap. -/
def toText (f : Folding) : String := String.ofList f.text.reverse

end Folding

/-! ### Plain scalars -/

/-- A plain scalar, what follows it, and whether the gap behind it holds a line break. -/
structure Plain where
  text : String
  rest : List Spot
  broken : Bool

/-- Reads a plain scalar on a level of indentation.  `inWord` tells that the last character was
neither blank nor break. -/
def plainFrom (flow : Bool) (indent : Int) (f : Folding) (inWord : Bool) :
    List Spot → Option Plain
  | [] => some ⟨f.toText, [], f.broken⟩
  | s :: rest =>
    if isBlank s.char then
      if f.broken ∧ s.char = '\t' ∧ s.column < indent then none
      else plainFrom flow indent (f.blank s.char) false rest
    else if isBreak s.char then plainFrom flow indent (f.lineBreak s.char) false rest
    else if ¬ inWord ∧
        (¬ flow ∧ s.column < indent ∨ atDocumentMarker (s :: rest) ∨ s.char = '#') then
      some ⟨f.toText, s :: rest, f.broken⟩
    else if flow ∧ s.char = ':' ∧ atOneOf [',', '?', '[', ']', '\x7b', '\x7d'] rest then none
    else if s.char = ':' ∧ atBlank rest ∨
        flow ∧ [',', '[', ']', '\x7b', '\x7d'].contains s.char then
      some ⟨f.toText, s :: rest, f.broken⟩
    else plainFrom flow indent (f.push s.char) true rest

/-- Reads a plain scalar; `level` is the indentation of the collection it is in.  Its first
character may stand anywhere. -/
def plain? (flow : Bool) (level : Int) : List Spot → Option Plain
  | [] => none
  | s :: rest => plainFrom flow (level + 1) (Folding.empty.push s.char) true rest

/-! ### Quoted scalars -/

/-- Reads a scalar in single quotes from behind the opening quote. -/
def singleQuotedFrom (f : Folding) : List Spot → Option (String × List Spot)
  | [] => none
  | s :: rest =>
    if isBlank s.char then singleQuotedFrom (f.blank s.char) rest
    else if isBreak s.char then singleQuotedFrom (f.lineBreak s.char) rest
    else if atDocumentMarker (s :: rest) then none
    else if s.char = '\'' then
      match rest with
      | t :: rest' =>
        if t.char = '\'' then singleQuotedFrom (f.push '\'') rest'
        else some (f.settle.toText, t :: rest')
      | [] => some (f.settle.toText, [])
    else singleQuotedFrom (f.push s.char) rest

/-- Reads a scalar in single quotes from behind the opening quote. -/
def singleQuoted? (spots : List Spot) : Option (String × List Spot) :=
  singleQuotedFrom .empty spots

/-- The character that a backslash and one more character write. -/
def escapedChar? : Char → Option Char
  | '0' => some '\x00'
  | 'a' => some '\x07'
  | 'b' => some '\x08'
  | 't' => some '\t'
  | '\t' => some '\t'
  | 'n' => some '\n'
  | 'v' => some '\x0b'
  | 'f' => some '\x0c'
  | 'r' => some '\r'
  | 'e' => some '\x1b'
  | ' ' => some ' '
  | '"' => some '"'
  | '/' => some '/'
  | '\\' => some '\\'
  | 'N' => some '\x85'
  | '_' => some '\xa0'
  | 'L' => some '\u2028'
  | 'P' => some '\u2029'
  | _ => none

/-- The number of hexadecimal digits behind a backslash and a letter. -/
def escapeLength? : Char → Option Nat
  | 'x' => some 2
  | 'u' => some 4
  | 'U' => some 8
  | _ => none

/-- Where a reader of double quotes stands. -/
inductive QuotedState where
  | text
  /-- Behind a backslash. -/
  | escape
  /-- Within an escape, with the digits to come and the value so far. -/
  | digits (missing value : Nat)

/-- Reads a scalar in double quotes from behind the opening quote. -/
def doubleQuotedFrom (f : Folding) : QuotedState → List Spot → Option (String × List Spot)
  | _, [] => none
  | .text, s :: rest =>
    if isBlank s.char then doubleQuotedFrom (f.blank s.char) .text rest
    else if isBreak s.char then doubleQuotedFrom (f.lineBreak s.char) .text rest
    else if atDocumentMarker (s :: rest) then none
    else if s.char = '"' then some (f.settle.toText, rest)
    else if s.char = '\\' then doubleQuotedFrom f .escape rest
    else doubleQuotedFrom (f.push s.char) .text rest
  | .escape, s :: rest =>
    if isBreak s.char then doubleQuotedFrom f.escapedBreak .text rest
    else
      match escapeLength? s.char with
      | some n => doubleQuotedFrom f (.digits n 0) rest
      | none =>
        match escapedChar? s.char with
        | some c => doubleQuotedFrom (f.push c) .text rest
        | none => none
  | .digits missing value, s :: rest =>
    match Json.hexDigit? s.char with
    | none => none
    | some d =>
      let value := 16 * value + d
      if 1 < missing then doubleQuotedFrom f (.digits (missing - 1) value) rest
      else if h : value.isValidChar then
        doubleQuotedFrom (f.push (Char.ofNatAux value h)) .text rest
      else none

/-- Reads a scalar in double quotes from behind the opening quote. -/
def doubleQuoted? (spots : List Spot) : Option (String × List Spot) :=
  doubleQuotedFrom .empty .text spots

/-! ### Blocks -/

/-- What becomes of the line breaks at the end of a block. -/
inductive Chomping where
  /-- One stays. -/
  | clip
  /-- None stays. -/
  | strip
  /-- All stay. -/
  | keep
  deriving DecidableEq, Repr

/-- The header of a block: chomping and indentation, each optional, in either order. -/
def blockHeader? (spots : List Spot) : Option (Chomping × Option Nat × List Spot) :=
  let chomping (spots : List Spot) : Chomping × List Spot :=
    match spots with
    | s :: rest => if s.char = '+' then (.keep, rest) else if s.char = '-' then (.strip, rest)
        else (.clip, spots)
    | [] => (.clip, [])
  let indentation (spots : List Spot) : Option (Option Nat × List Spot) :=
    match spots with
    | s :: rest =>
      if s.char = '0' then none
      else if s.char.isDigit then some (some (s.char.toNat - '0'.toNat), rest)
      else some (none, spots)
    | [] => some (none, [])
  let (c, rest) := chomping spots
  match indentation rest with
  | none => none
  | some (n, rest) =>
    let (c, rest) := if c = .clip then chomping rest else (c, rest)
    (lineEnd? rest).map fun rest => (c, n, rest)

/-- The greatest column reached by the spaces in front of the first line with content; nothing if
a tab stands among them. -/
def leadingColumn? (greatest : Nat) : List Spot → Option Nat
  | [] => some greatest
  | s :: rest =>
    if s.char = ' ' then leadingColumn? (max greatest (s.column + 1)) rest
    else if s.char = '\t' then none
    else if isBreak s.char then leadingColumn? greatest rest
    else some greatest

/-- A block so far.  All lists have the last character first. -/
structure BlockText where
  text : List Char
  /-- The break at the end of the last line with content. -/
  first : List Char
  /-- The breaks of the empty lines after it. -/
  more : List Char
  /-- Whether the last line with content began with a blank. -/
  indented : Bool
  /-- Whether such a line is being read. -/
  inLine : Bool

/-- The text of a block at the beginning of a line with content. -/
def BlockText.startLine (b : BlockText) (literal : Bool) (c : Char) : BlockText :=
  let gap :=
    if ¬ literal ∧ b.first = ['\n'] ∧ ¬ b.indented ∧ ¬ isBlank c then
      if b.more = [] then [' '] else b.more
    else b.more ++ b.first
  ⟨c :: (gap ++ b.text), [], [], isBlank c, true⟩

/-- The text of a finished block. -/
def BlockText.finish (b : BlockText) (chomping : Chomping) : String :=
  let tail :=
    match chomping with
    | .strip => []
    | .clip => b.first
    | .keep => b.more ++ b.first
  String.ofList (tail ++ b.text).reverse

/-- Reads the lines of a block with a known indentation. -/
def blockFrom (literal : Bool) (chomping : Chomping) (indent : Nat) (b : BlockText) :
    List Spot → Option (String × List Spot)
  | [] => some (b.finish chomping, [])
  | s :: rest =>
    if b.inLine then
      if isBreak s.char then
        blockFrom literal chomping indent { b with inLine := false, first := [s.char] } rest
      else blockFrom literal chomping indent { b with text := s.char :: b.text } rest
    else if s.char = ' ' ∧ s.column < indent then blockFrom literal chomping indent b rest
    else if s.char = '\t' ∧ s.column < indent then none
    else if isBreak s.char then
      blockFrom literal chomping indent { b with more := s.char :: b.more } rest
    else if s.column = indent then
      blockFrom literal chomping indent (b.startLine literal s.char) rest
    else some (b.finish chomping, s :: rest)

/-- Reads a block from behind its indicator; `level` is the indentation around it. -/
def block? (literal : Bool) (level : Int) (spots : List Spot) : Option (String × List Spot) := do
  let (chomping, increment, rest) ← blockHeader? spots
  let indent ← match increment with
    | some n => some (if 0 ≤ level then level.toNat + n else n)
    | none => (leadingColumn? 0 rest).map fun n => max n (max (level + 1).toNat 1)
  blockFrom literal chomping indent ⟨[], [], [], false, false⟩ rest

end ApiContract.Yaml
