import ApiContract.Yaml.Scalar
import ApiContract.Yaml.Tag

/-
The tokens of a YAML text.

Beside what is written in the text there are tokens for what its layout means: block collections
begin where the indentation grows and end where it shrinks.  A key that is not marked as one is
only known by the colon behind it; the place where it began is kept until then, and the tokens that
announce the key are put in there.  Such a key must fit on its line and within 1024 bytes.

Main definitions:

* `ApiContract.Yaml.Token` — the tokens;
* `ApiContract.Yaml.Layout` — tokens so far, with the indentation and the keys that may begin;
* `ApiContract.Yaml.Layout.next?` — reads one more token;
* `ApiContract.Yaml.tokens?` — all tokens of a text.
-/

set_option autoImplicit false

namespace ApiContract.Yaml

/-- A token of a YAML text. -/
inductive Token where
  | directive (d : Directive)
  | documentStart
  | documentEnd
  | blockSequenceStart
  | blockMappingStart
  | blockEnd
  | flowSequenceStart
  | flowSequenceEnd
  | flowMappingStart
  | flowMappingEnd
  | blockEntry
  | flowEntry
  | key
  | value
  | aliasOf (name : String)
  | anchor (name : String)
  | tag (handle suffix : String)
  | scalar (text : String) (isPlain : Bool)

/-- Where a key may have begun. -/
structure KeyMark where
  /-- The number of tokens in front of it. -/
  position : Nat
  /-- Whether nothing but a key can stand there. -/
  required : Bool
  line : Nat
  column : Nat
  index : Nat

/-- A text that has been read in part. -/
structure Layout where
  /-- What is left of the text. -/
  rest : List Spot
  tokens : Array Token
  /-- The column of the innermost block collection. -/
  indent : Int
  /-- The columns of the block collections around it. -/
  outer : List Int
  /-- For every open flow collection, innermost first, and for the block around them: the key that
  may have begun there. -/
  keys : List (Option KeyMark)
  /-- Whether a key may begin at the next token. -/
  keyAllowed : Bool

namespace Layout

/-- A text of which nothing has been read. -/
def start (spots : List Spot) : Layout := ⟨spots, #[], -1, [], [none], true⟩

/-- Whether a flow collection is open. -/
def inFlow (l : Layout) : Bool := 1 < l.keys.length

/-- One more token. -/
def push (l : Layout) (t : Token) : Layout := { l with tokens := l.tokens.push t }

/-- Gives up the key that may have begun; it must not be a required one. -/
def dropKey? (l : Layout) : Option Layout :=
  match l.keys with
  | some k :: keys => if k.required then none else some { l with keys := none :: keys }
  | _ => some l

/-- Notes that a key may begin at the next token. -/
def markKey? (l : Layout) : Option Layout :=
  match l.rest with
  | [] => some l
  | s :: _ =>
    if l.keyAllowed then do
      let l ← l.dropKey?
      let mark : KeyMark :=
        ⟨l.tokens.size, !l.inFlow && l.indent = s.column, s.line, s.column, s.index⟩
      return { l with keys := some mark :: l.keys.drop 1 }
    else some l

/-- Gives up the keys that are too long by now. -/
def dropStale? (l : Layout) (s : Spot) : Option Layout := do
  let keys ← l.keys.mapM fun key =>
    match key with
    | some k =>
      if k.line < s.line ∨ k.index + 1024 < s.index then
        if k.required then none else some none
      else some (some k)
    | none => some none
  return { l with keys }

/-- Begins a block collection at a column, unless one is open there; its token takes the given
position. -/
def indentTo (l : Layout) (column : Nat) (position : Nat) (t : Token) : Layout :=
  if !l.inFlow && l.indent < column then
    { l with
      outer := l.indent :: l.outer
      indent := column
      tokens := l.tokens.insertIdxIfInBounds position t }
  else l

/-- Ends the block collections to the right of a column. -/
def endBlocks (column : Int) (tokens : Array Token) (indent : Int) :
    List Int → Array Token × Int × List Int
  | [] => (tokens, indent, [])
  | i :: outer =>
    if column < indent then endBlocks column (tokens.push .blockEnd) i outer
    else (tokens, indent, i :: outer)

/-- Ends the block collections to the right of a column, outside of flow collections. -/
def dedentTo (l : Layout) (column : Int) : Layout :=
  if l.inFlow then l
  else
    let (tokens, indent, outer) := endBlocks column l.tokens l.indent l.outer
    { l with tokens, indent, outer }

/-! ### What stands between tokens -/

/-- Skips blanks, comments and line breaks.  A tab may not stand where a key could begin, and
outside of flow collections a key may begin on every line.  A byte order mark at the beginning of a
line is skipped as well, and takes a column of its own. -/
def skipGap (flow : Bool) (allowed comment : Bool) : List Spot → Bool × List Spot
  | [] => (allowed, [])
  | s :: rest =>
    if isBreak s.char then skipGap flow (allowed || !flow) false rest
    else if comment then skipGap flow allowed true rest
    else if s.char = '#' then skipGap flow allowed true rest
    else if s.char = ' ' ∨ (s.char = '\t' ∧ (flow ∨ ¬ allowed)) ∨
        (s.char = '\ufeff' ∧ s.column = 0) then
      skipGap flow allowed false rest
    else (allowed, s :: rest)

/-! ### The kinds of tokens -/

/-- A token of one or more characters that no key can hold. -/
def indicator? (l : Layout) (width : Nat) (keyAllowed : Bool) (t : Token) : Option Layout := do
  let l ← l.dropKey?
  return { l.push t with rest := l.rest.drop width, keyAllowed }

/-- A marker of a document or a directive, before which all blocks end. -/
def boundary? (l : Layout) (rest : List Spot) (t : Token) : Option Layout := do
  let l ← (l.dedentTo (-1)).dropKey?
  return { l.push t with rest, keyAllowed := false }

/-- The beginning of a flow collection. -/
def openFlow? (l : Layout) (t : Token) : Option Layout := do
  let l ← l.markKey?
  return { l.push t with rest := l.rest.drop 1, keys := none :: l.keys, keyAllowed := true }

/-- The end of a flow collection. -/
def closeFlow? (l : Layout) (t : Token) : Option Layout := do
  let l ← l.dropKey?
  return { l.push t with
    rest := l.rest.drop 1
    keys := if l.inFlow then l.keys.drop 1 else l.keys
    keyAllowed := false }

/-- The dash of a block sequence. -/
def blockEntry? (l : Layout) (column : Nat) : Option Layout :=
  if l.inFlow then l.indicator? 1 true .blockEntry
  else if l.keyAllowed then
    (l.indentTo column l.tokens.size .blockSequenceStart).indicator? 1 true .blockEntry
  else none

/-- The question mark of a marked key. -/
def markedKey? (l : Layout) (column : Nat) : Option Layout :=
  if l.inFlow then l.indicator? 1 false .key
  else if l.keyAllowed then
    (l.indentTo column l.tokens.size .blockMappingStart).indicator? 1 true .key
  else none

/-- The colon of a value, which may show that a key has gone before it. -/
def value? (l : Layout) (column : Nat) : Option Layout :=
  match l.keys with
  | some k :: keys =>
    let l := { l with
      tokens := l.tokens.insertIdxIfInBounds k.position .key
      keys := none :: keys }
    let l := l.indentTo k.column k.position .blockMappingStart
    some { l.push .value with rest := l.rest.drop 1, keyAllowed := false }
  | _ =>
    if l.inFlow then some { l.push .value with rest := l.rest.drop 1, keyAllowed := false }
    else if l.keyAllowed then
      let l := l.indentTo column l.tokens.size .blockMappingStart
      some { l.push .value with rest := l.rest.drop 1, keyAllowed := true }
    else none

/-- A token that may be a key or belong to one. -/
def keyPart? (l : Layout) (t : Token) (rest : List Spot) (keyAllowed : Bool) : Option Layout := do
  let l ← l.markKey?
  return { l.push t with rest, keyAllowed }

/-- A scalar in a block. -/
def block? (l : Layout) (literal : Bool) : Option Layout := do
  let l ← l.dropKey?
  let (text, rest) ← Yaml.block? literal l.indent (l.rest.drop 1)
  return { l.push (.scalar text false) with rest, keyAllowed := true }

/-- Whether a plain scalar may begin with a character, in view of what follows it. -/
def beginsPlain (flow : Bool) (c : Char) (rest : List Spot) : Bool :=
  if c = '-' then !(match rest with | s :: _ => isBlank s.char | [] => false)
  else if c = '?' ∨ c = ':' then !flow && !atBlank rest
  else !(isBlank c || isBreak c ||
    [',', '[', ']', '\x7b', '\x7d', '#', '&', '*', '!', '|', '>', '\'', '"', '%', '@',
      '\x60'].contains c)

/-- Reads the token that begins at a spot. -/
def token? (l : Layout) (s : Spot) (rest : List Spot) : Option Layout :=
  if s.column = 0 ∧ s.char = '%' then do
    let (d, rest) ← directive? rest
    l.boundary? rest (.directive d)
  else if atMarker '-' l.rest then l.boundary? (rest.drop 2) .documentStart
  else if atMarker '.' l.rest then l.boundary? (rest.drop 2) .documentEnd
  else if s.char = '[' then l.openFlow? .flowSequenceStart
  else if s.char = '\x7b' then l.openFlow? .flowMappingStart
  else if s.char = ']' then l.closeFlow? .flowSequenceEnd
  else if s.char = '\x7d' then l.closeFlow? .flowMappingEnd
  else if s.char = ',' then l.indicator? 1 true .flowEntry
  else if s.char = '-' ∧ atBlank rest then l.blockEntry? s.column
  else if s.char = '?' ∧ (l.inFlow ∨ atBlank rest) then l.markedKey? s.column
  else if s.char = ':' ∧ (l.inFlow ∨ atBlank rest) then l.value? s.column
  else if s.char = '*' then do
    let (name, rest) ← name? rest
    l.keyPart? (.aliasOf name) rest false
  else if s.char = '&' then do
    let (name, rest) ← name? rest
    l.keyPart? (.anchor name) rest false
  else if s.char = '!' then do
    let (handle, suffix, rest) ← tag? l.inFlow rest
    l.keyPart? (.tag handle suffix) rest false
  else if s.char = '|' ∧ ¬ l.inFlow then l.block? true
  else if s.char = '>' ∧ ¬ l.inFlow then l.block? false
  else if s.char = '\'' then do
    let (text, rest) ← singleQuoted? rest
    l.keyPart? (.scalar text false) rest false
  else if s.char = '"' then do
    let (text, rest) ← doubleQuoted? rest
    l.keyPart? (.scalar text false) rest false
  else if beginsPlain l.inFlow s.char rest then do
    let p ← plain? l.inFlow l.indent l.rest
    l.keyPart? (.scalar p.text true) p.rest p.broken
  else none

/-- Goes to the next token and reads it; at the end of the text all blocks end. -/
def next? (l : Layout) : Option Layout :=
  let (keyAllowed, rest) := skipGap l.inFlow l.keyAllowed false l.rest
  let l := { l with rest, keyAllowed }
  match rest with
  | [] => (l.dedentTo (-1)).dropKey?
  | s :: rest => do
    let l ← l.dropStale? s
    (l.dedentTo s.column).token? s rest

/-- Reads tokens to the end of the text, at most `count` of them. -/
def run? : (count : Nat) → Layout → Option Layout
  | 0, l => some l
  | count + 1, l =>
    match l.rest with
    | [] => l.next?
    | _ => do run? count (← l.next?)

end Layout

/-- The tokens of a text.  A token takes at least one character, so there are not more tokens in
the text than characters. -/
def tokens? (cs : List Char) : Option (List Token) := do
  let spots ← Spot.ofText? cs
  let l ← (Layout.start spots).run? (spots.length + 1)
  if l.inFlow then none else some l.tokens.toList

end ApiContract.Yaml
