import ApiContract.Text.Alphanumeric
import ApiContract.Text.Blank
import ApiContract.Text.Segments

/-
Regular expressions, as far as it takes to tell which texts are one.

An expression is read from left to right.  What a text means depends on two flags: whether
characters are those of Unicode or bytes, and whether white space and comments are passed over.  A
flag set inside a group holds up to the end of the group.

Expressions are matched against UTF-8 by an automaton, which refuses two kinds of them: those that
could match a part of a character, such as the negation of a set of bytes, and those that look for
a boundary between words in the sense of Unicode.  There are no references to groups, no looking
ahead or behind, and no bounds in braces, since the texts that may be expressions hold no closing
brace.

Main definitions:

* `ApiContract.Logging.Expression.Mode` — the two flags;
* `ApiContract.Logging.Expression.escape?` — what a backslash makes of the text after it;
* `ApiContract.Logging.Expression.members?` — sets of characters in brackets;
* `ApiContract.Logging.Expression.step?` — one part of an expression;
* `ApiContract.Logging.Expression.isValid` — whether a text is an expression.
-/

set_option autoImplicit false

namespace ApiContract.Logging.Expression

/-- What the text means at a place. -/
structure Mode where
  /-- Whether characters are those of Unicode, and not bytes. -/
  unicode : Bool
  /-- Whether white space and comments are passed over. -/
  spaced : Bool

/-- The text without the white space and the comments at its beginning; a comment runs from a
number sign to the end of its line. -/
def dropSpace : (comment : Bool) → List Char → List Char
  | _, [] => []
  | true, c :: cs => dropSpace (c ≠ '\n') cs
  | false, c :: cs =>
    if c = '#' then dropSpace true cs
    else if Text.isBlank c then dropSpace false cs
    else c :: cs

/-- The text from the next character that counts. -/
def Mode.rest (m : Mode) (cs : List Char) : List Char :=
  if m.spaced then dropSpace false cs else cs

/-! ### Escapes -/

/-- What an escape stands for. -/
inductive Item where
  | character (c : Char)
  | set
  | position

/-- Whether a character is a hexadecimal digit. -/
def isHexDigit (c : Char) : Bool :=
  c.isDigit || ('a' ≤ c && c ≤ 'f') || ('A' ≤ c && c ≤ 'F')

/-- The value of a hexadecimal digit. -/
def hexValue (c : Char) : Nat :=
  if c.isDigit then c.toNat - '0'.toNat else c.toLower.toNat - 'a'.toNat + 10

/-- The character whose code point the first `count` hexadecimal digits write. -/
def codePoint? (count : Nat) (cs : List Char) : Option (Char × List Char) :=
  let ds := cs.take count
  let n := ds.foldl (fun n d => 16 * n + hexValue d) 0
  if ds.length = count ∧ ds.all isHexDigit ∧ n.isValidChar then
    some (Char.ofNat n, cs.drop count)
  else none

/-- The letters of the general categories, in lower case. -/
def categories : List Char := ['c', 'l', 'm', 'n', 'p', 's', 'z']

/-- What the text after a backslash stands for, and what follows it. -/
def escape? (m : Mode) : List Char → Option (Item × List Char)
  | [] => none
  | c :: cs =>
    match c with
    | 'x' =>
      (codePoint? 2 cs).bind fun (d, cs) =>
        if m.unicode || d < '\x80' then some (.character d, cs) else none
    | 'u' => (codePoint? 4 cs).map fun (d, cs) => (.character d, cs)
    | 'U' => (codePoint? 8 cs).map fun (d, cs) => (.character d, cs)
    | 'p' | 'P' =>
      match cs with
      | d :: cs => if m.unicode && categories.contains d.toLower then some (.set, cs) else none
      | [] => none
    | 'd' | 's' | 'w' => some (.set, cs)
    | 'D' | 'S' | 'W' => if m.unicode then some (.set, cs) else none
    | 'b' | 'B' | '<' | '>' => if m.unicode then none else some (.position, cs)
    | 'A' | 'z' => some (.position, cs)
    | 'a' => some (.character '\x07', cs)
    | 'f' => some (.character '\x0c', cs)
    | 't' => some (.character '\t', cs)
    | 'n' => some (.character '\n', cs)
    | 'r' => some (.character '\r', cs)
    | 'v' => some (.character '\x0b', cs)
    | c => if c < '\x80' ∧ ¬ c.isAlphanum then some (.character c, cs) else none

/-! ### Sets in brackets -/

/-- The names of sets that are written between colons. -/
def setNames : List String :=
  ["alnum", "alpha", "ascii", "blank", "cntrl", "digit", "graph", "lower", "print", "punct",
    "space", "upper", "word", "xdigit"]

/-- Reads a named set after its bracket: whether it is negated, and what follows it. -/
def named? : List Char → Option (Bool × List Char)
  | ':' :: cs =>
    let (negated, cs) := match cs with | '^' :: cs => (true, cs) | cs => (false, cs)
    if setNames.contains (String.ofList (cs.takeWhile (· ≠ ':'))) then
      (Text.dropPrefix [':', ']'] (cs.dropWhile (· ≠ ':'))).map fun cs => (negated, cs)
    else none
  | _ => none

/-- The text after the dashes at its beginning, and whether there are any. -/
def dropDashes (m : Mode) : (fuel : Nat) → List Char → Bool × List Char
  | fuel + 1, '-' :: cs => (true, (dropDashes m fuel (m.rest cs)).2)
  | _, cs => (false, cs)

/-- Passes over what has a meaning of its own at the beginning of a set: a caret that negates it,
then dashes or, where there are none, a closing bracket. -/
def opening? (m : Mode) (cs : List Char) : Option (List Char) :=
  let inner (cs : List Char) : List Char :=
    match dropDashes m cs.length cs with
    | (false, ']' :: cs) => cs
    | (_, cs) => cs
  match m.rest cs with
  | '^' :: cs => if m.unicode then some (inner (m.rest cs)) else none
  | cs => some (inner cs)

/-- Reads one member of a set: a character or an escape. -/
def member? (m : Mode) : List Char → Option (Item × List Char)
  | [] => none
  | '\\' :: cs =>
    (escape? m cs).bind fun (item, cs) =>
      match item with
      | .position => none
      | .set => some (.set, cs)
      | .character c => if m.unicode || c < '\x80' then some (.character c, cs) else none
  | c :: cs => if m.unicode || c < '\x80' then some (.character c, cs) else none

/-- Reads a member of a set, or two with a dash between them, the first not above the second. -/
def range? (m : Mode) (cs : List Char) : Option (List Char) :=
  (member? m cs).bind fun (low, cs) =>
    match m.rest cs with
    | '-' :: more =>
      match m.rest more with
      | ']' :: _ => some ('-' :: more)
      | '-' :: _ => some ('-' :: more)
      | more =>
        (member? m more).bind fun (high, cs) =>
          match low, high with
          | .character c, .character d => if c ≤ d then some cs else none
          | _, _ => none
    | cs => some cs

/-- Reads the members of a set up to its closing bracket, inside `depth` other sets. -/
def members? (m : Mode) : (fuel depth : Nat) → List Char → Option (List Char)
  | 0, _, _ => none
  | fuel + 1, depth, cs =>
    match m.rest cs with
    | ']' :: cs => if depth = 0 then some cs else members? m fuel (depth - 1) cs
    | '[' :: cs =>
      match named? cs with
      | some (negated, cs) => if negated && !m.unicode then none else members? m fuel depth cs
      | none => (opening? m cs).bind (members? m fuel (depth + 1))
    | '&' :: '&' :: cs => members? m fuel depth cs
    | '-' :: '-' :: cs => members? m fuel depth cs
    | '~' :: '~' :: cs => members? m fuel depth cs
    | cs => (range? m cs).bind (members? m fuel depth)

/-! ### Groups and flags -/

/-- How far an expression has been read. -/
structure State where
  mode : Mode
  /-- The modes outside the open groups, the innermost first. -/
  outer : List Mode
  /-- The names of groups met so far. -/
  names : List (List Char)
  /-- Whether there is something that can be repeated. -/
  operand : Bool

/-- Whether the flags are known, stand once each, and the dash among them stands before one. -/
def areFlags (flags : List Char) : Bool :=
  flags.all (['i', 'm', 's', 'U', 'u', 'R', 'x', '-'].contains ·) &&
    flags.eraseDups.length = flags.length && flags.getLast? ≠ some '-'

/-- The value of a flag after a list of flags, those after a dash being cleared. -/
def flagAfter (flags : List Char) (flag : Char) (value : Bool) : Bool :=
  if (flags.takeWhile (· ≠ '-')).contains flag then true
  else if flags.contains flag then false
  else value

/-- The mode after a list of flags. -/
def Mode.after (m : Mode) (flags : List Char) : Mode :=
  ⟨flagAfter flags 'u' m.unicode, flagAfter flags 'x' m.spaced⟩

/-- Whether a text names a group: it begins with a letter or an underscore and goes on with
letters, digits, underscores, points and brackets. -/
def isGroupName : List Char → Bool
  | [] => false
  | c :: cs =>
    (c = '_' || (Text.isAlphanumeric c && !c.isDigit)) &&
      cs.all fun c => c = '_' || c = '.' || c = '[' || c = ']' || Text.isAlphanumeric c

/-- The state inside a group that begins in `s` and changes the mode to `mode`. -/
def State.enter (s : State) (mode : Mode) : State :=
  { s with mode, outer := s.mode :: s.outer, operand := false }

/-- Enters a group by its name. -/
def State.enterNamed? (s : State) (cs : List Char) : Option (State × List Char) :=
  let name := cs.takeWhile (· ≠ '>')
  match cs.dropWhile (· ≠ '>') with
  | _ :: cs =>
    if isGroupName name ∧ ¬ s.names.contains name then
      some ({ s.enter s.mode with names := name :: s.names }, cs)
    else none
  | [] => none

/-- What an opening parenthesis and the text after it give: a group, or flags for the rest of the
one that is open. -/
def State.group? (s : State) : List Char → Option (State × List Char)
  | '?' :: 'P' :: '<' :: cs => s.enterNamed? cs
  | '?' :: '<' :: cs => s.enterNamed? cs
  | '?' :: cs =>
    let flags := cs.takeWhile fun c => c ≠ ':' ∧ c ≠ ')'
    if ¬ areFlags flags then none
    else
      match cs.dropWhile fun c => c ≠ ':' ∧ c ≠ ')' with
      | ':' :: cs => some (s.enter (s.mode.after flags), cs)
      | _ :: cs =>
        if flags = [] then none
        else some ({ s with mode := s.mode.after flags, operand := false }, cs)
      | [] => none
  | cs => some (s.enter s.mode, cs)

/-! ### Expressions -/

/-- Reads one part of an expression. -/
def step? (s : State) (c : Char) (cs : List Char) : Option (State × List Char) :=
  match c with
  | '(' => s.group? (s.mode.rest cs)
  | ')' =>
    match s.outer with
    | [] => none
    | mode :: outer => some ({ s with mode, outer, operand := true }, cs)
  | '|' => some ({ s with operand := false }, cs)
  | '[' =>
    ((opening? s.mode cs).bind (members? s.mode (cs.length + 1) 0)).map fun cs =>
      ({ s with operand := true }, cs)
  | '*' | '+' | '?' =>
    if s.operand then some (s, match cs with | '?' :: cs => cs | cs => cs) else none
  | '{' => none
  | '.' => if s.mode.unicode then some ({ s with operand := true }, cs) else none
  | '\\' => (escape? s.mode cs).map fun (_, cs) => ({ s with operand := true }, cs)
  | _ => some ({ s with operand := true }, cs)

/-- Reads the parts of an expression up to its end, where no group may be open. -/
def readAll : (fuel : Nat) → State → List Char → Bool
  | 0, _, _ => false
  | fuel + 1, s, cs =>
    match s.mode.rest cs with
    | [] => s.outer.isEmpty
    | c :: cs =>
      match step? s c cs with
      | some (s, cs) => readAll fuel s cs
      | none => false

/-- Whether a text is an expression. -/
def isValid (text : String) : Bool :=
  readAll (text.length + 1) ⟨⟨true, false⟩, [], [], false⟩ text.toList

end ApiContract.Logging.Expression
