import ApiContract.Json.Token
import ApiContract.Text.Decimal

/-
The lexical part of TOML: blanks, comments, keys, strings, and the words that stand for numbers,
truth values, dates and times.

Main definitions:

* `ApiContract.Toml.dropBlanks`, `dropGap?`, `lineEnd?` — what may stand between other things;
* `ApiContract.Toml.basic?`, `literal?`, `multiBasic?`, `multiLiteral?` — the four styles of
  strings;
* `ApiContract.Toml.key?` — one part of a key;
* `ApiContract.Toml.isWord` — whether a bare word is a value.

Functions on the characters ahead yield what they read with the characters behind it, or nothing.
-/

set_option autoImplicit false

namespace ApiContract.Toml

/-- Whether a character is a control character other than the tab. -/
def isControl (c : Char) : Bool := (c < ' ' && c ≠ '\t') || c = '\x7f'

/-! ### Blanks and comments -/

/-- The characters behind spaces and tabs. -/
def dropBlanks (cs : List Char) : List Char := cs.dropWhile fun c => c = ' ' || c = '\t'

/-- The characters behind a line break, if one is ahead. -/
def lineBreak? : List Char → Option (List Char)
  | '\n' :: cs => some cs
  | '\r' :: '\n' :: cs => some cs
  | _ => none

/-- The characters behind a comment, if one is ahead; it must not hold control characters. -/
def dropComment? : List Char → Option (List Char)
  | '#' :: cs =>
    let rest := cs.dropWhile fun c => !isControl c
    if rest = [] ∨ (lineBreak? rest).isSome then some rest else none
  | cs => some cs

/-- The characters behind the rest of a line, on which only blanks and a comment may stand. -/
def lineEnd? (cs : List Char) : Option (List Char) := do
  match ← dropComment? (dropBlanks cs) with
  | [] => return []
  | rest => lineBreak? rest

/-- The characters behind blanks, comments and line breaks; at most `count` lines are skipped. -/
def dropGap? : (count : Nat) → List Char → Option (List Char)
  | 0, cs => some cs
  | count + 1, cs => do
    let rest ← dropComment? (dropBlanks cs)
    match lineBreak? rest with
    | some rest => dropGap? count rest
    | none => return rest

/-! ### Strings -/

/-- The character that a backslash and one more character write. -/
def escapedChar? : Char → Option Char
  | 'b' => some '\x08'
  | 't' => some '\t'
  | 'n' => some '\n'
  | 'f' => some '\x0c'
  | 'r' => some '\r'
  | 'e' => some '\x1b'
  | '"' => some '"'
  | '\\' => some '\\'
  | _ => none

/-- The number of hexadecimal digits behind a backslash and a letter. -/
def escapeLength? : Char → Option Nat
  | 'x' => some 2
  | 'u' => some 4
  | 'U' => some 8
  | _ => none

/-- The character that hexadecimal digits write. -/
def scalarValue? (ds : List Char) : Option Char := do
  let n ← ds.foldlM (fun n d => do return 16 * n + (← Json.hexDigit? d)) 0
  if h : n.isValidChar then some (Char.ofNatAux n h) else none

/-- The character of an escape, from behind its backslash. -/
def escape? : List Char → Option (Char × List Char)
  | [] => none
  | c :: cs =>
    match escapeLength? c with
    | some n =>
      if n ≤ cs.length then (scalarValue? (cs.take n)).map fun e => (e, cs.drop n) else none
    | none => (escapedChar? c).map fun e => (e, cs)

/-- A basic string, from behind its quote; at most `count` characters are read. -/
def basicFrom : (count : Nat) → (acc : List Char) → List Char → Option (String × List Char)
  | 0, _, _ => none
  | _, _, [] => none
  | _, acc, '"' :: cs => some (String.ofList acc.reverse, cs)
  | count + 1, acc, '\\' :: cs => do
    let (c, rest) ← escape? cs
    basicFrom count (c :: acc) rest
  | count + 1, acc, c :: cs => if isControl c then none else basicFrom count (c :: acc) cs

/-- A basic string, from behind its quote. -/
def basic? (cs : List Char) : Option (String × List Char) := basicFrom (cs.length + 1) [] cs

/-- A literal string, from behind its quote. -/
def literal? (cs : List Char) : Option (String × List Char) :=
  let text := cs.takeWhile (· ≠ '\'')
  match cs.dropWhile (· ≠ '\'') with
  | _ :: rest => if text.any isControl then none else some (String.ofList text, rest)
  | [] => none

/-- The quotes at the end of a string of several lines: three close it, and one or two more before
them belong to it. -/
def closing? (quote : Char) (cs : List Char) : Option (List Char × List Char) :=
  let quotes := cs.takeWhile (· = quote)
  if quotes.length < 3 then none
  else
    let extra := min (quotes.length - 3) 2
    some (quotes.take extra, cs.drop (extra + 3))

/-- The characters behind blanks and line breaks; at most `count` lines are skipped. -/
def dropLines : (count : Nat) → List Char → List Char
  | 0, cs => cs
  | count + 1, cs =>
    match lineBreak? (dropBlanks cs) with
    | some rest => dropLines count rest
    | none => dropBlanks cs

/-- The characters behind a line break and all blanks and line breaks after it, if only blanks
stand before the break. -/
def lineContinuation? (cs : List Char) : Option (List Char) := do
  let rest ← lineBreak? (dropBlanks cs)
  return dropLines (rest.length + 1) rest

/-- A string of several lines, with escapes if `escapes` is set; line breaks stay as they are
written.  At most `count` characters are read. -/
def multiFrom (quote : Char) (escapes : Bool) :
    (count : Nat) → (acc : List Char) → List Char → Option (String × List Char)
  | 0, _, _ => none
  | _, _, [] => none
  | count + 1, acc, c :: cs =>
    if c = quote then
      match closing? quote (c :: cs) with
      | some (extra, rest) => some (String.ofList (extra ++ acc).reverse, rest)
      | none => multiFrom quote escapes count (c :: acc) cs
    else if c = '\\' ∧ escapes then
      match lineContinuation? cs with
      | some rest => multiFrom quote escapes count acc rest
      | none => do
        let (e, rest) ← escape? cs
        multiFrom quote escapes count (e :: acc) rest
    else
      let breaks := (lineBreak? (c :: cs)).isSome
      if isControl c ∧ ¬ breaks then none else multiFrom quote escapes count (c :: acc) cs

/-- A string of several lines, from behind its three quotes; a line break right there does not
count. -/
def multi? (quote : Char) (escapes : Bool) (cs : List Char) : Option (String × List Char) :=
  let cs := (lineBreak? cs).getD cs
  multiFrom quote escapes (cs.length + 1) [] cs

/-- A string in any style. -/
def string? : List Char → Option (String × List Char)
  | '"' :: '"' :: '"' :: cs => multi? '"' true cs
  | '\'' :: '\'' :: '\'' :: cs => multi? '\'' false cs
  | '"' :: cs => basic? cs
  | '\'' :: cs => literal? cs
  | _ => none

/-! ### Keys -/

/-- Whether a character may stand in a key without quotes. -/
def isBareKeyChar (c : Char) : Bool := c.isAlphanum || c = '_' || c = '-'

/-- One part of a key. -/
def key? (cs : List Char) : Option (String × List Char) :=
  match cs with
  | '"' :: rest => basic? rest
  | '\'' :: rest => literal? rest
  | _ =>
    let name := cs.takeWhile isBareKeyChar
    if name = [] then none else some (String.ofList name, cs.dropWhile isBareKeyChar)

/-! ### Words -/

/-- Whether digits, of a class, are written with single underscores between them. -/
def isDigits (isDigit : Char → Bool) (cs : List Char) : Bool :=
  (cs.splitOn '_').all fun group => !group.isEmpty && group.all isDigit

/-- A word without a sign in front. -/
def unsigned : List Char → List Char
  | '+' :: cs => cs
  | '-' :: cs => cs
  | cs => cs

/-- Whether a word is a decimal integer without a sign; it has no leading zero. -/
def isWhole (cs : List Char) : Bool :=
  isDigits Char.isDigit cs && (cs.head? ≠ some '0' || cs = ['0'])

/-- The number that digits of a base write, underscores apart. -/
def digitsValue (base : Nat) (cs : List Char) : Nat :=
  (cs.filter (· ≠ '_')).foldl (fun n d => base * n + (Json.hexDigit? d).getD 0) 0

/-- Whether a word is an integer; none is beyond 128 bits. -/
def isInteger (cs : List Char) : Bool :=
  match cs with
  | '0' :: 'x' :: ds =>
    isDigits (fun c => (Json.hexDigit? c).isSome) ds && digitsValue 16 ds < Nat.pow 2 128
  | '0' :: 'o' :: ds =>
    isDigits (fun c => '0' ≤ c && c ≤ '7') ds && digitsValue 8 ds < Nat.pow 2 128
  | '0' :: 'b' :: ds =>
    isDigits (fun c => c = '0' || c = '1') ds && digitsValue 2 ds < Nat.pow 2 128
  | '-' :: ds => isWhole ds && digitsValue 10 ds ≤ Nat.pow 2 127
  | _ => isWhole (unsigned cs) && digitsValue 10 (unsigned cs) < Nat.pow 2 128

/-- Whether what follows the whole part makes a word a double. -/
def isFraction (cs : List Char) : Bool :=
  let isPower (cs : List Char) : Bool := isDigits Char.isDigit (unsigned cs)
  match cs with
  | '.' :: rest =>
    let digits := rest.takeWhile fun c => c ≠ 'e' && c ≠ 'E'
    let power := rest.dropWhile fun c => c ≠ 'e' && c ≠ 'E'
    isDigits Char.isDigit digits && (power = [] || isPower (power.drop 1))
  | c :: rest => (c = 'e' || c = 'E') && isPower rest
  | [] => false

/-- Whether a word is a double.  Infinity can be named, but not written with digits. -/
def isDouble (cs : List Char) : Bool :=
  let ds := unsigned cs
  let isPart (c : Char) : Bool := c.isDigit || c = '_'
  ds = ['i', 'n', 'f'] || ds = ['n', 'a', 'n'] ||
    (isWhole (ds.takeWhile isPart) && isFraction (ds.dropWhile isPart) &&
      ((Text.Decimal.read? (ds.filter (· ≠ '_'))).bind Text.Decimal.double?).isSome)

/-- The number that exactly `width` digits write, and what follows them. -/
def fixed? (width : Nat) (cs : List Char) : Option (Nat × List Char) :=
  let ds := cs.take width
  if ds.length = width ∧ ds.all Char.isDigit then some (Json.ofDigits ds, cs.drop width) else none

/-- The number of days of a month. -/
def daysOf (year month : Nat) : Nat :=
  if month = 2 then
    if year % 4 = 0 ∧ (year % 100 ≠ 0 ∨ year % 400 = 0) then 29 else 28
  else if [4, 6, 9, 11].contains month then 30
  else 31

/-- What follows a date. -/
def date? (cs : List Char) : Option (List Char) := do
  let (year, rest) ← fixed? 4 cs
  let '-' :: rest := rest | none
  let (month, rest) ← fixed? 2 rest
  let '-' :: rest := rest | none
  let (day, rest) ← fixed? 2 rest
  if 1 ≤ month ∧ month ≤ 12 ∧ 1 ≤ day ∧ day ≤ daysOf year month then some rest else none

/-- What follows a time of day; seconds may be left out, and a fraction may follow them. -/
def time? (cs : List Char) : Option (List Char) := do
  let (hour, rest) ← fixed? 2 cs
  let ':' :: rest := rest | none
  let (minute, rest) ← fixed? 2 rest
  if 24 ≤ hour ∨ 60 ≤ minute then none
  else
    match rest with
    | ':' :: rest =>
      let (second, rest) ← fixed? 2 rest
      if 60 < second then none
      else
        match rest with
        | '.' :: rest =>
          if (rest.takeWhile Char.isDigit).isEmpty then none
          else some (rest.dropWhile Char.isDigit)
        | _ => some rest
    | _ => some rest

/-- Whether a text is nothing, or the offset of a time. -/
def isOffset (cs : List Char) : Bool :=
  match cs with
  | [] => true
  | ['Z'] => true
  | ['z'] => true
  | sign :: h :: i :: ':' :: m :: n :: [] =>
    (sign = '+' || sign = '-') && [h, i, m, n].all Char.isDigit &&
      Json.ofDigits [h, i] < 24 && Json.ofDigits [m, n] < 60
  | _ => false

/-- Whether a word is a date, a time, or both. -/
def isDateTime (cs : List Char) : Bool :=
  match date? cs with
  | some [] => true
  | some (c :: rest) =>
    (c = 'T' || c = 't' || c = ' ') &&
      match time? rest with
      | some offset => isOffset offset
      | none => false
  | none => time? cs = some []

/-- Whether a bare word is a value. -/
def isWord (cs : List Char) : Bool :=
  cs = ['t', 'r', 'u', 'e'] || cs = ['f', 'a', 'l', 's', 'e'] ||
    isInteger cs || isDouble cs || isDateTime cs

/-- The bare word ahead.  A date and a time with a space between them are one word. -/
def wordSpan (cs : List Char) : List Char × List Char :=
  let isPart (c : Char) : Bool := c.isAlphanum || ['_', '-', '+', '.', ':'].contains c
  let word := cs.takeWhile isPart
  let rest := cs.dropWhile isPart
  match rest with
  | ' ' :: c :: more =>
    if date? word = some [] ∧ c.isDigit then
      (word ++ ' ' :: (c :: more).takeWhile isPart, (c :: more).dropWhile isPart)
    else (word, rest)
  | _ => (word, rest)

end ApiContract.Toml
