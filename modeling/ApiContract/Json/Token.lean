import ApiContract.Json.Number

/-
The tokens of JSON text.

Space, tab, line feed and carriage return stand between tokens and nothing else does.  A string
may hold any character from U+0020 on; two escapes of a surrogate pair write one character, and
an unpaired surrogate is an error.

Main definitions:

* `ApiContract.Json.Token` — the six structural characters, strings, and the other scalars;
* `ApiContract.Json.readText` — a string after its opening quote;
* `ApiContract.Json.tokens?` — all tokens of a text.
-/

set_option autoImplicit false

namespace ApiContract.Json

/-- A token of JSON text. -/
inductive Token where
  | beginArray
  | endArray
  | beginObject
  | endObject
  | nameSeparator
  | valueSeparator
  | text (value : String)
  /-- A number, a truth value or `null`. -/
  | scalar (value : Json)

/-! ### Strings -/

/-- The value of a hexadecimal digit. -/
def hexDigit? (c : Char) : Option Nat :=
  if c.isDigit then some (c.toNat - '0'.toNat)
  else if 'a' ≤ c ∧ c ≤ 'f' then some (c.toNat - 'a'.toNat + 10)
  else if 'A' ≤ c ∧ c ≤ 'F' then some (c.toNat - 'A'.toNat + 10)
  else none

/-- The code unit of four hexadecimal digits. -/
def codeUnit? (a b c d : Char) : Option Nat := do
  return (((← hexDigit? a) * 16 + (← hexDigit? b)) * 16 + (← hexDigit? c)) * 16 + (← hexDigit? d)

/-- The character that a backslash and one more character write. -/
def escaped? : Char → Option Char
  | '"' => some '"'
  | '\\' => some '\\'
  | '/' => some '/'
  | 'b' => some '\x08'
  | 'f' => some '\x0c'
  | 'n' => some '\n'
  | 'r' => some '\r'
  | 't' => some '\t'
  | _ => none

/-- The first half of a surrogate pair. -/
def isHighSurrogate (n : Nat) : Bool := 0xD800 ≤ n && n ≤ 0xDBFF

/-- The second half of a surrogate pair. -/
def isLowSurrogate (n : Nat) : Bool := 0xDC00 ≤ n && n ≤ 0xDFFF

/-- The character of a surrogate pair. -/
def ofSurrogates (high low : Nat) : Char :=
  Char.ofNat (0x10000 + (high - 0xD800) * 0x400 + (low - 0xDC00))

/-- Reads a string from behind its opening quote: its characters, after those in `acc` (last
first), and what follows the closing quote. -/
def readText (acc : List Char) : List Char → Option (List Char × List Char)
  | [] => none
  | '"' :: r => some (acc.reverse, r)
  | '\\' :: 'u' :: a :: b :: c :: d :: r =>
    match codeUnit? a b c d with
    | none => none
    | some n =>
      if isLowSurrogate n then none
      else if isHighSurrogate n then
        match r with
        | '\\' :: 'u' :: a' :: b' :: c' :: d' :: r' =>
          match codeUnit? a' b' c' d' with
          | none => none
          | some m => if isLowSurrogate m then readText (ofSurrogates n m :: acc) r' else none
        | _ => none
      else readText (Char.ofNat n :: acc) r
  | '\\' :: c :: r =>
    match escaped? c with
    | none => none
    | some e => readText (e :: acc) r
  | c :: r => if c < ' ' then none else readText (c :: acc) r

/-- What follows a string is shorter than what was read. -/
theorem length_le_of_readText {acc cs s r : List Char} (h : readText acc cs = some (s, r)) :
    r.length ≤ cs.length := by
  fun_induction readText acc cs <;> grind [List.length_cons]

/-! ### Tokens -/

/-- The characters of which numbers are written. -/
def isNumberChar (c : Char) : Bool :=
  c.isDigit || c = '-' || c = '+' || c = '.' || c = 'e' || c = 'E'

/-- The blanks between tokens. -/
def isTokenBlank (c : Char) : Bool := c = ' ' || c = '\t' || c = '\n' || c = '\r'

/-- The scalar that a word writes. -/
def word? (cs : List Char) : Option Json :=
  if cs = ['n', 'u', 'l', 'l'] then some null
  else if cs = ['t', 'r', 'u', 'e'] then some (bool true)
  else if cs = ['f', 'a', 'l', 's', 'e'] then some (bool false)
  else none

/-- The structural token of a character. -/
def structural? : Char → Option Token
  | '[' => some .beginArray
  | ']' => some .endArray
  | '\x7b' => some .beginObject
  | '\x7d' => some .endObject
  | ':' => some .nameSeparator
  | ',' => some .valueSeparator
  | _ => none

/-- The tokens of a text, after those in `acc` (last first). -/
def tokensFrom (acc : List Token) : List Char → Option (List Token)
  | [] => some acc.reverse
  | c :: r =>
    if isTokenBlank c then tokensFrom acc r
    else if c = '"' then
      match h : readText [] r with
      | none => none
      | some (s, r') =>
        have := length_le_of_readText h
        tokensFrom (.text (String.ofList s) :: acc) r'
    else if isNumberChar c ∧ c ≠ 'e' ∧ c ≠ 'E' then
      match (Numeral.read? (c :: r.takeWhile isNumberChar)).bind Numeral.value? with
      | none => none
      | some v =>
        have := (r.dropWhile_suffix isNumberChar).length_le
        tokensFrom (.scalar v :: acc) (r.dropWhile isNumberChar)
    else if c.isAlpha then
      match word? (c :: r.takeWhile Char.isAlpha) with
      | none => none
      | some v =>
        have := (r.dropWhile_suffix Char.isAlpha).length_le
        tokensFrom (.scalar v :: acc) (r.dropWhile Char.isAlpha)
    else
      match structural? c with
      | none => none
      | some t => tokensFrom (t :: acc) r
termination_by cs => cs.length

/-- The tokens of a text. -/
def tokens? (cs : List Char) : Option (List Token) := tokensFrom [] cs

end ApiContract.Json
