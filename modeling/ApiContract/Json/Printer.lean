import ApiContract.Json.Value
import ApiContract.Number.Shortest

/-
Compact JSON text: no blanks, fields in order, and only those characters of a string escaped that
must be.

Main definitions:

* `ApiContract.Json.quoted` — a string between quotes;
* `ApiContract.Json.print` — a value, with a given spelling of doubles;
* `ApiContract.Json.compact` — the text of a value, doubles in their shortest decimal form.
-/

set_option autoImplicit false

namespace ApiContract.Json

/-- A hexadecimal digit in lower case. -/
def hexChar (n : Nat) : Char := if n < 10 then Char.ofNat (48 + n) else Char.ofNat (87 + n)

/-- The spelling of one character inside a string. -/
def escape (c : Char) : List Char :=
  if c = '"' then ['\\', '"']
  else if c = '\\' then ['\\', '\\']
  else if c = '\x08' then ['\\', 'b']
  else if c = '\x0c' then ['\\', 'f']
  else if c = '\n' then ['\\', 'n']
  else if c = '\r' then ['\\', 'r']
  else if c = '\t' then ['\\', 't']
  else if c < ' ' then ['\\', 'u', '0', '0', hexChar (c.toNat / 16), hexChar (c.toNat % 16)]
  else [c]

/-- A string between quotes. -/
def quoted (s : String) : List Char := '"' :: (s.toList.flatMap escape ++ ['"'])

/-- The decimal digits of an integer, after its sign. -/
def printInt : Int → List Char
  | .ofNat n => Nat.toDigits 10 n
  | .negSucc n => '-' :: Nat.toDigits 10 (n + 1)

mutual

/-- The text of a value, where `number` spells the doubles. -/
def print (number : Binary64 → String) : Json → List Char
  | null => ['n', 'u', 'l', 'l']
  | bool true => ['t', 'r', 'u', 'e']
  | bool false => ['f', 'a', 'l', 's', 'e']
  | int n => printInt n
  | double x => (number x).toList
  | text s => quoted s
  | array items => '[' :: (printItems number items ++ [']'])
  | object fields => '\x7b' :: (printFields number fields ++ ['\x7d'])

/-- The items of an array, separated by commas. -/
def printItems (number : Binary64 → String) : List Json → List Char
  | [] => []
  | [v] => print number v
  | v :: rest => print number v ++ ',' :: printItems number rest

/-- The fields of an object, separated by commas. -/
def printFields (number : Binary64 → String) : List (String × Json) → List Char
  | [] => []
  | [(k, v)] => quoted k ++ ':' :: print number v
  | (k, v) :: rest => quoted k ++ ':' :: (print number v ++ ',' :: printFields number rest)

end

/-- The compact text of a value, where `number` spells the doubles. -/
def compactWith (number : Binary64 → String) (v : Json) : String := String.ofList (v.print number)

/-- The compact text of a value, doubles in their shortest decimal form. -/
def compact (v : Json) : String := v.compactWith Binary64.text

end ApiContract.Json
