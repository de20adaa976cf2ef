import ApiContract.Json.Number
import ApiContract.Text.Blank

/-
Decimal numerals as people write them: an optional sign, digits with or without a point, and an
optional power of ten.  `1`, `+1.`, `.5` and `-1.5E+10` are numerals; a lone point is not, and
neither is any word for infinity.

Main definitions:

* `ApiContract.Text.Decimal` — the parts of a numeral, `ApiContract.Text.Decimal.read?`;
* `ApiContract.Text.isNumeral` — whether a string is a numeral, white space around it apart;
* `ApiContract.Text.Decimal.double?` — the double nearest to a numeral.
-/

set_option autoImplicit false

namespace ApiContract.Text

/-- A numeral, its digits apart. -/
structure Decimal where
  negative : Bool
  /-- The digits before the point. -/
  whole : List Char
  /-- The digits after the point. -/
  fraction : List Char
  exponent : Int

namespace Decimal

/-- A sign, if there is one, and what follows it. -/
def sign : List Char → Bool × List Char
  | '-' :: cs => (true, cs)
  | '+' :: cs => (false, cs)
  | cs => (false, cs)

/-- The power of ten that a signed row of digits writes. -/
def power? (cs : List Char) : Option Int :=
  let (negative, ds) := sign cs
  if ds ≠ [] ∧ ds.all Char.isDigit then
    some (if negative then -(Json.ofDigits ds : Int) else Json.ofDigits ds)
  else none

/-- What may follow the digits: nothing, or an `e` and a power of ten. -/
def exponent? : List Char → Option Int
  | [] => some 0
  | c :: cs => if c = 'e' ∨ c = 'E' then power? cs else none

/-- The digits after a point, if there is a point, and what follows them. -/
def pointed : List Char → List Char × List Char
  | '.' :: cs => (cs.takeWhile Char.isDigit, cs.dropWhile Char.isDigit)
  | cs => ([], cs)

/-- Reads a whole text as a numeral. -/
def read? (cs : List Char) : Option Decimal :=
  let (negative, cs) := sign cs
  let whole := cs.takeWhile Char.isDigit
  let (fraction, rest) := pointed (cs.dropWhile Char.isDigit)
  if whole = [] ∧ fraction = [] then none
  else (exponent? rest).map fun e => ⟨negative, whole, fraction, e⟩

/-- The double nearest to a numeral; nothing when it would be infinite. -/
def double? (n : Decimal) : Option Binary64 :=
  Binary64.ofDecimal n.negative (Json.ofDigits (n.whole ++ n.fraction))
    (n.exponent - n.fraction.length)

end Decimal

/-- Whether a string is a numeral, white space around it apart. -/
def isNumeral (s : String) : Bool := (Decimal.read? (trimWhere isBlank s.toList)).isSome

end ApiContract.Text
