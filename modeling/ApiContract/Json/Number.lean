import ApiContract.Json.Value

/-
How a number is written in JSON, and what it is worth.

A number without fraction and exponent is an integer when it lies between `-2 ^ 63` and
`2 ^ 64 - 1`; every other number is a double.  A double is read as a significand of 64 bits, which
takes as many of the digits as fit, scaled by one power of ten.

Main definitions:

* `ApiContract.Json.Numeral` — the parts of a written number;
* `ApiContract.Json.Numeral.read?` — the grammar: no leading zeros, no bare point, no plus sign;
* `ApiContract.Json.Numeral.value?` — the value; nothing for a double that would be infinite.
-/

set_option autoImplicit false

namespace ApiContract.Json

/-- A number as it is written in JSON, its digits apart. -/
structure Numeral where
  negative : Bool
  /-- The digits before the point. -/
  whole : List Char
  /-- The digits after the point, if there is one. -/
  fraction : Option (List Char)
  /-- The power of ten, if one is written. -/
  exponent : Option Int

/-- The number that a list of decimal digits writes. -/
def ofDigits (ds : List Char) : Nat := ds.foldl (fun n d => 10 * n + (d.toNat - '0'.toNat)) 0

namespace Numeral

/-- One or more digits, up to the end. -/
private def digits? (cs : List Char) : Option (List Char) :=
  if cs ≠ [] ∧ cs.all Char.isDigit then some cs else none

/-- The power of ten after an `e`. -/
private def exponent? : List Char → Option Int
  | '-' :: cs => (digits? cs).map fun ds => -(ofDigits ds : Int)
  | '+' :: cs => (digits? cs).map fun ds => (ofDigits ds : Int)
  | cs => (digits? cs).map fun ds => (ofDigits ds : Int)

/-- What follows the fraction: nothing, or the power of ten. -/
private def tail? (negative : Bool) (whole : List Char) (fraction : Option (List Char)) :
    List Char → Option Numeral
  | [] => some ⟨negative, whole, fraction, none⟩
  | c :: cs =>
    if c = 'e' ∨ c = 'E' then
      (exponent? cs).map fun e => ⟨negative, whole, fraction, some e⟩
    else none

/-- Reads a whole text as a number. -/
def read? (cs : List Char) : Option Numeral :=
  let (negative, cs) : Bool × List Char :=
    match cs with
    | '-' :: rest => (true, rest)
    | _ => (false, cs)
  let whole := cs.takeWhile Char.isDigit
  if whole = [] ∨ (whole.head? = some '0' ∧ whole ≠ ['0']) then none
  else
    match cs.dropWhile Char.isDigit with
    | '.' :: rest =>
      let fraction := rest.takeWhile Char.isDigit
      if fraction = [] then none
      else tail? negative whole (some fraction) (rest.dropWhile Char.isDigit)
    | rest => tail? negative whole none rest

/-! ### Value -/

/-- The greatest significand. -/
def maxSignificand : Nat := Nat.pow 2 64 - 1

/-- The longest beginning of the digits that, appended to `significand`, still fits into 64 bits,
with the digits that are left. -/
def absorb (significand : Nat) : List Char → Nat × List Char
  | [] => (significand, [])
  | d :: ds =>
    let next := 10 * significand + (d.toNat - '0'.toNat)
    if next ≤ maxSignificand then absorb next ds else (significand, d :: ds)

/-- A double divided by a power of ten, in steps of at most `10 ^ 308`. -/
def divideByTen (x : Binary64) (power : Nat) : Option Binary64 :=
  if x.isZero then some x
  else if power ≤ 308 then do (x.div (← Binary64.ofNat (Nat.pow 10 power)))
  else do divideByTen (← x.div (← Binary64.ofNat (Nat.pow 10 308))) (power - 308)
termination_by power

/-- The double of a significand times a power of ten, rounded after each step; nothing when it is
infinite. -/
def scale (significand : Nat) (power : Int) : Option Binary64 := do
  let x ← Binary64.ofNat significand
  if power < 0 then divideByTen x (-power).toNat
  else if power ≤ 308 then x.mul (← Binary64.ofNat (Nat.pow 10 power.toNat))
  else if x.isZero then some x
  else none

/-- The double of a number. -/
def double? (n : Numeral) : Option Binary64 :=
  let (significand, dropped) := absorb 0 n.whole
  let fraction := n.fraction.getD []
  let (significand, unused) := absorb significand fraction
  let power : Int := dropped.length - ((fraction.length - unused.length : Nat) : Int)
  (scale significand (power + n.exponent.getD 0)).map (Binary64.withSign n.negative)

/-- The value of a number. -/
def value? (n : Numeral) : Option Json :=
  let whole := ofDigits n.whole
  if n.fraction.isNone ∧ n.exponent.isNone ∧ ¬ n.negative ∧ whole ≤ maxSignificand then
    some (int whole)
  else if n.fraction.isNone ∧ n.exponent.isNone ∧ n.negative ∧ 0 < whole ∧ whole ≤ Nat.pow 2 63 then
    some (int (-whole))
  else n.double?.map double

end Numeral

end ApiContract.Json
