import ApiContract.Logging.Expression
import ApiContract.Number.Shortest
import ApiContract.Text.Case
import ApiContract.Text.Decimal

/-
Conditions on a field of a span: that the field is there or, with an equals sign, that it has a
value.

A value is what its text can be read as first: a truth value, a number without a sign, a number
with one, a double, or else a regular expression for the text of the field.

Main definitions:

* `ApiContract.Logging.Expected` — the values, `ApiContract.Logging.Expected.ofText?`;
* `ApiContract.Logging.Condition` — a field and perhaps a value,
  `ApiContract.Logging.Condition.ofText?`.
-/

set_option autoImplicit false

namespace ApiContract.Logging

/-- The order of two texts, by code points. -/
def order (s t : String) : Ordering := compareOfLessAndEq s t

/-! ### Values -/

/-- What a field may be expected to be. -/
inductive Expected where
  | truth (value : Bool)
  | double (value : Binary64)
  | notANumber
  | natural (value : Nat)
  | integer (value : Int)
  | expression (pattern : String)
  deriving DecidableEq, Repr

namespace Expected

/-- Reads digits, which a plus sign may precede, as a number of 64 bits. -/
def natural? (cs : List Char) : Option Nat :=
  let ds := match cs with | '+' :: ds => ds | ds => ds
  if ds ≠ [] ∧ ds.all Char.isDigit ∧ Json.ofDigits ds < Nat.pow 2 64 then
    some (Json.ofDigits ds)
  else none

/-- Reads digits behind a minus sign as a number of 64 bits, one of them for the sign. -/
def negative? : List Char → Option Int
  | '-' :: ds =>
    if ds ≠ [] ∧ ds.all Char.isDigit ∧ Json.ofDigits ds ≤ Nat.pow 2 63 then
      some (-(Json.ofDigits ds : Int))
    else none
  | _ => none

/-- Reads a double: a numeral, or a word for infinity or for what is not a number, letter case
apart.  A numeral beyond the finite doubles is an infinity. -/
def double? (cs : List Char) : Option Expected :=
  match Text.Decimal.read? cs with
  | some n => some (.double (n.double?.getD (Binary64.infinity n.negative)))
  | none =>
    let (negative, word) := Text.Decimal.sign cs
    let word := Text.lower (String.ofList word)
    if word = "inf" ∨ word = "infinity" then some (.double (Binary64.infinity negative))
    else if word = "nan" then some .notANumber
    else none

/-- What a text is read as; a text that is nothing else must be a regular expression. -/
def ofText? (s : String) : Option Expected :=
  if s = "true" then some (.truth true)
  else if s = "false" then some (.truth false)
  else
    ((natural? s.toList).map natural).or <| ((negative? s.toList).map integer).or <|
      (double? s.toList).or <| if Expression.isValid s then some (.expression s) else none

/-- The text of a value. -/
def text : Expected → String
  | truth value => if value then "true" else "false"
  | double value => value.plainText
  | notANumber => "NaN"
  | natural value => toString value
  | integer value => toString value
  | expression pattern => pattern

/-- The place of a kind of value in the order of values. -/
def rank : Expected → Nat
  | truth _ => 0
  | double _ => 1
  | notANumber => 2
  | natural _ => 3
  | integer _ => 4
  | expression _ => 5

/-- The order of two values; zero and minus zero are of one rank. -/
def compare : Expected → Expected → Ordering
  | truth a, truth b => Ord.compare a.toNat b.toNat
  | double x, double y => Ord.compare x.position y.position
  | natural m, natural n => Ord.compare m n
  | integer i, integer j => Ord.compare i j
  | expression s, expression t => order s t
  | a, b => Ord.compare a.rank b.rank

end Expected

/-! ### Conditions -/

/-- A field and, if it is written, the value that it must have. -/
structure Condition where
  field : String
  value : Option Expected
  deriving DecidableEq, Repr

namespace Condition

/-- Reads a field and, behind an equals sign, a value; what follows another equals sign is passed
over. -/
def ofText? (s : String) : Option Condition :=
  match Text.segments '=' s with
  | [] => none
  | [field] => some ⟨field, none⟩
  | field :: value :: _ => (Expected.ofText? value).map fun value => ⟨field, some value⟩

/-- The text of a condition. -/
def text (c : Condition) : String :=
  match c.value with
  | some value => s!"{c.field}={value.text}"
  | none => c.field

/-- The order of two conditions: those with a value last, then by their fields. -/
def compare (c d : Condition) : Ordering :=
  (Ord.compare c.value.isSome.toNat d.value.isSome.toNat).then <|
    (order c.field d.field).then <|
      match c.value, d.value with
      | some a, some b => a.compare b
      | _, _ => .eq

end Condition

end ApiContract.Logging
