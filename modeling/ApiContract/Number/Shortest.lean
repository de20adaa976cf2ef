import ApiContract.Number.Binary64

/-
The shortest decimal text of a double: the fewest significant digits that read back as the same
number and, among the decimals with that many digits, the one nearest to it.

The doubles next to a number bound the interval of reals that round to it.  For one digit, two
digits and so on up to seventeen, the two decimals around the number are tested against that
interval in exact arithmetic; the first number of digits with a hit wins.

Main definitions:

* `ApiContract.Binary64.Interval` — the reals that round to a double, on a common scale;
* `ApiContract.Binary64.shortest` — the digits and the power of ten of the last of them;
* `ApiContract.Binary64.text` — how the digits are laid out: positional from `1e-5` up to `1e16`,
  scientific outside;
* `ApiContract.Binary64.plainText` — another layout: positional throughout.
-/

set_option autoImplicit false

namespace ApiContract.Binary64

/-- The reals that round to a double: from `low` to `high` around `mid`, all over `den`. -/
structure Interval where
  low : Nat
  mid : Nat
  high : Nat
  den : Nat
  /-- Whether the two ends belong to it, as they do when the significand is even. -/
  closed : Bool

/-- The interval of a finite double other than zero. -/
def interval (x : Binary64) : Interval :=
  let (m, e) := x.decompose
  -- Below a power of two the doubles lie twice as close.
  let below := if m = Nat.pow 2 52 ∧ -1074 < e then 1 else 2
  let (unit, den) := scaled 1 (e - 2)
  ⟨(4 * m - below) * unit, 4 * m * unit, (4 * m + 2) * unit, den, m % 2 = 0⟩

/-- Whether `num / den` lies in the interval. -/
def Interval.contains (i : Interval) (num den : Nat) : Bool :=
  if i.closed then i.low * den ≤ num * i.den && num * i.den ≤ i.high * den
  else i.low * den < num * i.den && num * i.den < i.high * den

/-- The decimal `digits * 10 ^ exponent` of the interval on the grid `10 ^ exponent`: one of the
two grid points around the number, the nearer if both are inside, the even one of a tie. -/
def Interval.onGrid (i : Interval) (exponent : Int) : Option Nat :=
  let up := Nat.pow 10 exponent.toNat
  let down := Nat.pow 10 (-exponent).toNat
  let lower := i.mid * down / (i.den * up)
  let inside (n : Nat) : Bool := n ≠ 0 && i.contains (n * up) down
  match inside lower, inside (lower + 1) with
  | false, false => none
  | true, false => some lower
  | false, true => some (lower + 1)
  | true, true => some (roundHalfEven (i.mid * down) (i.den * up))

/-- The number of decimal digits before the point of `num / den`; zero or less for a number
below one. -/
def decimalSize (num den : Nat) : Int :=
  if den ≤ num then (Nat.toDigits 10 (num / den)).length
  else 1 - ((Nat.toDigits 10 (den / num)).length : Int)

/-- The decimal of the interval with the fewest digits, and the power of ten of its last digit.
Seventeen digits always suffice; two more are allowed for an estimate of the size that is too
large by one. -/
def Interval.search (i : Interval) (size : Int) : Option (Nat × Int) :=
  (List.range 20).findSome? fun (count : Nat) =>
    let exponent := size - count
    (i.onGrid exponent).map fun digits => (digits, exponent)

/-- Removes trailing zeros from the digits, the last of which counts `10 ^ exponent`. -/
def stripZeros : (fuel digits : Nat) → (exponent : Int) → Nat × Int
  | 0, digits, exponent => (digits, exponent)
  | fuel + 1, digits, exponent =>
    if digits % 10 = 0 ∧ digits ≠ 0 then stripZeros fuel (digits / 10) (exponent + 1)
    else (digits, exponent)

/-- The shortest digits of a finite double other than zero, and the power of ten that the last
of them counts. -/
def shortest (x : Binary64) : Nat × Int :=
  let i := x.interval
  match i.search (decimalSize i.mid i.den + 1) with
  | some (digits, exponent) => stripZeros 20 digits exponent
  | none => (0, 0)

/-! ### Layout -/

/-- The shortest text.  Positional notation runs from `0.00001` to sixteen digits before the
point and always shows a digit on both sides of it; beyond, one digit stands before the point and
the exponent follows an `e` with its sign. -/
def text (x : Binary64) : String :=
  let sign := if x.isNegative then "-" else ""
  if x.isZero then sign ++ "0.0"
  else
    let (digits, exponent) := x.shortest
    let ds := Nat.toDigits 10 digits
    let point : Int := ds.length + exponent
    let zeros (n : Int) : List Char := List.replicate n.toNat '0'
    let body :=
      if 0 ≤ exponent ∧ point ≤ 16 then ds ++ zeros exponent ++ ['.', '0']
      else if 0 < point ∧ point ≤ 16 then
        ds.take point.toNat ++ '.' :: ds.drop point.toNat
      else if -5 < point ∧ point ≤ 0 then '0' :: '.' :: (zeros (-point) ++ ds)
      else
        let power := (if 0 < point then '+' else '-') :: Nat.toDigits 10 (point - 1).natAbs
        match ds with
        | [d] => d :: 'e' :: power
        | d :: more => d :: '.' :: (more ++ 'e' :: power)
        | [] => []
    sign ++ String.ofList body

/-- The shortest text in positional notation, however long.  An integer has no point, and an
infinity is `inf`. -/
def plainText (x : Binary64) : String :=
  let sign := if x.isNegative then "-" else ""
  if x.isInfinite then sign ++ "inf"
  else if x.isZero then sign ++ "0"
  else
    let (digits, exponent) := x.shortest
    let ds := Nat.toDigits 10 digits
    let point : Int := ds.length + exponent
    let zeros (n : Int) : List Char := List.replicate n.toNat '0'
    let body :=
      if 0 ≤ exponent then ds ++ zeros exponent
      else if 0 < point then ds.take point.toNat ++ '.' :: ds.drop point.toNat
      else '0' :: '.' :: (zeros (-point) ++ ds)
    sign ++ String.ofList body

end ApiContract.Binary64
