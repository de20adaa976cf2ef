/-
Double-precision floating-point numbers, as the 64 bits of their interchange format.

Every operation is exact integer arithmetic followed by one rounding, so nothing here depends on
a machine's floating-point unit and every function can be evaluated inside a proof.

Main definitions:

* `ApiContract.Binary64` — the 64 bits;
* `ApiContract.Binary64.infinity` — what lies beyond all finite doubles;
* `ApiContract.Binary64.ofRatio` — the double nearest to a quotient, ties to even;
* `ApiContract.Binary64.ratio` — the quotient a finite double stands for;
* `ApiContract.Binary64.mul`, `ApiContract.Binary64.div` — product and quotient, rounded once;
* `ApiContract.Binary64.ofDecimal` — the double nearest to `digits * 10 ^ exponent`.
-/

set_option autoImplicit false

namespace ApiContract

/-- A double, given by the bits of its interchange format. -/
structure Binary64 where
  /-- Sign, eleven bits of exponent, fifty-two bits of fraction. -/
  bits : UInt64
  deriving DecidableEq, Repr

namespace Binary64

/-- The bit of the sign. -/
def signBit : Nat := Nat.pow 2 63

/-- The bits of positive infinity; the magnitudes below it are the finite ones. -/
def infinityBits : Nat := 0x7ff * Nat.pow 2 52

/-- The double of a sign and the bits of a magnitude. -/
def ofMagnitude (negative : Bool) (magnitude : Nat) : Binary64 :=
  ⟨UInt64.ofNat (if negative then signBit + magnitude else magnitude)⟩

/-- Zero, with a sign. -/
def zero (negative : Bool) : Binary64 := ofMagnitude negative 0

/-- Infinity, with a sign. -/
def infinity (negative : Bool) : Binary64 := ofMagnitude negative infinityBits

/-- The bits without the sign. -/
def magnitude (x : Binary64) : Nat := x.bits.toNat % signBit

/-- Whether the sign bit is set. -/
def isNegative (x : Binary64) : Bool := signBit ≤ x.bits.toNat

/-- Whether the number is a zero of either sign. -/
def isZero (x : Binary64) : Bool := x.magnitude = 0

/-- Whether the number is an infinity of either sign. -/
def isInfinite (x : Binary64) : Bool := x.magnitude = infinityBits

/-- A number that stands in the order of the integers where the double stands in the order of the
reals; the two zeros are equal. -/
def position (x : Binary64) : Int := if x.isNegative then -(x.magnitude : Int) else x.magnitude

/-- The same magnitude with the given sign. -/
def withSign (negative : Bool) (x : Binary64) : Binary64 := ofMagnitude negative x.magnitude

/-- Significand and exponent: the magnitude of a finite double is `m * 2 ^ e`. -/
def decompose (x : Binary64) : Nat × Int :=
  let field : Nat := x.magnitude / Nat.pow 2 52
  let fraction := x.magnitude % Nat.pow 2 52
  if field = 0 then (fraction, -1074) else (Nat.pow 2 52 + fraction, (field : Int) - 1075)

/-- The quotient `m * 2 ^ e` as numerator and denominator. -/
def scaled (m : Nat) (e : Int) : Nat × Nat :=
  if 0 ≤ e then (m * Nat.pow 2 e.toNat, 1) else (m, Nat.pow 2 (-e).toNat)

/-- The magnitude of a finite double as a quotient. -/
def ratio (x : Binary64) : Nat × Nat := scaled x.decompose.1 x.decompose.2

/-! ### Rounding -/

/-- The integer nearest to `num / den`; a half goes to the even neighbour. -/
def roundHalfEven (num den : Nat) : Nat :=
  let q := num / den
  let twice := 2 * (num % den)
  if twice < den then q else if den < twice then q + 1 else q + q % 2

/-- An exponent `e` for which `num / den * 2 ^ (-e)` lies between `2 ^ 52` and `2 ^ 53`, or the
least one of the format. -/
def quotientExponent (num den : Nat) : Int :=
  let e : Int := (num.log2 : Int) - den.log2 - 52
  let (n, d) := scaled num (-e)
  let e := if n < Nat.pow 2 52 * (d * den) then e - 1 else e
  max e (-1074)

/-- The double nearest to `num / den`, ties to even; nothing when it would be infinite. -/
def ofRatio (negative : Bool) (num den : Nat) : Option Binary64 :=
  if num = 0 then some (zero negative)
  else
    let e := quotientExponent num den
    let (n, d) := scaled num (-e)
    let magnitude := (e + 1074).toNat * Nat.pow 2 52 + roundHalfEven n (d * den)
    if magnitude < infinityBits then some (ofMagnitude negative magnitude) else none

/-- The product of two finite doubles. -/
def mul (x y : Binary64) : Option Binary64 :=
  ofRatio (x.isNegative != y.isNegative) (x.ratio.1 * y.ratio.1) (x.ratio.2 * y.ratio.2)

/-- The quotient of two finite doubles, the second not a zero. -/
def div (x y : Binary64) : Option Binary64 :=
  ofRatio (x.isNegative != y.isNegative) (x.ratio.1 * y.ratio.2) (x.ratio.2 * y.ratio.1)

/-- The double nearest to an integer. -/
def ofNat (n : Nat) : Option Binary64 := ofRatio false n 1

/-! ### Decimals -/

/-- The double nearest to `digits * 10 ^ exponent`; nothing when it would be infinite.

A magnitude of 310 digits or more is above every double, and one below `10 ^ (-330)` rounds to
zero, so no power beyond these bounds is ever computed. -/
def ofDecimal (negative : Bool) (digits : Nat) (exponent : Int) : Option Binary64 :=
  if digits = 0 then some (zero negative)
  else
    let size : Int := (Nat.toDigits 10 digits).length
    if 310 < size + exponent then none
    else if size + exponent < -330 then some (zero negative)
    else if 0 ≤ exponent then ofRatio negative (digits * Nat.pow 10 exponent.toNat) 1
    else ofRatio negative digits (Nat.pow 10 (-exponent).toNat)

/-- The sixteen hexadecimal digits of the bits, in lower case. -/
def hexDigits (x : Binary64) : String :=
  let ds := Nat.toDigits 16 x.bits.toNat
  String.ofList (List.replicate (16 - ds.length) '0' ++ ds)

end Binary64

end ApiContract
