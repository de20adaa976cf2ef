import ApiContract.Text.Segments
import ApiContract.Text.Utf8

/-
The form encoding of query strings: `name=value` pairs joined by ampersands, with plus signs for
spaces and percent escapes for bytes.

Main definitions:

* `ApiContract.Http.Form.unescape` — the bytes that an encoded name or value stands for;
* `ApiContract.Http.Form.pairs` — the pairs of a query string, in order.

A percent sign that no two hexadecimal digits follow stands for itself, and so does a pair without
an equals sign for a name with an empty value.  Empty pieces between ampersands are skipped.
-/

set_option autoImplicit false

namespace ApiContract.Http.Form

/-- The value of a hexadecimal digit. -/
def hexDigit? (b : UInt8) : Option UInt8 :=
  if 48 ≤ b ∧ b ≤ 57 then some (b - 48)
  else if 97 ≤ b ∧ b ≤ 102 then some (b - 87)
  else if 65 ≤ b ∧ b ≤ 70 then some (b - 55)
  else none

/-- The byte of two hexadecimal digits. -/
def hexByte? (a b : UInt8) : Option UInt8 := do return (← hexDigit? a) * 16 + (← hexDigit? b)

/-- Undoes the encoding: `+` is a space and `%` with two hexadecimal digits is a byte. -/
def unescape : List UInt8 → List UInt8
  | [] => []
  | 37 :: a :: b :: rest =>
    match hexByte? a b with
    | some byte => byte :: unescape rest
    | none => 37 :: unescape (a :: b :: rest)
  | b :: rest => (if b = 43 then 32 else b) :: unescape rest

/-- The text of an encoded name or value. -/
def decode (bytes : List UInt8) : String := Text.ofBytes ⟨(unescape bytes).toArray⟩

/-- Name and value of one piece, which the first equals sign parts. -/
def pair (piece : List UInt8) : String × String :=
  (decode (piece.takeWhile (· ≠ 61)), decode ((piece.dropWhile (· ≠ 61)).drop 1))

/-- The pairs of a query string, in order. -/
def pairs (query : String) : List (String × String) :=
  ((query.toUTF8.toList.splitOn 38).filter fun piece => !piece.isEmpty).map pair

end ApiContract.Http.Form
