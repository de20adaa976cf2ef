/-
Distances in bytes: how many bytes of UTF-8 a list of characters takes, and the part of a list
between two such distances from its beginning.

Main definitions:

* `ApiContract.Text.byteLength` — the number of bytes;
* `ApiContract.Text.takeBytes`, `ApiContract.Text.dropBytes` — what lies before and after a
  distance;
* `ApiContract.Text.byteRange` — what lies between two distances.

Main results:

* `ApiContract.Text.takeBytes_append`, `ApiContract.Text.dropBytes_append` — a list is cut in two
  at the length of its first part.
-/

set_option autoImplicit false

namespace ApiContract.Text

/-- The number of bytes that the characters take in UTF-8. -/
def byteLength : List Char → Nat
  | [] => 0
  | c :: cs => c.utf8Size + byteLength cs

@[simp] theorem byteLength_nil : byteLength [] = 0 := rfl

@[simp] theorem byteLength_cons (c : Char) (cs : List Char) :
    byteLength (c :: cs) = c.utf8Size + byteLength cs := rfl

@[simp] theorem byteLength_append (cs ds : List Char) :
    byteLength (cs ++ ds) = byteLength cs + byteLength ds := by
  induction cs with
  | nil => exact (Nat.zero_add _).symm
  | cons c cs ih => simp [ih, Nat.add_assoc]

/-- The characters that end within the first `n` bytes. -/
def takeBytes (n : Nat) : List Char → List Char
  | [] => []
  | c :: cs => if c.utf8Size ≤ n then c :: takeBytes (n - c.utf8Size) cs else []

/-- The characters that do not begin within the first `n` bytes. -/
def dropBytes (n : Nat) : List Char → List Char
  | [] => []
  | c :: cs => if n = 0 then c :: cs else dropBytes (n - c.utf8Size) cs

/-- The characters between two distances from the beginning. -/
def byteRange (start stop : Nat) (cs : List Char) : List Char :=
  takeBytes (stop - start) (dropBytes start cs)

@[simp] theorem takeBytes_append (cs ds : List Char) :
    takeBytes (byteLength cs) (cs ++ ds) = cs := by
  induction cs with
  | nil =>
    cases ds with
    | nil => rfl
    | cons d ds =>
      have : ¬ d.utf8Size ≤ 0 := Nat.not_le.2 d.utf8Size_pos
      simp [takeBytes, this]
  | cons c cs ih => simp [takeBytes, ih]

@[simp] theorem dropBytes_append (cs ds : List Char) :
    dropBytes (byteLength cs) (cs ++ ds) = ds := by
  induction cs with
  | nil => cases ds <;> simp [dropBytes]
  | cons c cs ih =>
    have : c.utf8Size ≠ 0 := Nat.ne_of_gt c.utf8Size_pos
    simp [dropBytes, this, ih]

end ApiContract.Text
