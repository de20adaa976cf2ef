/-
Anchored patterns: a pattern describes a whole text, piece by piece.

Main definitions:

* `ApiContract.Routing.Piece` — a given character, or any number of characters of a class;
* `ApiContract.Routing.accepts` — whether a text is described by a pattern.
-/

set_option autoImplicit false

namespace ApiContract.Routing

/-- The classes over which a piece may run. -/
inductive RunClass where
  /-- Every character but the slash. -/
  | withinSegment
  /-- Every character but the line feed. -/
  | withinLine
  deriving DecidableEq, Repr

/-- Whether a class holds a character. -/
def RunClass.holds : RunClass → Char → Bool
  | withinSegment, c => c ≠ '/'
  | withinLine, c => c ≠ '\n'

/-- A piece of a pattern. -/
inductive Piece where
  /-- Just this character. -/
  | literal (c : Char)
  /-- Any number of characters of a class, none included. -/
  | run (k : RunClass)
  deriving DecidableEq, Repr

/-- Whether the whole text is described by the pieces. -/
def accepts : List Piece → List Char → Bool
  | [], cs => cs.isEmpty
  | .literal _ :: _, [] => false
  | .literal c :: ps, d :: cs => c = d && accepts ps cs
  | .run _ :: ps, [] => accepts ps []
  | .run k :: ps, d :: cs => accepts ps (d :: cs) || (k.holds d && accepts (.run k :: ps) cs)
termination_by ps cs => ps.length + cs.length

/-- A beginning of literals must stand at the beginning of the text. -/
theorem accepts_literals {lits : List Char} {ps : List Piece} {cs : List Char} :
    accepts (lits.map .literal ++ ps) cs = true ↔
      ∃ rest, cs = lits ++ rest ∧ accepts ps rest = true := by
  induction lits generalizing cs with
  | nil => simp
  | cons c lits ih =>
    cases cs with
    | nil => simp [accepts]
    | cons d cs =>
      simp only [List.map_cons, List.cons_append, accepts, Bool.and_eq_true, decide_eq_true_eq, ih,
        List.cons.injEq]
      constructor
      · rintro ⟨rfl, rest, rfl, h⟩
        exact ⟨rest, ⟨rfl, rfl⟩, h⟩
      · rintro ⟨rest, ⟨rfl, rfl⟩, h⟩
        exact ⟨rfl, rest, rfl, h⟩

/-- A run at the end takes any text of its class. -/
theorem accepts_run {k : RunClass} {cs : List Char} :
    accepts [.run k] cs = true ↔ ∀ c ∈ cs, k.holds c = true := by
  induction cs with
  | nil => simp [accepts]
  | cons c cs ih => simp [accepts, ih]

end ApiContract.Routing
