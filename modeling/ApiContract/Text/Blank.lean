/-
White space, and what it means to trim it.

Two classes of white space are in use.  Values that people type are trimmed of everything Unicode
calls white space; a raw payload counts as empty when it holds nothing but the five ASCII blanks.

Main definitions:

* `ApiContract.Text.isBlank` — the Unicode property `White_Space`;
* `ApiContract.Text.isAsciiBlank` — space, tab, line feed, form feed and carriage return, as bytes;
* `ApiContract.Text.trimWhere` — a list without the leading and trailing members of a class;
* `ApiContract.Text.trim` — a string without white space around it.
-/

set_option autoImplicit false

namespace ApiContract.Text

/-- The 25 characters with the Unicode property `White_Space`. -/
def blanks : List Char :=
  ['\t', '\n', '\x0b', '\x0c', '\r', ' ', '\x85', '\u00a0', '\u1680', '\u2000', '\u2001',
    '\u2002', '\u2003', '\u2004', '\u2005', '\u2006', '\u2007', '\u2008', '\u2009', '\u200a',
    '\u2028', '\u2029', '\u202f', '\u205f', '\u3000']

/-- Whether a character is white space in the sense of Unicode. -/
def isBlank (c : Char) : Bool := blanks.contains c

/-- Whether a byte is one of the five ASCII blanks; the vertical tab is none of them. -/
def isAsciiBlank (b : UInt8) : Bool := b = 32 || b = 9 || b = 10 || b = 12 || b = 13

/-! ### Trimming -/

/-- The list without its leading and trailing members of the class `p`. -/
def trimWhere (p : Char → Bool) (cs : List Char) : List Char :=
  ((cs.dropWhile p).reverse.dropWhile p).reverse

/-- The list without its trailing members of the class `p`. -/
def trimEndWhere (p : Char → Bool) (cs : List Char) : List Char :=
  (cs.reverse.dropWhile p).reverse

/-- Trailing members of the class make no difference. -/
theorem trimEndWhere_append {p : Char → Bool} {ys : List Char} (h : ∀ c ∈ ys, p c = true)
    (cs : List Char) : trimEndWhere p (cs ++ ys) = trimEndWhere p cs := by
  have hrev : ∀ c ∈ ys.reverse, p c = true := fun c hc => h c (List.mem_reverse.1 hc)
  rw [trimEndWhere, List.reverse_append, List.dropWhile_append_of_pos hrev, trimEndWhere]

/-- No member of the class is left at the end. -/
theorem getLast?_trimEndWhere_ne {p : Char → Bool} {c : Char} (h : p c = true) (cs : List Char) :
    (trimEndWhere p cs).getLast? ≠ some c := by
  intro hlast
  have hnot := List.head?_dropWhile_not p cs.reverse
  rw [trimEndWhere, List.getLast?_reverse] at hlast
  simp [hlast, h] at hnot

/-- Leading and trailing members of the class make no difference. -/
theorem trimWhere_append {p : Char → Bool} {xs ys : List Char} (hx : ∀ c ∈ xs, p c = true)
    (hy : ∀ c ∈ ys, p c = true) (cs : List Char) :
    trimWhere p (xs ++ (cs ++ ys)) = trimWhere p cs := by
  rw [trimWhere, List.dropWhile_append_of_pos hx, List.dropWhile_append]
  split
  · next hempty =>
      have hys : ys.dropWhile p = [] := by
        simpa using @List.dropWhile_append_of_pos _ p ys [] hy
      rw [hys, trimWhere, List.isEmpty_iff.1 hempty]
  · exact trimEndWhere_append hy _

/-- What trimming takes away are members of the class at both ends. -/
theorem exists_trimWhere (p : Char → Bool) (cs : List Char) :
    ∃ before after, (∀ c ∈ before ++ after, p c = true) ∧
      cs = before ++ (trimWhere p cs ++ after) := by
  refine ⟨cs.takeWhile p, ((cs.dropWhile p).reverse.takeWhile p).reverse, ?_, ?_⟩
  · intro c hc
    rcases List.mem_append.1 hc with hc | hc
    · exact List.all_eq_true.1 List.all_takeWhile c hc
    · exact List.all_eq_true.1 List.all_takeWhile c (List.mem_reverse.1 hc)
  · rw [trimWhere, ← List.reverse_append, List.takeWhile_append_dropWhile, List.reverse_reverse,
      List.takeWhile_append_dropWhile]

/-- What is trimmed once is trimmed. -/
@[simp] theorem trimWhere_trimWhere (p : Char → Bool) (cs : List Char) :
    trimWhere p (trimWhere p cs) = trimWhere p cs := by
  obtain ⟨before, after, hclass, hcs⟩ := exists_trimWhere p cs
  rw [List.forall_mem_append] at hclass
  conv => rhs; rw [hcs, trimWhere_append hclass.1 hclass.2]

/-- A string without leading and trailing white space. -/
def trim (s : String) : String := String.ofList (trimWhere isBlank s.toList)

@[simp] theorem toList_trim (s : String) : (trim s).toList = trimWhere isBlank s.toList := by
  simp [trim]

end ApiContract.Text
