import ApiContract.Http.Form
import ApiContract.Json.Value

/-
Query parameters: a table from names to JSON values.

Of a query string, a plain name has the text written last.  A name followed by `[]` collects every
text written for it, and whatever stood there before, if it was no list, gives way to the list.  A
table that is filled in any other way may hold values of every kind.

Main definitions:

* `ApiContract.Http.Query` — the table, in the order of the names;
* `ApiContract.Http.Query.set`, `ApiContract.Http.Query.add` — a plain write, a collecting write;
* `ApiContract.Http.Query.ofText` — the table of a query string.

Main results:

* `ApiContract.Http.Query.get?_set` — looking up after a write.
-/

set_option autoImplicit false

namespace ApiContract.Http

/-- Query parameters, in the order of their names.  A value may be of any kind, although a query
string gives texts and lists of texts only. -/
abbrev Query := List (String × Json)

namespace Query

/-- The value of a name. -/
def get? (q : Query) (name : String) : Option Json := q.lookup name

/-- Gives a name a value. -/
def set : Query → String → Json → Query
  | [], name, value => [(name, value)]
  | (n, v) :: rest, name, value =>
    if name = n then (name, value) :: rest
    else if name < n then (name, value) :: (n, v) :: rest
    else (n, v) :: set rest name value

/-- Adds a text to the list of a name. -/
def add (q : Query) (name value : String) : Query :=
  match q.get? name with
  | some (.array items) => q.set name (.array (items ++ [.text value]))
  | _ => q.set name (.texts [value])

/-- The name in front of the brackets of a collecting write. -/
def collected? (key : String) : Option String :=
  match key.toList.reverse with
  | ']' :: '[' :: rest => some (String.ofList rest.reverse)
  | _ => none

/-- The effect of a pair of the query string. -/
def write (q : Query) (pair : String × String) : Query :=
  match collected? pair.1 with
  | some name => add q name pair.2
  | none => Query.set q pair.1 (.text pair.2)

/-- The table of a query string. -/
def ofText (query : String) : Query := (Form.pairs query).foldl write []

theorem get?_cons (n : String) (v : Json) (rest : Query) (name : String) :
    get? ((n, v) :: rest) name = if name = n then some v else get? rest name := by
  by_cases h : name = n
  · simp [get?, h]
  · simp [get?, List.lookup_cons, beq_eq_false_iff_ne.mpr h, h]

/-- A written name is found, and no other look-up changes. -/
theorem get?_set (q : Query) (name other : String) (value : Json) :
    (Query.set q name value).get? other = if other = name then some value else q.get? other := by
  induction q with
  | nil => simp [set, get?_cons]
  | cons entry rest ih =>
    obtain ⟨n, v⟩ := entry
    unfold set
    split
    · subst name
      by_cases ho : other = n <;> simp [get?_cons, ho]
    · split
      · simp [get?_cons]
      · by_cases ho : other = n
        · subst ho
          simp [get?_cons, Ne.symm ‹name ≠ other›]
        · simp [get?_cons, ho, ih]

end Query

end ApiContract.Http
