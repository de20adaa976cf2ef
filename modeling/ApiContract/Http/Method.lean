import ApiContract.Text.Case

/-
Request methods: any token of HTTP, upper and lower case told apart.
-/

set_option autoImplicit false

namespace ApiContract.Http

/-- The characters of which tokens are made. -/
def isTokenChar (c : Char) : Bool :=
  c.isAlphanum ||
    ['!', '#', '$', '%', '&', '\'', '*', '+', '-', '.', '^', '_', '\x60', '|', '~'].contains c

/-- A request method. -/
structure Method where
  name : String
  /-- It is not empty. -/
  nonempty : name ≠ ""
  /-- It is a token. -/
  token : name.toList.all isTokenChar = true

namespace Method

/-- The method of a name, if the name is a token. -/
def ofString? (s : String) : Option Method :=
  if hn : s ≠ "" then if ht : s.toList.all isTokenChar = true then some ⟨s, hn, ht⟩ else none
  else none

/-- The key of a path item under which the method's operation stands. -/
def key (m : Method) : String := Text.lower m.name

end Method

end ApiContract.Http
