/-
Request targets: absolute URIs, bare authorities, the asterisk, and paths with a query.

Only path and query are of interest here, yet the whole target must be well formed.  The rules are
looser than the standard's where clients are known to be: quotation marks and braces may stand in a
path unescaped, and so may every character beyond ASCII.  A fragment is dropped.

Main definitions:

* `ApiContract.Http.Target` — path and query of a target;
* `ApiContract.Http.Target.ofUri?` — reads a target;
* `ApiContract.Http.Target.split` — parts a path from its query without any checks.
-/

set_option autoImplicit false

namespace ApiContract.Http

/-- Path and query of a request target. -/
structure Target where
  path : String
  query : Option String
  deriving DecidableEq, Repr

namespace Target

/-- Parts a text at its first question mark. -/
def split (s : String) : Target :=
  let cs := s.toList
  match cs.dropWhile (· ≠ '?') with
  | [] => ⟨s, none⟩
  | _ :: query => ⟨String.ofList (cs.takeWhile (· ≠ '?')), some (String.ofList query)⟩

/-! ### Path and query -/

/-- Whether a character may stand in a path: among the ASCII characters neither controls, space nor
`<`, `>` and the grave accent, and not `?` and `#`, which end the path. -/
def isPathChar (c : Char) : Bool :=
  '\x21' ≤ c && !(['#', '<', '>', '?', '\x60', '\x7f'].contains c)

/-- Whether a character may stand in a query. -/
def isQueryChar (c : Char) : Bool :=
  '\x21' ≤ c && !(['\x22', '#', '<', '>', '\x7f'].contains c)

/-- A query up to a fragment. -/
def query? (cs : List Char) : Option (List Char) :=
  match cs.dropWhile isQueryChar with
  | [] => some cs
  | '#' :: _ => some (cs.takeWhile isQueryChar)
  | _ => none

/-- Path and query up to a fragment; an empty path is the root. -/
def ofPathAndQuery? (cs : List Char) : Option Target :=
  let path := cs.takeWhile isPathChar
  let path := if path.isEmpty then "/" else String.ofList path
  match cs.dropWhile isPathChar with
  | [] => some ⟨path, none⟩
  | '#' :: _ => some ⟨path, none⟩
  | '?' :: rest => (query? rest).map fun q => ⟨path, some (String.ofList q)⟩
  | _ => none

/-! ### Authority -/

/-- The ASCII characters that URIs are made of, the percent sign apart. -/
def isUriChar (c : Char) : Bool :=
  c.isAlphanum ||
    ['!', '#', '$', '&', '\'', '(', ')', '*', '+', ',', '-', '.', '/', ':', ';', '=', '?', '@',
      '[', ']', '_', '~'].contains c

/-- What has been seen of an authority. -/
structure Authority where
  /-- Colons since the last `@` or `]`. -/
  colons : Nat
  opened : Bool
  closed : Bool
  /-- A percent sign since the last `@` or `]`. -/
  percent : Bool
  /-- The last character was an `@`. -/
  atEnd : Bool

/-- The effect of one character of an authority. -/
def Authority.step (a : Authority) (c : Char) : Option Authority :=
  let a := { a with atEnd := false }
  if c = ':' then if a.colons < 8 then some { a with colons := a.colons + 1 } else none
  else if c = '[' then if a.percent ∨ a.opened then none else some { a with opened := true }
  else if c = ']' then
    if ¬ a.opened ∨ a.closed then none
    else some { a with closed := true, colons := 0, percent := false }
  else if c = '@' then some { a with atEnd := true, colons := 0, percent := false }
  else if c = '%' then some { a with percent := true }
  else if isUriChar c then some a
  else none

/-- Whether the authority may end here: brackets are paired, at most one colon follows the host, a
host follows the user, and the host holds no percent sign. -/
def Authority.isComplete (a : Authority) : Bool :=
  a.opened = a.closed && a.colons ≤ 1 && !a.atEnd && !a.percent

/-- Whether a character ends an authority. -/
def endsAuthority (c : Char) : Bool := c = '/' || c = '?' || c = '#'

/-- Whether a text without `/`, `?` and `#` is an authority; the empty text is one here. -/
def isAuthority (cs : List Char) : Bool :=
  match cs.foldlM Authority.step ⟨0, false, false, false, false⟩ with
  | some a => a.isComplete
  | none => false

/-! ### Whole targets -/

/-- The characters of which schemes are made. -/
def isSchemeChar (c : Char) : Bool := c.isAlphanum || c = '+' || c = '-' || c = '.' || c = '~'

/-- What the text holds in front of `://`, and behind it. -/
def scheme? (cs : List Char) : Option (List Char × List Char) :=
  match cs.dropWhile isSchemeChar with
  | ':' :: '/' :: '/' :: rest => some (cs.takeWhile isSchemeChar, rest)
  | _ => none

/-- The greatest length of a scheme. -/
def maxScheme : Nat := 64

/-- The greatest length of a target in bytes. -/
def maxLength : Nat := 65534

/-- Reads a request target. -/
def ofUri? (s : String) : Option Target :=
  let cs := s.toList
  if maxLength < s.utf8ByteSize ∨ cs = [] then none
  else if cs = ['*'] then some ⟨"*", none⟩
  else if cs.head? = some '/' then ofPathAndQuery? cs
  else
    match scheme? cs with
    | some (scheme, rest) =>
      let authority := rest.takeWhile (!endsAuthority ·)
      if maxScheme < scheme.length ∨ authority = [] ∨ ¬ isAuthority authority then none
      else ofPathAndQuery? (rest.dropWhile (!endsAuthority ·))
    | none => if cs.any endsAuthority ∨ ¬ isAuthority cs then none else some ⟨"", none⟩

end Target

end ApiContract.Http
