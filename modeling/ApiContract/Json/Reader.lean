import ApiContract.Json.Token

/-
JSON values from tokens.

The reader takes one token at a time and keeps the containers that are still open in a list, the
innermost first.  It therefore ends with the tokens, and the number of open containers is at hand
when the limit of 127 is checked.

Main definitions:

* `ApiContract.Json.Frame` — an open container with what has been read of it;
* `ApiContract.Json.State` — what must come next;
* `ApiContract.Json.State.step` — the effect of a token;
* `ApiContract.Json.read?`, `ApiContract.Json.ofText?` — a value from characters, from a string.
-/

set_option autoImplicit false

namespace ApiContract.Json

/-- The number of containers that may be open at once. -/
def maxDepth : Nat := 127

/-- An open container. -/
inductive Frame where
  /-- An array with the items before the current one, last first. -/
  | array (items : List Json)
  /-- An object with the entries before the current one, last first, and the current name. -/
  | object (entries : List (String × Json)) (name : String)

/-- What the reader expects, with the open containers, innermost first. -/
inductive State where
  /-- A value. -/
  | value (stack : List Frame)
  /-- The first item of an array, or its end. -/
  | item (stack : List Frame)
  /-- The first name of an object, or its end. -/
  | firstName (stack : List Frame)
  /-- A further name of an object. -/
  | name (stack : List Frame) (entries : List (String × Json))
  /-- The separator between a name and its value. -/
  | separator (stack : List Frame) (entries : List (String × Json)) (name : String)
  /-- A value is complete; the innermost container continues or ends. -/
  | complete (stack : List Frame) (value : Json)

namespace State

/-- A value begins. -/
def start (stack : List Frame) : Token → Option State
  | .scalar v => some (complete stack v)
  | .text s => some (complete stack (.text s))
  | .beginArray => if stack.length < maxDepth then some (item stack) else none
  | .beginObject => if stack.length < maxDepth then some (firstName stack) else none
  | _ => none

/-- The effect of one token. -/
def step : State → Token → Option State
  | value stack, t => start stack t
  | item stack, .endArray => some (complete stack (.array []))
  | item stack, t => start (.array [] :: stack) t
  | firstName stack, .endObject => some (complete stack (.object []))
  | firstName stack, .text k => some (separator stack [] k)
  | name stack entries, .text k => some (separator stack entries k)
  | separator stack entries k, .nameSeparator => some (value (.object entries k :: stack))
  | complete (.array items :: stack) v, .valueSeparator =>
    some (value (.array (v :: items) :: stack))
  | complete (.array items :: stack) v, .endArray =>
    some (complete stack (.array (v :: items).reverse))
  | complete (.object entries k :: stack) v, .valueSeparator =>
    some (name stack ((k, v) :: entries))
  | complete (.object entries k :: stack) v, .endObject =>
    some (complete stack (.object (Fields.ofEntries ((k, v) :: entries).reverse)))
  | _, _ => none

/-- The value of a finished reading. -/
def result? : State → Option Json
  | complete [] v => some v
  | _ => none

end State

/-- The value that tokens write. -/
def ofTokens? (ts : List Token) : Option Json :=
  (ts.foldlM State.step (State.value [])).bind State.result?

/-- The value that characters write. -/
def read? (cs : List Char) : Option Json := (tokens? cs).bind ofTokens?

/-- The value that a text writes. -/
def ofText? (s : String) : Option Json := read? s.toList

/-- The value that the UTF-8 text of some bytes writes. -/
def ofBytes? (bytes : ByteArray) : Option Json := (String.fromUTF8? bytes).bind ofText?

end ApiContract.Json
