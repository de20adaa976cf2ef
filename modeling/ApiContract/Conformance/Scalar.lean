import ApiContract.Text.Case
import ApiContract.Text.Decimal
import ApiContract.Verdict

/-
Whether a single value is of a declared primitive type.

A value may come as a JSON value, from a body, or as text, from a path or a query.  Nothing is
converted: text that spells a number passes as a number and stays text.

Main definitions:

* `ApiContract.Conformance.isFlag` — text that spells a truth value;
* `ApiContract.Conformance.hasType` — whether a value is of a type;
* `ApiContract.Conformance.checkType` — the same as a check that names place and parameter.
-/

set_option autoImplicit false

namespace ApiContract.Conformance

/-- Whether text spells a truth value, white space around it and letter case apart. -/
def isFlag (s : String) : Bool :=
  ["true", "false", "1", "0", "yes", "no", "on", "off"].contains (Text.lower (Text.trim s))

/-- Whether a value counts as a number. -/
def isNumeric : Json → Bool
  | .int _ => true
  | .double _ => true
  | .text s => Text.isNumeral s
  | _ => false

/-- Whether a value counts as a truth value. -/
def isBoolean : Json → Bool
  | .bool _ => true
  | .int n => n = 0 || n = 1
  | .text s => isFlag s
  | _ => false

/-- Whether a value is of a type. -/
def hasType (type : Primitive) (value : Json) : Bool :=
  match type with
  | .string => value.text?.isSome
  | .integer => isNumeric value
  | .number => isNumeric value
  | .boolean => isBoolean value
  | .array => match value with | .array _ => true | _ => false
  | .unchecked => true

/-- Refuses a value that is not of the type declared for the parameter `name` at `place`. -/
def checkType (place : Place) (name : String) (type : Primitive) (value : Json) :
    Except Refusal Unit :=
  if hasType type value then .ok () else .error (.wrongType place name type)

end ApiContract.Conformance
