import ApiContract.Conformance.Scalar
import ApiContract.Document.Reference
import ApiContract.Json.Reader
import ApiContract.Text.Blank

/-
Whether a body conforms to a schema.

Every property that the schema declares must be there and not null.  A property that is a reference
or has properties of its own is descended into; any other must be of its primitive type.  The first
failure in the order of the declarations is the one that counts.

Main definitions:

* `ApiContract.Conformance.decodeBody` — the value of a payload; blanks alone are null;
* `ApiContract.Conformance.checkSchema` — a value against a schema;
* `ApiContract.Conformance.checkBody` — a value against a body parameter.
-/

set_option autoImplicit false

namespace ApiContract.Conformance

/-- The value of a payload.  One that holds nothing but blanks is null. -/
def decodeBody (bytes : ByteArray) : Except Refusal Json :=
  if bytes.toList.all Text.isAsciiBlank then .ok .null
  else
    match Json.ofBytes? bytes with
    | some v => .ok v
    | none => .error .bodyNotJson

/-- The value under a key, if there is one other than null. -/
def present? (data : Json) (key : String) : Option Json :=
  match data.get? key with
  | some .null => none
  | v => v

/-- A present value is smaller than the object it is found in. -/
theorem sizeOf_lt_of_present? {data value : Json} {key : String}
    (h : present? data key = some value) : sizeOf value < sizeOf data := by
  unfold present? at h
  split at h
  · cases h
  · exact Json.sizeOf_lt_of_get? h

/-- The location by which faults name a schema: its last definition, or the place of its use. -/
def schemaLocation (location : String) (chain : List String) : String :=
  match chain.getLast? with
  | some name => "#/definitions/" ++ name
  | none => location

/-- Whether a property schema is descended into. -/
def isNested (property : Json) : Bool :=
  isReference property || (property.get? "properties").isSome

/-- The properties that a schema with content declares. -/
def declaredProperties (location : String) (schema : Json) : Except Rejection Fields :=
  match schema.get? "properties" with
  | none => .ok []
  | some .null => .ok []
  | some (.object properties) => .ok properties
  | some _ => .error (.faulty (.malformedNode (location ++ "/properties") .mapping))

mutual

/-- Checks a value against a schema, which faults name by `location`. -/
def checkSchema (d : Document) (location : String) (schema data : Json) : Check :=
  let resolution := d.resolve [] schema
  match resolution.outcome with
  | .error fault => .error (.faulty fault)
  | .ok resolved =>
    let location := schemaLocation location resolution.chain
    match declaredProperties location resolved with
    | .error rejection => .error rejection
    | .ok properties => checkProperties d location properties data
termination_by (sizeOf data, 1, 0)

/-- Checks a value against the properties of a schema, one after the other. -/
def checkProperties (d : Document) (location : String) (properties : List (String × Json))
    (data : Json) : Check :=
  match properties with
  | [] => .ok ()
  | (key, property) :: rest =>
    match h : present? data key with
    | none => .error (.refused (.propertyMissing key))
    | some value =>
      match property with
      | .object _ =>
        if isNested property then
          have := sizeOf_lt_of_present? h
          match checkSchema d s!"{location}/properties/{key}" property value with
          | .ok () => checkProperties d location rest data
          | .error rejection => .error rejection
        else
          match checkType .body key (Primitive.ofNode property) value with
          | .ok () => checkProperties d location rest data
          | .error refusal => .error (.refused refusal)
      | _ => .error (.faulty (.malformedNode s!"{location}/properties/{key}" .schemaMapping))
termination_by (sizeOf data, 0, properties.length)

end

/-- Checks a value against a body parameter. -/
def checkBody (d : Document) (p : Parameter) (data : Json) : Check :=
  match p.schema with
  | none => .error (.faulty (.missingBodySchema p.name))
  | some schema => checkSchema d s!"body parameter '{p.name}'" schema data

end ApiContract.Conformance
