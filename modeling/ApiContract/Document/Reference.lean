import ApiContract.Document.Basic
import ApiContract.Text.Segments

/-
References from one node of a document to another.

A reference is an object with a string under `$ref`.  The name it points at is the segment right
after the name of a section, so `#/definitions/User` and `definitions/User` are alike.  A schema
may be a reference to a schema that is again a reference; such aliases are followed until a schema
with content is reached, and no name may be met twice on the way.

Main definitions:

* `ApiContract.reference?` — the text of a reference;
* `ApiContract.target?` — the name that a reference points at within a section;
* `ApiContract.Document.resolve` — follows aliases; `ApiContract.Resolution` is the outcome with
  the names that were met.

Main results:

* `ApiContract.Document.resolve_of_not_reference` — a schema with content is its own resolution.
-/

set_option autoImplicit false

namespace ApiContract

/-- The text of a reference. -/
def reference? (node : Json) : Option String := (node.get? "$ref").bind Json.text?

/-- Whether a node is a reference. -/
def isReference (node : Json) : Bool := (reference? node).isSome

/-- The name that a reference points at inside `part`: the segment after the first segment equal
to `part`, if it is not empty. -/
def target? (part : String) (reference : String) : Option String :=
  match (Text.segments '/' reference).dropWhile (· ≠ part) with
  | _ :: name :: _ => if name = "" then none else some name
  | _ => none

/-- What comes of following references, with the names met on the way. -/
structure Resolution where
  outcome : Except Fault Json
  /-- The names met, in order; empty after a cycle. -/
  chain : List String

namespace Document

/-- The names of definitions that are not in `chain`. -/
def unmet (d : Document) (chain : List String) : List String :=
  d.definitions.keys.filter (· ∉ chain)

/-- Meeting one more definition leaves fewer unmet ones. -/
theorem unmet_length_lt {d : Document} {chain : List String} {name : String} {schema : Json}
    (hn : name ∉ chain) (hd : d.definitions.get? name = some schema) :
    (d.unmet (chain ++ [name])).length < (d.unmet chain).length := by
  have hmem : name ∈ d.definitions.keys := List.mem_map_of_mem (Fields.mem_of_get?_eq_some hd)
  have hsub : d.unmet (chain ++ [name]) = (d.unmet chain).filter (· ≠ name) := by
    simp [unmet, List.filter_filter, Bool.and_comm]
  rw [hsub]
  exact List.length_filter_lt_length_iff_exists.2
    ⟨name, by simp [unmet, hmem, hn], by simp⟩

/-- Follows aliases from `schema`, having met the names in `chain`. -/
def resolve (d : Document) (chain : List String) (schema : Json) : Resolution :=
  match reference? schema with
  | none => ⟨.ok schema, chain⟩
  | some reference =>
    match target? "definitions" reference with
    | none => ⟨.error (.unresolvedReference reference), chain⟩
    | some name =>
      if hn : name ∈ chain then ⟨.error (.cyclicReference (chain ++ [name])), []⟩
      else
        match hd : d.definitions.get? name with
        | none => ⟨.error (.unresolvedReference ("#/definitions/" ++ name)), chain ++ [name]⟩
        | some next =>
          have := unmet_length_lt hn hd
          d.resolve (chain ++ [name]) next
termination_by (d.unmet chain).length

/-- A schema with content is its own resolution. -/
theorem resolve_of_not_reference {d : Document} {chain : List String} {schema : Json}
    (h : reference? schema = none) : d.resolve chain schema = ⟨.ok schema, chain⟩ := by
  rw [resolve, h]

end Document

end ApiContract
