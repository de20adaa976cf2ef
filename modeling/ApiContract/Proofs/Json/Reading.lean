import ApiContract.Json.Reader
import ApiContract.Proofs.Json.Printing

/-
Values from their own tokens.

The reader is a machine that takes one token at a time and keeps the containers that are still open
on a stack.  The tokens of a value take it from the state in which a value is expected to the one in
which that value is complete, and leave the stack as it was, as long as the containers of the value
find room on it; if the value is too deep for that, the machine stops on the way.

Main definitions:

* `ApiContract.Json.Completes` — what the tokens of a value do to the machine.

Main results:

* `ApiContract.Json.completes_array`, `ApiContract.Json.completes_object` — containers complete if
  what is in them does;
* `ApiContract.Json.completes_of_portable` — the run of the machine on the tokens of a value;
* `ApiContract.Json.ofText?_compactWith` — **a value is read back from its compact text, unless it
  is nested too deep**.
-/

set_option autoImplicit false

namespace ApiContract.Json

variable {stack : List Frame} {items read : List Json} {fields entries : Fields} {v : Json}
  {k : String}

/-! ### Steps -/

/-- From the state in which a value is expected, the tokens of this value lead to the state in which
it is complete, if there is room for its containers on the stack, and nowhere otherwise. -/
def Completes (v : Json) : Prop :=
  ∀ stack : List Frame, stack.length ≤ maxDepth →
    (tokensOf v).foldlM State.step (State.value stack) =
      if stack.length + v.depth ≤ maxDepth then some (State.complete stack v) else none

/-- No item ends its array. -/
theorem exists_tokensOfItems_eq (v : Json) (items : List Json) :
    ∃ t ts, tokensOfItems (v :: items) = t :: ts ∧ t ≠ Token.endArray := by
  cases v <;> cases items <;> exact ⟨_, _, rfl, by simp⟩

/-- The first item of an array is expected like any other value. -/
theorem foldlM_item (v : Json) (items : List Json) (ts : List Token) :
    (tokensOfItems (v :: items) ++ ts).foldlM State.step (State.item stack) =
      (tokensOfItems (v :: items) ++ ts).foldlM State.step (State.value (.array [] :: stack)) := by
  obtain ⟨t, rest, ht, hne⟩ := exists_tokensOfItems_eq v items
  rw [ht, List.cons_append, List.foldlM_cons, List.foldlM_cons]
  cases t <;> first | rfl | exact absurd rfl hne

/-- The first field of an object is expected like any other. -/
theorem foldlM_firstName (field : String × Json) (fields : Fields) (ts : List Token) :
    (tokensOfFields (field :: fields) ++ ts).foldlM State.step (State.firstName stack) =
      (tokensOfFields (field :: fields) ++ ts).foldlM State.step (State.name stack []) := by
  cases fields <;> rfl

theorem foldlM_comma_array (ts : List Token) :
    (Token.valueSeparator :: ts).foldlM State.step (State.complete (.array read :: stack) v) =
      ts.foldlM State.step (State.value (.array (v :: read) :: stack)) := rfl

theorem foldlM_comma_object (ts : List Token) :
    (Token.valueSeparator :: ts).foldlM State.step (State.complete (.object entries k :: stack) v) =
      ts.foldlM State.step (State.name stack ((k, v) :: entries)) := rfl

theorem foldlM_name (ts : List Token) :
    (Token.text k :: Token.nameSeparator :: ts).foldlM State.step (State.name stack entries) =
      ts.foldlM State.step (State.value (.object entries k :: stack)) := rfl

/-- The tokens of a value and some more. -/
theorem Completes.foldlM_append (h : Completes v) (hstack : stack.length ≤ maxDepth)
    (ts : List Token) :
    (tokensOf v ++ ts).foldlM State.step (State.value stack) =
      if stack.length + v.depth ≤ maxDepth then ts.foldlM State.step (State.complete stack v)
      else none := by
  rw [List.foldlM_append, h stack hstack]
  split <;> rfl

/-- Room for two values, one after the other, is room for the deeper one. -/
theorem ite_depth_max {α : Type} (used first others : Nat) (result : Option α) :
    (if used + first ≤ maxDepth then if used + others ≤ maxDepth then result else none else none) =
      if used + max first others ≤ maxDepth then result else none := by
  by_cases hfirst : used + first ≤ maxDepth
  · by_cases hothers : used + others ≤ maxDepth
    · rw [if_pos hfirst, if_pos hothers, if_pos (by omega)]
    · rw [if_pos hfirst, if_neg hothers, if_neg (by omega)]
  · rw [if_neg hfirst, if_neg (by omega)]

/-! ### Runs -/

/-- The items of an array that are still to come, and its end. -/
theorem foldlM_tokensOfItems (hroom : stack.length + 1 ≤ maxDepth)
    (hitems : ∀ w ∈ v :: items, Completes w) :
    (tokensOfItems (v :: items) ++ [Token.endArray]).foldlM State.step
        (State.value (.array read :: stack)) =
      if stack.length + 1 + depthItems (v :: items) ≤ maxDepth then
        some (State.complete stack (.array (read.reverse ++ v :: items)))
      else none := by
  induction items generalizing v read with
  | nil =>
      obtain ⟨hv, -⟩ := List.forall_mem_cons.1 hitems
      have hopen : (Frame.array read :: stack).length ≤ maxDepth := hroom
      rw [tokensOfItems, hv.foldlM_append hopen]
      simp [depthItems, State.step]
  | cons w items ih =>
      obtain ⟨hv, hrest⟩ := List.forall_mem_cons.1 hitems
      have hopen : (Frame.array read :: stack).length ≤ maxDepth := hroom
      rw [tokensOfItems_cons_cons, List.append_assoc, hv.foldlM_append hopen, List.cons_append,
        foldlM_comma_array, ih hrest, List.length_cons, ite_depth_max, List.reverse_cons,
        List.append_assoc]
      rfl

/-- The fields of an object that are still to come, and its end. -/
theorem foldlM_tokensOfFields (hroom : stack.length + 1 ≤ maxDepth)
    (hfields : ∀ field ∈ (k, v) :: fields, Completes field.2) :
    (tokensOfFields ((k, v) :: fields) ++ [Token.endObject]).foldlM State.step
        (State.name stack entries) =
      if stack.length + 1 + depthFields ((k, v) :: fields) ≤ maxDepth then
        some (State.complete stack
          (.object (Fields.ofEntries (entries.reverse ++ (k, v) :: fields))))
      else none := by
  induction fields generalizing k v entries with
  | nil =>
      obtain ⟨hv, -⟩ := List.forall_mem_cons.1 hfields
      have hopen : (Frame.object entries k :: stack).length ≤ maxDepth := hroom
      rw [tokensOfFields, List.cons_append, List.cons_append, foldlM_name, hv.foldlM_append hopen]
      simp [depthFields, State.step]
  | cons field fields ih =>
      obtain ⟨next, w⟩ := field
      obtain ⟨hv, hrest⟩ := List.forall_mem_cons.1 hfields
      have hopen : (Frame.object entries k :: stack).length ≤ maxDepth := hroom
      rw [tokensOfFields_cons_cons, List.cons_append, List.cons_append, foldlM_name,
        List.append_assoc, hv.foldlM_append hopen, List.cons_append, foldlM_comma_object, ih hrest,
        List.length_cons, ite_depth_max, List.reverse_cons, List.append_assoc]
      rfl

/-- A value of one token. -/
theorem completes_of_step (hdepth : v.depth = 0)
    (hstep : ∀ stack, (tokensOf v).foldlM State.step (State.value stack) =
      some (State.complete stack v)) :
    Completes v := by
  intro stack hstack
  rw [hstep, hdepth, if_pos (by simpa using hstack)]

/-- **An array completes if its items do.** -/
theorem completes_array (h : ∀ w ∈ items, Completes w) : Completes (.array items) := by
  intro stack hstack
  rw [tokensOf, depth, List.foldlM_cons]
  by_cases hroom : stack.length + 1 ≤ maxDepth
  · have hbegin : State.step (State.value stack) .beginArray = some (State.item stack) :=
      if_pos hroom
    rw [hbegin, Option.bind_eq_bind, Option.bind_some]
    cases items with
    | nil =>
        rw [if_pos (by simpa [depthItems] using hroom)]
        rfl
    | cons w items =>
        rw [foldlM_item, foldlM_tokensOfItems hroom h, Nat.add_right_comm, Nat.add_assoc]
        rfl
  · have hbegin : State.step (State.value stack) .beginArray = none := if_neg hroom
    rw [hbegin, if_neg (by omega)]
    rfl

/-- **An object completes if the values of its fields do.** -/
theorem completes_object (hkeys : fields.keys.Nodup) (h : ∀ field ∈ fields, Completes field.2) :
    Completes (.object fields) := by
  intro stack hstack
  rw [tokensOf, depth, List.foldlM_cons]
  by_cases hroom : stack.length + 1 ≤ maxDepth
  · have hbegin : State.step (State.value stack) .beginObject = some (State.firstName stack) :=
      if_pos hroom
    rw [hbegin, Option.bind_eq_bind, Option.bind_some]
    cases fields with
    | nil =>
        rw [if_pos (by simpa [depthFields] using hroom)]
        rfl
    | cons field fields =>
        rw [foldlM_firstName, foldlM_tokensOfFields hroom h, List.reverse_nil, List.nil_append,
          Fields.ofEntries_of_nodup hkeys, Nat.add_right_comm, Nat.add_assoc]
  · have hbegin : State.step (State.value stack) .beginObject = none := if_neg hroom
    rw [hbegin, if_neg (by omega)]
    rfl

theorem completes_of_portable (h : Portable v) : Completes v := by
  induction h with
  | null => exact completes_of_step rfl fun _ => rfl
  | bool b => exact completes_of_step rfl fun _ => rfl
  | int _ _ => exact completes_of_step rfl fun _ => rfl
  | text s => exact completes_of_step rfl fun _ => rfl
  | array _ ih => exact completes_array ih
  | object hkeys _ ih => exact completes_object hkeys ih

/-! ### Texts -/

theorem ofTokens?_tokensOf (h : Portable v) :
    ofTokens? (tokensOf v) = if v.depth ≤ maxDepth then some v else none := by
  have hrun := completes_of_portable h [] (Nat.zero_le _)
  rw [List.length_nil, Nat.zero_add] at hrun
  rw [ofTokens?, hrun]
  split <;> rfl

/-- **A value is read back from its compact text, unless it is nested too deep.** -/
theorem ofText?_compactWith (h : Portable v) (number : Binary64 → String) :
    ofText? (v.compactWith number) = if v.depth ≤ maxDepth then some v else none := by
  rw [ofText?, compactWith, String.toList_ofList, read?, tokens?_print h, Option.bind_some,
    ofTokens?_tokensOf h]

end ApiContract.Json
