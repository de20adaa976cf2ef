import ApiContract.Number.Binary64

/-
JSON values whose objects keep the order of their fields.

Main definitions:

* `ApiContract.Json` — the values; integers and doubles are kept apart;
* `ApiContract.Json.get?` — the field of an object under a key;
* `ApiContract.Fields` — the fields of an object, in order;
* `ApiContract.Fields.set` — writes a field in place, or at the end when the key is new;
* `ApiContract.Fields.extract` — takes a field out; the last field moves into the gap;
* `ApiContract.Json.KeysDistinct` — no object anywhere in a value repeats a key;
* `ApiContract.Json.depth` — how deep arrays and objects are nested in a value.

Main results:

* `ApiContract.Fields.get?_set` — looking up after writing;
* `ApiContract.Fields.keys_set` — the keys after writing;
* `ApiContract.Fields.ofEntries_of_nodup` — writing entries one after the other, no key twice;
* `ApiContract.Json.KeysDistinct.of_mem` — parts of a value that repeats no key;
* `ApiContract.Json.depth_lt_of_get?` — what is found in an object is less deep than the object.
-/

set_option autoImplicit false

namespace ApiContract

/-- A JSON value. -/
inductive Json where
  | null
  | bool (value : Bool)
  | int (value : Int)
  | double (value : Binary64)
  | text (value : String)
  | array (items : List Json)
  | object (fields : List (String × Json))
  deriving Repr, Inhabited

/-- The fields of an object, in order. -/
abbrev Fields := List (String × Json)

namespace Fields

/-- The value under a key. -/
def get? (fields : Fields) (key : String) : Option Json := fields.lookup key

/-- The keys, in order. -/
def keys (fields : Fields) : List String := fields.map Prod.fst

/-- Writes a field: an existing key keeps its place, a new one comes last. -/
def set : Fields → String → Json → Fields
  | [], key, value => [(key, value)]
  | (k, v) :: rest, key, value =>
    if k = key then (key, value) :: rest else (k, v) :: set rest key value

/-- The fields that a list of entries gives when they are written one after the other. -/
def ofEntries (entries : List (String × Json)) : Fields :=
  entries.foldl (fun fields e => fields.set e.1 e.2) []

/-- Removes a field without closing the gap: the last field moves into its place. -/
def remove : Fields → String → Fields
  | [], _ => []
  | (k, v) :: rest, key =>
    if k = key then
      match rest.getLast? with
      | none => []
      | some last => last :: rest.dropLast
    else (k, v) :: remove rest key

/-- Takes a field out of the fields. -/
def extract (fields : Fields) (key : String) : Option Json × Fields :=
  (fields.get? key, fields.remove key)

@[simp] theorem get?_nil (key : String) : get? [] key = none := rfl

theorem get?_cons (k : String) (v : Json) (rest : Fields) (key : String) :
    get? ((k, v) :: rest) key = if key = k then some v else get? rest key := by
  by_cases h : key = k
  · simp [get?, h]
  · simp [get?, List.lookup_cons, beq_eq_false_iff_ne.mpr h, h]

/-- A value that is found stands in the fields. -/
theorem mem_of_get?_eq_some {fields : Fields} {key : String} {value : Json}
    (h : fields.get? key = some value) : (key, value) ∈ fields := by
  obtain ⟨before, after, rfl, -⟩ := List.lookup_eq_some_iff.1 h
  simp

/-- Under every key stands a value. -/
theorem exists_get?_of_mem_keys {fields : Fields} {key : String} (h : key ∈ fields.keys) :
    ∃ value, fields.get? key = some value := by
  obtain ⟨⟨k, v⟩, hmem, rfl⟩ := List.mem_map.1 h
  cases hget : fields.get? k with
  | some found => exact ⟨found, rfl⟩
  | none => simpa using List.lookup_eq_none_iff.1 hget (k, v) hmem

/-- A written field is found, and no other lookup changes. -/
theorem get?_set (fields : Fields) (key other : String) (value : Json) :
    (fields.set key value).get? other = if other = key then some value else fields.get? other := by
  induction fields with
  | nil => simp [set, get?_cons]
  | cons f rest ih =>
    obtain ⟨k, v⟩ := f
    by_cases hk : k = key
    · subst hk
      by_cases ho : other = k <;> simp [set, get?_cons, ho]
    · by_cases ho : other = k
      · subst ho
        simp [set, get?_cons, hk]
      · simp [set, get?_cons, hk, ho, ih]

/-- Writing adds a key at the end, or none. -/
theorem keys_set (fields : Fields) (key : String) (value : Json) :
    (fields.set key value).keys =
      if key ∈ fields.keys then fields.keys else fields.keys ++ [key] := by
  induction fields with
  | nil => simp [set, keys]
  | cons f rest ih =>
    obtain ⟨k, v⟩ := f
    by_cases hk : k = key
    · simp [set, keys, hk]
    · simp only [keys] at ih
      by_cases hm : key ∈ rest.map Prod.fst <;> simp [set, hk, keys, Ne.symm hk, ih, hm]

/-- A new field is written at the end. -/
theorem set_of_not_mem {fields : Fields} {key : String} (h : key ∉ fields.keys) (value : Json) :
    fields.set key value = fields ++ [(key, value)] := by
  induction fields with
  | nil => rfl
  | cons entry fields ih =>
    obtain ⟨k, v⟩ := entry
    simp only [keys, List.map_cons, List.mem_cons, not_or] at h
    rw [set, if_neg (Ne.symm h.1), ih h.2]
    rfl

/-- Entries that repeat no key are the fields that they give. -/
theorem ofEntries_of_nodup {entries : Fields} (h : entries.keys.Nodup) :
    ofEntries entries = entries := by
  -- the fields written so far share no key with the entries still to come
  have hfoldl : ∀ (rest written : Fields), (written ++ rest).keys.Nodup →
      rest.foldl (fun fields e => fields.set e.1 e.2) written = written ++ rest := by
    intro rest
    induction rest with
    | nil => simp
    | cons entry rest ih =>
      intro written hnodup
      have hnew : entry.1 ∉ written.keys := by
        intro hmem
        simp only [keys, List.map_append, List.map_cons] at hnodup hmem
        exact (List.nodup_append.1 hnodup).2.2 _ hmem _ List.mem_cons_self rfl
      have happend : written ++ [entry] ++ rest = written ++ entry :: rest := by simp
      rw [List.foldl_cons, set_of_not_mem hnew, ih _ (by rwa [happend]), happend]
  exact hfoldl entries [] h

end Fields

namespace Json

/-- The value under a key; nothing for a value that is no object. -/
def get? : Json → String → Option Json
  | object fields, key => Fields.get? fields key
  | _, _ => none

/-- The string a value is, if it is one. -/
def text? : Json → Option String
  | text s => some s
  | _ => none

/-- A list of strings. -/
def texts (values : List String) : Json := array (values.map text)

/-- The truth value a value is, if it is one. -/
def bool? : Json → Option Bool
  | bool b => some b
  | _ => none

/-- The fields of an object. -/
def fields? : Json → Option Fields
  | object fields => some fields
  | _ => none

@[simp] theorem get?_object (fields : Fields) (key : String) :
    (object fields).get? key = Fields.get? fields key := rfl

/-- A value found in an object is smaller than the object. -/
theorem sizeOf_lt_of_get? {v w : Json} {key : String} (h : v.get? key = some w) :
    sizeOf w < sizeOf v := by
  cases v with
  | object fields =>
    simp only [get?_object] at h
    have : sizeOf w < sizeOf fields := by
      induction fields with
      | nil => simp at h
      | cons f rest ih =>
        obtain ⟨k, x⟩ := f
        rw [Fields.get?_cons] at h
        split at h
        · cases h; simp; omega
        · have := ih h; simp; omega
    simp only [object.sizeOf_spec]; omega
  | _ => simp [get?] at h

mutual

/-- No object in the value repeats a key. -/
def KeysDistinct : Json → Prop
  | array items => KeysDistinctItems items
  | object fields => (fields.map Prod.fst).Nodup ∧ KeysDistinctFields fields
  | _ => True

/-- No object in any of the items repeats a key. -/
def KeysDistinctItems : List Json → Prop
  | [] => True
  | v :: rest => KeysDistinct v ∧ KeysDistinctItems rest

/-- No object in any of the fields' values repeats a key. -/
def KeysDistinctFields : List (String × Json) → Prop
  | [] => True
  | (_, v) :: rest => KeysDistinct v ∧ KeysDistinctFields rest

end

theorem keysDistinctItems_iff {items : List Json} :
    KeysDistinctItems items ↔ ∀ v ∈ items, v.KeysDistinct := by
  induction items with
  | nil => simp [KeysDistinctItems]
  | cons v rest ih => simp [KeysDistinctItems, ih]

theorem keysDistinctFields_iff {fields : Fields} :
    KeysDistinctFields fields ↔ ∀ field ∈ fields, field.2.KeysDistinct := by
  induction fields with
  | nil => simp [KeysDistinctFields]
  | cons field rest ih => simp [KeysDistinctFields, ih]

/-- What stands in an object that repeats no key repeats none either. -/
theorem KeysDistinct.of_mem {fields : Fields} {field : String × Json}
    (h : (object fields).KeysDistinct) (hmem : field ∈ fields) : field.2.KeysDistinct :=
  keysDistinctFields_iff.1 h.2 field hmem

mutual

/-- How deep arrays and objects are nested in a value; a scalar has depth zero. -/
def depth : Json → Nat
  | array items => depthItems items + 1
  | object fields => depthFields fields + 1
  | _ => 0

/-- The greatest depth among items. -/
def depthItems : List Json → Nat
  | [] => 0
  | v :: rest => max v.depth (depthItems rest)

/-- The greatest depth among the values of fields. -/
def depthFields : List (String × Json) → Nat
  | [] => 0
  | (_, v) :: rest => max v.depth (depthFields rest)

end

theorem depth_le_of_mem {fields : Fields} {field : String × Json} (hmem : field ∈ fields) :
    field.2.depth ≤ depthFields fields := by
  induction fields with
  | nil => cases hmem
  | cons f rest ih =>
    rw [depthFields]
    rcases List.mem_cons.1 hmem with rfl | hmem
    · exact Nat.le_max_left _ _
    · exact Nat.le_trans (ih hmem) (Nat.le_max_right _ _)

/-- A value found in an object is less deep than the object. -/
theorem depth_lt_of_get? {v w : Json} {key : String} (h : v.get? key = some w) :
    w.depth < v.depth := by
  cases v with
  | object fields =>
    rw [depth]
    exact Nat.lt_succ_of_le (depth_le_of_mem (Fields.mem_of_get?_eq_some h))
  | _ => simp [get?] at h

end Json

end ApiContract
