import ApiContract.Conformance.Parameter
import ApiContract.Proofs.Conformance.Schema
import ApiContract.Proofs.Json.Printing

/-
Bare values and their text.

A body carries truth values and integers as they are; a query and a path carry their text.  Nothing
is converted before types are checked, so the two are told by different rules: a value by its kind
and its worth, a text by the grammar of numerals and by a list of words.  The rules agree, since the
text of every integer is a numeral and no integer but 0 and 1 has a text that is in the list.  Only
the type of strings tells a value from its text.

Main definitions:

* `ApiContract.Json.Bare` — null, the truth values and the integers;
* `ApiContract.Conformance.Supplies` — a request supplies a query or path parameter with a text;
* `ApiContract.Conformance.DeclaresPrimitive` — a property schema that is checked for its type.

Main results:

* `ApiContract.Json.numeralText_printInt` — the text of an integer is a numeral;
* `ApiContract.Conformance.isFlag_printInt_iff` — the integers whose text spells a truth value;
* `ApiContract.Conformance.checkType_compact_eq_iff` — **a bare value is judged as its text is**.
-/

set_option autoImplicit false

namespace ApiContract

namespace Json

/-- Null, the truth values and the integers: what is written without quotes, brackets, a point or
a power of ten. -/
inductive Bare : Json → Prop
  | null : Bare null
  | bool (b : Bool) : Bare (bool b)
  | int (n : Int) : Bare (int n)

variable {n : Int} {c : Char}

/-! ### The text of an integer -/

/-- **The text of an integer is a numeral**: a sign or none, and digits. -/
theorem numeralText_printInt (n : Int) : Text.NumeralText (printInt n) := by
  have hmantissa : ∀ k, Text.Mantissa (Nat.toDigits 10 k) := by
    intro k
    exact .whole Nat.toDigits_ne_nil (digits_toDigits k)
  cases n with
  | ofNat k => exact ⟨[], _, [], .absent, hmantissa k, .absent, by simp [printInt]⟩
  | negSucc k => exact ⟨['-'], _, [], .minus, hmantissa (k + 1), .absent, by simp [printInt]⟩

theorem isDigit_or_of_mem_printInt (hc : c ∈ printInt n) : c.isDigit = true ∨ c = '-' := by
  cases n with
  | ofNat k => exact .inl (digits_toDigits k c hc)
  | negSucc k =>
      rcases List.mem_cons.1 hc with rfl | hc
      · exact .inr rfl
      · exact .inl (digits_toDigits (k + 1) c hc)

theorem toDigits_injective : Function.Injective (Nat.toDigits 10) := by
  intro j k h
  rw [← ofDigits_toDigits j, h, ofDigits_toDigits]

/-- Different integers have different texts. -/
theorem printInt_injective : Function.Injective printInt := by
  -- digits never begin with the sign of a negative integer
  have hsign : ∀ j k, Nat.toDigits 10 j ≠ '-' :: Nat.toDigits 10 k := by
    intro j k h
    have hdigit := digits_toDigits j '-' (by rw [h]; exact List.mem_cons_self)
    exact absurd hdigit (by decide)
  intro m n h
  cases m with
  | ofNat j =>
      cases n with
      | ofNat k => exact congrArg Int.ofNat (toDigits_injective h)
      | negSucc k => exact absurd h (hsign j (k + 1))
  | negSucc j =>
      cases n with
      | ofNat k => exact absurd h.symm (hsign k (j + 1))
      | negSucc k =>
          have hsucc : j + 1 = k + 1 := toDigits_injective (List.cons.inj h).2
          rw [Nat.succ.inj hsucc]

end Json

namespace Text

theorem toLower_of_isDigit {c : Char} (h : c.isDigit = true) : c.toLower = c := by
  have hrange : 48 ≤ c.toNat ∧ c.toNat ≤ 57 := Char.isDigit_iff_toNat.1 h
  apply Char.toNat_inj.1
  rw [toNat_toLower, if_neg (by omega)]

/-- Nothing is trimmed from a numeral, so that reading it as it stands is enough. -/
theorem isNumeral_of_numeralText {s : String} (h : NumeralText s.toList) : isNumeral s = true := by
  rw [isNumeral, h.trimWhere_eq, Decimal.isSome_read?_iff]
  exact h

end Text

namespace Conformance

variable {v value data property : Json} {n : Int} {type : Primitive}

/-! ### Words -/

/-- The words for truth values. -/
def flagWords : List String := ["true", "false", "1", "0", "yes", "no", "on", "off"]

/-- Text spells a truth value when, trimmed and in small letters, it is one of the words. -/
theorem isFlag_iff {s : String} :
    isFlag s = true ↔
      (Text.trimWhere Text.isBlank s.toList).map Char.toLower ∈ flagWords.map String.toList := by
  have hlist : (Text.lower (Text.trim s)).toList =
      (Text.trimWhere Text.isBlank s.toList).map Char.toLower := by simp
  have hinjective : Function.Injective String.toList := fun _ _ => String.toList_injective
  rw [← hlist, List.mem_map_of_injective hinjective, ← List.contains_iff_mem]
  rfl

/-- Neither trimming nor a change of letter case changes the text of an integer. -/
theorem map_toLower_trimWhere_printInt (n : Int) :
    (Text.trimWhere Text.isBlank (Json.printInt n)).map Char.toLower = Json.printInt n := by
  have hlower : ∀ c ∈ Json.printInt n, c.toLower = c := by
    intro c hc
    rcases Json.isDigit_or_of_mem_printInt hc with hdigit | rfl
    · exact Text.toLower_of_isDigit hdigit
    · decide
  rw [(Json.numeralText_printInt n).trimWhere_eq, List.map_congr_left hlower, List.map_id']

/-- **Zero and one are the only integers whose text spells a truth value.** -/
theorem isFlag_printInt_iff :
    isFlag (String.ofList (Json.printInt n)) = true ↔ n = 0 ∨ n = 1 := by
  rw [isFlag_iff, String.toList_ofList, map_toLower_trimWhere_printInt]
  constructor
  · intro h
    have hplain : (Json.printInt n).all (fun c => c.isDigit || c == '-') = true := by
      rw [List.all_eq_true]
      intro c hc
      simpa using Json.isDigit_or_of_mem_printInt hc
    -- the other words have a letter in them
    have hwords : (flagWords.map String.toList).filter
        (fun word => word.all fun c => c.isDigit || c == '-') = [['1'], ['0']] := by
      decide
    have hn : Json.printInt n ∈ [['1'], ['0']] := by
      rw [← hwords]
      exact List.mem_filter.2 ⟨h, hplain⟩
    rcases List.mem_pair.1 hn with hone | hzero
    · exact .inr (Json.printInt_injective hone)
    · exact .inl (Json.printInt_injective hzero)
  · rintro (rfl | rfl) <;> decide

/-! ### Types -/

theorem isNumeric_text_compact (hv : v.Bare) : isNumeric (.text v.compact) = isNumeric v := by
  cases hv with
  | null => decide
  | bool b => cases b <;> decide
  | int n =>
      have hnumeral : Text.isNumeral (Json.int n).compact = true := by
        refine Text.isNumeral_of_numeralText ?_
        rw [Json.compact, Json.compactWith, String.toList_ofList, Json.print]
        exact Json.numeralText_printInt n
      exact hnumeral

theorem isBoolean_text_compact (hv : v.Bare) : isBoolean (.text v.compact) = isBoolean v := by
  rw [Bool.eq_iff_iff, isBoolean]
  cases hv with
  | null =>
      rw [isFlag_iff]
      decide
  | bool b =>
      rw [isFlag_iff]
      cases b <;> decide
  | int n =>
      rw [Json.compact, Json.compactWith, Json.print, isFlag_printInt_iff]
      simp [isBoolean]

/-- **A bare value and its text are of the same types**, apart from the type of strings. -/
theorem hasType_text_compact_eq_iff (hv : v.Bare) :
    hasType type (.text v.compact) = hasType type v ↔ type ≠ .string := by
  cases type with
  | string => cases hv <;> simp [hasType, Json.text?]
  | integer => simp [hasType, isNumeric_text_compact hv]
  | number => simp [hasType, isNumeric_text_compact hv]
  | boolean => simp [hasType, isBoolean_text_compact hv]
  | array => cases hv <;> simp [hasType]
  | unchecked => simp [hasType]

/-- Two checks of one type end alike exactly when both values are of the type or neither is. -/
theorem checkType_eq_iff {place : Place} {name : String} :
    checkType place name type value = checkType place name type v ↔
      hasType type value = hasType type v := by
  unfold checkType
  cases hasType type value <;> cases hasType type v <;> simp

/-! ### Where values come from -/

/-- The request supplies a parameter with a text, in its query or in its path. -/
inductive Supplies (binding : PathBinding) (request : Http.Request) (route : Route)
    (p : Parameter) (s : String) : Prop
  | query : p.place = some .query → request.query.get? p.name = some (.text s) →
      Supplies binding request route p s
  | path : p.place = some .path → pathValue? binding route p.name = some s →
      Supplies binding request route p s

/-- A property schema that is not descended into, and declares a type. -/
structure DeclaresPrimitive (property : Json) (type : Primitive) : Prop where
  mapping : ∃ fields, property = .object fields
  primitive : isNested property = false
  type_eq : Primitive.ofNode property = type

variable {binding : PathBinding} {request : Http.Request} {route : Route} {p : Parameter}
  {s key location : String} {d : Document} {rest : Fields}

/-- A parameter that is supplied with a text is checked for its type alone. -/
theorem Supplies.checkParameter_eq (h : Supplies binding request route p s) :
    ∃ place, p.place = some place ∧
      checkParameter binding request route p = checkType place p.name p.type (.text s) := by
  cases h with
  | query hp hs => exact ⟨.query, hp, by simp only [checkParameter, hp, hs]⟩
  | path hp hs => exact ⟨.path, hp, by simp only [checkParameter, hp, hs]⟩

/-- A property that declares a primitive type passes with a value of the type other than null. -/
theorem checkProperties_cons_of_hasType (h : DeclaresPrimitive property type)
    (hget : data.get? key = some v) (hne : v ≠ .null) (ht : hasType type v = true) :
    checkProperties d location ((key, property) :: rest) data =
      checkProperties d location rest data := by
  obtain ⟨⟨fields, rfl⟩, hnested, rfl⟩ := h
  rw [checkProperties_eq_forM, List.forM_cons, checkProperty_object (present?_of_ne_null hget hne),
    hnested, checkProperties_eq_forM, checkType, if_pos ht]
  rfl

/-- A property that declares a primitive type refuses a value that is not of the type, as missing
if the value is null. -/
theorem checkProperties_cons_of_not_hasType (h : DeclaresPrimitive property type)
    (hget : data.get? key = some v) (ht : hasType type v = false) :
    ∃ refusal ∈ [.propertyMissing key, .wrongType .body key type],
      checkProperties d location ((key, property) :: rest) data = .error (.refused refusal) := by
  obtain ⟨⟨fields, rfl⟩, hnested, rfl⟩ := h
  rw [checkProperties_eq_forM, List.forM_cons]
  by_cases hnull : v = .null
  · have hmissing : present? data key = none := by rw [present?, hget, hnull]
    rw [checkProperty_of_missing hmissing]
    exact ⟨_, List.mem_cons_self, rfl⟩
  · rw [checkProperty_object (present?_of_ne_null hget hnull), hnested, checkType, ht]
    exact ⟨_, List.mem_cons_of_mem _ List.mem_cons_self, rfl⟩

/-! ### Values and their text -/

/-- Null is of no type that is checked. -/
theorem ne_null_of_hasType (h : hasType type v = true) (hne : type ≠ .unchecked) : v ≠ .null := by
  rintro rfl
  cases type with
  | unchecked => exact hne rfl
  | _ => cases h

/-- **A bare value is judged as its text is.**  A check for a type ends in the same way for both,
with the same refusal if there is one, unless the type is that of strings.  So a parameter of the
query or the path that is supplied with the text passes exactly if a property of a body that has the
value does, whatever properties come after it; and if one is refused, the other is refused as well,
with a refusal of the same kind. -/
theorem checkType_compact_eq_iff {v : Json} (hv : v.Bare) :
    (∀ place name type,
      checkType place name type (.text v.compact) = checkType place name type v ↔
        type ≠ .string) ∧
    ∀ binding request route (p : Parameter) d location property data rest,
      p.type ≠ .string → p.type ≠ .unchecked →
      Supplies binding request route p v.compact →
      DeclaresPrimitive property p.type → data.get? p.name = some v →
      (checkParameter binding request route p = .ok () →
        checkProperties d location ((p.name, property) :: rest) data =
          checkProperties d location rest data) ∧
      ∀ refusal, checkParameter binding request route p = .error refusal →
        ∃ refusal' ∈ [.propertyMissing p.name, .wrongType .body p.name p.type],
          checkProperties d location ((p.name, property) :: rest) data =
            .error (.refused refusal') ∧ refusal'.kind = refusal.kind := by
  constructor
  · intro place name type
    rw [checkType_eq_iff]
    exact hasType_text_compact_eq_iff hv
  · intro binding request route p d location property data rest hstring hchecked hs hp hget
    obtain ⟨place, -, hcheck⟩ := hs.checkParameter_eq
    have htype : hasType p.type (.text v.compact) = hasType p.type v :=
      (hasType_text_compact_eq_iff hv).2 hstring
    rw [hcheck, checkType_eq_ok_iff, htype]
    simp only [checkType_eq_error_iff, htype]
    constructor
    · intro ht
      exact checkProperties_cons_of_hasType hp hget (ne_null_of_hasType ht hchecked) ht
    · rintro refusal ⟨ht, rfl⟩
      obtain ⟨refusal', hmem, hbody⟩ := checkProperties_cons_of_not_hasType hp hget ht
      refine ⟨refusal', hmem, hbody, ?_⟩
      simp only [List.mem_cons, List.not_mem_nil, or_false] at hmem
      rcases hmem with rfl | rfl <;> rfl

/-- A parameter of the path that is a number. -/
def userNumber : Parameter := ⟨"id", some .path, true, .integer, none⟩

/-- A route that supplies the parameter with a text. -/
def routeToUser (id : String) : Route := ⟨"/users/\x7bid\x7d", "get", [], [], [("id", id)], some id⟩

/-- A property that is a number. -/
def numberSchema : Json := .object [("type", .text "integer")]

/-- A document in which there is nothing to look up. -/
def blankDocument : Document := ⟨[], [], [], []⟩

theorem supplies_routeToUser (request : Http.Request) (id : String) :
    Supplies .template request (routeToUser id) userNumber id :=
  .path rfl rfl

theorem declaresPrimitive_numberSchema : DeclaresPrimitive numberSchema .integer :=
  ⟨⟨_, rfl⟩, rfl, rfl⟩

/-- A negative number passes as a number, in a path as in a body; a truth value is refused. -/
theorem checkType_compact_eq_of_number :
    (Json.int (-7)).Bare ∧ (Json.bool true).Bare ∧
      checkType .path "id" .integer (.text (Json.int (-7)).compact) =
        checkType .path "id" .integer (.int (-7)) ∧
      checkProperties blankDocument "" [("id", numberSchema)] (.object [("id", .int (-7))]) =
        .ok () ∧
      ∃ refusal ∈ [.propertyMissing "id", .wrongType .body "id" .integer],
        checkProperties blankDocument "" [("id", numberSchema)] (.object [("id", .bool true)]) =
          .error (.refused refusal) ∧ refusal.kind = .badRequest := by
  -- the route has the text already, so that any request will do
  obtain ⟨request⟩ : Nonempty Http.Request := ⟨.ofPath ⟨"GET", by decide, by decide⟩ "/users"⟩
  have hpath : ∀ id, checkParameter .template request (routeToUser id) userNumber =
      checkType .path "id" .integer (.text id) := fun _ => rfl
  refine ⟨.int (-7), .bool true, ?_, ?_, ?_⟩
  · exact ((checkType_compact_eq_iff (.int (-7))).1 .path "id" .integer).2 (by decide)
  · have hpass := (hpath (Json.int (-7)).compact).trans (checkType_eq_ok_iff.2 (by decide))
    have hrest : checkProperties blankDocument "" [] (.object [("id", .int (-7))]) = .ok () := by
      rw [checkProperties]
    rw [← hrest]
    exact ((checkType_compact_eq_iff (.int (-7))).2 .template request _ userNumber blankDocument ""
      numberSchema _ [] (by decide) (by decide) (supplies_routeToUser request _)
      declaresPrimitive_numberSchema rfl).1 hpass
  · have hrefuse := (hpath (Json.bool true).compact).trans
      (checkType_eq_error_iff.2 ⟨by decide, rfl⟩)
    exact ((checkType_compact_eq_iff (.bool true)).2 .template request _ userNumber blankDocument ""
      numberSchema _ [] (by decide) (by decide) (supplies_routeToUser request _)
      declaresPrimitive_numberSchema rfl).2 _ hrefuse

end Conformance

end ApiContract
