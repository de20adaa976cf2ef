import ApiContract.Conformance.Body
import ApiContract.Http.Request
import ApiContract.Proofs.Json.Reading

/-
Values that travel as the payload of a request.

A value is written into a payload as compact text and read back when the payload is decoded.  What
arrives is the value itself, its fields in their order, as long as no more than 127 containers are
nested in it; a payload with more is no JSON text for the reader.

Main results:

* `ApiContract.Conformance.decodeBody_toUTF8` — a payload of text that begins with no blank;
* `ApiContract.Conformance.decodeBody_compact` — a payload that is the compact text of a value;
* `ApiContract.Conformance.decodeBody_withJson` — **what arrives of a value**.
-/

set_option autoImplicit false

namespace ApiContract.Conformance

/-- The characters begin with one of the visible characters of ASCII. -/
def BeginsVisible (cs : List Char) : Prop := ∃ c ∈ cs.head?, 32 < c.toNat ∧ c.toNat < 127

variable {v : Json} {number : Binary64 → String} {c : Char} {s : String}

theorem utf8EncodeChar_of_ascii (h : c.toNat < 128) :
    String.utf8EncodeChar c = [UInt8.ofNat c.toNat] := by
  have hsize : c.utf8Size = 1 := by
    rw [Char.utf8Size_eq_one_iff, UInt32.le_iff_toNat_le]
    exact Nat.le_of_lt_succ h
  rw [String.utf8EncodeChar_eq_singleton hsize]
  rfl

/-- Bytes of a text that begins with a visible character are not blanks alone. -/
theorem all_isAsciiBlank_eq_false (h : BeginsVisible s.toList) :
    s.toUTF8.toList.all Text.isAsciiBlank = false := by
  obtain ⟨c, hc, hlow, hhigh⟩ := h
  obtain ⟨rest, hs⟩ := List.head?_eq_some_iff.1 hc
  have hbyte : Text.isAsciiBlank (UInt8.ofNat c.toNat) = false := by
    have hblank : ∀ n < 127, 32 < n → Text.isAsciiBlank (UInt8.ofNat n) = false := by decide
    exact hblank _ hhigh hlow
  rw [Text.toList_toUTF8, hs, List.flatMap_cons, utf8EncodeChar_of_ascii (by omega)]
  simp [hbyte]

/-- A payload of text that begins with no blank is worth what the text writes. -/
theorem decodeBody_toUTF8 (h : BeginsVisible s.toList) :
    decodeBody s.toUTF8 =
      match Json.ofText? s with
      | some v => .ok v
      | none => .error .bodyNotJson := by
  have hbytes : Json.ofBytes? s.toUTF8 = Json.ofText? s := by
    rw [Json.ofBytes?, String.toUTF8_eq_toByteArray, Text.fromUTF8?_toByteArray, Option.bind_some]
  cases hread : Json.ofText? s <;>
    simp only [decodeBody, all_isAsciiBlank_eq_false h, Bool.false_eq_true, if_false, hbytes, hread]

theorem beginsVisible_print (h : v.Portable) : BeginsVisible (v.print number) := by
  cases h with
  | null => exact ⟨'n', rfl, by decide⟩
  | bool b =>
      cases b with
      | true => exact ⟨'t', rfl, by decide⟩
      | false => exact ⟨'f', rfl, by decide⟩
  | @int n _ _ =>
      cases n with
      | ofNat n =>
          obtain ⟨d, ds, hds, hd⟩ := Json.exists_toDigits_eq n
          have hrange : 48 ≤ d.toNat ∧ d.toNat ≤ 57 := Char.isDigit_iff_toNat.1 hd
          exact ⟨d, by simp [Json.print, Json.printInt, hds], by omega⟩
      | negSucc n => exact ⟨'-', rfl, by decide⟩
  | text s => exact ⟨'"', rfl, by decide⟩
  | array _ => exact ⟨'[', rfl, by decide⟩
  | object _ _ => exact ⟨'\x7b', rfl, by decide⟩

/-- The compact text of a value is worth the value, unless too much is nested in it. -/
theorem decodeBody_compact (h : v.Portable) :
    decodeBody v.compact.toUTF8 = if v.depth ≤ 127 then .ok v else .error .bodyNotJson := by
  have hvisible : BeginsVisible v.compact.toList := by
    have hprint : BeginsVisible (v.print Binary64.text) := beginsVisible_print h
    rwa [Json.compact, Json.compactWith, String.toList_ofList]
  have hread : Json.ofText? v.compact = if v.depth ≤ 127 then some v else none :=
    Json.ofText?_compactWith h Binary64.text
  rw [decodeBody_toUTF8 hvisible, hread]
  by_cases hdepth : v.depth ≤ 127
  · rw [if_pos hdepth, if_pos hdepth]
  · rw [if_neg hdepth, if_neg hdepth]

/-- A payload that is the compact text of a value, with no more in it than is allowed. -/
theorem decodeBody_of_compact (h : v.Portable) (hdepth : v.depth ≤ 127) (hs : v.compact = s) :
    decodeBody s.toUTF8 = .ok v := by
  rw [← hs, decodeBody_compact h, if_pos hdepth]

/-- **What arrives of a value.**  A value that text carries as it is arrives as it is, its fields in
their order, if at most 127 containers are nested in it, and is refused as a payload that is not
JSON if there are more.  A payload of blanks alone, or of nothing, is null. -/
theorem decodeBody_withJson (request : Http.Request) (v : Json) (h : v.Portable) :
    (v.depth ≤ 127 → decodeBody (request.withJson v).body = .ok v) ∧
      (127 < v.depth → decodeBody (request.withJson v).body = .error .bodyNotJson) ∧
      Refusal.bodyNotJson.kind.name = "BAD_REQUEST" ∧
      Refusal.bodyNotJson.message = "Request body is not valid JSON" ∧
      ∀ body : ByteArray, (∀ b ∈ body.toList, b ∈ [9, 10, 12, 13, 32]) →
        decodeBody (request.withBody body).body = .ok .null := by
  have hdecode : decodeBody (request.withJson v).body =
      if v.depth ≤ 127 then .ok v else .error .bodyNotJson := decodeBody_compact h
  refine ⟨fun hdepth => ?_, fun hdepth => ?_, rfl, rfl, fun body hbody => ?_⟩
  · rw [hdecode, if_pos hdepth]
  · rw [hdecode, if_neg (by omega)]
  · have hall : body.toList.all Text.isAsciiBlank = true := by
      rw [List.all_eq_true]
      intro b hb
      have hblank : ∀ b ∈ [9, 10, 12, 13, 32], Text.isAsciiBlank b = true := by
        decide +kernel
      exact hblank b (hbody b hb)
    exact if_pos hall

/-- Arrays, one in the other. -/
def nested : Nat → Json
  | 0 => .null
  | n + 1 => .array [nested n]

theorem portable_nested (n : Nat) : (nested n).Portable := by
  induction n with
  | zero => exact .null
  | succ n ih => exact .array (by simpa using ih)

theorem depth_nested (n : Nat) : (nested n).depth = n := by
  induction n with
  | zero => rfl
  | succ n ih => simp [nested, Json.depth, Json.depthItems, ih]

/-- A value with the least and the greatest integer, characters that are escaped, and empty
containers. -/
def extremes : Json :=
  .object [("z\"\\\n\x01é",
      .array [.int (-9223372036854775808), .int 18446744073709551615, .bool true, .null]),
    ("", .object []), ("a", .array [])]

theorem portable_extremes : extremes.Portable := by
  refine .object (by decide) ?_
  simp only [List.forall_mem_cons]
  refine ⟨.array ?_, .object (by decide) (by simp), .array (by simp), by simp⟩
  simp only [List.forall_mem_cons]
  exact ⟨.int (by decide) (by decide), .int (by decide) (by decide), .bool true, .null, by simp⟩

/-- A request without a payload. -/
def posted : Http.Request := .ofPath ⟨"POST", by decide, by decide⟩ "/"

/-- Both sides of the limit, and a value with all that text has to take care of. -/
theorem decodeBody_withJson_nested :
    (nested 127).Portable ∧ (nested 128).Portable ∧ extremes.Portable ∧
      decodeBody (posted.withJson (nested 127)).body = .ok (nested 127) ∧
      decodeBody (posted.withJson (nested 128)).body = .error .bodyNotJson ∧
      decodeBody (posted.withJson extremes).body = .ok extremes := by
  have hdepth := depth_nested
  refine ⟨portable_nested 127, portable_nested 128, portable_extremes, ?_, ?_, ?_⟩
  · exact (decodeBody_withJson posted _ (portable_nested 127)).1 (hdepth 127).le
  · exact (decodeBody_withJson posted _ (portable_nested 128)).2.1 (by rw [hdepth]; decide)
  · exact (decodeBody_withJson posted _ portable_extremes).1 (by decide)

end ApiContract.Conformance
