/-
Text from bytes that need not be UTF-8.

Bytes that are UTF-8 are their text.  Otherwise every longest beginning of a character that comes
to nothing, and every byte that begins no character, gives one replacement character U+FFFD.

Main definitions:

* `ApiContract.Text.Utf8.Partial` — a character of which some bytes have been read;
* `ApiContract.Text.Utf8.decode` — the characters of a list of bytes, with replacements;
* `ApiContract.Text.ofBytes` — the text of bytes.

Main results:

* `ApiContract.Text.ofBytes_toByteArray` — the bytes of a text are read as that text;
* `ApiContract.Text.toList_toUTF8` — the bytes of a text are those of its characters.
-/

set_option autoImplicit false

namespace ApiContract.Text

namespace Utf8

/-- A character of which some bytes have been read. -/
structure Partial where
  /-- The number of bytes still to come. -/
  missing : Nat
  /-- The bits read so far. -/
  point : Nat
  /-- The least value the next byte may have. -/
  low : UInt8
  /-- The greatest value the next byte may have. -/
  high : UInt8

/-- What a first byte gives: a character, the beginning of one, or neither. -/
def start (b : UInt8) : List Char × Option Partial :=
  if b < 0x80 then ([Char.ofNat b.toNat], none)
  else if 0xC2 ≤ b ∧ b ≤ 0xDF then ([], some ⟨1, b.toNat - 0xC0, 0x80, 0xBF⟩)
  else if b = 0xE0 then ([], some ⟨2, 0, 0xA0, 0xBF⟩)
  else if b = 0xED then ([], some ⟨2, 13, 0x80, 0x9F⟩)
  else if 0xE1 ≤ b ∧ b ≤ 0xEF then ([], some ⟨2, b.toNat - 0xE0, 0x80, 0xBF⟩)
  else if b = 0xF0 then ([], some ⟨3, 0, 0x90, 0xBF⟩)
  else if b = 0xF4 then ([], some ⟨3, 4, 0x80, 0x8F⟩)
  else if 0xF1 ≤ b ∧ b ≤ 0xF3 then ([], some ⟨3, b.toNat - 0xF0, 0x80, 0xBF⟩)
  else (['\ufffd'], none)

/-- What one more byte gives after an unfinished character, if there is one. -/
def feed : Option Partial → UInt8 → List Char × Option Partial
  | none, b => start b
  | some p, b =>
    if p.low ≤ b ∧ b ≤ p.high then
      let point := p.point * 64 + (b.toNat - 0x80)
      if p.missing ≤ 1 then ([Char.ofNat point], none)
      else ([], some ⟨p.missing - 1, point, 0x80, 0xBF⟩)
    else
      let (cs, rest) := start b
      ('\ufffd' :: cs, rest)

/-- The characters of the bytes, after an unfinished character, if there is one. -/
def decodeFrom : Option Partial → List UInt8 → List Char
  | none, [] => []
  | some _, [] => ['\ufffd']
  | p, b :: bs =>
    let (cs, rest) := feed p b
    cs ++ decodeFrom rest bs

/-- The characters of the bytes, with replacements. -/
def decode (bytes : List UInt8) : List Char := decodeFrom none bytes

end Utf8

/-- The text of bytes, with replacements where they are not UTF-8. -/
def ofBytes (bytes : ByteArray) : String :=
  match String.fromUTF8? bytes with
  | some s => s
  | none => String.ofList (Utf8.decode bytes.toList)

/-- The bytes of a text are UTF-8. -/
@[simp] theorem fromUTF8?_toByteArray (s : String) : String.fromUTF8? s.toByteArray = some s := by
  simp [String.fromUTF8?, String.fromUTF8, s.isValidUTF8]

/-- The bytes of a text are read as that text. -/
@[simp] theorem ofBytes_toByteArray (s : String) : ofBytes s.toByteArray = s := by
  simp [ofBytes]

/-! ### Bytes as a list -/

theorem toList_loop (bytes : ByteArray) (i : Nat) (read : List UInt8) :
    ByteArray.toList.loop bytes i read = read.reverse ++ bytes.data.toList.drop i := by
  fun_induction ByteArray.toList.loop bytes i read with
  | case1 i read hlt ih =>
      have hlength : i < bytes.data.toList.length := by simpa using hlt
      rw [ih, List.drop_eq_getElem_cons hlength]
      simp [ByteArray.get!, hlt]
  | case2 i read hge =>
      rw [List.drop_eq_nil_of_le (by simpa using Nat.le_of_not_lt hge), List.append_nil]

theorem toList_eq (bytes : ByteArray) : bytes.toList = bytes.data.toList := toList_loop bytes 0 []

/-- The bytes of a text are those of its characters, one after the other. -/
theorem toList_toUTF8 (s : String) : s.toUTF8.toList = s.toList.flatMap String.utf8EncodeChar := by
  rw [String.toUTF8_eq_toByteArray, toList_eq, ← String.ofList_toList (s := s),
    String.toByteArray_ofList, List.utf8Encode, List.toList_data_toByteArray, String.toList_ofList]

end ApiContract.Text
