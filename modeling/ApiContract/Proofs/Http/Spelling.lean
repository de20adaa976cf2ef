import Mathlib.Data.List.Forall2
import ApiContract.Json.Printer
import ApiContract.Proofs.Http.Table

/-
Spellings of query strings.

The same name or value can be spelled in many ways: a byte as an escape with digits of either case,
as itself if it is none of the four signs that the encoding uses, and a space as a plus sign.  All of
them are read as the same pairs.

Main definitions:

* `ApiContract.Http.Form.Encodes` — encoded bytes that stand for others;
* `ApiContract.Http.Form.Writes` — a query string that spells pairs;
* `ApiContract.Http.Form.escaped` — the query string with every byte of names and values escaped.

Main results:

* `ApiContract.Http.Form.unescape_of_encodes` — however they are spelled, bytes are read back;
* `ApiContract.Http.Form.pairs_of_writes` — **a query string is read as the pairs that it spells**;
* `ApiContract.Http.Form.writes_escaped` — any pairs can be spelled by escapes alone.
-/

set_option autoImplicit false

namespace ApiContract.Http.Form

/-! ### Bytes -/

theorem ofBytes_toList (s : String) : Text.ofBytes ⟨s.toUTF8.toList.toArray⟩ = s := by
  rw [Text.toList_eq, Array.toArray_toList]
  exact Text.ofBytes_toByteArray s

/-! ### Names and values -/

/-- The encoded bytes stand for the others: each of these is spelled by an escape, or as itself, or,
if it is a space, by a plus sign. -/
inductive Encodes : List UInt8 → List UInt8 → Prop
  | nil : Encodes [] []
  | escape {a b byte : UInt8} {encoded bytes : List UInt8} :
      hexByte? a b = some byte → Encodes encoded bytes →
      Encodes (37 :: a :: b :: encoded) (byte :: bytes)
  | space {encoded bytes : List UInt8} : Encodes encoded bytes → Encodes (43 :: encoded) (32 :: bytes)
  | itself {byte : UInt8} {encoded bytes : List UInt8} :
      byte ∉ [37, 38, 43, 61] → Encodes encoded bytes → Encodes (byte :: encoded) (byte :: bytes)

variable {encoded encoded' bytes bytes' : List UInt8}

/-- **However they are spelled, bytes are read back.** -/
theorem unescape_of_encodes (h : Encodes encoded bytes) : unescape encoded = bytes := by
  induction h with
  | nil => rfl
  | escape hbyte _ ih => simp only [unescape, hbyte, ih]
  | space _ ih => simp [unescape, ih]
  | @itself byte encoded bytes hsign _ ih =>
      have hne : byte ≠ 37 ∧ byte ≠ 43 := by
        constructor <;> rintro rfl <;> simp at hsign
      rw [unescape, ih, if_neg hne.2]
      exact fun _ _ _ heq => absurd heq hne.1

theorem decode_of_encodes {s : String} (h : Encodes encoded s.toUTF8.toList) : decode encoded = s := by
  rw [decode, unescape_of_encodes h, ofBytes_toList]

theorem Encodes.append (h : Encodes encoded bytes) (h' : Encodes encoded' bytes') :
    Encodes (encoded ++ encoded') (bytes ++ bytes') := by
  induction h with
  | nil => exact h'
  | escape hbyte _ ih => exact .escape hbyte ih
  | space _ ih => exact .space ih
  | itself hsign _ ih => exact .itself hsign ih

/-- No spelling has a sign in it that parts pairs, or names from values. -/
theorem Encodes.not_mem (h : Encodes encoded bytes) {sign : UInt8} (hsign : sign ∈ [38, 61]) :
    sign ∉ encoded := by
  have hdigit : hexDigit? sign = none := by
    rcases List.mem_pair.1 hsign with rfl | rfl <;> rfl
  have hothers : sign ≠ 37 ∧ sign ≠ 43 := by
    rcases List.mem_pair.1 hsign with rfl | rfl <;> decide
  induction h with
  | nil => exact List.not_mem_nil
  | @escape a b byte encoded bytes hbyte _ ih =>
      obtain ⟨hi, ha, lo, hb, -⟩ : ∃ hi, hexDigit? a = some hi ∧ ∃ lo, hexDigit? b = some lo ∧
          hi * 16 + lo = byte := by simpa [hexByte?, Option.bind_eq_some_iff] using hbyte
      have hne : sign ≠ a ∧ sign ≠ b := by
        constructor <;> rintro rfl <;> simp_all
      simp [hothers.1, hne, ih]
  | space _ ih => simp [hothers.2, ih]
  | @itself byte encoded bytes hbyte _ ih =>
      have hne : sign ≠ byte := by
        rintro rfl
        rcases List.mem_pair.1 hsign with rfl | rfl <;> simp at hbyte
      simp [hne, ih]

/-! ### Pairs -/

/-- The piece spells the pair: name and value with an equals sign between them. -/
def EncodesPair (piece : List UInt8) (pair : String × String) : Prop :=
  ∃ name value, Encodes name pair.1.toUTF8.toList ∧ Encodes value pair.2.toUTF8.toList ∧
    piece = name ++ 61 :: value

/-- The query string spells the pairs, with ampersands between them. -/
def Writes (query : String) (pairs : List (String × String)) : Prop :=
  ∃ pieces, query.toUTF8.toList = [38].intercalate pieces ∧ List.Forall₂ EncodesPair pieces pairs

variable {piece : List UInt8} {pair : String × String} {pairs : List (String × String)}

theorem EncodesPair.pair_eq (h : EncodesPair piece pair) : Form.pair piece = pair := by
  obtain ⟨name, value, hname, hvalue, rfl⟩ := h
  have hequals : 61 ∉ name := hname.not_mem (by simp)
  rw [Form.pair, Text.takeWhile_ne_append hequals, Text.dropWhile_ne_append hequals,
    List.drop_one, List.tail_cons, decode_of_encodes hname, decode_of_encodes hvalue]

theorem EncodesPair.ne_nil (h : EncodesPair piece pair) : piece ≠ [] := by
  obtain ⟨name, value, -, -, rfl⟩ := h
  simp

theorem EncodesPair.not_mem (h : EncodesPair piece pair) : 38 ∉ piece := by
  obtain ⟨name, value, hname, hvalue, rfl⟩ := h
  simp [hname.not_mem, hvalue.not_mem]

theorem map_pair_of_forall₂ {pieces : List (List UInt8)}
    (h : List.Forall₂ EncodesPair pieces pairs) :
    (pieces.filter fun piece => !piece.isEmpty).map Form.pair = pairs := by
  induction h with
  | nil => rfl
  | cons hpiece _ ih =>
      rw [List.filter_cons_of_pos (by simpa using hpiece.ne_nil), List.map_cons, hpiece.pair_eq, ih]

/-- **A query string is read as the pairs that it spells.** -/
theorem pairs_of_writes {query : String} (h : Writes query pairs) : Form.pairs query = pairs := by
  obtain ⟨pieces, hquery, hpieces⟩ := h
  rw [Form.pairs, hquery]
  have hampersand : ∀ piece ∈ pieces, 38 ∉ piece :=
    ((List.forall₂_and_left ..).1 (hpieces.imp fun _ _ hpiece => ⟨hpiece.not_mem, hpiece⟩)).1
  by_cases hnil : pieces = []
  · -- an empty text has one piece, which is empty
    subst hnil
    cases hpieces
    rfl
  · rw [List.splitOn_intercalate 38 hampersand hnil]
    exact map_pair_of_forall₂ hpieces

/-! ### Escapes alone -/

/-- The escape of a byte. -/
def escapeByte (b : UInt8) : List Char :=
  ['%', Json.hexChar (b.toNat / 16), Json.hexChar (b.toNat % 16)]

/-- A text with every byte escaped. -/
def escape (s : String) : List Char := s.toUTF8.toList.flatMap escapeByte

/-- A key with every byte of its name escaped; brackets behind the name stay as they are. -/
def escapeKey (key : String) : List Char :=
  match Query.collected? key with
  | some name => escape name ++ ['[', ']']
  | none => escape key

/-- A pair with every byte of name and value escaped. -/
def escapePair (pair : String × String) : List Char := escapeKey pair.1 ++ '=' :: escape pair.2

/-- The query string of pairs, with every byte of names and values escaped. -/
def escaped (pairs : List (String × String)) : String :=
  String.ofList (['&'].intercalate (pairs.map escapePair))

theorem hexChar_encodes : ∀ n < 16, ∃ d, String.utf8EncodeChar (Json.hexChar n) = [d] ∧
    hexDigit? d = some (UInt8.ofNat n) := by
  have hdigits : ∀ n < 16,
      String.utf8EncodeChar (Json.hexChar n) = [UInt8.ofNat (Json.hexChar n).toNat] ∧
        hexDigit? (UInt8.ofNat (Json.hexChar n).toNat) = some (UInt8.ofNat n) := by decide
  exact fun n hn => ⟨_, hdigits n hn⟩

theorem encodes_escapeByte (b : UInt8) (h : Encodes encoded bytes) :
    Encodes ((escapeByte b).flatMap String.utf8EncodeChar ++ encoded) (b :: bytes) := by
  have hb : b.toNat < 256 := b.toNat_lt
  obtain ⟨hi, hhi, hhigh⟩ := hexChar_encodes (b.toNat / 16) (by omega)
  obtain ⟨lo, hlo, hlow⟩ := hexChar_encodes (b.toNat % 16) (by omega)
  have hbyte : hexByte? hi lo = some b := by
    have hsum : UInt8.ofNat (b.toNat / 16) * 16 + UInt8.ofNat (b.toNat % 16) = b := by
      apply UInt8.toNat_inj.1
      simp
      omega
    simp [hexByte?, hhigh, hlow, hsum]
  have hpercent : String.utf8EncodeChar '%' = [37] := by decide
  simpa [escapeByte, hhi, hlo, hpercent] using Encodes.escape hbyte h

theorem encodes_flatMap_escapeByte (bytes : List UInt8) :
    Encodes ((bytes.flatMap escapeByte).flatMap String.utf8EncodeChar) bytes := by
  induction bytes with
  | nil => exact .nil
  | cons b bytes ih =>
      rw [List.flatMap_cons, List.flatMap_append]
      exact encodes_escapeByte b ih

theorem encodes_escapeKey (key : String) :
    Encodes ((escapeKey key).flatMap String.utf8EncodeChar) key.toUTF8.toList := by
  unfold escapeKey
  cases hc : Query.collected? key with
  | none => exact encodes_flatMap_escapeByte _
  | some name =>
      have hbrackets : ['[', ']'].flatMap String.utf8EncodeChar = [91, 93] := by decide
      have hkey : key.toUTF8.toList = name.toUTF8.toList ++ [91, 93] := by
        rw [Query.collected?_eq_some_iff.1 hc, Text.toList_toUTF8, Text.toList_toUTF8,
          String.toList_append, List.flatMap_append, ← hbrackets]
        rfl
      rw [hkey, List.flatMap_append, hbrackets]
      exact (encodes_flatMap_escapeByte _).append (.itself (by decide) (.itself (by decide) .nil))

theorem flatMap_intercalate (lines : List (List Char)) :
    (['&'].intercalate lines).flatMap String.utf8EncodeChar =
      [38].intercalate (lines.map fun line => line.flatMap String.utf8EncodeChar) := by
  have hampersand : String.utf8EncodeChar '&' = [38] := by decide
  induction lines with
  | nil => rfl
  | cons line rest ih =>
      cases rest with
      | nil => simp
      | cons next rest =>
          rw [List.map_cons] at ih ⊢
          rw [List.map_cons, List.intercalate_cons_cons, List.intercalate_cons_cons, ← ih]
          simp [hampersand]

/-- **Any pairs can be spelled by escapes alone.** -/
theorem writes_escaped (pairs : List (String × String)) : Writes (escaped pairs) pairs := by
  refine ⟨(pairs.map escapePair).map fun line => line.flatMap String.utf8EncodeChar, ?_, ?_⟩
  · rw [Text.toList_toUTF8, escaped, String.toList_ofList, flatMap_intercalate]
  · rw [List.map_map, List.forall₂_map_left_iff, List.forall₂_same]
    intro pair _
    have hequals : String.utf8EncodeChar '=' = [61] := by decide
    refine ⟨_, _, encodes_escapeKey pair.1, encodes_flatMap_escapeByte _, ?_⟩
    simp [escapePair, escape, hequals]

end ApiContract.Http.Form
