import ApiContract.Json.Printer
import ApiContract.Json.Token
import ApiContract.Proofs.Text.Numeral

/-
Compact text and its tokens.

The text of a value is its tokens, spelled one after the other with nothing between them.  Reading
finds them again: every string ends at its own closing quote, whatever is written in it, and the row
of characters that makes up a number or a word ends where the next token begins, since between two
values there is always a comma or the end of a container.

Main definitions:

* `ApiContract.Json.Portable` — values that text carries as they are;
* `ApiContract.Json.tokensOf` — the tokens of a value.

Main results:

* `ApiContract.Json.readText_flatMap_escape` — a string is read back, whatever follows it;
* `ApiContract.Json.value?_printInt` — an integer of 64 bits is read back;
* `ApiContract.Json.tokens?_print` — **the text of a value is read as its tokens**.
-/

set_option autoImplicit false

namespace ApiContract.Json

/-- Values that text carries as they are: there is no double in them, their integers lie between
`-2 ^ 63` and `2 ^ 64 - 1`, and none of their objects repeats a key. -/
inductive Portable : Json → Prop
  | null : Portable null
  | bool (value : Bool) : Portable (bool value)
  | int {n : Int} : -(Nat.pow 2 63 : Nat) ≤ n → n < (Nat.pow 2 64 : Nat) → Portable (int n)
  | text (value : String) : Portable (text value)
  | array {items : List Json} : (∀ v ∈ items, Portable v) → Portable (array items)
  | object {fields : Fields} :
      fields.keys.Nodup → (∀ field ∈ fields, Portable field.2) → Portable (object fields)

/-! ### Strings -/

theorem hexDigit?_hexChar {n : Nat} (h : n < 16) : hexDigit? (hexChar n) = some n := by
  revert n
  decide

/-- The escape with four digits of a control character. -/
theorem codeUnit?_control {c : Char} (h : c < ' ') :
    codeUnit? '0' '0' (hexChar (c.toNat / 16)) (hexChar (c.toNat % 16)) = some c.toNat := by
  have hlt : c.toNat < 32 := h
  have hzero : hexDigit? '0' = some 0 := rfl
  have hhigh : hexDigit? (hexChar (c.toNat / 16)) = some (c.toNat / 16) :=
    hexDigit?_hexChar (by omega)
  have hlow : hexDigit? (hexChar (c.toNat % 16)) = some (c.toNat % 16) :=
    hexDigit?_hexChar (by omega)
  have hsum : ((0 * 16 + 0) * 16 + c.toNat / 16) * 16 + c.toNat % 16 = c.toNat := by omega
  simp only [codeUnit?, hzero, hhigh, hlow, Option.bind_eq_bind, Option.bind_some, hsum]
  rfl

/-- The spelling of a character is read as the character. -/
theorem readText_escape (acc : List Char) (c : Char) (r : List Char) :
    readText acc (escape c ++ r) = readText (c :: acc) r := by
  unfold escape
  split
  · next h => subst h; simp [readText, escaped?]
  split
  · next h => subst h; simp [readText, escaped?]
  split
  · next h => subst h; simp [readText, escaped?]
  split
  · next h => subst h; simp [readText, escaped?]
  split
  · next h => subst h; simp [readText, escaped?]
  split
  · next h => subst h; simp [readText, escaped?]
  split
  · next h => subst h; simp [readText, escaped?]
  split
  · next h =>
      -- a control character is no surrogate
      have hlt : c.toNat < 32 := h
      have hlow : isLowSurrogate c.toNat = false := by simp [isLowSurrogate]; omega
      have hhigh : isHighSurrogate c.toNat = false := by simp [isHighSurrogate]; omega
      simp [readText, codeUnit?_control h, hlow, hhigh]
  · next hquote hbackslash _ _ _ _ _ hcontrol =>
      rw [List.singleton_append, readText, if_neg hcontrol]
      · exact hquote
      · intros
        exact hbackslash ‹_›
      · intros
        exact hbackslash ‹_›

/-- **A string is read back, whatever follows it.** -/
theorem readText_flatMap_escape (acc cs r : List Char) :
    readText acc (cs.flatMap escape ++ '"' :: r) = some (acc.reverse ++ cs, r) := by
  induction cs generalizing acc with
  | nil => simp [readText]
  | cons c cs ih =>
      rw [List.flatMap_cons, List.append_assoc, readText_escape, ih]
      simp

/-! ### Integers -/

theorem digits_toDigits (n : Nat) : Text.Digits (Nat.toDigits 10 n) :=
  fun _ hc => Nat.isDigit_of_mem_toDigits (by decide) (by decide) hc

theorem ofDigits_toDigits (n : Nat) : ofDigits (Nat.toDigits 10 n) = n := by
  have h := Nat.ofDigitChars_ten_toDigits (n := n)
  rw [Nat.ofDigitChars_eq_foldl] at h
  simpa [ofDigits, Nat.mul_comm] using h

theorem exists_toDigits_eq (n : Nat) :
    ∃ d ds, Nat.toDigits 10 n = d :: ds ∧ d.isDigit = true := by
  obtain ⟨d, ds, hds⟩ := List.exists_cons_of_ne_nil (Nat.toDigits_ne_nil (n := n) (b := 10))
  exact ⟨d, ds, hds, digits_toDigits n d (by simp [hds])⟩

theorem head?_toDigits {n : Nat} (h : 0 < n) : (Nat.toDigits 10 n).head? ≠ some '0' := by
  induction n using Nat.strongRecOn with
  | ind n ih =>
      by_cases hlt : n < 10
      · have hdigit : ∀ m < 10, 0 < m → [Nat.digitChar m].head? ≠ some '0' := by decide
        rw [Nat.toDigits_of_lt_base hlt]
        exact hdigit n hlt h
      · -- the first digit is that of the number without its last digit
        have hhead := ih (n / 10) (by omega) (by omega)
        obtain ⟨d, ds, hds, -⟩ := exists_toDigits_eq (n / 10)
        rw [hds] at hhead
        rw [Nat.toDigits_of_base_le (by decide) (by omega), hds]
        exact hhead

/-- No number is written with a zero that could be left out. -/
theorem toDigits_leading (n : Nat) :
    ¬ (Nat.toDigits 10 n = [] ∨
      ((Nat.toDigits 10 n).head? = some '0' ∧ Nat.toDigits 10 n ≠ ['0'])) := by
  rintro (hnil | ⟨hhead, hne⟩)
  · exact Nat.toDigits_ne_nil hnil
  · rcases Nat.eq_zero_or_pos n with rfl | hpos
    · exact hne rfl
    · exact head?_toDigits hpos hhead

theorem takeWhile_toDigits (n : Nat) :
    (Nat.toDigits 10 n).takeWhile Char.isDigit = Nat.toDigits 10 n := by
  simpa using Text.takeWhile_append_stops (digits_toDigits n) Text.stops_nil

theorem dropWhile_toDigits (n : Nat) : (Nat.toDigits 10 n).dropWhile Char.isDigit = [] := by
  simpa using Text.dropWhile_append_stops (digits_toDigits n) Text.stops_nil

theorem read?_toDigits (n : Nat) :
    Numeral.read? (Nat.toDigits 10 n) = some ⟨false, Nat.toDigits 10 n, none, none⟩ := by
  obtain ⟨d, ds, hds, hd⟩ := exists_toDigits_eq n
  have hne : d ≠ '-' := Text.isDigit_ne hd rfl
  have hsign : Numeral.read? (Nat.toDigits 10 n) = Numeral.read? (d :: ds) := by rw [hds]
  rw [hsign, Numeral.read?]
  · simp only [← hds, takeWhile_toDigits, dropWhile_toDigits]
    rw [if_neg (toDigits_leading n)]
    rfl
  · intro rest heq
    exact hne (List.cons.inj heq).1

theorem read?_minus_toDigits (n : Nat) :
    Numeral.read? ('-' :: Nat.toDigits 10 n) = some ⟨true, Nat.toDigits 10 n, none, none⟩ := by
  simp only [Numeral.read?, takeWhile_toDigits, dropWhile_toDigits]
  rw [if_neg (toDigits_leading n)]
  rfl

/-- **An integer of 64 bits is read back.** -/
theorem value?_printInt {n : Int} (hlow : -(Nat.pow 2 63 : Nat) ≤ n)
    (hhigh : n < (Nat.pow 2 64 : Nat)) :
    (Numeral.read? (printInt n)).bind Numeral.value? = some (int n) := by
  cases n with
  | ofNat n =>
      have hmax : n ≤ Numeral.maxSignificand := by
        have hpow : Numeral.maxSignificand = Nat.pow 2 64 - 1 := rfl
        rw [Int.ofNat_eq_natCast] at hhigh
        omega
      simp [printInt, read?_toDigits, Numeral.value?, ofDigits_toDigits, hmax]
  | negSucc n =>
      have hmin : n + 1 ≤ Nat.pow 2 63 := by
        omega
      simp [printInt, read?_minus_toDigits, Numeral.value?, ofDigits_toDigits, hmin,
        Int.negSucc_eq]

/-! ### Tokens -/

mutual

/-- The tokens of a value. -/
def tokensOf : Json → List Token
  | null => [.scalar null]
  | bool b => [.scalar (bool b)]
  | int n => [.scalar (int n)]
  | double x => [.scalar (double x)]
  | text s => [.text s]
  | array items => .beginArray :: (tokensOfItems items ++ [.endArray])
  | object fields => .beginObject :: (tokensOfFields fields ++ [.endObject])

/-- The tokens of the items of an array. -/
def tokensOfItems : List Json → List Token
  | [] => []
  | [v] => tokensOf v
  | v :: rest => tokensOf v ++ .valueSeparator :: tokensOfItems rest

/-- The tokens of the fields of an object. -/
def tokensOfFields : List (String × Json) → List Token
  | [] => []
  | [(k, v)] => .text k :: .nameSeparator :: tokensOf v
  | (k, v) :: rest =>
    .text k :: .nameSeparator :: (tokensOf v ++ .valueSeparator :: tokensOfFields rest)

end

theorem tokensOfItems_cons_cons (v w : Json) (items : List Json) :
    tokensOfItems (v :: w :: items) = tokensOf v ++ .valueSeparator :: tokensOfItems (w :: items) :=
  rfl

theorem tokensOfFields_cons_cons (k : String) (v : Json) (field : String × Json) (fields : Fields) :
    tokensOfFields ((k, v) :: field :: fields) =
      .text k :: .nameSeparator ::
        (tokensOf v ++ .valueSeparator :: tokensOfFields (field :: fields)) :=
  rfl

/-- Neither a number nor a word goes on in the characters. -/
def Delimited (cs : List Char) : Prop := Text.Stops (fun c => isNumberChar c || c.isAlpha) cs

variable {acc : List Token} {rest : List Char}

@[simp] theorem delimited_nil : Delimited [] := Text.stops_nil

theorem delimited_cons {c : Char} (h : c ∈ [',', ':', ']', '\x7d']) (cs : List Char) :
    Delimited (c :: cs) := by
  revert c
  simp [Delimited, isNumberChar, Char.isDigit]

theorem Delimited.stops_number (h : Delimited rest) : Text.Stops isNumberChar rest :=
  fun c hc => (Bool.or_eq_false_iff.1 (h c hc)).1

theorem Delimited.stops_alpha (h : Delimited rest) : Text.Stops Char.isAlpha rest :=
  fun c hc => (Bool.or_eq_false_iff.1 (h c hc)).2

/-- The characters that are tokens by themselves. -/
theorem tokensFrom_structural {c : Char} {t : Token} (h : structural? c = some t) (r : List Char) :
    tokensFrom acc (c :: r) = tokensFrom (t :: acc) r := by
  have hc : c ∈ ['[', ']', '\x7b', '\x7d', ':', ','] := by
    unfold structural? at h
    split at h <;> simp_all
  have hclass : ['[', ']', '\x7b', '\x7d', ':', ','].all (fun c =>
      !isTokenBlank c && c != '"' && !isNumberChar c && !c.isAlpha) = true := by decide
  have hchar := List.all_eq_true.1 hclass c hc
  simp only [Bool.and_eq_true, Bool.not_eq_true', bne_iff_ne] at hchar
  obtain ⟨⟨⟨hblank, hquote⟩, hnumber⟩, halpha⟩ := hchar
  rw [tokensFrom]
  simp [hblank, hquote, hnumber, halpha, h]

theorem tokensFrom_quoted (s : String) :
    tokensFrom acc (quoted s ++ rest) = tokensFrom (.text s :: acc) rest := by
  have hread := readText_flatMap_escape [] s.toList rest
  have happend : quoted s ++ rest = '"' :: (s.toList.flatMap escape ++ '"' :: rest) := by
    simp [quoted]
  rw [happend, tokensFrom, if_neg (by decide), if_pos rfl]
  split
  · next hnone => simp [hread] at hnone
  · next cs r hsome =>
      rw [hread] at hsome
      cases hsome
      simp

theorem tokensFrom_number {c : Char} {row : List Char} {v : Json} (hc : isNumberChar c = true)
    (hletter : c ≠ 'e' ∧ c ≠ 'E') (hrow : ∀ d ∈ row, isNumberChar d = true)
    (hrest : Delimited rest) (hv : (Numeral.read? (c :: row)).bind Numeral.value? = some v) :
    tokensFrom acc (c :: row ++ rest) = tokensFrom (.scalar v :: acc) rest := by
  have hblank : isTokenBlank c = false := by
    cases hblank : isTokenBlank c with
    | false => rfl
    | true =>
        simp only [isTokenBlank, Bool.or_eq_true, decide_eq_true_eq] at hblank
        rcases hblank with ((rfl | rfl) | rfl) | rfl <;> simp [isNumberChar, Char.isDigit] at hc
  have hquote : c ≠ '"' := by
    rintro rfl
    simp [isNumberChar, Char.isDigit] at hc
  have htake := Text.takeWhile_append_stops hrow hrest.stops_number
  have hdrop := Text.dropWhile_append_stops hrow hrest.stops_number
  rw [List.cons_append, tokensFrom, if_neg (by simp [hblank]), if_neg hquote,
    if_pos ⟨hc, hletter⟩]
  simp only [htake, hdrop, hv]

theorem tokensFrom_word {c : Char} {row : List Char} {v : Json} (hword : word? (c :: row) = some v)
    (hrest : Delimited rest) :
    tokensFrom acc (c :: row ++ rest) = tokensFrom (.scalar v :: acc) rest := by
  have hcs : c :: row ∈
      [['n', 'u', 'l', 'l'], ['t', 'r', 'u', 'e'], ['f', 'a', 'l', 's', 'e']] := by
    unfold word? at hword
    split at hword
    · simp_all
    split at hword
    · simp_all
    split at hword
    · simp_all
    · cases hword
  have hclass : [['n', 'u', 'l', 'l'], ['t', 'r', 'u', 'e'], ['f', 'a', 'l', 's', 'e']].all
      (fun cs => cs.all Char.isAlpha &&
        cs.head?.all fun d => !isTokenBlank d && d != '"' && !isNumberChar d) = true := by decide
  obtain ⟨hall, hhead⟩ := Bool.and_eq_true_iff.1 (List.all_eq_true.1 hclass _ hcs)
  obtain ⟨halpha, hrow⟩ := List.forall_mem_cons.1 (List.all_eq_true.1 hall)
  simp only [List.head?_cons, Option.all_some, Bool.and_eq_true, Bool.not_eq_true',
    bne_iff_ne] at hhead
  obtain ⟨⟨hblank, hquote⟩, hnumber⟩ := hhead
  have htake := Text.takeWhile_append_stops hrow hrest.stops_alpha
  have hdrop := Text.dropWhile_append_stops hrow hrest.stops_alpha
  rw [List.cons_append, tokensFrom, if_neg (by simp [hblank]), if_neg hquote,
    if_neg (by simp [hnumber]), if_pos halpha]
  simp only [htake, hdrop, hword]

/-! ### Values -/

/-- In front of whatever delimits numbers and words, the characters are read as the tokens. -/
def ReadAs (cs : List Char) (ts : List Token) : Prop :=
  ∀ acc rest, Delimited rest → tokensFrom acc (cs ++ rest) = tokensFrom (ts.reverse ++ acc) rest

variable {cs cs' : List Char} {ts ts' : List Token} {number : Binary64 → String}

theorem readAs_nil : ReadAs [] [] := fun _ _ _ => rfl

theorem readAs_structural {c : Char} {t : Token} (h : structural? c = some t) :
    ReadAs [c] [t] := by
  intro acc rest _
  rw [List.singleton_append, tokensFrom_structural h]
  rfl

theorem readAs_quoted (s : String) : ReadAs (quoted s) [.text s] := by
  intro acc rest _
  rw [tokensFrom_quoted]
  rfl

/-- A token that is a character by itself may stand before others. -/
theorem ReadAs.cons {c : Char} {t : Token} (h : structural? c = some t) (h' : ReadAs cs ts) :
    ReadAs (c :: cs) (t :: ts) := by
  intro acc rest hrest
  rw [List.cons_append, tokensFrom_structural h, h' _ rest hrest]
  simp

/-- What delimits numbers and words may stand between tokens. -/
theorem ReadAs.append (h : ReadAs cs ts) (hcs' : ∀ rest, Delimited (cs' ++ rest))
    (h' : ReadAs cs' ts') : ReadAs (cs ++ cs') (ts ++ ts') := by
  intro acc rest hrest
  rw [List.append_assoc, h _ _ (hcs' rest), h' _ rest hrest]
  simp

theorem readAs_printInt {n : Int} (hlow : -(Nat.pow 2 63 : Nat) ≤ n)
    (hhigh : n < (Nat.pow 2 64 : Nat)) :
    ReadAs (printInt n) [.scalar (int n)] := by
  have hv := value?_printInt hlow hhigh
  have hchars : ∀ m, ∀ d ∈ Nat.toDigits 10 m, isNumberChar d = true := fun m d hd =>
    Text.isNumberChar_of_isDigit (digits_toDigits m d hd)
  intro acc rest hrest
  cases n with
  | ofNat n =>
      obtain ⟨d, ds, hds, hd⟩ := exists_toDigits_eq n
      have hrow := hchars n
      rw [hds, List.forall_mem_cons] at hrow
      simp only [printInt, hds] at hv ⊢
      exact tokensFrom_number hrow.1 ⟨Text.isDigit_ne hd rfl, Text.isDigit_ne hd rfl⟩ hrow.2
        hrest hv
  | negSucc n => exact tokensFrom_number rfl (by decide) (hchars (n + 1)) hrest hv

theorem readAs_printItems {items : List Json}
    (h : ∀ v ∈ items, ReadAs (v.print number) (tokensOf v)) :
    ReadAs (printItems number items) (tokensOfItems items) := by
  induction items with
  | nil => exact readAs_nil
  | cons v items ih =>
      obtain ⟨hv, hitems⟩ := List.forall_mem_cons.1 h
      cases items with
      | nil => exact hv
      | cons w items =>
          exact hv.append (fun rest => delimited_cons (by simp) _) ((ih hitems).cons rfl)

theorem readAs_printFields {fields : Fields}
    (h : ∀ field ∈ fields, ReadAs (field.2.print number) (tokensOf field.2)) :
    ReadAs (printFields number fields) (tokensOfFields fields) := by
  induction fields with
  | nil => exact readAs_nil
  | cons field fields ih =>
      obtain ⟨k, v⟩ := field
      obtain ⟨hv, hfields⟩ := List.forall_mem_cons.1 h
      have hname : ∀ {cs ts}, ReadAs cs ts →
          ReadAs (quoted k ++ ':' :: cs) (.text k :: .nameSeparator :: ts) := fun h' =>
        (readAs_quoted k).append (fun rest => delimited_cons (by simp) _) (h'.cons rfl)
      cases fields with
      | nil => exact hname hv
      | cons next fields =>
          exact hname (hv.append (fun rest => delimited_cons (by simp) _) ((ih hfields).cons rfl))

/-- **The text of a value is read as its tokens.** -/
theorem readAs_print {v : Json} (h : Portable v) : ReadAs (v.print number) (tokensOf v) := by
  induction h with
  | null => exact fun acc rest hrest => tokensFrom_word rfl hrest
  | bool b => cases b <;> exact fun acc rest hrest => tokensFrom_word rfl hrest
  | int hlow hhigh => exact readAs_printInt hlow hhigh
  | text s => exact readAs_quoted s
  | array _ ih =>
      have hend : ReadAs [']'] [.endArray] := readAs_structural rfl
      exact ((readAs_printItems ih).append (fun rest => delimited_cons (by simp) _) hend).cons rfl
  | object _ _ ih =>
      have hend : ReadAs ['\x7d'] [.endObject] := readAs_structural rfl
      exact ((readAs_printFields ih).append (fun rest => delimited_cons (by simp) _) hend).cons rfl

theorem tokens?_print {v : Json} (h : Portable v) :
    tokens? (v.print number) = some (tokensOf v) := by
  have hread : ReadAs (v.print number) (tokensOf v) := readAs_print h
  have hall := hread [] [] delimited_nil
  simpa [tokens?, tokensFrom] using hall

end ApiContract.Json
