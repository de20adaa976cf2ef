import Mathlib.Data.List.TakeWhile
import ApiContract.Json.Token
import ApiContract.Logging.Condition

/-
The grammar of numerals.

A numeral is read from left to right, the longest row of digits first.  Its grammar says the same
without an order of reading: it has a sign or none, a mantissa, and a power of ten or none.  There
is a second way to tell numerals: they are those texts that a reader of doubles accepts and that
are written with digits, signs, points and the letter for the power of ten alone, since the words
for infinity and for what is not a number have other letters in them.

Main definitions:

* `ApiContract.Text.NumeralText` — the grammar, by `ApiContract.Text.SignText`,
  `ApiContract.Text.Mantissa` and `ApiContract.Text.PowerText`;
* `ApiContract.Text.DoubleWord` — the words that a reader of doubles accepts besides numerals.

Main results:

* `ApiContract.Text.Decimal.isSome_read?_iff` — reading succeeds on the grammar and nowhere else;
* `ApiContract.Text.isSome_double?_iff` — what a reader of doubles accepts;
* `ApiContract.Text.isNumeral_iff` — **the numerals, told in both ways**.
-/

set_option autoImplicit false

namespace ApiContract.Text

/-! ### Rows of characters -/

/-- The list begins with no member of the class. -/
def Stops (p : Char → Bool) (cs : List Char) : Prop := ∀ c ∈ cs.head?, p c = false

variable {p : Char → Bool} {cs row rest : List Char}

@[simp] theorem stops_nil : Stops p [] := by
  intro c hc
  simp at hc

@[simp] theorem stops_cons {c : Char} : Stops p (c :: cs) ↔ p c = false := by
  simp [Stops]

theorem takeWhile_of_stops (h : Stops p rest) : rest.takeWhile p = [] := by
  cases rest with
  | nil => rfl
  | cons c rest => rw [List.takeWhile_cons_of_neg (by simp [stops_cons.1 h])]

theorem dropWhile_of_stops (h : Stops p rest) : rest.dropWhile p = rest := by
  cases rest with
  | nil => rfl
  | cons c rest => rw [List.dropWhile_cons_of_neg (by simp [stops_cons.1 h])]

/-- A row of members of the class is taken as a whole. -/
theorem takeWhile_append_stops (hrow : ∀ c ∈ row, p c = true) (hrest : Stops p rest) :
    (row ++ rest).takeWhile p = row := by
  rw [List.takeWhile_append_of_pos hrow, takeWhile_of_stops hrest, List.append_nil]

theorem dropWhile_append_stops (hrow : ∀ c ∈ row, p c = true) (hrest : Stops p rest) :
    (row ++ rest).dropWhile p = rest := by
  rw [List.dropWhile_append_of_pos hrow, dropWhile_of_stops hrest]

/-! ### The grammar -/

/-- Digits and nothing else. -/
def Digits (cs : List Char) : Prop := ∀ c ∈ cs, c.isDigit = true

/-- A sign, or none. -/
inductive SignText : List Char → Prop
  | absent : SignText []
  | plus : SignText ['+']
  | minus : SignText ['-']

/-- One or more digits, perhaps with a point behind them and digits behind the point; or a point
with one or more digits behind it. -/
inductive Mantissa : List Char → Prop
  | whole {ds : List Char} : ds ≠ [] → Digits ds → Mantissa ds
  | pointed {ds fs : List Char} : ds ≠ [] → Digits ds → Digits fs → Mantissa (ds ++ '.' :: fs)
  | fraction {fs : List Char} : fs ≠ [] → Digits fs → Mantissa ('.' :: fs)

/-- The letter `e`, small or great, with a sign or none and one or more digits; or nothing. -/
inductive PowerText : List Char → Prop
  | absent : PowerText []
  | written {e : Char} {sign ds : List Char} :
      e = 'e' ∨ e = 'E' → SignText sign → ds ≠ [] → Digits ds → PowerText (e :: (sign ++ ds))

/-- A sign or none, a mantissa, and a power of ten or none. -/
def NumeralText (cs : List Char) : Prop :=
  ∃ sign mantissa power, SignText sign ∧ Mantissa mantissa ∧ PowerText power ∧
    cs = sign ++ (mantissa ++ power)

/-- A word for infinity or for what is not a number, letter case apart. -/
def DoubleWord (cs : List Char) : Prop :=
  lower (String.ofList cs) ∈ ["inf", "infinity", "nan"]

/-- The characters that begin a mantissa. -/
def BeginsMantissa (cs : List Char) : Prop :=
  ∃ c rest, cs = c :: rest ∧ (c.isDigit = true ∨ c = '.')

variable {sign mantissa power ds fs : List Char}

theorem isDigit_ne {c d : Char} (hc : c.isDigit = true) (hd : d.isDigit = false) : c ≠ d := by
  rintro rfl
  simp [hc] at hd

theorem Digits.begins (hne : ds ≠ []) (h : Digits ds) (rest : List Char) :
    BeginsMantissa (ds ++ rest) := by
  obtain ⟨d, ds, rfl⟩ := List.exists_cons_of_ne_nil hne
  exact ⟨d, ds ++ rest, rfl, .inl (h d (by simp))⟩

theorem Mantissa.begins (h : Mantissa mantissa) (rest : List Char) :
    BeginsMantissa (mantissa ++ rest) := by
  cases h with
  | whole hne hds => exact hds.begins hne rest
  | pointed hne hds hfs =>
      rw [List.append_assoc]
      exact hds.begins hne _
  | fraction hne hfs => exact ⟨'.', _, rfl, .inr rfl⟩

theorem PowerText.stops (h : PowerText power) : Stops Char.isDigit power := by
  cases h with
  | absent => exact stops_nil
  | written he _ _ _ => rcases he with rfl | rfl <;> simp [Char.isDigit]

namespace Decimal

/-! ### Reading -/

theorem sign_eq (h : ∀ c ∈ cs.head?, c ≠ '-' ∧ c ≠ '+') : Decimal.sign cs = (false, cs) := by
  unfold Decimal.sign
  split
  · exact absurd rfl (h '-' (by simp)).1
  · exact absurd rfl (h '+' (by simp)).2
  · rfl

/-- What follows the sign does not depend on the sign. -/
theorem sign_append (hsign : SignText sign) (h : ∀ c ∈ cs.head?, c ≠ '-' ∧ c ≠ '+') :
    (Decimal.sign (sign ++ cs)).2 = cs := by
  cases hsign with
  | absent => rw [List.nil_append, sign_eq h]
  | plus => rfl
  | minus => rfl

theorem exists_sign (cs : List Char) :
    ∃ sign, SignText sign ∧ cs = sign ++ (Decimal.sign cs).2 := by
  unfold Decimal.sign
  split
  · exact ⟨['-'], .minus, rfl⟩
  · exact ⟨['+'], .plus, rfl⟩
  · exact ⟨[], .absent, rfl⟩

theorem ne_signs_of_begins (h : BeginsMantissa cs) : ∀ c ∈ cs.head?, c ≠ '-' ∧ c ≠ '+' := by
  obtain ⟨c, rest, rfl, hc⟩ := h
  intro d hd
  obtain rfl : c = d := by simpa using hd
  rcases hc with hc | rfl
  · exact ⟨isDigit_ne hc rfl, isDigit_ne hc rfl⟩
  · decide

theorem isSome_power?_iff :
    (power? cs).isSome ↔ ∃ sign ds, SignText sign ∧ ds ≠ [] ∧ Digits ds ∧ cs = sign ++ ds := by
  constructor
  · intro h
    obtain ⟨sign, hsign, hcs⟩ := exists_sign cs
    have hds : (Decimal.sign cs).2 ≠ [] ∧ Digits (Decimal.sign cs).2 := by
      simpa [power?, Digits] using h
    exact ⟨sign, _, hsign, hds.1, hds.2, hcs⟩
  · rintro ⟨sign, ds, hsign, hne, hds, rfl⟩
    have hbegins : BeginsMantissa ds := by simpa using hds.begins hne []
    have hread : (Decimal.sign (sign ++ ds)).2 = ds :=
      sign_append hsign (ne_signs_of_begins hbegins)
    have hall : ds.all Char.isDigit = true := List.all_eq_true.2 hds
    simp [power?, hread, hne, hall]

theorem isSome_exponent?_iff : (exponent? cs).isSome ↔ PowerText cs := by
  cases cs with
  | nil => simp [exponent?, PowerText.absent]
  | cons c cs =>
      by_cases hc : c = 'e' ∨ c = 'E'
      · rw [exponent?, if_pos hc, isSome_power?_iff]
        constructor
        · rintro ⟨sign, ds, hsign, hne, hds, rfl⟩
          exact .written hc hsign hne hds
        · intro h
          cases h with
          | written _ hsign hne hds => exact ⟨_, _, hsign, hne, hds, rfl⟩
      · rw [exponent?, if_neg hc]
        constructor
        · intro h
          simp at h
        · intro h
          cases h with
          | written he _ _ _ => exact absurd he hc

theorem digits_takeWhile (cs : List Char) : Digits (cs.takeWhile Char.isDigit) :=
  fun _ hc => List.mem_takeWhile_imp hc

/-- The digits behind the point, if there is one, with the digits before it. -/
theorem mantissa_of_pointed (hds : Digits ds)
    (hne : ¬ (ds = [] ∧ (pointed rest).1 = [])) :
    ∃ mantissa, Mantissa mantissa ∧ ds ++ rest = mantissa ++ (pointed rest).2 := by
  unfold pointed at hne ⊢
  split
  · next fs =>
      -- the digits behind the point, and what follows them
      have hfs := digits_takeWhile fs
      have hsplit : fs.takeWhile Char.isDigit ++ fs.dropWhile Char.isDigit = fs :=
        List.takeWhile_append_dropWhile
      by_cases hnil : ds = []
      · subst hnil
        refine ⟨'.' :: fs.takeWhile Char.isDigit, .fraction (by simpa using hne) hfs, ?_⟩
        simp [hsplit]
      · exact ⟨ds ++ '.' :: fs.takeWhile Char.isDigit, .pointed hnil hds hfs, by simp [hsplit]⟩
  · exact ⟨ds, .whole (by simpa using hne) hds, rfl⟩

/-- The digits of a mantissa are told from what follows it. -/
theorem pointed_of_mantissa (h : Mantissa mantissa) (hrest : PowerText rest) :
    (pointed ((mantissa ++ rest).dropWhile Char.isDigit)).2 = rest ∧
      ¬ ((mantissa ++ rest).takeWhile Char.isDigit = [] ∧
        (pointed ((mantissa ++ rest).dropWhile Char.isDigit)).1 = []) := by
  have hstops := hrest.stops
  cases h with
  | whole hne hds =>
      rw [dropWhile_append_stops hds hstops, takeWhile_append_stops hds hstops]
      refine ⟨?_, fun hnil => hne hnil.1⟩
      cases hrest with
      | absent => rfl
      | written he _ _ _ => rcases he with rfl | rfl <;> rfl
  | @pointed ds fs hne hds hfs =>
      have hpoint : Stops Char.isDigit ('.' :: (fs ++ rest)) := by simp [Char.isDigit]
      rw [List.append_assoc, List.cons_append, dropWhile_append_stops hds hpoint,
        takeWhile_append_stops hds hpoint]
      exact ⟨dropWhile_append_stops hfs hstops, fun hnil => hne hnil.1⟩
  | @fraction fs hne hfs =>
      have hpoint : Stops Char.isDigit ('.' :: (fs ++ rest)) := by simp [Char.isDigit]
      rw [List.cons_append, dropWhile_of_stops hpoint, takeWhile_of_stops hpoint]
      refine ⟨dropWhile_append_stops hfs hstops, fun hnil => hne ?_⟩
      rw [← takeWhile_append_stops hfs hstops]
      exact hnil.2

/-- **Reading succeeds on the grammar and nowhere else.** -/
theorem isSome_read?_iff : (read? cs).isSome ↔ NumeralText cs := by
  constructor
  · intro h
    obtain ⟨sign, hsign, hcs⟩ := exists_sign cs
    simp only [read?] at h
    split at h
    · simp at h
    next hne =>
      rw [Option.isSome_map, isSome_exponent?_iff] at h
      obtain ⟨mantissa, hmantissa, hsplit⟩ := mantissa_of_pointed (digits_takeWhile _) hne
      rw [List.takeWhile_append_dropWhile] at hsplit
      exact ⟨sign, mantissa, _, hsign, hmantissa, h, by rw [← hsplit]; exact hcs⟩
  · rintro ⟨sign, mantissa, power, hsign, hmantissa, hpower, rfl⟩
    have hread := sign_append hsign (ne_signs_of_begins (hmantissa.begins power))
    obtain ⟨hrest, hne⟩ := pointed_of_mantissa hmantissa hpower
    simp only [read?, hread]
    rw [if_neg hne, Option.isSome_map, hrest, isSome_exponent?_iff]
    exact hpower

end Decimal

/-! ### Characters -/

theorem isNumberChar_of_isDigit {c : Char} (h : c.isDigit = true) : Json.isNumberChar c = true := by
  simp [Json.isNumberChar, h]

theorem SignText.isNumberChar (h : SignText sign) : ∀ c ∈ sign, Json.isNumberChar c = true := by
  rw [← List.all_eq_true]
  cases h <;> decide

theorem Mantissa.isNumberChar (h : Mantissa mantissa) :
    ∀ c ∈ mantissa, Json.isNumberChar c = true := by
  have hpoint : Json.isNumberChar '.' = true := by decide
  intro c hc
  cases h with
  | whole _ hds => exact isNumberChar_of_isDigit (hds c hc)
  | pointed _ hds hfs =>
      rcases List.mem_append.1 hc with hc | hc
      · exact isNumberChar_of_isDigit (hds c hc)
      · rcases List.mem_cons.1 hc with rfl | hc
        · exact hpoint
        · exact isNumberChar_of_isDigit (hfs c hc)
  | fraction _ hfs =>
      rcases List.mem_cons.1 hc with rfl | hc
      · exact hpoint
      · exact isNumberChar_of_isDigit (hfs c hc)

theorem PowerText.isNumberChar (h : PowerText power) : ∀ c ∈ power, Json.isNumberChar c = true := by
  intro c hc
  cases h with
  | absent => cases hc
  | written he hsign _ hds =>
      rcases List.mem_cons.1 hc with rfl | hc
      · rcases he with rfl | rfl <;> decide
      · rcases List.mem_append.1 hc with hc | hc
        · exact hsign.isNumberChar c hc
        · exact isNumberChar_of_isDigit (hds c hc)

/-- Numerals are written with digits, signs, points and the letter for the power of ten. -/
theorem NumeralText.isNumberChar (h : NumeralText cs) : ∀ c ∈ cs, Json.isNumberChar c = true := by
  obtain ⟨sign, mantissa, power, hsign, hmantissa, hpower, rfl⟩ := h
  intro c hc
  rcases List.mem_append.1 hc with hc | hc
  · exact hsign.isNumberChar c hc
  · rcases List.mem_append.1 hc with hc | hc
    · exact hmantissa.isNumberChar c hc
    · exact hpower.isNumberChar c hc

theorem NumeralText.ne_nil (h : NumeralText cs) : cs ≠ [] := by
  obtain ⟨sign, mantissa, power, -, hmantissa, -, rfl⟩ := h
  obtain ⟨c, rest, heq, -⟩ := hmantissa.begins power
  simp [heq]

theorem not_isBlank_of_isNumberChar {c : Char} (h : Json.isNumberChar c = true) :
    isBlank c = false := by
  by_contra hblank
  have hmem : c ∈ blanks := by simpa [isBlank] using hblank
  have hnone : (blanks.all fun b => !Json.isNumberChar b) = true := by decide
  simpa [h] using List.all_eq_true.1 hnone c hmem

theorem toLower_ne_of_isNumberChar {c : Char} (h : Json.isNumberChar c = true) :
    c.toLower ≠ 'n' := by
  intro hn
  have hc : c = 'n' ∨ c = 'N' := by
    unfold Char.toLower at hn
    split at hn
    · have hsum : c.val + 32 = 110 := congrArg Char.val hn
      have hval : c.val = 78 := by grind
      exact .inr (Char.ext hval)
    · exact .inl hn
  rcases hc with rfl | rfl <;> simp [Json.isNumberChar, Char.isDigit] at h

/-! ### Words -/

variable {word : List Char}

theorem DoubleWord.map_toLower (h : DoubleWord word) :
    'n' ∈ word.map Char.toLower ∧ ∀ c ∈ word.map Char.toLower, c ≠ '-' ∧ c ≠ '+' := by
  have hlower : word.map Char.toLower = (lower (String.ofList word)).toList := by simp
  have hletters : ["inf", "infinity", "nan"].all (fun s => s.toList.contains 'n' &&
      s.toList.all fun c => c != '-' && c != '+') = true := by decide
  have hword := List.all_eq_true.1 hletters _ h
  rw [← hlower, Bool.and_eq_true, List.contains_iff_mem, List.all_eq_true] at hword
  simpa only [Bool.and_eq_true, bne_iff_ne] using hword

/-- Every word for infinity, and for what is not a number, has a letter that numerals lack. -/
theorem DoubleWord.exists_foreign (h : DoubleWord word) :
    ∃ c ∈ word, Json.isNumberChar c = false := by
  obtain ⟨c, hc, hn⟩ := List.mem_map.1 h.map_toLower.1
  refine ⟨c, hc, ?_⟩
  cases hchar : Json.isNumberChar c with
  | false => rfl
  | true => exact absurd hn (toLower_ne_of_isNumberChar hchar)

theorem DoubleWord.ne_signs (h : DoubleWord word) : ∀ c ∈ word.head?, c ≠ '-' ∧ c ≠ '+' := by
  intro c hc
  have hne := h.map_toLower.2 c.toLower (List.mem_map_of_mem (List.mem_of_mem_head? hc))
  constructor <;> rintro rfl
  · exact hne.1 rfl
  · exact hne.2 rfl

/-- **What a reader of doubles accepts**: numerals, and the words behind a sign or none. -/
theorem isSome_double?_iff :
    (Logging.Expected.double? cs).isSome ↔
      NumeralText cs ∨ ∃ sign word, SignText sign ∧ DoubleWord word ∧ cs = sign ++ word := by
  unfold Logging.Expected.double?
  split
  · next n hread =>
      have hnumeral : NumeralText cs := Decimal.isSome_read?_iff.1 (by simp [hread])
      simp [hnumeral]
  · next hread =>
      have hnumeral : ¬ NumeralText cs := fun h => by
        simpa [hread] using Decimal.isSome_read?_iff.2 h
      have hword : (∃ sign word, SignText sign ∧ DoubleWord word ∧ cs = sign ++ word) ↔
          DoubleWord (Decimal.sign cs).2 := by
        constructor
        · rintro ⟨sign, word, hsign, hword, rfl⟩
          rwa [Decimal.sign_append hsign hword.ne_signs]
        · intro hword
          obtain ⟨sign, hsign, hcs⟩ := Decimal.exists_sign cs
          exact ⟨sign, _, hsign, hword, hcs⟩
      rw [hword]
      simp only [hnumeral, false_or, DoubleWord, List.mem_cons, List.not_mem_nil, or_false]
      split
      · next hinf => simpa using hinf.imp_right Or.inl
      · next hinf =>
          rw [not_or] at hinf
          split
          · next hnan => simp [hnan]
          · next hnan => simp [hinf, hnan]

/-! ### White space around numerals -/

theorem trimWhere_of_stops (h : Stops p cs) (hlast : Stops p cs.reverse) : trimWhere p cs = cs := by
  rw [trimWhere, dropWhile_of_stops h, dropWhile_of_stops hlast, List.reverse_reverse]

/-- Nothing is trimmed from a numeral. -/
theorem NumeralText.trimWhere_eq (h : NumeralText cs) : trimWhere isBlank cs = cs := by
  have hchar : ∀ c ∈ cs, isBlank c = false := fun c hc =>
    not_isBlank_of_isNumberChar (h.isNumberChar c hc)
  refine trimWhere_of_stops (fun c hc => ?_) fun c hc => ?_
  · exact hchar c (List.mem_of_mem_head? hc)
  · exact hchar c (List.mem_reverse.1 (List.mem_of_mem_head? hc))

theorem numeralText_trim_iff {s : String} :
    NumeralText (trim s).toList ↔
      ∃ before body after, s.toList = before ++ (body ++ after) ∧
        (∀ c ∈ before ++ after, isBlank c = true) ∧ NumeralText body := by
  rw [toList_trim]
  constructor
  · intro h
    obtain ⟨before, after, hblank, hcs⟩ := exists_trimWhere isBlank s.toList
    exact ⟨before, _, after, hcs, hblank, h⟩
  · rintro ⟨before, body, after, hcs, hblank, hbody⟩
    rw [List.forall_mem_append] at hblank
    rwa [hcs, trimWhere_append hblank.1 hblank.2, hbody.trimWhere_eq]

/-- A numeral is written with blanks, digits, signs, points and the letter for the power of ten. -/
theorem isBlank_or_of_numeralText_trim {s : String} (h : NumeralText (trim s).toList) :
    ∀ c ∈ s.toList, isBlank c = true ∨ Json.isNumberChar c = true := by
  obtain ⟨before, body, after, hcs, hblank, hbody⟩ := numeralText_trim_iff.1 h
  rw [List.forall_mem_append] at hblank
  intro c hc
  rw [hcs, List.mem_append, List.mem_append] at hc
  rcases hc with hc | hc | hc
  · exact .inl (hblank.1 c hc)
  · exact .inr (hbody.isNumberChar c hc)
  · exact .inl (hblank.2 c hc)

/-- **The numerals.**  A string is a numeral if what is left of it without the white space around it
follows the grammar, whatever the size of its power of ten; or, told in the other way, if that is
not empty, has no character besides digits, signs, points and the letter for the power of ten, and
is accepted by a reader of doubles.  Neither a word for infinity or for what is not a number, nor a
text with any other character than those and blanks in it, is a numeral. -/
theorem isNumeral_iff (s : String) :
    (isNumeral s = true ↔ NumeralText (trim s).toList) ∧
      (isNumeral s = true ↔
        ∃ before body after, s.toList = before ++ (body ++ after) ∧
          (∀ c ∈ before ++ after, isBlank c = true) ∧ NumeralText body) ∧
      (isNumeral s = true ↔
        trim s ≠ "" ∧ (∀ c ∈ (trim s).toList, c.isDigit ∨ c ∈ ['+', '-', '.', 'e', 'E']) ∧
          (Logging.Expected.double? (trim s).toList).isSome) ∧
      (∀ c ∈ s.toList, ¬ (isBlank c ∨ c.isDigit ∨ c ∈ ['+', '-', '.', 'e', 'E']) →
        isNumeral s = false) ∧
      ∀ sign word, SignText sign → DoubleWord word → (trim s).toList = sign ++ word →
        isNumeral s = false := by
  have hchar : ∀ c, Json.isNumberChar c = true ↔ c.isDigit ∨ c ∈ ['+', '-', '.', 'e', 'E'] := by
    intro c
    simp only [Json.isNumberChar, Bool.or_eq_true, decide_eq_true_eq, List.mem_cons,
      List.not_mem_nil, or_false, or_assoc]
    rw [or_left_comm (a := c = '-')]
  have hread : isNumeral s = true ↔ NumeralText (trim s).toList := by
    rw [toList_trim, ← Decimal.isSome_read?_iff, isNumeral]
  have hforeign : ∀ {sign word}, DoubleWord word → (trim s).toList = sign ++ word →
      ∃ c ∈ (trim s).toList, ¬ Json.isNumberChar c = true := by
    intro sign word hword hs
    obtain ⟨c, hc, hnot⟩ := hword.exists_foreign
    exact ⟨c, hs ▸ List.mem_append_right sign hc, by simp [hnot]⟩
  simp only [← hchar]
  refine ⟨hread, hread.trans numeralText_trim_iff, hread.trans ⟨fun h => ?_, fun h => ?_⟩, ?_, ?_⟩
  · refine ⟨fun hnil => h.ne_nil (by simp [hnil]), h.isNumberChar, ?_⟩
    exact isSome_double?_iff.2 (.inl h)
  · obtain ⟨-, hall, hdouble⟩ := h
    rcases isSome_double?_iff.1 hdouble with h | ⟨sign, word, -, hword, hs⟩
    · exact h
    · obtain ⟨c, hc, hnot⟩ := hforeign hword hs
      exact absurd (hall c hc) hnot
  · intro c hc hnot
    rw [← Bool.not_eq_true, hread]
    exact fun h => hnot (isBlank_or_of_numeralText_trim h c hc)
  · intro sign word _ hword hs
    rw [← Bool.not_eq_true, hread]
    intro h
    obtain ⟨c, hc, hnot⟩ := hforeign hword hs
    exact hnot (h.isNumberChar c hc)

example : isNumeral " +.5E-4000\u00a0" = true := by decide

example : isNumeral "1_000" = false := by decide

end ApiContract.Text
