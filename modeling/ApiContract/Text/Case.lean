/-
Letter case, for the ASCII letters only: method names, tokens and file extensions are compared
without regard to it, and every other character stands for itself.
-/

set_option autoImplicit false

namespace ApiContract.Text

/-- The string with `A` to `Z` replaced by `a` to `z`. -/
def lower (s : String) : String := s.map Char.toLower

/-- The string with `a` to `z` replaced by `A` to `Z`. -/
def upper (s : String) : String := s.map Char.toUpper

@[simp] theorem toList_lower (s : String) : (lower s).toList = s.toList.map Char.toLower := by
  simp [lower]

@[simp] theorem toList_upper (s : String) : (upper s).toList = s.toList.map Char.toUpper := by
  simp [upper]

/-! ### From one case to the other -/

/-- The code points of a letter in both cases are 32 apart. -/
theorem toNat_toLower (c : Char) :
    c.toLower.toNat = if 65 ≤ c.toNat ∧ c.toNat ≤ 90 then c.toNat + 32 else c.toNat := by
  unfold Char.toLower
  split
  · next h =>
      have hlow : 65 ≤ c.toNat := h.1
      have hhigh : c.toNat ≤ 90 := h.2
      have hadd : (c.val + 32).toNat = (c.toNat + 32) % 2 ^ 32 := UInt32.toNat_add ..
      rw [if_pos ⟨hlow, hhigh⟩, ← Char.toNat_val]
      change (c.val + 32).toNat = _
      omega
  · next h => exact (if_neg h).symm

theorem toNat_toUpper (c : Char) :
    c.toUpper.toNat = if 97 ≤ c.toNat ∧ c.toNat ≤ 122 then c.toNat - 32 else c.toNat := by
  unfold Char.toUpper
  split
  · next h =>
      have hlow : 97 ≤ c.toNat := h.1
      have hhigh : c.toNat ≤ 122 := h.2
      -- 32 is taken away by adding its complement
      have hadd : (c.val + (65 - 97)).toNat = (c.toNat + (2 ^ 32 - 32)) % 2 ^ 32 :=
        UInt32.toNat_add ..
      rw [if_pos ⟨hlow, hhigh⟩, ← Char.toNat_val]
      change (c.val + (65 - 97)).toNat = _
      omega
  · next h => exact (if_neg h).symm

theorem lower_upper (s : String) : lower (upper s) = lower s := by
  have hletter (c : Char) : c.toUpper.toLower = c.toLower := by
    apply Char.toNat_inj.1
    rw [toNat_toLower, toNat_toLower, toNat_toUpper]
    grind
  apply String.toList_injective
  simp [Function.comp_def, hletter]

theorem upper_lower (s : String) : upper (lower s) = upper s := by
  have hletter (c : Char) : c.toLower.toUpper = c.toUpper := by
    apply Char.toNat_inj.1
    rw [toNat_toUpper, toNat_toUpper, toNat_toLower]
    grind
  apply String.toList_injective
  simp [Function.comp_def, hletter]

/-- Whether two strings are equal up to the case of ASCII letters. -/
def eqIgnoringCase (s t : String) : Bool := lower s = lower t

end ApiContract.Text
