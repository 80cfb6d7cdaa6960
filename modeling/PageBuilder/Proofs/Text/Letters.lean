import Mathlib.Data.Bool.AllAny
/-! Letters and digits of ASCII by their code points, and what becomes of them in upper and in
lower case. -/
namespace PageBuilder.Text

section Classes

variable {c : Char}

theorem isUpper_iff : c.isUpper = true ↔ 65 ≤ c.toNat ∧ c.toNat ≤ 90 := by
  delta Char.isUpper
  simp [UInt32.le_iff_toNat_le, ← Char.toNat_val]

theorem isLower_iff : c.isLower = true ↔ 97 ≤ c.toNat ∧ c.toNat ≤ 122 := by
  delta Char.isLower
  simp [UInt32.le_iff_toNat_le, ← Char.toNat_val]

theorem isDigit_iff : c.isDigit = true ↔ 48 ≤ c.toNat ∧ c.toNat ≤ 57 := by
  simp [Char.isDigit, UInt32.le_iff_toNat_le, ← Char.toNat_val]

theorem isAlpha_iff : c.isAlpha = true ↔ c.isUpper = true ∨ c.isLower = true :=
  Bool.or_eq_true_iff

theorem isUpper_eq_not_isLower (h : c.isAlpha = true) : c.isUpper = !c.isLower := by
  rw [isAlpha_iff, isUpper_iff, isLower_iff] at h
  rw [Bool.eq_iff_iff, Bool.not_eq_true', Bool.eq_false_iff, ne_eq, isUpper_iff, isLower_iff]
  omega

theorem isDigit_eq_false_of_isAlpha (h : c.isAlpha = true) : c.isDigit = false := by
  rw [isAlpha_iff, isUpper_iff, isLower_iff] at h
  rw [Bool.eq_false_iff, ne_eq, isDigit_iff]
  omega

theorem toNat_le_of_isAlphanum (h : c.isAlphanum = true) : c.toNat ≤ 122 := by
  rw [Char.isAlphanum, Bool.or_eq_true, isAlpha_iff, isUpper_iff, isLower_iff, isDigit_iff] at h
  omega

end Classes

/-! ### Upper case -/

theorem isUpper_toUpper {c : Char} (h : c.isLower = true) : c.toUpper.isUpper = true := by
  obtain ⟨low, high⟩ := Bool.and_eq_true_iff.mp h
  have range : 'a'.val ≤ c.val ∧ c.val ≤ 'z'.val := ⟨of_decide_eq_true low, of_decide_eq_true high⟩
  have value : c.toUpper.val = c.val + ('A'.val - 'a'.val) := by
    delta Char.toUpper
    rw [dif_pos range]
  refine decide_eq_true ?_
  rw [value]
  simp only [ge_iff_le, UInt32.le_iff_toNat_le, UInt32.toNat_add] at range ⊢
  have first : 'a'.val.toNat = 97 := rfl
  have last : 'z'.val.toNat = 122 := rfl
  have up : 'A'.val.toNat = 65 := rfl
  have top : 'Z'.val.toNat = 90 := rfl
  have offset : ('A'.val - 'a'.val).toNat = 2 ^ 32 - 32 := rfl
  omega

theorem toUpper_of_not_isLower {c : Char} (h : c.isLower = false) : c.toUpper = c := by
  refine dif_neg fun range => ?_
  have lower : c.isLower = true :=
    Bool.and_eq_true_iff.mpr ⟨decide_eq_true range.1, decide_eq_true range.2⟩
  rw [h] at lower
  cases lower

theorem isAlphanum_toUpper {c : Char} (h : c.isAlphanum = true) : c.toUpper.isAlphanum = true := by
  cases lower : c.isLower with
  | true =>
    change ((c.toUpper.isUpper || c.toUpper.isLower) || c.toUpper.isDigit) = true
    rw [isUpper_toUpper lower, Bool.true_or, Bool.true_or]
  | false => rwa [toUpper_of_not_isLower lower]

theorem isUpper_toUpper_of_isAlpha {c : Char} (h : c.isAlpha = true) :
    c.toUpper.isUpper = true := by
  cases lower : c.isLower with
  | true => exact isUpper_toUpper lower
  | false => rw [toUpper_of_not_isLower lower, isUpper_eq_not_isLower h, lower, Bool.not_false]

/-! ### Lower case -/

/-- The characters that letters and digits are in lower case. -/
def lowerAlphabet : List Char :=
  "abcdefghijklmnopqrstuvwxyz0123456789".toList

theorem isAlphanum_of_mem_lowerAlphabet : ∀ c ∈ lowerAlphabet, c.isAlphanum = true :=
  List.all_iff_forall_prop.mp (by decide)

theorem toLower_of_mem_lowerAlphabet : ∀ c ∈ lowerAlphabet, c.toLower = c :=
  List.all_iff_forall_prop.mp (by decide)

theorem toLower_mem_lowerAlphabet {c : Char} (h : c.isAlphanum = true) :
    c.toLower ∈ lowerAlphabet := by
  have all : ∀ n < 123, (Char.ofNat n).isAlphanum = true →
      (Char.ofNat n).toLower ∈ lowerAlphabet := by decide
  have low : c.toNat < 123 := Nat.lt_succ_of_le (toNat_le_of_isAlphanum h)
  have same := all c.toNat low
  rw [Char.ofNat_toNat] at same
  exact same h

end PageBuilder.Text
