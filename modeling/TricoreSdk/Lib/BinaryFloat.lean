import Mathlib.Data.Nat.Log
import Mathlib.Tactic.Ring

/-! Binary floating-point numbers by the fields of their words: the magnitude as a multiple of
the least positive number, and the conversion to a format of a longer fraction and a wider range
of exponents, which is exact. -/

namespace BinaryFloat

structure Fields where
  negative : Bool
  exponent : Nat
  fraction : Nat
  deriving DecidableEq

theorem log2_mul_pow {n : Nat} (h : n ≠ 0) (k : Nat) : Nat.log2 (n * 2 ^ k) = Nat.log2 n + k := by
  have positive : n * 2 ^ k ≠ 0 := Nat.mul_ne_zero h (Nat.two_pow_pos k).ne'
  refine (Nat.log2_eq_iff positive).mpr ⟨?_, ?_⟩
  · rw [Nat.pow_add]
    exact Nat.mul_le_mul_right _ (Nat.log2_self_le h)
  · rw [show Nat.log2 n + k + 1 = Nat.log2 n + 1 + k by omega, Nat.pow_add]
    exact Nat.mul_lt_mul_of_pos_right Nat.lt_log2_self (Nat.two_pow_pos k)

theorem log2_significand {width fraction : Nat} (fits : fraction < 2 ^ width) :
    Nat.log2 (2 ^ width + fraction) = width := by
  have positive := Nat.two_pow_pos width
  refine (Nat.log2_eq_iff (by omega)).mpr ⟨Nat.le_add_right _ _, ?_⟩
  rw [Nat.pow_succ]
  omega

namespace Fields

/-- A fraction of this many bits. -/
def Fits (width : Nat) (n : Fields) : Prop := n.fraction < 2 ^ width

/-- The magnitude, in units of the least positive number of a format. -/
def units (width : Nat) (n : Fields) : Nat :=
  if n.exponent = 0 then n.fraction else (2 ^ width + n.fraction) * 2 ^ (n.exponent - 1)

variable {width : Nat} {m n : Fields}

theorem units_lt (fits : n.Fits width) : n.units width < 2 ^ (width + n.exponent) := by
  unfold Fits at fits
  unfold units
  split
  · rename_i zero
    rw [zero, Nat.add_zero]
    exact fits
  · obtain ⟨e, he⟩ := Nat.exists_eq_succ_of_ne_zero ‹n.exponent ≠ 0›
    rw [he, Nat.succ_sub_one]
    calc (2 ^ width + n.fraction) * 2 ^ e < (2 ^ width + 2 ^ width) * 2 ^ e :=
          Nat.mul_lt_mul_of_pos_right (by omega) (Nat.two_pow_pos e)
      _ = 2 ^ (width + (e + 1)) := by ring

theorem le_units (normal : n.exponent ≠ 0) : 2 ^ (width + n.exponent) ≤ 2 * n.units width := by
  obtain ⟨e, he⟩ := Nat.exists_eq_succ_of_ne_zero normal
  rw [units, if_neg normal, he, Nat.succ_sub_one]
  calc 2 ^ (width + (e + 1)) = 2 * (2 ^ width * 2 ^ e) := by ring
    _ ≤ 2 * ((2 ^ width + n.fraction) * 2 ^ e) :=
      Nat.mul_le_mul_left 2 (Nat.mul_le_mul_right _ (Nat.le_add_right _ _))

theorem units_lt_of_exponent_lt (fits : m.Fits width) (h : m.exponent < n.exponent) :
    m.units width < n.units width := by
  have below := units_lt fits
  have above : 2 ^ (width + n.exponent) ≤ 2 * n.units width := le_units (by omega)
  have step : 2 ^ (width + m.exponent + 1) ≤ 2 ^ (width + n.exponent) :=
    Nat.pow_le_pow_right (by decide) (by omega)
  rw [Nat.pow_succ] at step
  omega

theorem eq_of_units (fitsM : m.Fits width) (fitsN : n.Fits width)
    (sign : m.negative = n.negative) (magnitude : m.units width = n.units width) : m = n := by
  have exponent : m.exponent = n.exponent := by
    rcases Nat.lt_trichotomy m.exponent n.exponent with less | same | more
    · have := units_lt_of_exponent_lt fitsM less
      omega
    · exact same
    · have := units_lt_of_exponent_lt fitsN more
      omega
  have fraction : m.fraction = n.fraction := by
    unfold units at magnitude
    rw [exponent] at magnitude
    split at magnitude
    · exact magnitude
    · have := Nat.eq_of_mul_eq_mul_right (Nat.two_pow_pos _) magnitude
      omega
  cases m
  cases n
  cases sign
  cases exponent
  cases fraction
  rfl

/-- The same number in a format with a fraction of `width'` bits, whose exponents lie `shift`
further down; a number without a leading bit gets one. -/
def widen (width width' shift : Nat) (n : Fields) : Fields :=
  if n.exponent ≠ 0 then ⟨n.negative, n.exponent + shift, n.fraction * 2 ^ (width' - width)⟩
  else if n.fraction ≠ 0 then
    let leading := Nat.log2 n.fraction
    ⟨n.negative, shift + 1 + leading - width, (n.fraction - 2 ^ leading) * 2 ^ (width' - leading)⟩
  else n

variable {width' shift : Nat}

theorem widen_negative : (n.widen width width' shift).negative = n.negative := by
  unfold widen
  split_ifs <;> rfl

theorem widen_exponent_le (fits : n.Fits width) (longer : width ≤ shift) :
    (n.widen width width' shift).exponent ≤ n.exponent + shift := by
  unfold widen
  split_ifs with normal subnormal
  · exact Nat.le_refl _
  · have : Nat.log2 n.fraction < width := (Nat.log2_lt subnormal).mpr fits
    dsimp only
    omega
  · exact Nat.le_add_right _ _

theorem widen_fits (fits : n.Fits width) (longer : width ≤ width') :
    (n.widen width width' shift).Fits width' := by
  unfold Fits at *
  unfold widen
  split_ifs with normal subnormal
  · calc n.fraction * 2 ^ (width' - width) < 2 ^ width * 2 ^ (width' - width) :=
          Nat.mul_lt_mul_of_pos_right fits (Nat.two_pow_pos _)
      _ = 2 ^ width' := by rw [← Nat.pow_add, Nat.add_sub_cancel' longer]
  · have leads : Nat.log2 n.fraction < width := (Nat.log2_lt subnormal).mpr fits
    have below : n.fraction < 2 ^ (Nat.log2 n.fraction + 1) := Nat.lt_log2_self
    rw [Nat.pow_succ] at below
    calc (n.fraction - 2 ^ Nat.log2 n.fraction) * 2 ^ (width' - Nat.log2 n.fraction)
        < 2 ^ Nat.log2 n.fraction * 2 ^ (width' - Nat.log2 n.fraction) :=
          Nat.mul_lt_mul_of_pos_right (by omega) (Nat.two_pow_pos _)
      _ = 2 ^ width' := by rw [← Nat.pow_add, Nat.add_sub_cancel' (by omega)]
  · exact Nat.lt_of_lt_of_le fits (Nat.pow_le_pow_right (by decide) longer)

theorem units_widen (fits : n.Fits width) (longer : width ≤ width') (further : width ≤ shift) :
    (n.widen width width' shift).units width' = n.units width * 2 ^ (width' - width + shift) := by
  obtain ⟨extra, rfl⟩ := Nat.exists_eq_add_of_le longer
  rw [Nat.add_sub_cancel_left]
  unfold widen
  split_ifs with normal subnormal
  · obtain ⟨e, he⟩ := Nat.exists_eq_succ_of_ne_zero normal
    simp only [units, he, Nat.add_sub_cancel_left]
    rw [if_neg (by omega), if_neg (by omega), show e.succ + shift - 1 = e + shift by omega,
      Nat.succ_sub_one]
    ring
  · have leads : Nat.log2 n.fraction < width := (Nat.log2_lt subnormal).mpr fits
    obtain ⟨rest, held⟩ := Nat.exists_eq_add_of_le (Nat.log2_self_le subnormal)
    dsimp only
    generalize Nat.log2 n.fraction = leading at *
    obtain ⟨k, hk⟩ := Nat.exists_eq_add_of_le (show leading ≤ width + extra by omega)
    obtain ⟨s, rfl⟩ := Nat.exists_eq_add_of_le further
    simp only [units, held, Nat.add_sub_cancel_left]
    rw [if_neg (by omega), if_pos (not_not.mp normal),
      show width + s + 1 + leading - width - 1 = s + leading by omega,
      show extra + (width + s) = k + leading + s by omega, hk, Nat.add_sub_cancel_left]
    ring
  · simp [units, not_not.mp normal, not_not.mp subnormal]

end Fields

end BinaryFloat
