import Mathlib.Tactic.Common

/-! Quantities rounded down to whole units and cut off at a ceiling, as when a duration is
written as a number of milliseconds of some width. -/

namespace Units

/-- `n` in whole units, `ceiling` of them at most. -/
def inUnits (unit ceiling n : Nat) : Nat := min (n / unit) ceiling

variable {unit ceiling m n : Nat}

theorem inUnits_le (unit ceiling n : Nat) : inUnits unit ceiling n ≤ ceiling := Nat.min_le_right _ _

theorem inUnits_mono (unit ceiling : Nat) (h : m ≤ n) :
    inUnits unit ceiling m ≤ inUnits unit ceiling n := by
  have whole : m / unit ≤ n / unit := Nat.div_le_div_right h
  unfold inUnits
  omega

theorem inUnits_near (pos : 0 < unit) (below : inUnits unit ceiling n ≠ ceiling) :
    inUnits unit ceiling n * unit ≤ n ∧ n < (inUnits unit ceiling n + 1) * unit := by
  have exact : inUnits unit ceiling n = n / unit := by
    unfold inUnits at below ⊢
    omega
  rw [exact]
  exact ⟨Nat.div_mul_le_self n unit, Nat.lt_mul_of_div_lt (Nat.lt_succ_self _) pos⟩

theorem inUnits_eq_ceiling_iff (pos : 0 < unit) :
    inUnits unit ceiling n = ceiling ↔ ceiling * unit ≤ n := by
  rw [inUnits, ← Nat.le_div_iff_mul_le pos]
  omega

theorem inUnits_pos_iff (pos : 0 < unit) (some : 0 < ceiling) :
    0 < inUnits unit ceiling n ↔ unit ≤ n := by
  rw [inUnits, Nat.lt_min, Nat.div_pos_iff]
  exact ⟨fun h => h.1.2, fun h => ⟨⟨pos, h⟩, some⟩⟩

end Units
