import Mathlib.Data.Nat.Digits.Defs
import Mathlib.Tactic.Ring

/-! Numerals written one after the other with nothing between them, in a base up to 16:
when two pairs of numbers read the same. -/

namespace Numerals

def width (base n : Nat) : Nat := (Nat.toDigits base n).length

theorem width_pos (base n : Nat) : 0 < width base n := Nat.length_toDigits_pos

theorem digitChar_inj {d e : Nat} (hd : d < 16) (he : e < 16) (h : d.digitChar = e.digitChar) : d = e := by
  have all : ∀ d e : Fin 16, d.val.digitChar = e.val.digitChar → d = e := by decide
  exact congrArg Fin.val (all ⟨d, hd⟩ ⟨e, he⟩ h)

section

variable {base : Nat} (big : 1 < base)

include big

theorem toDigits_digit {n d : Nat} (hn : 0 < n) (hd : d < base) :
    Nat.toDigits base (base * n + d) = Nat.toDigits base n ++ [d.digitChar] := by
  rw [← Nat.toDigits_append_toDigits big hn hd, Nat.toDigits_of_lt_base hd]

theorem width_digit {n d : Nat} (hn : 0 < n) (hd : d < base) :
    width base (base * n + d) = width base n + 1 := by
  simp [width, toDigits_digit big hn hd]

theorem mem_toDigits {n : Nat} {c : Char} (h : c ∈ Nat.toDigits base n) :
    ∃ d < base, c = d.digitChar := by
  induction n using Nat.base_induction base big with
  | single d hd =>
    rw [Nat.toDigits_of_lt_base hd] at h
    exact ⟨d, hd, List.mem_singleton.mp h⟩
  | digit n d hd hn ih =>
    rw [toDigits_digit big hn hd] at h
    rcases List.mem_append.mp h with h | h
    · exact ih h
    · exact ⟨d, hd, List.mem_singleton.mp h⟩

theorem toDigits_append {n : Nat} (hn : 0 < n) (m : Nat) :
    Nat.toDigits base n ++ Nat.toDigits base m = Nat.toDigits base (n * base ^ width base m + m) := by
  induction m using Nat.base_induction base big with
  | single d hd =>
    have one : width base d = 1 := by simp [width, Nat.toDigits_of_lt_base hd]
    rw [one, Nat.pow_one, Nat.mul_comm, toDigits_digit big hn hd, Nat.toDigits_of_lt_base hd]
  | digit m d hd hm ih =>
    have split : n * base ^ width base (base * m + d) + (base * m + d) =
        base * (n * base ^ width base m + m) + d := by
      rw [width_digit big hm hd, Nat.pow_succ]
      ring
    rw [split, toDigits_digit big (Nat.lt_of_lt_of_le hm (Nat.le_add_left ..)) hd,
      toDigits_digit big hm hd, ← ih, List.append_assoc]

theorem width_append {n : Nat} (hn : 0 < n) (m : Nat) :
    width base (n * base ^ width base m + m) = width base n + width base m := by
  rw [width, ← toDigits_append big hn m, List.length_append]
  rfl

variable (small : base ≤ 16)

include small

theorem minus_not_mem_toDigits (n : Nat) : '-' ∉ Nat.toDigits base n := by
  intro h
  obtain ⟨d, hd, hc⟩ := mem_toDigits big h
  have none_ : ∀ d : Fin 16, '-' ≠ d.val.digitChar := by decide
  exact none_ ⟨d, Nat.lt_of_lt_of_le hd small⟩ hc

theorem toDigits_inj {n m : Nat} : Nat.toDigits base n = Nat.toDigits base m ↔ n = m := by
  refine ⟨fun h => ?_, fun h => h ▸ rfl⟩
  have positive {n d m : Nat} (hn : 0 < n) (hd : d < base) (hm : m < base) :
      Nat.toDigits base (base * n + d) ≠ Nat.toDigits base m := by
    rw [toDigits_digit big hn hd, Nat.toDigits_of_lt_base hm]
    intro h
    have lengths := congrArg List.length h
    have := width_pos base n
    simp only [List.length_append, List.length_singleton] at lengths
    unfold width at this
    omega
  induction n using Nat.base_induction base big generalizing m with
  | single d hd =>
    induction m using Nat.base_induction base big with
    | single e he =>
      rw [Nat.toDigits_of_lt_base hd, Nat.toDigits_of_lt_base he] at h
      exact digitChar_inj (Nat.lt_of_lt_of_le hd small) (Nat.lt_of_lt_of_le he small) (List.singleton_inj.mp h)
    | digit m e he hm _ => exact absurd h.symm (positive hm he hd)
  | digit n d hd hn ih =>
    induction m using Nat.base_induction base big with
    | single e he => exact absurd h (positive hn hd he)
    | digit m e he hm _ =>
      rw [toDigits_digit big hn hd, toDigits_digit big hm he] at h
      obtain ⟨first, last⟩ := List.append_inj' h rfl
      rw [ih first, digitChar_inj (Nat.lt_of_lt_of_le hd small) (Nat.lt_of_lt_of_le he small)
        (List.singleton_inj.mp last)]

theorem toDigits_last {n d : Nat} (hd : d < base) {front : List Char} (more : front ≠ [])
    (h : Nat.toDigits base n = front ++ [d.digitChar]) :
    front = Nat.toDigits base (n / base) ∧ n % base = d := by
  have enough : base ≤ n := by
    by_contra short
    rw [Nat.toDigits_of_lt_base (Nat.not_le.mp short)] at h
    have lengths := congrArg List.length h
    have := List.length_pos_iff.mpr more
    simp only [List.length_append, List.length_singleton] at lengths
    omega
  rw [Nat.toDigits_of_base_le big enough] at h
  obtain ⟨first, last⟩ := List.append_inj' h rfl
  have below : n % base < base := Nat.mod_lt n (Nat.zero_lt_of_lt big)
  exact ⟨first.symm, digitChar_inj (Nat.lt_of_lt_of_le below small) (Nat.lt_of_lt_of_le hd small)
    (List.singleton_inj.mp last)⟩

theorem toDigits_split {n m : Nat} {front : List Char} (more : front ≠ [])
    (h : Nat.toDigits base n = front ++ Nat.toDigits base m) :
    front = Nat.toDigits base (n / base ^ width base m) ∧ n % base ^ width base m = m := by
  induction m using Nat.base_induction base big generalizing n with
  | single d hd =>
    have one : width base d = 1 := by simp [width, Nat.toDigits_of_lt_base hd]
    rw [Nat.toDigits_of_lt_base hd] at h
    rw [one, Nat.pow_one]
    exact toDigits_last big small hd more h
  | digit m d hd hm ih =>
    rw [toDigits_digit big hm hd, ← List.append_assoc] at h
    obtain ⟨first, last⟩ := toDigits_last big small hd (by simp [more]) h
    obtain ⟨front_eq, rest⟩ := ih first.symm
    rw [width_digit big hm hd, Nat.pow_succ']
    refine ⟨by rw [front_eq, Nat.div_div_eq_div_mul], ?_⟩
    rw [Nat.mod_mul, last, rest, Nat.add_comm]

theorem toDigits_ne_zero_append (n m : Nat) :
    Nat.toDigits base n ≠ Nat.toDigits base 0 ++ Nat.toDigits base m := by
  intro h
  obtain ⟨front, low⟩ := toDigits_split big small Nat.toDigits_ne_nil h
  have none_left := (toDigits_inj big small).mp front
  have same : n = m := by
    rw [← low]
    exact (Nat.mod_eq_of_lt ((Nat.div_eq_zero_iff_lt (Nat.pow_pos (Nat.zero_lt_of_lt big))).mp none_left.symm)).symm
  have lengths := congrArg List.length h
  rw [same, Nat.toDigits_zero] at lengths
  simp at lengths

end

/-- The second number of a pair begins with the last digits of the first number of
another, whose own second number is what is left. -/
structure Overlaps (base a i b j : Nat) : Prop where
  longer : width base i < width base j
  positive : 0 < b
  first : a = b * base ^ (width base j - width base i) + j / base ^ width base i
  second : i = j % base ^ width base i

variable {base a i b j : Nat}

theorem overlaps_iff : Overlaps base a i b j ↔ width base i < width base j ∧ 0 < b ∧
    a = b * base ^ (width base j - width base i) + j / base ^ width base i ∧ i = j % base ^ width base i :=
  ⟨fun ⟨longer, positive, first, second⟩ => ⟨longer, positive, first, second⟩,
    fun ⟨longer, positive, first, second⟩ => ⟨longer, positive, first, second⟩⟩

instance : Decidable (Overlaps base a i b j) := decidable_of_iff _ overlaps_iff.symm

theorem Overlaps.append_eq (big : 1 < base) (h : Overlaps base a i b j) :
    Nat.toDigits base a ++ Nat.toDigits base i = Nat.toDigits base b ++ Nat.toDigits base j := by
  obtain ⟨longer, positive, first, second⟩ := h
  have top : 0 < j / base ^ width base i := by
    refine Nat.div_pos ?_ (Nat.pow_pos (Nat.zero_lt_of_lt big))
    by_contra short
    have := (Nat.length_toDigits_le_iff big (width_pos base i)).mpr (Nat.not_le.mp short)
    exact absurd longer (Nat.not_lt.mpr this)
  have split : j / base ^ width base i * base ^ width base i + i = j := by
    have whole := Nat.div_add_mod' j (base ^ width base i)
    rwa [← second] at whole
  have wide : width base j = width base (j / base ^ width base i) + width base i :=
    (congrArg (width base) split).symm.trans (width_append big top i)
  rw [wide, Nat.add_sub_cancel] at first
  calc Nat.toDigits base a ++ Nat.toDigits base i
      = Nat.toDigits base b ++ Nat.toDigits base (j / base ^ width base i) ++ Nat.toDigits base i := by
        rw [toDigits_append big positive, ← first]
    _ = Nat.toDigits base b ++ Nat.toDigits base j := by
        rw [List.append_assoc, toDigits_append big top, split]

theorem Overlaps.first_lt (big : 1 < base) (h : Overlaps base a i b j) : b < a := by
  have more : 1 < base ^ (width base j - width base i) :=
    Nat.one_lt_pow (Nat.sub_ne_zero_of_lt h.longer) big
  calc b < b * base ^ (width base j - width base i) := (Nat.lt_mul_iff_one_lt_right h.positive).mpr more
    _ ≤ b * base ^ (width base j - width base i) + j / base ^ width base i := Nat.le_add_right ..
    _ = a := h.first.symm

theorem Overlaps.second_lt (h : Overlaps base a i b j) : i < j := by
  have le : i ≤ j := h.second ▸ Nat.mod_le ..
  refine Nat.lt_of_le_of_ne le ?_
  rintro rfl
  exact Nat.lt_irrefl _ h.longer

theorem overlaps_of_append_eq (big : 1 < base) (small : base ≤ 16) (longer : width base i < width base j)
    (h : Nat.toDigits base a ++ Nat.toDigits base i = Nat.toDigits base b ++ Nat.toDigits base j) :
    Overlaps base a i b j := by
  unfold width at longer
  obtain ⟨front, first, second⟩ | ⟨front, first, second⟩ := List.append_eq_append_iff.mp h
  · rw [second, List.length_append] at longer
    omega
  · have more : front ≠ [] := by
      rintro rfl
      rw [second, List.nil_append] at longer
      exact Nat.lt_irrefl _ longer
    obtain ⟨front_eq, low⟩ := toDigits_split big small more second
    have wide : width base j = width base (j / base ^ width base i) + width base i := by
      rw [width, second, front_eq, List.length_append]
      rfl
    rw [front_eq] at first
    have positive : 0 < b := by
      rcases Nat.eq_zero_or_pos b with rfl | positive
      · exact absurd first (toDigits_ne_zero_append big small a _)
      · exact positive
    refine ⟨longer, positive, ?_, low.symm⟩
    rw [toDigits_append big positive] at first
    rw [wide, Nat.add_sub_cancel]
    exact (toDigits_inj big small).mp first

theorem append_eq_iff (big : 1 < base) (small : base ≤ 16) :
    Nat.toDigits base a ++ Nat.toDigits base i = Nat.toDigits base b ++ Nat.toDigits base j ↔
      (a = b ∧ i = j) ∨ Overlaps base a i b j ∨ Overlaps base b j a i := by
  constructor
  · intro h
    rcases Nat.lt_trichotomy (width base i) (width base j) with longer | same | shorter
    · exact .inr (.inl (overlaps_of_append_eq big small longer h))
    · obtain ⟨first, second⟩ := List.append_inj' h same
      exact .inl ⟨(toDigits_inj big small).mp first, (toDigits_inj big small).mp second⟩
    · exact .inr (.inr (overlaps_of_append_eq big small shorter h.symm))
  · rintro (⟨rfl, rfl⟩ | h | h)
    · rfl
    · exact h.append_eq big
    · exact (h.append_eq big).symm

end Numerals
