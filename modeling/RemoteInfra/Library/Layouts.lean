import Mathlib.Data.Nat.Digits.Lemmas
import Mathlib.Data.Rat.Cast.Order
import Mathlib.Algebra.Order.Field.Power
import Mathlib.Tactic.Linarith
import RemoteInfra.Library.Decimal

/-!
# Layouts compared

Where the decimal point of a number stands, what its layouts look like in front, and when two
ways to lay out the same digits give the same numeral.
-/

namespace RemoteInfra.Library.Decimal

/-! ## Digits without a leading zero -/

theorem head_natDigits {n : ℕ} (h : n ≠ 0) : (natDigits n).head? ≠ some 0 := by
  rw [natDigits, if_neg h, List.head?_reverse]
  intro hlast
  have hne : Nat.digits 10 n ≠ [] := Nat.digits_ne_nil_iff_ne_zero.mpr h
  rw [List.getLast?_eq_getLast_of_ne_nil hne] at hlast
  exact Nat.getLast_digit_ne_zero 10 h (Option.some.inj hlast)

/-- The digits of a number are the only ones without a leading zero that denote it. -/
theorem natDigits_value {ds : List ℕ} (hlt : ∀ d ∈ ds, d < 10) (hne : ds ≠ [])
    (hhead : ds.head? ≠ some 0) : natDigits (value ds) = ds := by
  have hdigits : Nat.digits 10 (value ds) = ds.reverse := by
    refine Nat.digits_ofDigits 10 (by decide) _ (fun d hd ↦ hlt d (List.mem_reverse.mp hd)) ?_
    intro hreverse hzero
    refine hhead ?_
    rw [← List.getLast?_reverse, List.getLast?_eq_getLast_of_ne_nil hreverse, hzero]
  have hvalue : value ds ≠ 0 := by
    intro hzero
    rw [hzero, Nat.digits_zero] at hdigits
    exact hne (List.reverse_eq_nil_iff.mp hdigits.symm)
  rw [natDigits, if_neg hvalue, hdigits, List.reverse_reverse]

theorem length_natDigits {n : ℕ} (h : n ≠ 0) : (natDigits n).length = (Nat.digits 10 n).length := by
  rw [natDigits, if_neg h, List.length_reverse]

/-- Powers of ten around a number, from how many digits it has. -/
theorem ten_pow_natDigits {n : ℕ} (h : n ≠ 0) :
    10 ^ ((natDigits n).length - 1) ≤ n ∧ n < 10 ^ (natDigits n).length := by
  have hpos : 0 < (natDigits n).length := List.length_pos_iff.mpr (natDigits_ne_nil n)
  rw [length_natDigits h] at hpos ⊢
  refine ⟨?_, Nat.lt_base_pow_length_digits (by decide)⟩
  have hle : 10 ^ (Nat.digits 10 n).length ≤ 10 * n := Nat.base_pow_length_digits_le 10 n (by decide) h
  obtain ⟨k, hk⟩ := Nat.exists_eq_add_of_lt hpos
  rw [hk, Nat.zero_add, Nat.add_sub_cancel]
  rw [hk, Nat.zero_add, pow_succ, Nat.mul_comm] at hle
  exact Nat.le_of_mul_le_mul_left hle (by decide)

/-- The decimal point stands behind so many digits exactly when the number is below that power
of ten. -/
theorem point_le_iff {c : ℕ} (hc : c ≠ 0) (k n : ℤ) :
    k + (natDigits c).length ≤ n ↔ (c : ℚ) * 10 ^ k < 10 ^ n := by
  obtain ⟨hlow, hhigh⟩ := ten_pow_natDigits hc
  have hpos : 0 < (natDigits c).length := List.length_pos_iff.mpr (natDigits_ne_nil c)
  have hten : (10 : ℚ) ≠ 0 := by norm_num
  constructor
  · intro h
    calc (c : ℚ) * 10 ^ k < 10 ^ ((natDigits c).length : ℤ) * 10 ^ k := by
          gcongr
          rw [zpow_natCast]
          exact_mod_cast hhigh
      _ = 10 ^ (k + (natDigits c).length) := by rw [← zpow_add₀ hten, add_comm]
      _ ≤ 10 ^ n := zpow_le_zpow_right₀ (by norm_num) h
  · intro h
    by_contra hgt
    have hge : (10 : ℚ) ^ n ≤ c * 10 ^ k :=
      calc (10 : ℚ) ^ n ≤ 10 ^ (((natDigits c).length - 1 : ℕ) + k) :=
            zpow_le_zpow_right₀ (by norm_num) (by omega)
        _ = 10 ^ (((natDigits c).length - 1 : ℕ) : ℤ) * 10 ^ k := zpow_add₀ hten _ _
        _ ≤ c * 10 ^ k := by
            gcongr
            rw [zpow_natCast]
            exact_mod_cast hlow
    exact absurd h (not_lt.mpr hge)

/-! ## Fronts of layouts -/

theorem head_take {ds : List ℕ} (hhead : ds.head? ≠ some 0) {n : ℕ} (hn : n ≠ 0) :
    (ds.take n).head? ≠ some 0 := by
  rwa [List.head?_take, if_neg hn]

/-- A fixed layout starts with a single zero or without one. -/
theorem head_fixedLayout {ds : List ℕ} (hne : ds ≠ []) (hhead : ds.head? ≠ some 0) (point : ℤ)
    (ending : Option (List ℕ)) : (fixedLayout ds point ending).whole = [0] ∨
      (fixedLayout ds point ending).whole.head? ≠ some 0 := by
  unfold fixedLayout
  split_ifs with hneg hlt
  · exact .inl rfl
  · exact .inr (head_take hhead (by omega))
  · refine .inr ?_
    rwa [List.head?_append_of_ne_nil _ hne]

theorem head_exponentLayout {ds : List ℕ} (hhead : ds.head? ≠ some 0) (point : ℤ) (width : ℕ) :
    (exponentLayout ds point width).whole.head? ≠ some 0 :=
  head_take hhead one_ne_zero

/-! ## Equal layouts -/

@[simp] theorem exponent_fixedLayout (ds : List ℕ) (point : ℤ) (ending : Option (List ℕ)) :
    (fixedLayout ds point ending).exponent = none := by
  unfold fixedLayout
  split_ifs <;> rfl

theorem fixedLayout_ne_exponentLayout (ds : List ℕ) (point : ℤ) (ending : Option (List ℕ))
    (width : ℕ) : fixedLayout ds point ending ≠ exponentLayout ds point width := by
  intro h
  have hexponent := congrArg Numeral.exponent h
  rw [exponent_fixedLayout] at hexponent
  cases hexponent

/-- The ending shows only behind a whole number. -/
theorem fixedLayout_ending {ds : List ℕ} {point : ℤ} (h : point < ds.length)
    (ending ending' : Option (List ℕ)) :
    fixedLayout ds point ending = fixedLayout ds point ending' := by
  unfold fixedLayout
  rw [if_pos h, if_pos h]

theorem fraction_fixedLayout {ds : List ℕ} (hne : ds ≠ []) (point : ℤ) :
    (fixedLayout ds point none).fraction = none ↔ ds.length ≤ point := by
  have hpos : 0 < ds.length := List.length_pos_iff.mpr hne
  unfold fixedLayout
  split_ifs with hneg hlt
  · simp only [false_iff]
    omega
  · simp only [false_iff]
    omega
  · simp only [true_iff]
    omega

theorem padded_of_le {width : ℕ} {ds : List ℕ} (h : width ≤ ds.length) : padded width ds = ds := by
  rw [padded, Nat.sub_eq_zero_of_le h, List.replicate_zero, List.nil_append]

/-- An exponent with two digits of its own is not padded to two. -/
theorem exponentLayout_two_iff (ds : List ℕ) (point : ℤ) :
    exponentLayout ds point 1 = exponentLayout ds point 2 ↔ 10 ≤ (point - 1).natAbs := by
  set n := (point - 1).natAbs with hn
  have hone : padded 1 (natDigits n) = natDigits n :=
    padded_of_le (List.length_pos_iff.mpr (natDigits_ne_nil n))
  have hiff : exponentLayout ds point 1 = exponentLayout ds point 2 ↔
      padded 1 (natDigits n) = padded 2 (natDigits n) := by
    simp [exponentLayout, hn]
  rw [hiff, hone]
  constructor
  · intro h
    by_contra hlt
    have hlength : (natDigits n).length = max 2 (natDigits n).length := by
      conv_lhs => rw [h]
      simp [padded]
      omega
    have hzero : n ≠ 0 := by
      intro hzero
      rw [hzero] at hlength
      exact absurd hlength (by decide)
    have hle := (ten_pow_natDigits hzero).1
    have hten : 10 ^ 1 ≤ 10 ^ ((natDigits n).length - 1) :=
      Nat.pow_le_pow_right (by decide) (by omega)
    omega
  · intro h
    have hzero : n ≠ 0 := by omega
    refine (padded_of_le ?_).symm
    by_contra hlt
    have hle := (ten_pow_natDigits hzero).2
    have hten : 10 ^ (natDigits n).length ≤ 10 ^ 1 := Nat.pow_le_pow_right (by decide) (by omega)
    omega

/-- Different numerals have different texts. -/
theorem Numeral.WellFormed.text_inj {m n : Numeral} (hm : m.WellFormed) (hn : n.WellFormed) :
    m.text = n.text ↔ m = n := by
  constructor
  · intro h
    have hscan := scanNumeral_text hm ends_nil
    rw [h, scanNumeral_text hn ends_nil] at hscan
    exact (Prod.mk.inj hscan).1.symm
  · exact congrArg Numeral.text

/-- The text of a numeral without a fraction and an exponent. -/
theorem text_of_digits {n : Numeral} (hfraction : n.fraction = none)
    (hexponent : n.exponent = none) : n.text = digitsText n.whole := by
  simp [Numeral.text, hfraction, hexponent, Numeral.fractionText, Numeral.exponentText]

end RemoteInfra.Library.Decimal
