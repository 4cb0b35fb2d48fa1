import RemoteInfra.Library.ShortestDecimal

/-!
# Products of binary magnitudes

A product is rounded once.  A factor that lies just below a fraction, as the nearest magnitude to
a decimal may, gives every whole number's product the floor that the fraction itself gives.
-/

namespace RemoteInfra.Library

theorem nearestEven_of_near {a d m : ℕ} (hle : a ≤ m * d) (hnear : 2 * (m * d - a) < d) :
    nearestEven a d = m := by
  have hd : 0 < d := by omega
  rcases hle.eq_or_lt with rfl | hlt
  · exact nearestEven_mul m hd
  · obtain ⟨k, rfl⟩ : ∃ k, m = k + 1 := ⟨m - 1, by
      rcases m with _ | m
      · simp at hlt
      · simp⟩
    have hmul : (k + 1) * d = k * d + d := by ring
    have hsplit : a = (a - k * d) + k * d := by omega
    have hdiv : a / d = k := by
      rw [hsplit, Nat.add_mul_div_right _ _ hd, Nat.div_eq_of_lt (by omega), zero_add]
    have hmod : a % d = a - k * d := by
      conv_lhs => rw [hsplit]
      rw [Nat.add_mul_mod_self_right, Nat.mod_eq_of_lt (by omega)]
    unfold nearestEven
    rw [hdiv, hmod, if_neg (by omega), if_pos (by omega)]

namespace Magnitude

variable {F : BinaryFormat}

/-- The product rounded; `none` where it would round past the largest finite magnitude. -/
def mul (x y : Magnitude F) : Option (Magnitude F) :=
  roundRatio F (x.units * y.units) (2 ^ F.scale * 2 ^ F.scale)

/-- What lies close enough below a magnitude is rounded to it. -/
theorem roundedUnits_of_near {a d v : ℕ} (hd : 0 < d) (hv : F.Representable v)
    (hle : a * 2 ^ F.scale ≤ v * d)
    (hnear : (v * d - a * 2 ^ F.scale) * 2 ^ (F.precision + 2) < a * 2 ^ F.scale) :
    roundedUnits F a d = v := by
  set p := droppedBits F a d with hp
  have hquot : a * 2 ^ F.scale / d ≤ v := Nat.div_le_of_le_mul (Nat.mul_comm d v ▸ hle)
  have hlog : Nat.log2 (a * 2 ^ F.scale / d) ≤ Nat.log2 v := by
    simpa only [Nat.log2_eq_log_two] using Nat.log_mono_right hquot
  obtain ⟨m, hm⟩ : 2 ^ p ∣ v :=
    (pow_dvd_pow 2 (by rw [hp, droppedBits]; omega)).trans hv.1
  have hbelow : a * 2 ^ F.scale < d * 2 ^ p * 2 ^ (F.precision + 1) := by
    have hlt : a * 2 ^ F.scale / d < 2 ^ (Nat.log2 (a * 2 ^ F.scale / d) + 1) := Nat.lt_log2_self
    have hpow : 2 ^ (Nat.log2 (a * 2 ^ F.scale / d) + 1) ≤ 2 ^ (p + (F.precision + 1)) :=
      Nat.pow_le_pow_right (by decide) (by rw [hp, droppedBits]; omega)
    rw [Nat.mul_assoc, ← pow_add, Nat.mul_comm d]
    exact (Nat.div_lt_iff_lt_mul hd).mp (hlt.trans_le hpow)
  have hmd : m * (d * 2 ^ p) = v * d := by rw [hm]; ring
  have hclose : 2 * (m * (d * 2 ^ p) - a * 2 ^ F.scale) < d * 2 ^ p := by
    rw [hmd]
    have hboth := hnear.trans hbelow
    rw [pow_succ, Nat.mul_comm (2 ^ (F.precision + 1)), ← Nat.mul_assoc,
      Nat.mul_comm _ 2] at hboth
    exact Nat.lt_of_mul_lt_mul_right hboth
  rw [roundedUnits, nearestEven_of_near (by rwa [hmd]) hclose, hm, Nat.mul_comm]

theorem representable_mul_two_pow {m k : ℕ} (h : m < 2 ^ (F.precision + 1))
    (hlimit : F.precision + 1 + k ≤ F.limit) : F.Representable (m * 2 ^ k) := by
  constructor
  · rcases Nat.eq_zero_or_pos m with rfl | hpos
    · simp
    · have hlog : Nat.log2 (m * 2 ^ k) < F.precision + 1 + k := by
        rw [Nat.log2_lt (by positivity), pow_add]
        exact Nat.mul_lt_mul_of_pos_right h (Nat.two_pow_pos _)
      exact (pow_dvd_pow 2 (by omega)).trans (Dvd.intro_left m rfl)
  · calc m * 2 ^ k < 2 ^ (F.precision + 1) * 2 ^ k :=
          Nat.mul_lt_mul_of_pos_right h (Nat.two_pow_pos _)
      _ = 2 ^ (F.precision + 1 + k) := (pow_add _ _ _).symm
      _ ≤ 2 ^ F.limit := Nat.pow_le_pow_right (by decide) hlimit

theorem roundedUnits_self {v : ℕ} (hv : F.Representable v) :
    roundedUnits F v (2 ^ F.scale) = v :=
  (roundRatio_eq_some (roundRatio_self ⟨v, hv⟩)).symm

/-- What lies at or above a magnitude is not rounded below it. -/
theorem le_roundedUnits {a d v : ℕ} (hd : 0 < d) (hv : F.Representable v)
    (hle : v * d ≤ a * 2 ^ F.scale) : v ≤ roundedUnits F a d := by
  calc v = roundedUnits F v (2 ^ F.scale) := (roundedUnits_self hv).symm
    _ ≤ roundedUnits F a d :=
      roundedUnits_le_of_mul_le (Nat.two_pow_pos _) hd (by rwa [Nat.mul_comm d, Nat.mul_comm _ a])

/-- What lies at or below a magnitude is not rounded above it. -/
theorem roundedUnits_le_of_le {a d v : ℕ} (hd : 0 < d) (hv : F.Representable v)
    (hle : a * 2 ^ F.scale ≤ v * d) : roundedUnits F a d ≤ v := by
  calc roundedUnits F a d ≤ roundedUnits F v (2 ^ F.scale) :=
        roundedUnits_le_of_mul_le hd (Nat.two_pow_pos _) (by rwa [Nat.mul_comm d, Nat.mul_comm _ a])
    _ = v := roundedUnits_self hv

/-- A magnitude just below the fraction `c / e`. -/
structure JustBelow (y : Magnitude F) (c e : ℕ) : Prop where
  le : y.units * e ≤ c * 2 ^ F.scale
  near : (c * 2 ^ F.scale - y.units * e) * 2 ^ (F.precision + 2) < y.units * e

namespace JustBelow

variable {y : Magnitude F} {n c e j : ℕ}

theorem denominator_pos (hy : y.JustBelow c e) : 0 < e := by
  by_contra hzero
  have hnear := hy.near
  simp [Nat.eq_zero_of_not_pos hzero] at hnear

/-- What the product misses of the fraction, `e` times over. -/
theorem product_add_error (hy : y.JustBelow c e) (n : ℕ) :
    n * y.units * e + n * (c * 2 ^ F.scale - y.units * e) = n * c * 2 ^ F.scale := by
  rw [Nat.mul_assoc, ← Nat.mul_add, Nat.add_sub_cancel' hy.le, Nat.mul_assoc]

/-- Where the fraction gives a whole number, the rounded product is that number. -/
theorem roundedUnits_of_whole {q : ℕ} (hy : y.JustBelow c e) (hn : 0 < n) (hq : n * c = q * e)
    (hwhole : F.Representable (q * 2 ^ F.scale)) :
    roundedUnits F (n * y.units) (2 ^ F.scale) = q * 2 ^ F.scale := by
  have hpos : 0 < 2 ^ F.scale := Nat.two_pow_pos _
  have hproduct := hy.product_add_error n
  have hexact : n * c * 2 ^ F.scale = q * 2 ^ F.scale * e := by rw [hq, Nat.mul_right_comm]
  have hbelow : n * y.units ≤ q * 2 ^ F.scale := by
    refine Nat.le_of_mul_le_mul_right (?_ : n * y.units * e ≤ q * 2 ^ F.scale * e)
      hy.denominator_pos
    omega
  have hmissing : (q * 2 ^ F.scale - n * y.units) * e = n * (c * 2 ^ F.scale - y.units * e) := by
    rw [Nat.sub_mul]
    omega
  have hnear : n * (c * 2 ^ F.scale - y.units * e) * 2 ^ (F.precision + 2) < n * y.units * e := by
    rw [Nat.mul_assoc, Nat.mul_assoc]
    exact Nat.mul_lt_mul_of_pos_left hy.near hn
  rw [← hmissing, Nat.mul_right_comm] at hnear
  refine roundedUnits_of_near hpos hwhole (Nat.mul_le_mul_right _ hbelow) ?_
  rw [← Nat.sub_mul, Nat.mul_right_comm]
  exact Nat.mul_lt_mul_of_pos_right (Nat.lt_of_mul_lt_mul_right hnear) hpos

/-- The rounded product is not below the floor: what is left over outweighs the error. -/
theorem floor_le_roundedUnits (hy : y.JustBelow c e) (hn : 0 < n)
    (herror : n * (c * 2 ^ F.scale - y.units * e) ≤ 2 ^ F.scale)
    (hwhole : F.Representable (n * c / e * 2 ^ F.scale)) :
    n * c / e * 2 ^ F.scale ≤ roundedUnits F (n * y.units) (2 ^ F.scale) := by
  have hdivision := Nat.div_add_mod (n * c) e
  rcases Nat.eq_zero_or_pos (n * c % e) with hzero | hrest
  · have hq : n * c = n * c / e * e := (Nat.div_mul_cancel (Nat.dvd_of_mod_eq_zero hzero)).symm
    exact (hy.roundedUnits_of_whole hn hq hwhole).ge
  · refine le_roundedUnits (Nat.two_pow_pos _) hwhole (Nat.mul_le_mul_right _ ?_)
    refine Nat.le_of_mul_le_mul_right (?_ : n * c / e * 2 ^ F.scale * e ≤ n * y.units * e)
      hy.denominator_pos
    have hproduct := hy.product_add_error n
    have hone : 1 * 2 ^ F.scale ≤ n * c % e * 2 ^ F.scale := Nat.mul_le_mul_right _ hrest
    have hsum : n * c * 2 ^ F.scale = n * c / e * 2 ^ F.scale * e + n * c % e * 2 ^ F.scale := by
      conv_lhs => rw [← hdivision]
      ring
    omega

/-- The product is not above the last magnitude under the next whole number. -/
theorem product_le (hy : y.JustBelow c e) (he : e ≤ 2 ^ j) (hj : j ≤ F.scale) :
    n * y.units ≤ ((n * c / e + 1) * 2 ^ j - 1) * 2 ^ (F.scale - j) := by
  set q := n * c / e with hq
  have hsplit : 2 ^ j * 2 ^ (F.scale - j) = 2 ^ F.scale := by
    rw [← pow_add, Nat.add_sub_cancel' hj]
  have hone : 1 ≤ (q + 1) * 2 ^ j := Nat.mul_pos (Nat.succ_pos q) (Nat.two_pow_pos _)
  have hunder : ((q + 1) * 2 ^ j - 1) * 2 ^ (F.scale - j) + 2 ^ (F.scale - j) =
      (q + 1) * 2 ^ F.scale := by
    rw [← Nat.succ_mul, Nat.succ_eq_add_one, Nat.sub_add_cancel hone, Nat.mul_assoc, hsplit]
  have hfraction : 2 ^ (F.scale - j) * e ≤ 2 ^ F.scale := by
    rw [← hsplit, Nat.mul_comm (2 ^ j)]
    exact Nat.mul_le_mul_left _ he
  have hless : (n * c + 1) * 2 ^ F.scale ≤ (q + 1) * e * 2 ^ F.scale :=
    Nat.mul_le_mul_right _ (Nat.lt_mul_of_div_lt (Nat.lt_succ_self q) hy.denominator_pos)
  refine Nat.le_of_mul_le_mul_right (Nat.le_of_add_le_add_right
    (?_ : _ + 2 ^ (F.scale - j) * e ≤ _)) hy.denominator_pos
  calc n * y.units * e + 2 ^ (F.scale - j) * e
      ≤ n * c * 2 ^ F.scale + 2 ^ F.scale :=
        Nat.add_le_add (hy.product_add_error n ▸ Nat.le_add_right _ _) hfraction
    _ = (n * c + 1) * 2 ^ F.scale := (Nat.succ_mul _ _).symm
    _ ≤ (q + 1) * e * 2 ^ F.scale := hless
    _ = (q + 1) * 2 ^ F.scale * e := Nat.mul_right_comm _ _ _
    _ = ((q + 1) * 2 ^ j - 1) * 2 ^ (F.scale - j) * e + 2 ^ (F.scale - j) * e := by
        rw [← hunder, Nat.add_mul]

/-- The rounded product is below the next whole number. -/
theorem roundedUnits_lt (hy : y.JustBelow c e) (he : e ≤ 2 ^ j) (hj : j ≤ F.scale)
    (hbound : (n * c / e + 1) * 2 ^ j ≤ 2 ^ (F.precision + 1))
    (hlimit : F.precision + 1 + F.scale ≤ F.limit) :
    roundedUnits F (n * y.units) (2 ^ F.scale) < (n * c / e + 1) * 2 ^ F.scale := by
  have hone : 1 ≤ (n * c / e + 1) * 2 ^ j := Nat.mul_pos (Nat.succ_pos _) (Nat.two_pow_pos _)
  have hlast : F.Representable (((n * c / e + 1) * 2 ^ j - 1) * 2 ^ (F.scale - j)) :=
    representable_mul_two_pow (by omega) (by omega)
  calc roundedUnits F (n * y.units) (2 ^ F.scale)
      ≤ ((n * c / e + 1) * 2 ^ j - 1) * 2 ^ (F.scale - j) :=
        roundedUnits_le_of_le (Nat.two_pow_pos _) hlast
          (Nat.mul_le_mul_right _ (hy.product_le he hj))
    _ < (n * c / e + 1) * 2 ^ j * 2 ^ (F.scale - j) :=
        Nat.mul_lt_mul_of_pos_right (Nat.sub_one_lt_of_le hone le_rfl) (Nat.two_pow_pos _)
    _ = (n * c / e + 1) * 2 ^ F.scale := by
        rw [Nat.mul_assoc, ← pow_add, Nat.add_sub_cancel' hj]

end JustBelow

/-- `n` times a magnitude just below a fraction is rounded to what has the fraction's floor. -/
theorem floor_mul_of_justBelow {y : Magnitude F} {n c e j : ℕ} (hy : y.JustBelow c e)
    (hn : 0 < n) (hwhole : n ≤ 2 ^ (F.precision + 1)) (he : e ≤ 2 ^ j) (hj : j ≤ F.scale)
    (herror : n * (c * 2 ^ F.scale - y.units * e) ≤ 2 ^ F.scale)
    (hbound : (n * c / e + 1) * 2 ^ j ≤ 2 ^ (F.precision + 1))
    (hlimit : F.precision + 1 + F.scale < F.limit) :
    ∃ x z, round F n 0 = some x ∧ x.mul y = some z ∧ z.floor = n * c / e := by
  have hone : (n * c / e + 1) * 1 ≤ (n * c / e + 1) * 2 ^ j :=
    Nat.mul_le_mul_left _ (Nat.two_pow_pos _)
  have hfloor : F.Representable (n * c / e * 2 ^ F.scale) :=
    representable_mul_two_pow (by omega) hlimit.le
  have hle := hy.floor_le_roundedUnits hn herror hfloor
  have hlt := hy.roundedUnits_lt he hj hbound hlimit.le
  have hfits : roundedUnits F (n * y.units) (2 ^ F.scale) < 2 ^ F.limit := by
    calc roundedUnits F (n * y.units) (2 ^ F.scale) < (n * c / e + 1) * 2 ^ F.scale := hlt
      _ ≤ 2 ^ (F.precision + 1) * 2 ^ F.scale := Nat.mul_le_mul_right _ (by omega)
      _ = 2 ^ (F.precision + 1 + F.scale) := (pow_add _ _ _).symm
      _ ≤ 2 ^ F.limit := Nat.pow_le_pow_right (by decide) hlimit.le
  refine ⟨_, ⟨_, roundedUnits_dvd _ _, hfits⟩,
    round_whole_self (representable_whole hwhole hlimit), ?_, ?_⟩
  · rw [mul, Nat.mul_right_comm, Nat.mul_comm _ (2 ^ F.scale),
      roundRatio_scale (Nat.two_pow_pos _)]
    exact roundRatio_of_units rfl
  · rw [floor]
    exact Nat.div_eq_of_lt_le hle hlt

end Magnitude

end RemoteInfra.Library
