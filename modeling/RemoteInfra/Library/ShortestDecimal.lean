import Mathlib.Algebra.Order.Field.Power
import Mathlib.Tactic.Linarith
import RemoteInfra.Library.BinaryFloat

/-!
# Where shortest decimals lie

Rounding keeps order, so a magnitude and its shortest decimal lie on the same side of every
power of ten that rounds up.  The shortest decimal of a whole magnitude has no fraction, and
small whole numbers are told apart.
-/

namespace RemoteInfra.Library

theorem nearestEven_mono {a b : ℕ} (h : a ≤ b) (d : ℕ) : nearestEven a d ≤ nearestEven b d := by
  have hdiv : a / d ≤ b / d := Nat.div_le_div_right h
  rcases hdiv.lt_or_eq with hlt | heq
  · exact (nearestEven_le a d).trans (Nat.le_trans hlt (le_nearestEven b d))
  · have hmod : a % d ≤ b % d := by
      have ha := Nat.div_add_mod a d
      have hb := Nat.div_add_mod b d
      rw [heq] at ha
      omega
    unfold nearestEven
    rw [heq]
    split_ifs <;> omega

namespace Magnitude

variable {F : BinaryFormat}

/-! ## Order -/

/-- Rounding never passes the next power of two. -/
theorem roundedUnits_le (a d : ℕ) :
    roundedUnits F a d ≤ 2 ^ (Nat.log2 (a * 2 ^ F.scale / d) + 1) := by
  set k := Nat.log2 (a * 2 ^ F.scale / d) with hk
  set p := droppedBits F a d with hp
  have hpk : p ≤ k := Nat.sub_le _ _
  have hquot : a * 2 ^ F.scale / (d * 2 ^ p) < 2 ^ (k + 1 - p) := by
    rw [← Nat.div_div_eq_div_mul, Nat.div_lt_iff_lt_mul (Nat.two_pow_pos p), ← pow_add,
      Nat.sub_add_cancel (by omega)]
    exact Nat.lt_log2_self
  calc roundedUnits F a d ≤ 2 ^ (k + 1 - p) * 2 ^ p :=
        Nat.mul_le_mul_right _ ((nearestEven_le _ _).trans hquot)
    _ = 2 ^ (k + 1) := by rw [← pow_add, Nat.sub_add_cancel (by omega)]

theorem roundedUnits_scale {k : ℕ} (hk : 0 < k) (a d : ℕ) :
    roundedUnits F (k * a) (k * d) = roundedUnits F a d := by
  have hbits : droppedBits F (k * a) (k * d) = droppedBits F a d := by
    simp only [droppedBits, Nat.mul_assoc, Nat.mul_div_mul_left _ _ hk]
  simp only [roundedUnits, hbits, Nat.mul_assoc, nearestEven_scale hk]

theorem roundedUnits_mono_left {a b : ℕ} (h : a ≤ b) (d : ℕ) :
    roundedUnits F a d ≤ roundedUnits F b d := by
  have hquot : a * 2 ^ F.scale / d ≤ b * 2 ^ F.scale / d :=
    Nat.div_le_div_right (Nat.mul_le_mul_right _ h)
  have hlog : Nat.log2 (a * 2 ^ F.scale / d) ≤ Nat.log2 (b * 2 ^ F.scale / d) := by
    simpa only [Nat.log2_eq_log_two] using Nat.log_mono_right hquot
  rcases hlog.lt_or_eq with hlt | heq
  · -- the greater one has passed the power of two that the smaller one rounds below
    have hne : b * 2 ^ F.scale / d ≠ 0 := by
      intro hzero
      simp [hzero] at hlt
    calc roundedUnits F a d ≤ 2 ^ (Nat.log2 (a * 2 ^ F.scale / d) + 1) := roundedUnits_le a d
      _ ≤ 2 ^ Nat.log2 (b * 2 ^ F.scale / d) := Nat.pow_le_pow_right (by decide) hlt
      _ ≤ roundedUnits F b d := two_pow_log2_le_roundedUnits hne
  · have hbits : droppedBits F a d = droppedBits F b d := by
      simp only [droppedBits, heq]
    rw [roundedUnits, roundedUnits, hbits]
    exact Nat.mul_le_mul_right _ (nearestEven_mono (Nat.mul_le_mul_right _ h) _)

theorem roundedUnits_le_of_mul_le {a b d e : ℕ} (hd : 0 < d) (he : 0 < e) (h : e * a ≤ d * b) :
    roundedUnits F a d ≤ roundedUnits F b e := by
  rw [← roundedUnits_scale he a d, ← roundedUnits_scale hd b e, Nat.mul_comm e d]
  exact roundedUnits_mono_left h _

theorem roundedUnits_mono {a b d e : ℕ} (hd : 0 < d) (he : 0 < e)
    (h : (a : ℚ) / d ≤ (b : ℚ) / e) : roundedUnits F a d ≤ roundedUnits F b e := by
  have hcross : e * a ≤ d * b := by
    rw [div_le_div_iff₀ (by exact_mod_cast hd) (by exact_mod_cast he)] at h
    have : a * e ≤ b * d := by exact_mod_cast h
    linarith
  exact roundedUnits_le_of_mul_le hd he hcross

theorem roundRatio_eq_some {a d : ℕ} {x : Magnitude F} (h : roundRatio F a d = some x) :
    x.units = roundedUnits F a d := by
  unfold roundRatio at h
  split_ifs at h with hzero hlt
  · rw [← Option.some.inj h, hzero]
    simp [zero, roundedUnits, nearestEven]
  · rw [← Option.some.inj h]

theorem roundRatio_of_units {a d : ℕ} {x : Magnitude F} (h : roundedUnits F a d = x.units) :
    roundRatio F a d = some x := by
  have hlt : roundedUnits F a d < 2 ^ F.limit := h ▸ x.representable.2
  unfold roundRatio
  split_ifs with hzero
  · have hunits : x.units = 0 := by
      rw [← h, hzero]
      simp [roundedUnits, nearestEven]
    obtain ⟨units, hx⟩ := x
    obtain rfl : units = 0 := hunits
    rfl
  · obtain ⟨units, hx⟩ := x
    obtain rfl : roundedUnits F a d = units := h
    rfl

/-- What lies between two numbers that round to one magnitude rounds to it too. -/
theorem roundRatio_between {a b c d e f : ℕ} {x : Magnitude F} (hd : 0 < d) (he : 0 < e)
    (hf : 0 < f) (ha : roundRatio F a d = some x) (hc : roundRatio F c f = some x)
    (hab : (a : ℚ) / d ≤ (b : ℚ) / e) (hbc : (b : ℚ) / e ≤ (c : ℚ) / f) :
    roundRatio F b e = some x := by
  refine roundRatio_of_units (Nat.le_antisymm ?_ ?_)
  · exact (roundedUnits_mono he hf hbc).trans_eq (roundRatio_eq_some hc).symm
  · exact (roundRatio_eq_some ha).trans_le (roundedUnits_mono hd he hab)

theorem units_le_of_ratio_le {a b d e : ℕ} {x y : Magnitude F} (hd : 0 < d) (he : 0 < e)
    (hx : roundRatio F a d = some x) (hy : roundRatio F b e = some y)
    (h : (a : ℚ) / d ≤ (b : ℚ) / e) : x.units ≤ y.units := by
  rw [roundRatio_eq_some hx, roundRatio_eq_some hy]
  exact roundedUnits_mono hd he h

theorem val_eq_div (x : Magnitude F) : x.val = (x.units : ℚ) / (2 ^ F.scale : ℕ) := by
  rw [val, Rat.mkRat_eq_div, Int.cast_natCast]

theorem val_le_val {x y : Magnitude F} (h : x.units ≤ y.units) : x.val ≤ y.val := by
  rw [val_eq_div, val_eq_div]
  gcongr

/-- A decimal as a ratio of two whole numbers. -/
theorem round_eq_roundRatio (c : ℕ) (k : ℤ) :
    round F c k = roundRatio F (c * 10 ^ k.toNat) (10 ^ (-k).toNat) := by
  rcases le_or_gt 0 k with hk | hk
  · obtain ⟨n, rfl⟩ := Int.eq_ofNat_of_zero_le hk
    simp [round_natCast]
  · obtain ⟨n, rfl⟩ : ∃ n : ℕ, k = -(n : ℤ) := ⟨k.natAbs, by omega⟩
    rw [round_neg]
    simp

theorem decimal_eq_div (c : ℕ) (k : ℤ) :
    (c : ℚ) * 10 ^ k = ((c * 10 ^ k.toNat : ℕ) : ℚ) / (10 ^ (-k).toNat : ℕ) := by
  rcases le_or_gt 0 k with hk | hk
  · obtain ⟨n, rfl⟩ := Int.eq_ofNat_of_zero_le hk
    simp
  · obtain ⟨n, rfl⟩ : ∃ n : ℕ, k = -(n : ℤ) := ⟨k.natAbs, by omega⟩
    simp [div_eq_mul_inv]

/-- Rounding two decimals keeps their order. -/
theorem units_le_of_round {c e : ℕ} {k l : ℤ} {x y : Magnitude F} (hx : round F c k = some x)
    (hy : round F e l = some y) (h : (c : ℚ) * 10 ^ k ≤ e * 10 ^ l) : x.units ≤ y.units := by
  rw [round_eq_roundRatio] at hx hy
  rw [decimal_eq_div, decimal_eq_div] at h
  exact units_le_of_ratio_le (Nat.pow_pos (by decide)) (Nat.pow_pos (by decide)) hx hy h

/-! ## Shortest decimals -/

theorem mem_around (a d : ℕ) : a / d ∈ neighbours.around a d := by
  unfold neighbours.around
  split_ifs <;> simp

theorem mem_neighbours (x : Magnitude F) (k : ℤ) :
    x.units * 10 ^ (-k).toNat / (2 ^ F.scale * 10 ^ k.toNat) ∈ x.neighbours k := by
  cases k with
  | ofNat k => simpa [neighbours] using mem_around x.units (2 ^ F.scale * 10 ^ k)
  | negSucc k => simpa [neighbours] using mem_around (x.units * 10 ^ (k + 1)) (2 ^ F.scale)

theorem le_coarsest {x : Magnitude F} {c : ℕ} {k : ℤ} (hc : c ∈ x.neighbours k)
    (hround : round F c k = some x) (hk : -(F.scale : ℤ) ≤ k) {n : ℕ}
    (hn : k ≤ n - (F.scale : ℤ)) : k ≤ (x.coarsest n).2 := by
  induction n with
  | zero => simpa [coarsest] using hn
  | succ n ih =>
      simp only [coarsest]
      split
      · exact hn
      · rename_i hnone
        refine ih ?_
        -- at the power of ten in question the search would have ended
        have hne : k ≠ ((n + 1 : ℕ) : ℤ) - F.scale := by
          rintro rfl
          exact List.find?_eq_none.mp hnone c hc (decide_eq_true hround)
        push_cast at hn hne
        omega

/-- The shortest decimal of a magnitude ends no earlier than any multiple of a power of ten
beside it that reads back as that magnitude. -/
theorem le_shortest_scale {x : Magnitude F} (hx : x.units ≠ 0) {c : ℕ} {k : ℤ}
    (hc : c ∈ x.neighbours k) (hround : round F c k = some x) (hk : -(F.scale : ℤ) ≤ k)
    (hlimit : k ≤ F.limit) : k ≤ x.shortest.2 := by
  rw [shortest, if_neg hx]
  exact le_coarsest hc hround hk (by push_cast; omega)

theorem ne_zero_of_round {c : ℕ} {k : ℤ} {x : Magnitude F} (h : round F c k = some x)
    (hx : x.units ≠ 0) : c ≠ 0 := by
  rintro rfl
  rw [round_eq_roundRatio, Nat.zero_mul] at h
  exact hx (congrArg Magnitude.units (Option.some.inj h)).symm

theorem shortest_ne_zero {x : Magnitude F} (hx : x.units ≠ 0) : x.shortest.1 ≠ 0 :=
  ne_zero_of_round (round_shortest x) hx

theorem eq_of_units_eq {x y : Magnitude F} (h : x.units = y.units) : x = y := by
  obtain ⟨units, hx⟩ := x
  obtain ⟨units', hy⟩ := y
  obtain rfl : units = units' := h
  rfl

/-- A magnitude and its shortest decimal lie on the same side of a power of ten that does not
round down. -/
theorem val_lt_iff_shortest_lt {x y : Magnitude F} (hx : x.units ≠ 0) {j : ℕ}
    (hy : round F 1 (-j) = some y) (hup : 1 / 10 ^ j ≤ y.val) (hj : j ≤ F.scale) :
    x.val < 1 / 10 ^ j ↔ (x.shortest.1 : ℚ) * 10 ^ x.shortest.2 < 1 / 10 ^ j := by
  have hpower : ((1 : ℕ) : ℚ) * 10 ^ (-(j : ℤ)) = 1 / 10 ^ j := by simp
  have hscale : 0 < 2 ^ F.scale := Nat.two_pow_pos _
  have hten : 0 < 10 ^ j := Nat.pow_pos (by decide)
  constructor
  · intro h
    by_contra hge
    have hunits := units_le_of_round hy (round_shortest x) (hpower.trans_le (not_lt.mp hge))
    exact absurd (hup.trans (val_le_val hunits)) (not_le.mpr h)
  · intro h
    by_contra hge
    rw [not_lt] at hge
    have hratio : roundRatio F 1 (10 ^ j) = some y := by rwa [round_neg] at hy
    have hbelow : ((1 : ℕ) : ℚ) / (10 ^ j : ℕ) ≤ (x.units : ℚ) / (2 ^ F.scale : ℕ) := by
      rw [← val_eq_div]
      exact_mod_cast hge
    -- so `x` is what the power of ten rounds to
    obtain rfl : y = x := by
      refine eq_of_units_eq (Nat.le_antisymm ?_ ?_)
      · exact units_le_of_ratio_le hten hscale hratio (roundRatio_self x) hbelow
      · exact units_le_of_round (round_shortest x) hy (h.le.trans_eq hpower.symm)
    -- and so is the multiple of that power next below it
    set m := y.units * 10 ^ j / 2 ^ F.scale with hm
    have hone : 1 ≤ m := by
      rw [hm, Nat.one_le_div_iff hscale]
      rw [div_le_div_iff₀ (by positivity) (by positivity)] at hbelow
      have : 1 * 2 ^ F.scale ≤ y.units * 10 ^ j := by exact_mod_cast hbelow
      omega
    have hround : round F m (-j) = some y := by
      rw [round_neg]
      refine roundRatio_between hten hten hscale hratio (roundRatio_self y) ?_ ?_
      · gcongr
      · rw [div_le_div_iff₀ (by positivity) (by positivity)]
        exact_mod_cast Nat.div_mul_le_self _ _
    have hmem : m ∈ y.neighbours (-j) := by simpa using mem_neighbours y (-j)
    have hend : -(j : ℤ) ≤ y.shortest.2 := le_shortest_scale hx hmem hround (by omega) (by omega)
    have hcoefficient : 1 ≤ y.shortest.1 := Nat.one_le_iff_ne_zero.mpr (shortest_ne_zero hx)
    have hge' : ((1 : ℕ) : ℚ) * 10 ^ (-(j : ℤ)) ≤ y.shortest.1 * 10 ^ y.shortest.2 :=
      mul_le_mul (by exact_mod_cast hcoefficient) (zpow_le_zpow_right₀ (by norm_num) hend)
        (by positivity) (by positivity)
    exact absurd h (not_lt.mpr (hpower.symm.trans_le hge'))

/-! ## Whole numbers -/

theorem scale_shortest_nonneg {x : Magnitude F} (hx : x.units ≠ 0)
    (hwhole : 2 ^ F.scale ∣ x.units) : 0 ≤ x.shortest.2 := by
  obtain ⟨n, hn⟩ := hwhole
  have hpos : 0 < 2 ^ F.scale := Nat.two_pow_pos _
  have hmem : n ∈ x.neighbours 0 := by
    simpa [hn, Nat.mul_div_cancel_left _ hpos] using mem_neighbours x 0
  have hround : round F n 0 = some x := by
    rw [round_eq_roundRatio, ← roundRatio_self x, hn, ← roundRatio_scale hpos]
    simp
  exact le_shortest_scale hx hmem hround (by omega) (by omega)

/-- From as many units on as a whole number with all significant bits, magnitudes are whole. -/
theorem whole_of_le {x : Magnitude F} (h : 2 ^ (F.scale + F.precision) ≤ x.units) :
    2 ^ F.scale ∣ x.units := by
  have hne : x.units ≠ 0 := ((Nat.two_pow_pos _).trans_le h).ne'
  have hlog : F.scale + F.precision ≤ Nat.log2 x.units := (Nat.le_log2 hne).mpr h
  exact (pow_dvd_pow 2 (by omega)).trans x.representable.1

/-- Rounding keeps what lies above a power of two above it. -/
theorem two_pow_le_units {c n : ℕ} {k : ℤ} {x : Magnitude F} (h : round F c k = some x)
    (hle : (2 : ℚ) ^ n ≤ c * 10 ^ k) : 2 ^ (F.scale + n) ≤ x.units := by
  rw [round_eq_roundRatio] at h
  have hmono : roundedUnits F (2 ^ n) 1 ≤ x.units := by
    rw [roundRatio_eq_some h]
    refine roundedUnits_mono Nat.one_pos (Nat.pow_pos (by decide)) ?_
    rw [← decimal_eq_div]
    simpa using hle
  refine le_trans ?_ hmono
  have hpower : 2 ^ n * 2 ^ F.scale / 1 = 2 ^ (F.scale + n) := by
    rw [Nat.div_one, ← pow_add, Nat.add_comm]
  have hlower := two_pow_log2_le_roundedUnits (F := F) (a := 2 ^ n) (d := 1)
    (by rw [hpower]; exact (Nat.two_pow_pos _).ne')
  rwa [hpower, Nat.log2_two_pow] at hlower

theorem representable_whole {n : ℕ} (h : n ≤ 2 ^ (F.precision + 1))
    (hlimit : F.precision + 1 + F.scale < F.limit) : F.Representable (n * 2 ^ F.scale) := by
  constructor
  · rcases h.lt_or_eq with hlt | rfl
    · have hlog : Nat.log2 (n * 2 ^ F.scale) - F.precision ≤ F.scale := by
        rcases Nat.eq_zero_or_pos n with rfl | hpos
        · simp
        · have : Nat.log2 (n * 2 ^ F.scale) < F.precision + 1 + F.scale := by
            rw [Nat.log2_lt (by positivity), pow_add]
            exact Nat.mul_lt_mul_of_pos_right hlt (Nat.two_pow_pos _)
          omega
      exact (pow_dvd_pow 2 hlog).trans (Dvd.intro_left n rfl)
    · rw [← pow_add, Nat.log2_two_pow]
      exact pow_dvd_pow 2 (by omega)
  · calc n * 2 ^ F.scale ≤ 2 ^ (F.precision + 1) * 2 ^ F.scale := Nat.mul_le_mul_right _ h
      _ = 2 ^ (F.precision + 1 + F.scale) := (pow_add _ _ _).symm
      _ < 2 ^ F.limit := Nat.pow_lt_pow_right (by decide) hlimit

theorem round_whole_self {n : ℕ} (h : F.Representable (n * 2 ^ F.scale)) :
    round F n 0 = some ⟨n * 2 ^ F.scale, h⟩ := by
  have hscale : roundRatio F (n * 2 ^ F.scale) (2 ^ F.scale) = roundRatio F n 1 := by
    have hmul := roundRatio_scale (F := F) (Nat.two_pow_pos F.scale) n 1
    rwa [Nat.mul_one, Nat.mul_comm] at hmul
  simpa [round_eq_roundRatio] using hscale.symm.trans (roundRatio_self ⟨_, h⟩)

/-- A whole number that fits into the significant bits is rounded to itself. -/
theorem roundedUnits_whole {n : ℕ} (h : n < 2 ^ (F.precision + 1)) :
    roundedUnits F n 1 = n * 2 ^ F.scale := by
  rcases Nat.eq_zero_or_pos n with rfl | hpos
  · simp [roundedUnits, nearestEven]
  have hlog : Nat.log2 (n * 2 ^ F.scale) < F.precision + 1 + F.scale := by
    rw [Nat.log2_lt (by positivity), pow_add]
    exact Nat.mul_lt_mul_of_pos_right h (Nat.two_pow_pos _)
  have hbits : droppedBits F n 1 ≤ F.scale := by
    rw [droppedBits, Nat.div_one]
    omega
  obtain ⟨m, hm⟩ := Nat.exists_eq_add_of_le hbits
  have hsplit : n * 2 ^ F.scale = n * 2 ^ m * 2 ^ droppedBits F n 1 := by
    rw [Nat.mul_assoc, ← pow_add, hm, Nat.add_comm m]
  rw [roundedUnits, Nat.one_mul, hsplit, nearestEven_mul _ (Nat.two_pow_pos _)]

theorem eq_of_round_whole {m n : ℕ} {x : Magnitude F} (hm : round F m 0 = some x)
    (hn : x.units = n * 2 ^ F.scale) (h : n < 2 ^ (F.precision + 1)) : m = n := by
  have hunits : roundedUnits F m 1 = x.units := by
    rw [round_eq_roundRatio] at hm
    simpa using (roundRatio_eq_some hm).symm
  have hlt : m < 2 ^ (F.precision + 1) := by
    by_contra hge
    have hle := two_pow_le_units (n := F.precision + 1) hm (by
      rw [zpow_zero, mul_one]
      exact_mod_cast not_lt.mp hge)
    rw [hn, Nat.add_comm, pow_add] at hle
    exact absurd (Nat.le_of_mul_le_mul_right hle (Nat.two_pow_pos _)) (not_le.mpr h)
  rw [roundedUnits_whole hlt, hn] at hunits
  exact Nat.eq_of_mul_eq_mul_right (Nat.two_pow_pos _) hunits

end Magnitude

end RemoteInfra.Library
