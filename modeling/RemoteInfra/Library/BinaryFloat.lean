import Mathlib.Data.Nat.Log
import Mathlib.Data.Rat.Defs
import Mathlib.Tactic.Ring
import Mathlib.Tactic.Positivity

/-!
# Magnitudes of binary floating-point numbers

A finite magnitude is a whole number of units, the least positive magnitude of its format,
with a bounded number of significant bits.  A decimal `c · 10 ^ k` is rounded to the nearest
one, ties to even, and every magnitude has a shortest decimal that rounds back to it.
-/

namespace RemoteInfra.Library

/-- Units of `2 ^ -scale`, `precision + 1` significant bits, magnitudes below `2 ^ limit`
units. -/
structure BinaryFormat where
  precision : ℕ
  scale : ℕ
  limit : ℕ

def BinaryFormat.Representable (F : BinaryFormat) (units : ℕ) : Prop :=
  2 ^ (Nat.log2 units - F.precision) ∣ units ∧ units < 2 ^ F.limit

structure Magnitude (F : BinaryFormat) where
  units : ℕ
  representable : F.Representable units
  deriving DecidableEq

/-- `a / d` to the nearest whole number, ties to even. -/
def nearestEven (a d : ℕ) : ℕ :=
  if 2 * (a % d) < d then a / d
  else if d < 2 * (a % d) then a / d + 1
  else a / d + a / d % 2

theorem nearestEven_mul (m : ℕ) {d : ℕ} (hd : 0 < d) : nearestEven (m * d) d = m := by
  simp [nearestEven, Nat.mul_mod_left, hd]

theorem nearestEven_le (a d : ℕ) : nearestEven a d ≤ a / d + 1 := by
  unfold nearestEven
  split_ifs <;> omega

theorem le_nearestEven (a d : ℕ) : a / d ≤ nearestEven a d := by
  unfold nearestEven
  split_ifs <;> omega

theorem nearestEven_scale {k : ℕ} (hk : 0 < k) (a d : ℕ) :
    nearestEven (k * a) (k * d) = nearestEven a d := by
  have hscale : ∀ x y : ℕ, k * x < k * y ↔ x < y := fun x y ↦ Nat.mul_lt_mul_left hk
  unfold nearestEven
  rw [Nat.mul_mod_mul_left, Nat.mul_div_mul_left _ _ hk, Nat.mul_left_comm 2 k,
    if_congr (hscale _ _) rfl (if_congr (hscale _ _) rfl rfl)]

namespace Magnitude

variable {F : BinaryFormat}

def val (x : Magnitude F) : ℚ := mkRat x.units (2 ^ F.scale)

def floor (x : Magnitude F) : ℕ := x.units / 2 ^ F.scale

/-- A whole magnitude is its own floor. -/
theorem val_eq_floor {x : Magnitude F} (h : x.val.den = 1) : x.val = x.floor := by
  have hpos : (2 : ℕ) ^ F.scale ≠ 0 := (Nat.two_pow_pos _).ne'
  have hnum : x.val = mkRat x.val.num 1 := by
    conv_lhs => rw [← Rat.mkRat_self x.val, h]
  have hunits : (x.units : ℤ) = x.val.num * (2 ^ F.scale : ℕ) := by
    have heq := (Rat.mkRat_eq_iff hpos one_ne_zero).mp hnum
    rwa [Nat.cast_one, mul_one] at heq
  have hfloor : (x.floor : ℤ) = x.val.num := by
    rw [floor, Int.natCast_div, hunits, Int.mul_ediv_cancel _ (by exact_mod_cast hpos)]
  rw [← Int.cast_natCast x.floor, hfloor]
  exact hnum.trans (Rat.mkRat_one x.val.num)

/-- How many low bits of `a / d` units rounding drops. -/
def droppedBits (F : BinaryFormat) (a d : ℕ) : ℕ :=
  Nat.log2 (a * 2 ^ F.scale / d) - F.precision

def roundedUnits (F : BinaryFormat) (a d : ℕ) : ℕ :=
  nearestEven (a * 2 ^ F.scale) (d * 2 ^ droppedBits F a d) * 2 ^ droppedBits F a d

/-- Rounding keeps the significant bits of the format, or carries into a power of two. -/
theorem roundedUnits_dvd (a d : ℕ) :
    2 ^ (Nat.log2 (roundedUnits F a d) - F.precision) ∣ roundedUnits F a d := by
  set p := droppedBits F a d with hp
  set m := nearestEven (a * 2 ^ F.scale) (d * 2 ^ p) with hm
  have hunits : roundedUnits F a d = m * 2 ^ p := rfl
  have hquot : a * 2 ^ F.scale / d < 2 ^ (F.precision + 1 + p) := by
    refine Nat.lt_log2_self.trans_le (Nat.pow_le_pow_right (by decide) ?_)
    simp only [hp, droppedBits]
    omega
  have hfloor : a * 2 ^ F.scale / (d * 2 ^ p) < 2 ^ (F.precision + 1) := by
    rw [← Nat.div_div_eq_div_mul, Nat.div_lt_iff_lt_mul (by positivity), ← pow_add]
    exact hquot
  have hle : m ≤ 2 ^ (F.precision + 1) := (nearestEven_le _ _).trans hfloor
  rw [hunits]
  rcases Nat.lt_or_ge m (2 ^ (F.precision + 1)) with hlt | hge
  · rcases Nat.eq_zero_or_pos m with hzero | hpos
    · simp [hzero]
    · have hlog : Nat.log2 (m * 2 ^ p) < F.precision + 1 + p := by
        rw [Nat.log2_lt (by positivity), pow_add]
        exact Nat.mul_lt_mul_of_pos_right hlt (by positivity)
      exact (pow_dvd_pow 2 (by omega)).trans (Dvd.intro_left m rfl)
  · rw [hle.antisymm hge, ← pow_add, Nat.log2_two_pow]
    exact pow_dvd_pow 2 (by omega)

/-- Rounding never drops below the leading power of two. -/
theorem two_pow_log2_le_roundedUnits {a d : ℕ} (h : a * 2 ^ F.scale / d ≠ 0) :
    2 ^ Nat.log2 (a * 2 ^ F.scale / d) ≤ roundedUnits F a d := by
  set k := Nat.log2 (a * 2 ^ F.scale / d) with hk
  set p := droppedBits F a d with hp
  have hpk : p ≤ k := Nat.sub_le _ _
  have hpow : 2 ^ k = 2 ^ (k - p) * 2 ^ p := by rw [← pow_add, Nat.sub_add_cancel hpk]
  have hquot : 2 ^ (k - p) ≤ a * 2 ^ F.scale / (d * 2 ^ p) := by
    rw [← Nat.div_div_eq_div_mul, Nat.le_div_iff_mul_le (Nat.two_pow_pos p), ← hpow]
    exact Nat.log2_self_le h
  rw [hpow]
  exact Nat.mul_le_mul_right _ (hquot.trans (le_nearestEven _ _))

def zero : Magnitude F := ⟨0, Nat.dvd_zero _, Nat.two_pow_pos _⟩

/-- `a / d` rounded; `none` where it would round past the largest finite magnitude. -/
def roundRatio (F : BinaryFormat) (a d : ℕ) : Option (Magnitude F) :=
  -- zero first, so that the rounding of an unknown number does not unfold any further
  if a = 0 then some zero
  else if h : roundedUnits F a d < 2 ^ F.limit then
    some ⟨roundedUnits F a d, roundedUnits_dvd a d, h⟩
  else none

theorem roundRatio_congr {a d a' d' : ℕ} (hzero : a = 0 ↔ a' = 0)
    (h : roundedUnits F a d = roundedUnits F a' d') : roundRatio F a d = roundRatio F a' d' := by
  simp only [roundRatio, h, hzero]

theorem roundRatio_scale {k : ℕ} (hk : 0 < k) (a d : ℕ) :
    roundRatio F (k * a) (k * d) = roundRatio F a d := by
  have hbits : droppedBits F (k * a) (k * d) = droppedBits F a d := by
    simp only [droppedBits, Nat.mul_assoc, Nat.mul_div_mul_left _ _ hk]
  refine roundRatio_congr ?_ ?_
  · rw [Nat.mul_eq_zero, or_iff_right hk.ne']
  · simp only [roundedUnits, hbits, Nat.mul_assoc, nearestEven_scale hk]

/-- A magnitude is its own rounding. -/
theorem roundRatio_self (x : Magnitude F) : roundRatio F x.units (2 ^ F.scale) = some x := by
  have hpos : 0 < 2 ^ F.scale := Nat.two_pow_pos _
  have hbits : droppedBits F x.units (2 ^ F.scale) = Nat.log2 x.units - F.precision := by
    simp only [droppedBits, Nat.mul_div_cancel _ hpos]
  have hunits : roundedUnits F x.units (2 ^ F.scale) = x.units := by
    rw [roundedUnits, hbits, Nat.mul_comm x.units, nearestEven_scale hpos]
    obtain ⟨m, hm⟩ := x.representable.1
    generalize Nat.log2 x.units - F.precision = p at hm
    rw [hm, Nat.mul_comm (2 ^ p) m, nearestEven_mul m (Nat.two_pow_pos p)]
  obtain ⟨units, hx⟩ := x
  by_cases hzero : units = 0
  · subst hzero
    rfl
  · simp only [roundRatio, hunits, hx.2, hzero, if_false, dif_pos]

/-- `c · 10 ^ k` rounded. -/
def round (F : BinaryFormat) (c : ℕ) : ℤ → Option (Magnitude F)
  | .ofNat k => roundRatio F (c * 10 ^ k) 1
  | .negSucc k => roundRatio F c (10 ^ (k + 1))

theorem round_natCast (c k : ℕ) : round F c k = roundRatio F (c * 10 ^ k) 1 := rfl

theorem round_neg (c k : ℕ) : round F c (-k) = roundRatio F c (10 ^ k) := by
  cases k with
  | zero => simp [round]
  | succ k => rfl

/-- Only the number counts, not how its zeros are written. -/
theorem round_mul_ten (c : ℕ) (k : ℤ) : round F (c * 10) k = round F c (k + 1) := by
  rcases le_or_gt 0 k with hk | hk
  · obtain ⟨n, rfl⟩ := Int.eq_ofNat_of_zero_le hk
    have h := round_natCast (F := F) c (n + 1)
    push_cast at h
    rw [h, round_natCast, pow_succ]
    congr 1
    ring
  · obtain ⟨n, rfl⟩ : ∃ n : ℕ, k = -((n + 1 : ℕ) : ℤ) := ⟨k.natAbs - 1, by omega⟩
    have h : -((n + 1 : ℕ) : ℤ) + 1 = -(n : ℤ) := by push_cast; ring
    rw [h, round_neg, round_neg, pow_succ, Nat.mul_comm c, Nat.mul_comm (10 ^ n)]
    exact roundRatio_scale (by decide) _ _

theorem round_mul_pow (c j : ℕ) (k : ℤ) : round F (c * 10 ^ j) k = round F c (k + j) := by
  induction j generalizing k with
  | zero => simp
  | succ j ih =>
      rw [pow_succ, ← Nat.mul_assoc, round_mul_ten, ih]
      congr 1
      push_cast
      ring

/-- A whole number from 2 on rounds to at least 2. -/
theorem two_le_val_of_round {c : ℕ} {x : Magnitude F} (h : round F c 0 = some x) (hc : 2 ≤ c) :
    2 ≤ x.val := by
  have hround : roundRatio F (c * 10 ^ 0) 1 = some x := h
  rw [pow_zero, Nat.mul_one] at hround
  have hunits : x.units = roundedUnits F c 1 := by
    unfold roundRatio at hround
    rw [if_neg (by omega)] at hround
    split_ifs at hround
    rw [← Option.some.inj hround]
  have hle : 2 ^ (F.scale + 1) ≤ c * 2 ^ F.scale / 1 := by
    rw [Nat.div_one, pow_succ, Nat.mul_comm]
    exact Nat.mul_le_mul_right _ hc
  have hne : c * 2 ^ F.scale / 1 ≠ 0 := ((Nat.two_pow_pos _).trans_le hle).ne'
  have hlog : F.scale + 1 ≤ Nat.log2 (c * 2 ^ F.scale / 1) := (Nat.le_log2 hne).mpr hle
  have hbound : 2 * 2 ^ F.scale ≤ x.units := by
    rw [hunits, Nat.mul_comm, ← pow_succ]
    exact (Nat.pow_le_pow_right (by decide) hlog).trans (two_pow_log2_le_roundedUnits hne)
  rw [val, Rat.mkRat_eq_div, le_div_iff₀ (by exact_mod_cast Nat.two_pow_pos F.scale)]
  exact_mod_cast hbound

/-! ## Shortest decimals -/

/-- The two multiples of `10 ^ k` around `x`, as multiples, the closer one first. -/
def neighbours (x : Magnitude F) : ℤ → List ℕ
  | .ofNat k => around x.units (2 ^ F.scale * 10 ^ k)
  | .negSucc k => around (x.units * 10 ^ (k + 1)) (2 ^ F.scale)
where
  around (a d : ℕ) : List ℕ :=
    if 2 * (a % d) ≤ d then [a / d, a / d + 1] else [a / d + 1, a / d]

/-- The coarsest decimal that rounds to `x`, at most `n` powers of ten above the one at
which `x` itself is a decimal. -/
def coarsest (x : Magnitude F) : ℕ → ℕ × ℤ
  | 0 => (x.units * 5 ^ F.scale, -F.scale)
  | n + 1 =>
      let k : ℤ := (n + 1 : ℕ) - (F.scale : ℤ)
      match (x.neighbours k).find? fun c ↦ round F c k = some x with
      | some c => (c, k)
      | none => coarsest x n

/-- The fewest significant digits that read back as `x`, as a coefficient and a power of
ten.  `10 ^ limit` is past every magnitude. -/
def shortest (x : Magnitude F) : ℕ × ℤ :=
  if x.units = 0 then (0, 0) else x.coarsest (F.scale + F.limit)

theorem round_exact (x : Magnitude F) : round F (x.units * 5 ^ F.scale) (-F.scale) = some x := by
  have hten : 10 ^ F.scale = 5 ^ F.scale * 2 ^ F.scale := by rw [← Nat.mul_pow]
  rw [round_neg, hten, Nat.mul_comm x.units, roundRatio_scale (by positivity)]
  exact roundRatio_self x

theorem round_coarsest (x : Magnitude F) (n : ℕ) :
    round F (x.coarsest n).1 (x.coarsest n).2 = some x := by
  induction n with
  | zero => exact round_exact x
  | succ n ih =>
      simp only [coarsest]
      split
      · rename_i c hc
        simpa using List.find?_some hc
      · exact ih

/-- The shortest digits of a magnitude read back as that magnitude. -/
theorem round_shortest (x : Magnitude F) : round F x.shortest.1 x.shortest.2 = some x := by
  unfold shortest
  split_ifs with h
  · have hexact := round_exact x
    rw [h, Nat.zero_mul, ← Nat.zero_mul (10 ^ F.scale), round_mul_pow, neg_add_cancel] at hexact
    exact hexact
  · exact round_coarsest x _

end Magnitude

end RemoteInfra.Library
