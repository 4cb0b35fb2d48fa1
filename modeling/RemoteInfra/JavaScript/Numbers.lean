import RemoteInfra.Library.Layouts
import RemoteInfra.Library.ShortestDecimal
import RemoteInfra.Python.Texts

/-!
# Numbers and their texts

`Number::toString` prints the digits that Python's `repr` prints.  The two languages switch to
exponents at different sizes, and only Python writes an exponent with at least two digits.
-/

namespace RemoteInfra.JavaScript

open RemoteInfra.Library RemoteInfra.Library.Decimal RemoteInfra.Python

/-- A Number is a binary64 value, as is a Python float. -/
abbrev Number := PyFloat

/-- An exponent, of as many digits as it has, below `1e-6` and from `1e21`. -/
def numberNumeral (d : Double) : Numeral :=
  if -6 < floatPoint d ∧ floatPoint d ≤ 21 then fixedLayout (floatDigits d) (floatPoint d) none
  else exponentLayout (floatDigits d) (floatPoint d) 1

/-- `Number::toString`; both zeros are printed alike. -/
def numberToString : Number → List Char
  | .nan => "NaN".toList
  | .infinity negative => signText negative ++ "Infinity".toList
  | .finite negative d =>
      if d.units = 0 then ['0'] else signText negative ++ (numberNumeral d).text

/-- The two languages lay the number out differently. -/
def LaidApart (x : Number) : Prop := ∃ q, x.val = some q ∧ 1 / 10 ^ 9 ≤ |q| ∧ |q| < 1 / 10 ^ 4

/-! ## Where the decimal point stands -/

theorem numberNumeral_wellFormed (d : Double) : (numberNumeral d).WellFormed := by
  unfold numberNumeral
  split_ifs
  · exact fixedLayout_wellFormed (floatDigits_ne_nil d) (floatDigits_lt d) _ (by simp) (by simp)
  · exact exponentLayout_wellFormed (floatDigits_ne_nil d) (floatDigits_lt d) _ _

theorem numberNumeral_denotes (d : Double) :
    (numberNumeral d).Denotes d.shortest.1 d.shortest.2 := by
  rw [← value_floatDigits d, ← floatPoint_sub d]
  unfold numberNumeral
  split_ifs
  · exact fixedLayout_denotes (by simp)
  · exact exponentLayout_denotes (floatDigits_ne_nil d) _ _

theorem head_floatDigits {d : Double} (h : d.units ≠ 0) : (floatDigits d).head? ≠ some 0 :=
  head_natDigits (Magnitude.shortest_ne_zero h)

theorem floatPoint_le_iff {d : Double} (h : d.units ≠ 0) (n : ℤ) :
    floatPoint d ≤ n ↔ (d.shortest.1 : ℚ) * 10 ^ d.shortest.2 < 10 ^ n :=
  point_le_iff (Magnitude.shortest_ne_zero h) _ n

/-- A power of ten that does not round down tells where the point stands. -/
theorem floatPoint_le_neg_iff {d : Double} (h : d.units ≠ 0) {j : ℕ}
    (hlimit : Magnitude.roundedUnits double 1 (10 ^ j) < 2 ^ double.limit)
    (hup : 2 ^ double.scale ≤ Magnitude.roundedUnits double 1 (10 ^ j) * 10 ^ j)
    (hj : j ≤ double.scale) : floatPoint d ≤ -j ↔ d.val < 1 / 10 ^ j := by
  obtain ⟨y, hy⟩ : ∃ y, Magnitude.round double 1 (-j) = some y := by
    rw [Magnitude.round_neg, Magnitude.roundRatio, if_neg one_ne_zero, dif_pos hlimit]
    exact ⟨_, rfl⟩
  have hunits : y.units = Magnitude.roundedUnits double 1 (10 ^ j) := by
    rw [Magnitude.round_neg] at hy
    exact Magnitude.roundRatio_eq_some hy
  have hval : 1 / 10 ^ j ≤ y.val := by
    rw [Magnitude.val_eq_div, hunits, div_le_div_iff₀ (by positivity) (by positivity)]
    exact_mod_cast (Nat.one_mul _).trans_le hup
  rw [floatPoint_le_iff h, Magnitude.val_lt_iff_shortest_lt h hy hval hj, zpow_neg,
    zpow_natCast, one_div]

unseal double in
theorem floatPoint_le_neg_four {d : Double} (h : d.units ≠ 0) :
    floatPoint d ≤ -4 ↔ d.val < 1 / 10 ^ 4 :=
  floatPoint_le_neg_iff (j := 4) h (by decide +kernel) (by decide +kernel) (by decide)

unseal double in
theorem floatPoint_le_neg_nine {d : Double} (h : d.units ≠ 0) :
    floatPoint d ≤ -9 ↔ d.val < 1 / 10 ^ 9 :=
  floatPoint_le_neg_iff (j := 9) h (by decide +kernel) (by decide +kernel) (by decide)

/-- A number from `1e16` on is whole. -/
theorem shortest_nonneg_of_floatPoint {d : Double} (h : d.units ≠ 0) (hpoint : 16 < floatPoint d) :
    0 ≤ d.shortest.2 := by
  have hge : (10 : ℚ) ^ (16 : ℤ) ≤ d.shortest.1 * 10 ^ d.shortest.2 := by
    rw [← not_lt, ← floatPoint_le_iff h]
    omega
  have hbits : (2 : ℚ) ^ double.precision ≤ 10 ^ (16 : ℤ) := by
    have : double.precision = 52 := by
      unfold double
      rfl
    rw [this]
    norm_num
  have hunits := Magnitude.two_pow_le_units (Magnitude.round_shortest d) (hbits.trans hge)
  exact Magnitude.scale_shortest_nonneg h (Magnitude.whole_of_le hunits)

theorem val_nonneg (d : Double) : 0 ≤ d.val := by
  rw [Magnitude.val_eq_div]
  positivity

theorem abs_val_finite (negative : Bool) (d : Double) :
    |if negative then -d.val else d.val| = d.val := by
  cases negative
  · exact abs_of_nonneg (val_nonneg d)
  · exact (abs_neg _).trans (abs_of_nonneg (val_nonneg d))

theorem laidApart_finite_iff {negative : Bool} {d : Double} (h : d.units ≠ 0) :
    LaidApart (.finite negative d) ↔ -9 < floatPoint d ∧ floatPoint d ≤ -4 := by
  rw [floatPoint_le_neg_four h, ← not_le, floatPoint_le_neg_nine h, not_lt]
  simp only [LaidApart, PyFloat.val, Option.some.injEq, exists_eq_left', abs_val_finite]

theorem not_laidApart_zero {negative : Bool} {d : Double} (h : d.units = 0) :
    ¬LaidApart (.finite negative d) := by
  have hval : d.val = 0 := by simp [Magnitude.val_eq_div, h]
  simp only [LaidApart, PyFloat.val, Option.some.injEq, exists_eq_left', hval]
  norm_num

/-! ## Texts of the two languages -/

/-- Neither a point nor an exponent. -/
def IsDigits (n : Numeral) : Prop := n.fraction = none ∧ n.exponent = none

instance (n : Numeral) : Decidable (IsDigits n) := inferInstanceAs (Decidable (_ ∧ _))

/-- A printed number without a fraction has no decimal part. -/
theorem not_isDigits_iff {d : Double} (hpoint : -6 < floatPoint d ∧ floatPoint d ≤ 21) :
    ¬IsDigits (numberNumeral d) ↔ floatPoint d < (floatDigits d).length := by
  rw [IsDigits, numberNumeral, if_pos hpoint, exponent_fixedLayout, and_iff_left rfl,
    fraction_fixedLayout (floatDigits_ne_nil d), not_le]

/-- Where a point or an exponent is printed, the languages print one numeral unless they lay
the number out differently. -/
theorem numberNumeral_eq_iff {negative : Bool} {d : Double} (h : d.units ≠ 0)
    (hdigits : ¬IsDigits (numberNumeral d)) :
    numberNumeral d = reprNumeral d ↔ ¬LaidApart (.finite negative d) := by
  rw [laidApart_finite_iff h]
  by_cases hfixed : -6 < floatPoint d ∧ floatPoint d ≤ 21
  · have hfraction := (not_isDigits_iff hfixed).mp hdigits
    have hsmall : floatPoint d ≤ 16 := by
      by_contra hlarge
      have hnonneg := shortest_nonneg_of_floatPoint h (not_le.mp hlarge)
      rw [← floatPoint_sub] at hnonneg
      omega
    rw [numberNumeral, if_pos hfixed, reprNumeral]
    by_cases hpoint : -4 < floatPoint d
    · rw [if_pos ⟨hpoint, hsmall⟩, fixedLayout_ending hfraction none (some [0])]
      simp only [true_iff]
      omega
    · rw [if_neg (by omega)]
      simp only [fixedLayout_ne_exponentLayout, false_iff]
      omega
  · rw [numberNumeral, if_neg hfixed, reprNumeral, if_neg (by omega), exponentLayout_two_iff]
    omega

/-- What Python reads from the JSON text of a Number. -/
def readNumber : Number → PyValue
  | .finite negative d =>
      if IsDigits (numberNumeral d) then .int (signed negative (value (numberNumeral d).whole))
      else .float (.finite negative d)
  | _ => .none

theorem numberNumeral_zero {d : Double} (h : d.units = 0) :
    numberNumeral d = ⟨[0], none, none⟩ := by
  have hshortest : d.shortest = (0, 0) := by rw [Magnitude.shortest, if_pos h]
  have hdigits : floatDigits d = [0] := by rw [floatDigits, hshortest, natDigits, if_pos rfl]
  have hpoint : floatPoint d = 1 := by rw [floatPoint, hdigits, hshortest]; rfl
  rw [numberNumeral, hdigits, hpoint]
  rfl

theorem signed_zero (negative : Bool) : signed negative 0 = 0 := by
  cases negative <;> rfl

theorem readNumber_zero {negative : Bool} {d : Double} (h : d.units = 0) :
    readNumber (.finite negative d) = .int 0 := by
  rw [readNumber, numberNumeral_zero h, if_pos ⟨rfl, rfl⟩]
  exact congrArg PyValue.int (signed_zero negative)

/-- A numeral of digits alone is the fixed layout of a number from one on. -/
theorem fixed_of_isDigits {d : Double} (h : IsDigits (numberNumeral d)) :
    (-6 < floatPoint d ∧ floatPoint d ≤ 21) ∧ (floatDigits d).length ≤ floatPoint d := by
  have hfixed : -6 < floatPoint d ∧ floatPoint d ≤ 21 := by
    by_contra hexponent
    have hnone := h.2
    rw [numberNumeral, if_neg hexponent] at hnone
    cases hnone
  refine ⟨hfixed, ?_⟩
  by_contra hlt
  exact (not_isDigits_iff hfixed).mpr (not_le.mp hlt) h

/-- The digits of a number from one on, as printed, have no leading zero. -/
theorem whole_of_isDigits {d : Double} (hd : d.units ≠ 0) (h : IsDigits (numberNumeral d)) :
    value (numberNumeral d).whole ≠ 0 ∧
      natDigits (value (numberNumeral d).whole) = (numberNumeral d).whole := by
  obtain ⟨hfixed, hlength⟩ := fixed_of_isDigits h
  have hwell := numberNumeral_wellFormed d
  have hne := floatDigits_ne_nil d
  have hpos : 0 < (floatDigits d).length := List.length_pos_iff.mpr hne
  have hhead : (numberNumeral d).whole.head? ≠ some 0 := by
    rw [numberNumeral, if_pos hfixed, fixedLayout, if_neg (by omega), if_neg (by omega),
      List.head?_append_of_ne_nil _ hne]
    exact head_floatDigits hd
  have hdigits := natDigits_value hwell.whole_lt hwell.whole_ne hhead
  refine ⟨?_, hdigits⟩
  intro hzero
  rw [hzero] at hdigits
  rw [← hdigits] at hhead
  exact hhead rfl

/-- The text of a signed number that is not zero. -/
theorem intText_signed (negative : Bool) {n : ℕ} (h : n ≠ 0) :
    intText (signed negative n) = signText negative ++ natText n := by
  cases negative
  · have hneg : ¬(n : ℤ) < 0 := by omega
    simp only [signed, intText, hneg, decide_false, Bool.false_eq_true, if_false,
      Int.natAbs_natCast]
  · have hneg : -(n : ℤ) < 0 := by omega
    simp only [signed, intText, hneg, decide_true, if_true, Int.natAbs_neg, Int.natAbs_natCast]

variable [PythonPlatform]

/-- Python prints the number it read as it was written, unless the languages lay it out
differently. -/
theorem pyText_readNumber_iff (negative : Bool) (d : Double) :
    pyText (readNumber (.finite negative d)) =
        PyStr.ofList (numberToString (.finite negative d)) ↔
      ¬LaidApart (.finite negative d) := by
  by_cases hzero : d.units = 0
  · rw [readNumber_zero hzero, numberToString, if_pos hzero]
    exact iff_of_true rfl (not_laidApart_zero hzero)
  rw [numberToString, if_neg hzero, readNumber]
  split_ifs with hdigits
  · obtain ⟨hvalue, hwhole⟩ := whole_of_isDigits hzero hdigits
    refine iff_of_true ?_ ?_
    · rw [text_of_digits hdigits.1 hdigits.2]
      refine congrArg PyStr.ofList ?_
      rw [intText_signed negative hvalue, natText, hwhole]
    · rw [laidApart_finite_iff hzero]
      have hlength := (fixed_of_isDigits hdigits).2
      omega
  · have htext : pyText (.float (.finite negative d)) =
        PyStr.ofList (signText negative ++ (reprNumeral d).text) := rfl
    rw [htext, PyStr.ofList_injective.eq_iff, List.append_cancel_left_eq,
      (reprNumeral_wellFormed d).text_inj (numberNumeral_wellFormed d), eq_comm,
      numberNumeral_eq_iff hzero hdigits]

omit [PythonPlatform] in
/-- The digits alone round to the number they print. -/
theorem round_whole {d : Double} (h : IsDigits (numberNumeral d)) :
    Magnitude.round double (value (numberNumeral d).whole) 0 = some d := by
  obtain ⟨j, hcoefficient, hscale⟩ := numberNumeral_denotes d
  have hwhole : (numberNumeral d).coefficient = value (numberNumeral d).whole := by
    simp [Numeral.coefficient, h.1]
  have hpower : (numberNumeral d).scale = 0 := by
    simp [Numeral.scale, Numeral.power, h.1, h.2]
  rw [← hwhole, hcoefficient, Magnitude.round_mul_pow]
  rw [hpower] at hscale
  rw [hscale, Magnitude.round_shortest]

/-- `float` of what Python read is the number that was written. -/
theorem pyFloat_readNumber (negative : Bool) (d : Double) :
    ∃ x, pyFloat (readNumber (.finite negative d)) = .ok x ∧
      x.val = (PyFloat.finite negative d).val := by
  rw [readNumber]
  split_ifs with hdigits
  · have hround := round_whole hdigits
    set n := value (numberNumeral d).whole with hn
    have hfloat : pyFloat (.int (signed negative n)) =
        .ok (.finite (decide (signed negative n < 0)) d) := by
      have habs : (signed negative n).natAbs = n := by cases negative <;> simp [signed]
      simp only [pyFloat, floatOfInt, habs, hround]
    refine ⟨_, hfloat, ?_⟩
    cases negative
    · have hneg : ¬signed false n < 0 := by simp [signed]
      simp only [hneg, decide_false]
    · by_cases hzero : d.units = 0
      · have hval : d.val = 0 := by simp [Magnitude.val_eq_div, hzero]
        simp [PyFloat.val, hval]
      · have hpos : n ≠ 0 := (whole_of_isDigits hzero hdigits).1
        have hneg : signed true n < 0 := by
          simp only [signed, if_true]
          omega
        simp only [hneg, decide_true]
  · exact ⟨_, rfl, rfl⟩

/-! ## Integers -/

/-- An integer within the range that a Number counts through. -/
structure SafeInteger where
  val : ℤ
  le : val.natAbs ≤ 2 ^ 53

namespace SafeInteger

omit [PythonPlatform] in
theorem natAbs_zero_le : (0 : ℤ).natAbs ≤ 2 ^ 53 := by decide

omit [PythonPlatform] in
theorem natAbs_one_le : (1 : ℤ).natAbs ≤ 2 ^ 53 := by decide

unseal double in
def magnitude (n : SafeInteger) : Double :=
  ⟨n.val.natAbs * 2 ^ double.scale, Magnitude.representable_whole n.le (by decide)⟩

def toNumber (n : SafeInteger) : Number := .finite (n.val < 0) n.magnitude

/-- `++`, which no longer changes `2 ^ 53`. -/
def increment (n : SafeInteger) : SafeInteger :=
  if h : n.val < 2 ^ 53 then
    ⟨n.val + 1, by
      have := n.le
      omega⟩
  else n

omit [PythonPlatform] in
theorem val_magnitude (n : SafeInteger) : n.magnitude.val = n.val.natAbs := by
  rw [Magnitude.val_eq_div, magnitude]
  push_cast
  exact mul_div_cancel_right₀ _ (by positivity)

omit [PythonPlatform] in
theorem val_toNumber (n : SafeInteger) : n.toNumber.val = some (n.val : ℚ) := by
  simp only [toNumber, PyFloat.val, val_magnitude, Option.some.injEq, decide_eq_true_eq]
  rw [Nat.cast_natAbs]
  split_ifs with h
  · rw [abs_of_neg h, Int.cast_neg, neg_neg]
  · rw [abs_of_nonneg (not_lt.mp h)]

omit [PythonPlatform] in
theorem not_laidApart (n : SafeInteger) : ¬LaidApart n.toNumber := by
  rintro ⟨q, hq, hlow, hhigh⟩
  rw [val_toNumber] at hq
  obtain rfl := Option.some.inj hq
  rw [← Int.cast_abs] at hlow hhigh
  have hlt : |n.val| < 1 := by
    have : ((|n.val| : ℤ) : ℚ) < (1 : ℤ) := hhigh.trans (by norm_num)
    exact_mod_cast this
  rw [Int.abs_lt_one_iff.mp hlt] at hlow
  norm_num at hlow

theorem pyText_readNumber (n : SafeInteger) :
    pyText (readNumber n.toNumber) = PyStr.ofList (numberToString n.toNumber) :=
  (pyText_readNumber_iff _ _).mpr n.not_laidApart

omit [PythonPlatform] in
unseal double in
theorem isDigits (n : SafeInteger) : IsDigits (numberNumeral n.magnitude) := by
  by_cases hzero : n.magnitude.units = 0
  · rw [numberNumeral_zero hzero]
    exact ⟨rfl, rfl⟩
  have hlength : (floatDigits n.magnitude).length ≤ floatPoint n.magnitude := by
    have hnonneg := Magnitude.scale_shortest_nonneg hzero (Dvd.intro_left _ rfl)
    rw [← floatPoint_sub] at hnonneg
    omega
  have hpoint : floatPoint n.magnitude ≤ 21 := by
    by_contra hgt
    have hge : (10 : ℚ) ^ (21 : ℤ) ≤ n.magnitude.shortest.1 * 10 ^ n.magnitude.shortest.2 := by
      rw [← not_lt, ← floatPoint_le_iff hzero]
      exact hgt
    have hbits : (2 : ℚ) ^ 60 ≤ 10 ^ (21 : ℤ) := by norm_num
    have hunits := Magnitude.two_pow_le_units (Magnitude.round_shortest _) (hbits.trans hge)
    have hle : n.magnitude.units ≤ 2 ^ 53 * 2 ^ double.scale := Nat.mul_le_mul_right _ n.le
    exact absurd (hunits.trans hle) (by decide +kernel)
  have hfixed : -6 < floatPoint n.magnitude ∧ floatPoint n.magnitude ≤ 21 := ⟨by omega, hpoint⟩
  by_contra hdigits
  exact absurd ((not_isDigits_iff hfixed).mp hdigits) (not_lt.mpr hlength)

omit [PythonPlatform] in
unseal double in
/-- Python reads an integer back as that integer. -/
theorem readNumber_toNumber {n : SafeInteger} (h : n.val.natAbs < 2 ^ 53) :
    readNumber n.toNumber = .int n.val := by
  have hvalue := Magnitude.eq_of_round_whole (round_whole n.isDigits) rfl h
  rw [toNumber, readNumber, if_pos n.isDigits, hvalue, signed_natAbs]

end SafeInteger

end RemoteInfra.JavaScript
