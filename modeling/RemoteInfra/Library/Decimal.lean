import Mathlib.Data.Nat.Digits.Defs
import Mathlib.Tactic.IntervalCases

/-!
# Decimal numerals

The common shape of decimal numerals in programming languages: a whole part, an optional
fraction, an optional exponent.  Scanning a numeral's text gives the numeral back, and the
usual layouts of a number's significant digits all denote that number.
-/

namespace RemoteInfra.Library.Decimal

def digitChar (d : ℕ) : Char := Char.ofNat (d + 48)

def digitValue (c : Char) : Option ℕ :=
  if 48 ≤ c.toNat ∧ c.toNat ≤ 57 then some (c.toNat - 48) else none

theorem digitValue_digitChar {d : ℕ} (h : d < 10) : digitValue (digitChar d) = some d := by
  interval_cases d <;> rfl

/-- The number a list of digits denotes, the most significant digit first. -/
def value (ds : List ℕ) : ℕ := Nat.ofDigits 10 ds.reverse

theorem value_append_zeros (ds : List ℕ) (k : ℕ) :
    value (ds ++ List.replicate k 0) = value ds * 10 ^ k := by
  simp only [value, List.reverse_append, List.reverse_replicate, Nat.ofDigits_append,
    Nat.ofDigits_replicate_zero, List.length_replicate, zero_add]
  exact Nat.mul_comm _ _

theorem value_zeros_append (k : ℕ) (ds : List ℕ) :
    value (List.replicate k 0 ++ ds) = value ds := by
  simp [value, Nat.ofDigits_append]

/-- The digits of a number, without leading zeros. -/
def natDigits (n : ℕ) : List ℕ := if n = 0 then [0] else (Nat.digits 10 n).reverse

@[simp] theorem value_natDigits (n : ℕ) : value (natDigits n) = n := by
  unfold natDigits value
  split_ifs with h
  · simp [h]
  · rw [List.reverse_reverse, Nat.ofDigits_digits]

theorem natDigits_lt {n d : ℕ} (h : d ∈ natDigits n) : d < 10 := by
  unfold natDigits at h
  split_ifs at h with hn
  · obtain rfl := List.mem_singleton.mp h
    decide
  · exact Nat.digits_lt_base (by decide) (List.mem_reverse.mp h)

theorem natDigits_ne_nil (n : ℕ) : natDigits n ≠ [] := by
  unfold natDigits
  split_ifs with h
  · exact List.cons_ne_nil _ _
  · simpa [Nat.digits_ne_nil_iff_ne_zero] using h

theorem natDigits_injective : Function.Injective natDigits := by
  intro m n h
  rw [← value_natDigits m, h, value_natDigits]

def digitsText (ds : List ℕ) : List Char := ds.map digitChar

def natText (n : ℕ) : List Char := digitsText (natDigits n)

/-- The longest run of digits at the front. -/
def scanDigits : List Char → List ℕ × List Char
  | [] => ([], [])
  | c :: cs =>
      match digitValue c with
      | some d => (d :: (scanDigits cs).1, (scanDigits cs).2)
      | none => ([], c :: cs)

theorem digitValue_lt {c : Char} {d : ℕ} (h : digitValue c = some d) : d < 10 := by
  unfold digitValue at h
  split_ifs at h with hdigit
  obtain rfl := Option.some.inj h
  omega

theorem scanDigits_lt (cs : List Char) : ∀ d ∈ (scanDigits cs).1, d < 10 := by
  induction cs with
  | nil => simp [scanDigits]
  | cons c cs ih =>
      cases hc : digitValue c with
      | none => simp [scanDigits, hc]
      | some d =>
          simp only [scanDigits, hc, List.forall_mem_cons]
          exact ⟨digitValue_lt hc, ih⟩

/-- No digit at the front. -/
def NoDigit (cs : List Char) : Prop := ∀ c ∈ cs.head?, digitValue c = none

theorem scanDigits_of_noDigit {cs : List Char} (h : NoDigit cs) : scanDigits cs = ([], cs) := by
  cases cs with
  | nil => rfl
  | cons c cs => simp [scanDigits, h c rfl]

theorem scanDigits_text {ds : List ℕ} (hds : ∀ d ∈ ds, d < 10) {rest : List Char}
    (hrest : NoDigit rest) : scanDigits (digitsText ds ++ rest) = (ds, rest) := by
  induction ds with
  | nil => exact scanDigits_of_noDigit hrest
  | cons d ds ih =>
      have htail := ih fun c hc ↦ hds c (List.mem_cons_of_mem d hc)
      have hhead := digitValue_digitChar (hds d List.mem_cons_self)
      simp only [digitsText, List.map_cons, List.cons_append, scanDigits, hhead]
      rw [show List.map digitChar ds ++ rest = digitsText ds ++ rest from rfl, htail]

/-- A character that a digit run consumed is a digit. -/
theorem mem_of_scanDigits {cs rest : List Char} {ds : List ℕ} (h : scanDigits cs = (ds, rest))
    {c : Char} (hc : c ∈ cs) : (digitValue c).isSome ∨ c ∈ rest := by
  induction cs generalizing ds with
  | nil => simp at hc
  | cons d cs ih =>
      simp only [scanDigits] at h
      split at h
      · rename_i v hv
        obtain ⟨-, rfl⟩ := Prod.mk.inj h
        rcases List.mem_cons.mp hc with rfl | hc
        · exact .inl (by simp [hv])
        · exact ih (Prod.mk.eta.symm) hc
      · obtain ⟨-, rfl⟩ := Prod.mk.inj h
        exact .inr hc

/-- A numeral as written, its exponent with a sign and digits. -/
structure Numeral where
  whole : List ℕ
  fraction : Option (List ℕ)
  exponent : Option (Bool × List ℕ)
  deriving DecidableEq

namespace Numeral

/-- Every part that is there has digits, and decimal ones. -/
structure WellFormed (n : Numeral) : Prop where
  whole_ne : n.whole ≠ []
  whole_lt : ∀ d ∈ n.whole, d < 10
  fraction_ne : n.fraction ≠ some []
  fraction_lt : ∀ ds ∈ n.fraction, ∀ d ∈ ds, d < 10
  exponent_ne : ∀ x ∈ n.exponent, x.2 ≠ []
  exponent_lt : ∀ x ∈ n.exponent, ∀ d ∈ x.2, d < 10

def fractionText : Option (List ℕ) → List Char
  | none => []
  | some ds => '.' :: digitsText ds

def exponentText : Option (Bool × List ℕ) → List Char
  | none => []
  | some (negative, ds) => 'e' :: (if negative then '-' else '+') :: digitsText ds

def text (n : Numeral) : List Char :=
  digitsText n.whole ++ (fractionText n.fraction ++ exponentText n.exponent)

/-- The numeral denotes `coefficient · 10 ^ scale`. -/
def coefficient (n : Numeral) : ℕ := value (n.whole ++ n.fraction.getD [])

def power : Option (Bool × List ℕ) → ℤ
  | none => 0
  | some (negative, ds) => if negative then -(value ds : ℤ) else value ds

def scale (n : Numeral) : ℤ := power n.exponent - (n.fraction.getD []).length

end Numeral

def scanFraction : List Char → Option (List ℕ) × List Char
  | '.' :: cs => (some (scanDigits cs).1, (scanDigits cs).2)
  | cs => (none, cs)

def scanSign : List Char → Bool × List Char
  | '-' :: cs => (true, cs)
  | '+' :: cs => (false, cs)
  | cs => (false, cs)

/-- An exponent without digits is none at all. -/
def scanExponent : List Char → Option (Bool × List ℕ) × List Char
  | [] => (none, [])
  | c :: cs =>
      if c = 'e' ∨ c = 'E' then
        match scanDigits (scanSign cs).2 with
        | ([], _) => (none, c :: cs)
        | (d :: ds, rest) => (some ((scanSign cs).1, d :: ds), rest)
      else (none, c :: cs)

def scanNumeral (cs : List Char) : Numeral × List Char :=
  let whole := scanDigits cs
  let fraction := scanFraction whole.2
  let exponent := scanExponent fraction.2
  (⟨whole.1, fraction.1, exponent.1⟩, exponent.2)

/-! ## Characters of numerals -/

def IsDigit (c : Char) : Prop := 48 ≤ c.toNat ∧ c.toNat ≤ 57

theorem isDigit_iff {c : Char} : IsDigit c ↔ (digitValue c).isSome := by
  simp only [IsDigit, digitValue]
  split_ifs with h <;> simp [h]

/-- A character that stands in some numeral. -/
def IsNumeralChar (c : Char) : Prop := IsDigit c ∨ c ∈ ['.', 'e', 'E', '+', '-']

theorem isDigit_digitChar {d : ℕ} (h : d < 10) : IsDigit (digitChar d) := by
  simp [isDigit_iff, digitValue_digitChar h]

theorem isDigit_digitsText {ds : List ℕ} (h : ∀ d ∈ ds, d < 10) :
    ∀ c ∈ digitsText ds, IsDigit c := by
  intro c hc
  obtain ⟨d, hd, rfl⟩ := List.mem_map.mp hc
  exact isDigit_digitChar (h d hd)

theorem Numeral.WellFormed.isNumeralChar {n : Numeral} (h : n.WellFormed) :
    ∀ c ∈ n.text, IsNumeralChar c := by
  intro c hc
  rcases List.mem_append.mp hc with hc | hc
  · exact .inl (isDigit_digitsText h.whole_lt c hc)
  rcases List.mem_append.mp hc with hc | hc
  · cases hfraction : n.fraction with
    | none => simp [hfraction, fractionText] at hc
    | some ds =>
        rw [hfraction, fractionText] at hc
        rcases List.mem_cons.mp hc with rfl | hc
        · exact .inr (by decide)
        · exact .inl (isDigit_digitsText (h.fraction_lt ds hfraction) c hc)
  · cases hexponent : n.exponent with
    | none => simp [hexponent, exponentText] at hc
    | some x =>
        obtain ⟨negative, ds⟩ := x
        rw [hexponent, exponentText] at hc
        rcases List.mem_cons.mp hc with rfl | hc
        · exact .inr (by decide)
        rcases List.mem_cons.mp hc with rfl | hc
        · cases negative <;> exact .inr (by decide)
        · exact .inl (isDigit_digitsText (h.exponent_lt (negative, ds) hexponent) c hc)

theorem Numeral.WellFormed.isDigit_head {n : Numeral} (h : n.WellFormed) :
    ∃ c cs, n.text = c :: cs ∧ IsDigit c := by
  obtain ⟨d, ds, hwhole⟩ := List.exists_cons_of_ne_nil h.whole_ne
  have hd : d < 10 := h.whole_lt d (by simp [hwhole])
  have htext : n.text = digitChar d :: (digitsText ds ++ (fractionText n.fraction ++
      exponentText n.exponent)) := by
    rw [text, hwhole]
    rfl
  exact ⟨_, _, htext, isDigit_digitChar hd⟩

theorem mem_of_scanSign {cs : List Char} {c : Char} (hc : c ∈ cs) :
    c ∈ ['+', '-'] ∨ c ∈ (scanSign cs).2 := by
  unfold scanSign
  split
  · rcases List.mem_cons.mp hc with rfl | hc
    · exact .inl (by decide)
    · exact .inr hc
  · rcases List.mem_cons.mp hc with rfl | hc
    · exact .inl (by decide)
    · exact .inr hc
  · exact .inr hc

theorem mem_of_scanFraction {cs : List Char} {c : Char} (hc : c ∈ cs) :
    IsNumeralChar c ∨ c ∈ (scanFraction cs).2 := by
  unfold scanFraction
  split
  · rcases List.mem_cons.mp hc with rfl | hc
    · exact .inl (.inr (by decide))
    · exact (mem_of_scanDigits rfl hc).imp (fun h ↦ .inl (isDigit_iff.mpr h)) id
  · exact .inr hc

theorem mem_of_scanExponent {cs : List Char} {c : Char} (hc : c ∈ cs) :
    IsNumeralChar c ∨ c ∈ (scanExponent cs).2 := by
  cases cs with
  | nil => simp at hc
  | cons d cs =>
      simp only [scanExponent]
      split_ifs with hd
      · split
        · exact .inr hc
        · rename_i e es rest hscan
          rcases List.mem_cons.mp hc with rfl | hc
          · exact .inl (.inr (by rcases hd with rfl | rfl <;> decide))
          rcases mem_of_scanSign hc with hsign | hc
          · rcases List.mem_cons.mp hsign with rfl | hsign
            · exact .inl (.inr (by decide))
            · obtain rfl := List.mem_singleton.mp hsign
              exact .inl (.inr (by decide))
          · exact (mem_of_scanDigits hscan hc).imp (fun h ↦ .inl (isDigit_iff.mpr h)) id
      · exact .inr hc

/-- Every character of a scanned text stands in the numeral or is left over. -/
theorem mem_of_scanNumeral {cs : List Char} {c : Char} (hc : c ∈ cs) :
    IsNumeralChar c ∨ c ∈ (scanNumeral cs).2 := by
  have hscan : scanDigits cs = ((scanDigits cs).1, (scanDigits cs).2) := rfl
  rcases mem_of_scanDigits hscan hc with h | hc
  · exact .inl (.inl (isDigit_iff.mpr h))
  · exact (mem_of_scanFraction hc).elim .inl mem_of_scanExponent

theorem noDigit_nil : NoDigit [] := by simp [NoDigit]

theorem noDigit_cons {c : Char} {cs : List Char} (h : digitValue c = none) :
    NoDigit (c :: cs) := by simpa [NoDigit] using h

/-- What may follow a numeral: nothing that its text could go on with. -/
structure Ends (cs : List Char) : Prop where
  noDigit : NoDigit cs
  noPoint : cs.head? ≠ some '.'
  noExponent : cs.head? ≠ some 'e' ∧ cs.head? ≠ some 'E'

theorem ends_nil : Ends [] := ⟨noDigit_nil, by simp, by simp⟩

theorem scanExponent_of_ends {cs : List Char} (h : Ends cs) : scanExponent cs = (none, cs) := by
  cases cs with
  | nil => rfl
  | cons c cs =>
      have hc : ¬(c = 'e' ∨ c = 'E') := by simpa [not_or] using h.noExponent
      simp [scanExponent, hc]

theorem scanExponent_text {x : Option (Bool × List ℕ)} (hne : ∀ y ∈ x, y.2 ≠ [])
    (hlt : ∀ y ∈ x, ∀ d ∈ y.2, d < 10) {rest : List Char} (hrest : Ends rest) :
    scanExponent (Numeral.exponentText x ++ rest) = (x, rest) := by
  rcases x with _ | ⟨negative, _ | ⟨d, ds⟩⟩
  · exact scanExponent_of_ends hrest
  · exact absurd rfl (hne _ rfl)
  · have hdigits : scanDigits (digitsText (d :: ds) ++ rest) = (d :: ds, rest) :=
      scanDigits_text (hlt (negative, d :: ds) rfl) hrest.noDigit
    have hsign : scanSign ((if negative then '-' else '+') :: digitsText (d :: ds) ++ rest) =
        (negative, digitsText (d :: ds) ++ rest) := by
      cases negative <;> rfl
    simp only [Numeral.exponentText, List.cons_append] at hsign ⊢
    simp [scanExponent, hsign, hdigits]

theorem scanFraction_text {x : Option (List ℕ)} (hlt : ∀ ds ∈ x, ∀ d ∈ ds, d < 10)
    {rest : List Char} (hdigit : NoDigit rest) (hpoint : rest.head? ≠ some '.') :
    scanFraction (Numeral.fractionText x ++ rest) = (x, rest) := by
  cases x with
  | none =>
      simp only [Numeral.fractionText, List.nil_append]
      unfold scanFraction
      split
      · simp at hpoint
      · rfl
  | some ds =>
      simp [Numeral.fractionText, scanFraction, scanDigits_text (hlt ds rfl) hdigit]

theorem noDigit_exponentText (x : Option (Bool × List ℕ)) {rest : List Char} (h : Ends rest) :
    NoDigit (Numeral.exponentText x ++ rest) ∧
      (Numeral.exponentText x ++ rest).head? ≠ some '.' := by
  cases x with
  | none => exact ⟨h.noDigit, h.noPoint⟩
  | some x => exact ⟨noDigit_cons (by decide), by simp [Numeral.exponentText]⟩

theorem noDigit_fractionText (x : Option (List ℕ)) {rest : List Char} (h : NoDigit rest) :
    NoDigit (Numeral.fractionText x ++ rest) := by
  cases x with
  | none => exact h
  | some ds => exact noDigit_cons (by decide)

/-- Scanning the text of a numeral gives the numeral back. -/
theorem scanNumeral_text {n : Numeral} (hn : n.WellFormed) {rest : List Char}
    (hrest : Ends rest) : scanNumeral (n.text ++ rest) = (n, rest) := by
  obtain ⟨hexpDigit, hexpPoint⟩ := noDigit_exponentText n.exponent hrest
  have hwhole := scanDigits_text hn.whole_lt (noDigit_fractionText n.fraction hexpDigit)
  have hfraction := scanFraction_text hn.fraction_lt hexpDigit hexpPoint
  have hexponent := scanExponent_text hn.exponent_ne hn.exponent_lt hrest
  simp only [scanNumeral, Numeral.text, List.append_assoc, hwhole, hfraction, hexponent]

/-! ## Layouts of significant digits -/

/-- The numeral denotes `c · 10 ^ k`. -/
def Numeral.Denotes (n : Numeral) (c : ℕ) (k : ℤ) : Prop :=
  ∃ j : ℕ, n.coefficient = c * 10 ^ j ∧ n.scale + j = k

/-- Digits with the decimal point after the first `point` of them, filled with zeros on
either side; `ending` is the fraction of a whole number. -/
def fixedLayout (ds : List ℕ) (point : ℤ) (ending : Option (List ℕ)) : Numeral :=
  if point ≤ 0 then ⟨[0], some (List.replicate (-point).toNat 0 ++ ds), none⟩
  else if point < ds.length then ⟨ds.take point.toNat, some (ds.drop point.toNat), none⟩
  else ⟨ds ++ List.replicate (point - ds.length).toNat 0, ending, none⟩

/-- At least `width` digits. -/
def padded (width : ℕ) (ds : List ℕ) : List ℕ := List.replicate (width - ds.length) 0 ++ ds

/-- One digit before the point, and an exponent of at least `width` digits. -/
def exponentLayout (ds : List ℕ) (point : ℤ) (width : ℕ) : Numeral :=
  { whole := ds.take 1
    fraction := if ds.length ≤ 1 then none else some (ds.drop 1)
    exponent := some (point < 1, padded width (natDigits (point - 1).natAbs)) }

theorem fixedLayout_denotes {ds : List ℕ} {point : ℤ} {ending : Option (List ℕ)}
    (hending : ∀ e ∈ ending, ∃ k, e = List.replicate k 0) :
    (fixedLayout ds point ending).Denotes (value ds) (point - ds.length) := by
  unfold fixedLayout
  split_ifs with hneg hlt
  · refine ⟨0, ?_, ?_⟩
    · have hzero := value_zeros_append ((-point).toNat + 1) ds
      rw [List.replicate_succ, List.cons_append] at hzero
      simpa only [Numeral.coefficient, Option.getD_some, List.singleton_append, pow_zero,
        Nat.mul_one] using hzero
    · simp only [Numeral.scale, Numeral.power, Option.getD_some, List.length_append,
        List.length_replicate]
      push_cast
      omega
  · refine ⟨0, by simp [Numeral.coefficient], ?_⟩
    simp only [Numeral.scale, Numeral.power, Option.getD_some, List.length_drop]
    omega
  · rcases ending with _ | e
    · refine ⟨(point - ds.length).toNat, ?_, ?_⟩
      · simp [Numeral.coefficient, value_append_zeros]
      · simp only [Numeral.scale, Numeral.power, Option.getD_none, List.length_nil]
        omega
    · obtain ⟨k, rfl⟩ := hending e rfl
      refine ⟨(point - ds.length).toNat + k, ?_, ?_⟩
      · simp only [Numeral.coefficient, Option.getD_some, List.append_assoc,
          List.replicate_append_replicate, value_append_zeros]
      · simp only [Numeral.scale, Numeral.power, Option.getD_some, List.length_replicate]
        omega

theorem value_padded (width : ℕ) (ds : List ℕ) : value (padded width ds) = value ds :=
  value_zeros_append _ ds

theorem exponentLayout_denotes {ds : List ℕ} (hds : ds ≠ []) (point : ℤ) (width : ℕ) :
    (exponentLayout ds point width).Denotes (value ds) (point - ds.length) := by
  refine ⟨0, ?_, ?_⟩
  · have hwhole : ds.take 1 ++ (if ds.length ≤ 1 then none else some (ds.drop 1)).getD [] =
        ds := by
      split_ifs with h
      · simp [List.take_of_length_le h]
      · exact List.take_append_drop 1 ds
    simp only [Numeral.coefficient, exponentLayout, hwhole, pow_zero, Nat.mul_one]
  · have hlen := List.length_pos_iff.mpr hds
    have hfraction : ((if ds.length ≤ 1 then none else some (ds.drop 1)).getD []).length =
        ds.length - 1 := by
      split_ifs with h
      · simp only [Option.getD_none, List.length_nil]
        omega
      · simp
    have hpower : Numeral.power (some (decide (point < 1),
        padded width (natDigits (point - 1).natAbs))) = point - 1 := by
      simp only [Numeral.power, value_padded, value_natDigits]
      by_cases h : point < 1
      · simp only [h, decide_true, if_true]
        omega
      · simp only [h, decide_false, Bool.false_eq_true, if_false]
        omega
    simp only [Numeral.scale, exponentLayout, hfraction, hpower]
    omega

theorem padded_ne_nil {width : ℕ} {ds : List ℕ} (h : ds ≠ []) : padded width ds ≠ [] := by
  simp [padded, h]

theorem padded_lt {width : ℕ} {ds : List ℕ} (h : ∀ d ∈ ds, d < 10) :
    ∀ d ∈ padded width ds, d < 10 := by
  intro d hd
  rcases List.mem_append.mp hd with hd | hd
  · obtain rfl := List.eq_of_mem_replicate hd
    decide
  · exact h d hd

theorem fixedLayout_wellFormed {ds : List ℕ} (hne : ds ≠ []) (hlt : ∀ d ∈ ds, d < 10)
    (point : ℤ) {ending : Option (List ℕ)} (hending : ending ≠ some [])
    (hendingLt : ∀ e ∈ ending, ∀ d ∈ e, d < 10) :
    (fixedLayout ds point ending).WellFormed := by
  have hlen := List.length_pos_iff.mpr hne
  have hzeros : ∀ k, ∀ d ∈ List.replicate k 0 ++ ds, d < 10 := by
    intro k d hd
    rcases List.mem_append.mp hd with hd | hd
    · obtain rfl := List.eq_of_mem_replicate hd
      decide
    · exact hlt d hd
  unfold fixedLayout
  split_ifs with hneg hpoint
  · exact
      { whole_ne := List.cons_ne_nil _ _
        whole_lt := by simp
        fraction_ne := by simp [hne]
        fraction_lt := by
          simp only [Option.mem_some_iff, forall_eq']
          exact hzeros _
        exponent_ne := by simp
        exponent_lt := by simp }
  · exact
      { whole_ne := by
          have : 0 < point.toNat := by omega
          simp only [ne_eq, List.take_eq_nil_iff, hne, or_false]
          omega
        whole_lt := fun d hd ↦ hlt d (List.mem_of_mem_take hd)
        fraction_ne := by
          simp only [ne_eq, Option.some.injEq, List.drop_eq_nil_iff]
          omega
        fraction_lt := by
          simp only [Option.mem_some_iff, forall_eq']
          exact fun d hd ↦ hlt d (List.mem_of_mem_drop hd)
        exponent_ne := by simp
        exponent_lt := by simp }
  · exact
      { whole_ne := by simp [hne]
        whole_lt := by
          intro d hd
          rcases List.mem_append.mp hd with hd | hd
          · exact hlt d hd
          · obtain rfl := List.eq_of_mem_replicate hd
            decide
        fraction_ne := hending
        fraction_lt := hendingLt
        exponent_ne := by simp
        exponent_lt := by simp }

theorem exponentLayout_wellFormed {ds : List ℕ} (hne : ds ≠ []) (hlt : ∀ d ∈ ds, d < 10)
    (point : ℤ) (width : ℕ) : (exponentLayout ds point width).WellFormed where
  whole_ne := by simp [exponentLayout, hne]
  whole_lt := fun d hd ↦ hlt d (List.mem_of_mem_take hd)
  fraction_ne := by
    simp only [exponentLayout]
    split_ifs with h
    · simp
    · simpa only [ne_eq, Option.some.injEq, List.drop_eq_nil_iff] using h
  fraction_lt := by
    simp only [exponentLayout]
    split_ifs
    · simp
    · simp only [Option.mem_some_iff, forall_eq']
      exact fun d hd ↦ hlt d (List.mem_of_mem_drop hd)
  exponent_ne := by simpa [exponentLayout] using padded_ne_nil (natDigits_ne_nil _)
  exponent_lt := by
    simpa [exponentLayout] using padded_lt fun d hd ↦ natDigits_lt hd

end RemoteInfra.Library.Decimal
