import RemoteInfra.Python.NumberTexts

/-!
# What a text says about the number behind it

Two values with the same text convert to the same number, even where one is a string and
the other is not.
-/

namespace RemoteInfra.Python

open RemoteInfra.Library RemoteInfra.Library.Decimal

/-- The text of a value that is a number without being a string. -/
def numberText : PyValue → Option (List Char)
  | .bool b => some (if b then "True" else "False").toList
  | .int n => some (intText n)
  | .float x => some (floatText x)
  | _ => none

theorem pyText_of_numberText [PythonPlatform] {v : PyValue} {cs : List Char} (h : numberText v = some cs) :
    pyText v = PyStr.ofList cs := by
  cases v with
  | bool b =>
      obtain rfl := Option.some.inj h
      cases b <;> rfl
  | int n =>
      obtain rfl := Option.some.inj h
      rfl
  | float x =>
      obtain rfl := Option.some.inj h
      rfl
  | _ => cases h

/-- A value that converts to a number is a number or a string. -/
theorem numberText_or_str_of_pyInt [PythonPlatform] {v : PyValue} {n : ℤ} (h : pyInt v = .ok n) :
    (∃ cs, numberText v = some cs) ∨ ∃ s, v = .str s := by
  cases v with
  | bool b => exact .inl ⟨_, rfl⟩
  | int n => exact .inl ⟨_, rfl⟩
  | float x => exact .inl ⟨_, rfl⟩
  | str s => exact .inr ⟨s, rfl⟩
  | _ => cases h

theorem numberText_or_str_of_pyFloat [PythonPlatform] {v : PyValue} {x : PyFloat} (h : pyFloat v = .ok x) :
    (∃ cs, numberText v = some cs) ∨ ∃ s, v = .str s := by
  cases v with
  | bool b => exact .inl ⟨_, rfl⟩
  | int n => exact .inl ⟨_, rfl⟩
  | float x => exact .inl ⟨_, rfl⟩
  | str s => exact .inr ⟨s, rfl⟩
  | _ => cases h

theorem floatOfText_bool (b : Bool) (x : PyFloat) :
    floatOfText (if b then "True" else "False").toList ≠ .ok x := by
  cases b <;> exact fun h ↦ nomatch h

theorem intOfText_bool (b : Bool) (n : ℤ) :
    intOfText (if b then "True" else "False").toList ≠ .ok n := by
  cases b <;> exact fun h ↦ nomatch h

/-- The texts of numbers are read as numbers, the texts of booleans are not. -/
theorem floatOfText_numberText {v : PyValue} {cs : List Char} (h : numberText v = some cs) :
    (∃ b, v = .bool b) ∨ ∃ x, floatOfText cs = .ok x := by
  cases v with
  | bool b => exact .inl ⟨b, rfl⟩
  | int n =>
      obtain rfl := Option.some.inj h
      exact .inr ⟨_, floatOfText_intText n⟩
  | float x =>
      obtain rfl := Option.some.inj h
      exact .inr ⟨x, floatOfText_floatText x⟩
  | _ => cases h

theorem boolText_injective {b c : Bool}
    (h : (if b then "True" else "False").toList = (if c then "True" else "False").toList) :
    b = c := by
  revert h
  cases b <;> cases c <;> decide

/-- A number's text gives the number away. -/
theorem numberText_inj {a b : PyValue} {cs : List Char} (ha : numberText a = some cs)
    (hb : numberText b = some cs) : a = b := by
  have hbool : ∀ (c : Bool) (v : PyValue), numberText (.bool c) = some cs →
      numberText v = some cs → v = .bool c := by
    intro c v hc hv
    obtain rfl := Option.some.inj hc
    rcases floatOfText_numberText hv with ⟨d, rfl⟩ | ⟨x, hx⟩
    · rw [boolText_injective (Option.some.inj hv)]
    · exact absurd hx (floatOfText_bool c x)
  cases a with
  | bool c => exact (hbool c b ha hb).symm
  | int m =>
      cases b with
      | bool c => exact hbool c _ hb ha
      | int n =>
          rw [intText_injective ((Option.some.inj ha).trans (Option.some.inj hb).symm)]
      | float x =>
          exact absurd ((Option.some.inj ha).trans (Option.some.inj hb).symm)
            (intText_ne_floatText m x)
      | _ => cases hb
  | float x =>
      cases b with
      | bool c => exact hbool c _ hb ha
      | int n =>
          exact absurd ((Option.some.inj hb).trans (Option.some.inj ha).symm)
            (intText_ne_floatText n x)
      | float y =>
          rw [floatText_injective ((Option.some.inj ha).trans (Option.some.inj hb).symm)]
      | _ => cases hb
  | _ => cases ha

/-- Every character of the text comes before `~`. -/
def asciiText (cs : List Char) : Bool := cs.all fun c ↦ decide (c.toNat < 127)

theorem ascii_of_asciiText {cs : List Char} (h : asciiText cs = true) :
    ∀ c ∈ cs, c.toNat < 127 := by
  intro c hc
  simpa using List.all_eq_true.mp h c hc

theorem ascii_numberText {v : PyValue} {cs : List Char} (h : numberText v = some cs) :
    ∀ c ∈ cs, c.toNat < 127 := by
  have hsign : ∀ negative, ∀ c ∈ signText negative, c.toNat < 127 := by
    intro negative c hc
    exact (IsPlain.of_numeralChar (isNumeralChar_sign negative c hc)).1
  cases v with
  | bool b =>
      obtain rfl := Option.some.inj h
      cases b <;> exact ascii_of_asciiText rfl
  | int n =>
      obtain rfl := Option.some.inj h
      exact fun c hc ↦ (isPlain_intText n c hc).1
  | float x =>
      obtain rfl := Option.some.inj h
      cases x with
      | nan => exact ascii_of_asciiText rfl
      | infinity negative => cases negative <;> exact ascii_of_asciiText rfl
      | finite negative d =>
          intro c hc
          rcases List.mem_append.mp hc with hc | hc
          · exact hsign negative c hc
          · exact (IsPlain.of_numeralChar ((reprNumeral_wellFormed d).isNumeralChar c hc)).1
  | _ => cases h

theorem floatOfInt_eq {n : ℤ} {x : PyFloat} (h : floatOfInt n = .ok x) :
    floatOfDecimal (n < 0) n.natAbs 0 = x := by
  cases hround : Magnitude.round double n.natAbs 0 with
  | some d =>
      simp only [floatOfInt, hround] at h
      simp only [floatOfDecimal, hround]
      exact Except.ok.inj h
  | none =>
      simp only [floatOfInt, hround] at h
      cases h

section

variable [PythonPlatform]

/-- `int` of a number and `int` of its text agree where both succeed. -/
theorem pyInt_str_numberText {v : PyValue} {cs : List Char} {m n : ℤ}
    (h : numberText v = some cs) (hv : pyInt v = .ok m)
    (hs : pyInt (.str (PyStr.ofList cs)) = .ok n) : m = n := by
  have htext : intOfText cs = .ok n := by
    simpa only [pyInt, map_asciiNumeric (ascii_numberText h)] using hs
  cases v with
  | bool b =>
      obtain rfl := Option.some.inj h
      exact absurd htext (intOfText_bool b n)
  | int k =>
      obtain rfl := Option.some.inj h
      obtain rfl := Except.ok.inj hv
      exact intOfText_intText_eq htext
  | float x =>
      obtain rfl := Option.some.inj h
      exact absurd htext (intOfText_floatText_ne x n)
  | _ => cases h

/-- `float` of a number and `float` of its text agree where both succeed. -/
theorem pyFloat_str_numberText {v : PyValue} {cs : List Char} {x y : PyFloat}
    (h : numberText v = some cs) (hv : pyFloat v = .ok x)
    (hs : pyFloat (.str (PyStr.ofList cs)) = .ok y) : x = y := by
  have htext : floatOfText cs = .ok y := by
    simpa only [pyFloat, map_asciiNumeric (ascii_numberText h)] using hs
  cases v with
  | bool b =>
      obtain rfl := Option.some.inj h
      exact absurd htext (floatOfText_bool b y)
  | int n =>
      obtain rfl := Option.some.inj h
      rw [floatOfText_intText, floatOfInt_eq hv] at htext
      exact Except.ok.inj htext
  | float z =>
      obtain rfl := Option.some.inj h
      rw [floatOfText_floatText] at htext
      exact (Except.ok.inj hv).symm.trans (Except.ok.inj htext)
  | _ => cases h

/-- A small integer reads as a float as well. -/
theorem pyFloat_of_pyInt {v : PyValue} {n : ℤ} (h : pyInt v = .ok n)
    (hsmall : n = -1 ∨ n = 0 ∨ n = 1) : ∃ x, pyFloat v = .ok x := by
  have hint : ∀ k : ℤ, k = -1 ∨ k = 0 ∨ k = 1 → ∃ x, floatOfInt k = .ok x := by
    have hround : ∀ k ∈ [0, 1], (Magnitude.round double k 0).isSome := by decide +kernel
    intro k hk
    obtain ⟨d, hd⟩ := Option.isSome_iff_exists.mp (hround k.natAbs (by
      rcases hk with rfl | rfl | rfl <;> decide))
    exact ⟨.finite (k < 0) d, by simp only [floatOfInt, hd]⟩
  cases v with
  | bool b => exact hint _ (by cases b <;> decide)
  | int k =>
      obtain rfl := Except.ok.inj h
      exact hint k hsmall
  | float x => exact ⟨x, rfl⟩
  | str s => exact floatOfText_of_intOfText h
  | _ => cases h

/-- What `int` reads as a small integer, `float` reads as the same number, floats apart. -/
theorem val_of_pyInt {v : PyValue} {n : ℤ} {x : PyFloat} (h : pyInt v = .ok n)
    (hsmall : n = -1 ∨ n = 0 ∨ n = 1) (hx : pyFloat v = .ok x) (hv : ∀ y, v ≠ .float y) :
    x.val = some (n : ℚ) := by
  have hdecimal : ∀ (negative : Bool) (c : ℕ), signed negative c = n →
      (floatOfDecimal negative c 0).val = some (n : ℚ) := by
    have hone : (floatOfDecimal false 1 0).val = some 1 ∧
        (floatOfDecimal true 1 0).val = some (-1) := by decide +kernel
    have hzero : (floatOfDecimal false 0 0).val = some 0 ∧
        (floatOfDecimal true 0 0).val = some 0 := by decide +kernel
    intro negative c hc
    have hle : c = 0 ∨ c = 1 := by
      cases negative <;> simp only [signed, Bool.false_eq_true, if_true, if_false] at hc <;> omega
    subst hc
    rcases hle with rfl | rfl <;> cases negative <;> simp [signed, hone, hzero]
  have hint : ∀ k : ℤ, k = n → floatOfInt k = .ok x → x.val = some (n : ℚ) := by
    intro k hk hfloat
    rw [← floatOfInt_eq hfloat]
    exact hdecimal _ _ ((signed_natAbs k).trans hk)
  cases v with
  | bool b => exact hint _ (Except.ok.inj h) hx
  | int k => exact hint k (Except.ok.inj h) hx
  | float y => exact absurd rfl (hv y)
  | str s =>
      obtain ⟨negative, c, hc, hfloat⟩ := floatOfText_eq_of_intOfText h
      obtain rfl := Except.ok.inj (hfloat.symm.trans hx)
      exact hdecimal negative c hc
  | _ => cases h

/-- `int` keeps a float that has no fractional part. -/
theorem val_of_isInteger {y : PyFloat} {n : ℤ} (h : pyInt (.float y) = .ok n)
    (hy : y.isInteger = true) : y.val = some (n : ℚ) := by
  cases y with
  | nan => cases h
  | infinity negative => cases h
  | finite negative d =>
      obtain rfl := Except.ok.inj h
      have hden : d.val.den = 1 := by
        simp only [PyFloat.isInteger, PyFloat.val, decide_eq_true_eq] at hy
        cases negative with
        | false => exact hy
        | true => exact hy
      rw [PyFloat.val, Magnitude.val_eq_floor hden]
      cases negative with
      | false => simp [signed]
      | true => simp [signed]

/-- Values with the same text that are numbers or strings: equal, or one is the text of the
other. -/
theorem sameText_cases {a b : PyValue}
    (ha : (∃ cs, numberText a = some cs) ∨ ∃ s, a = .str s)
    (hb : (∃ cs, numberText b = some cs) ∨ ∃ s, b = .str s) (h : pyText a = pyText b) :
    a = b ∨ (∃ cs, numberText a = some cs ∧ b = .str (PyStr.ofList cs)) ∨
      ∃ cs, numberText b = some cs ∧ a = .str (PyStr.ofList cs) := by
  rcases ha with ⟨cs, hcs⟩ | ⟨s, rfl⟩
  · rw [pyText_of_numberText hcs] at h
    rcases hb with ⟨ds, hds⟩ | ⟨t, rfl⟩
    · rw [pyText_of_numberText hds] at h
      obtain rfl := PyStr.ofList_injective h
      exact .inl (numberText_inj hcs hds)
    · exact .inr (.inl ⟨cs, hcs, by rw [h]; rfl⟩)
  · rcases hb with ⟨ds, hds⟩ | ⟨t, rfl⟩
    · rw [pyText_of_numberText hds] at h
      exact .inr (.inr ⟨ds, hds, by rw [← h]; rfl⟩)
    · exact .inl (congrArg PyValue.str h)

theorem pyInt_eq_of_text {a b : PyValue} {m n : ℤ} (h : pyText a = pyText b)
    (ha : pyInt a = .ok m) (hb : pyInt b = .ok n) : m = n := by
  rcases sameText_cases (numberText_or_str_of_pyInt ha) (numberText_or_str_of_pyInt hb) h with
    rfl | ⟨cs, hcs, rfl⟩ | ⟨cs, hcs, rfl⟩
  · exact Except.ok.inj (ha.symm.trans hb)
  · exact pyInt_str_numberText hcs ha hb
  · exact (pyInt_str_numberText hcs hb ha).symm

theorem pyFloat_eq_of_text {a b : PyValue} {x y : PyFloat} (h : pyText a = pyText b)
    (ha : pyFloat a = .ok x) (hb : pyFloat b = .ok y) : x = y := by
  rcases sameText_cases (numberText_or_str_of_pyFloat ha) (numberText_or_str_of_pyFloat hb) h
    with rfl | ⟨cs, hcs, rfl⟩ | ⟨cs, hcs, rfl⟩
  · exact Except.ok.inj (ha.symm.trans hb)
  · exact pyFloat_str_numberText hcs ha hb
  · exact (pyFloat_str_numberText hcs hb ha).symm

end

end RemoteInfra.Python
