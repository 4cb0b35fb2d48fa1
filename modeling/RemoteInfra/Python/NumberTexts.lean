import RemoteInfra.Python.Numbers

/-!
# What `int` and `float` read from the texts of numbers

`float` reads the text of a float back as that float, `int` reads the text of an integer
back as that integer, and no text is both an integer's and a float's.
-/

namespace RemoteInfra.Python

open RemoteInfra.Library RemoteInfra.Library.Decimal

/-! ## Characters that a conversion lets through -/

theorem mem_dropWhile {α : Type} {p : α → Bool} {a : α} (ha : p a = false) {l : List α}
    (h : a ∈ l) : a ∈ l.dropWhile p := by
  induction l with
  | nil => simp at h
  | cons b l ih =>
      by_cases hb : p b = true
      · rw [List.dropWhile_cons_of_pos hb]
        rcases List.mem_cons.mp h with rfl | h
        · simp [ha] at hb
        · exact ih h
      · rwa [List.dropWhile_cons_of_neg hb]

theorem mem_strip {c : Char} {cs : List Char} (hblank : isBlank c = false) (hc : c ∈ cs) :
    c ∈ strip cs := by
  refine List.mem_reverse.mpr (mem_dropWhile hblank (List.mem_reverse.mpr ?_))
  exact mem_dropWhile hblank hc

theorem mem_dropUnderscores {c : Char} (hc : c ≠ '_') {cs ds : List Char} {b : Bool}
    (h : dropUnderscores b cs = some ds) (hmem : c ∈ cs) : c ∈ ds := by
  induction cs generalizing b ds with
  | nil => simp at hmem
  | cons d cs ih =>
      simp only [dropUnderscores] at h
      split_ifs at h with hd hdigits
      · rcases List.mem_cons.mp hmem with rfl | hmem
        · exact absurd hd hc
        · exact ih h hmem
      · obtain ⟨es, hes, rfl⟩ := Option.map_eq_some_iff.mp h
        rcases List.mem_cons.mp hmem with rfl | hmem
        · exact List.mem_cons_self
        · exact List.mem_cons_of_mem _ (ih hes hmem)

/-- The characters of a text that `int` reads. -/
theorem isDigit_of_intOfText {cs : List Char} {n : ℤ} (h : intOfText cs = .ok n) {c : Char}
    (hc : c ∈ cs) (hblank : isBlank c = false) (hsign : c ∉ ['+', '-']) (hlow : c ≠ '_') :
    IsDigit c := by
  unfold intOfText at h
  split at h
  · cases h
  · rename_i digits hdigits
    have hbody := (mem_of_scanSign (mem_strip hblank hc)).resolve_left hsign
    have hmem := mem_dropUnderscores hlow hdigits hbody
    split at h
    · rename_i d ds hscan
      exact (mem_of_scanDigits hscan hmem).elim isDigit_iff.mpr (by simp)
    · cases h

/-- A text that `float` reads holds no character that is foreign to numbers. -/
theorem not_mem_of_floatOfText {cs : List Char} {x : PyFloat} (h : floatOfText cs = .ok x)
    {c : Char} (hblank : isBlank c = false) (hlow : c ≠ '_') (hchar : ¬IsNumeralChar c)
    (hletter : c.toLower ∉ "nan".toList ++ "infinity".toList) : c ∉ cs := by
  intro hc
  have hsign : c ∉ ['+', '-'] := by
    intro hmem
    refine hchar (.inr ?_)
    rcases List.mem_cons.mp hmem with rfl | hmem
    · decide
    · obtain rfl := List.mem_singleton.mp hmem
      decide
  unfold floatOfText at h
  split at h
  · cases h
  · rename_i text htext
    have hmem := mem_dropUnderscores hlow htext (mem_strip hblank hc)
    have hbody := (mem_of_scanSign hmem).resolve_left hsign
    have hlower : c.toLower ∈ (scanSign text).2.map Char.toLower := List.mem_map_of_mem hbody
    dsimp only at h
    split_ifs at h with hnan hinf
    · rw [hnan] at hlower
      exact hletter (List.mem_append_left _ hlower)
    · refine hletter (List.mem_append_right _ ?_)
      rcases hinf with hinf | hinf
      · rw [hinf] at hlower
        exact List.mem_of_mem_take (i := 3) hlower
      · rwa [hinf] at hlower
    · split at h
      · rename_i n hscan
        have hrest := (mem_of_scanNumeral hbody).resolve_left hchar
        simp [hscan] at hrest
      · cases h

/-! ## Texts that need no preparation -/

/-- A character that every preparation of a text leaves alone. -/
def IsPlain (c : Char) : Prop := c.toNat < 127 ∧ isBlank c = false ∧ c ≠ '_'

theorem IsPlain.of_numeralChar {c : Char} (h : IsNumeralChar c) : IsPlain c := by
  rcases h with ⟨hlow, hhigh⟩ | h
  · refine ⟨by omega, ?_, ?_⟩
    · have hspace : c ≠ ' ' := by
        rintro rfl
        simp at hlow
      simp only [isBlank, hspace, decide_false, Bool.false_or, Bool.and_eq_false_iff,
        decide_eq_false_iff_not]
      omega
    · rintro rfl
      simp at hhigh
  · simp only [List.mem_cons, List.not_mem_nil, or_false] at h
    rcases h with rfl | rfl | rfl | rfl | rfl <;> exact ⟨by decide, by decide, by decide⟩

theorem map_asciiNumeric [PythonPlatform] {cs : List Char} (h : ∀ c ∈ cs, c.toNat < 127) :
    (PyStr.ofList cs).map asciiNumeric = cs := by
  have hchar : ∀ c ∈ cs, (asciiNumeric ∘ PyChar.scalar) c = c := by
    intro c hc
    simp [asciiNumeric, h c hc]
  rw [PyStr.ofList, List.map_map]
  exact (List.map_congr_left hchar).trans (List.map_id cs)

theorem dropWhile_eq_self {α : Type} {p : α → Bool} {l : List α} (h : ∀ a ∈ l, p a = false) :
    l.dropWhile p = l := by
  cases l with
  | nil => rfl
  | cons a l => exact List.dropWhile_cons_of_neg (by simp [h a List.mem_cons_self])

theorem strip_eq_self {cs : List Char} (h : ∀ c ∈ cs, IsPlain c) : strip cs = cs := by
  have hblank : ∀ c ∈ cs, isBlank c = false := fun c hc ↦ (h c hc).2.1
  rw [strip, dropWhile_eq_self hblank, dropWhile_eq_self, List.reverse_reverse]
  exact fun c hc ↦ hblank c (List.mem_reverse.mp hc)

theorem dropUnderscores_eq_self {cs : List Char} (h : ∀ c ∈ cs, IsPlain c) (b : Bool) :
    dropUnderscores b cs = some cs := by
  induction cs generalizing b with
  | nil => rfl
  | cons c cs ih =>
      have hc := (h c List.mem_cons_self).2.2
      simp [dropUnderscores, hc, ih fun d hd ↦ h d (List.mem_cons_of_mem c hd)]

/-! ## Reading numerals -/

theorem isNumeralChar_sign (negative : Bool) : ∀ c ∈ signText negative, IsNumeralChar c := by
  cases negative
  · simp [signText]
  · exact fun c hc ↦ .inr (by rw [List.mem_singleton.mp hc]; decide)

theorem isNumeralChar_signed {negative : Bool} {cs : List Char}
    (h : ∀ c ∈ cs, IsNumeralChar c) : ∀ c ∈ signText negative ++ cs, IsNumeralChar c :=
  fun c hc ↦ (List.mem_append.mp hc).elim (isNumeralChar_sign negative c) (h c)

theorem scanSign_signed (negative : Bool) {c : Char} (hc : IsDigit c) (cs : List Char) :
    scanSign (signText negative ++ c :: cs) = (negative, c :: cs) := by
  cases negative
  · have hplus : c ≠ '+' := by
      rintro rfl
      exact absurd hc.1 (by decide)
    have hminus : c ≠ '-' := by
      rintro rfl
      exact absurd hc.1 (by decide)
    simp only [signText, Bool.false_eq_true, if_false, List.nil_append, scanSign]
    split
    · rename_i h
      exact absurd (List.cons.inj h).1 hminus
    · rename_i h
      exact absurd (List.cons.inj h).1 hplus
    · rfl
  · rfl

theorem toLower_digit {c : Char} (h : IsDigit c) : c.toLower = c := by
  have hupper : ¬(c.val ≥ 65 ∧ c.val ≤ 90) := by
    rintro ⟨h65, -⟩
    have : 65 ≤ c.toNat := h65
    have := h.2
    omega
  exact dif_neg hupper

/-- A prepared text that starts with a digit after its sign spells no name. -/
theorem floatOfText_of_scan {cs text body : List Char} {negative : Bool} {c : Char} {n : Numeral}
    (htext : dropUnderscores false (strip cs) = some text)
    (hsign : scanSign text = (negative, c :: body)) (hc : IsDigit c)
    (hscan : scanNumeral (c :: body) = (n, [])) (hwhole : n.whole ≠ []) :
    floatOfText cs = .ok (floatOfDecimal negative n.coefficient n.scale) := by
  have hhead : ∀ letter word, ¬IsDigit letter →
      (c :: body).map Char.toLower ≠ letter :: word := by
    intro letter word hletter h
    rw [List.map_cons, toLower_digit hc] at h
    exact hletter ((List.cons.inj h).1 ▸ hc)
  have hnan : (c :: body).map Char.toLower ≠ "nan".toList := hhead 'n' _ (by unfold IsDigit; decide)
  have hinf : (c :: body).map Char.toLower ≠ "inf".toList := hhead 'i' _ (by unfold IsDigit; decide)
  have hinfinity : (c :: body).map Char.toLower ≠ "infinity".toList :=
    hhead 'i' _ (by unfold IsDigit; decide)
  have hdigits : ¬(n.whole = [] ∧ n.fraction.getD [] = []) := fun h ↦ hwhole h.1
  simp only [floatOfText, htext, hsign, hscan]
  rw [if_neg hnan, if_neg (not_or.mpr ⟨hinf, hinfinity⟩), if_neg hdigits]

/-- `float` reads a signed numeral as the number it denotes. -/
theorem floatOfText_numeral (negative : Bool) {n : Numeral} (hn : n.WellFormed) :
    floatOfText (signText negative ++ n.text) =
      .ok (floatOfDecimal negative n.coefficient n.scale) := by
  obtain ⟨c, cs, htext, hc⟩ := hn.isDigit_head
  have hplain : ∀ d ∈ signText negative ++ n.text, IsPlain d :=
    fun d hd ↦ .of_numeralChar (isNumeralChar_signed hn.isNumeralChar d hd)
  have hscan : scanNumeral (c :: cs) = (n, []) := by
    simpa [htext] using scanNumeral_text hn ends_nil
  have hprepared : dropUnderscores false (strip (signText negative ++ n.text)) =
      some (signText negative ++ n.text) := by
    rw [strip_eq_self hplain]
    exact dropUnderscores_eq_self hplain false
  refine floatOfText_of_scan hprepared ?_ hc hscan hn.whole_ne
  rw [htext]
  exact scanSign_signed negative hc cs

theorem floatOfDecimal_denotes {n : Numeral} {c : ℕ} {k : ℤ} (h : n.Denotes c k)
    (negative : Bool) : floatOfDecimal negative n.coefficient n.scale =
      floatOfDecimal negative c k := by
  obtain ⟨j, hcoefficient, hscale⟩ := h
  simp only [floatOfDecimal, hcoefficient, Magnitude.round_mul_pow, hscale]

/-! ## Floats -/

theorem floatDigits_ne_nil (d : Double) : floatDigits d ≠ [] := natDigits_ne_nil _

theorem floatDigits_lt (d : Double) : ∀ k ∈ floatDigits d, k < 10 := fun _ ↦ natDigits_lt

theorem value_floatDigits (d : Double) : value (floatDigits d) = d.shortest.1 :=
  value_natDigits _

theorem floatPoint_sub (d : Double) : floatPoint d - (floatDigits d).length = d.shortest.2 := by
  simp [floatPoint]

/-- A numeral that lays out the shortest digits of a float denotes that float. -/
theorem floatOfDecimal_shortest {n : Numeral} {d : Double}
    (h : n.Denotes (value (floatDigits d)) (floatPoint d - (floatDigits d).length))
    (negative : Bool) : floatOfDecimal negative n.coefficient n.scale = .finite negative d := by
  rw [floatOfDecimal_denotes h, value_floatDigits, floatPoint_sub, floatOfDecimal,
    Magnitude.round_shortest]

theorem reprNumeral_wellFormed (d : Double) : (reprNumeral d).WellFormed := by
  unfold reprNumeral
  split_ifs
  · exact fixedLayout_wellFormed (floatDigits_ne_nil d) (floatDigits_lt d) _ (by simp) (by simp)
  · exact exponentLayout_wellFormed (floatDigits_ne_nil d) (floatDigits_lt d) _ _

theorem reprNumeral_denotes (d : Double) :
    (reprNumeral d).Denotes (value (floatDigits d)) (floatPoint d - (floatDigits d).length) := by
  unfold reprNumeral
  split_ifs
  · exact fixedLayout_denotes fun e he ↦ ⟨1, by simpa using he.symm⟩
  · exact exponentLayout_denotes (floatDigits_ne_nil d) _ _

/-- `float` reads the text of a float back as that float. -/
theorem floatOfText_floatText (x : PyFloat) : floatOfText (floatText x) = .ok x := by
  cases x with
  | nan => rfl
  | infinity negative => cases negative <;> rfl
  | finite negative d =>
      rw [floatText, floatOfText_numeral negative (reprNumeral_wellFormed d),
        floatOfDecimal_shortest (reprNumeral_denotes d)]

theorem floatText_injective : Function.Injective floatText := by
  intro x y h
  have hx := floatOfText_floatText x
  rw [h, floatOfText_floatText] at hx
  exact (Except.ok.inj hx).symm

/-- The text of a float gives it away: it holds a point, an exponent or a letter. -/
theorem exists_mark_floatText (x : PyFloat) :
    ∃ c ∈ floatText x, c = '.' ∨ c = 'e' ∨ c = 'n' := by
  cases x with
  | nan => exact ⟨'n', by decide, by decide⟩
  | infinity negative => exact ⟨'n', by cases negative <;> decide, by decide⟩
  | finite negative d =>
      have hmark : ∃ c ∈ (reprNumeral d).text, c = '.' ∨ c = 'e' := by
        unfold reprNumeral
        split_ifs
        · refine ⟨'.', ?_, .inl rfl⟩
          unfold fixedLayout
          split_ifs <;> simp [Numeral.text, Numeral.fractionText]
        · exact ⟨'e', by simp [Numeral.text, exponentLayout, Numeral.exponentText], .inr rfl⟩
      obtain ⟨c, hc, hmark⟩ := hmark
      exact ⟨c, List.mem_append_right _ hc, hmark.imp_right .inl⟩

/-! ## Integers -/

/-- The text of a natural number as a numeral. -/
def wholeNumeral (n : ℕ) : Numeral := ⟨natDigits n, none, none⟩

theorem wholeNumeral_wellFormed (n : ℕ) : (wholeNumeral n).WellFormed where
  whole_ne := natDigits_ne_nil n
  whole_lt := fun _ ↦ natDigits_lt
  fraction_ne := by simp [wholeNumeral]
  fraction_lt := by simp [wholeNumeral]
  exponent_ne := by simp [wholeNumeral]
  exponent_lt := by simp [wholeNumeral]

theorem text_wholeNumeral (n : ℕ) : (wholeNumeral n).text = natText n := by
  simp [wholeNumeral, Numeral.text, Numeral.fractionText, Numeral.exponentText, natText]

theorem wholeNumeral_denotes (n : ℕ) : (wholeNumeral n).Denotes n 0 :=
  ⟨0, by simp [wholeNumeral, Numeral.coefficient],
    by simp [wholeNumeral, Numeral.scale, Numeral.power]⟩

theorem isDigit_natText (n : ℕ) : ∀ c ∈ natText n, IsDigit c :=
  isDigit_digitsText fun _ ↦ natDigits_lt

theorem intText_chars (n : ℤ) : ∀ c ∈ intText n, IsDigit c ∨ c = '-' := by
  intro c hc
  rcases List.mem_append.mp hc with hc | hc
  · unfold signText at hc
    split_ifs at hc
    · exact .inr (List.mem_singleton.mp hc)
    · simp at hc
  · exact .inl (isDigit_natText _ c hc)

theorem isPlain_intText (n : ℤ) : ∀ c ∈ intText n, IsPlain c := by
  intro c hc
  refine .of_numeralChar ?_
  rcases intText_chars n c hc with h | rfl
  · exact .inl h
  · exact .inr (by decide)

theorem scanSign_intText (n : ℤ) :
    scanSign (intText n) = (decide (n < 0), natText n.natAbs) := by
  obtain ⟨d, ds, hdigits⟩ := List.exists_cons_of_ne_nil (natDigits_ne_nil n.natAbs)
  have hd : IsDigit (digitChar d) :=
    isDigit_digitChar (natDigits_lt (n := n.natAbs) (by simp [hdigits]))
  have htext : natText n.natAbs = digitChar d :: digitsText ds := by
    rw [natText, hdigits]
    rfl
  rw [intText, htext]
  exact scanSign_signed _ hd _

theorem signed_natAbs (n : ℤ) : signed (n < 0) n.natAbs = n := by
  by_cases h : n < 0
  · simp only [signed, h, decide_true, if_true]
    omega
  · simp only [signed, h, decide_false, Bool.false_eq_true, if_false]
    omega

theorem scanDigits_natText (n : ℕ) : scanDigits (natText n) = (natDigits n, []) := by
  have hdigits : ∀ d ∈ natDigits n, d < 10 := fun _ ↦ natDigits_lt
  simpa [natText] using scanDigits_text hdigits noDigit_nil

/-- `int` reads the text of an integer back as that integer, unless it is too long. -/
theorem intOfText_intText (n : ℤ) :
    intOfText (intText n) =
      if (natDigits n.natAbs).length ≤ maxStrDigits then .ok n else .error .valueError := by
  have hplain := isPlain_intText n
  have hbody : ∀ c ∈ natText n.natAbs, IsPlain c := fun c hc ↦
    .of_numeralChar (.inl (isDigit_natText _ c hc))
  have hscan := scanDigits_natText n.natAbs
  obtain ⟨d, ds, hdigits⟩ := List.exists_cons_of_ne_nil (natDigits_ne_nil n.natAbs)
  have hvalue : value (d :: ds) = n.natAbs := by rw [← hdigits, value_natDigits]
  simp only [intOfText, strip_eq_self hplain, scanSign_intText, dropUnderscores_eq_self hbody,
    hscan, hdigits, hvalue, signed_natAbs]

theorem intOfText_intText_eq {n m : ℤ} (h : intOfText (intText n) = .ok m) : n = m := by
  rw [intOfText_intText] at h
  split_ifs at h
  exact Except.ok.inj h

theorem intText_injective : Function.Injective intText := by
  intro m n h
  have hscan := scanSign_intText m
  rw [h, scanSign_intText] at hscan
  obtain ⟨hsign, htext⟩ := Prod.mk.inj hscan
  have habs := scanDigits_natText m.natAbs
  rw [← htext, scanDigits_natText] at habs
  have hnat : n.natAbs = m.natAbs := natDigits_injective (Prod.mk.inj habs).1
  rw [← signed_natAbs m, ← signed_natAbs n, hnat, hsign]

theorem floatOfText_intText (n : ℤ) :
    floatOfText (intText n) = .ok (floatOfDecimal (n < 0) n.natAbs 0) := by
  have h := floatOfText_numeral (n < 0) (wholeNumeral_wellFormed n.natAbs)
  rw [text_wholeNumeral, floatOfDecimal_denotes (wholeNumeral_denotes n.natAbs)] at h
  exact h

/-- What `int` reads, `float` reads too, as the same number. -/
theorem floatOfText_eq_of_intOfText {cs : List Char} {n : ℤ} (h : intOfText cs = .ok n) :
    ∃ negative c, signed negative c = n ∧ floatOfText cs = .ok (floatOfDecimal negative c 0) := by
  unfold intOfText at h
  split at h
  · cases h
  · rename_i digits hdigits
    split at h
    · rename_i d ds hscan
      split_ifs at h
      obtain rfl := Except.ok.inj h
      obtain ⟨c, body, rfl⟩ : ∃ c body, digits = c :: body :=
        List.exists_cons_of_ne_nil (by rintro rfl; cases hscan)
      have hc : IsDigit c := by
        simp only [scanDigits] at hscan
        split at hscan
        · rename_i hvalue
          simp [isDigit_iff, hvalue]
        · cases hscan
      have htext : ∃ text, dropUnderscores false (strip cs) = some text ∧
          scanSign text = ((scanSign (strip cs)).1, c :: body) := by
        generalize strip cs = stripped at hdigits ⊢
        unfold scanSign at hdigits ⊢
        split at hdigits
        · exact ⟨'-' :: c :: body, by simpa [dropUnderscores, isDigit, digitValue] using hdigits,
            rfl⟩
        · exact ⟨'+' :: c :: body, by simpa [dropUnderscores, isDigit, digitValue] using hdigits,
            rfl⟩
        · exact ⟨c :: body, hdigits, scanSign_signed false hc body⟩
      obtain ⟨text, htext, hsign⟩ := htext
      have hfloat := floatOfText_of_scan (n := ⟨d :: ds, none, none⟩) htext hsign hc
        (by simp [scanNumeral, hscan, scanFraction, scanExponent]) (List.cons_ne_nil d ds)
      refine ⟨(scanSign (strip cs)).1, value (d :: ds), rfl, ?_⟩
      simpa [Numeral.coefficient, Numeral.scale, Numeral.power] using hfloat
    · cases h

theorem floatOfText_of_intOfText {cs : List Char} {n : ℤ} (h : intOfText cs = .ok n) :
    ∃ x, floatOfText cs = .ok x := by
  obtain ⟨negative, c, -, hfloat⟩ := floatOfText_eq_of_intOfText h
  exact ⟨_, hfloat⟩

theorem intText_ne_floatText (n : ℤ) (x : PyFloat) : intText n ≠ floatText x := by
  intro h
  obtain ⟨c, hc, hmark⟩ := exists_mark_floatText x
  rw [← h] at hc
  rcases intText_chars n c hc with hdigit | rfl
  · unfold IsDigit at hdigit
    rcases hmark with rfl | rfl | rfl <;> exact absurd hdigit (by decide)
  · exact absurd hmark (by decide)

theorem intOfText_floatText_ne (x : PyFloat) (m : ℤ) : intOfText (floatText x) ≠ .ok m := by
  intro h
  obtain ⟨c, hc, hmark⟩ := exists_mark_floatText x
  have hdigit : IsDigit c := by
    rcases hmark with rfl | rfl | rfl <;>
      exact isDigit_of_intOfText h hc (by decide) (by decide) (by decide)
  unfold IsDigit at hdigit
  rcases hmark with rfl | rfl | rfl <;> exact absurd hdigit (by decide)

end RemoteInfra.Python
