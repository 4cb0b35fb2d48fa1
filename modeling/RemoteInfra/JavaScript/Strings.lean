import RemoteInfra.Python.Json

/-!
# Strings and their JSON texts

A JavaScript string is a sequence of 16-bit code units.  Its code points are those of the
Python string with the same characters: a leading and a trailing surrogate in a row make one
character, and any other surrogate stands for itself.
-/

namespace RemoteInfra.JavaScript

open RemoteInfra.Python

abbrev JSString := List UInt16

/-- A string of characters that are one unit each. -/
def ofChars (cs : List Char) : JSString := cs.map fun c ↦ UInt16.ofNat c.toNat

/-- `StringToCodePoints`. -/
def codePoints : JSString → PyStr
  | [] => []
  | [unit] => [ofCode unit.toNat]
  | first :: second :: units =>
      if isHigh first.toNat && isLow second.toNat then
        .scalar (Char.ofNat (0x10000 + (first.toNat - 0xD800) * 0x400 +
          (second.toNat - 0xDC00))) :: codePoints units
      else ofCode first.toNat :: codePoints (second :: units)

/-- `UnicodeEscape`. -/
def unicodeEscape (code : ℕ) : PyStr := PyStr.ofList ('\\' :: 'u' :: hexText 4 code)

/-- One code point of a JSON string. -/
def quotePoint (p : PyChar) : PyStr :=
  if p = .scalar (Char.ofNat 8) then PyStr.ofList ['\\', 'b']
  else if p = .scalar '\t' then PyStr.ofList ['\\', 't']
  else if p = .scalar '\n' then PyStr.ofList ['\\', 'n']
  else if p = .scalar (Char.ofNat 12) then PyStr.ofList ['\\', 'f']
  else if p = .scalar '\r' then PyStr.ofList ['\\', 'r']
  else if p = .scalar '"' then PyStr.ofList ['\\', '"']
  else if p = .scalar '\\' then PyStr.ofList ['\\', '\\']
  else if p.code < 32 || (0xD800 ≤ p.code && p.code < 0xE000) then unicodeEscape p.code
  else [p]

/-- `QuoteJSONString`. -/
def quoteJSONString (s : JSString) : PyStr :=
  .scalar '"' :: ((codePoints s).flatMap quotePoint ++ [.scalar '"'])

/-! ## Code points of joined strings -/

/-- Tried before the search through all characters. -/
instance (priority := high) decidableForallChars (cs : List Char) (p : Char → Prop)
    [DecidablePred p] : Decidable (∀ c ∈ cs, p c) :=
  List.decidableBAll p cs

theorem codePoints_cons {first : UInt16} (h : isHigh first.toNat = false) (s : JSString) :
    codePoints (first :: s) = ofCode first.toNat :: codePoints s := by
  cases s with
  | nil => rfl
  | cons second units => simp [codePoints, h]

/-- A string may be cut in front of a unit that is no trailing surrogate. -/
theorem codePoints_append {unit : UInt16} (h : isLow unit.toNat = false) (s t : JSString) :
    codePoints (s ++ unit :: t) = codePoints s ++ codePoints (unit :: t) := by
  induction s using codePoints.induct with
  | case1 => rfl
  | case2 first => simp [codePoints, h]
  | case3 first second units hpair ih => simp [codePoints, hpair, ih]
  | case4 first second units hpair ih => simpa [codePoints, hpair] using ih

theorem ofCode_toNat {c : Char} (h : c.toNat < 0xD800) : ofCode c.toNat = .scalar c := by
  have hcode : ¬(0xD800 ≤ c.toNat ∧ c.toNat < 0xE000) := by omega
  rw [ofCode, dif_neg hcode, Char.ofNat_toNat]

theorem codePoints_ofChars {cs : List Char} (h : ∀ c ∈ cs, c.toNat < 0xD800) (s : JSString) :
    codePoints (ofChars cs ++ s) = PyStr.ofList cs ++ codePoints s := by
  induction cs with
  | nil => rfl
  | cons c cs ih =>
      have hc := h c List.mem_cons_self
      have hunit : (UInt16.ofNat c.toNat).toNat = c.toNat := by
        rw [UInt16.toNat_ofNat']
        omega
      have hhigh : isHigh (UInt16.ofNat c.toNat).toNat = false := by
        simp only [isHigh, hunit, Bool.and_eq_false_iff, decide_eq_false_iff_not]
        omega
      have htail := ih fun d hd ↦ h d (List.mem_cons_of_mem c hd)
      simp only [ofChars, List.map_cons, List.cons_append] at htail ⊢
      rw [codePoints_cons hhigh, hunit, ofCode_toNat hc, htail]
      rfl

/-! ## Surrogates in a row -/

/-- No two code points in a row would be read as one character. -/
def Unpaired (s : PyStr) : Prop :=
  s.IsChain fun p q ↦ ¬(isHigh p.code = true ∧ isLow q.code = true)

theorem code_ofCode {n : ℕ} (h : n < 0x10000) : (ofCode n).code = n := by
  unfold ofCode
  split_ifs with hsurrogate
  · simp only [PyChar.code]
    omega
  · have hvalid : n.isValidChar := by
      rcases not_and_or.mp hsurrogate with hlow | hhigh
      · exact .inl (by omega)
      · exact .inr ⟨by omega, by omega⟩
    have hchar : Char.ofNat n = Char.ofNatAux n hvalid := dif_pos hvalid
    rw [hchar]
    rfl

theorem toNat_lt_or_gt (c : Char) : c.toNat < 0xD800 ∨ 0xDFFF < c.toNat := by
  have hvalid : c.toNat < 0xD800 ∨ 0xDFFF < c.toNat ∧ c.toNat < 0x110000 := c.valid
  omega

theorem ofCode_code (p : PyChar) : ofCode p.code = p := by
  cases p with
  | scalar c =>
      have hcode : ¬(0xD800 ≤ c.toNat ∧ c.toNat < 0xE000) := by
        have := toNat_lt_or_gt c
        omega
      simp only [PyChar.code, ofCode, dif_neg hcode, Char.ofNat_toNat]
  | surrogate n =>
      have hcode : 0xD800 ≤ 0xD800 + (n : ℕ) ∧ 0xD800 + (n : ℕ) < 0xE000 := by omega
      simp [PyChar.code, ofCode, hcode]

theorem isHigh_scalar (c : Char) : isHigh (PyChar.scalar c).code = false := by
  have := toNat_lt_or_gt c
  rw [Bool.eq_false_iff, ne_eq, isHigh, Bool.and_eq_true, decide_eq_true_iff, decide_eq_true_iff]
  simp only [PyChar.code]
  omega

theorem isLow_scalar (c : Char) : isLow (PyChar.scalar c).code = false := by
  have := toNat_lt_or_gt c
  rw [Bool.eq_false_iff, ne_eq, isLow, Bool.and_eq_true, decide_eq_true_iff, decide_eq_true_iff]
  simp only [PyChar.code]
  omega

theorem head_codePoints (unit : UInt16) (s : JSString) :
    ∀ p ∈ (codePoints (unit :: s)).head?, isLow p.code = true → isLow unit.toNat = true := by
  intro p hp hlow
  cases s with
  | nil =>
      simp only [codePoints, List.head?_cons, Option.mem_some_iff] at hp
      rwa [← hp, code_ofCode unit.toNat_lt] at hlow
  | cons second units =>
      simp only [codePoints] at hp
      split_ifs at hp
      · simp only [List.head?_cons, Option.mem_some_iff] at hp
        rw [← hp, isLow_scalar] at hlow
        cases hlow
      · simp only [List.head?_cons, Option.mem_some_iff] at hp
        rwa [← hp, code_ofCode unit.toNat_lt] at hlow

theorem unpaired_codePoints (s : JSString) : Unpaired (codePoints s) := by
  induction s using codePoints.induct with
  | case1 => exact .nil
  | case2 first => exact .singleton _
  | case3 first second units hpair ih =>
      simp only [codePoints, hpair, if_true]
      refine List.IsChain.cons ih ?_
      intro p hp h
      rw [isHigh_scalar] at h
      cases h.1
  | case4 first second units hpair ih =>
      simp only [codePoints, hpair]
      refine List.IsChain.cons ih ?_
      intro p hp h
      refine hpair ?_
      rw [code_ofCode first.toNat_lt] at h
      rw [h.1, head_codePoints second units p hp h.2]
      rfl

end RemoteInfra.JavaScript
