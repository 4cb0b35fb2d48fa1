import RemoteInfra.Library.Joined
import RemoteInfra.Python.Texts
import RemoteInfra.Vehicle.ControlProtocol

/-!
# Bars in texts

The signed text joins its fields with bars.  The text of a value that converts to a number
holds none, and equal values hold equally many.
-/

namespace RemoteInfra.Vehicle

open RemoteInfra.Library RemoteInfra.Library.Decimal RemoteInfra.Python

/-! ## Bars in texts -/

theorem bar_not_mem_ofList {cs : List Char} (h : '|' ∉ cs) : bar ∉ PyStr.ofList cs := by
  rintro hmem
  obtain ⟨c, hc, heq⟩ := List.mem_map.mp hmem
  exact h (PyChar.scalar.inj heq ▸ hc)

theorem not_isNumeralChar_bar : ¬IsNumeralChar '|' := by
  rintro (⟨-, h⟩ | h)
  · exact absurd h (by decide)
  · exact absurd h (by decide)

theorem bar_not_mem_of_floatOfText {cs : List Char} {x : PyFloat} (h : floatOfText cs = .ok x) :
    '|' ∉ cs :=
  not_mem_of_floatOfText h (by decide) (by decide) not_isNumeralChar_bar (by decide)

theorem bar_not_mem_of_intOfText {cs : List Char} {n : ℤ} (h : intOfText cs = .ok n) :
    '|' ∉ cs := fun hc ↦
  not_isNumeralChar_bar (.inl (isDigit_of_intOfText h hc (by decide) (by decide) (by decide)))

theorem bar_not_mem_numberText {v : PyValue} {cs : List Char} (h : numberText v = some cs) :
    '|' ∉ cs := by
  rcases floatOfText_numberText h with ⟨b, rfl⟩ | ⟨x, hx⟩
  · obtain rfl := Option.some.inj h
    cases b <;> decide
  · exact bar_not_mem_of_floatOfText hx

/-! ## Equal values have equally many bars -/

def tokenBars : Token → ℕ
  | .text s => s.count bar
  | .key s => s.count bar
  | _ => 0

def tokensBars (ts : List Token) : ℕ := (ts.map tokenBars).sum

@[simp] theorem tokensBars_nil : tokensBars [] = 0 := rfl

@[simp] theorem tokensBars_cons (t : Token) (ts : List Token) :
    tokensBars (t :: ts) = tokenBars t + tokensBars ts := by
  simp [tokensBars]

@[simp] theorem tokensBars_append (ts us : List Token) :
    tokensBars (ts ++ us) = tokensBars ts + tokensBars us := by
  simp [tokensBars]

theorem count_ofList_eq_zero {cs : List Char} (h : '|' ∉ cs) :
    (PyStr.ofList cs).count bar = 0 :=
  List.count_eq_zero.mpr (bar_not_mem_ofList h)

theorem hexDigit_ne_bar : ∀ d < 16, hexDigit d ≠ '|' := by decide

theorem bar_not_mem_hexText (width n : ℕ) : '|' ∉ hexText width n := by
  induction width generalizing n with
  | zero => simp [hexText]
  | succ width ih =>
      intro h
      rcases List.mem_append.mp h with h | h
      · exact ih _ h
      · exact hexDigit_ne_bar _ (Nat.mod_lt _ (by decide)) (List.mem_singleton.mp h).symm

theorem bar_not_mem_escapeCode (n : ℕ) : '|' ∉ escapeCode n := by
  have hcons : ∀ (letter : Char) (width : ℕ), letter ≠ '|' →
      '|' ∉ '\\' :: letter :: hexText width n := by
    intro letter width hletter h
    rcases List.mem_cons.mp h with h | h
    · exact absurd h (by decide)
    rcases List.mem_cons.mp h with h | h
    · exact hletter h.symm
    · exact bar_not_mem_hexText width n h
  unfold escapeCode
  split_ifs
  · exact hcons 'x' 2 (by decide)
  · exact hcons 'u' 4 (by decide)
  · exact hcons 'U' 8 (by decide)

theorem count_commaJoin (texts : List PyStr) :
    (commaJoin texts).count bar = (texts.map (List.count bar)).sum := by
  induction texts with
  | nil => rfl
  | cons t texts ih =>
      cases texts with
      | nil => simp [commaJoin, joinWith]
      | cons u texts =>
          have hsep : (PyStr.ofString ", ").count bar = 0 := by decide
          simp only [commaJoin, joinWith, List.count_append, hsep, List.map_cons,
            List.sum_cons] at ih ⊢
          omega

theorem tokensBars_sortEntries (es : List (PyStr × List Token)) :
    tokensBars ((sortEntries es).flatMap fun e ↦ .key e.1 :: e.2) =
      (es.map fun e ↦ e.1.count bar + tokensBars e.2).sum := by
  have hsum : ∀ fs : List (PyStr × List Token),
      tokensBars (fs.flatMap fun e ↦ .key e.1 :: e.2) =
        (fs.map fun e ↦ e.1.count bar + tokensBars e.2).sum := by
    intro fs
    induction fs with
    | nil => rfl
    | cons e fs ih =>
        rw [List.flatMap_cons, tokensBars_append, ih, tokensBars_cons, List.map_cons,
          List.sum_cons]
        rfl
  rw [hsum]
  exact ((List.perm_insertionSort _ es).map _).sum_eq

/-! ## Texts of values -/

section

variable [PythonPlatform]

theorem bar_mem_map_asciiNumeric {s : PyStr} (h : bar ∈ s) : '|' ∈ s.map asciiNumeric :=
  List.mem_map.mpr ⟨bar, h, rfl⟩

/-- A value that converts to an integer has a text without bars. -/
theorem bar_not_mem_of_pyInt {v : PyValue} {n : ℤ} (h : pyInt v = .ok n) : bar ∉ pyText v := by
  rcases numberText_or_str_of_pyInt h with ⟨cs, hcs⟩ | ⟨s, rfl⟩
  · rw [pyText_of_numberText hcs]
    exact bar_not_mem_ofList (bar_not_mem_numberText hcs)
  · exact fun hs ↦ bar_not_mem_of_intOfText h (bar_mem_map_asciiNumeric hs)

/-- A value that converts to a float has a text without bars. -/
theorem bar_not_mem_of_pyFloat {v : PyValue} {x : PyFloat} (h : pyFloat v = .ok x) :
    bar ∉ pyText v := by
  rcases numberText_or_str_of_pyFloat h with ⟨cs, hcs⟩ | ⟨s, rfl⟩
  · rw [pyText_of_numberText hcs]
    exact bar_not_mem_ofList (bar_not_mem_numberText hcs)
  · exact fun hs ↦ bar_not_mem_of_floatOfText h (bar_mem_map_asciiNumeric hs)

/-- A value that equals the protocol version is a number. -/
theorem bar_not_mem_version {v : PyValue} (h : v.eq PROTOCOL_VERSION = true) :
    bar ∉ pyText v := by
  obtain ⟨-, htokens⟩ := PyValue.eq_iff.mp h
  have hnumber : ∃ cs, numberText v = some cs := by
    cases v with
    | bool b => exact ⟨_, rfl⟩
    | int n => exact ⟨_, rfl⟩
    | float x => exact ⟨_, rfl⟩
    | _ => simp [PyValue.tokens, PROTOCOL_VERSION] at htokens
  obtain ⟨cs, hcs⟩ := hnumber
  rw [pyText_of_numberText hcs]
  exact bar_not_mem_ofList (bar_not_mem_numberText hcs)

/-- `repr` neither adds nor drops a bar. -/
theorem count_reprChar {quote : Char} (hquote : quote ≠ '|') (c : PyChar) :
    (PyStr.ofList (reprChar quote c)).count bar = [c].count bar := by
  have hother : ∀ cs : List Char, '|' ∉ cs → c ≠ bar →
      (PyStr.ofList cs).count bar = [c].count bar := by
    intro cs hcs hc
    rw [count_ofList_eq_zero hcs]
    exact (List.count_eq_zero.mpr (by simpa using Ne.symm hc)).symm
  cases c with
  | surrogate n => exact hother _ (bar_not_mem_escapeCode _) (by simp [bar])
  | scalar d =>
      by_cases hd : d = '|'
      · subst hd
        have hne : ¬('|' = quote ∨ '|' = '\\') := by
          rintro (h | h)
          · exact hquote h.symm
          · exact absurd h (by decide)
        simp only [reprChar, hne, if_false]
        rfl
      · have hc : PyChar.scalar d ≠ bar := fun h ↦ hd (PyChar.scalar.inj h)
        refine hother _ ?_ hc
        unfold reprChar
        dsimp only
        split_ifs
        · simpa using Ne.symm hd
        · decide
        · decide
        · decide
        · simpa using Ne.symm hd
        · exact bar_not_mem_escapeCode _
        · simpa using Ne.symm hd
        · exact bar_not_mem_escapeCode _

theorem count_strRepr (s : PyStr) : (strRepr s).count bar = s.count bar := by
  have hbody : ∀ quote, quote ≠ '|' →
      (PyStr.ofList (s.flatMap (reprChar quote))).count bar = s.count bar := by
    intro quote hquote
    induction s with
    | nil => rfl
    | cons c s ih =>
        rw [List.flatMap_cons, PyStr.ofList_append, List.count_append, ih,
          count_reprChar hquote, ← List.count_append, List.singleton_append]
  have hquoted : ∀ quote, quote ≠ '|' →
      (PyStr.ofList (quote :: (s.flatMap (reprChar quote) ++ [quote]))).count bar =
        s.count bar := by
    intro quote hquote
    have hne : PyChar.scalar quote ≠ bar := fun h ↦ hquote (PyChar.scalar.inj h)
    simp [hbody quote hquote, List.count_cons_of_ne hne, List.count_append]
  unfold strRepr
  dsimp only
  split_ifs
  · exact hquoted '"' (by decide)
  · exact hquoted '\'' (by decide)

mutual

theorem count_pyRepr : ∀ v : PyValue, (pyRepr v).count bar = tokensBars v.tokens
  | .none => by simp only [pyRepr]; decide
  | .bool b => by cases b <;> (simp only [pyRepr]; decide)
  | .int n => count_ofList_eq_zero (bar_not_mem_numberText (v := .int n) rfl)
  | .float x => by
      have htoken : tokenBars x.token = 0 := by cases x <;> rfl
      simp only [pyRepr, PyValue.tokens, tokensBars_cons, tokensBars_nil, htoken]
      exact count_ofList_eq_zero (bar_not_mem_numberText (v := .float x) rfl)
  | .str s => by
      simp only [pyRepr, count_strRepr, PyValue.tokens, tokensBars_cons, tokensBars_nil,
        tokenBars, Nat.add_zero]
  | .list items => by
      have hopen : (PyStr.ofString "[").count bar = 0 := by decide
      have hclose : (PyStr.ofString "]").count bar = 0 := by decide
      simp only [pyRepr, PyValue.tokens, List.count_append, count_commaJoin, hopen, hclose,
        tokensBars_cons, tokensBars_append, tokensBars_nil, tokenBars, sum_count_reprItems items]
  | .dict entries => by
      have hopen : (PyStr.ofString "\x7b").count bar = 0 := by decide
      have hclose : (PyStr.ofString "\x7d").count bar = 0 := by decide
      simp only [pyRepr, PyValue.tokens, List.count_append, count_commaJoin, hopen, hclose,
        List.cons_append, tokensBars_cons, tokensBars_append, tokensBars_nil, tokenBars,
        tokensBars_sortEntries, sum_count_reprEntries entries]

theorem sum_count_reprItems : ∀ items : List PyValue,
    ((reprItems items).map (List.count bar)).sum = tokensBars (PyValue.itemTokens items)
  | [] => rfl
  | item :: items => by
      simp only [reprItems, List.map_cons, List.sum_cons, PyValue.itemTokens, tokensBars_append,
        count_pyRepr item, sum_count_reprItems items]

theorem sum_count_reprEntries : ∀ entries : List (PyStr × PyValue),
    ((reprEntries entries).map (List.count bar)).sum =
      ((PyValue.entryTokens entries).map fun e ↦ e.1.count bar + tokensBars e.2).sum
  | [] => rfl
  | (k, v) :: entries => by
      have hcolon : (PyStr.ofString ": ").count bar = 0 := by decide
      simp only [reprEntries, List.map_cons, List.sum_cons, PyValue.entryTokens,
        List.count_append, count_strRepr, hcolon, count_pyRepr v, sum_count_reprEntries entries,
        Nat.zero_add]

end

theorem count_pyText (v : PyValue) : (pyText v).count bar = tokensBars v.tokens := by
  cases v with
  | str s =>
      simp only [pyText, PyValue.tokens, tokensBars_cons, tokensBars_nil, tokenBars, Nat.add_zero]
  | _ => exact count_pyRepr _

/-- Equal values have texts with equally many bars. -/
theorem count_pyText_of_eq {a b : PyValue} (h : a.eq b = true) :
    (pyText a).count bar = (pyText b).count bar := by
  rw [count_pyText, count_pyText, (PyValue.eq_iff.mp h).2]

end

end RemoteInfra.Vehicle
