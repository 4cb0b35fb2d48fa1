import RemoteInfra.JavaScript.Numbers
import RemoteInfra.JavaScript.Strings

/-!
# `JSON.stringify`

The JSON texts of strings, Numbers and objects, and what `json.loads` reads from them: the
value itself, except that a Number printed in digits alone is read as an `int` and one that is
not finite as `None`.
-/

namespace RemoteInfra.JavaScript

open RemoteInfra.Library RemoteInfra.Library.Decimal RemoteInfra.Python

inductive JsonValue
  | number (x : Number)
  | string (s : JSString)
  | object (members : List (JSString × JsonValue))

def numberJson : Number → PyStr
  | .finite negative d => PyStr.ofList (numberToString (.finite negative d))
  | _ => PyStr.ofString "null"

mutual

def stringify : JsonValue → PyStr
  | .number x => numberJson x
  | .string s => quoteJSONString s
  | .object members =>
      .scalar '\x7b' :: (joinWith [.scalar ','] (stringifyMembers members) ++ [.scalar '\x7d'])

def stringifyMembers : List (JSString × JsonValue) → List PyStr
  | [] => []
  | (key, v) :: members =>
      (quoteJSONString key ++ .scalar ':' :: stringify v) :: stringifyMembers members

end

mutual

/-- What Python reads from the text. -/
def readBack : JsonValue → PyValue
  | .number x => readNumber x
  | .string s => .str (codePoints s)
  | .object members => .dict (readMembers members)

def readMembers : List (JSString × JsonValue) → List (PyStr × PyValue)
  | [] => []
  | (key, v) :: members => (codePoints key, readBack v) :: readMembers members

end

/-- The names within each object differ, and objects nest at most so deep. -/
inductive Nests : ℕ → JsonValue → Prop
  | number (depth : ℕ) (x : Number) : Nests depth (.number x)
  | string (depth : ℕ) (s : JSString) : Nests depth (.string s)
  | object (depth : ℕ) (members : List (JSString × JsonValue))
      (hkeys : (members.map fun m ↦ codePoints m.1).Nodup)
      (hmembers : ∀ m ∈ members, Nests depth m.2) : Nests (depth + 1) (.object members)

/-! ## Strings -/

/-- How the scanner sees one quoted code point. -/
def unitOf (p : PyChar) : StringUnit :=
  if p.code ∉ [8, 9, 10, 12, 13] ∧ (p.code < 32 ∨ 0xD800 ≤ p.code ∧ p.code < 0xE000) then
    .escaped p.code
  else .plain p

theorem hexValue_hexDigit {d : ℕ} (h : d < 16) : hexValue (.scalar (hexDigit d)) = some d := by
  interval_cases d <;> decide

theorem hexCode_hexText {n : ℕ} (h : n < 0x10000) (rest : PyStr) : ∃ a b c d,
    PyStr.ofList (hexText 4 n) ++ rest = a :: b :: c :: d :: rest ∧ hexCode a b c d = some n := by
  refine ⟨_, _, _, _, rfl, ?_⟩
  simp only [hexCode, hexValue_hexDigit (Nat.mod_lt _ (by decide : 0 < 16)), Option.bind_eq_bind,
    Option.bind_some, Option.pure_def, Option.some.injEq]
  omega

theorem scanUnits_close (s : PyStr) : scanUnits (.scalar '"' :: s) = some ([], s) := by
  unfold scanUnits
  rfl

theorem scanUnits_plain {c : PyChar} (hquote : c ≠ .scalar '"') (hslash : c ≠ .scalar '\\')
    (hcode : 32 ≤ c.code) (s : PyStr) :
    scanUnits (c :: s) = (scanUnits s).map fun r ↦ (.plain c :: r.1, r.2) := by
  rw [scanUnits.eq_def]
  simp only [hquote, hslash, if_false, if_neg (not_lt.mpr hcode)]
  cases scanUnits s <;> rfl

theorem scanUnits_simple {e c : PyChar} (h : simpleEscape e = some c) (s : PyStr) :
    scanUnits (.scalar '\\' :: e :: s) = (scanUnits s).map fun r ↦ (.plain c :: r.1, r.2) := by
  have hletter : e ≠ .scalar 'u' := by
    rintro rfl
    cases h
  have hquote : PyChar.scalar '\\' ≠ .scalar '"' := by decide
  rw [scanUnits.eq_def]
  simp only [hquote, hletter, if_false, if_true, h]
  cases scanUnits s <;> rfl

theorem scanUnits_code {a b c d : PyChar} {code : ℕ} (h : hexCode a b c d = some code)
    (s : PyStr) : scanUnits (.scalar '\\' :: .scalar 'u' :: a :: b :: c :: d :: s) =
      (scanUnits s).map fun r ↦ (.escaped code :: r.1, r.2) := by
  have hquote : PyChar.scalar '\\' ≠ .scalar '"' := by decide
  rw [scanUnits.eq_def]
  simp only [hquote, if_false, if_true, h]
  cases scanUnits s <;> rfl

/-- The scanner reads a quoted code point as one unit. -/
theorem scanUnits_quotePoint (p : PyChar) (s : PyStr) :
    scanUnits (quotePoint p ++ s) = (scanUnits s).map fun r ↦ (unitOf p :: r.1, r.2) := by
  unfold quotePoint
  split_ifs with h1 h2 h3 h4 h5 h6 h7 h8
  · subst h1
    exact scanUnits_simple (e := .scalar 'b') rfl s
  · subst h2
    exact scanUnits_simple (e := .scalar 't') rfl s
  · subst h3
    exact scanUnits_simple (e := .scalar 'n') rfl s
  · subst h4
    exact scanUnits_simple (e := .scalar 'f') rfl s
  · subst h5
    exact scanUnits_simple (e := .scalar 'r') rfl s
  · subst h6
    exact scanUnits_simple (e := .scalar '"') rfl s
  · subst h7
    exact scanUnits_simple (e := .scalar '\\') rfl s
  · have hcode : p.code < 0x10000 := by
      simp only [Bool.or_eq_true, Bool.and_eq_true, decide_eq_true_eq] at h8
      omega
    obtain ⟨a, b, c, d, htext, hhex⟩ := hexCode_hexText hcode s
    have hunit : unitOf p = .escaped p.code := by
      have hne : ∀ n c, ofCode n = .scalar c → p ≠ .scalar c → p.code ≠ n := by
        rintro n c hc hp rfl
        exact hp ((ofCode_code p).symm.trans hc)
      have hmem : p.code ∉ [8, 9, 10, 12, 13] := by
        simp only [List.mem_cons, List.not_mem_nil, or_false, not_or]
        exact ⟨hne 8 _ rfl h1, hne 9 _ rfl h2, hne 10 _ rfl h3, hne 12 _ rfl h4, hne 13 _ rfl h5⟩
      simp only [Bool.or_eq_true, Bool.and_eq_true, decide_eq_true_eq] at h8
      rw [unitOf, if_pos ⟨hmem, h8⟩]
    rw [unicodeEscape, PyStr.ofList_cons, PyStr.ofList_cons, List.cons_append, List.cons_append,
      htext, hunit]
    exact scanUnits_code hhex s
  · have hunit : unitOf p = .plain p := by
      simp only [Bool.or_eq_true, Bool.and_eq_true, decide_eq_true_eq] at h8
      rw [unitOf, if_neg fun h ↦ h8 h.2]
    have hcode : 32 ≤ p.code := by
      simp only [Bool.or_eq_true, Bool.and_eq_true, decide_eq_true_eq] at h8
      omega
    rw [hunit]
    exact scanUnits_plain h6 h7 hcode s

theorem scanUnits_quoted (ps rest : PyStr) :
    scanUnits (ps.flatMap quotePoint ++ .scalar '"' :: rest) = some (ps.map unitOf, rest) := by
  induction ps with
  | nil => exact scanUnits_close rest
  | cons p ps ih =>
      rw [List.flatMap_cons, List.append_assoc, scanUnits_quotePoint, ih]
      rfl

theorem unitOf_cases (p : PyChar) : unitOf p = .plain p ∨ unitOf p = .escaped p.code := by
  unfold unitOf
  split_ifs
  · exact .inr rfl
  · exact .inl rfl

/-- Units of code points none of which pair up join to those code points. -/
theorem joinUnits_units {ps : PyStr} (h : Unpaired ps) : joinUnits (ps.map unitOf) = ps := by
  induction ps with
  | nil => rfl
  | cons p ps ih =>
      have hrest := ih h.tail
      rw [List.map_cons]
      rcases unitOf_cases p with hp | hp
      · rw [hp, joinUnits, hrest]
      cases ps with
      | nil => rw [hp, List.map_nil, joinUnits.eq_4 _ _ (by simp), joinUnits, ofCode_code]
      | cons q ps =>
          rw [List.map_cons] at hrest ⊢
          rcases unitOf_cases q with hq | hq
          · rw [hq] at hrest ⊢
            rw [hp, joinUnits.eq_4 _ _ (by simp), hrest, ofCode_code]
          · have hpair : ¬(isHigh p.code && isLow q.code) = true := by
              rw [Bool.and_eq_true]
              exact h.rel
            rw [hq] at hrest ⊢
            rw [hp, joinUnits.eq_3, if_neg hpair, hrest, ofCode_code]

theorem scanString_quoted (s : JSString) (rest : PyStr) :
    scanString ((codePoints s).flatMap quotePoint ++ .scalar '"' :: rest) =
      .ok (codePoints s, rest) := by
  rw [scanString, scanUnits_quoted]
  exact congrArg (fun text ↦ Except.ok (text, rest)) (joinUnits_units (unpaired_codePoints s))

/-! ## Numbers -/

/-- What follows a value within an object, or at the end of a text. -/
def Delimited (rest : PyStr) : Prop :=
  ∀ c ∈ rest.head?, c = .scalar ',' ∨ c = .scalar '\x7d'

theorem Delimited.ends {rest : PyStr} (h : Delimited rest) : Ends (rest.map plainChar) := by
  cases rest with
  | nil => exact ends_nil
  | cons c rest =>
      rcases h c rfl with rfl | rfl
      · exact ⟨noDigit_cons (by decide), by simp [plainChar], by simp [plainChar]⟩
      · exact ⟨noDigit_cons (by decide), by simp [plainChar], by simp [plainChar]⟩

theorem map_plainChar (cs : List Char) (rest : PyStr) :
    (PyStr.ofList cs ++ rest).map plainChar = cs ++ rest.map plainChar := by
  rw [List.map_append, PyStr.ofList, List.map_map]
  exact congrArg (· ++ rest.map plainChar) (List.map_id cs)

theorem scanMinus_signed (negative : Bool) {c : Char} (hc : IsDigit c) (cs : List Char) :
    scanMinus (signText negative ++ c :: cs) = (negative, c :: cs) := by
  cases negative
  · have hminus : c ≠ '-' := by
      rintro rfl
      exact absurd hc.1 (by decide)
    simp only [signText, Bool.false_eq_true, if_false, List.nil_append]
    unfold scanMinus
    split
    · rename_i h
      exact absurd (List.cons.inj h).1 hminus
    · rfl
  · rfl

/-- A numeral without a superfluous leading zero is read as a whole. -/
theorem scanWhole_text {ds : List ℕ} (hlt : ∀ d ∈ ds, d < 10)
    (hzero : ds = [0] ∨ ds.head? ≠ some 0) {rest : List Char} (hrest : NoDigit rest) :
    scanWhole (digitsText ds ++ rest) = (ds, rest) := by
  rw [scanWhole, scanDigits_text hlt hrest]
  split
  · rename_i d ds' h
    obtain ⟨rfl, -⟩ := Prod.mk.inj h
    simp at hzero
  · rfl

theorem scanJsonFraction_text {x : Option (List ℕ)} (hne : x ≠ some [])
    (hlt : ∀ ds ∈ x, ∀ d ∈ ds, d < 10) {rest : List Char} (hdigit : NoDigit rest)
    (hpoint : rest.head? ≠ some '.') :
    scanJsonFraction (Numeral.fractionText x ++ rest) = (x, rest) := by
  rw [scanJsonFraction, scanFraction_text hlt hdigit hpoint]
  split
  · rename_i h
    exact absurd (Prod.mk.inj h).1 hne
  · rfl

/-- Scanning the text of a numeral reads that numeral. -/
theorem scanNumber_text (negative : Bool) {n : Numeral} (hn : n.WellFormed)
    (hzero : n.whole = [0] ∨ n.whole.head? ≠ some 0) {rest : PyStr} (hrest : Delimited rest) :
    scanNumber (PyStr.ofList (signText negative ++ n.text) ++ rest) =
      (numberValue negative n).map fun v ↦ (v, rest) := by
  obtain ⟨hexpDigit, hexpPoint⟩ := noDigit_exponentText n.exponent hrest.ends
  have hwhole := scanWhole_text hn.whole_lt hzero (noDigit_fractionText n.fraction hexpDigit)
  have hfraction := scanJsonFraction_text hn.fraction_ne hn.fraction_lt hexpDigit hexpPoint
  have hexponent := scanExponent_text hn.exponent_ne hn.exponent_lt hrest.ends
  obtain ⟨c, cs, htext, hc⟩ := hn.isDigit_head
  have hminus : scanMinus (signText negative ++ (n.text ++ rest.map plainChar)) =
      (negative, n.text ++ rest.map plainChar) := by
    rw [htext]
    exact scanMinus_signed negative hc _
  have hrestDrop : ∀ s : PyStr, (s ++ rest).drop ((s ++ rest).length - rest.length) = rest := by
    intro s
    rw [List.length_append, Nat.add_sub_cancel, List.drop_left]
  simp only [Numeral.text, List.append_assoc] at hminus hwhole hfraction ⊢
  simp only [scanNumber, map_plainChar, List.append_assoc, hminus, hwhole, hfraction, hexponent,
    hn.whole_ne, if_false, List.length_map, hrestDrop]
  cases numberValue negative n <;> rfl

theorem ne_of_isDigit {c d : Char} (hc : IsDigit c) (hd : ¬(48 ≤ d.toNat ∧ d.toNat ≤ 57)) :
    c ≠ d := by
  rintro rfl
  exact hd hc

/-- No name starts like a number. -/
theorem scanName_digit {c : Char} (hc : IsDigit c) (negative : Bool) (rest : PyStr) :
    scanName (PyStr.ofList (signText negative) ++ .scalar c :: rest) NAMES = none := by
  have hn : c ≠ 'n' := ne_of_isDigit hc (by decide)
  have ht : c ≠ 't' := ne_of_isDigit hc (by decide)
  have hf : c ≠ 'f' := ne_of_isDigit hc (by decide)
  have hN : c ≠ 'N' := ne_of_isDigit hc (by decide)
  have hI : c ≠ 'I' := ne_of_isDigit hc (by decide)
  have hminus : c ≠ '-' := ne_of_isDigit hc (by decide)
  cases negative
  · simp [signText, scanName, NAMES, PyStr.ofString, List.dropPrefix?, hn, ht, hf, hN, hI, hminus]
  · simp [signText, scanName, NAMES, PyStr.ofString, List.dropPrefix?, hI]

/-- What starts like a number is read as one. -/
theorem scanOnce_digit (list dict : Scanner) {c : Char} (hc : IsDigit c) (negative : Bool)
    (rest : PyStr) : scanOnce list dict (PyStr.ofList (signText negative) ++ .scalar c :: rest) =
      scanNumber (PyStr.ofList (signText negative) ++ .scalar c :: rest) := by
  have hname := scanName_digit hc negative rest
  have hquote : c ≠ '"' := ne_of_isDigit hc (by decide)
  have hbrace : c ≠ '\x7b' := ne_of_isDigit hc (by decide)
  have hbracket : c ≠ '[' := ne_of_isDigit hc (by decide)
  cases negative
  · simp only [signText, Bool.false_eq_true, if_false, PyStr.ofList_nil, List.nil_append]
      at hname ⊢
    simp [scanOnce, hname, hquote, hbrace, hbracket]
  · simp only [signText, if_true, PyStr.ofList_cons, PyStr.ofList_nil, List.cons_append,
      List.nil_append] at hname ⊢
    simp [scanOnce, hname]

/-- The numeral of a Number has no superfluous leading zero. -/
theorem whole_numberNumeral (d : Double) : (numberNumeral d).whole = [0] ∨
    (numberNumeral d).whole.head? ≠ some 0 := by
  by_cases hzero : d.units = 0
  · rw [numberNumeral_zero hzero]
    exact .inl rfl
  rw [numberNumeral]
  split_ifs
  · exact head_fixedLayout (floatDigits_ne_nil d) (head_floatDigits hzero) _ _
  · exact .inr (head_exponentLayout (head_floatDigits hzero) _ _)

/-- Digits alone are never as many as `int` refuses. -/
theorem length_whole_le {d : Double} (h : IsDigits (numberNumeral d)) :
    (numberNumeral d).whole.length ≤ maxStrDigits := by
  obtain ⟨hfixed, hlength⟩ := fixed_of_isDigits h
  have hpos : 0 < (floatDigits d).length := List.length_pos_iff.mpr (floatDigits_ne_nil d)
  rw [numberNumeral, if_pos hfixed, fixedLayout, if_neg (by omega), if_neg (by omega),
    List.length_append, List.length_replicate, maxStrDigits]
  omega

theorem numberValue_numberNumeral (negative : Bool) (d : Double) :
    numberValue negative (numberNumeral d) = .ok (readNumber (.finite negative d)) := by
  rw [numberValue, readNumber]
  split
  · rename_i hfraction hexponent
    have hdigits : IsDigits (numberNumeral d) := ⟨hfraction, hexponent⟩
    rw [if_pos (length_whole_le hdigits), if_pos hdigits]
  · rename_i hother
    have hdigits : ¬IsDigits (numberNumeral d) := fun h ↦ hother h.1 h.2
    have hdenotes := numberNumeral_denotes d
    rw [← value_floatDigits d, ← floatPoint_sub d] at hdenotes
    rw [if_neg hdigits, floatOfDecimal_shortest hdenotes]

theorem scanOnce_numeral (list dict : Scanner) (negative : Bool) (d : Double) {rest : PyStr}
    (h : Delimited rest) :
    scanOnce list dict (PyStr.ofList (signText negative ++ (numberNumeral d).text) ++ rest) =
      .ok (readNumber (.finite negative d), rest) := by
  have hwell := numberNumeral_wellFormed d
  have hscan := scanNumber_text negative hwell (whole_numberNumeral d) h
  rw [numberValue_numberNumeral] at hscan
  obtain ⟨c, cs, htext, hc⟩ := hwell.isDigit_head
  simp only [htext, PyStr.ofList_append, PyStr.ofList_cons, List.append_assoc,
    List.cons_append] at hscan ⊢
  rw [scanOnce_digit list dict hc negative, hscan]
  rfl

/-- Python reads the JSON text of a Number. -/
theorem scanOnce_number (list dict : Scanner) (x : Number) {rest : PyStr} (h : Delimited rest) :
    scanOnce list dict (numberJson x ++ rest) = .ok (readNumber x, rest) := by
  have hnull : scanOnce list dict (PyStr.ofString "null" ++ rest) = .ok (.none, rest) := by
    simp [scanOnce, scanName, NAMES, PyStr.ofString, List.dropPrefix?]
  cases x with
  | nan => exact hnull
  | infinity negative => exact hnull
  | finite negative d =>
      rw [numberJson, numberToString]
      split_ifs with hzero
      · have htext := scanOnce_numeral list dict false d h
        rwa [numberNumeral_zero hzero, readNumber_zero hzero,
          ← @readNumber_zero negative d hzero] at htext
      · exact scanOnce_numeral list dict negative d h

/-! ## Objects -/

theorem scanOnce_string (list dict : Scanner) (s : JSString) (rest : PyStr) :
    scanOnce list dict (quoteJSONString s ++ rest) = .ok (.str (codePoints s), rest) := by
  have hstring := scanString_quoted s rest
  simp only [quoteJSONString, List.cons_append, List.append_assoc, List.nil_append, scanOnce,
    if_true, hstring]
  rfl

theorem skipSpace_of_delimited {rest : PyStr} (h : Delimited rest) : skipSpace rest = rest := by
  cases rest with
  | nil => rfl
  | cons c rest => rcases h c rfl with rfl | rfl <;> rfl

/-- The scanner reads back what is written of `v`. -/
def Reads (scan : Scanner) (v : JsonValue) : Prop :=
  ∀ rest, Delimited rest → scan (stringify v ++ rest) = .ok (readBack v, rest)

/-- Neither a blank nor the mark that no text may start with. -/
def Opens (c : PyChar) : Prop := isJsonSpace c = false ∧ c ≠ byteOrderMark

instance (c : PyChar) : Decidable (Opens c) := inferInstanceAs (Decidable (_ ∧ _))

theorem opens_digit {c : Char} (hc : IsDigit c) : Opens (.scalar c) := by
  have hblank : c ≠ ' ' := ne_of_isDigit hc (by decide)
  have htab : c ≠ '\t' := ne_of_isDigit hc (by decide)
  have hline : c ≠ '\n' := ne_of_isDigit hc (by decide)
  have hreturn : c ≠ '\r' := ne_of_isDigit hc (by decide)
  have hmark : c ≠ Char.ofNat 0xFEFF := ne_of_isDigit hc (by decide)
  constructor
  · simp [isJsonSpace, hblank, htab, hline, hreturn]
  · simpa [byteOrderMark] using hmark

theorem head_numberToString (negative : Bool) (d : Double) : ∃ c cs,
    numberToString (.finite negative d) = c :: cs ∧ Opens (.scalar c) := by
  rw [numberToString]
  split_ifs
  · exact ⟨_, _, rfl, by decide⟩
  · obtain ⟨c, cs, htext, hc⟩ := (numberNumeral_wellFormed d).isDigit_head
    rw [htext]
    cases negative
    · exact ⟨_, _, rfl, opens_digit hc⟩
    · exact ⟨_, _, rfl, by decide⟩

theorem head_stringify (v : JsonValue) : ∃ c cs, stringify v = c :: cs ∧ Opens c := by
  cases v with
  | number x =>
      cases x with
      | nan => exact ⟨_, _, rfl, by decide⟩
      | infinity negative => exact ⟨_, _, rfl, by decide⟩
      | finite negative d =>
          obtain ⟨c, cs, htext, hc⟩ := head_numberToString negative d
          exact ⟨.scalar c, PyStr.ofList cs, by rw [stringify, numberJson, htext]; rfl, hc⟩
  | string s => exact ⟨_, _, rfl, by decide⟩
  | object members => exact ⟨_, _, rfl, by decide⟩

theorem skipSpace_stringify (v : JsonValue) (rest : PyStr) :
    skipSpace (stringify v ++ rest) = stringify v ++ rest := by
  obtain ⟨c, cs, htext, hc⟩ := head_stringify v
  rw [htext]
  exact List.dropWhile_cons_of_neg (by simp [hc.1])

theorem scanMember_text {scan : Scanner} {v : JsonValue} (hv : Reads scan v) (key : JSString)
    {rest : PyStr} (h : Delimited rest) :
    scanMember scan (quoteJSONString key ++ (.scalar ':' :: (stringify v ++ rest))) =
      .ok ((codePoints key, readBack v), rest) := by
  have hstring := scanString_quoted key (.scalar ':' :: (stringify v ++ rest))
  have hcolon : ∀ s, skipSpace (.scalar ':' :: s) = .scalar ':' :: s := fun s ↦ rfl
  simp only [quoteJSONString, List.cons_append, List.append_assoc, List.nil_append, scanMember,
    hstring, ok_bind, hcolon, skipSpace_stringify, hv rest h, skipSpace_of_delimited h]
  rfl

/-- The members behind the first one, with the separator in front. -/
def furtherMembers (members : List (JSString × JsonValue)) : PyStr :=
  if members = [] then [] else .scalar ',' :: joinWith [.scalar ','] (stringifyMembers members)

theorem joinWith_stringifyMembers (key : JSString) (v : JsonValue)
    (members : List (JSString × JsonValue)) :
    joinWith [.scalar ','] (stringifyMembers ((key, v) :: members)) =
      quoteJSONString key ++ (.scalar ':' :: (stringify v ++ furtherMembers members)) := by
  cases members with
  | nil => simp [stringifyMembers, joinWith, furtherMembers]
  | cons m members =>
      simp [stringifyMembers, joinWith, furtherMembers]

/-- Members start with the quote of the first name. -/
theorem head_joinWith_members {members : List (JSString × JsonValue)} (h : members ≠ []) :
    ∃ cs, joinWith [.scalar ','] (stringifyMembers members) = .scalar '"' :: cs := by
  obtain ⟨⟨key, v⟩, members, rfl⟩ := List.exists_cons_of_ne_nil h
  rw [joinWith_stringifyMembers]
  exact ⟨_, rfl⟩

theorem skipSpace_members {members : List (JSString × JsonValue)} (h : members ≠ [])
    (rest : PyStr) : skipSpace (joinWith [.scalar ','] (stringifyMembers members) ++ rest) =
      joinWith [.scalar ','] (stringifyMembers members) ++ rest := by
  obtain ⟨cs, hcs⟩ := head_joinWith_members h
  rw [hcs]
  rfl

/-- The members of an object are read one after the other. -/
theorem scanMembers_text {scan : Scanner} {members : List (JSString × JsonValue)}
    (hreads : ∀ m ∈ members, Reads scan m.2) (hne : members ≠ [])
    {entries : List (PyStr × PyValue)}
    (hkeys : (entries.map Prod.fst ++ members.map fun m ↦ codePoints m.1).Nodup) {fuel : ℕ}
    (hfuel : members.length ≤ fuel) (rest : PyStr) :
    scanMembers scan entries fuel (joinWith [.scalar ','] (stringifyMembers members) ++
        .scalar '\x7d' :: rest) = .ok (entries ++ readMembers members, rest) := by
  induction members generalizing entries fuel with
  | nil => exact absurd rfl hne
  | cons m members ih =>
      obtain ⟨key, v⟩ := m
      obtain ⟨fuel, rfl⟩ : ∃ n, fuel = n + 1 := ⟨fuel - 1, by simp at hfuel; omega⟩
      have hnew : codePoints key ∉ entries.map Prod.fst := by
        intro hmem
        exact (List.nodup_append.mp hkeys).2.2 _ hmem _ List.mem_cons_self rfl
      have hv : Reads scan v := hreads _ List.mem_cons_self
      rw [joinWith_stringifyMembers]
      simp only [List.append_assoc, List.cons_append]
      rw [scanMembers]
      by_cases hlast : members = []
      · subst hlast
        have hdelimited : Delimited (.scalar '\x7d' :: rest) := by simp [Delimited]
        simp only [furtherMembers, if_true, List.nil_append, scanMember_text hv key hdelimited,
          ok_bind, PyValue.setEntry_new hnew]
        rfl
      · have hdelimited : Delimited (furtherMembers members ++ .scalar '\x7d' :: rest) := by
          simp [furtherMembers, hlast, Delimited]
        have hkeys' : ((entries ++ [(codePoints key, readBack v)]).map Prod.fst ++
            members.map fun m ↦ codePoints m.1).Nodup := by
          simpa using hkeys
        have htail := ih (fun m hm ↦ hreads m (List.mem_cons_of_mem _ hm)) hlast hkeys'
          (Nat.le_of_succ_le_succ hfuel)
        rw [List.append_assoc] at htail
        simp only [scanMember_text hv key hdelimited, ok_bind, PyValue.setEntry_new hnew]
        simp only [furtherMembers, hlast, if_false, List.cons_append]
        rw [if_neg (by decide), skipSpace_members hlast]
        simp only [if_true]
        exact htail

theorem length_le_members (members : List (JSString × JsonValue)) :
    members.length ≤ (joinWith [.scalar ','] (stringifyMembers members)).length := by
  induction members with
  | nil => exact Nat.zero_le _
  | cons m members ih =>
      obtain ⟨key, v⟩ := m
      rw [joinWith_stringifyMembers]
      simp only [quoteJSONString, furtherMembers, List.length_cons, List.length_append]
      split_ifs with h
      · subst h
        simp only [List.length_nil]
        omega
      · simp only [List.length_cons]
        omega

theorem scanDict_text {scan : Scanner} {members : List (JSString × JsonValue)}
    (hreads : ∀ m ∈ members, Reads scan m.2)
    (hkeys : (members.map fun m ↦ codePoints m.1).Nodup) (rest : PyStr) :
    scanDict scan (joinWith [.scalar ','] (stringifyMembers members) ++ .scalar '\x7d' :: rest) =
      .ok (.dict (readMembers members), rest) := by
  by_cases hne : members = []
  · subst hne
    rfl
  · have hfuel : members.length ≤ (joinWith [PyChar.scalar ','] (stringifyMembers members) ++
        .scalar '\x7d' :: rest).length := by
      have hlength := length_le_members members
      rw [List.length_append]
      omega
    have hmembers := @scanMembers_text scan members hreads hne []
      (by simpa using hkeys) _ hfuel rest
    obtain ⟨cs, hcs⟩ := head_joinWith_members hne
    rw [scanDict, skipSpace_members hne]
    rw [hcs, List.cons_append] at hmembers ⊢
    split
    · rename_i heq
      cases heq
    · rw [hmembers]
      rfl

/-- Python reads back every value, as deep as its decoder goes. -/
theorem reads_of_nests {depth : ℕ} {v : JsonValue} (h : Nests depth v) :
    Reads (scanValue depth) v := by
  induction h with
  | number depth x =>
      intro rest hrest
      cases depth <;> exact scanOnce_number _ _ x hrest
  | string depth s =>
      intro rest hrest
      cases depth <;> exact scanOnce_string _ _ s rest
  | object depth members hkeys hmembers ih =>
      intro rest hrest
      have hdict := scanDict_text ih hkeys rest
      have hquote : PyChar.scalar '\x7b' ≠ .scalar '"' := by decide
      rw [scanValue, stringify, List.cons_append, List.append_assoc, scanOnce, if_neg hquote,
        if_pos rfl]
      exact hdict

theorem loads_stringify [PythonPlatform] {v : JsonValue}
    (h : Nests PythonPlatform.nestingLimit v) : loads (stringify v) = .ok (readBack v) := by
  have hreads := reads_of_nests h [] (by simp [Delimited])
  have hspace := skipSpace_stringify v []
  rw [List.append_nil] at hreads hspace
  have hmark : (stringify v).head? ≠ some byteOrderMark := by
    obtain ⟨c, cs, htext, hc⟩ := head_stringify v
    rw [htext, List.head?_cons]
    intro h
    exact hc.2 (Option.some.inj h)
  rw [loads, if_neg hmark, hspace, hreads]
  rfl

end RemoteInfra.JavaScript
