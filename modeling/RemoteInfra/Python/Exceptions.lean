import RemoteInfra.Python.Json

/-!
# The exceptions a computation may raise

Bounds on the exceptions of the conversions, of subscripts and of the JSON decoder.
-/

namespace RemoteInfra.Python

open RemoteInfra.Library RemoteInfra.Library.Decimal

/-- Nothing but `allowed` is raised. -/
def RaisesOnly {α : Type} (allowed : List PyExc) (x : Except PyExc α) : Prop :=
  ∀ e, x = .error e → e ∈ allowed

namespace RaisesOnly

variable {α β : Type} {allowed : List PyExc}

theorem ok (a : α) : RaisesOnly allowed (.ok a) := by
  intro e h
  cases h

theorem error {e : PyExc} (h : e ∈ allowed) : RaisesOnly allowed (.error e : Except PyExc α) := by
  intro e' he
  cases he
  exact h

theorem bind {x : Except PyExc α} {f : α → Except PyExc β} (hx : RaisesOnly allowed x)
    (hf : ∀ a, x = .ok a → RaisesOnly allowed (f a)) : RaisesOnly allowed (x >>= f) := by
  intro e h
  cases hres : x with
  | error e' =>
      rw [hres] at h
      cases h
      exact hx e hres
  | ok a =>
      rw [hres] at h
      exact hf a hres e h

theorem mono {x : Except PyExc α} {more : List PyExc} (hx : RaisesOnly allowed x)
    (h : allowed ⊆ more) : RaisesOnly more x :=
  fun e he ↦ h (hx e he)

end RaisesOnly

theorem bind_eq_error {ε α β : Type} {x : Except ε α} {f : α → Except ε β} {e : ε} :
    x >>= f = .error e ↔ x = .error e ∨ ∃ a, x = .ok a ∧ f a = .error e := by
  cases x with
  | error e' =>
      constructor
      · intro h
        cases h
        exact .inl rfl
      · rintro (h | ⟨a, ha, -⟩)
        · cases h
          rfl
        · cases ha
  | ok a =>
      constructor
      · intro h
        exact .inr ⟨a, rfl, h⟩
      · rintro (h | ⟨a', ha, h⟩)
        · cases h
        · cases ha
          exact h

/-! ## Subscripts and conversions -/

theorem getItem_raises (v : PyValue) (key : String) :
    RaisesOnly [.keyError, .typeError] (v.getItem key) := by
  unfold PyValue.getItem
  split
  · split
    · exact .ok _
    · exact .error (by simp)
  · exact .error (by simp)

theorem intOfText_raises (cs : List Char) : RaisesOnly [.valueError] (intOfText cs) := by
  unfold intOfText
  split
  · exact .error (by simp)
  · split
    · split
      · exact .ok _
      · exact .error (by simp)
    · exact .error (by simp)

theorem floatOfText_raises (cs : List Char) : RaisesOnly [.valueError] (floatOfText cs) := by
  unfold floatOfText
  split
  · exact .error (by simp)
  · dsimp only
    split
    · exact .ok _
    · split
      · exact .ok _
      · split
        · split
          · exact .error (by simp)
          · exact .ok _
        · exact .error (by simp)

/-- `int` overflows on the infinities only. -/
theorem pyInt_eq_overflow_iff [PythonPlatform] {v : PyValue} :
    pyInt v = .error .overflowError ↔ ∃ negative, v = .float (.infinity negative) := by
  cases v with
  | float x => cases x <;> simp [pyInt]
  | str s =>
      refine iff_of_false (fun h ↦ ?_) (by simp)
      have hmem := intOfText_raises _ _ h
      simp at hmem
  | _ => simp [pyInt]

theorem pyInt_raises [PythonPlatform] (v : PyValue) :
    RaisesOnly [.valueError, .overflowError, .typeError] (pyInt v) := by
  cases v with
  | float x =>
      cases x with
      | nan => exact .error (by simp)
      | infinity negative => exact .error (by simp)
      | finite negative d => exact .ok _
  | str s => exact (intOfText_raises _).mono (by simp)
  | bool b => exact .ok _
  | int n => exact .ok _
  | _ => exact .error (by simp)

/-- An `int` past the largest finite float. -/
def hugeInt : PyValue → Bool
  | .int n => (Magnitude.round double n.natAbs 0).isNone
  | _ => false

/-- `float` overflows on the integers past the largest finite float only. -/
theorem pyFloat_eq_overflow_iff [PythonPlatform] {v : PyValue} :
    pyFloat v = .error .overflowError ↔ hugeInt v = true := by
  have hint : ∀ n : ℤ, floatOfInt n = .error .overflowError ↔
      (Magnitude.round double n.natAbs 0).isNone = true := by
    intro n
    unfold floatOfInt
    split
    · rename_i hround
      simp [hround]
    · rename_i hround
      simp [hround]
  cases v with
  | bool b =>
      have hsmall : ∀ c : Bool,
          (Magnitude.round double (if c then (1 : ℤ) else 0).natAbs 0).isNone = false := by
        decide +kernel
      refine iff_of_false (fun h ↦ ?_) (by simp [hugeInt])
      rw [pyFloat, hint, hsmall] at h
      cases h
  | int n => exact hint n
  | str s =>
      refine iff_of_false (fun h ↦ ?_) (by simp [hugeInt])
      have hmem := floatOfText_raises _ _ h
      simp at hmem
  | _ => simp [pyFloat, hugeInt]

theorem pyFloat_raises [PythonPlatform] (v : PyValue) :
    RaisesOnly [.valueError, .overflowError, .typeError] (pyFloat v) := by
  have hint : ∀ n : ℤ, RaisesOnly [.valueError, .overflowError, .typeError] (floatOfInt n) := by
    intro n
    unfold floatOfInt
    split
    · exact .ok _
    · exact .error (by simp)
  cases v with
  | bool b => exact hint _
  | int n => exact hint n
  | float x => exact .ok _
  | str s => exact (floatOfText_raises _).mono (by simp)
  | _ => exact .error (by simp)

/-! ## The decoder -/

/-- A syntax error, or nesting past the limit. -/
def decodeErrors : List PyExc := [.valueError, .jsonDecodeError, .recursionError]

theorem scanString_raises (s : PyStr) : RaisesOnly decodeErrors (scanString s) := by
  unfold scanString
  split
  · exact .ok _
  · exact .error (by simp [decodeErrors])

theorem scanNumber_raises (s : PyStr) : RaisesOnly decodeErrors (scanNumber s) := by
  have hnumber : ∀ negative n, RaisesOnly decodeErrors (numberValue negative n) := by
    intro negative n
    unfold numberValue
    split
    · split
      · exact .ok _
      · exact .error (by simp [decodeErrors])
    · exact .ok _
  unfold scanNumber
  dsimp only
  split
  · exact .error (by simp [decodeErrors])
  · exact .bind (hnumber _ _) fun number _ ↦ .ok _

section

variable {scan : Scanner} (hscan : ∀ s, RaisesOnly decodeErrors (scan s))

include hscan

theorem scanItems_raises (fuel : ℕ) (s : PyStr) :
    RaisesOnly decodeErrors (scanItems scan fuel s) := by
  induction fuel generalizing s with
  | zero => exact .error (by simp [decodeErrors])
  | succ fuel ih =>
      refine .bind (hscan s) fun result _ ↦ ?_
      dsimp only
      split
      · exact .error (by simp [decodeErrors])
      · split
        · exact .ok _
        · split
          · exact .bind (ih _) fun items _ ↦ .ok _
          · exact .error (by simp [decodeErrors])

theorem scanList_raises (s : PyStr) : RaisesOnly decodeErrors (scanList scan s) := by
  unfold scanList
  split
  · exact .ok _
  · exact .bind (scanItems_raises hscan _ _) fun items _ ↦ .ok _

theorem scanMember_raises (s : PyStr) : RaisesOnly decodeErrors (scanMember scan s) := by
  unfold scanMember
  split
  · refine .bind (scanString_raises _) fun key _ ↦ ?_
    dsimp only
    split
    · exact .bind (hscan _) fun v _ ↦ .ok _
    · exact .error (by simp [decodeErrors])
  · exact .error (by simp [decodeErrors])

theorem scanMembers_raises (entries : List (PyStr × PyValue)) (fuel : ℕ) (s : PyStr) :
    RaisesOnly decodeErrors (scanMembers scan entries fuel s) := by
  induction fuel generalizing entries s with
  | zero => exact .error (by simp [decodeErrors])
  | succ fuel ih =>
      refine .bind (scanMember_raises hscan s) fun member _ ↦ ?_
      dsimp only
      split
      · exact .error (by simp [decodeErrors])
      · split
        · exact .ok _
        · split
          · exact ih _ _
          · exact .error (by simp [decodeErrors])

theorem scanDict_raises (s : PyStr) : RaisesOnly decodeErrors (scanDict scan s) := by
  unfold scanDict
  split
  · exact .ok _
  · exact .bind (scanMembers_raises hscan _ _ _) fun entries _ ↦ .ok _

end

theorem scanOnce_raises {list dict : Scanner} (hlist : ∀ s, RaisesOnly decodeErrors (list s))
    (hdict : ∀ s, RaisesOnly decodeErrors (dict s)) (s : PyStr) :
    RaisesOnly decodeErrors (scanOnce list dict s) := by
  unfold scanOnce
  split
  · exact .error (by simp [decodeErrors])
  · split
    · exact .bind (scanString_raises _) fun text _ ↦ .ok _
    · split
      · exact hdict _
      · split
        · exact hlist _
        · split
          · exact .ok _
          · exact scanNumber_raises _

theorem scanValue_raises (depth : ℕ) (s : PyStr) :
    RaisesOnly decodeErrors (scanValue depth s) := by
  induction depth generalizing s with
  | zero =>
      have hdeep : ∀ s, RaisesOnly decodeErrors ((fun _ ↦ .error .recursionError : Scanner) s) :=
        fun s ↦ .error (by simp [decodeErrors])
      exact scanOnce_raises hdeep hdeep s
  | succ depth ih => exact scanOnce_raises (scanList_raises ih) (scanDict_raises ih) s

/-- `json.loads` raises a syntax error or hits the recursion limit. -/
theorem loads_raises [PythonPlatform] (s : PyStr) : RaisesOnly decodeErrors (loads s) := by
  unfold loads
  split
  · exact .error (by simp [decodeErrors])
  · refine .bind (scanValue_raises _ _) fun result _ ↦ ?_
    dsimp only
    split
    · exact .ok _
    · exact .error (by simp [decodeErrors])

end RemoteInfra.Python
