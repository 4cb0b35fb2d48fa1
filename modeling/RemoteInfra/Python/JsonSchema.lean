import RemoteInfra.Python.Texts

/-!
# JSON Schema

The keywords of JSON Schema (draft 7) that the published schemas use, as predicates on decoded
values.  Where a keyword speaks about values of one type, values of other types pass it.  A
boolean is no number, a whole float is an integer, and the non-finite floats are no JSON.
-/

namespace RemoteInfra.Python

open RemoteInfra.Library

/-- The number a JSON value is. -/
def jsonNumber : PyValue → Option ℚ
  | .int n => some n
  | .float x => x.val
  | _ => none

abbrev Schema := PyValue → Bool

namespace Schema

/-- A schema of several keywords. -/
def keywords (ks : List Schema) : Schema := fun v ↦ ks.all fun k ↦ k v

def typeObject : Schema
  | .dict _ => true
  | _ => false

def typeString : Schema
  | .str _ => true
  | _ => false

def typeNumber : Schema := fun v ↦ (jsonNumber v).isSome

def typeInteger : Schema := fun v ↦ (jsonNumber v).any fun q ↦ q.den = 1

def minimum (low : ℚ) : Schema := fun v ↦ (jsonNumber v).all fun q ↦ low ≤ q

def maximum (high : ℚ) : Schema := fun v ↦ (jsonNumber v).all fun q ↦ q ≤ high

def minLength (n : ℕ) : Schema
  | .str s => n ≤ s.length
  | _ => true

def constNumber (q : ℚ) : Schema := fun v ↦ jsonNumber v = some q

def constString (text : String) : Schema := fun v ↦ v = .str (PyStr.ofString text)

/-- At least one of them; the values of an `enum`. -/
def anyOf (ss : List Schema) : Schema := fun v ↦ ss.any fun s ↦ s v

def oneOf (ss : List Schema) : Schema := fun v ↦ ss.countP (fun s ↦ s v) = 1

def properties (ps : List (String × Schema)) : Schema
  | .dict entries => ps.all fun p ↦ (entries.lookup (PyStr.ofString p.1)).all p.2
  | _ => true

def required (names : List String) : Schema
  | .dict entries => names.all fun name ↦ (entries.lookup (PyStr.ofString name)).isSome
  | _ => true

/-- `"additionalProperties": false` beside `properties` of these names. -/
def noAdditional (names : List String) : Schema
  | .dict entries => entries.all fun e ↦ names.any fun name ↦ PyStr.ofString name = e.1
  | _ => true

/-- An object that has all of its properties and no others. -/
def object (ps : List (String × Schema)) : Schema :=
  keywords [typeObject, properties ps, required (ps.map Prod.fst), noAdditional (ps.map Prod.fst)]

theorem keywords_iff {ks : List Schema} {v : PyValue} :
    keywords ks v = true ↔ ∀ k ∈ ks, k v = true := by
  simp [keywords]

theorem lookup_eq_some_iff {entries : List (PyStr × PyValue)} {name : String} {x : PyValue} :
    entries.lookup (PyStr.ofString name) = some x ↔
      (PyValue.dict entries).getItem name = .ok x := by
  unfold PyValue.getItem
  dsimp only
  split
  · rename_i value hvalue
    simp [hvalue]
  · rename_i hnone
    simp [hnone]

/-- Every property is there and conforms, and no key is unknown. -/
theorem object_iff {ps : List (String × Schema)} {v : PyValue} :
    object ps v = true ↔
      (∀ p ∈ ps, ∃ x, v.getItem p.1 = .ok x ∧ p.2 x = true) ∧
        ∃ entries, v = .dict entries ∧
          noAdditional (ps.map Prod.fst) (.dict entries) = true := by
  have hall : object ps v = true ↔ typeObject v = true ∧ properties ps v = true ∧
      required (ps.map Prod.fst) v = true ∧ noAdditional (ps.map Prod.fst) v = true := by
    simp [object, keywords]
  rw [hall]
  constructor
  · rintro ⟨hobject, hproperties, hrequired, hclosed⟩
    cases v with
    | dict entries =>
        refine ⟨fun p hp ↦ ?_, entries, rfl, hclosed⟩
        simp only [properties, required, List.all_eq_true, List.mem_map,
          forall_exists_index, and_imp, forall_apply_eq_imp_iff₂] at hproperties hrequired
        obtain ⟨x, hx⟩ := Option.isSome_iff_exists.mp (hrequired p hp)
        have hconforms := hproperties p hp
        rw [hx, Option.all_some] at hconforms
        exact ⟨x, lookup_eq_some_iff.mp hx, hconforms⟩
    | _ => cases hobject
  · rintro ⟨hproperties, entries, rfl, hclosed⟩
    refine ⟨rfl, ?_, ?_, hclosed⟩
    · simp only [properties, List.all_eq_true]
      intro p hp
      obtain ⟨x, hx, hconforms⟩ := hproperties p hp
      rw [lookup_eq_some_iff.mpr hx, Option.all_some]
      exact hconforms
    · simp only [required, List.all_eq_true, List.mem_map, forall_exists_index, and_imp,
        forall_apply_eq_imp_iff₂]
      intro p hp
      obtain ⟨x, hx, -⟩ := hproperties p hp
      rw [lookup_eq_some_iff.mpr hx]
      rfl

theorem typeNumber_iff {v : PyValue} : typeNumber v = true ↔ ∃ q, jsonNumber v = some q :=
  Option.isSome_iff_exists

theorem typeInteger_iff {v : PyValue} :
    typeInteger v = true ↔ ∃ q, jsonNumber v = some q ∧ q.den = 1 := by
  cases h : jsonNumber v <;> simp [typeInteger, h]

end Schema

/-! ## Numbers and their conversions -/

section

variable [PythonPlatform]

/-- `int` keeps the integers of JSON. -/
theorem jsonNumber_of_pyInt {v : PyValue} {n : ℤ} (hn : pyInt v = .ok n)
    (h : Schema.typeInteger v = true) : jsonNumber v = some (n : ℚ) := by
  obtain ⟨q, hq, hden⟩ := Schema.typeInteger_iff.mp h
  cases v with
  | int k =>
      obtain rfl := Except.ok.inj hn
      rfl
  | float x =>
      have hval : x.val = some q := hq
      exact val_of_isInteger hn (by simp [PyFloat.isInteger, hval, hden])
  | _ => cases hq

/-- `int` reads a whole number. -/
theorem pyInt_of_jsonNumber {v : PyValue} {n : ℤ} (h : jsonNumber v = some (n : ℚ)) :
    pyInt v = .ok n := by
  cases v with
  | int k => exact congrArg Except.ok (by exact_mod_cast Option.some.inj h)
  | float x =>
      cases x with
      | finite negative d =>
          have hinteger : (PyFloat.finite negative d).isInteger = true := by
            have hval : (PyFloat.finite negative d).val = some (n : ℚ) := h
            simp [PyFloat.isInteger, hval]
          have hval := val_of_isInteger (n := signed negative d.floor) rfl hinteger
          have heq : ((signed negative d.floor : ℤ) : ℚ) = n :=
            Option.some.inj (hval.symm.trans h)
          exact congrArg Except.ok (by exact_mod_cast heq)
      | _ => cases h
  | _ => cases h

/-- `float` keeps the numbers up to 1. -/
theorem pyFloat_of_jsonNumber {v : PyValue} {q : ℚ} (h : jsonNumber v = some q) (hlow : -1 ≤ q)
    (hhigh : q ≤ 1) : ∃ x, pyFloat v = .ok x ∧ x.val = some q := by
  cases v with
  | int n =>
      obtain rfl : (n : ℚ) = q := Option.some.inj h
      have hlow' : -1 ≤ n := by exact_mod_cast hlow
      have hhigh' : n ≤ 1 := by exact_mod_cast hhigh
      have hsmall : n = -1 ∨ n = 0 ∨ n = 1 := by omega
      obtain ⟨x, hx⟩ := pyFloat_of_pyInt (v := .int n) rfl hsmall
      exact ⟨x, hx, val_of_pyInt rfl hsmall hx (by simp)⟩
  | float x => exact ⟨x, rfl, h⟩
  | _ => cases h

/-- What `float` reads from a number as at most 1 in magnitude is that number. -/
theorem jsonNumber_of_pyFloat {v : PyValue} {x : PyFloat} {q : ℚ} (hx : pyFloat v = .ok x)
    (hq : x.val = some q) (hlow : -1 ≤ q) (hhigh : q ≤ 1) (h : Schema.typeNumber v = true) :
    jsonNumber v = some q := by
  obtain ⟨r, hr⟩ := Schema.typeNumber_iff.mp h
  cases v with
  | int n =>
      have hsmall : n = -1 ∨ n = 0 ∨ n = 1 := by
        by_contra hlarge
        have habs : 2 ≤ n.natAbs := by omega
        have hfloat : floatOfInt n = .ok x := hx
        unfold floatOfInt at hfloat
        split at hfloat
        · rename_i d hround
          have hd := Magnitude.two_le_val_of_round hround habs
          obtain rfl := Except.ok.inj hfloat
          have hval : (if n < 0 then -d.val else d.val) = q := by
            simpa [PyFloat.val] using hq
          split_ifs at hval <;> linarith
        · cases hfloat
      have hval := val_of_pyInt rfl hsmall hx (by simp)
      exact congrArg some (Option.some.inj (hval.symm.trans hq))
  | float y =>
      obtain rfl : y = x := Except.ok.inj hx
      exact hq
  | _ => cases hr

end

end RemoteInfra.Python
