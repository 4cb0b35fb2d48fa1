import Mathlib.Data.Rat.Defs
import Mathlib.Data.List.Sort
import RemoteInfra.Library.BinaryFloat

/-!
# Python values that JSON can carry

The values `json.loads` returns, their equality, and the exceptions the code tells apart.
A Python string is a sequence of code points, which may be lone surrogates.
-/

namespace RemoteInfra.Python

open RemoteInfra.Library

inductive PyChar
  | scalar (c : Char)
  /-- U+D800 and the 2047 after it -/
  | surrogate (n : Fin 2048)
  deriving DecidableEq

def PyChar.code : PyChar → ℕ
  | .scalar c => c.toNat
  | .surrogate n => 0xD800 + n

abbrev PyStr := List PyChar

namespace PyStr

def ofList (cs : List Char) : PyStr := cs.map .scalar

def ofString (s : String) : PyStr := ofList s.toList

theorem ofList_injective : Function.Injective ofList :=
  List.map_injective_iff.mpr fun _ _ h ↦ PyChar.scalar.inj h

@[simp] theorem ofList_nil : ofList [] = [] := rfl

@[simp] theorem ofList_cons (c : Char) (cs : List Char) :
    ofList (c :: cs) = .scalar c :: ofList cs := rfl

@[simp] theorem ofList_append (cs ds : List Char) : ofList (cs ++ ds) = ofList cs ++ ofList ds :=
  List.map_append

/-- Order by code points. -/
def le : PyStr → PyStr → Bool
  | [], _ => true
  | _ :: _, [] => false
  | a :: as, b :: bs => a.code < b.code || (a.code = b.code && le as bs)

end PyStr

/-- The format of a Python `float`. -/
@[irreducible] def double : BinaryFormat := ⟨52, 1074, 2098⟩

abbrev Double := Magnitude double

inductive PyFloat
  | nan
  | infinity (negative : Bool)
  | finite (negative : Bool) (magnitude : Double)
  deriving DecidableEq

/-- The number a finite float denotes. -/
def PyFloat.val : PyFloat → Option ℚ
  | finite negative d => some (if negative then -d.val else d.val)
  | _ => none

/-- `x.is_integer()`. -/
def PyFloat.isInteger (x : PyFloat) : Bool :=
  match x.val with
  | some q => q.den = 1
  | none => false

inductive PyValue
  | none
  | bool (b : Bool)
  | int (n : ℤ)
  | float (x : PyFloat)
  | str (s : PyStr)
  | list (items : List PyValue)
  | dict (entries : List (PyStr × PyValue))

namespace PyValue

mutual

/-- Structural equality, finer than Python's `==`. -/
def same : PyValue → PyValue → Bool
  | .none, .none => true
  | .bool b, .bool c => b = c
  | .int m, .int n => m = n
  | .float x, .float y => x = y
  | .str s, .str t => s = t
  | .list xs, .list ys => sameItems xs ys
  | .dict es, .dict fs => sameEntries es fs
  | _, _ => false

def sameItems : List PyValue → List PyValue → Bool
  | [], [] => true
  | x :: xs, y :: ys => same x y && sameItems xs ys
  | _, _ => false

def sameEntries : List (PyStr × PyValue) → List (PyStr × PyValue) → Bool
  | [], [] => true
  | (k, v) :: es, (l, w) :: fs => k = l && same v w && sameEntries es fs
  | _, _ => false

end

mutual

theorem same_iff : ∀ a b : PyValue, same a b = true ↔ a = b
  | .none, b => by cases b <;> simp [same]
  | .bool _, b => by cases b <;> simp [same]
  | .int _, b => by cases b <;> simp [same]
  | .float _, b => by cases b <;> simp [same]
  | .str _, b => by cases b <;> simp [same]
  | .list xs, b => by
      cases b with
      | list ys => simp [same, sameItems_iff xs ys]
      | _ => simp [same]
  | .dict es, b => by
      cases b with
      | dict fs => simp [same, sameEntries_iff es fs]
      | _ => simp [same]

theorem sameItems_iff : ∀ xs ys : List PyValue, sameItems xs ys = true ↔ xs = ys
  | [], ys => by cases ys <;> simp [sameItems]
  | x :: xs, ys => by
      cases ys with
      | nil => simp [sameItems]
      | cons y ys => simp [sameItems, same_iff x y, sameItems_iff xs ys]

theorem sameEntries_iff : ∀ es fs : List (PyStr × PyValue), sameEntries es fs = true ↔ es = fs
  | [], fs => by cases fs <;> simp [sameEntries]
  | (k, v) :: es, fs => by
      cases fs with
      | nil => simp [sameEntries]
      | cons f fs =>
          obtain ⟨l, w⟩ := f
          simp [sameEntries, same_iff v w, sameEntries_iff es fs, and_assoc]

end

instance : DecidableEq PyValue := fun a b ↦ decidable_of_iff _ (same_iff a b)

end PyValue

/-- The exceptions the code tells apart; any other subclass counts as its base class. -/
inductive PyExc
  | attributeError
  | keyError
  | typeError
  | valueError
  /-- a `ValueError` of its own class -/
  | jsonDecodeError
  | overflowError
  | badSignatureError
  | recursionError
  | runtimeError
  | clientError
  | timeoutError
  deriving DecidableEq

@[simp] theorem ok_bind {ε α β : Type} (a : α) (f : α → Except ε β) :
    (Except.ok a : Except ε α) >>= f = f a := rfl

theorem bind_eq_ok {ε α β : Type} {x : Except ε α} {f : α → Except ε β} {b : β} :
    x >>= f = .ok b ↔ ∃ a, x = .ok a ∧ f a = .ok b := by
  cases x with
  | error e =>
      constructor
      · intro h
        cases h
      · rintro ⟨a, ha, -⟩
        cases ha
  | ok a =>
      constructor
      · intro h
        exact ⟨a, rfl, h⟩
      · rintro ⟨a', ha, h⟩
        cases ha
        exact h

/-! ## Equality

`==` compares numbers by value across `bool`, `int` and `float`, lists in order and dicts
regardless of order.  Two values are equal when they flatten to the same tokens. -/

inductive Token
  | none
  | number (q : ℚ)
  | infinity (negative : Bool)
  | nan
  | text (s : PyStr)
  | openList
  | openDict
  | key (s : PyStr)
  | close
  deriving DecidableEq

def PyFloat.token : PyFloat → Token
  | nan => .nan
  | infinity negative => .infinity negative
  | finite negative d => .number (if negative then -d.val else d.val)

def sortEntries (es : List (PyStr × List Token)) : List (PyStr × List Token) :=
  es.insertionSort fun e f ↦ e.1.le f.1 = true

namespace PyValue

mutual

def tokens : PyValue → List Token
  | .none => [.none]
  | .bool b => [.number (if b then 1 else 0)]
  | .int n => [.number n]
  | .float x => [x.token]
  | .str s => [.text s]
  | .list items => .openList :: (itemTokens items ++ [.close])
  | .dict entries =>
      .openDict :: ((sortEntries (entryTokens entries)).flatMap fun e ↦ .key e.1 :: e.2) ++
        [.close]

def itemTokens : List PyValue → List Token
  | [] => []
  | item :: items => tokens item ++ itemTokens items

def entryTokens : List (PyStr × PyValue) → List (PyStr × List Token)
  | [] => []
  | (k, v) :: entries => (k, tokens v) :: entryTokens entries

end

/-- `a == b`.  A NaN differs from every value, but within a list or a dict the one NaN that
the JSON decoder hands out is identical to itself. -/
def eq (a b : PyValue) : Bool := a.tokens ≠ [.nan] && a.tokens = b.tokens

theorem eq_iff {a b : PyValue} :
    a.eq b = true ↔ a.tokens ≠ [.nan] ∧ a.tokens = b.tokens := by
  simp [eq]

theorem eq_symm {a b : PyValue} (h : a.eq b = true) : b.eq a = true := by
  obtain ⟨hnan, htokens⟩ := eq_iff.mp h
  exact eq_iff.mpr ⟨htokens ▸ hnan, htokens.symm⟩

theorem eq_trans {a b c : PyValue} (hab : a.eq b = true) (hbc : b.eq c = true) :
    a.eq c = true := by
  obtain ⟨hnan, htokens⟩ := eq_iff.mp hab
  exact eq_iff.mpr ⟨hnan, htokens.trans (eq_iff.mp hbc).2⟩

/-- A value that equals a string is that string. -/
theorem eq_str_iff {a : PyValue} {s : PyStr} : a.eq (.str s) = true ↔ a = .str s := by
  rw [eq_iff]
  constructor
  · rintro ⟨-, h⟩
    cases a with
    | float x => cases x <;> simp [tokens, PyFloat.token] at h
    | str t => simpa [tokens] using h
    | _ => simp [tokens] at h
  · rintro rfl
    simp [tokens]

/-! ## Subscripts -/

/-- `v[key]` for a string key. -/
def getItem (v : PyValue) (key : String) : Except PyExc PyValue :=
  match v with
  | .dict entries =>
      match entries.lookup (PyStr.ofString key) with
      | some value => .ok value
      | .none => .error .keyError
  | _ => .error .typeError

/-- `v.get(key, default)` for a string key. -/
def get (v : PyValue) (key : String) (default : PyValue) : Except PyExc PyValue :=
  match v with
  | .dict entries => .ok ((entries.lookup (PyStr.ofString key)).getD default)
  | _ => .error .attributeError

theorem get_of_getItem {a v default : PyValue} {key : String}
    (h : a.getItem key = .ok v) : a.get key default = .ok v := by
  cases a with
  | dict entries =>
      simp only [getItem] at h
      split at h
      · rename_i value hvalue
        obtain rfl := Except.ok.inj h
        simp [get, hvalue]
      · cases h
  | _ => cases h

/-- `d[key] = value` on the entries of a dict: a known key keeps its place. -/
def setEntry (key : PyStr) (value : PyValue) : List (PyStr × PyValue) → List (PyStr × PyValue)
  | [] => [(key, value)]
  | (k, v) :: entries =>
      if k = key then (k, value) :: entries else (k, v) :: setEntry key value entries

theorem setEntry_new {key : PyStr} {value : PyValue} {entries : List (PyStr × PyValue)}
    (h : key ∉ entries.map Prod.fst) : setEntry key value entries = entries ++ [(key, value)] := by
  induction entries with
  | nil => rfl
  | cons e entries ih =>
      obtain ⟨k, v⟩ := e
      simp only [List.map_cons, List.mem_cons, not_or] at h
      simp only [setEntry, Ne.symm h.1, if_false, ih h.2, List.cons_append]

end PyValue

end RemoteInfra.Python
