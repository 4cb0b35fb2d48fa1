import RemoteInfra.Library.Decimal
import RemoteInfra.Library.Joined
import RemoteInfra.Python.Value

/-!
# `int`, `float` and `str`

The conversions between numbers and texts.  What Unicode says beyond ASCII is a parameter;
the ASCII part is written out.
-/

namespace RemoteInfra.Python

open RemoteInfra.Library RemoteInfra.Library.Decimal

/-- What the interpreter knows beyond the code: its Unicode tables, which are asked only
about characters beyond ASCII, and how deep its JSON decoder may nest. -/
class PythonPlatform where
  decimalDigit : Char → Option (Fin 10)
  isSpace : Char → Bool
  isPrintable : Char → Bool
  nestingLimit : ℕ

/-- A platform on which only ASCII counts. -/
@[reducible] def PythonPlatform.ascii : PythonPlatform where
  decimalDigit _ := none
  isSpace _ := false
  isPrintable _ := false
  nestingLimit := 900

/-! ## Texts of numbers -/

def signText (negative : Bool) : List Char := if negative then ['-'] else []

def intText (n : ℤ) : List Char := signText (n < 0) ++ natText n.natAbs

/-- The shortest significant digits. -/
def floatDigits (d : Double) : List ℕ := natDigits d.shortest.1

/-- Where the decimal point stands, counted from the first significant digit. -/
def floatPoint (d : Double) : ℤ := d.shortest.2 + (floatDigits d).length

/-- `repr` switches to an exponent of at least two digits below `1e-4` and from `1e16`. -/
def reprNumeral (d : Double) : Numeral :=
  if -4 < floatPoint d ∧ floatPoint d ≤ 16 then
    fixedLayout (floatDigits d) (floatPoint d) (some [0])
  else exponentLayout (floatDigits d) (floatPoint d) 2

def floatText : PyFloat → List Char
  | .nan => "nan".toList
  | .infinity negative => signText negative ++ "inf".toList
  | .finite negative d => signText negative ++ (reprNumeral d).text

/-! ## Numbers in texts -/

/-- The whitespace of C, all that counts once other whitespace has become a blank. -/
def isBlank (c : Char) : Bool := c = ' ' || (9 ≤ c.toNat && c.toNat ≤ 13)

/-- `_PyUnicode_TransformDecimalAndSpaceToASCII`. -/
def asciiNumeric [PythonPlatform] : PyChar → Char
  | .scalar c =>
      if c.toNat < 127 then c
      else if PythonPlatform.isSpace c then ' '
      else
        match PythonPlatform.decimalDigit c with
        | some d => digitChar d
        | none => '?'
  | .surrogate _ => '?'

def strip (cs : List Char) : List Char :=
  ((cs.dropWhile isBlank).reverse.dropWhile isBlank).reverse

def isDigit (c : Char) : Bool := (digitValue c).isSome

/-- Underscores may stand between two digits only. -/
def dropUnderscores (afterDigit : Bool) : List Char → Option (List Char)
  | [] => some []
  | c :: cs =>
      if c = '_' then
        if afterDigit && (cs.head?.map isDigit).getD false then dropUnderscores false cs else none
      else (dropUnderscores (isDigit c) cs).map (c :: ·)

/-- The longest run of digits `int` reads from a text. -/
def maxStrDigits : ℕ := 4300

def signed (negative : Bool) (n : ℕ) : ℤ := if negative then -n else n

def intOfText (cs : List Char) : Except PyExc ℤ :=
  match dropUnderscores false (scanSign (strip cs)).2 with
  | none => .error .valueError
  | some digits =>
      match scanDigits digits with
      | (d :: ds, []) =>
          if (d :: ds).length ≤ maxStrDigits then
            .ok (signed (scanSign (strip cs)).1 (value (d :: ds)))
          else .error .valueError
      | _ => .error .valueError

/-- A decimal past the largest finite float reads as an infinity. -/
def floatOfDecimal (negative : Bool) (c : ℕ) (k : ℤ) : PyFloat :=
  match Magnitude.round double c k with
  | some d => .finite negative d
  | none => .infinity negative

def floatOfText (cs : List Char) : Except PyExc PyFloat :=
  match dropUnderscores false (strip cs) with
  | none => .error .valueError
  | some text =>
      let negative := (scanSign text).1
      let body := (scanSign text).2
      let lower := body.map Char.toLower
      if lower = "nan".toList then .ok .nan
      else if lower = "inf".toList ∨ lower = "infinity".toList then .ok (.infinity negative)
      else
        match scanNumeral body with
        | (n, []) =>
            if n.whole = [] ∧ n.fraction.getD [] = [] then .error .valueError
            else .ok (floatOfDecimal negative n.coefficient n.scale)
        | _ => .error .valueError

/-! ## The built-in conversions -/

/-- `int(v)`. -/
def pyInt [PythonPlatform] : PyValue → Except PyExc ℤ
  | .bool b => .ok (if b then 1 else 0)
  | .int n => .ok n
  | .float .nan => .error .valueError
  | .float (.infinity _) => .error .overflowError
  | .float (.finite negative d) => .ok (signed negative d.floor)
  | .str s => intOfText (s.map asciiNumeric)
  | .none | .list _ | .dict _ => .error .typeError

def floatOfInt (n : ℤ) : Except PyExc PyFloat :=
  match Magnitude.round double n.natAbs 0 with
  | some d => .ok (.finite (n < 0) d)
  | none => .error .overflowError

/-- `float(v)`. -/
def pyFloat [PythonPlatform] : PyValue → Except PyExc PyFloat
  | .bool b => floatOfInt (if b then 1 else 0)
  | .int n => floatOfInt n
  | .float x => .ok x
  | .str s => floatOfText (s.map asciiNumeric)
  | .none | .list _ | .dict _ => .error .typeError

/-! ## `str` and `repr` -/

def hexDigit (d : ℕ) : Char := if d < 10 then digitChar d else Char.ofNat (d - 10 + 'a'.toNat)

/-- The lowest `width` hexadecimal digits. -/
def hexText : ℕ → ℕ → List Char
  | 0, _ => []
  | width + 1, n => hexText width (n / 16) ++ [hexDigit (n % 16)]

/-- One code point within a `repr`, as an escape of the least width that holds it. -/
def escapeCode (n : ℕ) : List Char :=
  if n ≤ 0xFF then '\\' :: 'x' :: hexText 2 n
  else if n ≤ 0xFFFF then '\\' :: 'u' :: hexText 4 n
  else '\\' :: 'U' :: hexText 8 n

def reprChar [PythonPlatform] (quote : Char) : PyChar → List Char
  | .scalar c =>
      if c = quote ∨ c = '\\' then ['\\', c]
      else if c = '\t' then ['\\', 't']
      else if c = '\n' then ['\\', 'n']
      else if c = '\r' then ['\\', 'r']
      else if c.toNat < 127 then if 32 ≤ c.toNat then [c] else escapeCode c.toNat
      else if c.toNat ≠ 127 ∧ PythonPlatform.isPrintable c then [c]
      else escapeCode c.toNat
  | .surrogate n => escapeCode (0xD800 + n)

def strRepr [PythonPlatform] (s : PyStr) : PyStr :=
  let quote :=
    if PyChar.scalar '\'' ∈ s ∧ PyChar.scalar '"' ∉ s then '"' else '\''
  PyStr.ofList (quote :: (s.flatMap (reprChar quote) ++ [quote]))

/-- `", ".join(texts)`. -/
def commaJoin (texts : List PyStr) : PyStr := joinWith (PyStr.ofString ", ") texts

mutual

/-- `repr(v)`. -/
def pyRepr [PythonPlatform] : PyValue → PyStr
  | .none => PyStr.ofString "None"
  | .bool b => PyStr.ofString (if b then "True" else "False")
  | .int n => PyStr.ofList (intText n)
  | .float x => PyStr.ofList (floatText x)
  | .str s => strRepr s
  | .list items => PyStr.ofString "[" ++ (commaJoin (reprItems items) ++ PyStr.ofString "]")
  | .dict entries => PyStr.ofString "\x7b" ++ (commaJoin (reprEntries entries) ++
      PyStr.ofString "\x7d")

def reprItems [PythonPlatform] : List PyValue → List PyStr
  | [] => []
  | item :: items => pyRepr item :: reprItems items

def reprEntries [PythonPlatform] : List (PyStr × PyValue) → List PyStr
  | [] => []
  | (k, v) :: entries =>
      (strRepr k ++ (PyStr.ofString ": " ++ pyRepr v)) :: reprEntries entries

end

/-- `str(v)`, which is `repr(v)` except on strings. -/
def pyText [PythonPlatform] : PyValue → PyStr
  | .str s => s
  | v => pyRepr v

end RemoteInfra.Python
