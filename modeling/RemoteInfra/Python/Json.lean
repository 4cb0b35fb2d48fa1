import RemoteInfra.Python.Numbers

/-!
# `json.loads`

The decoder of the standard library on a text.  It is stricter than it looks (no trailing
commas, no control characters in strings) and laxer (`NaN`, the infinities and lone surrogates
pass; of two equal keys the later value wins).
-/

namespace RemoteInfra.Python

open RemoteInfra.Library RemoteInfra.Library.Decimal

/-- Scanners return what they read and what is left. -/
abbrev Scanner := PyStr → Except PyExc (PyValue × PyStr)

def isJsonSpace (c : PyChar) : Bool :=
  c = .scalar ' ' || c = .scalar '\t' || c = .scalar '\n' || c = .scalar '\r'

def skipSpace (s : PyStr) : PyStr := s.dropWhile isJsonSpace

/-! ## Strings -/

/-- A character that stands for itself or has a one-letter escape, or a `\u` escape. -/
inductive StringUnit
  | plain (c : PyChar)
  | escaped (code : ℕ)

def hexValue : PyChar → Option ℕ
  | .scalar c =>
      if '0' ≤ c ∧ c ≤ '9' then some (c.toNat - '0'.toNat)
      else if 'a' ≤ c ∧ c ≤ 'f' then some (c.toNat - 'a'.toNat + 10)
      else if 'A' ≤ c ∧ c ≤ 'F' then some (c.toNat - 'A'.toNat + 10)
      else none
  | .surrogate _ => none

def hexCode (a b c d : PyChar) : Option ℕ := do
  return (((← hexValue a) * 16 + (← hexValue b)) * 16 + (← hexValue c)) * 16 + (← hexValue d)

def simpleEscape (c : PyChar) : Option PyChar :=
  if c = .scalar '"' then some (.scalar '"')
  else if c = .scalar '\\' then some (.scalar '\\')
  else if c = .scalar '/' then some (.scalar '/')
  else if c = .scalar 'b' then some (.scalar (Char.ofNat 8))
  else if c = .scalar 'f' then some (.scalar (Char.ofNat 12))
  else if c = .scalar 'n' then some (.scalar '\n')
  else if c = .scalar 'r' then some (.scalar '\r')
  else if c = .scalar 't' then some (.scalar '\t')
  else none

/-- The units of a string up to its closing quote, and what follows it. -/
def scanUnits : PyStr → Option (List StringUnit × PyStr)
  | [] => none
  | c :: cs =>
      if c = .scalar '"' then some ([], cs)
      else if c = .scalar '\\' then
        match cs with
        | [] => none
        | e :: es =>
            if e = .scalar 'u' then
              match es with
              | a :: b :: d :: f :: rest => do
                  let code ← hexCode a b d f
                  let (units, after) ← scanUnits rest
                  return (.escaped code :: units, after)
              | _ => none
            else do
              let c ← simpleEscape e
              let (units, after) ← scanUnits es
              return (.plain c :: units, after)
      else if c.code < 32 then none
      else do
        let (units, after) ← scanUnits cs
        return (.plain c :: units, after)

def isHigh (code : ℕ) : Bool := 0xD800 ≤ code && code < 0xDC00
def isLow (code : ℕ) : Bool := 0xDC00 ≤ code && code < 0xE000

/-- The character of a 16-bit code. -/
def ofCode (code : ℕ) : PyChar :=
  if h : 0xD800 ≤ code ∧ code < 0xE000 then .surrogate ⟨code - 0xD800, by omega⟩
  else .scalar (Char.ofNat code)

/-- Two adjacent escapes may spell one character beyond U+FFFF. -/
def joinUnits : List StringUnit → PyStr
  | [] => []
  | .plain c :: units => c :: joinUnits units
  | .escaped high :: .escaped low :: units =>
      if isHigh high && isLow low then
        .scalar (Char.ofNat (0x10000 + (high - 0xD800) * 0x400 + (low - 0xDC00))) ::
          joinUnits units
      else ofCode high :: joinUnits (.escaped low :: units)
  | .escaped code :: units => ofCode code :: joinUnits units

/-- A string after its opening quote. -/
def scanString (s : PyStr) : Except PyExc (PyStr × PyStr) :=
  match scanUnits s with
  | some (units, rest) => .ok (joinUnits units, rest)
  | none => .error .jsonDecodeError

/-! ## Numbers and names -/

/-- A surrogate stands in no number. -/
def plainChar : PyChar → Char
  | .scalar c => c
  | .surrogate _ => '?'

/-- A leading zero is the whole part by itself. -/
def scanWhole (cs : List Char) : List ℕ × List Char :=
  match scanDigits cs with
  | (0 :: _ :: _, _) => ([0], cs.tail)
  | result => result

/-- A point without digits belongs to no number. -/
def scanJsonFraction (cs : List Char) : Option (List ℕ) × List Char :=
  match scanFraction cs with
  | (some [], _) => (none, cs)
  | result => result

def scanMinus : List Char → Bool × List Char
  | '-' :: cs => (true, cs)
  | cs => (false, cs)

/-- A number without a fraction and an exponent is an `int`. -/
def numberValue (negative : Bool) (n : Numeral) : Except PyExc PyValue :=
  match n.fraction, n.exponent with
  | none, none =>
      if n.whole.length ≤ maxStrDigits then .ok (.int (signed negative (value n.whole)))
      else .error .valueError
  | _, _ => .ok (.float (floatOfDecimal negative n.coefficient n.scale))

def scanNumber (s : PyStr) : Except PyExc (PyValue × PyStr) :=
  let minus := scanMinus (s.map plainChar)
  let whole := scanWhole minus.2
  let fraction := scanJsonFraction whole.2
  let exponent := scanExponent fraction.2
  if whole.1 = [] then .error .jsonDecodeError
  else do
    let number ← numberValue minus.1 ⟨whole.1, fraction.1, exponent.1⟩
    return (number, s.drop (s.length - exponent.2.length))

def NAMES : List (String × PyValue) :=
  [("null", .none), ("true", .bool true), ("false", .bool false), ("NaN", .float .nan),
    ("Infinity", .float (.infinity false)), ("-Infinity", .float (.infinity true))]

def scanName (s : PyStr) : List (String × PyValue) → Option (PyValue × PyStr)
  | [] => none
  | (name, v) :: names =>
      match s.dropPrefix? (PyStr.ofString name) with
      | some rest => some (v, rest)
      | none => scanName s names

/-! ## Values -/

/-- The items of a list after its opening bracket and the blanks behind it. -/
def scanItems (scan : Scanner) : ℕ → PyStr → Except PyExc (List PyValue × PyStr)
  | 0, _ => .error .jsonDecodeError
  | fuel + 1, s => do
      let (item, rest) ← scan s
      match skipSpace rest with
      | [] => .error .jsonDecodeError
      | c :: rest =>
          if c = .scalar ']' then return ([item], rest)
          else if c = .scalar ',' then
            let (items, rest) ← scanItems scan fuel (skipSpace rest)
            return (item :: items, rest)
          else .error .jsonDecodeError

def scanList (scan : Scanner) (s : PyStr) : Except PyExc (PyValue × PyStr) :=
  match skipSpace s with
  | .scalar ']' :: rest => .ok (.list [], rest)
  | rest => do
      let (items, rest) ← scanItems scan rest.length rest
      return (.list items, rest)

/-- One key and its value, with the blanks before, between and after them. -/
def scanMember (scan : Scanner) (s : PyStr) : Except PyExc ((PyStr × PyValue) × PyStr) :=
  match s with
  | .scalar '"' :: s => do
      let (key, rest) ← scanString s
      match skipSpace rest with
      | .scalar ':' :: rest => do
          let (v, rest) ← scan (skipSpace rest)
          return ((key, v), skipSpace rest)
      | _ => .error .jsonDecodeError
  | _ => .error .jsonDecodeError

/-- The members of a dict after its opening brace and the blanks behind it. -/
def scanMembers (scan : Scanner) (entries : List (PyStr × PyValue)) :
    ℕ → PyStr → Except PyExc (List (PyStr × PyValue) × PyStr)
  | 0, _ => .error .jsonDecodeError
  | fuel + 1, s => do
      let (member, rest) ← scanMember scan s
      let entries := PyValue.setEntry member.1 member.2 entries
      match rest with
      | [] => .error .jsonDecodeError
      | c :: rest =>
          if c = .scalar '\x7d' then return (entries, rest)
          else if c = .scalar ',' then scanMembers scan entries fuel (skipSpace rest)
          else .error .jsonDecodeError

def scanDict (scan : Scanner) (s : PyStr) : Except PyExc (PyValue × PyStr) :=
  match skipSpace s with
  | .scalar '\x7d' :: rest => .ok (.dict [], rest)
  | rest => do
      let (entries, rest) ← scanMembers scan [] rest.length rest
      return (.dict entries, rest)

/-- `scan_once`, with what to do behind a bracket and behind a brace. -/
def scanOnce (list dict : Scanner) : Scanner
  | [] => .error .jsonDecodeError
  | c :: cs =>
      if c = .scalar '"' then do
        let (text, rest) ← scanString cs
        return (.str text, rest)
      else if c = .scalar '\x7b' then dict cs
      else if c = .scalar '[' then list cs
      else
        match scanName (c :: cs) NAMES with
        | some result => .ok result
        | none => scanNumber (c :: cs)

/-- A value that nests at most `depth` lists and dicts. -/
def scanValue : ℕ → Scanner
  | 0 => scanOnce (fun _ ↦ .error .recursionError) (fun _ ↦ .error .recursionError)
  | depth + 1 => scanOnce (scanList (scanValue depth)) (scanDict (scanValue depth))

/-- U+FEFF, which `loads` refuses at the start of a text. -/
def byteOrderMark : PyChar := .scalar (Char.ofNat 0xFEFF)

/-- `json.loads(s)`. -/
def loads [PythonPlatform] (s : PyStr) : Except PyExc PyValue :=
  if s.head? = some byteOrderMark then .error .jsonDecodeError
  else do
    let (v, rest) ← scanValue PythonPlatform.nestingLimit (skipSpace s)
    if skipSpace rest = [] then return v else .error .jsonDecodeError

end RemoteInfra.Python
