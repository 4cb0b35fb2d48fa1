import Mathlib.Data.List.DropRight

/-!
# Base64 decoding

The standard alphabet with padding, decoded four characters at a time.  Trailing bits of
the last quantum are ignored, as the common decoders do unless told otherwise.
-/

namespace RemoteInfra.Library.Base64

/-- The six bits a character of the standard alphabet stands for. -/
def sextet (c : Char) : Option ℕ :=
  if 'A' ≤ c ∧ c ≤ 'Z' then some (c.toNat - 'A'.toNat)
  else if 'a' ≤ c ∧ c ≤ 'z' then some (c.toNat - 'a'.toNat + 26)
  else if '0' ≤ c ∧ c ≤ '9' then some (c.toNat - '0'.toNat + 52)
  else if c = '+' then some 62
  else if c = '/' then some 63
  else none

def firstByte (a b : ℕ) : UInt8 := UInt8.ofNat (a * 4 + b / 16)
def secondByte (b c : ℕ) : UInt8 := UInt8.ofNat (b % 16 * 16 + c / 4)
def thirdByte (c d : ℕ) : UInt8 := UInt8.ofNat (c % 4 * 64 + d)

/-- Whole quanta; padding may end the last one only. -/
def decode : List Char → Option (List UInt8)
  | [] => some []
  | a :: b :: c :: d :: rest => do
    let x ← sextet a
    let y ← sextet b
    if c = '=' then
      if d = '=' ∧ rest = [] then some [firstByte x y] else none
    else
      let z ← sextet c
      if d = '=' then
        if rest = [] then some [firstByte x y, secondByte y z] else none
      else
        let w ← sextet d
        let tail ← decode rest
        some (firstByte x y :: secondByte y z :: thirdByte z w :: tail)
  | _ => none

/-- As `decode`, but whole quanta may be followed by padding that they do not need. -/
def decodeStrictly (cs : List Char) : Option (List UInt8) :=
  (decode cs).or
    (if cs.rdropWhile (· = '=') = [] then none else decode (cs.rdropWhile (· = '=')))

/-- Characters outside the alphabet are skipped, and so is padding before a quantum could end
there; a padded quantum ends the text.  `held` characters of the current quantum have been
read, the last of them being `left`, and `pads` padding characters behind them. -/
def decodeLoosely (held left pads : ℕ) : List Char → Option (List UInt8)
  | [] => if held = 0 then some [] else none
  | c :: rest =>
      if c = '=' then
        if 2 ≤ held then
          if 4 ≤ held + (pads + 1) then some [] else decodeLoosely held left (pads + 1) rest
        else decodeLoosely held left pads rest
      else
        match sextet c with
        | none => decodeLoosely held left pads rest
        | some x =>
            match held with
            | 0 => decodeLoosely 1 x 0 rest
            | 1 => (decodeLoosely 2 x 0 rest).map (firstByte left x :: ·)
            | 2 => (decodeLoosely 3 x 0 rest).map (secondByte left x :: ·)
            | _ => (decodeLoosely 0 x 0 rest).map (thirdByte left x :: ·)

theorem decodeStrictly_of_decode {cs : List Char} {bytes : List UInt8}
    (h : decode cs = some bytes) : decodeStrictly cs = some bytes := by
  rw [decodeStrictly, h, Option.some_or]

/-- Without padding at the end there are three bytes to every quantum. -/
theorem three_dvd_of_decode {cs : List Char} {bytes : List UInt8} (h : decode cs = some bytes)
    (hend : cs.getLast? ≠ some '=') : 3 ∣ bytes.length := by
  induction cs using decode.induct generalizing bytes with
  | case1 =>
      obtain rfl := Option.some.inj h
      exact ⟨0, rfl⟩
  | case2 a b c d rest ih =>
      simp only [decode, Option.bind_eq_bind, Option.bind_eq_some_iff] at h
      obtain ⟨x, hx, y, hy, h⟩ := h
      split_ifs at h with hc hd hd hrest
      · simp [hd.1, hd.2] at hend
      · obtain ⟨z, hz, -⟩ := Option.bind_eq_some_iff.mp h
        simp [hd, hrest] at hend
      · obtain ⟨z, hz, h⟩ := Option.bind_eq_some_iff.mp h
        cases h
      · obtain ⟨z, hz, h⟩ := Option.bind_eq_some_iff.mp h
        obtain ⟨w, hw, h⟩ := Option.bind_eq_some_iff.mp h
        obtain ⟨tail, htail, hbytes⟩ := Option.bind_eq_some_iff.mp h
        obtain rfl := Option.some.inj hbytes
        have hrest : rest.getLast? ≠ some '=' := by
          intro hlast
          obtain ⟨front, rfl⟩ := List.getLast?_eq_some_iff.mp hlast
          exact hend (List.getLast?_eq_some_iff.mpr ⟨a :: b :: c :: d :: front, rfl⟩)
        have htail := ih htail hrest
        simp only [List.length_cons]
        omega
  | case3 cs hempty hquad =>
      rw [decode] at h
      · cases h
      all_goals assumption

/-- Padding that is not needed never goes with a number of bytes that needs some. -/
theorem decode_of_decodeStrictly {cs : List Char} {bytes : List UInt8}
    (h : decodeStrictly cs = some bytes) (hlength : ¬3 ∣ bytes.length) :
    decode cs = some bytes := by
  unfold decodeStrictly at h
  cases hdecode : decode cs with
  | some decoded => rwa [hdecode, Option.some_or] at h
  | none =>
      rw [hdecode, Option.none_or] at h
      split_ifs at h with hempty
      refine absurd (three_dvd_of_decode h fun hlast ↦ ?_) hlength
      have hkept := List.rdropWhile_last_not (fun c : Char ↦ decide (c = '=')) cs hempty
      rw [List.getLast?_eq_getLast_of_ne_nil hempty] at hlast
      exact hkept (decide_eq_true (Option.some.inj hlast))

/-- A text that decodes has no character outside the alphabet but its padding. -/
theorem not_mem_of_decode {cs : List Char} {bytes : List UInt8} (h : decode cs = some bytes)
    {e : Char} (he : sextet e = none) (hpad : e ≠ '=') : e ∉ cs := by
  have hne : ∀ {a x}, sextet a = some x → e ≠ a := by
    rintro a x ha rfl
    cases he.symm.trans ha
  induction cs using decode.induct generalizing bytes with
  | case1 => simp
  | case2 a b c d rest ih =>
      simp only [decode, Option.bind_eq_bind, Option.bind_eq_some_iff] at h
      obtain ⟨x, hx, y, hy, h⟩ := h
      split_ifs at h with hc hd hd hrest
      · simp [hne hx, hne hy, hc, hd.1, hd.2, hpad]
      · obtain ⟨z, hz, -⟩ := Option.bind_eq_some_iff.mp h
        simp [hne hx, hne hy, hne hz, hd, hrest, hpad]
      · obtain ⟨z, hz, h⟩ := Option.bind_eq_some_iff.mp h
        cases h
      · obtain ⟨z, hz, h⟩ := Option.bind_eq_some_iff.mp h
        obtain ⟨w, hw, h⟩ := Option.bind_eq_some_iff.mp h
        obtain ⟨tail, htail, -⟩ := Option.bind_eq_some_iff.mp h
        simp [hne hx, hne hy, hne hz, hne hw, ih htail]
  | case3 cs hempty hquad =>
      rw [decode] at h
      · cases h
      all_goals assumption

end RemoteInfra.Library.Base64
