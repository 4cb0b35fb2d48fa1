import Mathlib.Data.List.DropRight
import RemoteInfra.Library.Base64

/-!
# Base64 encoding

Three bytes make four characters, and padding fills the last four.  Decoding takes the bytes
back, and so does the text without its padding, in either alphabet.
-/

namespace RemoteInfra.Library.Base64

/-- The character of the standard alphabet for six bits. -/
def letter (n : ℕ) : Char :=
  if n < 26 then Char.ofNat ('A'.toNat + n)
  else if n < 52 then Char.ofNat ('a'.toNat + (n - 26))
  else if n < 62 then Char.ofNat ('0'.toNat + (n - 52))
  else if n = 62 then '+'
  else '/'

theorem sextet_letter : ∀ n < 64, sextet (letter n) = some n := by decide

def encode : List UInt8 → List Char
  | [] => []
  | [a] => [letter (a.toNat / 4), letter (a.toNat % 4 * 16), '=', '=']
  | [a, b] =>
      [letter (a.toNat / 4), letter (a.toNat % 4 * 16 + b.toNat / 16),
        letter (b.toNat % 16 * 4), '=']
  | a :: b :: c :: rest =>
      letter (a.toNat / 4) :: letter (a.toNat % 4 * 16 + b.toNat / 16) ::
        letter (b.toNat % 16 * 4 + c.toNat / 64) :: letter (c.toNat % 64) :: encode rest

/-- What an encoding consists of. -/
structure Encodes (bytes : List UInt8) (body : List Char) : Prop where
  encode_eq : encode bytes = body ++ List.replicate ((3 - bytes.length % 3) % 3) '='
  length_eq : body.length + (3 - bytes.length % 3) % 3 = (bytes.length + 2) / 3 * 4
  mem : ∀ c ∈ body, ∃ n < 64, c = letter n

theorem encodes (bytes : List UInt8) : ∃ body, Encodes bytes body := by
  induction bytes using encode.induct with
  | case1 => exact ⟨[], rfl, rfl, by simp⟩
  | case2 a =>
      have ha := a.toNat_lt
      refine ⟨[letter (a.toNat / 4), letter (a.toNat % 4 * 16)], rfl, by simp, fun c hc ↦ ?_⟩
      rcases List.mem_pair.mp hc with rfl | rfl
      · exact ⟨_, by omega, rfl⟩
      · exact ⟨_, by omega, rfl⟩
  | case3 a b =>
      have ha := a.toNat_lt
      have hb := b.toNat_lt
      refine ⟨[letter (a.toNat / 4), letter (a.toNat % 4 * 16 + b.toNat / 16),
        letter (b.toNat % 16 * 4)], rfl, by simp, fun c hc ↦ ?_⟩
      simp only [List.mem_cons, List.not_mem_nil, or_false] at hc
      rcases hc with rfl | rfl | rfl
      · exact ⟨_, by omega, rfl⟩
      · exact ⟨_, by omega, rfl⟩
      · exact ⟨_, by omega, rfl⟩
  | case4 a b c rest ih =>
      obtain ⟨body, hencode, hlength, hmem⟩ := ih
      have ha := a.toNat_lt
      have hb := b.toNat_lt
      have hc := c.toNat_lt
      have hpads : (a :: b :: c :: rest).length % 3 = rest.length % 3 := by
        simp only [List.length_cons]
        omega
      refine ⟨letter (a.toNat / 4) :: letter (a.toNat % 4 * 16 + b.toNat / 16) ::
        letter (b.toNat % 16 * 4 + c.toNat / 64) :: letter (c.toNat % 64) :: body, ?_, ?_, ?_⟩
      · rw [hpads, encode, hencode]
        rfl
      · rw [hpads]
        simp only [List.length_cons]
        omega
      · intro x hx
        simp only [List.mem_cons] at hx
        rcases hx with rfl | rfl | rfl | rfl | hx
        · exact ⟨_, by omega, rfl⟩
        · exact ⟨_, by omega, rfl⟩
        · exact ⟨_, by omega, rfl⟩
        · exact ⟨_, by omega, rfl⟩
        · exact hmem x hx

theorem letter_ne_pad : ∀ n < 64, letter n ≠ '=' := by decide

theorem firstByte_of (a : UInt8) {y : ℕ} (hy : y / 16 = a.toNat % 4) :
    firstByte (a.toNat / 4) y = a := by
  have heq : a.toNat / 4 * 4 + y / 16 = a.toNat := by omega
  rw [firstByte, heq, UInt8.ofNat_toNat]

theorem secondByte_of (b : UInt8) {y z : ℕ} (hy : y % 16 = b.toNat / 16)
    (hz : z / 4 = b.toNat % 16) : secondByte y z = b := by
  have heq : y % 16 * 16 + z / 4 = b.toNat := by omega
  rw [secondByte, heq, UInt8.ofNat_toNat]

theorem thirdByte_of (c : UInt8) {z : ℕ} (hz : z % 4 = c.toNat / 64) :
    thirdByte z (c.toNat % 64) = c := by
  have heq : z % 4 * 64 + c.toNat % 64 = c.toNat := by omega
  rw [thirdByte, heq, UInt8.ofNat_toNat]

theorem decode_encode (bytes : List UInt8) : decode (encode bytes) = some bytes := by
  induction bytes using encode.induct with
  | case1 => rfl
  | case2 a =>
      have ha := a.toNat_lt
      simp only [encode, decode, sextet_letter _ (show a.toNat / 4 < 64 by omega),
        sextet_letter _ (show a.toNat % 4 * 16 < 64 by omega), Option.bind_eq_bind,
        Option.bind_some, if_pos, and_self]
      rw [firstByte_of a (by omega)]
  | case3 a b =>
      have ha := a.toNat_lt
      have hb := b.toNat_lt
      have hne := letter_ne_pad _ (show b.toNat % 16 * 4 < 64 by omega)
      simp only [encode, decode, sextet_letter _ (show a.toNat / 4 < 64 by omega),
        sextet_letter _ (show a.toNat % 4 * 16 + b.toNat / 16 < 64 by omega),
        sextet_letter _ (show b.toNat % 16 * 4 < 64 by omega), Option.bind_eq_bind,
        Option.bind_some, if_neg hne, if_pos]
      rw [firstByte_of a (by omega), secondByte_of b (by omega) (by omega)]
  | case4 a b c rest ih =>
      have ha := a.toNat_lt
      have hb := b.toNat_lt
      have hc := c.toNat_lt
      have hne := letter_ne_pad _ (show b.toNat % 16 * 4 + c.toNat / 64 < 64 by omega)
      have hne' := letter_ne_pad _ (show c.toNat % 64 < 64 by omega)
      simp only [encode, decode, sextet_letter _ (show a.toNat / 4 < 64 by omega),
        sextet_letter _ (show a.toNat % 4 * 16 + b.toNat / 16 < 64 by omega),
        sextet_letter _ (show b.toNat % 16 * 4 + c.toNat / 64 < 64 by omega),
        sextet_letter _ (show c.toNat % 64 < 64 by omega), Option.bind_eq_bind,
        Option.bind_some, if_neg hne, if_neg hne', ih]
      rw [firstByte_of a (by omega), secondByte_of b (by omega) (by omega),
        thirdByte_of c (by omega)]

theorem encode_injective : Function.Injective encode := by
  intro bytes bytes' h
  refine Option.some.inj ?_
  rw [← decode_encode bytes, h, decode_encode]

/-! ## Without padding -/

/-- The characters that stand for `+` and `/` in an address. -/
def urlSafe (c : Char) : Char := if c = '+' then '-' else if c = '/' then '_' else c

def standard (c : Char) : Char := if c = '-' then '+' else if c = '_' then '/' else c

def encodeUrl (bytes : List UInt8) : List Char :=
  ((encode bytes).map urlSafe).rdropWhile (· = '=')

theorem standard_urlSafe_letter : ∀ n < 64, standard (urlSafe (letter n)) = letter n := by decide

theorem urlSafe_letter_ne_pad : ∀ n < 64, urlSafe (letter n) ≠ '=' := by decide

theorem rdropWhile_append_replicate {α : Type*} {p : α → Bool} {body : List α} {x : α} (n : ℕ)
    (hbody : ∀ y ∈ body, ¬ p y) (hx : p x) :
    (body ++ List.replicate n x).rdropWhile p = body := by
  induction n with
  | zero =>
      rw [List.replicate_zero, List.append_nil, List.rdropWhile_eq_self_iff]
      exact fun hne ↦ hbody _ (List.getLast_mem hne)
  | succ n ih =>
      rw [List.replicate_succ', ← List.append_assoc, List.rdropWhile_concat_pos _ _ _ hx]
      exact ih

theorem Encodes.encodeUrl_eq {bytes : List UInt8} {body : List Char} (h : Encodes bytes body) :
    encodeUrl bytes = body.map urlSafe := by
  rw [encodeUrl, h.encode_eq, List.map_append, List.map_replicate]
  apply rdropWhile_append_replicate
  · intro c hc
    obtain ⟨_, hletter, rfl⟩ := List.mem_map.mp hc
    obtain ⟨n, hn, rfl⟩ := h.mem _ hletter
    simpa using urlSafe_letter_ne_pad n hn
  · decide

theorem Encodes.map_standard {bytes : List UInt8} {body : List Char} (h : Encodes bytes body) :
    (body.map urlSafe).map standard = body := by
  rw [List.map_map]
  refine (List.map_congr_left fun c hc ↦ ?_).trans (List.map_id body)
  obtain ⟨n, hn, rfl⟩ := h.mem c hc
  exact standard_urlSafe_letter n hn

theorem length_encodeUrl (bytes : List UInt8) :
    (encodeUrl bytes).length = (bytes.length * 4 + 2) / 3 := by
  obtain ⟨body, hbody⟩ := encodes bytes
  have hlength := hbody.length_eq
  rw [hbody.encodeUrl_eq, List.length_map]
  omega

/-- The text without its padding still tells the bytes. -/
theorem encodeUrl_injective : Function.Injective encodeUrl := by
  intro bytes bytes' h
  obtain ⟨body, hbody⟩ := encodes bytes
  obtain ⟨body', hbody'⟩ := encodes bytes'
  have hlength : bytes.length = bytes'.length := by
    have hsame := congrArg List.length h
    rw [length_encodeUrl, length_encodeUrl] at hsame
    omega
  rw [hbody.encodeUrl_eq, hbody'.encodeUrl_eq] at h
  apply encode_injective
  rw [hbody.encode_eq, hbody'.encode_eq, hlength, ← hbody.map_standard, h, hbody'.map_standard]

end RemoteInfra.Library.Base64
