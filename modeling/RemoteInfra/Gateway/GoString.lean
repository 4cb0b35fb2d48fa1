import RemoteInfra.Library.Base64

/-!
# Go strings and their way through JSON

A Go string is a sequence of bytes.  It is cut here as `encoding/json` cuts it: into runes
and stray bytes that belong to no rune.  `json.Marshal` writes U+FFFD for a stray byte, so
only a string of runes comes back from JSON as it was.
-/

namespace RemoteInfra.Gateway

inductive GoUnit
  | rune (c : Char)
  | stray (b : UInt8)
  deriving DecidableEq

abbrev GoString := List GoUnit

instance : LawfulBEq GoString := inferInstance

namespace GoString

def ofString (s : String) : GoString := s.toList.map .rune

def ValidUTF8 (s : GoString) : Prop := ∀ u ∈ s, ∃ c, u = .rune c

def jsonUnit : GoUnit → GoUnit
  | .rune c => .rune c
  | .stray _ => .rune (Char.ofNat 0xFFFD)

/-- What `json.Unmarshal` reads back after `json.Marshal` wrote the string. -/
def throughJSON (s : GoString) : GoString := s.map jsonUnit

theorem throughJSON_of_valid {s : GoString} (h : s.ValidUTF8) : s.throughJSON = s := by
  have hunit : ∀ u ∈ s, jsonUnit u = u := by
    intro u hu
    obtain ⟨c, rfl⟩ := h u hu
    rfl
  exact (List.map_congr_left hunit).trans (List.map_id s)

theorem validUTF8_throughJSON (s : GoString) : s.throughJSON.ValidUTF8 := by
  intro u hu
  obtain ⟨v, -, rfl⟩ := List.mem_map.mp hu
  cases v with
  | rune c => exact ⟨c, rfl⟩
  | stray b => exact ⟨_, rfl⟩

@[simp] theorem throughJSON_throughJSON (s : GoString) :
    s.throughJSON.throughJSON = s.throughJSON :=
  throughJSON_of_valid (validUTF8_throughJSON s)

theorem validUTF8_ofString (s : String) : (ofString s).ValidUTF8 := by
  intro u hu
  obtain ⟨c, -, rfl⟩ := List.mem_map.mp hu
  exact ⟨c, rfl⟩

/-- `base64.StdEncoding.DecodeString`, which passes over carriage returns and newlines. -/
def decodeBase64 (s : GoString) : Option (List UInt8) :=
  let kept := s.filter fun u ↦ decide (u ≠ GoUnit.rune '\r' ∧ u ≠ GoUnit.rune '\n')
  let characters := kept.mapM fun
    | .rune c => some c
    | .stray _ => none
  characters.bind Library.Base64.decode

end GoString

/-- `fmt.Errorf(format, argument)`; a text without a verb has no argument. -/
structure FormattedError where
  format : String
  argument : GoString
  deriving DecidableEq

end RemoteInfra.Gateway
