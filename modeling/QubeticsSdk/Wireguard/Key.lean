import QubeticsSdk.Utils.Base64
import QubeticsSdk.Utils.Json

/-! # WireGuard keys

    `Key` of package `wireguard` (`wireguard/crypto.go`) is a 32-byte
    array. `String` writes it in standard base64, `NewKeyFromString` decodes
    a string and checks that it holds 32 bytes, and the JSON methods carry
    the key as the JSON string of its base64 text.

    Results: a key comes back from its text and from its JSON
    (`Key_round_trips`). The converse fails: the decoder skips newlines and
    ignores the bits that padding leaves unused, so strings other than a
    key's text decode to it (`NewKeyFromString_newline`).
-/

namespace Qubetics.Wireguard

/-! ## Section 1: Model -/

/-- `KeyLength`. -/
def KeyLength : Nat := 32

/-- `Key`, a `[KeyLength]byte` array. -/
structure Key where
  bytes : Bytes
  length_eq : bytes.length = KeyLength

@[ext] theorem Key.ext {k k' : Key} (h : k.bytes = k'.bytes) : k = k' := by
  cases k; cases k'; cases h; rfl

instance : DecidableEq Key := fun k k' =>
  decidable_of_iff (k.bytes = k'.bytes) ⟨Key.ext, fun h => h ▸ rfl⟩

/-- `k.String()`. -/
def Key.String (k : Key) : String := Base64.EncodeToString k.bytes

/-- `NewKeyFromString(s)`. -/
def NewKeyFromString (s : String) : Except Error Key :=
  match Base64.DecodeString s with
  | .error err => .error (.errorf "invalid base64 encoding: " err)
  | .ok v =>
    if h : v.length = KeyLength then .ok ⟨v, h⟩
    else .error (.new "decoded key must be 32 bytes")

/-- `k.MarshalJSON()`: the JSON text of `k.String()`. -/
def Key.MarshalJSON (k : Key) : List Char := Json.MarshalString k.String

/-- `k.UnmarshalJSON(data)`: the receiver after the call, and the error
    it returns. A JSON `null` leaves the Go string `s` empty. -/
def Key.UnmarshalJSON (k : Key) (data : List Char) : Key × Option Error :=
  match Json.UnmarshalString data with
  | .error err => (k, some (.errorf "failed to unmarshal key: " err))
  | .ok s =>
    match NewKeyFromString (s.getD "") with
    | .error err => (k, some (.errorf "failed to decode key: " err))
    | .ok key => (key, none)

/-! ## Section 2: Round trips -/

theorem NewKeyFromString_of_decode {s : String} {k : Key}
    (h : Base64.DecodeString s = .ok k.bytes) : NewKeyFromString s = .ok k := by
  rw [NewKeyFromString, h]
  exact dif_pos k.length_eq

theorem NewKeyFromString_String (k : Key) : NewKeyFromString k.String = .ok k :=
  NewKeyFromString_of_decode (Base64.DecodeString_EncodeToString k.bytes)

/-- **A key comes back from its text and from its JSON.** For every key
    `k`, `NewKeyFromString(k.String())` returns `k`, and `UnmarshalJSON`
    of `MarshalJSON(k)` sets any receiver to `k` without error. -/
theorem Key_round_trips (k k₀ : Key) :
    NewKeyFromString k.String = .ok k ∧ k₀.UnmarshalJSON k.MarshalJSON = (k, none) := by
  have h := NewKeyFromString_String k
  exact ⟨h, by simp [Key.UnmarshalJSON, Key.MarshalJSON, Json.UnmarshalString_MarshalString,
    h]⟩

/-! ## Section 3: Texts that are not a key's -/

/-- A newline in front of a key's text is skipped. -/
theorem DecodeString_newline (bytes : Bytes) :
    Base64.DecodeString ("\n" ++ Base64.EncodeToString bytes) = .ok bytes := by
  have hnl : Base64.decodeChar '\n' = none := by decide
  simp [Base64.DecodeString, Base64.EncodeToString, Base64.decode, hnl, Base64.decode_encode]

/-- **Strings other than a key's text decode to it.** For every key `k`,
    the text of `k` behind a newline decodes to `k`, and it is not
    `k.String()`. -/
theorem NewKeyFromString_newline (k : Key) :
    NewKeyFromString ("\n" ++ k.String) = .ok k ∧ "\n" ++ k.String ≠ k.String := by
  refine ⟨NewKeyFromString_of_decode (DecodeString_newline k.bytes), fun h => ?_⟩
  have := congrArg String.length h
  simp only [String.length_append, Nat.add_left_eq_self] at this
  exact absurd this (by decide)

end Qubetics.Wireguard
