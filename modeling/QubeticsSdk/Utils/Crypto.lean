import QubeticsSdk.Core.Types
import QubeticsSdk.Utils.Base64

/-! # Public keys as text

    `EncodePubKey` writes a public key as its type, a colon and the base64
    of its bytes; `DecodePubKey` trims the text, splits it at the colon,
    decodes the base64 and rebuilds the key for the two types it knows,
    `ed25519` and `secp256k1`.

    The keyring creates `eth_secp256k1` keys (`CreateKey` passes
    `qubeticshd.EthSecp256k1`), whose type `EncodePubKey` writes as
    `eth_secp256k1`, a type `DecodePubKey` rejects: the encoding of such a
    key never decodes (`DecodePubKey_EncodePubKey`).
-/

namespace Qubetics

/-! ## Section 1: Encoding and decoding -/

/-- `ed25519.PubKeySize`. -/
def ed25519PubKeySize : Nat := 32

/-- `secp256k1.PubKeySize`. -/
def secp256k1PubKeySize : Nat := 33

/-- `EncodePubKey(key)`; `none` is a `nil` key. -/
def EncodePubKey : Option PubKey → String
  | none => ""
  | some key => key.keyType.name ++ ":" ++ Base64.EncodeToString key.key

/-- `decodeEd25519Key(keyBytes)`. -/
def decodeEd25519Key (keyBytes : Bytes) : Except Error PubKey :=
  if keyBytes.length ≠ ed25519PubKeySize then .error (.new "invalid ed25519 public key size")
  else .ok ⟨.ed25519, keyBytes⟩

/-- `decodeSecp256k1Key(keyBytes)`. -/
def decodeSecp256k1Key (keyBytes : Bytes) : Except Error PubKey :=
  if keyBytes.length ≠ secp256k1PubKeySize then .error (.new "invalid secp256k1 public key size")
  else .ok ⟨.secp256k1, keyBytes⟩

/-- `DecodePubKey(s)`. -/
def DecodePubKey (s : String) : Except Error PubKey :=
  match stringsSplit (stringsTrimSpace s) ':' with
  | [keyType, key] =>
    match Base64.DecodeString key with
    | .error err => .error (.errorf "failed to base64 key: " err)
    | .ok key =>
      if keyType = "ed25519" then decodeEd25519Key key
      else if keyType = "secp256k1" then decodeSecp256k1Key key
      else .error (.new "unsupported public key type")
  | _ => .error (.new "invalid public key format")

/-! ## Section 2: The round trip -/

/-- The characters of a key type's name are letters, digits and `_`. -/
theorem mem_name {t : KeyType} {c : Char} (h : c ∈ t.name.data) : isSpace c = false ∧ c ≠ ':' := by
  revert c
  cases t <;> decide

/-- The base64 characters are neither white space nor `:`. -/
theorem mem_EncodeToString {bytes : Bytes} {c : Char} (h : c ∈ (Base64.EncodeToString bytes).data) :
    isSpace c = false ∧ c ≠ ':' := by
  have halpha : ∀ c ∈ Base64.encodeStd, isSpace c = false ∧ c ≠ ':' := by decide
  rcases Base64.mem_encode h with h | rfl
  · exact halpha c h
  · decide

/-- **What decoding an encoded key gives.** An `ed25519` or `secp256k1`
    key comes back through its size check; an `eth_secp256k1` key is
    rejected as an unsupported type. -/
theorem DecodePubKey_EncodePubKey (key : PubKey) :
    DecodePubKey (EncodePubKey (some key)) = match key.keyType with
      | .ed25519 => decodeEd25519Key key.key
      | .secp256k1 => decodeSecp256k1Key key.key
      | .ethSecp256k1 => .error (.new "unsupported public key type") := by
  have htrim : stringsTrimSpace (EncodePubKey (some key)) = EncodePubKey (some key) :=
    stringsTrimSpace_of_forall fun c hc => by
      simp only [EncodePubKey, String.data_append, List.mem_append] at hc
      rcases hc with (hc | hc) | hc
      · exact (mem_name hc).1
      · rw [List.mem_singleton.mp hc]; decide
      · exact (mem_EncodeToString hc).1
  have hsplit : stringsSplit (EncodePubKey (some key)) ':' =
      [key.keyType.name, Base64.EncodeToString key.key] :=
    stringsSplit_append (fun hc => (mem_name hc).2 rfl) (fun hc => (mem_EncodeToString hc).2 rfl)
  rw [DecodePubKey, htrim, hsplit]
  simp only [Base64.DecodeString_EncodeToString]
  cases key.keyType <;> rfl

end Qubetics
