import QubeticsSdk.Utils.Crypto

/-! # Session requests to a node

    `Client.AddSession` of package `node` builds an `AddSessionRequestBody`:
    the session data as base64 JSON, the session id, and the keyring's
    signature over `Msg()` (the big-endian id, then the data) with the
    signing key written by `EncodePubKey`. The node checks the request with
    `Verify` and reads the signer with `AccAddr`; both decode the key with
    `DecodePubKey`.

    For a signing key of type `ed25519` or `secp256k1` the request verifies
    under a sound signature scheme (`AddSessionRequest_verifies`). For the
    `eth_secp256k1` keys the keyring creates, the node cannot decode the
    key, so every such request is rejected (`AddSessionRequest_rejected`).
-/

namespace Qubetics.Node

/-! ## Section 1: Model -/

/-- `AddSessionRequestBody`. -/
structure AddSessionRequestBody where
  data : String
  id : UInt64
  pubKey : String
  signature : String
  deriving DecidableEq, Repr

/-- `types.Uint64ToBigEndian(i)`: the eight bytes of `i`, most significant
    first. -/
def Uint64ToBigEndian (i : UInt64) : Bytes :=
  (List.range 8).reverse.map fun k => (i.toNat / 256 ^ k % 256).toUInt8

namespace AddSessionRequestBody

/-- `r.Msg()`: the big-endian id, then the bytes of the data. -/
def Msg (r : AddSessionRequestBody) : Bytes :=
  Uint64ToBigEndian r.id ++ r.data.toUTF8.data.toList

/-- `r.AccAddr()`, with `PubKey.Address()` as `address`. -/
def AccAddr (address : PubKey → AccAddress) (r : AddSessionRequestBody) :
    Except Error AccAddress :=
  match DecodePubKey r.pubKey with
  | .error err => .error (.errorf "failed to decode public key: " err)
  | .ok pubKey => .ok (address pubKey)

/-- `r.Verify()`, with `PubKey.VerifySignature(msg, sig)` as
    `verifySignature`. -/
def Verify (verifySignature : PubKey → Bytes → Bytes → Bool) (r : AddSessionRequestBody) :
    Except Error Unit :=
  match DecodePubKey r.pubKey with
  | .error err => .error (.errorf "failed to decode public key: " err)
  | .ok pubKey =>
    match Base64.DecodeString r.signature with
    | .error err => .error (.errorf "failed to decode signature: " err)
    | .ok signature =>
      if verifySignature pubKey r.Msg signature then .ok ()
      else .error (.new "signature verification failed")

end AddSessionRequestBody

/-- The request `c.AddSession(ctx, id, data)` posts, for data whose JSON
    encoding is `dataJSON`, with the keyring's `Sign` under `c.fromName`
    as `sign`. -/
def AddSessionRequest (id : UInt64) (dataJSON : Bytes)
    (sign : Bytes → Except Error (Bytes × PubKey)) : Except Error AddSessionRequestBody :=
  let req : AddSessionRequestBody := ⟨Base64.EncodeToString dataJSON, id, "", ""⟩
  match sign req.Msg with
  | .error err => .error (.errorf "failed to sign session data: " err)
  | .ok (signature, pubKey) =>
    .ok { req with pubKey := EncodePubKey (some pubKey),
                   signature := Base64.EncodeToString signature }

/-! ## Section 2: What the node makes of the request -/

/-- The request carries the message it signed, the key that signed it and
    the signature. -/
theorem AddSessionRequest_eq {id : UInt64} {dataJSON : Bytes}
    {sign : Bytes → Except Error (Bytes × PubKey)} {req : AddSessionRequestBody}
    (h : AddSessionRequest id dataJSON sign = .ok req) :
    ∃ signature key, sign req.Msg = .ok (signature, key) ∧
      req.pubKey = EncodePubKey (some key) ∧ req.signature = Base64.EncodeToString signature := by
  unfold AddSessionRequest at h
  dsimp only at h
  split at h
  · cases h
  · next signature key hs =>
    cases h
    exact ⟨signature, key, hs, rfl, rfl⟩

/-- Under a signature scheme that accepts what the keyring signs, a
    request signed with an `ed25519` or `secp256k1` key of its type's size
    verifies, and its signer is the key's address. -/
theorem AddSessionRequest_verifies {id : UInt64} {dataJSON : Bytes}
    {sign : Bytes → Except Error (Bytes × PubKey)} (verifySignature : PubKey → Bytes → Bytes → Bool)
    (address : PubKey → AccAddress) {req : AddSessionRequestBody}
    (h : AddSessionRequest id dataJSON sign = .ok req)
    (hkey : ∀ msg signature key, sign msg = .ok (signature, key) →
      (key.keyType = .ed25519 ∧ key.key.length = ed25519PubKeySize) ∨
      (key.keyType = .secp256k1 ∧ key.key.length = secp256k1PubKeySize))
    (hsound : ∀ msg signature key, sign msg = .ok (signature, key) →
      verifySignature key msg signature = true) :
    req.Verify verifySignature = .ok () ∧
      ∃ signature key, sign req.Msg = .ok (signature, key) ∧
        req.AccAddr address = .ok (address key) := by
  obtain ⟨signature, key, hs, hpk, hsig⟩ := AddSessionRequest_eq h
  have hdec : DecodePubKey req.pubKey = .ok key := by
    rw [hpk, DecodePubKey_EncodePubKey]
    obtain ⟨ht, hl⟩ | ⟨ht, hl⟩ := hkey _ _ _ hs <;> rw [ht] <;>
      simp [decodeEd25519Key, decodeSecp256k1Key, hl, ← ht]
  refine ⟨?_, signature, key, hs, by simp [AddSessionRequestBody.AccAddr, hdec]⟩
  simp [AddSessionRequestBody.Verify, hdec, hsig, hsound _ _ _ hs]

/-- **A request signed with an `eth_secp256k1` key is rejected.** Whatever
    the session and the signature scheme, when the keyring signs with a key
    of the type it creates, the node fails both to verify the request and
    to read its signer: `DecodePubKey` does not know the key's type. -/
theorem AddSessionRequest_rejected {id : UInt64} {dataJSON : Bytes}
    {sign : Bytes → Except Error (Bytes × PubKey)} (verifySignature : PubKey → Bytes → Bytes → Bool)
    (address : PubKey → AccAddress) {req : AddSessionRequestBody}
    (h : AddSessionRequest id dataJSON sign = .ok req)
    (heth : ∀ msg signature key, sign msg = .ok (signature, key) → key.keyType = .ethSecp256k1) :
    req.Verify verifySignature =
        .error (.errorf "failed to decode public key: " (.new "unsupported public key type")) ∧
      req.AccAddr address =
        .error (.errorf "failed to decode public key: " (.new "unsupported public key type")) := by
  obtain ⟨signature, key, hs, hpk, -⟩ := AddSessionRequest_eq h
  have hdec : DecodePubKey req.pubKey = .error (.new "unsupported public key type") := by
    rw [hpk, DecodePubKey_EncodePubKey, heth _ _ _ hs]
  exact ⟨by simp [AddSessionRequestBody.Verify, hdec], by simp [AddSessionRequestBody.AccAddr, hdec]⟩

/-- Session 1 with data `{}`, signed by a keyring whose key is the
    compressed `eth_secp256k1` key `02 11 … 11`. -/
theorem AddSessionRequest_rejected_eth :
    (⟨"e30=", 1, "eth_secp256k1:AhERERERERERERERERERERERERERERERERERERERERER", "Bw=="⟩ :
        AddSessionRequestBody).Verify (fun _ _ _ => true) =
      .error (.errorf "failed to decode public key: " (.new "unsupported public key type")) ∧
    (⟨"e30=", 1, "eth_secp256k1:AhERERERERERERERERERERERERERERERERERERERERER", "Bw=="⟩ :
        AddSessionRequestBody).AccAddr (fun _ => []) =
      .error (.errorf "failed to decode public key: " (.new "unsupported public key type")) :=
  @AddSessionRequest_rejected 1 [123, 125] (fun _ => .ok ([7], ⟨.ethSecp256k1, 2 :: List.replicate 32 17⟩))
    _ _ _ rfl (fun _ _ _ h => by cases h; rfl)

end Qubetics.Node
