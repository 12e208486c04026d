import QubeticsSdk.Core.Types

/-! # The transaction builder and the `DIRECT` sign bytes

    The Cosmos SDK transaction that `prepareTx` and `signTx` fill in through
    `client.TxBuilder`, and the bytes that `SIGN_MODE_DIRECT` signs.

    A transaction has a body (messages, memo, timeout height), an auth info
    (one signer info per signature, and the fee) and the raw signatures.
    `SetSignatures` writes both the signer infos (public key, sign mode,
    sequence) and the raw signatures. The `DIRECT` sign bytes encode the
    body, the auth info, the chain ID and the account number, but not the
    raw signatures: so replacing a signature by one with the same key, mode
    and sequence leaves the sign bytes unchanged
    (`GetSignBytes_SetSignatures_congr`), which is what lets `signTx` sign a
    placeholder and then install the real signature.

    Encodings (protobuf) are the codec's, taken as functions of
    `TxConfig`.
-/

namespace Qubetics

/-! ## Section 1: Transactions -/

/-- `signing.SignMode`. The client only uses `direct`. -/
inductive SignMode where
  | unspecified
  | direct
  | textual
  | directAux
  | legacyAminoJSON
  deriving DecidableEq, Repr

/-- `txsigning.SingleSignatureData`. -/
structure SingleSignatureData where
  signMode : SignMode
  signature : Bytes
  deriving DecidableEq, Repr

/-- `txsigning.SignatureV2`. -/
structure SignatureV2 where
  pubKey : PubKey
  data : SingleSignatureData
  sequence : Nat
  deriving DecidableEq, Repr

/-- `tx.SignerInfo`, with the single mode of its `ModeInfo`. -/
structure SignerInfo where
  publicKey : PubKey
  modeInfo : SignMode
  sequence : Nat
  deriving DecidableEq, Repr

/-- `tx.Fee` (the payer is never set by the client). -/
structure Fee where
  amount : Coins
  gasLimit : UInt64
  granter : AccAddress
  deriving DecidableEq, Repr

/-- `tx.TxBody`. -/
structure TxBody where
  messages : List Msg
  memo : String
  timeoutHeight : UInt64

/-- `tx.AuthInfo`. -/
structure AuthInfo where
  signerInfos : List SignerInfo
  fee : Fee

/-- The builder's transaction: body, auth info and raw signatures. -/
structure Tx where
  body : TxBody
  authInfo : AuthInfo
  signatures : List Bytes

/-! ## Section 2: The builder -/

/-- `txConfig.NewTxBuilder()`: the empty transaction. -/
def NewTxBuilder : Tx :=
  ⟨⟨[], "", 0⟩, ⟨[], ⟨[], 0, []⟩⟩, []⟩

namespace Tx

/-- `SetMsgs(msgs...)`; it fails only on a message that cannot be packed
    into an `Any`, which no `Msg` of the model is. -/
def SetMsgs (t : Tx) (msgs : List Msg) : Tx := { t with body.messages := msgs }

/-- `SetFeeAmount(amount)`. -/
def SetFeeAmount (t : Tx) (amount : Coins) : Tx := { t with authInfo.fee.amount := amount }

/-- `SetFeeGranter(granter)`. -/
def SetFeeGranter (t : Tx) (granter : AccAddress) : Tx :=
  { t with authInfo.fee.granter := granter }

/-- `SetGasLimit(limit)`. -/
def SetGasLimit (t : Tx) (limit : UInt64) : Tx := { t with authInfo.fee.gasLimit := limit }

/-- `SetMemo(memo)`. -/
def SetMemo (t : Tx) (memo : String) : Tx := { t with body.memo := memo }

/-- `SetTimeoutHeight(height)`. -/
def SetTimeoutHeight (t : Tx) (height : UInt64) : Tx := { t with body.timeoutHeight := height }

/-- The signer info `SetSignatures` derives from a signature. -/
def signerInfoOf (sig : SignatureV2) : SignerInfo :=
  ⟨sig.pubKey, sig.data.signMode, sig.sequence⟩

/-- `SetSignatures(sigs...)`: one signer info and one raw signature per
    signature; it fails only on a public key that cannot be packed into an
    `Any`, which no `PubKey` of the model is. -/
def SetSignatures (t : Tx) (sigs : List SignatureV2) : Tx :=
  { t with authInfo.signerInfos := sigs.map signerInfoOf,
           signatures := sigs.map (·.data.signature) }

@[simp] theorem SetSignatures_body (t : Tx) (sigs : List SignatureV2) :
    (t.SetSignatures sigs).body = t.body := rfl

@[simp] theorem SetSignatures_fee (t : Tx) (sigs : List SignatureV2) :
    (t.SetSignatures sigs).authInfo.fee = t.authInfo.fee := rfl

@[simp] theorem SetSignatures_signerInfos (t : Tx) (sigs : List SignatureV2) :
    (t.SetSignatures sigs).authInfo.signerInfos = sigs.map signerInfoOf := rfl

@[simp] theorem SetSignatures_signatures (t : Tx) (sigs : List SignatureV2) :
    (t.SetSignatures sigs).signatures = sigs.map (·.data.signature) := rfl

/-- A second `SetSignatures` overwrites the first. -/
@[simp] theorem SetSignatures_SetSignatures (t : Tx) (sigs sigs' : List SignatureV2) :
    (t.SetSignatures sigs).SetSignatures sigs' = t.SetSignatures sigs' := rfl

end Tx

/-! ## Section 3: The codec and the sign bytes -/

/-- `authsigning.SignerData` as the client fills it in. -/
structure SignerData where
  chainID : String
  accountNumber : Nat
  sequence : Nat
  deriving DecidableEq, Repr

/-- `client.TxConfig`: the protobuf codec of the chain. -/
structure TxConfig where
  /-- `TxEncoder()`: the encoding of `TxRaw{BodyBytes, AuthInfoBytes,
      Signatures}`. -/
  txEncoder : Tx → Except Error Bytes
  /-- The encoding of a `TxBody`. -/
  bodyBytes : TxBody → Bytes
  /-- The encoding of an `AuthInfo`. -/
  authInfoBytes : AuthInfo → Bytes
  /-- The encoding of `SignDoc{BodyBytes, AuthInfoBytes, ChainId,
      AccountNumber}`. -/
  signDocBytes : Bytes → Bytes → String → Nat → Bytes
  /-- The sign bytes of the modes other than `DIRECT`. -/
  otherSignBytes : SignMode → SignerData → Tx → Except Error Bytes

/-- `SignModeHandler().GetSignBytes(mode, data, tx)`: for `DIRECT`, the
    encoded `SignDoc` of the transaction's body and auth info. -/
def TxConfig.GetSignBytes (cfg : TxConfig) (mode : SignMode) (data : SignerData) (t : Tx) :
    Except Error Bytes :=
  match mode with
  | .direct =>
    .ok (cfg.signDocBytes (cfg.bodyBytes t.body) (cfg.authInfoBytes t.authInfo) data.chainID
      data.accountNumber)
  | mode => cfg.otherSignBytes mode data t

/-- **Sign bytes ignore the signature payload.** Two `SetSignatures` with
    the same keys, modes and sequences give the same `DIRECT` sign bytes. -/
theorem GetSignBytes_SetSignatures_congr (cfg : TxConfig) (data : SignerData) (t : Tx)
    {sigs sigs' : List SignatureV2} (h : sigs.map Tx.signerInfoOf = sigs'.map Tx.signerInfoOf) :
    cfg.GetSignBytes .direct data (t.SetSignatures sigs) =
      cfg.GetSignBytes .direct data (t.SetSignatures sigs') := by
  simp only [TxConfig.GetSignBytes, Tx.SetSignatures, h]

end Qubetics
