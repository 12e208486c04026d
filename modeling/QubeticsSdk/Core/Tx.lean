import QubeticsSdk.Core.Client

/-! # One broadcast attempt

    `broadcastTxSync` (`core/tx.go`) is one attempt of `BroadcastTxSync`:
    look up the signing key, wrap the messages in an authz `MsgExec` when a
    granter is configured, validate them, fetch the signer's account,
    build the transaction (`prepareTx`, which may simulate it to size the
    gas), sign it (`signTx`), encode it and broadcast it. `tx` is one
    attempt of `Tx`, a query of the indexed transaction.

    The main result is `broadcastTxSync_submits`: whatever the keyring, the
    codec and the node answer, the bytes an attempt broadcasts encode the
    transaction the contract describes (`specifiedTx`), signed over its
    own `DIRECT` sign bytes with the account fetched in that attempt.
    Against collaborators whose context is cancelled (`Env.cancelled`), an
    attempt fails exactly where the uncancelled one first calls the node
    (`broadcastTxSync_cancelled`).
-/

namespace Qubetics

namespace Client

/-! ## Section 1: Building and signing -/

/-- `c.gasSimulateTx(ctx, txb)`: simulate, then scale the gas used by the
    gas adjustment (`uint64(float64 × float64(gasUsed))`). -/
def gasSimulateTx (c : Client) (env : Env) (txb : Tx) : NodeM UInt64 := do
  let buf ← NodeM.offline ((Result.ofExcept (env.txConfig.txEncoder txb)).errorf
    "failed to encode tx: ")
  let res ← (Simulate env buf).errorf "failed to simulate tx: "
  pure (c.txGasAdjustment * Float.ofNat res.gasUsed).toUInt64

/-- The signature `prepareTx` and `signTx` install before signing: the
    key, `SIGN_MODE_DIRECT`, no signature bytes, the account's sequence. -/
def placeholder (pubKey : PubKey) (acc : BaseAccount) : SignatureV2 :=
  ⟨pubKey, ⟨.direct, []⟩, acc.sequence⟩

/-- `c.prepareTx(ctx, key, acc, msgs...)`. -/
def prepareTx (c : Client) (env : Env) (key : Record) (acc : BaseAccount) (msgs : List Msg) :
    NodeM Tx := do
  let txb := (((((NewTxBuilder.SetMsgs msgs).SetFeeAmount c.txFees).SetFeeGranter
    c.txFeeGranterAddr).SetGasLimit c.txGas).SetMemo c.txMemo).SetTimeoutHeight c.txTimeoutHeight
  let txb ← if !c.txGasPrices.IsZero then do
      let fees ← NodeM.offline (calculateFees c.txGasPrices c.txGas)
      pure (txb.SetFeeAmount fees)
    else pure txb
  let pubKey ← NodeM.offline ((Result.ofExcept key.pubKey).errorf
    "failed to get public key from key: ")
  let txb := txb.SetSignatures [placeholder pubKey acc]
  if c.txSimulateAndExecute then do
    let gasLimit ← (c.gasSimulateTx env txb).errorf "failed to simulate tx for gas estimation: "
    let txb := txb.SetGasLimit gasLimit
    if !c.txGasPrices.IsZero then do
      let fees ← NodeM.offline (calculateFees c.txGasPrices gasLimit)
      pure (txb.SetFeeAmount fees)
    else pure txb
  else pure txb

/-- `c.signTx(txb, key, acc)`, returning the signed transaction. -/
def signTx (c : Client) (env : Env) (txb : Tx) (key : Record) (acc : BaseAccount) : Result Tx := do
  let pubKey ← (Result.ofExcept key.pubKey).errorf "failed to get public key from key: "
  let signature := placeholder pubKey acc
  let txb := txb.SetSignatures [signature]
  let signerData : SignerData := ⟨c.rpcChainID, acc.accountNumber, acc.sequence⟩
  let buf ← (Result.ofExcept (env.txConfig.GetSignBytes signature.data.signMode signerData txb)).errorf
    "failed to get tx sign bytes: "
  let (buf, _) ← (c.Sign env c.txFromName buf).errorf "failed to sign tx bytes: "
  pure (txb.SetSignatures [{ signature with data.signature := buf }])

/-! ## Section 2: The attempt -/

/-- `fmt.Errorf("failed to validate message at index %d: %w", i, err)`. -/
def validationError (i : Nat) (err : Error) : Error :=
  .errorf ("failed to validate message at index " ++ toString i ++ ": ") err

/-- The validation loop of `broadcastTxSync`, from index `i` on: the error
    of the first message whose `ValidateBasic` fails. -/
def validateFrom (validateBasic : Msg → Option Error) : Nat → List Msg → Option Error
  | _, [] => none
  | i, msg :: msgs =>
    match validateBasic msg with
    | some err => some (validationError i err)
    | none => validateFrom validateBasic (i + 1) msgs

/-- `newErrNotFound(fmt.Errorf("key %s does not exist", name))`. -/
def keyNotFound (name : String) : Error := newErrNotFound (.new ("key " ++ name ++ " does not exist"))

/-- The messages of the transaction: the caller's, or one `MsgExec` for
    the signer when an authz granter is configured. -/
def txMsgs (c : Client) (addr : AccAddress) (msgs : List Msg) : List Msg :=
  if !c.txAuthzGranterAddr.Empty then [NewMsgExec addr msgs] else msgs

/-- `c.broadcastTxSync(ctx, msgs...)`. -/
def broadcastTxSync (c : Client) (env : Env) (msgs : List Msg) : NodeM ResultBroadcastTx := do
  let key ← NodeM.offline ((c.Key env c.txFromName).errorf "failed to get key: ")
  let key ← NodeM.offline (match key with
    | none => .err (keyNotFound c.txFromName)
    | some key => .ok key)
  let addr ← NodeM.offline ((Result.ofExcept key.address).errorf "failed to get addr from key: ")
  let msgs := c.txMsgs addr msgs
  NodeM.offline (match validateFrom env.validateBasic 0 msgs with
    | some err => .err err
    | none => .ok ())
  let acc ← (Account env addr).errorf "failed to query account: "
  let acc ← NodeM.offline (match acc with
    | none => .err (newErrNotFound (.new ("acconut " ++ env.accAddressString addr ++ " does not exist")))
    | some acc => .ok acc)
  let txb ← (c.prepareTx env key acc msgs).errorf "failed to prepare tx: "
  let txb ← NodeM.offline ((c.signTx env txb key acc).errorf "failed to sign tx: ")
  let buf ← NodeM.offline ((Result.ofExcept (env.txConfig.txEncoder txb)).errorf
    "failed to encode tx: ")
  NodeM.offline ((c.HTTP env).errorf "failed to create rpc client: ")
  NodeM.call (.broadcastTxSync buf)
    ((Result.ofExcept (env.broadcastTxSync buf)).errorf "failed to sync broadcast tx: ")

/-- `c.tx(ctx, hash)`. -/
def tx (c : Client) (env : Env) (hash : Bytes) : NodeM ResultTx := do
  NodeM.offline ((c.HTTP env).errorf "failed to create rpc client: ")
  NodeM.call (.tx hash c.queryProve)
    ((Result.ofExcept (env.tx hash c.queryProve)).errorf "failed to query tx: ")

/-! ## Section 3: What the contract asks of an attempt -/

/-- The gas limit the contract allows an attempt that made `calls`:
    `txGas`, or, with simulation on, the adjusted estimate of a simulation
    among those calls. -/
def GasSpec (c : Client) (env : Env) (calls : List Call) (g : UInt64) : Prop :=
  if c.txSimulateAndExecute then
    ∃ txBytes res, Call.simulate txBytes ∈ calls ∧ env.querySimulate txBytes = .ok res ∧
      g = (c.txGasAdjustment * Float.ofNat res.gasUsed).toUInt64
  else g = c.txGas

/-- The fee the contract allows for gas limit `g`: `calculateFees` of the
    gas prices when they are non-zero, `txFees` otherwise. -/
def FeeSpec (c : Client) (g : UInt64) (fee : Coins) : Prop :=
  if c.txGasPrices.IsZero then fee = c.txFees else calculateFees c.txGasPrices g = .ok fee

/-- The transaction the contract describes: the caller's messages, or one
    `MsgExec` for `grantee` when an authz granter is configured; the
    configured memo, timeout height and fee granter; gas limit `g` and fee
    `fee`; one signer info for `pk` in `DIRECT` mode at the account's
    sequence; the signature `sig`. -/
def specifiedTx (c : Client) (grantee : AccAddress) (msgs : List Msg) (pk : PubKey)
    (acc : BaseAccount) (g : UInt64) (fee : Coins) (sig : Bytes) : Tx where
  body := ⟨if c.txAuthzGranterAddr.Empty then msgs else [NewMsgExec grantee msgs], c.txMemo,
    c.txTimeoutHeight⟩
  authInfo := ⟨[⟨pk, .direct, acc.sequence⟩], ⟨fee, g, c.txFeeGranterAddr⟩⟩
  signatures := [sig]

theorem GasSpec.mono {c : Client} {env : Env} {calls calls' : List Call} {g : UInt64}
    (h : GasSpec c env calls g) (hsub : calls ⊆ calls') : GasSpec c env calls' g := by
  cases hs : c.txSimulateAndExecute <;> simp only [GasSpec, hs] at h ⊢
  · exact h
  · obtain ⟨txBytes, res, hmem, hres, hg⟩ := h
    exact ⟨txBytes, res, hsub hmem, hres, hg⟩

/-! ## Section 4: Spec lemmas -/

theorem gasSimulateTx_spec {c : Client} {env : Env} {txb : Tx} {g : UInt64}
    (h : (c.gasSimulateTx env txb).result = .ok g) :
    ∃ txBytes res, Call.simulate txBytes ∈ (c.gasSimulateTx env txb).calls ∧
      env.querySimulate txBytes = .ok res ∧
      g = (c.txGasAdjustment * Float.ofNat res.gasUsed).toUInt64 := by
  cases henc : env.txConfig.txEncoder txb with
  | error e => simp [gasSimulateTx, henc] at h
  | ok buf =>
    cases hsim : env.querySimulate buf with
    | error e => simp [gasSimulateTx, henc, hsim, Simulate] at h
    | ok res =>
      simp [gasSimulateTx, henc, hsim, Simulate] at h ⊢
      exact h.symm

/-- The gas limit a simulation in `prepareTx` returns is one the contract
    allows, whatever `prepareTx` does with it next. -/
theorem gasSpec_of_simulate {c : Client} {env : Env} {txb : Tx} {f : UInt64 → NodeM Tx}
    {g : UInt64} (hs : c.txSimulateAndExecute = true)
    (hg : (c.gasSimulateTx env txb).result = .ok g) :
    GasSpec c env (((c.gasSimulateTx env txb).errorf
      "failed to simulate tx for gas estimation: ") >>= f).calls g := by
  obtain ⟨sb, res, hmem, hres, hgeq⟩ := gasSimulateTx_spec hg
  rw [GasSpec, if_pos hs]
  exact ⟨sb, res, NodeM.calls_subset_bind _ _ hmem, hres, hgeq⟩

/-- What `prepareTx` builds: the caller's messages, memo, timeout height
    and fee granter, the placeholder signature for the key's public key,
    and a gas limit and fee as the contract allows. -/
theorem prepareTx_spec {c : Client} {env : Env} {key : Record} {acc : BaseAccount}
    {msgs : List Msg} {txb : Tx} (h : (c.prepareTx env key acc msgs).result = .ok txb) :
    ∃ pk g fee, key.pubKey = .ok pk ∧ GasSpec c env (c.prepareTx env key acc msgs).calls g ∧
      FeeSpec c g fee ∧
      txb = ⟨⟨msgs, c.txMemo, c.txTimeoutHeight⟩,
        ⟨[Tx.signerInfoOf (placeholder pk acc)], ⟨fee, g, c.txFeeGranterAddr⟩⟩, [[]]⟩ := by
  cases hpk : key.pubKey with
  | error e =>
    cases hz : c.txGasPrices.IsZero
    · rcases hf : calculateFees c.txGasPrices c.txGas with fees | e | m <;>
        simp [prepareTx, hz, hf, hpk] at h
    · simp [prepareTx, hz, hpk] at h
  | ok pk =>
    cases hz : c.txGasPrices.IsZero
    · -- non-zero gas prices: the fee is recomputed for every gas limit
      rcases hf : calculateFees c.txGasPrices c.txGas with fees | e | m
      all_goals cases hs : c.txSimulateAndExecute
      all_goals simp [prepareTx, hz, hs, hpk, hf] at h ⊢
      · exact ⟨c.txGas, by simp [GasSpec, hs], fees, by simp [FeeSpec, hz, hf], by rw [← h]; rfl⟩
      · obtain ⟨g, hg, h⟩ := NodeM.result_bind_eq_ok h
        rw [NodeM.errorf_result, Result.errorf_eq_ok] at hg
        rcases hf2 : calculateFees c.txGasPrices g with fees2 | e | m <;> simp [hf2] at h
        exact ⟨g, gasSpec_of_simulate hs hg, fees2, by simp [FeeSpec, hz, hf2], by rw [← h]; rfl⟩
    · -- zero gas prices: the configured fee
      cases hs : c.txSimulateAndExecute
      all_goals simp [prepareTx, hz, hs, hpk] at h ⊢
      · exact ⟨c.txGas, by simp [GasSpec, hs], c.txFees, by simp [FeeSpec, hz], by rw [← h]; rfl⟩
      · obtain ⟨g, hg, h⟩ := NodeM.result_bind_eq_ok h
        rw [NodeM.errorf_result, Result.errorf_eq_ok] at hg
        simp at h
        exact ⟨g, gasSpec_of_simulate hs hg, c.txFees, by simp [FeeSpec, hz], by rw [← h]; rfl⟩

/-- What `signTx` produces: one signature of the key in `DIRECT` mode at
    the account's sequence, whose bytes the keyring signed over the sign
    bytes of the transaction carrying the placeholder. -/
theorem signTx_spec {c : Client} {env : Env} {txb txb' : Tx} {key : Record} {acc : BaseAccount}
    (h : c.signTx env txb key acc = .ok txb') :
    ∃ pk signBytes sig pk', key.pubKey = .ok pk ∧
      env.txConfig.GetSignBytes .direct ⟨c.rpcChainID, acc.accountNumber, acc.sequence⟩
        (txb.SetSignatures [placeholder pk acc]) = .ok signBytes ∧
      c.Sign env c.txFromName signBytes = .ok (sig, pk') ∧
      txb' = txb.SetSignatures [⟨pk, ⟨.direct, sig⟩, acc.sequence⟩] := by
  obtain ⟨pk, hpk, h⟩ := Result.bind_eq_ok h
  obtain ⟨signBytes, hsb, h⟩ := Result.bind_eq_ok h
  obtain ⟨⟨sig, pk'⟩, hsig, h⟩ := Result.bind_eq_ok h
  simp only [Result.errorf_eq_ok, Result.ofExcept_eq_ok] at hpk hsb hsig
  exact ⟨pk, signBytes, sig, pk', hpk, hsb, hsig, (Result.ok.inj h).symm⟩

/-- The validation loop reports the first message whose `ValidateBasic`
    fails, by its index. -/
theorem validateFrom_first_failure (validateBasic : Msg → Option Error) (k : Nat)
    {pre : List Msg} {msg : Msg} (post : List Msg) {e : Error}
    (hpre : ∀ m ∈ pre, validateBasic m = none) (hmsg : validateBasic msg = some e) :
    validateFrom validateBasic k (pre ++ msg :: post) = some (validationError (k + pre.length) e) := by
  induction pre generalizing k with
  | nil => simp [validateFrom, hmsg]
  | cons m pre ih =>
    rw [List.cons_append, validateFrom, hpre m (List.mem_cons_self _ _),
      ih (k + 1) fun m hm => hpre m (List.mem_cons_of_mem _ hm)]
    simp only [List.length_cons, Nat.add_assoc, Nat.add_comm 1]

/-- An attempt whose messages fail validation makes no network call and
    fails with the validation error. -/
theorem broadcastTxSync_of_invalid {c : Client} {env : Env} {msgs : List Msg} {key : Record}
    {addr : AccAddress} {err : Error} (hkey : c.Key env c.txFromName = .ok (some key))
    (haddr : key.address = .ok addr)
    (hval : validateFrom env.validateBasic 0 (c.txMsgs addr msgs) = some err) :
    (c.broadcastTxSync env msgs).calls = [] ∧ (c.broadcastTxSync env msgs).result = .err err := by
  simp [broadcastTxSync, hkey, haddr, hval]

/-- An attempt whose signing key is not in the keyring makes no network
    call and fails naming the key. -/
theorem broadcastTxSync_of_key_missing {c : Client} {env : Env} {msgs : List Msg}
    (hkey : c.Key env c.txFromName = .ok none) :
    (c.broadcastTxSync env msgs).calls = [] ∧
      (c.broadcastTxSync env msgs).result = .err (keyNotFound c.txFromName) := by
  simp [broadcastTxSync, hkey]

/-- **An attempt after cancellation.** The steps before the account query
    do not take the context: an attempt that fails there fails as it would
    without cancellation, with no network call. An attempt that gets past
    them makes the account query alone, which fails with the context's
    error. -/
theorem broadcastTxSync_cancelled (c : Client) (env : Env) (ctxErr : Call → Error)
    (msgs : List Msg) :
    (c.broadcastTxSync (env.cancelled ctxErr) msgs = c.broadcastTxSync env msgs ∧
        (c.broadcastTxSync env msgs).calls = []) ∨
      ∃ addr, (c.broadcastTxSync (env.cancelled ctxErr) msgs).calls = [.account addr] ∧
        (c.broadcastTxSync (env.cancelled ctxErr) msgs).result =
          .err (.errorf "failed to query account: " (ctxErr (.account addr))) := by
  rcases hK : c.Key env c.txFromName with (_ | key) | e | m
  · simp [broadcastTxSync, hK]
  · rcases haddr : key.address with e | addr
    · simp [broadcastTxSync, hK, haddr]
    · rcases hval : validateFrom env.validateBasic 0 (c.txMsgs addr msgs) with _ | e
      · exact .inr ⟨addr, by simp [broadcastTxSync, hK, haddr, hval, Account]⟩
      · simp [broadcastTxSync, hK, haddr, hval]
  · simp [broadcastTxSync, hK]
  · simp [broadcastTxSync, hK]

/-- After cancellation every transaction query fails. -/
theorem tx_cancelled (c : Client) (env : Env) (ctxErr : Call → Error) (hash : Bytes) :
    (c.tx (env.cancelled ctxErr) hash).result.isErr = true := by
  rcases hh : c.HTTP env with u | e | m
  · simp [tx, hh, Result.isErr]
  · simp [tx, hh, Result.isErr]
  · exact absurd hh (Result.ofExcept_ne_panic _ m)

/-- Without simulation and with non-zero gas prices, `prepareTx` installs
    the configured gas limit and the fees `calculateFees` computes for it. -/
theorem prepareTx_of_fees {c : Client} {env : Env} {key : Record} {acc : BaseAccount}
    {msgs : List Msg} {pk : PubKey} {fees : Coins} (hs : c.txSimulateAndExecute = false)
    (hz : c.txGasPrices.IsZero = false) (hf : calculateFees c.txGasPrices c.txGas = .ok fees)
    (hpk : key.pubKey = .ok pk) :
    (c.prepareTx env key acc msgs).result = .ok ⟨⟨msgs, c.txMemo, c.txTimeoutHeight⟩,
      ⟨[Tx.signerInfoOf (placeholder pk acc)], ⟨fees, c.txGas, c.txFeeGranterAddr⟩⟩, [[]]⟩ := by
  simp [prepareTx, hs, hz, hf, hpk]
  rfl

/-- The only network calls `prepareTx` makes are simulations. -/
theorem prepareTx_calls {c : Client} {env : Env} {key : Record} {acc : BaseAccount}
    {msgs : List Msg} {call : Call} (h : call ∈ (c.prepareTx env key acc msgs).calls) :
    ∃ txBytes, call = .simulate txBytes := by
  have hsim : ∀ txb, call ∈ (c.gasSimulateTx env txb).calls → ∃ txBytes, call = .simulate txBytes := by
    intro txb h
    cases henc : env.txConfig.txEncoder txb with
    | error e => simp [gasSimulateTx, henc] at h
    | ok buf =>
      cases hq : env.querySimulate buf <;> simp [gasSimulateTx, henc, hq, Simulate] at h <;>
        exact ⟨buf, h⟩
  cases hpk : key.pubKey with
  | error e =>
    cases hz : c.txGasPrices.IsZero
    · rcases hf : calculateFees c.txGasPrices c.txGas <;> simp [prepareTx, hz, hf, hpk] at h
    · simp [prepareTx, hz, hpk] at h
  | ok pk =>
    cases hz : c.txGasPrices.IsZero
    all_goals cases hs : c.txSimulateAndExecute
    · rcases hf : calculateFees c.txGasPrices c.txGas <;> simp [prepareTx, hz, hf, hpk, hs] at h
    · rcases hf : calculateFees c.txGasPrices c.txGas <;> simp [prepareTx, hz, hf, hpk, hs] at h
      rcases NodeM.mem_bind_calls.mp h with h | ⟨g, -, h⟩
      · exact hsim _ h
      · rcases hf2 : calculateFees c.txGasPrices g <;> simp [hf2] at h
    · simp [prepareTx, hz, hpk, hs] at h
    · simp [prepareTx, hz, hpk, hs] at h
      rcases NodeM.mem_bind_calls.mp h with h | ⟨g, -, h⟩
      · exact hsim _ h
      · simp at h

/-! ## Section 5: A stub node

    The concrete runs below use a keyring holding one `eth_secp256k1` key,
    a codec that encodes every transaction as no bytes, and a node that
    holds the key's account; what the node answers to a broadcast and to a
    transaction query are parameters. -/

/-- The stub collaborators, with the node's answers. -/
def stubEnv (answer : Except Error ResultBroadcastTx) (query : Except Error ResultTx) : Env where
  key _ := .ok ⟨"main", .ok ⟨.ethSecp256k1, []⟩, .ok [1]⟩
  sign _ _ := .ok ([], ⟨.ethSecp256k1, []⟩)
  txConfig := ⟨fun _ => .ok [], fun _ => [], fun _ => [], fun _ _ _ _ => [], fun _ _ _ => .ok []⟩
  accAddressString _ := "qubetics1"
  validateBasic _ := none
  account _ := .ok (some ⟨0, 0⟩)
  querySimulate _ := .ok ⟨0⟩
  newWithTimeout _ _ _ := .ok ()
  broadcastTxSync _ := answer
  tx _ _ := query

/-- A client with both attempt counts set to `n`. -/
def clientWithAttempts (n : Nat) : Client :=
  (NewClient.WithTxBroadcastRetryAttempts n).WithTxQueryRetryAttempts n

/-- The node's answer to a transaction already in its mempool cache. -/
def mempoolDuplicate : Error := .new "tx already exists in cache"

/-- The node's answer to a transaction signed for a stale sequence. -/
def sequenceMismatch : Error :=
  .new "account sequence mismatch, expected 1, got 0: incorrect account sequence"

/-- `context.Canceled`. -/
def contextCanceled : Error := .new "context canceled"

/-- A `CheckTx` acceptance. -/
def acceptedResponse : ResultBroadcastTx := ⟨0, [], "", "", [171]⟩

/-- A keyring without the signing key. -/
def missingKeyEnv : Env :=
  { stubEnv (.ok acceptedResponse) (.error contextCanceled) with key := fun _ => .error ErrKeyNotFound }

/-- A transaction that was included but ran out of gas. -/
def outOfGasResult : ResultTx := ⟨[171], 7, 0, ⟨11, "out of gas", "sdk", 200000, 200001, []⟩, []⟩

/-- A client with the default gas limit `200000` and the gas prices
    `0atics,0.1tics`, as `WithTxGasPrices` accepts them. -/
def zeroPriceClient : Client :=
  (NewClient.WithTxGasPrices [⟨"atics", ⟨0⟩⟩, ⟨"tics", ⟨100000000000000000⟩⟩]).WithTxGas 200000

theorem zeroPriceClient_fees : calculateFees zeroPriceClient.txGasPrices zeroPriceClient.txGas =
    .ok [⟨"atics", 0⟩, ⟨"tics", 20000⟩] := by
  rw [calculateFees_eq _ (by decide)]
  · rfl
  · intro p hp
    simp only [zeroPriceClient, WithTxGas, WithTxGasPrices, List.mem_cons, List.mem_singleton,
      List.not_mem_nil, or_false] at hp
    rcases hp with rfl | rfl <;>
      exact ⟨by decide, by decide, Nat.lt_of_le_of_lt ((bitLen_le_iff _ 100).mpr (by decide)) (by decide)⟩

/-! ## Section 6: The submitted transaction -/

/-- **The submitted transaction.** Whatever the keyring, the codec and the
    node answer, if an attempt broadcasts `buf` then `buf` encodes the
    transaction the contract describes: for the `txFromName` key's address
    `addr` and public key `pk` and the account `acc` fetched at `addr` in
    this attempt, with the gas limit and fee the contract allows, and a
    signature that the keyring made under `txFromName` over the `DIRECT`
    sign bytes of that same transaction. -/
theorem broadcastTxSync_submits (c : Client) (env : Env) (msgs : List Msg) {buf : Bytes}
    (h : Call.broadcastTxSync buf ∈ (c.broadcastTxSync env msgs).calls) :
    ∃ key addr pk acc g fee sig signBytes pk',
      c.Key env c.txFromName = .ok (some key) ∧ key.address = .ok addr ∧ key.pubKey = .ok pk ∧
      Call.account addr ∈ (c.broadcastTxSync env msgs).calls ∧
      env.account addr = .ok (some acc) ∧
      GasSpec c env (c.broadcastTxSync env msgs).calls g ∧ FeeSpec c g fee ∧
      env.txConfig.txEncoder (specifiedTx c addr msgs pk acc g fee sig) = .ok buf ∧
      env.txConfig.GetSignBytes .direct ⟨c.rpcChainID, acc.accountNumber, acc.sequence⟩
        (specifiedTx c addr msgs pk acc g fee sig) = .ok signBytes ∧
      c.Sign env c.txFromName signBytes = .ok (sig, pk') := by
  unfold broadcastTxSync at h
  obtain ⟨key?, hK, h⟩ := NodeM.mem_bind_calls_of_not_mem h (by simp)
  obtain ⟨key, hkey, h⟩ := NodeM.mem_bind_calls_of_not_mem h (by simp)
  obtain ⟨addr, haddr, h⟩ := NodeM.mem_bind_calls_of_not_mem h (by simp)
  obtain ⟨_, hval, h⟩ := NodeM.mem_bind_calls_of_not_mem h (by simp)
  obtain ⟨acc?, hacc, h⟩ := NodeM.mem_bind_calls_of_not_mem h (by simp [Account])
  obtain ⟨acc, hacc', h⟩ := NodeM.mem_bind_calls_of_not_mem h (by simp)
  obtain ⟨txb, hprep, h⟩ := NodeM.mem_bind_calls_of_not_mem h
    (fun hm => by obtain ⟨_, hc⟩ := prepareTx_calls hm; cases hc)
  obtain ⟨txb', hsign, h⟩ := NodeM.mem_bind_calls_of_not_mem h (by simp)
  obtain ⟨buf', henc, h⟩ := NodeM.mem_bind_calls_of_not_mem h (by simp)
  obtain ⟨_, -, hbuf⟩ := NodeM.mem_bind_calls_of_not_mem h (by simp)
  clear h
  -- the attempt's account query and simulations are among its calls
  have hsub : ∀ call, call = .account addr ∨
      call ∈ (c.prepareTx env key acc (c.txMsgs addr msgs)).calls →
      call ∈ (c.broadcastTxSync env msgs).calls := by
    intro call hc
    unfold broadcastTxSync
    refine NodeM.mem_calls_of_bind_ok hK (NodeM.mem_calls_of_bind_ok hkey
      (NodeM.mem_calls_of_bind_ok haddr (NodeM.mem_calls_of_bind_ok hval ?_)))
    rcases hc with rfl | hc
    · exact NodeM.calls_subset_bind _ _ (by simp [Account])
    · exact NodeM.mem_calls_of_bind_ok hacc (NodeM.mem_calls_of_bind_ok hacc'
        (NodeM.calls_subset_bind _ _ hc))
  simp only [NodeM.offline_result, NodeM.errorf_result, Result.errorf_eq_ok,
    Result.ofExcept_eq_ok, Account, NodeM.call_result] at hK haddr hacc hprep hsign henc
  obtain rfl : key? = some key := by cases key? <;> simp at hkey ⊢; exact hkey
  obtain rfl : acc? = some acc := by cases acc? <;> simp at hacc' ⊢; exact hacc'
  obtain rfl : buf = buf' := by simpa using hbuf
  obtain ⟨pk, g, fee, hpk, hgas, hfee, rfl⟩ := prepareTx_spec hprep
  obtain ⟨pk₂, signBytes, sig, pk', hpk₂, hsb, hsig, rfl⟩ := signTx_spec hsign
  obtain rfl : pk = pk₂ := by rw [hpk] at hpk₂; exact Except.ok.inj hpk₂
  have htx : specifiedTx c addr msgs pk acc g fee sig =
      Tx.SetSignatures ⟨⟨c.txMsgs addr msgs, c.txMemo, c.txTimeoutHeight⟩,
        ⟨[Tx.signerInfoOf (placeholder pk acc)], ⟨fee, g, c.txFeeGranterAddr⟩⟩, [[]]⟩
        [⟨pk, ⟨.direct, sig⟩, acc.sequence⟩] := by
    unfold specifiedTx txMsgs
    cases c.txAuthzGranterAddr.Empty <;> rfl
  refine ⟨key, addr, pk, acc, g, fee, sig, signBytes, pk', hK, haddr, hpk, hsub _ (.inl rfl), hacc,
    hgas.mono fun call hc => hsub call (.inr hc), hfee, htx ▸ henc, ?_, hsig⟩
  rw [htx]
  exact (GetSignBytes_SetSignatures_congr _ _ _ rfl).trans hsb

/-- A `NewClient` attempt against the stub node submits the empty
    encoding. -/
theorem broadcastTxSync_submits_stub :
    ∃ key addr pk acc g fee sig signBytes pk',
      NewClient.Key (stubEnv (.ok acceptedResponse) (.error contextCanceled)) NewClient.txFromName =
        .ok (some key) ∧ key.address = .ok addr ∧ key.pubKey = .ok pk ∧
      Call.account addr ∈
        (NewClient.broadcastTxSync (stubEnv (.ok acceptedResponse) (.error contextCanceled)) []).calls ∧
      (stubEnv (.ok acceptedResponse) (.error contextCanceled)).account addr = .ok (some acc) ∧
      GasSpec NewClient (stubEnv (.ok acceptedResponse) (.error contextCanceled))
        (NewClient.broadcastTxSync (stubEnv (.ok acceptedResponse) (.error contextCanceled)) []).calls g ∧
      FeeSpec NewClient g fee ∧
      (stubEnv (.ok acceptedResponse) (.error contextCanceled)).txConfig.txEncoder
        (specifiedTx NewClient addr [] pk acc g fee sig) = .ok [] ∧
      (stubEnv (.ok acceptedResponse) (.error contextCanceled)).txConfig.GetSignBytes .direct
        ⟨NewClient.rpcChainID, acc.accountNumber, acc.sequence⟩
        (specifiedTx NewClient addr [] pk acc g fee sig) = .ok signBytes ∧
      NewClient.Sign (stubEnv (.ok acceptedResponse) (.error contextCanceled)) NewClient.txFromName
        signBytes = .ok (sig, pk') :=
  @broadcastTxSync_submits NewClient (stubEnv (.ok acceptedResponse) (.error contextCanceled)) [] []
    (by decide)

/-! ## Section 7: The fee -/

/-- **A zero gas price stays in the fee.** When the configured gas prices
    are not all zero, `prepareTx` installs one coin per price, so a price of
    zero for a denom puts a zero coin of that denom in the fee, at every
    gas limit. -/
theorem prepareTx_fee_has_zero_coin {c : Client} {env : Env} {key : Record} {acc : BaseAccount}
    {msgs : List Msg} {txb : Tx} (h : (c.prepareTx env key acc msgs).result = .ok txb)
    (hnz : c.txGasPrices.IsZero = false) {price : DecCoin} (hp : price ∈ c.txGasPrices)
    (h0 : price.amount.i = 0) : (⟨price.denom, 0⟩ : Coin) ∈ txb.authInfo.fee.amount := by
  obtain ⟨pk, g, fee, -, -, hfee, rfl⟩ := prepareTx_spec h
  rw [FeeSpec, hnz, if_neg Bool.false_ne_true] at hfee
  obtain ⟨coin, hmem, hcoin⟩ := calculateFees_mem hfee hp
  rw [priceFee_of_zero g h0, NewCoin] at hcoin
  split at hcoin
  · cases hcoin
  · cases hcoin
    exact hmem

/-- At gas limit `200000`, the prices `0atics,0.1tics` give the fee
    `0atics,20000tics`. -/
theorem prepareTx_fee_zero_atics :
    (zeroPriceClient.prepareTx (stubEnv (.ok acceptedResponse) (.error contextCanceled))
        ⟨"main", .ok ⟨.ethSecp256k1, []⟩, .ok [1]⟩ ⟨0, 0⟩ []).result =
      .ok ⟨⟨[], zeroPriceClient.txMemo, zeroPriceClient.txTimeoutHeight⟩,
        ⟨[Tx.signerInfoOf (placeholder ⟨.ethSecp256k1, []⟩ ⟨0, 0⟩)],
          ⟨[⟨"atics", 0⟩, ⟨"tics", 20000⟩], zeroPriceClient.txGas, zeroPriceClient.txFeeGranterAddr⟩⟩,
        [[]]⟩ ∧
    (⟨"atics", 0⟩ : Coin) ∈ [⟨"atics", 0⟩, ⟨"tics", 20000⟩] :=
  have h := @prepareTx_of_fees zeroPriceClient (stubEnv (.ok acceptedResponse) (.error contextCanceled))
    ⟨"main", .ok ⟨.ethSecp256k1, []⟩, .ok [1]⟩ ⟨0, 0⟩ [] ⟨.ethSecp256k1, []⟩ _ rfl (by decide)
    zeroPriceClient_fees rfl
  ⟨h, @prepareTx_fee_has_zero_coin zeroPriceClient _ _ _ _ _ h (by decide) ⟨"atics", ⟨0⟩⟩
    (by simp [zeroPriceClient, WithTxGas, WithTxGasPrices]) rfl⟩

end Client

end Qubetics
