import QubeticsSdk.Config
import QubeticsSdk.Core.Client
import QubeticsSdk.Core.Fees

/-! # The client built from the configuration

    `core.NewClientFromConfig` builds the transaction client with the chain
    of `With*` setters, each value read by a getter of the configuration in
    the order of the chain, and then sets up the keyring (`SetupKeyring`).
    The RPC client that `Client.HTTP` builds from it gets the RPC timeout in
    whole seconds, which CometBFT's `http.NewWithTimeout` turns back into
    the timeout of a request (`requestTimeout`).

    Results:
    * on a valid configuration the constructor panics exactly when one of
      the three values `Validate` does not check fails to parse
      (`NewClientFromConfig_panics_iff`);
    * the request timeout is the configured timeout truncated to whole
      seconds, so that a timeout under a second sets none
      (`HTTP_request_timeout`).

    The model's `Client` keeps neither the keyring nor the query retry
    settings; `keyring.New` and `KeyByAddress` are answers of `Keyring`.
-/

namespace Qubetics

/-! ## Section 1: The keyring -/

/-- What the keyring library answers. -/
structure Keyring where
  /-- `keyring.New(name, backend, homeDir, input, codec)`: its error, or
      `nil`. -/
  New : String → String → String → Option Error
  /-- `kr.KeyByAddress(addr)`. -/
  KeyByAddress : AccAddress → Except Error Record

namespace Client

/-- `c.SetupKeyring(cfg)`. -/
def SetupKeyring (kr : Keyring) (cfg : Config.KeyringConfig) : Option Error :=
  (kr.New cfg.Name cfg.Backend cfg.HomeDir).map (.errorf "failed to create keyring: ")

/-- `c.KeyForAddr(addr)`. -/
def KeyForAddr (kr : Keyring) (addr : AccAddress) : Result Record :=
  (Result.ofExcept (kr.KeyByAddress addr)).errorf "failed to get key for addr from keyring: "

end Client

/-! ## Section 2: The constructor -/

variable (p : Config.Parsers) (kr : Keyring)

/-- `core.NewClientFromConfig(c)`. The getters run in the order of the
    chain; the query retry settings, which the model's client does not
    keep, are read for their panics only. -/
def NewClientFromConfig (c : Config.Config) : Result Client := do
  let _ ← c.Query.GetRetryDelay
  let rpcAddr ← c.RPC.GetAddrs0
  let rpcTimeout ← c.RPC.GetTimeout
  let authzGranterAddr ← c.Tx.GetAuthzGranterAddr p
  let broadcastRetryDelay ← c.Tx.GetBroadcastRetryDelay
  let feeGranterAddr ← c.Tx.GetFeeGranterAddr p
  let gasPrices ← c.Tx.GetGasPrices p
  let queryRetryDelay ← c.Tx.GetQueryRetryDelay
  let v := NewClient
    |>.WithQueryProve c.Query.Prove
    |>.WithRPCAddr rpcAddr
    |>.WithRPCChainID c.RPC.ChainID
    |>.WithRPCTimeout rpcTimeout
    |>.WithTxAuthzGranterAddr authzGranterAddr
    |>.WithTxBroadcastRetryAttempts c.Tx.BroadcastRetryAttempts
    |>.WithTxBroadcastRetryDelay broadcastRetryDelay
    |>.WithTxFeeGranterAddr feeGranterAddr
    |>.WithTxFees []
    |>.WithTxFromName c.Tx.FromName
    |>.WithTxGasAdjustment c.Tx.GasAdjustment.toFloat
    |>.WithTxGas c.Tx.Gas
    |>.WithTxGasPrices gasPrices
    |>.WithTxMemo ""
    |>.WithTxQueryRetryAttempts c.Tx.QueryRetryAttempts
    |>.WithTxQueryRetryDelay queryRetryDelay
    |>.WithTxSimulateAndExecute c.Tx.SimulateAndExecute
    |>.WithTxTimeoutHeight 0
  match Client.SetupKeyring kr c.Keyring with
  | some err => .err (.errorf "failed to setup keyring: " err)
  | none => pure v

/-- The values `Validate` does not check: one of them fails to parse. -/
def UncheckedFails (c : Config.Config) : Prop :=
  (∃ e, Time.ParseDuration c.Tx.BroadcastRetryDelay = .error e) ∨
    (∃ e, p.ParseDecCoins c.Tx.GasPrices = .error e) ∨
    (∃ e, Time.ParseDuration c.Tx.QueryRetryDelay = .error e)

theorem SetupKeyring_ne_panic {c : Config.Config} {v : Client} {msg : String} :
    (match Client.SetupKeyring kr c.Keyring with
      | some err => Result.err (.errorf "failed to setup keyring: " err)
      | none => pure v) ≠ .panic msg := by
  split <;> simp [pure]

/-- **On a valid configuration the constructor panics exactly on the
    values `Validate` does not check.** -/
theorem NewClientFromConfig_panics_iff {c : Config.Config} (h : c.Validate p = none) :
    (∃ msg, NewClientFromConfig p kr c = .panic msg) ↔ UncheckedFails p c := by
  obtain ⟨⟨d1, hq⟩, ⟨a, ha⟩, ⟨d2, -, ht⟩, ⟨g1, hg1⟩, ⟨g2, hg2⟩, -⟩ :=
    Config.getters_of_Validate p h
  simp only [NewClientFromConfig, hq, ha, ht, hg1, hg2, Result.ok_bind, UncheckedFails,
    Config.TxConfig.GetBroadcastRetryDelay, Config.TxConfig.GetGasPrices,
    Config.TxConfig.GetQueryRetryDelay, Config.mustParseDuration]
  cases Time.ParseDuration c.Tx.BroadcastRetryDelay <;>
  cases p.ParseDecCoins c.Tx.GasPrices <;>
  cases Time.ParseDuration c.Tx.QueryRetryDelay <;>
  simp [SetupKeyring_ne_panic]

/-- The RPC timeout of a built client is the configured one. -/
theorem NewClientFromConfig_rpcTimeout {c : Config.Config} {cc : Client}
    (h : NewClientFromConfig p kr c = .ok cc) :
    ∃ d : Int, Time.ParseDuration c.RPC.Timeout = .ok d ∧ cc.rpcTimeout = d := by
  obtain ⟨_, -, h⟩ := Result.bind_eq_ok h
  obtain ⟨_, -, h⟩ := Result.bind_eq_ok h
  obtain ⟨d, hd, h⟩ := Result.bind_eq_ok h
  repeat obtain ⟨_, -, h⟩ := Result.bind_eq_ok h
  refine ⟨d, Config.must_eq_ok.mp hd, ?_⟩
  split at h
  · cases h
  · cases h; rfl

/-- **A valid configuration whose unchecked values parse builds a client**
    once the keyring opens. -/
theorem NewClientFromConfig_ok {c : Config.Config} (h : c.Validate p = none)
    (hu : ¬UncheckedFails p c) (hk : Client.SetupKeyring kr c.Keyring = none) :
    ∃ cc, NewClientFromConfig p kr c = .ok cc := by
  obtain ⟨⟨d1, hq⟩, ⟨a, ha⟩, ⟨d2, -, ht⟩, ⟨g1, hg1⟩, ⟨g2, hg2⟩, -⟩ :=
    Config.getters_of_Validate p h
  simp only [UncheckedFails, not_or, not_exists] at hu
  simp only [NewClientFromConfig, hq, ha, ht, hg1, hg2, hk, Result.ok_bind,
    Config.TxConfig.GetBroadcastRetryDelay, Config.TxConfig.GetGasPrices,
    Config.TxConfig.GetQueryRetryDelay, Config.mustParseDuration]
  cases hb : Time.ParseDuration c.Tx.BroadcastRetryDelay <;>
  cases hg : p.ParseDecCoins c.Tx.GasPrices <;>
  cases hq : Time.ParseDuration c.Tx.QueryRetryDelay <;>
  simp_all [pure]

/-- On a valid configuration, a broadcast retry delay that does not parse
    is the constructor's panic: it is the first unchecked getter. -/
theorem NewClientFromConfig_of_broadcastRetryDelay {c : Config.Config} (h : c.Validate p = none)
    {e : Error} (he : Time.ParseDuration c.Tx.BroadcastRetryDelay = .error e) :
    NewClientFromConfig p kr c = .panic e.text := by
  obtain ⟨⟨d1, hq⟩, ⟨a, ha⟩, ⟨d2, -, ht⟩, ⟨g1, hg1⟩, -, -⟩ := Config.getters_of_Validate p h
  simp only [NewClientFromConfig, hq, ha, ht, hg1, Result.ok_bind,
    Config.TxConfig.GetBroadcastRetryDelay, Config.mustParseDuration, he, Config.must_error,
    Result.panic_bind]

/-! ## Section 3: The libraries on the default configuration -/

/-- What the libraries answer on the values of the default configuration:
    `ParseDecCoins` reads `0.1tics` and gives no coins for the empty text,
    `url.Parse` splits the default RPC address and `Atoi` reads its port. -/
def defaultParsers : Config.Parsers where
  AccAddressFromBech32 _ := .error (.new "decoding bech32 failed")
  ParseDecCoins s :=
    if s = "" then .ok []
    else if s = "0.1tics" then .ok [⟨"tics", ⟨100000000000000000⟩⟩]
    else .error (.new ("invalid decimal coin expression: " ++ s))
  Parse s :=
    if s = "https://rpc.qubetics.co:443" then .ok ⟨"https", "rpc.qubetics.co:443", "443"⟩
    else .error (.new "invalid URL escape")
  Atoi s :=
    if s = "443" then .ok 443
    else .error (.new ("strconv.Atoi: parsing " ++ "\"" ++ s ++ "\"" ++ ": invalid syntax"))

/-- A keyring that opens and holds no key. -/
def emptyKeyring : Keyring := ⟨fun _ _ _ => none, fun _ => .error ErrKeyNotFound⟩

theorem defaultParsers_Validate : Config.DefaultConfig.Validate defaultParsers = none :=
  Config.DefaultConfig_Validate defaultParsers rfl rfl rfl

theorem DefaultConfig_UncheckedFails : ¬UncheckedFails defaultParsers Config.DefaultConfig := by
  simp [UncheckedFails, Config.DefaultConfig, Config.DefaultTxConfig, defaultParsers,
    Config.ParseDuration_one_second, Config.ParseDuration_five_seconds]

/-! ## Section 4: The request timeout -/

/-- Go's conversion of an integer to `int64`: the low 64 bits read in two's
    complement. -/
def wrapInt64 (x : Int) : Int := (x + 2 ^ 63) % 2 ^ 64 - 2 ^ 63

/-- The timeout of a request of the HTTP client that CometBFT's
    `http.NewWithTimeout(remote, wsEndpoint, timeout)` builds:
    `time.Duration(timeout) * time.Second`, in nanoseconds. Zero or less
    sets none. -/
def requestTimeout (timeout : Nat) : Int :=
  wrapInt64 (int64OfUInt64 (UInt64.ofNat timeout) * 1000000000)

/-- Go's `/` truncates toward zero. -/
theorem tdiv_second (d : Int) :
    d.tdiv 1000000000 = if 0 ≤ d then d / 1000000000 else -((-d) / 1000000000) := by
  split
  · exact Int.tdiv_eq_ediv (by assumption) (by decide)
  · rw [← Int.tdiv_eq_ediv (by omega) (by decide), Int.neg_tdiv, Int.neg_neg]

/-- A whole number of seconds in `int64` range goes through `uint` and
    back to the same request timeout. -/
theorem requestTimeout_of_seconds {s : Int} (hlo : -9223372037 < s) (hhi : s < 9223372037) :
    requestTimeout (s % 2 ^ 64).toNat = s * 1000000000 := by
  have hn : (((s % 2 ^ 64).toNat : Nat) : Int) = s % 2 ^ 64 :=
    Int.toNat_of_nonneg (Int.emod_nonneg _ (by decide))
  have hlt : (s % 2 ^ 64).toNat < 2 ^ 64 := by omega
  have hu : (UInt64.ofNat (s % 2 ^ 64).toNat).toNat = (s % 2 ^ 64).toNat :=
    UInt64.toNat_ofNat_of_lt hlt
  have hi : int64OfUInt64 (UInt64.ofNat (s % 2 ^ 64).toNat) = s := by
    unfold int64OfUInt64
    rw [hu]
    split <;> omega
  rw [requestTimeout, hi, wrapInt64]
  omega

/-- **The request timeout is the RPC timeout truncated to whole
    seconds.** It is positive exactly when the configured timeout is at
    least a second, and then it is at most the configured timeout and less
    than a second below it. -/
theorem HTTP_request_timeout {c : Config.Config} {cc : Client}
    (h : NewClientFromConfig p kr c = .ok cc) :
    ∃ (d : Int) (t : Nat), Time.ParseDuration c.RPC.Timeout = .ok d ∧
      (∀ env, cc.HTTP env = .ofExcept (env.newWithTimeout cc.rpcAddr "/websocket" t)) ∧
      requestTimeout t = d.tdiv 1000000000 * 1000000000 ∧
      (0 < requestTimeout t ↔ 1000000000 ≤ d) ∧
      (0 < requestTimeout t → requestTimeout t ≤ d ∧ d < requestTimeout t + 1000000000) := by
  obtain ⟨d, hd, hcc⟩ := NewClientFromConfig_rpcTimeout p kr h
  have hb := Time.ParseDuration_bounds hd
  have hs : -9223372037 < d.tdiv 1000000000 ∧ d.tdiv 1000000000 < 9223372037 := by
    rw [tdiv_second]; split <;> omega
  have hr := requestTimeout_of_seconds hs.1 hs.2
  refine ⟨d, _, hd, fun env => by rw [Client.HTTP, hcc], hr, ?_, ?_⟩ <;>
    rw [hr, tdiv_second] <;> split <;> omega

theorem HTTP_request_timeout_default :
    ∃ cc, NewClientFromConfig defaultParsers emptyKeyring Config.DefaultConfig = .ok cc ∧
      ∃ (d : Int) (t : Nat), Time.ParseDuration "5s" = .ok d ∧
        (∀ env, cc.HTTP env = .ofExcept (env.newWithTimeout cc.rpcAddr "/websocket" t)) ∧
        requestTimeout t = d.tdiv 1000000000 * 1000000000 ∧
        (0 < requestTimeout t ↔ 1000000000 ≤ d) ∧
        (0 < requestTimeout t → requestTimeout t ≤ d ∧ d < requestTimeout t + 1000000000) := by
  obtain ⟨cc, h⟩ := NewClientFromConfig_ok defaultParsers emptyKeyring defaultParsers_Validate
    DefaultConfig_UncheckedFails rfl
  exact ⟨cc, h, HTTP_request_timeout defaultParsers emptyKeyring h⟩

/-- The default configuration with an RPC timeout of half a second. -/
def halfSecondConfig : Config.Config :=
  { Config.DefaultConfig with RPC := { Config.DefaultRPCConfig with Timeout := "500ms" } }

theorem ParseDuration_half_second : Time.ParseDuration "500ms" = .ok 500000000 :=
  Time.ParseDuration_of_segment rfl (by decide) (by decide) (by decide) rfl (by decide)

/-- A timeout of half a second passes `Validate` and gives the RPC client
    no request timeout: `Client.HTTP` passes zero seconds. -/
theorem HTTP_half_second_timeout :
    halfSecondConfig.Validate defaultParsers = none ∧
      ∃ cc, NewClientFromConfig defaultParsers emptyKeyring halfSecondConfig = .ok cc ∧
        cc.rpcTimeout = 500000000 ∧
        (∀ env, cc.HTTP env = .ofExcept (env.newWithTimeout cc.rpcAddr "/websocket" 0)) ∧
        requestTimeout 0 = 0 := by
  have hv : halfSecondConfig.Validate defaultParsers = none := by
    have h := (Config.Config.Validate_eq_none defaultParsers).mp defaultParsers_Validate
    refine (Config.Config.Validate_eq_none defaultParsers).mpr ⟨h.1, h.2.1, h.2.2.1, ?_, h.2.2.2.2⟩
    simp [halfSecondConfig, Config.RPCConfig.Validate, Config.DefaultRPCConfig, Config.validateURL,
      defaultParsers, Config.durationError, ParseDuration_half_second]
  have hu : ¬UncheckedFails defaultParsers halfSecondConfig := DefaultConfig_UncheckedFails
  obtain ⟨cc, h⟩ := NewClientFromConfig_ok defaultParsers emptyKeyring hv hu rfl
  obtain ⟨d, hd, hcc⟩ := NewClientFromConfig_rpcTimeout defaultParsers emptyKeyring h
  rw [show halfSecondConfig.RPC.Timeout = "500ms" from rfl, ParseDuration_half_second] at hd
  cases hd
  exact ⟨hv, cc, h, hcc, fun env => by rw [Client.HTTP, hcc]; rfl, by decide⟩

end Qubetics
