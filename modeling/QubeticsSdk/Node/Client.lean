import QubeticsSdk.Core.Setup

/-! # The node client built from the configuration

    `NewClientFromConfig` of package `node` wraps the transaction client
    that `core.NewClientFromConfig` builds, takes the name of the authz
    granter's key as the sender when the configuration names a granter, and
    keeps the RPC timeout as its own.

    Result: `Validate` checks neither the transaction's retry delays nor
    empty gas prices, so on a valid configuration both constructors panic
    exactly when one of these fails to parse
    (`NewClientFromConfig_panics_iff_unchecked`); the default configuration
    with an empty broadcast retry delay is one
    (`NewClientFromConfig_panics_on_empty_delay`).
-/

namespace Qubetics.Node

/-! ## Section 1: The node client -/

/-- `node.Client`; `core` is the embedded `*core.Client`, and `addr` the
    node's address, empty for `nil`. -/
structure Client where
  core : Qubetics.Client
  addr : Bytes
  fromName : String
  insecure : Bool
  timeout : Duration

/-- `NewClient(c)`. -/
def NewClient (c : Qubetics.Client) : Client := ⟨c, [], "", false, 0⟩

namespace Client

/-- `WithAddr(addr)`. -/
def WithAddr (c : Client) (addr : Bytes) : Client := { c with addr := addr }
/-- `WithFromName(fromName)`. -/
def WithFromName (c : Client) (fromName : String) : Client := { c with fromName := fromName }
/-- `WithInsecure(insecure)`. -/
def WithInsecure (c : Client) (insecure : Bool) : Client := { c with insecure := insecure }
/-- `WithTimeout(timeout)`. -/
def WithTimeout (c : Client) (timeout : Duration) : Client := { c with timeout := timeout }

end Client

variable (p : Config.Parsers) (kr : Keyring)

/-- `NewClientFromConfig(c)` of package `node`. -/
def NewClientFromConfig (c : Config.Config) : Result Client := do
  let cc ← (Qubetics.NewClientFromConfig p kr c).errorf "failed to create client: "
  let addr ← c.Tx.GetAuthzGranterAddr p
  let fromName ←
    if !AccAddress.Empty addr then do
      let key ← (Qubetics.Client.KeyForAddr kr addr).errorf "failed to get key for addr: "
      pure key.name
    else pure c.Tx.FromName
  let timeout ← c.RPC.GetTimeout
  pure (NewClient cc |>.WithAddr [] |>.WithFromName fromName |>.WithInsecure false
    |>.WithTimeout timeout)

/-! ## Section 2: Panics -/

/-- On a valid configuration, the node constructor panics exactly when the
    transaction client's constructor does, with the same message. -/
theorem NewClientFromConfig_panic_iff_core {c : Config.Config} (h : c.Validate p = none)
    {msg : String} :
    NewClientFromConfig p kr c = .panic msg ↔ Qubetics.NewClientFromConfig p kr c = .panic msg := by
  obtain ⟨-, -, ⟨d, -, ht⟩, ⟨a, ha⟩, -, -⟩ := Config.getters_of_Validate p h
  unfold NewClientFromConfig
  cases Qubetics.NewClientFromConfig p kr c with
  | ok cc =>
    simp only [Result.errorf_ok, Result.ok_bind, ha, ht, reduceCtorEq, iff_false]
    split
    · unfold Qubetics.Client.KeyForAddr
      cases kr.KeyByAddress a <;> simp [pure]
    · simp [pure]
  | err e => simp
  | panic m => simp

/-- **On a valid configuration, both constructors panic exactly when one
    of the values `Validate` does not check fails to parse**: the broadcast
    retry delay, the gas prices or the transaction's query retry delay. -/
theorem NewClientFromConfig_panics_iff_unchecked {c : Config.Config} (h : c.Validate p = none) :
    ((∃ msg, Qubetics.NewClientFromConfig p kr c = .panic msg) ↔ UncheckedFails p c) ∧
      ((∃ msg, NewClientFromConfig p kr c = .panic msg) ↔ UncheckedFails p c) := by
  have hcore := Qubetics.NewClientFromConfig_panics_iff p kr h
  refine ⟨hcore, ?_⟩
  simp only [NewClientFromConfig_panic_iff_core p kr h, hcore]

theorem NewClientFromConfig_panics_iff_unchecked_default :
    Config.DefaultConfig.Validate defaultParsers = none ∧
      ((∃ msg, Qubetics.NewClientFromConfig defaultParsers emptyKeyring
          Config.DefaultConfig = .panic msg) ↔
        UncheckedFails defaultParsers Config.DefaultConfig) ∧
      ((∃ msg, NewClientFromConfig defaultParsers emptyKeyring Config.DefaultConfig =
          .panic msg) ↔ UncheckedFails defaultParsers Config.DefaultConfig) :=
  ⟨defaultParsers_Validate,
    NewClientFromConfig_panics_iff_unchecked defaultParsers emptyKeyring defaultParsers_Validate⟩

/-- The default configuration with an empty broadcast retry delay. -/
def emptyDelayConfig : Config.Config :=
  { Config.DefaultConfig with
    Tx := { Config.DefaultTxConfig with BroadcastRetryDelay := "" } }

/-- An empty broadcast retry delay passes `Validate`, and both
    constructors panic on it. -/
theorem NewClientFromConfig_panics_on_empty_delay :
    emptyDelayConfig.Validate defaultParsers = none ∧
      Qubetics.NewClientFromConfig defaultParsers emptyKeyring emptyDelayConfig =
        .panic "time: invalid duration \"\"" ∧
      NewClientFromConfig defaultParsers emptyKeyring emptyDelayConfig =
        .panic "time: invalid duration \"\"" := by
  have hv : emptyDelayConfig.Validate defaultParsers = none := defaultParsers_Validate
  have hcore := Qubetics.NewClientFromConfig_of_broadcastRetryDelay defaultParsers emptyKeyring hv
    (e := Time.errInvalid "") rfl
  exact ⟨hv, hcore, (NewClientFromConfig_panic_iff_core defaultParsers emptyKeyring hv).mpr hcore⟩

end Qubetics.Node
