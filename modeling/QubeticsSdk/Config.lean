import QubeticsSdk.Time.Duration
import QubeticsSdk.Core.Types

/-! # The SDK's configuration

    `Config` of package `config`: the keyring, log, query, RPC and
    transaction configurations, each with a `Validate` method and getters.
    Seven getters parse a field and panic on a value they cannot parse: four
    durations (`mustParseDuration`), two optional addresses
    (`mustAccAddress`) and the gas prices; `GetAddrs()[0]` panics on an
    empty list.

    Results: `Validate` checks what every one of these getters parses but
    three (`getters_of_Validate`): the transaction's two retry delays are
    never parsed by `TxConfig.Validate`, and empty gas prices are skipped.

    The libraries the configuration calls (bech32 addresses, decimal coins,
    `url.Parse`, `strconv.Atoi`) are a record of their answers, `Parsers`.
    A `float64` is its binary64 word, so that the sign check of
    `gas_adjustment` can be evaluated.
-/

namespace Qubetics.Config

/-! ## Section 1: Values and libraries -/

/-- A `float64`, as its IEEE 754 binary64 word: sign bit 63, an 11-bit
    exponent field and a 52-bit fraction. -/
structure Float64 where
  bits : UInt64
  deriving DecidableEq, Repr

/-- `x < 0`: the sign bit is set, the magnitude is not zero, and the word is
    not a NaN (above `0xFFF0000000000000`, which is `-Inf`). -/
def Float64.ltZero (x : Float64) : Bool :=
  2 ^ 63 < x.bits.toNat && x.bits.toNat ≤ 0xFFF0000000000000

/-- The value of the word as a Lean `Float`. -/
def Float64.toFloat (x : Float64) : Float :=
  let field : Nat := x.bits.toNat / 2 ^ 52 % 2 ^ 11
  let frac : Nat := x.bits.toNat % 2 ^ 52
  let mag : Float :=
    if field = 2047 then (if frac = 0 then 1 / 0 else 0 / 0)
    else if field = 0 then Float.ofBinaryScientific frac (-1074)
    else Float.ofBinaryScientific (2 ^ 52 + frac) ((field : Int) - 1075)
  if 2 ^ 63 ≤ x.bits.toNat then -mag else mag

/-- `url.URL`, through what `validateURL` reads; `Port` is `u.Port()`. -/
structure URL where
  Scheme : String
  Host : String
  Port : String

/-- What the libraries the configuration calls answer. -/
structure Parsers where
  /-- `types.AccAddressFromBech32(s)`. -/
  AccAddressFromBech32 : String → Except Error AccAddress
  /-- `types.ParseDecCoins(s)`. -/
  ParseDecCoins : String → Except Error DecCoins
  /-- `url.Parse(s)`. -/
  Parse : String → Except Error URL
  /-- `strconv.Atoi(s)`. -/
  Atoi : String → Except Error Int

variable (p : Parsers)

/-! ## Section 2: Checks and getters

    Each validator is a chain of checks, the first error ending it; each
    parsing getter panics with the error of the parse. -/

/-- `if cond { return errors.New(msg) }`. -/
def failIf (cond : Prop) [Decidable cond] (msg : String) : Option Error :=
  if cond then some (.new msg) else none

/-- The check of a duration field: `invalid field: err`. -/
def durationError (field s : String) : Option Error :=
  match Time.ParseDuration s with
  | .error err => some (.errorf ("invalid " ++ field ++ ": ") err)
  | .ok _ => none

/-- The check of an optional address field: `AccAddressFromBech32` when
    it is set. -/
def addrError (field s : String) : Option Error :=
  if s = "" then none
  else
    match p.AccAddressFromBech32 s with
    | .error err => some (.errorf ("invalid " ++ field ++ ": ") err)
    | .ok _ => none

/-- `v, err := parse(...); if err != nil { panic(err) }`. -/
def must {α : Type} : Except Error α → Result α
  | .ok a => .ok a
  | .error err => .panic err.text

/-- A getter of a duration field. -/
def mustParseDuration (s : String) : Result Duration := must (Time.ParseDuration s)

/-- A getter of an optional address field: `nil` when it is empty. -/
def mustAccAddress (s : String) : Result AccAddress :=
  if s = "" then .ok [] else must (p.AccAddressFromBech32 s)

/-- `xs[0]`. -/
def index0 {α : Type} : List α → Result α
  | [] => .panic "runtime error: index out of range [0] with length 0"
  | x :: _ => .ok x

@[simp] theorem failIf_eq_none {cond : Prop} [Decidable cond] {msg : String} :
    failIf cond msg = none ↔ ¬cond := by
  unfold failIf; split <;> simp_all

@[simp] theorem must_ok {α : Type} (a : α) : must (.ok a) = .ok a := rfl

@[simp] theorem must_error {α : Type} (e : Error) : must (.error e : Except Error α) = .panic e.text :=
  rfl

@[simp] theorem must_eq_ok {α : Type} {x : Except Error α} {a : α} : must x = .ok a ↔ x = .ok a := by
  cases x <;> simp [must]

theorem durationError_eq_none {field s : String} :
    durationError field s = none ↔ ∃ d, Time.ParseDuration s = .ok d := by
  unfold durationError; split <;> simp_all

theorem addrError_eq_none {field s : String} :
    addrError p field s = none ↔ s = "" ∨ ∃ a, p.AccAddressFromBech32 s = .ok a := by
  unfold addrError; split
  · simp_all
  · split <;> simp_all

/-- A duration getter returns what its check parsed. -/
theorem mustParseDuration_of_durationError {field s : String} (h : durationError field s = none) :
    ∃ d, Time.ParseDuration s = .ok d ∧ mustParseDuration s = .ok d := by
  obtain ⟨d, hd⟩ := durationError_eq_none.mp h
  exact ⟨d, hd, by rw [mustParseDuration, hd, must_ok]⟩

/-- An address getter returns what its check parsed. -/
theorem mustAccAddress_of_addrError {field s : String} (h : addrError p field s = none) :
    ∃ a, mustAccAddress p s = .ok a := by
  rcases (addrError_eq_none p).mp h with hs | ⟨a, ha⟩
  · exact ⟨[], by rw [mustAccAddress, if_pos hs]⟩
  · by_cases hs : s = ""
    · exact ⟨[], by rw [mustAccAddress, if_pos hs]⟩
    · exact ⟨a, by rw [mustAccAddress, if_neg hs, ha, must_ok]⟩

/-- A duration getter panics on exactly the text its parse cannot read. -/
theorem mustParseDuration_eq_panic {s msg : String} :
    mustParseDuration s = .panic msg ↔ ∃ e, Time.ParseDuration s = .error e ∧ e.text = msg := by
  unfold mustParseDuration
  cases Time.ParseDuration s <;> simp [must]

/-! ## Section 3: The sub-configurations -/

/-- `KeyringConfig`, without its `Input` reader. -/
structure KeyringConfig where
  Backend : String
  HomeDir : String
  Name : String

/-- The keys of `validBackends`. -/
def validBackends : List String := ["file", "kwallet", "memory", "os", "pass", "test"]

/-- `c.Validate()` of the keyring configuration. -/
def KeyringConfig.Validate (c : KeyringConfig) : Option Error :=
  failIf (c.Backend ∉ validBackends) "backend must be one of: file, kwallet, memory, os, pass, test" <|>
  failIf (c.Name = "") "name cannot be empty"

/-- `DefaultKeyringConfig()`. -/
def DefaultKeyringConfig : KeyringConfig := ⟨"test", "", "qubetics"⟩

/-- `LogConfig`. -/
structure LogConfig where
  Format : String
  Level : String

/-- The keys of `validFormats`. -/
def validFormats : List String := ["json", "text"]

/-- The keys of `validLevels`. -/
def validLevels : List String := ["debug", "error", "info", "warn"]

/-- `c.Validate()` of the log configuration. -/
def LogConfig.Validate (c : LogConfig) : Option Error :=
  failIf (c.Format ∉ validFormats) "format must be one of: json, text" <|>
  failIf (c.Level ∉ validLevels) "level must be one of: debug, error, info, warn"

/-- `DefaultLogConfig()`. -/
def DefaultLogConfig : LogConfig := ⟨"text", "info"⟩

/-- `QueryConfig`. -/
structure QueryConfig where
  Prove : Bool
  RetryAttempts : Nat
  RetryDelay : String

/-- `c.GetRetryDelay()`. -/
def QueryConfig.GetRetryDelay (c : QueryConfig) : Result Duration := mustParseDuration c.RetryDelay

/-- `c.Validate()` of the query configuration. -/
def QueryConfig.Validate (c : QueryConfig) : Option Error :=
  failIf (c.RetryAttempts = 0) "retry_attempts cannot be zero" <|>
  durationError "retry_delay" c.RetryDelay

/-- `DefaultQueryConfig()`. -/
def DefaultQueryConfig : QueryConfig := ⟨false, 5, "1s"⟩

/-- `RPCConfig`. -/
structure RPCConfig where
  Addrs : List String
  ChainID : String
  Timeout : String

/-- `c.GetAddrs()[0]`. -/
def RPCConfig.GetAddrs0 (c : RPCConfig) : Result String := index0 c.Addrs

/-- `c.GetTimeout()`. -/
def RPCConfig.GetTimeout (c : RPCConfig) : Result Duration := mustParseDuration c.Timeout

/-- `validateURL(s)`. -/
def validateURL (s : String) : Option Error :=
  match p.Parse s with
  | .error err => some (.errorf "invalid url: " err)
  | .ok u =>
    failIf (u.Scheme = "") "url must have a valid scheme" <|>
    failIf (u.Host = "") "url must have a valid host" <|>
    match p.Atoi u.Port with
    | .error err => some (.errorf "invalid port: " err)
    | .ok port => failIf (port < 1 ∨ port > 65535) "url must have a valid port"

/-- `c.Validate()` of the RPC configuration. -/
def RPCConfig.Validate (c : RPCConfig) : Option Error :=
  failIf (c.Addrs.length = 0) "addrs cannot be empty" <|>
  failIf (c.ChainID = "") "chain_id cannot be empty" <|>
  (c.Addrs.findSome? (validateURL p)).map (.errorf "invalid addr: ") <|>
  durationError "timeout" c.Timeout

/-- `DefaultRPCConfig()`. -/
def DefaultRPCConfig : RPCConfig := ⟨["https://rpc.qubetics.co:443"], "qubetics-2", "5s"⟩

/-- `TxConfig`. -/
structure TxConfig where
  AuthzGranterAddr : String
  BroadcastRetryAttempts : Nat
  BroadcastRetryDelay : String
  FeeGranterAddr : String
  FromName : String
  GasAdjustment : Float64
  GasPrices : String
  Gas : UInt64
  QueryRetryAttempts : Nat
  QueryRetryDelay : String
  SimulateAndExecute : Bool

/-- `c.GetAuthzGranterAddr()`. -/
def TxConfig.GetAuthzGranterAddr (c : TxConfig) : Result AccAddress :=
  mustAccAddress p c.AuthzGranterAddr

/-- `c.GetBroadcastRetryDelay()`. -/
def TxConfig.GetBroadcastRetryDelay (c : TxConfig) : Result Duration :=
  mustParseDuration c.BroadcastRetryDelay

/-- `c.GetFeeGranterAddr()`. -/
def TxConfig.GetFeeGranterAddr (c : TxConfig) : Result AccAddress :=
  mustAccAddress p c.FeeGranterAddr

/-- `c.GetGasPrices()`: `ParseDecCoins` of the field, empty or not. -/
def TxConfig.GetGasPrices (c : TxConfig) : Result DecCoins := must (p.ParseDecCoins c.GasPrices)

/-- `c.GetQueryRetryDelay()`. -/
def TxConfig.GetQueryRetryDelay (c : TxConfig) : Result Duration :=
  mustParseDuration c.QueryRetryDelay

/-- The check of the gas prices: `ParseDecCoins` when they are set. -/
def gasPricesError (s : String) : Option Error :=
  if s = "" then none
  else
    match p.ParseDecCoins s with
    | .error err => some (.errorf "invalid gas_prices: " err)
    | .ok _ => none

/-- `c.Validate()` of the transaction configuration: neither retry delay
    is checked. -/
def TxConfig.Validate (c : TxConfig) : Option Error :=
  addrError p "authz_granter_addr" c.AuthzGranterAddr <|>
  failIf (c.BroadcastRetryAttempts = 0) "broadcast_retry_attempts cannot be zero" <|>
  addrError p "fee_granter_addr" c.FeeGranterAddr <|>
  failIf (c.FromName = "") "from_name cannot be empty" <|>
  failIf (c.GasAdjustment.ltZero = true) "gas_adjustment cannot be negative" <|>
  gasPricesError p c.GasPrices <|>
  failIf (c.QueryRetryAttempts = 0) "query_retry_attempts cannot be zero"

/-- `DefaultTxConfig()`; the gas adjustment `1.0 + 1.0/6` is the word
    `0x3FF2AAAAAAAAAAAB`. -/
def DefaultTxConfig : TxConfig where
  AuthzGranterAddr := ""
  BroadcastRetryAttempts := 1
  BroadcastRetryDelay := "5s"
  FeeGranterAddr := ""
  FromName := "main"
  Gas := 200000
  GasAdjustment := ⟨0x3FF2AAAAAAAAAAAB⟩
  GasPrices := "0.1tics"
  QueryRetryAttempts := 30
  QueryRetryDelay := "1s"
  SimulateAndExecute := true

/-! ## Section 4: The configuration -/

section Config

set_option linter.dupNamespace false

/-- `Config`, its five sub-configurations set. -/
structure Config where
  Keyring : KeyringConfig
  Log : LogConfig
  Query : QueryConfig
  RPC : RPCConfig
  Tx : TxConfig

/-- `c.Validate()`: the sub-configurations in order, each error wrapped
    with its section. -/
def Config.Validate (c : Config) : Option Error :=
  c.Keyring.Validate.map (.errorf "invalid keyring: ") <|>
  c.Log.Validate.map (.errorf "invalid log: ") <|>
  c.Query.Validate.map (.errorf "invalid query: ") <|>
  (c.RPC.Validate p).map (.errorf "invalid rpc: ") <|>
  (c.Tx.Validate p).map (.errorf "invalid tx: ")

/-- `DefaultConfig()`. -/
def DefaultConfig : Config :=
  ⟨DefaultKeyringConfig, DefaultLogConfig, DefaultQueryConfig, DefaultRPCConfig, DefaultTxConfig⟩

theorem Config.Validate_eq_none {c : Config} :
    c.Validate p = none ↔ c.Keyring.Validate = none ∧ c.Log.Validate = none ∧
      c.Query.Validate = none ∧ c.RPC.Validate p = none ∧ c.Tx.Validate p = none := by
  simp only [Config.Validate, Option.orElse_eq_none, Option.map_eq_none']

end Config

/-! ## Section 5: What `Validate` gives the getters -/

/-- **A valid configuration's checked getters return.** The query delay,
    the first RPC address, the RPC timeout and both granter addresses parse,
    and so do the gas prices when they are set. -/
theorem getters_of_Validate {c : Config} (h : c.Validate p = none) :
    (∃ d, c.Query.GetRetryDelay = .ok d) ∧ (∃ a, c.RPC.GetAddrs0 = .ok a) ∧
      (∃ d, Time.ParseDuration c.RPC.Timeout = .ok d ∧ c.RPC.GetTimeout = .ok d) ∧
      (∃ a, c.Tx.GetAuthzGranterAddr p = .ok a) ∧ (∃ a, c.Tx.GetFeeGranterAddr p = .ok a) ∧
      (c.Tx.GasPrices ≠ "" → ∃ g, c.Tx.GetGasPrices p = .ok g) := by
  obtain ⟨-, -, hq, hr, ht⟩ := (Config.Validate_eq_none p).mp h
  simp only [QueryConfig.Validate, RPCConfig.Validate, TxConfig.Validate, Option.orElse_eq_none,
    failIf_eq_none] at hq hr ht
  refine ⟨(mustParseDuration_of_durationError hq.2).imp fun _ hd => hd.2, ?_,
    mustParseDuration_of_durationError hr.2.2.2, mustAccAddress_of_addrError p ht.1,
    mustAccAddress_of_addrError p ht.2.2.1, fun hg => ?_⟩
  · cases hc : c.RPC.Addrs with
    | nil => exact absurd (by simp [hc]) hr.1
    | cons a _ => exact ⟨a, by rw [RPCConfig.GetAddrs0, hc]; rfl⟩
  · have hgp := ht.2.2.2.2.2.1
    rw [gasPricesError, if_neg hg] at hgp
    cases hp : p.ParseDecCoins c.Tx.GasPrices with
    | error err => rw [hp] at hgp; cases hgp
    | ok g => exact ⟨g, by rw [TxConfig.GetGasPrices, hp, must_ok]⟩

/-- `TxConfig.Validate` does not read the two retry delays. -/
theorem TxConfig.Validate_retry_delays (c : TxConfig) (b q : String) :
    ({ c with BroadcastRetryDelay := b, QueryRetryDelay := q } : TxConfig).Validate p = c.Validate p :=
  rfl

/-! ## Section 6: The default configuration -/

theorem ParseDuration_one_second : Time.ParseDuration "1s" = .ok 1000000000 :=
  Time.ParseDuration_of_segment rfl (by decide) (by decide) (by decide) rfl (by decide)

theorem ParseDuration_five_seconds : Time.ParseDuration "5s" = .ok 5000000000 :=
  Time.ParseDuration_of_segment rfl (by decide) (by decide) (by decide) rfl (by decide)

/-- **The default configuration passes its own checks**, given what the
    libraries answer on its values. -/
theorem DefaultConfig_Validate
    (hurl : p.Parse "https://rpc.qubetics.co:443" = .ok ⟨"https", "rpc.qubetics.co:443", "443"⟩)
    (hport : p.Atoi "443" = .ok 443) {g : DecCoins} (hgas : p.ParseDecCoins "0.1tics" = .ok g) :
    DefaultConfig.Validate p = none := by
  rw [Config.Validate_eq_none]
  refine ⟨?_, ?_, ?_, ?_, ?_⟩
  · show DefaultKeyringConfig.Validate = none
    decide
  · show DefaultLogConfig.Validate = none
    decide
  · simp [DefaultConfig, QueryConfig.Validate, DefaultQueryConfig, durationError,
      ParseDuration_one_second]
  · simp [DefaultConfig, RPCConfig.Validate, DefaultRPCConfig, validateURL, hurl, hport,
      durationError, ParseDuration_five_seconds]
  · show DefaultTxConfig.Validate p = none
    simp only [TxConfig.Validate, Option.orElse_eq_none]
    refine ⟨rfl, by decide, rfl, by decide, by decide, ?_, by decide⟩
    simp [gasPricesError, DefaultTxConfig, hgas]

end Qubetics.Config
