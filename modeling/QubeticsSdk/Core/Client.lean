import QubeticsSdk.Core.Fees
import QubeticsSdk.Core.TxBuilder

/-! # The client and its collaborators

    `core.Client` holds the configuration of the transaction client; it is
    built by `NewClient` and the chained `With*` setters, each of which
    accepts any value (`reachable_all`). The keyring, the codec and the node
    are collaborators: `Env` collects what they answer during one attempt,
    and `NodeM` is a computation against them that records each network
    call it makes (account query, simulation, broadcast, transaction query)
    before it returns, fails or panics.
-/

namespace Qubetics

/-! ## Section 1: The client -/

/-- `core.Client`, through the fields the modelled functions read. -/
structure Client where
  queryProve : Bool
  rpcAddr : String
  rpcChainID : String
  rpcTimeout : Duration
  txAuthzGranterAddr : AccAddress
  txBroadcastRetryAttempts : Nat
  txBroadcastRetryDelay : Duration
  txFeeGranterAddr : AccAddress
  txFees : Coins
  txFromName : String
  txGasAdjustment : Float
  txGasPrices : DecCoins
  txGas : UInt64
  txMemo : String
  txQueryRetryAttempts : Nat
  txQueryRetryDelay : Duration
  txSimulateAndExecute : Bool
  txTimeoutHeight : UInt64

/-- `NewClient()`: every field at Go's zero value. -/
def NewClient : Client where
  queryProve := false
  rpcAddr := ""
  rpcChainID := ""
  rpcTimeout := 0
  txAuthzGranterAddr := []
  txBroadcastRetryAttempts := 0
  txBroadcastRetryDelay := 0
  txFeeGranterAddr := []
  txFees := []
  txFromName := ""
  txGasAdjustment := 0
  txGasPrices := []
  txGas := 0
  txMemo := ""
  txQueryRetryAttempts := 0
  txQueryRetryDelay := 0
  txSimulateAndExecute := false
  txTimeoutHeight := 0

namespace Client

/-- `WithQueryProve(prove)`. -/
def WithQueryProve (c : Client) (prove : Bool) : Client := { c with queryProve := prove }
/-- `WithRPCAddr(rpcAddr)`. -/
def WithRPCAddr (c : Client) (rpcAddr : String) : Client := { c with rpcAddr := rpcAddr }
/-- `WithRPCChainID(chainID)`. -/
def WithRPCChainID (c : Client) (chainID : String) : Client := { c with rpcChainID := chainID }
/-- `WithRPCTimeout(timeout)`. -/
def WithRPCTimeout (c : Client) (timeout : Duration) : Client := { c with rpcTimeout := timeout }
/-- `WithTxAuthzGranterAddr(addr)`. -/
def WithTxAuthzGranterAddr (c : Client) (addr : AccAddress) : Client :=
  { c with txAuthzGranterAddr := addr }
/-- `WithTxBroadcastRetryAttempts(attempts)`. -/
def WithTxBroadcastRetryAttempts (c : Client) (attempts : Nat) : Client :=
  { c with txBroadcastRetryAttempts := attempts }
/-- `WithTxBroadcastRetryDelay(delay)`. -/
def WithTxBroadcastRetryDelay (c : Client) (delay : Duration) : Client :=
  { c with txBroadcastRetryDelay := delay }
/-- `WithTxFeeGranterAddr(addr)`. -/
def WithTxFeeGranterAddr (c : Client) (addr : AccAddress) : Client :=
  { c with txFeeGranterAddr := addr }
/-- `WithTxFees(fees)`. -/
def WithTxFees (c : Client) (fees : Coins) : Client := { c with txFees := fees }
/-- `WithTxFromName(name)`. -/
def WithTxFromName (c : Client) (name : String) : Client := { c with txFromName := name }
/-- `WithTxGasAdjustment(adjustment)`. -/
def WithTxGasAdjustment (c : Client) (adjustment : Float) : Client :=
  { c with txGasAdjustment := adjustment }
/-- `WithTxGasPrices(prices)`. -/
def WithTxGasPrices (c : Client) (prices : DecCoins) : Client := { c with txGasPrices := prices }
/-- `WithTxGas(gas)`. -/
def WithTxGas (c : Client) (gas : UInt64) : Client := { c with txGas := gas }
/-- `WithTxMemo(memo)`. -/
def WithTxMemo (c : Client) (memo : String) : Client := { c with txMemo := memo }
/-- `WithTxQueryRetryAttempts(attempts)`. -/
def WithTxQueryRetryAttempts (c : Client) (attempts : Nat) : Client :=
  { c with txQueryRetryAttempts := attempts }
/-- `WithTxQueryRetryDelay(delay)`. -/
def WithTxQueryRetryDelay (c : Client) (delay : Duration) : Client :=
  { c with txQueryRetryDelay := delay }
/-- `WithTxSimulateAndExecute(simulate)`. -/
def WithTxSimulateAndExecute (c : Client) (simulate : Bool) : Client :=
  { c with txSimulateAndExecute := simulate }
/-- `WithTxTimeoutHeight(height)`. -/
def WithTxTimeoutHeight (c : Client) (height : UInt64) : Client :=
  { c with txTimeoutHeight := height }

end Client

/-- A `With*` setter of the client, with the value it is called with. -/
inductive Setter where
  | WithQueryProve (v : Bool)
  | WithRPCAddr (v : String)
  | WithRPCChainID (v : String)
  | WithRPCTimeout (v : Duration)
  | WithTxAuthzGranterAddr (v : AccAddress)
  | WithTxBroadcastRetryAttempts (v : Nat)
  | WithTxBroadcastRetryDelay (v : Duration)
  | WithTxFeeGranterAddr (v : AccAddress)
  | WithTxFees (v : Coins)
  | WithTxFromName (v : String)
  | WithTxGasAdjustment (v : Float)
  | WithTxGasPrices (v : DecCoins)
  | WithTxGas (v : UInt64)
  | WithTxMemo (v : String)
  | WithTxQueryRetryAttempts (v : Nat)
  | WithTxQueryRetryDelay (v : Duration)
  | WithTxSimulateAndExecute (v : Bool)
  | WithTxTimeoutHeight (v : UInt64)

/-- Call the setter on a client. -/
def Setter.apply : Setter → Client → Client
  | .WithQueryProve v, c => c.WithQueryProve v
  | .WithRPCAddr v, c => c.WithRPCAddr v
  | .WithRPCChainID v, c => c.WithRPCChainID v
  | .WithRPCTimeout v, c => c.WithRPCTimeout v
  | .WithTxAuthzGranterAddr v, c => c.WithTxAuthzGranterAddr v
  | .WithTxBroadcastRetryAttempts v, c => c.WithTxBroadcastRetryAttempts v
  | .WithTxBroadcastRetryDelay v, c => c.WithTxBroadcastRetryDelay v
  | .WithTxFeeGranterAddr v, c => c.WithTxFeeGranterAddr v
  | .WithTxFees v, c => c.WithTxFees v
  | .WithTxFromName v, c => c.WithTxFromName v
  | .WithTxGasAdjustment v, c => c.WithTxGasAdjustment v
  | .WithTxGasPrices v, c => c.WithTxGasPrices v
  | .WithTxGas v, c => c.WithTxGas v
  | .WithTxMemo v, c => c.WithTxMemo v
  | .WithTxQueryRetryAttempts v, c => c.WithTxQueryRetryAttempts v
  | .WithTxQueryRetryDelay v, c => c.WithTxQueryRetryDelay v
  | .WithTxSimulateAndExecute v, c => c.WithTxSimulateAndExecute v
  | .WithTxTimeoutHeight v, c => c.WithTxTimeoutHeight v

/-- The clients a caller can build: `NewClient()` followed by setters. -/
inductive Reachable : Client → Prop where
  | NewClient : Reachable NewClient
  | set {c : Client} (s : Setter) : Reachable c → Reachable (s.apply c)

/-- The setters accept every value, so every client is reachable. -/
theorem reachable_all (c : Client) : Reachable c := by
  obtain ⟨a1, a2, a3, a4, a5, a6, a7, a8, a9, a10, a11, a12, a13, a14, a15, a16, a17, a18⟩ := c
  exact Reachable.NewClient
    |>.set (.WithQueryProve a1) |>.set (.WithRPCAddr a2) |>.set (.WithRPCChainID a3)
    |>.set (.WithRPCTimeout a4) |>.set (.WithTxAuthzGranterAddr a5)
    |>.set (.WithTxBroadcastRetryAttempts a6) |>.set (.WithTxBroadcastRetryDelay a7)
    |>.set (.WithTxFeeGranterAddr a8) |>.set (.WithTxFees a9) |>.set (.WithTxFromName a10)
    |>.set (.WithTxGasAdjustment a11) |>.set (.WithTxGasPrices a12) |>.set (.WithTxGas a13)
    |>.set (.WithTxMemo a14) |>.set (.WithTxQueryRetryAttempts a15)
    |>.set (.WithTxQueryRetryDelay a16) |>.set (.WithTxSimulateAndExecute a17)
    |>.set (.WithTxTimeoutHeight a18)

/-! ## Section 2: Collaborators -/

/-- `ErrKeyNotFound` of the SDK's error registry. -/
def ErrKeyNotFound : Error := .new "key not found"

/-- What the keyring, the codec and the node answer during one attempt. -/
structure Env where
  /-- `keyring.Key(name)`. -/
  key : String → Except Error Record
  /-- `keyring.Sign(name, msg)`: the signature and the signing key. -/
  sign : String → Bytes → Except Error (Bytes × PubKey)
  /-- `c.txConfig`, the codec. -/
  txConfig : TxConfig
  /-- `AccAddress.String()`, the bech32 form of an address. -/
  accAddressString : AccAddress → String
  /-- `msg.ValidateBasic()` of each message. -/
  validateBasic : Msg → Option Error
  /-- `c.Account(ctx, addr)`: the account, or `nil` if the chain has
      none at that address. -/
  account : AccAddress → Except Error (Option BaseAccount)
  /-- The gRPC query `/cosmos.tx.v1beta1.Service/Simulate`. -/
  querySimulate : Bytes → Except Error SimulateResponse
  /-- `http.NewWithTimeout(remote, wsEndpoint, timeout)`. -/
  newWithTimeout : String → String → Nat → Except Error Unit
  /-- `HTTP.BroadcastTxSync(ctx, tx)`. -/
  broadcastTxSync : Bytes → Except Error ResultBroadcastTx
  /-- `HTTP.Tx(ctx, hash, prove)`. -/
  tx : Bytes → Bool → Except Error ResultTx

/-- A network call made during an attempt. -/
inductive Call where
  | account (addr : AccAddress)
  | simulate (txBytes : Bytes)
  | broadcastTxSync (txBytes : Bytes)
  | tx (hash : Bytes) (prove : Bool)
  deriving DecidableEq, Repr

/-- The collaborators once the caller's context is cancelled: each call
    that takes the context (the account query, a simulation, the broadcast,
    the transaction query) fails at once with `ctxErr` of that call, the
    context's error as its transport reports it. The keyring, the codec,
    `ValidateBasic` and the construction of the RPC client do not take the
    context and answer as before. -/
def Env.cancelled (env : Env) (ctxErr : Call → Error) : Env :=
  { env with
    account := fun addr => .error (ctxErr (.account addr))
    querySimulate := fun txBytes => .error (ctxErr (.simulate txBytes))
    broadcastTxSync := fun txBytes => .error (ctxErr (.broadcastTxSync txBytes))
    tx := fun hash prove => .error (ctxErr (.tx hash prove)) }

section Cancelled

variable (env : Env) (ctxErr : Call → Error)

@[simp] theorem Env.cancelled_key : (env.cancelled ctxErr).key = env.key := rfl
@[simp] theorem Env.cancelled_validateBasic :
    (env.cancelled ctxErr).validateBasic = env.validateBasic := rfl
@[simp] theorem Env.cancelled_newWithTimeout :
    (env.cancelled ctxErr).newWithTimeout = env.newWithTimeout := rfl
@[simp] theorem Env.cancelled_account (addr : AccAddress) :
    (env.cancelled ctxErr).account addr = .error (ctxErr (.account addr)) := rfl
@[simp] theorem Env.cancelled_tx (hash : Bytes) (prove : Bool) :
    (env.cancelled ctxErr).tx hash prove = .error (ctxErr (.tx hash prove)) := rfl

end Cancelled

/-- A computation against the collaborators: the network calls it made,
    then how it ended. -/
structure NodeM (α : Type) where
  calls : List Call
  result : Result α

namespace NodeM

instance : Monad NodeM where
  pure a := ⟨[], .ok a⟩
  bind x f := match x.result with
    | .ok a => ⟨x.calls ++ (f a).calls, (f a).result⟩
    | .err e => ⟨x.calls, .err e⟩
    | .panic msg => ⟨x.calls, .panic msg⟩

/-- A step that makes no network call (keyring, codec, local checks). -/
def offline {α : Type} (r : Result α) : NodeM α := ⟨[], r⟩

/-- A network call `c` that ends with `r`. -/
def call {α : Type} (c : Call) (r : Result α) : NodeM α := ⟨[c], r⟩

/-- `if err != nil { return nil, fmt.Errorf(pre + "%w", err) }` after a
    computation that may make network calls. -/
def errorf {α : Type} (pre : String) (x : NodeM α) : NodeM α := ⟨x.calls, x.result.errorf pre⟩

@[simp] theorem errorf_calls {α : Type} (pre : String) (x : NodeM α) :
    (x.errorf pre).calls = x.calls := rfl

@[simp] theorem errorf_result {α : Type} (pre : String) (x : NodeM α) :
    (x.errorf pre).result = x.result.errorf pre := rfl

@[simp] theorem pure_calls {α : Type} (a : α) : (pure a : NodeM α).calls = [] := rfl
@[simp] theorem pure_result {α : Type} (a : α) : (pure a : NodeM α).result = .ok a := rfl
@[simp] theorem offline_calls {α : Type} (r : Result α) : (offline r).calls = [] := rfl
@[simp] theorem offline_result {α : Type} (r : Result α) : (offline r).result = r := rfl
@[simp] theorem call_calls {α : Type} (c : Call) (r : Result α) : (call c r).calls = [c] := rfl
@[simp] theorem call_result {α : Type} (c : Call) (r : Result α) : (call c r).result = r := rfl

theorem bind_of_ok {α β : Type} {x : NodeM α} {a : α} (h : x.result = .ok a) (f : α → NodeM β) :
    x >>= f = ⟨x.calls ++ (f a).calls, (f a).result⟩ := by
  show (match x.result with | .ok a => _ | .err e => _ | .panic msg => _) = _
  rw [h]

theorem bind_of_err {α β : Type} {x : NodeM α} {e : Error} (h : x.result = .err e)
    (f : α → NodeM β) : x >>= f = ⟨x.calls, .err e⟩ := by
  show (match x.result with | .ok a => _ | .err e => _ | .panic msg => _) = _
  rw [h]

theorem bind_of_panic {α β : Type} {x : NodeM α} {msg : String} (h : x.result = .panic msg)
    (f : α → NodeM β) : x >>= f = ⟨x.calls, .panic msg⟩ := by
  show (match x.result with | .ok a => _ | .err e => _ | .panic msg => _) = _
  rw [h]

/-- A call made by `x >>= f` is made by `x`, or by `f a` after `x`
    returned `a`. -/
theorem mem_bind_calls {α β : Type} {x : NodeM α} {f : α → NodeM β} {c : Call} :
    c ∈ (x >>= f).calls ↔ c ∈ x.calls ∨ ∃ a, x.result = .ok a ∧ c ∈ (f a).calls := by
  rcases hx : x.result with a | e | msg
  · simp [bind_of_ok hx]
  · simp [bind_of_err hx]
  · simp [bind_of_panic hx]

/-- A call made by `x >>= f` that `x` does not make is made by `f a`,
    after `x` returned `a`. -/
theorem mem_bind_calls_of_not_mem {α β : Type} {x : NodeM α} {f : α → NodeM β} {c : Call}
    (h : c ∈ (x >>= f).calls) (hx : c ∉ x.calls) :
    ∃ a, x.result = .ok a ∧ c ∈ (f a).calls :=
  (mem_bind_calls.mp h).resolve_left hx

theorem mem_calls_of_bind_ok {α β : Type} {x : NodeM α} {f : α → NodeM β} {a : α} {c : Call}
    (hx : x.result = .ok a) (h : c ∈ (f a).calls) : c ∈ (x >>= f).calls :=
  mem_bind_calls.mpr (.inr ⟨a, hx, h⟩)

theorem result_bind_eq_ok {α β : Type} {x : NodeM α} {f : α → NodeM β} {b : β}
    (h : (x >>= f).result = .ok b) : ∃ a, x.result = .ok a ∧ (f a).result = .ok b := by
  rcases hx : x.result with a | e | msg
  · rw [bind_of_ok hx] at h; exact ⟨a, rfl, h⟩
  · rw [bind_of_err hx] at h; cases h
  · rw [bind_of_panic hx] at h; cases h

@[simp] theorem pure_bind {α β : Type} (a : α) (f : α → NodeM β) : (pure a : NodeM α) >>= f = f a := by
  rw [bind_of_ok rfl]; rfl

theorem calls_subset_bind {α β : Type} (x : NodeM α) (f : α → NodeM β) :
    x.calls ⊆ (x >>= f).calls :=
  fun _ h => mem_bind_calls.mpr (.inl h)

@[simp] theorem bind_offline_ok {α β : Type} (a : α) (f : α → NodeM β) :
    offline (.ok a) >>= f = f a := by
  rw [bind_of_ok rfl]; rfl

@[simp] theorem bind_offline_err {α β : Type} (e : Error) (f : α → NodeM β) :
    offline (.err e) >>= f = ⟨[], .err e⟩ := bind_of_err rfl f

@[simp] theorem bind_offline_panic {α β : Type} (msg : String) (f : α → NodeM β) :
    offline (.panic msg) >>= f = ⟨[], .panic msg⟩ := bind_of_panic rfl f

@[simp] theorem bind_call_ok {α β : Type} (c : Call) (a : α) (f : α → NodeM β) :
    call c (.ok a) >>= f = ⟨c :: (f a).calls, (f a).result⟩ := bind_of_ok rfl f

@[simp] theorem bind_call_err {α β : Type} (c : Call) (e : Error) (f : α → NodeM β) :
    call c (.err e) >>= f = ⟨[c], .err e⟩ := bind_of_err rfl f

@[simp] theorem errorf_call {α : Type} (pre : String) (c : Call) (r : Result α) :
    (call c r).errorf pre = call c (r.errorf pre) := rfl

@[simp] theorem errorf_offline {α : Type} (pre : String) (r : Result α) :
    (offline r).errorf pre = offline (r.errorf pre) := rfl

end NodeM

/-! ## Section 3: Client methods on the collaborators -/

namespace Client

/-- `c.Key(name)`: a missing key is `nil` without an error. -/
def Key (c : Client) (env : Env) (name : String) : Result (Option Record) :=
  let name := if name = "" then c.txFromName else name
  match env.key name with
  | .ok key => .ok (some key)
  | .error err =>
    if err.is ErrKeyNotFound then .ok none
    else .err (.errorf "failed to retrieve key from keyring: " err)

/-- `c.Sign(name, buf)`: the signature and the signing key. -/
def Sign (c : Client) (env : Env) (name : String) (buf : Bytes) : Result (Bytes × PubKey) :=
  let name := if name = "" then c.txFromName else name
  (Result.ofExcept (env.sign name buf)).errorf "failed to sign data: "

/-- `c.Account(ctx, addr)`. -/
def Account (env : Env) (addr : AccAddress) : NodeM (Option BaseAccount) :=
  NodeM.call (.account addr) (Result.ofExcept (env.account addr))

/-- `c.Simulate(ctx, buf)`. -/
def Simulate (env : Env) (buf : Bytes) : NodeM SimulateResponse :=
  NodeM.call (.simulate buf)
    ((Result.ofExcept (env.querySimulate buf)).errorf "failed to query simulate: ")

/-- `c.HTTP()`: the RPC client, with the timeout in whole seconds passed
    through Go's `uint` conversion. -/
def HTTP (c : Client) (env : Env) : Result Unit :=
  Result.ofExcept
    (env.newWithTimeout c.rpcAddr "/websocket" ((c.rpcTimeout.tdiv 1000000000) % 2 ^ 64).toNat)

@[simp] theorem Key_cancelled (c : Client) (env : Env) (ctxErr : Call → Error) (name : String) :
    c.Key (env.cancelled ctxErr) name = c.Key env name := rfl

@[simp] theorem HTTP_cancelled (c : Client) (env : Env) (ctxErr : Call → Error) :
    c.HTTP (env.cancelled ctxErr) = c.HTTP env := rfl

end Client

end Qubetics
