import QubeticsSdk.Basic

/-! # Data the transaction client exchanges with its collaborators

    The Cosmos SDK and CometBFT types that `core/tx.go` reads or builds,
    with the fields it touches:

    * account addresses, coins and decimal coins (`cosmossdk.AccAddress`,
      `Coin`, `DecCoin` and the 18-digit fixed-point `LegacyDec`);
    * public keys and keyring records;
    * messages, including the authz `MsgExec` envelope;
    * what the node answers: accounts, simulations, broadcast results and
      indexed transactions;
    * the errors of `core/error.go` and the two classifiers the broadcast
      retry loop uses.

    Fields that no modelled function reads are left out.
-/

namespace Qubetics

/-! ## Section 1: Addresses and coins -/

/-- `cosmossdk.AccAddress`, the raw address bytes. -/
abbrev AccAddress := Bytes

/-- `AccAddress.Empty()`: no address bytes. -/
def AccAddress.Empty (a : AccAddress) : Bool := a.isEmpty

/-- `cosmossdk.Coin`: a denomination and an integer amount. -/
structure Coin where
  denom : String
  amount : Int
  deriving DecidableEq, Repr

/-- `cosmossdk.Coins`. -/
abbrev Coins := List Coin

/-- `math.LegacyDec`: the big integer `i` stands for `i / 10^18`. -/
structure Dec where
  i : Int
  deriving DecidableEq, Repr

/-- `cosmossdk.DecCoin`: a denomination and a decimal amount. -/
structure DecCoin where
  denom : String
  amount : Dec
  deriving DecidableEq, Repr

/-- `cosmossdk.DecCoins`. -/
abbrev DecCoins := List DecCoin

/-- `DecCoins.IsZero()`: every amount is zero (so the empty list is zero). -/
def DecCoins.IsZero (coins : DecCoins) : Bool := coins.all fun c => c.amount.i == 0

/-! ## Section 2: Keys -/

/-- The public-key types of the SDK's keyring and codec. -/
inductive KeyType where
  | ed25519
  | secp256k1
  /-- `qubeticshd.EthSecp256k1`, the algorithm `CreateKey` uses. -/
  | ethSecp256k1
  deriving DecidableEq, Repr

/-- `PubKey.Type()` of a key of this type. -/
def KeyType.name : KeyType → String
  | .ed25519 => "ed25519"
  | .secp256k1 => "secp256k1"
  | .ethSecp256k1 => "eth_secp256k1"

/-- A public key: its type and its bytes (`PubKey.Bytes()`). -/
structure PubKey where
  keyType : KeyType
  key : Bytes
  deriving DecidableEq, Repr

/-- A `keyring.Record`, through the two accessors the client calls. -/
structure Record where
  name : String
  /-- `Record.GetPubKey()`. -/
  pubKey : Except Error PubKey
  /-- `Record.GetAddress()`. -/
  address : Except Error AccAddress

/-! ## Section 3: Messages -/

/-- A `cosmossdk.Msg`: a message of some module, given by its type URL
    and encoded value, or the authz envelope `MsgExec` that executes
    `msgs` on behalf of their signer with `grantee` signing. -/
inductive Msg where
  | any (typeUrl : String) (value : Bytes)
  | exec (grantee : AccAddress) (msgs : List Msg)
  deriving Repr

/-- `authz.NewMsgExec(grantee, msgs)`. -/
def NewMsgExec (grantee : AccAddress) (msgs : List Msg) : Msg := .exec grantee msgs

/-! ## Section 4: What the node answers -/

/-- The account fields the client reads (`auth.AccountI`). -/
structure BaseAccount where
  accountNumber : Nat
  sequence : Nat
  deriving DecidableEq, Repr

/-- `tx.SimulateResponse`, through `GasInfo.GasUsed`. -/
structure SimulateResponse where
  gasUsed : Nat
  deriving DecidableEq, Repr

/-- `core.ResultBroadcastTx`: the node's `CheckTx` verdict. -/
structure ResultBroadcastTx where
  code : Nat
  data : Bytes
  log : String
  codespace : String
  hash : Bytes
  deriving DecidableEq, Repr

namespace Events

/-- `abci.EventAttribute`: a key and its value. -/
structure EventAttribute where
  Key : String
  Value : String
  deriving DecidableEq, Repr

/-- `abci.Event`: its type (Go's `Type`) and its attributes, in order. -/
structure Event where
  type : String
  Attributes : List EventAttribute
  deriving DecidableEq, Repr

end Events

/-- `abci.ExecTxResult`: the outcome of executing the transaction, with
    the events it emitted. -/
structure ExecTxResult where
  code : Nat
  log : String
  codespace : String
  gasWanted : Int
  gasUsed : Int
  events : List Events.Event
  deriving DecidableEq, Repr

/-- `abci.CodeTypeOK`. -/
def CodeTypeOK : Nat := 0

/-- `ExecTxResult.IsOK()`. -/
def ExecTxResult.IsOK (r : ExecTxResult) : Bool := r.code == CodeTypeOK

/-- `core.ResultTx`: an indexed transaction. -/
structure ResultTx where
  hash : Bytes
  height : Int
  index : Nat
  txResult : ExecTxResult
  tx : Bytes
  deriving DecidableEq, Repr

/-! ## Section 5: Errors of `core/error.go` -/

/-- `ErrNotFound`. -/
def ErrNotFound : Error := .new "not found"

/-- `newErrNotFound(err)`: `fmt.Errorf("%w: %v", ErrNotFound, err)`. -/
def newErrNotFound (err : Error) : Error := .wrap "" ErrNotFound (": " ++ err.text)

/-- `IsTxInMempoolCacheError(err)`. -/
def IsTxInMempoolCacheError (err : Error) : Bool :=
  stringsContains (stringsToLower err.text) "tx already exists in cache"

/-- `IsWrongSequenceError(err)`. -/
def IsWrongSequenceError (err : Error) : Bool :=
  stringsContains (stringsToLower err.text) "incorrect account sequence"

/-- A wrapping prefix that cannot start the phrase leaves the sequence
    classification of an error as it was. -/
theorem IsWrongSequenceError_errorf {pre : String} (e : Error)
    (h : startsNowhere "incorrect account sequence".data (stringsToLower pre).data = true) :
    IsWrongSequenceError (.errorf pre e) = IsWrongSequenceError e := by
  rw [IsWrongSequenceError, Error.text_errorf, stringsContains_lower_append _ h, IsWrongSequenceError]

end Qubetics
