import QubeticsSdk.Basic

/-! # What the VPN services take from outside the repository

    The WireGuard and V2Ray configurations parse addresses and ports with
    functions that are not under `src/`: `netip.ParsePrefix` and
    `net.ParseIP` of Go's library, and `NewNetPrefixFromString` and
    `NewPortFromString` of package `types`. The model takes them as a
    `Parsers` record, and every result about the configurations holds
    whatever they answer.

    A `types.Port` is read through its four bounds, as the configurations
    use it; a `netip.Prefix` through `String()` and `Addr().Is6()`.

    The module also holds what the two servers share: the peer requests
    and the calls of the `types.ServerService` interface.
-/

namespace Qubetics.Vpn

/-- `types.Port`: an inbound and an outbound range of ports. -/
structure Port where
  InFrom : UInt16
  InTo : UInt16
  OutFrom : UInt16
  OutTo : UInt16
  deriving DecidableEq, Repr

/-- `netip.Prefix`, through `Addr().Is6()` and `String()`. -/
structure Prefix where
  is6 : Bool
  text : String
  deriving DecidableEq, Repr

/-- The parsers the configurations call. -/
structure Parsers where
  /-- `netip.ParsePrefix(s)`. -/
  ParsePrefix : String → Except Error Prefix
  /-- `net.ParseIP(s) != nil`. -/
  ParseIP : String → Bool
  /-- `types.NewNetPrefixFromString(s)`. -/
  NewNetPrefixFromString : String → Option Error
  /-- `types.NewPortFromString(s)`. -/
  NewPortFromString : String → Except Error Port

/-- The first error of a check run over a list, as a Go loop that returns
    at the first failure reports it. -/
def firstError {α : Type} (check : α → Option Error) (xs : List α) : Option Error :=
  xs.findSome? check

/-- The error of `netip.ParsePrefix(s)`, or `nil`. -/
def Parsers.prefixError (p : Parsers) (s : String) : Option Error :=
  match p.ParsePrefix s with
  | .error err => some err
  | .ok _ => none

/-- An `AddPeerRequest`, `HasPeerRequest` or `RemovePeerRequest`, through
    what the servers read of it: `r.Key()` and the error of
    `r.Validate()` (the request types are not under `src/`). -/
structure PeerRequest where
  Key : String
  ValidateError : Option Error

/-- `types.PeerStatistic`: what a server's `PeerStatistics` reports for a
    peer. -/
structure PeerStatistic where
  Key : String
  DownloadBytes : Int
  UploadBytes : Int
  deriving DecidableEq, Repr

/-- The calls of `types.ServerService` that can change a server, `Cfg` the
    type of the configuration `PreUp` takes. -/
inductive Call (Cfg : Type) where
  | PreUp (cfg : Cfg)
  | Up
  | PostUp
  | PreDown
  | Down
  | PostDown
  | AddPeer (req : PeerRequest)
  | RemovePeer (req : PeerRequest)

/-- Whether a call is a `PreUp`. -/
def Call.isPreUp {Cfg : Type} : Call Cfg → Bool
  | .PreUp _ => true
  | _ => false

end Qubetics.Vpn
