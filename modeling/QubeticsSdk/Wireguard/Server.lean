import QubeticsSdk.Wireguard.Config

/-! # The WireGuard server

    `Server` of package `wireguard` as a state machine over the calls of
    `types.ServerService`. The server keeps its metadata (the port and
    public key clients need) and a peer manager, which assigns each peer
    its addresses; the WireGuard interface keeps the peers `wg set` gave
    it (`Peers`). Every command and file operation is an answer of the
    `Host`, which may be an error.

    Results:
    * `PreUp` replaces the metadata with one entry, so after a run the
      metadata is the entry of the last `PreUp` that built one
      (`run_metadata_of_last_PreUp`);
    * `AddPeer` records the peer in the peer manager before it runs
      `wg set`, and keeps the record when the command fails
      (`AddPeer_of_run_fails`).

    `Up` and `Down` run `wg-quick up` and `wg-quick down` on the
    configuration file `PreUp` wrote: the first creates the interface,
    with no peer since `ServerConfig` has no peer to write, and the second
    deletes the interface with its peers. Neither touches the peer
    manager. `PostDown` removes the file and changes neither the server
    nor the interface.

    The peer manager (`PeerManager`) and the request types are not under
    `src/`: the model takes the peer manager's operations as a record over
    its state. `Key.Public` (`wireguard/crypto.go`) is curve25519's scalar
    base multiplication, taken as a function `Public`.
-/

namespace Qubetics.Wireguard

open Vpn

/-! ## Section 1: Model -/

/-- `ServerMetadata`: the port and public key a client needs. -/
structure ServerMetadata where
  Port : UInt16
  PublicKey : Key

/-- `c.OutPort()`: it panics on a port it cannot parse. -/
def ServerConfig.OutPort (p : Parsers) (c : ServerConfig) : Result UInt16 :=
  match p.NewPortFromString c.Port with
  | .ok v => .ok v.OutFrom
  | .error err => .panic err.text

/-- `c.PublicKey()`, `Public` being `Key.Public`: it panics on a private
    key it cannot decode. -/
def ServerConfig.PublicKey (Public : Key → Key) (c : ServerConfig) : Result Key :=
  match NewKeyFromString c.PrivateKey with
  | .ok pk => .ok (Public pk)
  | .error err => .panic err.text

/-- The entry `PreUp` builds, its fields evaluated in order. -/
def ServerConfig.Metadata (p : Parsers) (Public : Key → Key) (c : ServerConfig) :
    Result ServerMetadata := do
  let port ← c.OutPort p
  let pk ← c.PublicKey Public
  pure ⟨port, pk⟩

/-- The calls the server makes on its peer manager, whose state is `σ`. -/
structure PeerManager (σ : Type) where
  /-- `pm.Put(identity)`: the peer manager after the call, and the
      addresses it assigned. -/
  Put : σ → String → σ × Except Error (List String)
  /-- `pm.Get(identity) != nil`. -/
  Get : σ → String → Bool
  /-- `pm.Delete(identity)`. -/
  Delete : σ → String → σ
  /-- `pm.Len()`. -/
  Len : σ → Nat

/-- `Server`. -/
structure Server (σ : Type) where
  homeDir : String
  metadata : List ServerMetadata
  name : String
  pm : σ

/-- The peers of the interface, as `wg` holds them: key and allowed IPs. -/
abbrev Peers := List (String × List String)

/-- What the host answers during one call of the server. -/
structure Host where
  /-- `cfg.WriteToFile(s.configFilePath())`. -/
  WriteToFile : Option Error
  /-- `utils.RemoveFile(s.configFilePath())`. -/
  RemoveFile : Option Error
  /-- `cmd.Run()` of `wg` with the arguments of this text. -/
  Run : String → Option Error
  /-- `cmd.Run()` of `wg-quick` with the arguments of this text. -/
  RunQuick : String → Option Error

variable {σ : Type} (p : Parsers) (Public : Key → Key) (pm : PeerManager σ) (h : Host)

/-! ## Section 2: The calls -/

/-- `s.PreUp(cfg)`: the metadata is set before the file is written. -/
def Server.PreUp (s : Server σ) (cfg : ServerConfig) : Server σ × Result Unit :=
  match cfg.Metadata p Public with
  | .ok md =>
    ({ s with metadata := [md] },
      match h.WriteToFile with
      | some err => .err (.errorf "failed to write config: " err)
      | none => .ok ())
  | .err err => (s, .err err)
  | .panic msg => (s, .panic msg)

/-- `s.configFilePath()`: `filepath.Join(s.homeDir, name + ".conf")`,
    for a home directory that `filepath.Clean` leaves as it is. -/
def Server.configFilePath (s : Server σ) : String :=
  if s.homeDir = "" then s.name ++ ".conf" else s.homeDir ++ "/" ++ s.name ++ ".conf"

/-- `s.Up(ctx)`: the interface's peers after the call. `wg-quick up`
    creates the interface from the configuration file, which holds no
    peer. -/
def Server.Up (s : Server σ) (peers : Peers) : Peers × Result Unit :=
  match h.RunQuick ("up " ++ s.configFilePath) with
  | some err => (peers, .err (.errorf "failed to run command: " err))
  | none => ([], .ok ())

/-- `s.Down(ctx)`: `wg-quick down` deletes the interface with its peers. -/
def Server.Down (s : Server σ) (peers : Peers) : Peers × Result Unit :=
  match h.RunQuick ("down " ++ s.configFilePath) with
  | some err => (peers, .err (.errorf "failed to run command: " err))
  | none => ([], .ok ())

/-- `s.PostDown()`. -/
def Server.PostDown : Result Unit :=
  match h.RemoveFile with
  | some err => .err (.errorf "failed to remove config: " err)
  | none => .ok ()

/-- The arguments of the `wg` command that gives a peer its addresses. -/
def setPeerArgs (name identity : String) (addrs : List String) : String :=
  "set " ++ name ++ " peer " ++ identity ++ " allowed-ips " ++ ",".intercalate addrs

/-- `s.AddPeer(ctx, r)`: the server and the interface's peers after the
    call, and the addresses and metadata it returns. -/
def Server.AddPeer (s : Server σ) (peers : Peers) (r : PeerRequest) :
    (Server σ × Peers) × Result (List String × List ServerMetadata) :=
  match r.ValidateError with
  | some err => ((s, peers), .err (.errorf "invalid request: " err))
  | none =>
    let identity := r.Key
    match pm.Put s.pm identity with
    | (pm', .error err) => (({ s with pm := pm' }, peers), .err (.errorf "failed to put peer: " err))
    | (pm', .ok []) => (({ s with pm := pm' }, peers), .err (.new "no addrs available"))
    | (pm', .ok addrs) =>
      match h.Run (setPeerArgs s.name identity addrs) with
      | some err => (({ s with pm := pm' }, peers), .err (.errorf "failed to run command: " err))
      | none =>
        (({ s with pm := pm' }, (identity, addrs) :: peers.filter (·.1 ≠ identity)),
          .ok (addrs, s.metadata))

/-- `s.RemovePeer(ctx, r)`. -/
def Server.RemovePeer (s : Server σ) (peers : Peers) (r : PeerRequest) :
    (Server σ × Peers) × Result Unit :=
  match r.ValidateError with
  | some err => ((s, peers), .err (.errorf "invalid request: " err))
  | none =>
    let identity := r.Key
    match h.Run ("set " ++ s.name ++ " peer " ++ identity ++ " remove") with
    | some err => ((s, peers), .err (.errorf "failed to run command: " err))
    | none => (({ s with pm := pm.Delete s.pm identity }, peers.filter (·.1 ≠ identity)), .ok ())

/-- `s.HasPeer(ctx, r)`. -/
def Server.HasPeer (s : Server σ) (r : PeerRequest) : Result Bool :=
  match r.ValidateError with
  | some err => .err (.errorf "invalid request: " err)
  | none => .ok (pm.Get s.pm r.Key)

/-- `s.PeerCount()`. -/
def Server.PeerCount (s : Server σ) : Nat := pm.Len s.pm

/-! ## Section 3: Runs -/

/-- The server and the interface's peers after one call. -/
def step (st : Server σ × Peers) : Vpn.Call ServerConfig → Server σ × Peers
  | .PreUp cfg => ((st.1.PreUp p Public h cfg).1, st.2)
  | .Up => (st.1, (st.1.Up h st.2).1)
  | .Down => (st.1, (st.1.Down h st.2).1)
  | .PostUp | .PreDown | .PostDown => st
  | .AddPeer r => (st.1.AddPeer pm h st.2 r).1
  | .RemovePeer r => (st.1.RemovePeer pm h st.2 r).1

/-- A run: calls, each with what the host answers during it. -/
def run (st : Server σ × Peers) (calls : List (Host × Vpn.Call ServerConfig)) : Server σ × Peers :=
  calls.foldl (fun st c => step p Public pm c.1 st c.2) st

/-! ## Section 4: Metadata over runs -/

/-- `AddPeer` keeps the metadata. -/
theorem AddPeer_metadata (s : Server σ) (peers : Peers) (r : PeerRequest) :
    (s.AddPeer pm h peers r).1.1.metadata = s.metadata := by
  unfold Server.AddPeer
  dsimp only
  repeat' split
  all_goals rfl

/-- `RemovePeer` keeps the metadata. -/
theorem RemovePeer_metadata (s : Server σ) (peers : Peers) (r : PeerRequest) :
    (s.RemovePeer pm h peers r).1.1.metadata = s.metadata := by
  unfold Server.RemovePeer
  dsimp only
  repeat' split
  all_goals rfl

/-- A call other than `PreUp` keeps the metadata. -/
theorem step_metadata_of_not_PreUp (st : Server σ × Peers) {c : Vpn.Call ServerConfig}
    (hc : c.isPreUp = false) : (step p Public pm h st c).1.metadata = st.1.metadata := by
  cases c with
  | PreUp cfg => cases hc
  | AddPeer r => exact AddPeer_metadata pm h st.1 st.2 r
  | RemovePeer r => exact RemovePeer_metadata pm h st.1 st.2 r
  | _ => rfl

/-- `PreUp` of a configuration whose entry builds sets the metadata to
    that one entry. -/
theorem step_PreUp_metadata (st : Server σ × Peers) {cfg : ServerConfig} {md : ServerMetadata}
    (hmd : cfg.Metadata p Public = .ok md) :
    (step p Public pm h st (.PreUp cfg)).1.metadata = [md] := by
  simp [step, Server.PreUp, hmd]

theorem run_cons (st : Server σ × Peers) (c : Host × Vpn.Call ServerConfig)
    (calls : List (Host × Vpn.Call ServerConfig)) :
    run p Public pm st (c :: calls) = run p Public pm (step p Public pm c.1 st c.2) calls := rfl

theorem run_append (st : Server σ × Peers) (xs ys : List (Host × Vpn.Call ServerConfig)) :
    run p Public pm st (xs ++ ys) = run p Public pm (run p Public pm st xs) ys :=
  List.foldl_append _ _ _ _

/-- `Up` either fails and leaves the interface as it was, or leaves it
    without peers. -/
theorem Up_peers (s : Server σ) (peers : Peers) : (s.Up h peers).1 = peers ∨ (s.Up h peers).1 = [] := by
  unfold Server.Up
  split <;> simp

/-- `Down` either fails and leaves the interface as it was, or deletes it
    with its peers. -/
theorem Down_peers (s : Server σ) (peers : Peers) :
    (s.Down h peers).1 = peers ∨ (s.Down h peers).1 = [] := by
  unfold Server.Down
  split <;> simp

/-- Calls without a `PreUp` keep the metadata. -/
theorem run_metadata_of_no_PreUp (st : Server σ × Peers) (calls : List (Host × Vpn.Call ServerConfig))
    (hcalls : ∀ c ∈ calls, c.2.isPreUp = false) :
    (run p Public pm st calls).1.metadata = st.1.metadata := by
  induction calls generalizing st with
  | nil => rfl
  | cons c calls ih =>
    rw [List.forall_mem_cons] at hcalls
    rw [run_cons, ih _ hcalls.2, step_metadata_of_not_PreUp _ _ _ _ _ hcalls.1]

/-- **After a run, the metadata is the entry of the last `PreUp`.** -/
theorem run_metadata_of_last_PreUp (st : Server σ × Peers) (calls : List (Host × Vpn.Call ServerConfig))
    (h : Host) {cfg : ServerConfig} {md : ServerMetadata} (hmd : cfg.Metadata p Public = .ok md)
    (rest : List (Host × Vpn.Call ServerConfig)) (hrest : ∀ c ∈ rest, c.2.isPreUp = false) :
    (run p Public pm st (calls ++ (h, .PreUp cfg) :: rest)).1.metadata = [md] := by
  rw [run_append, run_cons, run_metadata_of_no_PreUp _ _ _ _ _ hrest]
  exact step_PreUp_metadata _ _ _ _ _ hmd

/-! ## Section 5: A failing `AddPeer` -/

/-- **A failed `wg set` keeps the peer in the peer manager.** When the
    peer manager assigns the peer addresses and `wg set` then fails,
    `AddPeer` returns the error with the peer manager as `Put` left it, and
    the interface as it was. -/
theorem AddPeer_of_run_fails (s : Server σ) (peers : Peers) {r : PeerRequest}
    (hr : r.ValidateError = none) {pm' : σ} {addrs : List String}
    (hput : pm.Put s.pm r.Key = (pm', .ok addrs)) (haddrs : addrs ≠ []) {err : Error}
    (hrun : h.Run (setPeerArgs s.name r.Key addrs) = some err) :
    s.AddPeer pm h peers r = (({ s with pm := pm' }, peers), .err (.errorf "failed to run command: " err)) := by
  obtain ⟨a, as, rfl⟩ := List.exists_cons_of_ne_nil haddrs
  simp [Server.AddPeer, hr, hput, hrun]

end Qubetics.Wireguard
