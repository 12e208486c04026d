import QubeticsSdk.Wireguard.Server
import QubeticsSdk.V2ray.Server

/-! # The two VPN servers as `types.ServerService`

    The WireGuard and the V2Ray server implement the same interface. This
    module states what holds of both: how a failing `AddPeer` leaves each
    of them, and what their metadata is after any run of lifecycle calls.

    Results:
    * a failing `AddPeer` keeps changes it made before the failure: the
      WireGuard server keeps the peer in its peer manager when `wg set`
      fails, and the V2Ray process keeps the user on the inbounds altered
      before the failing call (`AddPeer_failure_keeps_changes`);
    * the V2Ray server's metadata gathers the tags of every `PreUp` of a
      run, while the WireGuard server's holds the entry of the last one
      (`PreUp_metadata_over_runs`).
-/

namespace Qubetics.Vpn

/-! ## Section 1: A failing `AddPeer` -/

/-- **A failing `AddPeer` keeps what it changed before the failure.**
    WireGuard: when the peer manager assigns the peer addresses and
    `wg set` fails, the error comes with the peer manager as `Put` left it,
    so `HasPeer` answers what that peer manager answers. V2Ray: when the
    API fails on the inbound of metadata entry `pre.length`, the error
    comes with the user kept on each inbound of `pre`. -/
theorem AddPeer_failure_keeps_changes :
    (∀ {σ : Type} (pm : Wireguard.PeerManager σ) (h : Wireguard.Host) (s : Wireguard.Server σ)
        (peers : Wireguard.Peers) (r : PeerRequest) (pm' : σ) (addrs : List String) (err : Error),
        r.ValidateError = none → pm.Put s.pm r.Key = (pm', .ok addrs) → addrs ≠ [] →
        h.Run (Wireguard.setPeerArgs s.name r.Key addrs) = some err →
        s.AddPeer pm h peers r =
            (({ s with pm := pm' }, peers), .err (.errorf "failed to run command: " err)) ∧
          (s.AddPeer pm h peers r).1.1.HasPeer pm r = .ok (pm.Get pm' r.Key)) ∧
    (∀ {σ : Type} (v : V2ray.Protocols) (pm : V2ray.PeerManager σ) (h : V2ray.Host)
        (s : V2ray.Server σ) (users : V2ray.Users) (r : PeerRequest)
        (pre : List V2ray.ServerMetadata) (md : V2ray.ServerMetadata)
        (rest : List V2ray.ServerMetadata) (err : Error),
        r.ValidateError = none → V2ray.handlerServiceClient h = none → h.Close = none →
        s.metadata = pre ++ md :: rest →
        (∀ j m, pre[j]? = some m → h.AlterInbound j (m.Tag.String v) = none) →
        h.AlterInbound pre.length (md.Tag.String v) = some err →
        s.AddPeer v pm h users r =
          ((s, (pre.map fun m => (m.Tag.String v, r.Key)).reverse ++ users),
            .err (.errorf "failed to alter inbound: " err))) := by
  refine ⟨fun pm h s peers r pm' addrs err hr hput haddrs hrun => ?_,
    fun v pm h s users r pre md rest err hr hc hclose hmd hpre hfail =>
      V2ray.AddPeer_of_alter_fails v pm h s users r hr hc hclose hmd hpre hfail⟩
  have hadd := Wireguard.AddPeer_of_run_fails pm h s peers hr hput haddrs hrun
  exact ⟨hadd, by simp [hadd, Wireguard.Server.HasPeer, hr]⟩

/-- A peer manager that keeps the identities it was given and assigns each
    peer one address. -/
def wgPeerList : Wireguard.PeerManager (List String) where
  Put pm identity := (identity :: pm, .ok ["10.8.0.2/32"])
  Get pm identity := pm.contains identity
  Delete pm identity := pm.erase identity
  Len pm := pm.length

/-- A host on which every `wg` and `wg-quick` command fails. -/
def wgFailing : Wireguard.Host :=
  ⟨none, none, fun _ => some (.new "exit status 1"), fun _ => some (.new "exit status 1")⟩

/-- A WireGuard server on interface `wg0` with no peers. -/
def wg0 : Wireguard.Server (List String) := ⟨"", [], "wg0", []⟩

/-- A valid request for the peer `peer`. -/
def peerRequest : PeerRequest := ⟨"peer", none⟩

/-- A peer manager that keeps the emails it was given. -/
def v2PeerList : V2ray.PeerManager (List String) where
  Put pm email := email :: pm
  Get pm email := pm.contains email
  Delete pm email := pm.erase email
  Len pm := pm.length

/-- A host on which every V2Ray call succeeds. -/
def v2Ok : V2ray.Host where
  WriteToFile := none
  Start := .ok 1
  WriteFile := none
  Wait := none
  PIDFile := none
  ParseInt _ := .ok 0
  NewProcess _ := none
  Terminate := none
  RemoveFile := none
  NewClient := none
  Close := none
  AlterInbound _ _ := none

/-- A host whose V2Ray API accepts the first `AlterInbound` of a call and
    fails the others. -/
def v2SecondFails : V2ray.Host :=
  { v2Ok with AlterInbound := fun k _ => if k = 0 then none else some (.new "inbound not running") }

/-- The tag of the inbound on port `8080`. -/
def tag8080 : V2ray.Tag := ⟨⟨8080, 8080, 8080, 8080⟩, "vmess", "none", "tcp"⟩

/-- The tag of an inbound on port `8081`. -/
def tag8081 : V2ray.Tag := ⟨⟨8081, 8081, 8081, 8081⟩, "vmess", "none", "grpc"⟩

/-- A V2Ray server with the two inbounds. -/
def v2Server : V2ray.Server (List String) := ⟨none, "", [⟨tag8080⟩, ⟨tag8081⟩], "v2ray", []⟩

/-- WireGuard: `wg set` fails after `Put` and the peer is still there.
    V2Ray: the second inbound fails and the user stays on the first. -/
theorem AddPeer_failure_keeps_peer :
    (wg0.AddPeer wgPeerList wgFailing [] peerRequest =
        (({ wg0 with pm := ["peer"] }, []), .err (.errorf "failed to run command: " (.new "exit status 1"))) ∧
      (wg0.AddPeer wgPeerList wgFailing [] peerRequest).1.1.HasPeer wgPeerList peerRequest =
        .ok (wgPeerList.Get ["peer"] peerRequest.Key)) ∧
    v2Server.AddPeer V2ray.vmessProtocols v2PeerList v2SecondFails [] peerRequest =
      ((v2Server, ([(⟨tag8080⟩ : V2ray.ServerMetadata)].map fun m =>
          (m.Tag.String V2ray.vmessProtocols, peerRequest.Key)).reverse ++ []),
        .err (.errorf "failed to alter inbound: " (.new "inbound not running"))) :=
  ⟨AddPeer_failure_keeps_changes.1 wgPeerList wgFailing wg0 [] peerRequest ["peer"] ["10.8.0.2/32"]
      (.new "exit status 1") rfl rfl (List.cons_ne_nil _ _) rfl,
    AddPeer_failure_keeps_changes.2 V2ray.vmessProtocols v2PeerList v2SecondFails v2Server []
      peerRequest [⟨tag8080⟩] ⟨tag8081⟩ [] (.new "inbound not running") rfl rfl rfl rfl
      (fun j m hj => by cases j with
        | zero => rfl
        | succ j => simp at hj) rfl⟩

/-! ## Section 2: Metadata over runs -/

/-- **What `PreUp` leaves in the metadata, over any run.** V2Ray: the
    metadata after a run is the initial one followed by the entries of
    every `PreUp` of the run, in order, and a successful `AddPeer` adds the
    user once per entry. WireGuard: after a run whose last `PreUp` builds
    its entry, the metadata is that one entry. -/
theorem PreUp_metadata_over_runs :
    (∀ {σ : Type} (p : Parsers) (v : V2ray.Protocols) (pm : V2ray.PeerManager σ)
        (st : V2ray.Server σ × V2ray.Users) (calls : List (V2ray.Host × Vpn.Call V2ray.ServerConfig)),
        (V2ray.run p v pm st calls).1.metadata =
          st.1.metadata ++ calls.flatMap (V2ray.Call.entries p ·.2)) ∧
    (∀ {σ : Type} (v : V2ray.Protocols) (pm : V2ray.PeerManager σ) (h : V2ray.Host)
        (s : V2ray.Server σ) (users : V2ray.Users) (r : PeerRequest),
        r.ValidateError = none → V2ray.handlerServiceClient h = none → h.Close = none →
        (∀ j m, s.metadata[j]? = some m → h.AlterInbound j (m.Tag.String v) = none) →
        (s.AddPeer v pm h users r).1.2 = (s.metadata.map fun m => (m.Tag.String v, r.Key)).reverse ++ users) ∧
    (∀ {σ : Type} (p : Parsers) (Public : Wireguard.Key → Wireguard.Key)
        (pm : Wireguard.PeerManager σ) (st : Wireguard.Server σ × Wireguard.Peers)
        (calls : List (Wireguard.Host × Vpn.Call Wireguard.ServerConfig)) (h : Wireguard.Host)
        (cfg : Wireguard.ServerConfig) (md : Wireguard.ServerMetadata)
        (rest : List (Wireguard.Host × Vpn.Call Wireguard.ServerConfig)),
        cfg.Metadata p Public = .ok md → (∀ c ∈ rest, c.2.isPreUp = false) →
        (Wireguard.run p Public pm st (calls ++ (h, .PreUp cfg) :: rest)).1.metadata = [md]) :=
  ⟨fun p v pm st calls => V2ray.run_metadata p v pm st calls,
    fun v pm h s users r hr hc hclose hok => by
      rw [V2ray.AddPeer_of_alter_succeeds v pm h s users r hr hc hclose hok],
    fun p Public pm st calls h _ _ rest hmd hrest =>
      Wireguard.run_metadata_of_last_PreUp p Public pm st calls h hmd rest hrest⟩

/-- A V2Ray server before its first `PreUp`. -/
def v2Fresh : V2ray.Server (List String) := ⟨none, "", [], "v2ray", []⟩

/-- A V2Ray configuration with the one inbound on port `8080`. -/
def v2Config : V2ray.ServerConfig := ⟨[V2ray.inbound8080]⟩

/-- The all-zero key. -/
def zeroKey : Wireguard.Key := ⟨List.replicate 32 0, rfl⟩

/-- A WireGuard configuration on port `8080` with the all-zero key. -/
def wgConfig : Wireguard.ServerConfig := ⟨"eth0", "10.8.0.1/24", "", "eth0", "8080", zeroKey.String⟩

/-- A host on which every WireGuard command succeeds. -/
def wgOk : Wireguard.Host := ⟨none, none, fun _ => none, fun _ => none⟩

/-- `PreUp` twice with one inbound leaves two entries for it, and
    `AddPeer` then adds the user twice; one WireGuard `PreUp` leaves its
    one entry. -/
theorem PreUp_twice_duplicates_tags :
    (V2ray.run (V2ray.tableParsers V2ray.portTable) V2ray.vmessProtocols v2PeerList (v2Fresh, [])
        [(v2Ok, .PreUp v2Config), (v2Ok, .PreUp v2Config)]).1.metadata = [⟨tag8080⟩, ⟨tag8080⟩] ∧
    ({ v2Fresh with metadata := [⟨tag8080⟩, ⟨tag8080⟩] }.AddPeer V2ray.vmessProtocols v2PeerList v2Ok
        [] peerRequest).1.2 =
      ([(⟨tag8080⟩ : V2ray.ServerMetadata), ⟨tag8080⟩].map fun m =>
        (m.Tag.String V2ray.vmessProtocols, peerRequest.Key)).reverse ++ [] ∧
    (Wireguard.run (V2ray.tableParsers V2ray.portTable) id wgPeerList (wg0, [])
        ([] ++ (wgOk, .PreUp wgConfig) :: [])).1.metadata = [⟨8080, zeroKey⟩] :=
  ⟨by rw [PreUp_metadata_over_runs.1]; rfl,
    PreUp_metadata_over_runs.2.1 V2ray.vmessProtocols v2PeerList v2Ok _ [] peerRequest rfl rfl rfl
      (fun _ _ _ => rfl),
    PreUp_metadata_over_runs.2.2 _ id wgPeerList (wg0, []) [] wgOk wgConfig ⟨8080, zeroKey⟩ []
      (by simp [Wireguard.ServerConfig.Metadata, Wireguard.ServerConfig.OutPort,
        Wireguard.ServerConfig.PublicKey, wgConfig, Wireguard.NewKeyFromString_String]; rfl)
      (fun _ h => absurd h (List.not_mem_nil _))⟩

end Qubetics.Vpn
