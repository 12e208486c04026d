import QubeticsSdk.Wireguard.Server
import QubeticsSdk.V2ray.Server

/-! # The peer manager and the data plane

    Each VPN server records a peer twice: in its peer manager, which
    `HasPeer` and `PeerCount` read, and in the data plane that carries the
    peer's traffic, the peers of the WireGuard interface (`wg set`) or the
    users of the V2Ray process's inbounds (`AlterInbound`). A call writes
    the two one after the other, and a command that fails in between
    leaves them apart. The order of the writes decides which way:

    * WireGuard puts a peer in the peer manager before `wg set` gives it
      to the interface, and takes it off the interface before it deletes
      it from the peer manager. So every peer of the interface is in the
      peer manager after any run, whatever fails
      (`run_interface_peers_registered`).
    * V2Ray writes the inbounds first both ways. A failing `AddPeer`
      leaves users the peer manager does not hold (`AddPeer_of_alter_fails`),
      and a failing `RemovePeer` leaves a peer the peer manager holds off
      the inbounds before the failure (`RemovePeer_of_alter_fails`).
    * While every command succeeds, both servers keep the two in
      agreement over any run of `AddPeer` and `RemovePeer`
      (`peer_calls_keep_interface_agreement`,
      `peer_calls_keep_inbounds_agreement`).

    The peer managers are not under `src/`. The results assume of one
    only what its `Lawful` says: `Get` answers whether the peer was put
    and not deleted since.
-/

namespace Qubetics

namespace Vpn

/-- Whether a call adds or removes a peer. -/
def Call.isPeerCall {Cfg : Type} : Call Cfg → Bool
  | .AddPeer _ | .RemovePeer _ => true
  | _ => false

end Vpn

/-! ## Section 1: WireGuard -/

namespace Wireguard

open Vpn

variable {σ : Type}

/-- What the results assume of a peer manager: `Get` answers whether the
    peer was put and not deleted since, and a `Put` that fails records
    nothing. -/
structure PeerManager.Lawful (pm : PeerManager σ) : Prop where
  get_put_ok : ∀ {s s' : σ} {identity : String} {addrs : List String},
    pm.Put s identity = (s', .ok addrs) →
      ∀ key, pm.Get s' key = true ↔ key = identity ∨ pm.Get s key = true
  get_put_error : ∀ {s s' : σ} {identity : String} {err : Error},
    pm.Put s identity = (s', .error err) → ∀ key, pm.Get s' key = pm.Get s key
  get_delete : ∀ (s : σ) (identity key : String),
    pm.Get (pm.Delete s identity) key = true ↔ key ≠ identity ∧ pm.Get s key = true

/-- A `Put` forgets no peer, whether it fails or not. -/
theorem PeerManager.Lawful.get_put {pm : PeerManager σ} (hl : pm.Lawful) {s s' : σ}
    {identity : String} {res : Except Error (List String)} (hput : pm.Put s identity = (s', res))
    {key : String} (hk : pm.Get s key = true) : pm.Get s' key = true := by
  cases res with
  | error err => rwa [hl.get_put_error hput]
  | ok addrs => exact (hl.get_put_ok hput key).2 (.inr hk)

variable (p : Parsers) (Public : Key → Key) (pm : PeerManager σ) (h : Host)

/-- Every peer of the interface is in the peer manager. -/
def Registered (st : Server σ × Peers) : Prop := ∀ q ∈ st.2, pm.Get st.1.pm q.1 = true

/-- The peer manager holds exactly the peers of the interface. -/
def Agrees (st : Server σ × Peers) : Prop :=
  ∀ key, pm.Get st.1.pm key = true ↔ key ∈ st.2.map Prod.fst

theorem mem_map_fst_filter {peers : Peers} {identity key : String} :
    key ∈ (peers.filter (·.1 ≠ identity)).map Prod.fst ↔ key ≠ identity ∧ key ∈ peers.map Prod.fst := by
  simp only [List.mem_map, List.mem_filter, decide_eq_true_eq]
  constructor
  · rintro ⟨q, ⟨hq, hne⟩, rfl⟩
    exact ⟨hne, q, hq, rfl⟩
  · rintro ⟨hne, q, hq, rfl⟩
    exact ⟨q, ⟨hq, hne⟩, rfl⟩

/-- `PreUp` leaves the peer manager alone. -/
theorem PreUp_pm (s : Server σ) (cfg : ServerConfig) : (s.PreUp p Public h cfg).1.pm = s.pm := by
  unfold Server.PreUp
  split <;> rfl

/-- What `AddPeer` can do to the server and the interface: nothing (an
    invalid request); put the peer and stop, when `Put` fails, assigns no
    address or `wg set` fails; or put the peer and give it its addresses
    on the interface. -/
theorem AddPeer_cases (s : Server σ) (peers : Peers) (r : PeerRequest) :
    (s.AddPeer pm h peers r).1 = (s, peers) ∨
    (∃ pm' res, pm.Put s.pm r.Key = (pm', res) ∧
      (s.AddPeer pm h peers r).1 = ({ s with pm := pm' }, peers) ∧
      ((∃ err, res = .error err) ∨ res = .ok [] ∨
        ∃ addrs err, res = .ok addrs ∧ h.Run (setPeerArgs s.name r.Key addrs) = some err)) ∨
    (∃ pm' addrs, pm.Put s.pm r.Key = (pm', .ok addrs) ∧
      h.Run (setPeerArgs s.name r.Key addrs) = none ∧
      (s.AddPeer pm h peers r).1 = ({ s with pm := pm' }, (r.Key, addrs) :: peers.filter (·.1 ≠ r.Key))) := by
  simp only [Server.AddPeer]
  split
  · exact .inl rfl
  · split
    next pm' err hput => exact .inr (.inl ⟨pm', _, hput, rfl, .inl ⟨err, rfl⟩⟩)
    next pm' hput => exact .inr (.inl ⟨pm', _, hput, rfl, .inr (.inl rfl)⟩)
    next pm' addrs _ hput =>
      split
      next err hrun => exact .inr (.inl ⟨pm', _, hput, rfl, .inr (.inr ⟨addrs, err, rfl, hrun⟩)⟩)
      next hrun => exact .inr (.inr ⟨pm', addrs, hput, hrun, rfl⟩)

/-- What `RemovePeer` can do: nothing, or take the peer off the interface
    and then out of the peer manager. -/
theorem RemovePeer_cases (s : Server σ) (peers : Peers) (r : PeerRequest) :
    (s.RemovePeer pm h peers r).1 = (s, peers) ∨
    (s.RemovePeer pm h peers r).1 =
      ({ s with pm := pm.Delete s.pm r.Key }, peers.filter (·.1 ≠ r.Key)) := by
  simp only [Server.RemovePeer]
  split
  · exact .inl rfl
  · split
    · exact .inl rfl
    · exact .inr rfl

/-- Keeping the interface's peers or removing them all keeps them
    registered. -/
theorem registered_of_keep_or_clear {s : Server σ} {peers peers' : Peers}
    (hs : Registered pm (s, peers)) (he : peers' = peers ∨ peers' = []) : Registered pm (s, peers') := by
  rcases he with rfl | rfl
  · exact hs
  · exact fun q hq => absurd hq (List.not_mem_nil q)

section Registered

variable {pm} (hl : pm.Lawful)
include hl

theorem AddPeer_registered {s : Server σ} {peers : Peers} (hs : Registered pm (s, peers))
    (r : PeerRequest) : Registered pm (s.AddPeer pm h peers r).1 := by
  rcases AddPeer_cases pm h s peers r with he | ⟨pm', res, hput, he, -⟩ | ⟨pm', addrs, hput, -, he⟩ <;>
    rw [he]
  · exact hs
  · exact fun q hq => hl.get_put hput (hs q hq)
  · intro q hq
    rcases List.mem_cons.mp hq with rfl | hq
    · exact (hl.get_put_ok hput _).2 (.inl rfl)
    · exact hl.get_put hput (hs q (List.mem_of_mem_filter hq))

theorem RemovePeer_registered {s : Server σ} {peers : Peers} (hs : Registered pm (s, peers))
    (r : PeerRequest) : Registered pm (s.RemovePeer pm h peers r).1 := by
  rcases RemovePeer_cases pm h s peers r with he | he <;> rw [he]
  · exact hs
  · intro q hq
    have hq' := List.mem_filter.mp hq
    exact (hl.get_delete _ _ _).2 ⟨of_decide_eq_true hq'.2, hs q hq'.1⟩

/-- Every call keeps the peers of the interface in the peer manager. -/
theorem step_registered {st : Server σ × Peers} (hs : Registered pm st) (c : Vpn.Call ServerConfig) :
    Registered pm (step p Public pm h st c) := by
  cases c with
  | PreUp cfg =>
    simp only [Registered, step, PreUp_pm]
    exact hs
  | Up => exact registered_of_keep_or_clear pm hs (Up_peers h st.1 st.2)
  | Down => exact registered_of_keep_or_clear pm hs (Down_peers h st.1 st.2)
  | AddPeer r => exact AddPeer_registered h hl hs r
  | RemovePeer r => exact RemovePeer_registered h hl hs r
  | _ => exact hs

/-- **Every peer of the interface is in the peer manager, over any run.**
    With a lawful peer manager, from a state where every peer of the
    interface is in the peer manager, so it is after any run of calls,
    whatever the host answers: a command that fails can leave a peer in
    the peer manager that the interface lacks, never the other way. -/
theorem run_interface_peers_registered {st : Server σ × Peers} (hs : Registered pm st)
    (calls : List (Host × Vpn.Call ServerConfig)) : Registered pm (run p Public pm st calls) := by
  induction calls generalizing st with
  | nil => exact hs
  | cons c calls ih => exact ih (step_registered p Public c.1 hl hs c.2)

end Registered

/-- A peer manager that keeps the identities it was given, assigns each
    one address, and forgets every record of an identity it deletes. -/
def peerSet : PeerManager (List String) where
  Put pm identity := (identity :: pm, .ok ["10.8.0.2/32"])
  Get pm identity := pm.contains identity
  Delete pm identity := pm.filter (· ≠ identity)
  Len pm := pm.length

theorem peerSet_lawful : peerSet.Lawful where
  get_put_ok hput key := by
    obtain ⟨rfl, -⟩ := Prod.mk.inj hput.symm
    simp [peerSet]
  get_put_error hput := by cases (Prod.mk.inj hput).2
  get_delete s identity key := by
    simp [peerSet, and_comm]

/-- The interface `wg0` before any peer. -/
def wg0Empty : Server (List String) := ⟨"", [], "wg0", []⟩

/-- A host on which every `wg` and `wg-quick` command succeeds. -/
def runsAll : Host := ⟨none, none, fun _ => none, fun _ => none⟩

/-- A host on which every `wg` and `wg-quick` command fails. -/
def runsNone : Host :=
  ⟨none, none, fun _ => some (.new "exit status 1"), fun _ => some (.new "exit status 1")⟩

theorem run_interface_peers_registered_peerSet :
    Registered peerSet (run (V2ray.tableParsers []) id peerSet (wg0Empty, [])
      [(runsNone, .AddPeer ⟨"a", none⟩), (runsAll, .AddPeer ⟨"b", none⟩),
        (runsNone, .RemovePeer ⟨"b", none⟩)]) :=
  run_interface_peers_registered _ _ peerSet_lawful (fun _ hq => absurd hq (List.not_mem_nil _)) _

section Agreement

variable {pm} (hl : pm.Lawful)
include hl

theorem AddPeer_agrees (hne : ∀ s identity s', pm.Put s identity ≠ (s', .ok []))
    (hrun : ∀ args, h.Run args = none) {s : Server σ} {peers : Peers} (hs : Agrees pm (s, peers))
    (r : PeerRequest) : Agrees pm (s.AddPeer pm h peers r).1 := by
  rcases AddPeer_cases pm h s peers r with
    he | ⟨pm', res, hput, he, ⟨err, rfl⟩ | rfl | ⟨addrs, err, -, hfail⟩⟩ | ⟨pm', addrs, hput, -, he⟩
  · rw [he]; exact hs
  · rw [he]
    intro key
    rw [hl.get_put_error hput]
    exact hs key
  · exact absurd hput (hne _ _ _)
  · rw [hrun] at hfail; cases hfail
  · rw [he]
    intro key
    rw [hl.get_put_ok hput, List.map_cons, List.mem_cons, mem_map_fst_filter, hs key]
    by_cases hk : key = r.Key <;> simp [hk]

theorem RemovePeer_agrees {s : Server σ} {peers : Peers} (hs : Agrees pm (s, peers)) (r : PeerRequest) :
    Agrees pm (s.RemovePeer pm h peers r).1 := by
  rcases RemovePeer_cases pm h s peers r with he | he <;> rw [he]
  · exact hs
  · intro key
    rw [hl.get_delete, mem_map_fst_filter, hs key]

/-- A peer call whose `wg` commands succeed keeps the agreement. -/
theorem step_agrees (hne : ∀ s identity s', pm.Put s identity ≠ (s', .ok []))
    (hrun : ∀ args, h.Run args = none) {st : Server σ × Peers} (hs : Agrees pm st)
    {c : Vpn.Call ServerConfig} (hc : c.isPeerCall = true) : Agrees pm (step p Public pm h st c) := by
  cases c with
  | AddPeer r => exact AddPeer_agrees h hl hne hrun hs r
  | RemovePeer r => exact RemovePeer_agrees h hl hs r
  | _ => cases hc

/-- **While every command succeeds, the peer manager and the interface
    agree.** With a lawful peer manager that assigns every peer it puts at
    least one address, from a state where the peer manager holds exactly
    the peers of the interface, so it does after any run of `AddPeer` and
    `RemovePeer` calls on hosts that run every `wg` command. -/
theorem peer_calls_keep_interface_agreement (hne : ∀ s identity s', pm.Put s identity ≠ (s', .ok []))
    {st : Server σ × Peers} (hs : Agrees pm st) (calls : List (Host × Vpn.Call ServerConfig))
    (hcalls : ∀ c ∈ calls, c.2.isPeerCall = true ∧ ∀ args, c.1.Run args = none) :
    Agrees pm (run p Public pm st calls) := by
  induction calls generalizing st with
  | nil => exact hs
  | cons c calls ih =>
    rw [List.forall_mem_cons] at hcalls
    exact ih (step_agrees p Public c.1 hl hne hcalls.1.2 hs hcalls.1.1) hcalls.2

end Agreement

theorem peer_calls_keep_interface_agreement_peerSet :
    Agrees peerSet (run (V2ray.tableParsers []) id peerSet (wg0Empty, [])
      [(runsAll, .AddPeer ⟨"a", none⟩), (runsAll, .AddPeer ⟨"b", none⟩),
        (runsAll, .RemovePeer ⟨"a", none⟩)]) :=
  peer_calls_keep_interface_agreement _ _ peerSet_lawful
    (fun _ _ _ hput => List.cons_ne_nil _ _ (Except.ok.inj (Prod.mk.inj hput).2))
    (fun key => by simp [peerSet, wg0Empty]) _ (by simp [Call.isPeerCall, runsAll])

end Wireguard

/-! ## Section 2: V2Ray -/

namespace V2ray

open Vpn

variable {σ : Type}

/-- What the results assume of a peer manager: `Get` answers whether the
    peer was put and not deleted since. -/
structure PeerManager.Lawful (pm : PeerManager σ) : Prop where
  get_put : ∀ (s : σ) (email key : String), pm.Get (pm.Put s email) key = true ↔ key = email ∨ pm.Get s key = true
  get_delete : ∀ (s : σ) (email key : String),
    pm.Get (pm.Delete s email) key = true ↔ key ≠ email ∧ pm.Get s key = true

variable (p : Parsers) (v : Protocols) (pm : PeerManager σ) (h : Host)

/-- The process holds a user on an inbound exactly when the peer manager
    holds the peer and the server has the inbound's tag in its metadata. -/
def Agrees (st : Server σ × Users) : Prop :=
  ∀ tag key, (tag, key) ∈ st.2 ↔ pm.Get st.1.pm key = true ∧ tag ∈ st.1.metadata.map (·.Tag.String v)

theorem mem_map_user {mds : List ServerMetadata} {email tag key : String} :
    (tag, key) ∈ mds.map (fun m => (m.Tag.String v, email)) ↔
      key = email ∧ tag ∈ mds.map (·.Tag.String v) := by
  simp only [List.mem_map, Prod.mk.injEq]
  constructor
  · rintro ⟨m, hm, rfl, rfl⟩
    exact ⟨rfl, m, hm, rfl⟩
  · rintro ⟨rfl, m, hm, rfl⟩
    exact ⟨m, hm, rfl, rfl⟩

/-- The loop of `RemovePeer` through entries whose calls succeed takes
    the user off each of their inbounds. -/
theorem removeUser_append (email : String) (pre rest : List ServerMetadata) (k : Nat) (users : Users)
    (hpre : ∀ j m, pre[j]? = some m → h.AlterInbound (k + j) (m.Tag.String v) = none) :
    ∃ users', removeUser v h email k (pre ++ rest) users = removeUser v h email (k + pre.length) rest users' ∧
      ∀ u, u ∈ users' ↔ u ∈ users ∧ u ∉ pre.map fun m => (m.Tag.String v, email) := by
  induction pre generalizing k users with
  | nil => exact ⟨users, rfl, by simp⟩
  | cons m pre ih =>
    have hm : h.AlterInbound k (m.Tag.String v) = none := hpre 0 m (by simp)
    obtain ⟨users', heq, hmem⟩ := ih (k + 1) (users.filter (· ≠ (m.Tag.String v, email)))
      fun j m' hj => by rw [show k + 1 + j = k + (j + 1) by omega]; exact hpre (j + 1) m' (by simpa using hj)
    refine ⟨users', ?_, fun u => ?_⟩
    · rw [List.cons_append, removeUser, hm, heq, List.length_cons, Nat.add_right_comm, Nat.add_assoc]
    · rw [hmem, List.mem_filter, List.map_cons, List.mem_cons, decide_eq_true_eq]
      tauto

/-- What `AddPeer` does when every call of the API succeeds: nothing (an
    invalid request, or no API client), or put the user on every inbound
    and then the peer in the peer manager. -/
theorem AddPeer_of_api_ok (hok : ∀ k t, h.AlterInbound k t = none) (s : Server σ) (users : Users)
    (r : PeerRequest) :
    (s.AddPeer v pm h users r).1 = (s, users) ∨
    (s.AddPeer v pm h users r).1 =
      ({ s with pm := pm.Put s.pm r.Key }, (s.metadata.map fun m => (m.Tag.String v, r.Key)).reverse ++ users) := by
  have hloop := addUser_of_succeeds v h r.Key s.metadata 0 users fun _ _ _ => hok _ _
  simp only [Server.AddPeer]
  split
  · exact .inl rfl
  · split
    · exact .inl rfl
    · simp only [hloop]
      split <;> exact .inr rfl

/-- What `RemovePeer` does when every call of the API succeeds: nothing,
    or take the user off every inbound and then the peer out of the peer
    manager. -/
theorem RemovePeer_of_api_ok (hok : ∀ k t, h.AlterInbound k t = none) (s : Server σ) (users : Users)
    (r : PeerRequest) :
    (s.RemovePeer v pm h users r).1 = (s, users) ∨
    ∃ users', (s.RemovePeer v pm h users r).1 = ({ s with pm := pm.Delete s.pm r.Key }, users') ∧
      ∀ u, u ∈ users' ↔ u ∈ users ∧ u ∉ s.metadata.map fun m => (m.Tag.String v, r.Key) := by
  obtain ⟨users', heq, hmem⟩ := removeUser_append v h r.Key s.metadata [] 0 users fun _ _ _ => hok _ _
  rw [List.append_nil] at heq
  simp only [Server.RemovePeer]
  split
  · exact .inl rfl
  · split
    · exact .inl rfl
    · simp only [heq, removeUser]
      exact .inr ⟨users', by split <;> rfl, hmem⟩

section Agreement

variable {pm} (hl : pm.Lawful)
include hl

theorem AddPeer_agrees (hok : ∀ k t, h.AlterInbound k t = none) {s : Server σ} {users : Users}
    (hs : Agrees v pm (s, users)) (r : PeerRequest) : Agrees v pm (s.AddPeer v pm h users r).1 := by
  rcases AddPeer_of_api_ok v pm h hok s users r with he | he <;> rw [he]
  · exact hs
  · intro tag key
    rw [List.mem_append, List.mem_reverse, mem_map_user, hs tag key]
    simp only [hl.get_put, or_and_right]

theorem RemovePeer_agrees (hok : ∀ k t, h.AlterInbound k t = none) {s : Server σ} {users : Users}
    (hs : Agrees v pm (s, users)) (r : PeerRequest) : Agrees v pm (s.RemovePeer v pm h users r).1 := by
  rcases RemovePeer_of_api_ok v pm h hok s users r with he | ⟨users', he, hmem⟩ <;> rw [he]
  · exact hs
  · intro tag key
    rw [hmem, mem_map_user, hs tag key]
    simp only [hl.get_delete]
    tauto

/-- A peer call whose API calls succeed keeps the agreement. -/
theorem step_agrees (hok : ∀ k t, h.AlterInbound k t = none) {st : Server σ × Users}
    (hs : Agrees v pm st) {c : Vpn.Call ServerConfig} (hc : c.isPeerCall = true) :
    Agrees v pm (step p v pm h st c) := by
  cases c with
  | AddPeer r => exact AddPeer_agrees v h hl hok hs r
  | RemovePeer r => exact RemovePeer_agrees v h hl hok hs r
  | _ => cases hc

/-- **While every call of the API succeeds, the peer manager and the
    inbounds agree.** With a lawful peer manager, from a state where the
    process holds a user on an inbound exactly when the peer manager holds
    the peer, so it does after any run of `AddPeer` and `RemovePeer` calls
    on hosts whose V2Ray API accepts every `AlterInbound`. -/
theorem peer_calls_keep_inbounds_agreement {st : Server σ × Users} (hs : Agrees v pm st)
    (calls : List (Host × Vpn.Call ServerConfig))
    (hcalls : ∀ c ∈ calls, c.2.isPeerCall = true ∧ ∀ k t, c.1.AlterInbound k t = none) :
    Agrees v pm (run p v pm st calls) := by
  induction calls generalizing st with
  | nil => exact hs
  | cons c calls ih =>
    rw [List.forall_mem_cons] at hcalls
    exact ih (step_agrees p v c.1 hl hcalls.1.2 hs hcalls.1.1) hcalls.2

end Agreement

/-- A peer manager that keeps the emails it was given and forgets every
    record of an email it deletes. -/
def emailSet : PeerManager (List String) where
  Put pm email := email :: pm
  Get pm email := pm.contains email
  Delete pm email := pm.filter (· ≠ email)
  Len pm := pm.length

theorem emailSet_lawful : emailSet.Lawful where
  get_put s email key := by simp [emailSet]
  get_delete s email key := by simp [emailSet, and_comm]

/-- A host whose V2Ray API accepts every call. -/
def alterAll : Host where
  WriteToFile := none
  Start := .ok 1
  WriteFile := none
  Wait := none
  PIDFile := none
  ParseInt _ := .ok 0
  NewProcess _ := none
  Terminate := none
  RemoveFile := none
  NewClient := none
  Close := none
  AlterInbound _ _ := none

/-- The tag of an inbound on port `8080` over `tcp`. -/
def tcp8080 : Tag := ⟨⟨8080, 8080, 8080, 8080⟩, "vmess", "none", "tcp"⟩

/-- The tag of an inbound on port `8081` over `grpc`. -/
def grpc8081 : Tag := ⟨⟨8081, 8081, 8081, 8081⟩, "vmess", "none", "grpc"⟩

/-- A running server with the two inbounds and no peer. -/
def twoInbounds : Server (List String) := ⟨some (some 1), "", [⟨tcp8080⟩, ⟨grpc8081⟩], "v2ray", []⟩

theorem peer_calls_keep_inbounds_agreement_twoInbounds :
    Agrees vmessProtocols emailSet (run (tableParsers []) vmessProtocols emailSet (twoInbounds, [])
      [(alterAll, .AddPeer ⟨"a", none⟩), (alterAll, .AddPeer ⟨"b", none⟩),
        (alterAll, .RemovePeer ⟨"a", none⟩)]) :=
  peer_calls_keep_inbounds_agreement _ _ emailSet_lawful
    (fun tag key => by simp [emailSet, twoInbounds]) _ (by simp [Call.isPeerCall, alterAll])

/-- **A failed `RemovePeer` leaves the peer registered and off the
    inbounds before the failure.** When the V2Ray API fails, with an error
    that is not "not found", on the inbound of entry `pre.length` of the
    metadata after taking the user off the entries `pre` before it,
    `RemovePeer` returns the error with the server unchanged, so its peer
    manager (and `HasPeer`) still holds the peer, while the process has
    lost the user on each inbound of `pre`. -/
theorem RemovePeer_of_alter_fails (s : Server σ) (users : Users) (r : PeerRequest)
    (hr : r.ValidateError = none) (hc : handlerServiceClient h = none) (hclose : h.Close = none)
    {pre : List ServerMetadata} {md : ServerMetadata} {rest : List ServerMetadata} {err : Error}
    (hmd : s.metadata = pre ++ md :: rest)
    (hpre : ∀ j m, pre[j]? = some m → h.AlterInbound j (m.Tag.String v) = none)
    (hfail : h.AlterInbound pre.length (md.Tag.String v) = some err)
    (hnf : stringsContains err.text "not found" = false) :
    (s.RemovePeer v pm h users r).1.1 = s ∧
      (s.RemovePeer v pm h users r).2 = .err (.errorf "failed to alter inbound: " err) ∧
      ∀ u, u ∈ (s.RemovePeer v pm h users r).1.2 ↔
        u ∈ users ∧ u ∉ pre.map fun m => (m.Tag.String v, r.Key) := by
  obtain ⟨users', heq, hmem⟩ := removeUser_append v h r.Key pre (md :: rest) 0 users (by simpa using hpre)
  have hloop : removeUser v h r.Key 0 s.metadata users = (users', some err) := by
    rw [hmd, heq, removeUser, Nat.zero_add, hfail]
    simp [hnf]
  simp only [Server.RemovePeer, hr, hc, hloop, hclose]
  exact ⟨trivial, trivial, hmem⟩

/-- A host whose V2Ray API accepts the first `AlterInbound` of a call and
    fails the others. -/
def alterFirst : Host :=
  { alterAll with AlterInbound := fun k _ => if k = 0 then none else some (.new "inbound not running") }

/-- The peer `peer` on both inbounds. -/
def peerOnBoth : Users := [(tcp8080.String vmessProtocols, "peer"), (grpc8081.String vmessProtocols, "peer")]

theorem RemovePeer_of_alter_fails_second :
    ({ twoInbounds with pm := ["peer"] }.RemovePeer vmessProtocols emailSet alterFirst peerOnBoth
        ⟨"peer", none⟩).1.1 = { twoInbounds with pm := ["peer"] } ∧
      ({ twoInbounds with pm := ["peer"] }.RemovePeer vmessProtocols emailSet alterFirst peerOnBoth
        ⟨"peer", none⟩).2 = .err (.errorf "failed to alter inbound: " (.new "inbound not running")) ∧
      ∀ u, u ∈ ({ twoInbounds with pm := ["peer"] }.RemovePeer vmessProtocols emailSet alterFirst
          peerOnBoth ⟨"peer", none⟩).1.2 ↔
        u ∈ peerOnBoth ∧ u ∉ [(⟨tcp8080⟩ : ServerMetadata)].map fun m => (m.Tag.String vmessProtocols, "peer") :=
  @RemovePeer_of_alter_fails _ vmessProtocols emailSet alterFirst _ peerOnBoth ⟨"peer", none⟩ rfl rfl rfl
    [⟨tcp8080⟩] ⟨grpc8081⟩ [] _ rfl
    (fun j m hj => by cases j with
      | zero => rfl
      | succ j => simp at hj) rfl (by decide)

end V2ray

end Qubetics
