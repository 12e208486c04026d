import QubeticsSdk.V2ray.Config

/-! # The V2Ray server

    `Server` of package `v2ray` as a state machine over the calls of
    `types.ServerService`. The server keeps its process command, its
    metadata (one tag per inbound) and a peer manager; the V2Ray process it
    runs keeps, per inbound, the users added to it (`Users`). Every call to
    the file system, the process or the V2Ray API is an answer of the
    `Host`, which may be an error at any point.

    Results:
    * `PreUp` appends the tags of its configuration to the metadata, so a
      run's metadata is that of every `PreUp` of the run, one after the
      other (`run_metadata`);
    * `AddPeer` adds the user to the inbound of each metadata entry in
      turn (`AddPeer_of_alter_succeeds`); when the V2Ray API fails at the
      `k`-th, the user stays on the `k` before it and the call returns an
      error (`AddPeer_of_alter_fails`).

    The peer manager (`PeerManager`) and the request types are not under
    `src/`: the model takes the peer manager's operations as a record over
    its state.
-/

namespace Qubetics.V2ray

open Vpn

/-! ## Section 1: Model -/

/-- `ServerMetadata`: the tag of one inbound. -/
structure ServerMetadata where
  Tag : V2ray.Tag

/-- The calls the server makes on its peer manager, whose state is `σ`. -/
structure PeerManager (σ : Type) where
  /-- `pm.Put(&Peer{Email: email})`. -/
  Put : σ → String → σ
  /-- `pm.Get(email) != nil`. -/
  Get : σ → String → Bool
  /-- `pm.Delete(email)`. -/
  Delete : σ → String → σ
  /-- `pm.Len()`. -/
  Len : σ → Nat

/-- `Server`. `cmd` is `none` for a `nil` command, `some none` for a
    command whose process did not start, and `some (some pid)` for a
    started process. -/
structure Server (σ : Type) where
  cmd : Option (Option Nat)
  homeDir : String
  metadata : List ServerMetadata
  name : String
  pm : σ

/-- The users the V2Ray process holds: `(tag, email)` for a user on the
    inbound of that tag. -/
abbrev Users := List (String × String)

/-- What the host answers during one call of the server. -/
structure Host where
  /-- `cfg.WriteToFile(s.configFilePath())`. -/
  WriteToFile : Option Error
  /-- `s.cmd.Start()`: the pid of the started process. -/
  Start : Except Error Nat
  /-- `os.WriteFile` of the pid file. -/
  WriteFile : Option Error
  /-- `s.cmd.Wait()`. -/
  Wait : Option Error
  /-- The pid file: `none` when `os.Stat` reports that it does not exist,
      else what `os.ReadFile` returns. -/
  PIDFile : Option (Except Error String)
  /-- `strconv.ParseInt(s, 10, 32)`. -/
  ParseInt : String → Except Error Int
  /-- `process.NewProcessWithContext(ctx, pid)`. -/
  NewProcess : Int → Option Error
  /-- `proc.TerminateWithContext(ctx)`. -/
  Terminate : Option Error
  /-- `utils.RemoveFile(s.pidFilePath())`. -/
  RemoveFile : Option Error
  /-- `grpc.NewClient` of the API address. -/
  NewClient : Option Error
  /-- `conn.Close()`. -/
  Close : Option Error
  /-- The `k`-th `client.AlterInbound` of the call, on the inbound of the
      tag. -/
  AlterInbound : Nat → String → Option Error

/-- `process.ErrorProcessNotRunning`. -/
def ErrorProcessNotRunning : Error := .new "process does not exist"

variable {σ : Type} (p : Parsers) (v : Protocols) (pm : PeerManager σ) (h : Host)

/-! ## Section 2: The calls -/

/-- The loop of `PreUp`: one metadata entry per inbound, appended as the
    inbound's `Tag()` returns; a port that does not parse panics there. -/
def appendMetadata : List ServerMetadata → List InboundServerConfig → List ServerMetadata × Result Unit
  | md, [] => (md, .ok ())
  | md, inbound :: rest =>
    match inbound.Tag p with
    | .ok tag => appendMetadata (md ++ [⟨tag⟩]) rest
    | .err err => (md, .err err)
    | .panic msg => (md, .panic msg)

/-- `s.PreUp(cfg)`. -/
def Server.PreUp (s : Server σ) (cfg : ServerConfig) : Server σ × Result Unit :=
  match appendMetadata p s.metadata cfg.Inbounds with
  | (md, .ok ()) =>
    ({ s with metadata := md },
      match h.WriteToFile with
      | some err => .err (.errorf "failed to write config to file: " err)
      | none => .ok ())
  | (md, r) => ({ s with metadata := md }, r)

/-- `s.Up(ctx)`: the command is set whether or not its process starts. -/
def Server.Up (s : Server σ) : Server σ × Result Unit :=
  match h.Start with
  | .ok pid => ({ s with cmd := some (some pid) }, .ok ())
  | .error err => ({ s with cmd := some none }, .err (.errorf "failed to start command: " err))

/-- `s.writePIDToFile(pid)`. -/
def writePIDToFile : Option Error := h.WriteFile.map (.errorf "failed to write file: ")

/-- `s.PostUp()`: it writes the pid file and waits for the process. -/
def Server.PostUp (s : Server σ) : Result Unit :=
  match s.cmd with
  | some (some _) =>
    match writePIDToFile h with
    | some err => .err (.errorf "failed to write pid to file: " err)
    | none =>
      match h.Wait with
      | some err => .err (.errorf "failed to wait for command: " err)
      | none => .ok ()
  | _ => .err (.new "nil command or process")

/-- `s.readPIDFromFile()`: `0` when there is no pid file. -/
def readPIDFromFile : Except Error Int :=
  match h.PIDFile with
  | none => .ok 0
  | some (.error err) => .error (.errorf "failed to read file: " err)
  | some (.ok data) =>
    match h.ParseInt data with
    | .error err => .error (.errorf "failed to parse pid: " err)
    | .ok pid => .ok pid

/-- `s.Down(ctx)`: a process that is not running is not an error. -/
def Server.Down : Result Unit :=
  match readPIDFromFile h with
  | .error err => .err (.errorf "failed to read pid from file: " err)
  | .ok pid =>
    match h.NewProcess pid with
    | some err =>
      if err.is ErrorProcessNotRunning then .ok () else .err (.errorf "failed to get process: " err)
    | none =>
      match h.Terminate with
      | some err => .err (.errorf "failed to terminate process: " err)
      | none => .ok ()

/-- `s.PostDown()`. -/
def Server.PostDown : Result Unit :=
  match h.RemoveFile with
  | some err => .err (.errorf "failed to remove file: " err)
  | none => .ok ()

/-- `s.handlerServiceClient()`. -/
def handlerServiceClient : Option Error :=
  (h.NewClient.map (.errorf "failed to create grpc client: ")).map
    (.errorf "failed to get grpc client connection: ")

/-- The loop of `AddPeer`: from the `k`-th call on, add the user to the
    inbound of each entry, stopping at the first error. -/
def addUser (email : String) : Nat → List ServerMetadata → Users → Users × Option Error
  | _, [], users => (users, none)
  | k, md :: rest, users =>
    match h.AlterInbound k (md.Tag.String v) with
    | some err => (users, some err)
    | none => addUser email (k + 1) rest ((md.Tag.String v, email) :: users)

/-- `s.AddPeer(ctx, r)`: the server and the process's users after the
    call, and its result. The deferred `conn.Close()` panics when it
    fails. -/
def Server.AddPeer (s : Server σ) (users : Users) (r : PeerRequest) :
    (Server σ × Users) × Result (List ServerMetadata) :=
  match r.ValidateError with
  | some err => ((s, users), .err (.errorf "invalid request: " err))
  | none =>
    match handlerServiceClient h with
    | some err => ((s, users), .err (.errorf "failed to get handler service client: " err))
    | none =>
      let email := r.Key
      let out : (Server σ × Users) × Result (List ServerMetadata) :=
        match addUser v h email 0 s.metadata users with
        | (users, some err) => ((s, users), .err (.errorf "failed to alter inbound: " err))
        | (users, none) => (({ s with pm := pm.Put s.pm email }, users), .ok s.metadata)
      match h.Close with
      | some err => (out.1, .panic err.text)
      | none => out

/-- The loop of `RemovePeer`: remove the user from the inbound of each
    entry; an error that says `not found` is passed over. -/
def removeUser (email : String) : Nat → List ServerMetadata → Users → Users × Option Error
  | _, [], users => (users, none)
  | k, md :: rest, users =>
    match h.AlterInbound k (md.Tag.String v) with
    | some err =>
      if stringsContains err.text "not found" then removeUser email (k + 1) rest users
      else (users, some err)
    | none => removeUser email (k + 1) rest (users.filter (· ≠ (md.Tag.String v, email)))

/-- `s.RemovePeer(ctx, r)`. -/
def Server.RemovePeer (s : Server σ) (users : Users) (r : PeerRequest) :
    (Server σ × Users) × Result Unit :=
  match r.ValidateError with
  | some err => ((s, users), .err (.errorf "invalid request: " err))
  | none =>
    match handlerServiceClient h with
    | some err => ((s, users), .err (.errorf "failed to get handler service client: " err))
    | none =>
      let email := r.Key
      let out : (Server σ × Users) × Result Unit :=
        match removeUser v h email 0 s.metadata users with
        | (users, some err) => ((s, users), .err (.errorf "failed to alter inbound: " err))
        | (users, none) => (({ s with pm := pm.Delete s.pm email }, users), .ok ())
      match h.Close with
      | some err => (out.1, .panic err.text)
      | none => out

/-- `s.HasPeer(ctx, r)`. -/
def Server.HasPeer (s : Server σ) (r : PeerRequest) : Result Bool :=
  match r.ValidateError with
  | some err => .err (.errorf "invalid request: " err)
  | none => .ok (pm.Get s.pm r.Key)

/-- `s.PeerCount()`. -/
def Server.PeerCount (s : Server σ) : Nat := pm.Len s.pm

/-! ## Section 3: Runs -/

/-- The server and the process's users after one call. -/
def step (st : Server σ × Users) : Vpn.Call ServerConfig → Server σ × Users
  | .PreUp cfg => ((st.1.PreUp p h cfg).1, st.2)
  | .Up => ((st.1.Up h).1, st.2)
  | .PostUp | .PreDown | .Down | .PostDown => st
  | .AddPeer r => (st.1.AddPeer v pm h st.2 r).1
  | .RemovePeer r => (st.1.RemovePeer v pm h st.2 r).1

/-- A run: calls, each with what the host answers during it. -/
def run (st : Server σ × Users) (calls : List (Host × Vpn.Call ServerConfig)) : Server σ × Users :=
  calls.foldl (fun st c => step p v pm c.1 st c.2) st

/-! ## Section 4: Metadata over runs -/

/-- The entries a call appends to the metadata: a `PreUp` those of its
    inbounds up to the first whose port does not parse; any other call
    none. -/
def Call.entries : Vpn.Call ServerConfig → List ServerMetadata
  | .PreUp cfg => (appendMetadata p [] cfg.Inbounds).1
  | _ => []

/-- The loop of `PreUp` appends to what the metadata held. -/
theorem appendMetadata_eq (md : List ServerMetadata) (is : List InboundServerConfig) :
    appendMetadata p md is = (md ++ (appendMetadata p [] is).1, (appendMetadata p [] is).2) := by
  induction is generalizing md with
  | nil => simp [appendMetadata]
  | cons i is ih =>
    simp only [appendMetadata]
    split
    · rw [ih, List.nil_append, ih [_], List.append_assoc]
    · simp
    · simp

/-- `AddPeer` keeps the metadata. -/
theorem AddPeer_metadata (s : Server σ) (users : Users) (r : PeerRequest) :
    (s.AddPeer v pm h users r).1.1.metadata = s.metadata := by
  unfold Server.AddPeer
  dsimp only
  repeat' split
  all_goals rfl

/-- `RemovePeer` keeps the metadata. -/
theorem RemovePeer_metadata (s : Server σ) (users : Users) (r : PeerRequest) :
    (s.RemovePeer v pm h users r).1.1.metadata = s.metadata := by
  unfold Server.RemovePeer
  dsimp only
  repeat' split
  all_goals rfl

/-- One call appends its entries to the metadata. -/
theorem step_metadata (st : Server σ × Users) (c : Vpn.Call ServerConfig) :
    (step p v pm h st c).1.metadata = st.1.metadata ++ Call.entries p c := by
  cases c with
  | PreUp cfg =>
    simp only [step, Server.PreUp, Call.entries]
    rw [appendMetadata_eq]
    split <;> simp_all
  | Up => simp only [step, Server.Up]; split <;> simp [Call.entries]
  | AddPeer r => exact (AddPeer_metadata v pm h st.1 st.2 r).trans (List.append_nil _).symm
  | RemovePeer r => exact (RemovePeer_metadata v pm h st.1 st.2 r).trans (List.append_nil _).symm
  | _ => simp [step, Call.entries]

/-- **A run's metadata is that of each of its `PreUp`s in turn.** -/
theorem run_metadata (st : Server σ × Users) (calls : List (Host × Vpn.Call ServerConfig)) :
    (run p v pm st calls).1.metadata = st.1.metadata ++ calls.flatMap (Call.entries p ·.2) := by
  induction calls generalizing st with
  | nil => simp [run]
  | cons c calls ih =>
    simp only [run, List.foldl_cons] at ih ⊢
    rw [ih, step_metadata, List.flatMap_cons, List.append_assoc]

/-! ## Section 5: A failing `AddPeer` -/

/-- The loop of `AddPeer` keeps the user on the inbounds before the first
    failing call. -/
theorem addUser_of_fails (email : String) (md : ServerMetadata) (rest : List ServerMetadata)
    {err : Error} (pre : List ServerMetadata) (k : Nat) (users : Users)
    (hpre : ∀ j m, pre[j]? = some m → h.AlterInbound (k + j) (m.Tag.String v) = none)
    (hfail : h.AlterInbound (k + pre.length) (md.Tag.String v) = some err) :
    addUser v h email k (pre ++ md :: rest) users =
      ((pre.map fun m => (m.Tag.String v, email)).reverse ++ users, some err) := by
  induction pre generalizing k users with
  | nil => simp [addUser, show h.AlterInbound k (md.Tag.String v) = some err from hfail]
  | cons m pre ih =>
    have hm : h.AlterInbound k (m.Tag.String v) = none := hpre 0 m (by simp)
    have hpre' : ∀ j m', pre[j]? = some m' → h.AlterInbound (k + 1 + j) (m'.Tag.String v) = none :=
      fun j m' hj => by rw [Nat.add_right_comm, Nat.add_assoc]; exact hpre (j + 1) m' (by simpa using hj)
    have hfail' : h.AlterInbound (k + 1 + pre.length) (md.Tag.String v) = some err := by
      rw [Nat.add_assoc, Nat.add_comm 1]; exact hfail
    simp [addUser, hm, ih (k + 1) _ hpre' hfail']

/-- The loop of `AddPeer` adds the user once per entry when no call
    fails. -/
theorem addUser_of_succeeds (email : String) (mds : List ServerMetadata) (k : Nat) (users : Users)
    (hok : ∀ j m, mds[j]? = some m → h.AlterInbound (k + j) (m.Tag.String v) = none) :
    addUser v h email k mds users = ((mds.map fun m => (m.Tag.String v, email)).reverse ++ users, none) := by
  induction mds generalizing k users with
  | nil => rfl
  | cons m mds ih =>
    have hm : h.AlterInbound k (m.Tag.String v) = none := hok 0 m (by simp)
    have hok' : ∀ j m', mds[j]? = some m' → h.AlterInbound (k + 1 + j) (m'.Tag.String v) = none :=
      fun j m' hj => by rw [Nat.add_right_comm, Nat.add_assoc]; exact hok (j + 1) m' (by simpa using hj)
    simp [addUser, hm, ih (k + 1) _ hok']

/-- `AddPeer` adds the user once per metadata entry: when no call fails,
    the process gains one user per entry, and the peer is recorded. -/
theorem AddPeer_of_alter_succeeds (s : Server σ) (users : Users) (r : PeerRequest)
    (hr : r.ValidateError = none) (hc : handlerServiceClient h = none) (hclose : h.Close = none)
    (hok : ∀ j m, s.metadata[j]? = some m → h.AlterInbound j (m.Tag.String v) = none) :
    s.AddPeer v pm h users r =
      (({ s with pm := pm.Put s.pm r.Key },
        (s.metadata.map fun m => (m.Tag.String v, r.Key)).reverse ++ users), .ok s.metadata) := by
  have hloop := addUser_of_succeeds v h r.Key s.metadata 0 users (by simpa using hok)
  simp [Server.AddPeer, hr, hc, hclose, hloop]

/-- A failing `AddPeer` leaves the server as it was: its metadata and its
    peer manager. -/
theorem AddPeer_server_of_err (s : Server σ) (users : Users) (r : PeerRequest) {e : Error}
    (herr : (s.AddPeer v pm h users r).2 = .err e) : (s.AddPeer v pm h users r).1.1 = s := by
  simp only [Server.AddPeer] at herr ⊢
  repeat' split at herr
  all_goals simp_all

/-- **A failed `AddPeer` leaves the user on the inbounds before the
    failure.** When the V2Ray API fails on the inbound of entry
    `pre.length` of the metadata after adding the user to the entries
    `pre` before it, `AddPeer` returns the error with the server unchanged,
    and the process holds the user on each inbound of `pre`. -/
theorem AddPeer_of_alter_fails (s : Server σ) (users : Users) (r : PeerRequest)
    (hr : r.ValidateError = none) (hc : handlerServiceClient h = none) (hclose : h.Close = none)
    {pre : List ServerMetadata} {md : ServerMetadata} {rest : List ServerMetadata} {err : Error}
    (hmd : s.metadata = pre ++ md :: rest)
    (hpre : ∀ j m, pre[j]? = some m → h.AlterInbound j (m.Tag.String v) = none)
    (hfail : h.AlterInbound pre.length (md.Tag.String v) = some err) :
    s.AddPeer v pm h users r =
      ((s, (pre.map fun m => (m.Tag.String v, r.Key)).reverse ++ users),
        .err (.errorf "failed to alter inbound: " err)) := by
  have hloop := addUser_of_fails v h r.Key md rest pre 0 users (by simpa using hpre)
    (by simpa using hfail)
  simp [Server.AddPeer, hr, hc, hclose, hmd, hloop]

end Qubetics.V2ray
