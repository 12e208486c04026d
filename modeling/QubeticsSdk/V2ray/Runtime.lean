import QubeticsSdk.V2ray.Server
import QubeticsSdk.Utils.Strconv

/-! # The running V2Ray server: its pid file and its statistics

    Two parts of `Server` of package `v2ray` that talk to the running
    process.

    The pid file. `writePIDToFile(pid)` writes `strconv.Itoa(pid)`, and
    `readPIDFromFile` parses the file with `strconv.ParseInt(_, 10, 32)`.
    With the host's `ParseInt` taken as `strconv`'s (`parseInt32`), the
    file reads back the pid that was written whenever it fits in `int32`,
    and otherwise fails with the range error (`readPIDFromFile_Itoa`).

    The statistics. `PeerStatistics` opens a stats client, asks for each
    peer's uplink and downlink counters (`fn`, one `peerStatistic` per
    peer) through `s.pm.Iterate`, and returns the collected entries. Its
    results are named, and its deferred function assigns `err =
    conn.Close()`: when `Iterate` fails, the function sets `items = nil`
    and `err` to the wrapped error, and the deferred `Close` then
    overwrites that error with its own `nil`. So an error of `GetStats`
    never reaches the caller: once the stats client is open,
    `PeerStatistics` returns no statistics and no error, or panics when
    `Close` fails (`PeerStatistics_drops_iteration_error`).

    `PeerManager.Iterate` is not under `src/`: the model takes the peers
    in the order it visits them, and ends the iteration at the first
    error `fn` returns.
-/

namespace Qubetics.V2ray

open Strconv Vpn

/-! ## Section 1: The pid file -/

/-- The host's `strconv.ParseInt(s, 10, 32)`, as `strconv` computes it. -/
def parseInt32 (s : String) : Except Error Int := (ParseInt s 32).mapError NumError.toError

/-- The host `h` whose pid file holds `data` and whose `ParseInt` is
    `strconv`'s. -/
def Host.withPIDFile (h : Host) (data : String) : Host :=
  { h with PIDFile := some (.ok data), ParseInt := parseInt32 }

/-- **The pid file reads back.** The text `writePIDToFile` writes for
    `pid` is read back by `readPIDFromFile` as `pid` when it is in the
    range of `int32`; otherwise the read fails with the range error of
    `ParseInt`, wrapped as "failed to parse pid". -/
theorem readPIDFromFile_Itoa (h : Host) (pid : Int) :
    readPIDFromFile (h.withPIDFile (Itoa pid)) =
      if -(2 ^ 31 : Int) ≤ pid ∧ pid < 2 ^ 31 then .ok pid
      else .error (.errorf "failed to parse pid: " (NumError.toError ⟨"ParseInt", Itoa pid, ErrRange⟩)) := by
  have h32 : ParseInt (Itoa pid) 32 = if -(2 ^ 31 : Int) ≤ pid ∧ pid < 2 ^ 31 then .ok pid
      else .error ⟨"ParseInt", Itoa pid, ErrRange⟩ := ParseInt_Itoa pid (by decide) (by decide)
  simp only [readPIDFromFile, Host.withPIDFile, parseInt32, h32]
  by_cases hr : -(2 ^ 31 : Int) ≤ pid ∧ pid < 2 ^ 31
  · rw [if_pos hr, if_pos hr]
    rfl
  · rw [if_neg hr, if_neg hr]
    rfl

/-! ## Section 2: The statistics -/

/-- `s.statsServiceClient()`: a gRPC client over `s.clientConn()`, as
    `handlerServiceClient` opens one. -/
def statsServiceClient (h : Host) : Option Error := handlerServiceClient h

/-- One counter of `fn`: `GetStats`'s answer for a stat, `none` for a `nil`
    stat. An error whose text contains "not found", and a `nil` stat, read
    as an empty `Stat`, whose `GetValue()` is zero. -/
def statValue (answer : Except Error (Option Int)) : Except Error Int :=
  match answer with
  | .error err =>
    if stringsContains err.text "not found" then .ok 0 else .error (.errorf "failed to get stats: " err)
  | .ok none => .ok 0
  | .ok (some v) => .ok v

/-- `fn(key, _)` of `PeerStatistics`, `getStats` answering `client.GetStats`
    for a stat name: the peer's uplink, then its downlink. -/
def peerStatistic (getStats : String → Except Error (Option Int)) (key : String) :
    Except Error PeerStatistic := do
  let upLink ← statValue (getStats ("user>>>" ++ key ++ ">>>traffic>>>uplink"))
  let downLink ← statValue (getStats ("user>>>" ++ key ++ ">>>traffic>>>downlink"))
  pure ⟨key, downLink, upLink⟩

/-- `s.pm.Iterate(fn)` over the peers `keys`, in the order it visits them:
    the entries `fn` has appended to `items`, and the error that ended the
    iteration. -/
def iterateStats (getStats : String → Except Error (Option Int)) (items : List PeerStatistic) :
    List String → List PeerStatistic × Option Error
  | [] => (items, none)
  | key :: keys =>
    match peerStatistic getStats key with
    | .error err => (items, some err)
    | .ok item => iterateStats getStats (items ++ [item]) keys

/-- How a call with the named results `(items, err)` ends. -/
def namedResults : List PeerStatistic × Option Error → Result (List PeerStatistic)
  | (_, some err) => .err err
  | (items, none) => .ok items

/-- `s.PeerStatistics(ctx)` on the peers `keys`. A `return` sets the named
    results (`nil` and the wrapped error when `Iterate` fails); the
    deferred function then assigns `err = conn.Close()`, and panics when
    that error is not `nil`. -/
def Server.PeerStatistics (h : Host) (getStats : String → Except Error (Option Int))
    (keys : List String) : Result (List PeerStatistic) :=
  match statsServiceClient h with
  | some err => .err (.errorf "failed to get stats service client: " err)
  | none =>
    let results : List PeerStatistic × Option Error :=
      match iterateStats getStats [] keys with
      | (_, some err) => ([], some (.errorf "failed to iterate peers: " err))
      | (items, none) => (items, none)
    match h.Close with
    | some err => .panic err.text
    | none => namedResults (results.1, none)

theorem iterateStats_of_mapM (getStats : String → Except Error (Option Int)) :
    ∀ {keys : List String} {items : List PeerStatistic} (acc : List PeerStatistic),
      keys.mapM (peerStatistic getStats) = .ok items → iterateStats getStats acc keys = (acc ++ items, none)
  | [], items, acc, h => by
    cases h
    simp [iterateStats]
  | key :: keys, items, acc, h => by
    rw [List.mapM_cons] at h
    rcases hk : peerStatistic getStats key with e | item
    · rw [hk] at h; cases h
    · rcases hks : keys.mapM (peerStatistic getStats) with e | rest
      · rw [hk, hks] at h; cases h
      · rw [hk, hks] at h
        cases h
        simp only [iterateStats, hk, iterateStats_of_mapM getStats (acc ++ [item]) hks,
          List.append_assoc, List.singleton_append]

/-- **`PeerStatistics` loses the errors of `GetStats`.** The only error
    `PeerStatistics` returns is that of opening the stats client. Once the
    client is open and `Close` succeeds, an iteration that fails (a
    `GetStats` error other than "not found") ends with no statistics and
    no error, while an iteration that reads every peer returns one entry
    per peer, in the order `Iterate` visits them. -/
theorem PeerStatistics_drops_iteration_error (h : Host)
    (getStats : String → Except Error (Option Int)) (keys : List String) :
    (∀ e, Server.PeerStatistics h getStats keys = .err e →
      ∃ e', statsServiceClient h = some e' ∧ e = .errorf "failed to get stats service client: " e') ∧
    (statsServiceClient h = none → h.Close = none → (iterateStats getStats [] keys).2.isSome →
      Server.PeerStatistics h getStats keys = .ok []) ∧
    (statsServiceClient h = none → h.Close = none → ∀ items,
      keys.mapM (peerStatistic getStats) = .ok items → Server.PeerStatistics h getStats keys = .ok items) := by
  refine ⟨fun e he => ?_, fun hc hclose hit => ?_, fun hc hclose items hm => ?_⟩
  · unfold Server.PeerStatistics at he
    rcases hc : statsServiceClient h with _ | e'
    · rw [hc] at he
      dsimp only at he
      cases hcl : h.Close <;> simp [hcl, namedResults] at he
    · rw [hc] at he
      cases he
      exact ⟨e', rfl, rfl⟩
  · obtain ⟨err, herr⟩ := Option.isSome_iff_exists.mp hit
    simp only [Server.PeerStatistics, hc, hclose]
    rcases hi : iterateStats getStats [] keys with ⟨items, _ | e⟩
    · rw [hi] at herr; cases herr
    · rfl
  · simp only [Server.PeerStatistics, hc, hclose, iterateStats_of_mapM getStats [] hm,
      List.nil_append]
    rfl

/-- A host whose gRPC client opens and closes without error. -/
def statsHost : Host :=
  ⟨none, .ok 1, none, none, none, parseInt32, fun _ => none, none, none, none, none, fun _ _ => none⟩

/-- The stats service refuses the connection for `GetStats`: the statistics
    of two peers come back empty, and without an error. -/
theorem PeerStatistics_drops_refused :
    Server.PeerStatistics statsHost (fun _ => .error (.new "connection refused")) ["a", "b"] = .ok [] :=
  (PeerStatistics_drops_iteration_error statsHost _ ["a", "b"]).2.1 rfl rfl (by decide)

end Qubetics.V2ray
