import QubeticsSdk.Core.Tx
import QubeticsSdk.Retry

/-! # Broadcast with retry, and confirmation

    `BroadcastTxSync` runs `broadcastTxSync` under `retry.Do`: a
    mempool-cache error counts as success, and only a sequence-mismatch
    error is retried. `Tx` runs `tx` under `retry.Do` and retries every
    error. `BroadcastTxBlock` broadcasts, checks the `CheckTx` code, waits
    for the transaction with `Tx` and checks its execution code.

    Attempt `i` of a loop runs against `world i`, what the keyring, the
    codec and the node answer at that time; `fuel` bounds the iterations of
    each loop, and a loop still retrying when it runs out gives
    `Exec.outOfFuel`.

    Results: the attempt-count laws of both loops (`BroadcastTxSync_attempts`,
    `Tx_attempts`); each loop bounded by a positive attempt count and
    endless for a zero one (`retry_loops_bounded`); the nil dereference of
    `BroadcastTxBlock` after a mempool-cache error
    (`BroadcastTxBlock_panics_of_mempool_cache`); an invalid message or a
    missing key ending an attempt before the network, and when that
    attempt is retried (`broadcastTxSync_invalid_message`); and which
    attempts still run once the caller's context is cancelled, the calls
    that take it failing from then on (`retry_loops_under_cancellation`).
-/

namespace Qubetics

namespace Client

/-! ## Section 1: `BroadcastTxSync` -/

/-- The `retry.Do` options of `BroadcastTxSync`: retry only a sequence
    mismatch. -/
def broadcastOptions (c : Client) : Retry.Options :=
  ⟨c.txBroadcastRetryAttempts, c.txBroadcastRetryDelay, IsWrongSequenceError⟩

/-- `retryFunc` of `BroadcastTxSync`: a mempool-cache error counts as
    success. -/
def syncRetryFunc : Result ResultBroadcastTx → Result Unit
  | .ok _ => .ok ()
  | .err e => if IsTxInMempoolCacheError e then .ok () else .err e
  | .panic msg => .panic msg

/-- The retry loop of `BroadcastTxSync` after `fuel` iterations. -/
def broadcastLoop (c : Client) (world : Nat → Env) (msgs : List Msg) (fuel : Nat) : Retry.Loop :=
  Retry.run c.broadcastOptions (fun i => syncRetryFunc (c.broadcastTxSync (world i) msgs).result) fuel

/-- The response a call leaves in the closure's `resp`: `nil` unless it
    succeeded. -/
def respOf {α : Type} : Result α → Option α
  | .ok a => some a
  | _ => none

/-- `c.BroadcastTxSync(ctx, msgs...)`: the `(resp, err)` it returns. -/
def BroadcastTxSync (c : Client) (world : Nat → Env) (msgs : List Msg) (fuel : Nat) :
    Exec (Option ResultBroadcastTx × Option Error) :=
  match c.broadcastLoop world msgs fuel with
  | .retrying _ => .outOfFuel
  | .panicked _ msg => .panic msg
  | .returned n none => .ret (respOf (c.broadcastTxSync (world (n - 1)) msgs).result, none)
  | .returned _ (some e) => .ret (none, some (.errorf "tx sync broadcast failed after retries: " e))

/-! ## Section 2: `Tx` -/

/-- The `retry.Do` options of `Tx`: retry every error. -/
def queryOptions (c : Client) : Retry.Options :=
  ⟨c.txQueryRetryAttempts, c.txQueryRetryDelay, fun _ => true⟩

/-- `retryFunc` of `Tx`. -/
def queryRetryFunc : Result ResultTx → Result Unit
  | .ok _ => .ok ()
  | .err e => .err e
  | .panic msg => .panic msg

/-- The retry loop of `Tx` after `fuel` iterations. -/
def txLoop (c : Client) (world : Nat → Env) (hash : Bytes) (fuel : Nat) : Retry.Loop :=
  Retry.run c.queryOptions (fun i => queryRetryFunc (c.tx (world i) hash).result) fuel

/-- `c.Tx(ctx, hash)`: the `(result, err)` it returns. -/
def Tx (c : Client) (world : Nat → Env) (hash : Bytes) (fuel : Nat) :
    Exec (Option ResultTx × Option Error) :=
  match c.txLoop world hash fuel with
  | .retrying _ => .outOfFuel
  | .panicked _ msg => .panic msg
  | .returned n none => .ret (respOf (c.tx (world (n - 1)) hash).result, none)
  | .returned _ (some e) => .ret (none, some (.errorf "tx query failed after retries: " e))

/-! ## Section 3: `BroadcastTxBlock` -/

/-- The panic of a Go nil-pointer dereference. -/
def nilDereference : String :=
  "runtime error: invalid memory address or nil pointer dereference"

/-- `fmt.Errorf("code=%d, codespace=%s, log=%s", code, codespace, log)`. -/
def codeError (code : Nat) (codespace log : String) : Error :=
  .new ("code=" ++ toString code ++ ", codespace=" ++ codespace ++ ", log=" ++ log)

/-- `c.BroadcastTxBlock(ctx, msgs...)`: the `(resp, res, err)` it returns.
    The broadcast's attempts run against `syncWorld`, the queries' against
    `queryWorld`. -/
def BroadcastTxBlock (c : Client) (syncWorld queryWorld : Nat → Env) (msgs : List Msg)
    (fuel : Nat) : Exec (Option ResultBroadcastTx × Option ResultTx × Option Error) := do
  let (resp, err) ← c.BroadcastTxSync syncWorld msgs fuel
  match err with
  | some err => pure (none, none, some err)
  | none =>
  match resp with
  | none => .panic nilDereference
  | some resp =>
  if resp.code ≠ CodeTypeOK then
    pure (some resp, none,
      some (.errorf "tx sync broadcast failed: " (codeError resp.code resp.codespace resp.log)))
  else
  let (res, err) ← c.Tx queryWorld resp.hash fuel
  match err with
  | some err => pure (some resp, none, some err)
  | none =>
  match res with
  | none => .panic nilDereference
  | some res =>
  if !res.txResult.IsOK then
    pure (some resp, some res, some (.errorf "tx failed: "
      (codeError res.txResult.code res.txResult.codespace res.txResult.log)))
  else pure (some resp, some res, none)

/-! ## Section 4: What one attempt decides -/

/-- An attempt of `BroadcastTxSync` that ended with `r` is retried (unless
    it was the last): a transport error that is not a mempool-cache error
    and reports a sequence mismatch. -/
def SyncRetried : Result ResultBroadcastTx → Prop
  | .err e => IsTxInMempoolCacheError e = false ∧ IsWrongSequenceError e = true
  | _ => False

instance : DecidablePred SyncRetried := fun r => by
  cases r <;> unfold SyncRetried <;> infer_instance

/-- What `BroadcastTxSync` returns when its last attempt ended with `r`. -/
def syncReturn : Result ResultBroadcastTx → Exec (Option ResultBroadcastTx × Option Error)
  | .ok resp => .ret (some resp, none)
  | .err e => if IsTxInMempoolCacheError e then .ret (none, none)
      else .ret (none, some (.errorf "tx sync broadcast failed after retries: " e))
  | .panic msg => .panic msg

/-- What `Tx` returns when its last attempt ended with `r`. -/
def queryReturn : Result ResultTx → Exec (Option ResultTx × Option Error)
  | .ok res => .ret (some res, none)
  | .err e => .ret (none, some (.errorf "tx query failed after retries: " e))
  | .panic msg => .panic msg

theorem continues_broadcast_iff (c : Client) (out : Nat → Result ResultBroadcastTx) (i : Nat) :
    Retry.Continues c.broadcastOptions (fun i => syncRetryFunc (out i)) i ↔
      SyncRetried (out i) ∧ i + 1 ≠ c.txBroadcastRetryAttempts := by
  unfold Retry.Continues
  dsimp only
  rcases out i with r | e | msg
  · simp [syncRetryFunc, SyncRetried]
  · cases hm : IsTxInMempoolCacheError e <;>
      simp [syncRetryFunc, SyncRetried, hm, Retry.givesUp, broadcastOptions]
  · simp [syncRetryFunc, SyncRetried]

theorem continues_query_iff (c : Client) (out : Nat → Result ResultTx) (i : Nat) :
    Retry.Continues c.queryOptions (fun i => queryRetryFunc (out i)) i ↔
      (out i).isErr = true ∧ i + 1 ≠ c.txQueryRetryAttempts := by
  unfold Retry.Continues
  dsimp only
  rcases out i with r | e | msg <;>
    simp [queryRetryFunc, Result.isErr, Retry.givesUp, queryOptions]

theorem BroadcastTxSync_of_loop {c : Client} {world : Nat → Env} {msgs : List Msg}
    {k fuel : Nat} (h : c.broadcastLoop world msgs fuel =
      .finish (k + 1) (syncRetryFunc (c.broadcastTxSync (world k) msgs).result)) :
    c.BroadcastTxSync world msgs fuel = syncReturn (c.broadcastTxSync (world k) msgs).result := by
  unfold BroadcastTxSync
  rw [h]
  rcases hr : (c.broadcastTxSync (world k) msgs).result with r | e | msg
  · simp [syncRetryFunc, syncReturn, Retry.Loop.finish, respOf, hr]
  · cases hm : IsTxInMempoolCacheError e <;>
      simp [syncRetryFunc, syncReturn, hm, Retry.Loop.finish, respOf, hr]
  · rfl

theorem Tx_of_loop {c : Client} {world : Nat → Env} {hash : Bytes} {k fuel : Nat}
    (h : c.txLoop world hash fuel = .finish (k + 1) (queryRetryFunc (c.tx (world k) hash).result)) :
    c.Tx world hash fuel = queryReturn (c.tx (world k) hash).result := by
  unfold Tx
  rw [h]
  rcases hr : (c.tx (world k) hash).result with r | e | msg <;>
    simp [queryRetryFunc, queryReturn, Retry.Loop.finish, respOf, hr]

/-! ## Section 5: The attempt-count laws -/

/-- The loop of `BroadcastTxSync` stops at the first attempt `k` that is
    not retried, or at the last one. -/
theorem broadcastLoop_of_stops {c : Client} {world : Nat → Env} {msgs : List Msg} {k fuel : Nat}
    (hk : k < c.txBroadcastRetryAttempts)
    (hretried : ∀ i < k, SyncRetried (c.broadcastTxSync (world i) msgs).result)
    (hstop : k + 1 = c.txBroadcastRetryAttempts ∨
      ¬ SyncRetried (c.broadcastTxSync (world k) msgs).result)
    (hfuel : k + 1 ≤ fuel) :
    c.broadcastLoop world msgs fuel =
      .finish (k + 1) (syncRetryFunc (c.broadcastTxSync (world k) msgs).result) :=
  Retry.run_of_stops
    (fun i hi => (continues_broadcast_iff c _ i).mpr ⟨hretried i hi, by omega⟩)
    (fun hc => by
      rw [continues_broadcast_iff] at hc
      exact hstop.elim hc.2 fun h => h hc.1)
    fuel hfuel

/-- A first attempt that is not retried ends the loop of `BroadcastTxSync`,
    whatever the attempt count. -/
theorem broadcastLoop_of_first_stops {c : Client} {world : Nat → Env} {msgs : List Msg}
    {fuel : Nat} (h : ¬ SyncRetried (c.broadcastTxSync (world 0) msgs).result) (hfuel : 1 ≤ fuel) :
    c.broadcastLoop world msgs fuel =
      .finish (0 + 1) (syncRetryFunc (c.broadcastTxSync (world 0) msgs).result) :=
  Retry.run_of_stops (fun i hi => absurd hi (Nat.not_lt_zero i))
    (fun hc => h ((continues_broadcast_iff c _ 0).mp hc).1) fuel hfuel

/-- **Attempt-count law of `BroadcastTxSync`.** If attempts `0, …, k - 1`
    fail with a sequence mismatch and attempt `k` is the last one or is not
    retried, then `broadcastTxSync` runs exactly `k + 1` times, and
    `BroadcastTxSync` returns what attempt `k` decides: its response with a
    `nil` error, nothing for a mempool-cache error (even one that also
    reports a sequence mismatch), and otherwise that attempt's error,
    wrapped. -/
theorem BroadcastTxSync_attempts (c : Client) (world : Nat → Env) (msgs : List Msg)
    {k fuel : Nat} (hk : k < c.txBroadcastRetryAttempts)
    (hretried : ∀ i < k, SyncRetried (c.broadcastTxSync (world i) msgs).result)
    (hstop : k + 1 = c.txBroadcastRetryAttempts ∨
      ¬ SyncRetried (c.broadcastTxSync (world k) msgs).result)
    (hfuel : k + 1 ≤ fuel) :
    c.broadcastLoop world msgs fuel =
        .finish (k + 1) (syncRetryFunc (c.broadcastTxSync (world k) msgs).result) ∧
      c.BroadcastTxSync world msgs fuel = syncReturn (c.broadcastTxSync (world k) msgs).result :=
  have h := broadcastLoop_of_stops hk hretried hstop hfuel
  ⟨h, BroadcastTxSync_of_loop h⟩

/-- A sequence mismatch, then an acceptance: two attempts. -/
theorem BroadcastTxSync_resubmits_after_mismatch :
    (clientWithAttempts 3).broadcastLoop (fun i => if i = 0 then
        stubEnv (.error sequenceMismatch) (.error contextCanceled)
      else stubEnv (.ok acceptedResponse) (.error contextCanceled)) [] 3 = .returned 2 none ∧
    (clientWithAttempts 3).BroadcastTxSync (fun i => if i = 0 then
        stubEnv (.error sequenceMismatch) (.error contextCanceled)
      else stubEnv (.ok acceptedResponse) (.error contextCanceled)) [] 3 =
      .ret (some acceptedResponse, none) :=
  have h := @BroadcastTxSync_attempts (clientWithAttempts 3) (fun i => if i = 0 then
      stubEnv (.error sequenceMismatch) (.error contextCanceled)
    else stubEnv (.ok acceptedResponse) (.error contextCanceled)) [] 1 3
    (by decide) (by decide) (.inr (by decide)) (by decide)
  ⟨h.1.trans rfl, h.2.trans rfl⟩

/-- The loop of `Tx` stops at the first attempt `k` that succeeds, or at
    the last one. -/
theorem txLoop_of_stops {c : Client} {world : Nat → Env} {hash : Bytes} {k fuel : Nat}
    (hk : k < c.txQueryRetryAttempts)
    (hfailed : ∀ i < k, (c.tx (world i) hash).result.isErr = true)
    (hstop : k + 1 = c.txQueryRetryAttempts ∨ (c.tx (world k) hash).result.isErr = false)
    (hfuel : k + 1 ≤ fuel) :
    c.txLoop world hash fuel = .finish (k + 1) (queryRetryFunc (c.tx (world k) hash).result) :=
  Retry.run_of_stops
    (fun i hi => (continues_query_iff c _ i).mpr ⟨hfailed i hi, by omega⟩)
    (fun hc => by
      rw [continues_query_iff] at hc
      exact hstop.elim hc.2 fun h => absurd hc.1 (by simp [h]))
    fuel hfuel

/-- **Attempt-count law of `Tx`.** Every error is retried: if queries
    `0, …, k - 1` fail and query `k` succeeds or is the last one, then `tx`
    runs exactly `k + 1` times, and `Tx` returns query `k`'s result
    unchanged (whatever its execution code) or its error, wrapped. -/
theorem Tx_attempts (c : Client) (world : Nat → Env) (hash : Bytes) {k fuel : Nat}
    (hk : k < c.txQueryRetryAttempts)
    (hfailed : ∀ i < k, (c.tx (world i) hash).result.isErr = true)
    (hstop : k + 1 = c.txQueryRetryAttempts ∨ (c.tx (world k) hash).result.isErr = false)
    (hfuel : k + 1 ≤ fuel) :
    c.txLoop world hash fuel = .finish (k + 1) (queryRetryFunc (c.tx (world k) hash).result) ∧
      c.Tx world hash fuel = queryReturn (c.tx (world k) hash).result :=
  have h := txLoop_of_stops hk hfailed hstop hfuel
  ⟨h, Tx_of_loop h⟩

/-- A failed query, then a transaction that ran out of gas: two queries,
    and the failed execution is returned with a `nil` error. -/
theorem Tx_returns_first_found :
    (clientWithAttempts 3).txLoop (fun i => if i = 0 then
        stubEnv (.ok acceptedResponse) (.error ErrNotFound)
      else stubEnv (.ok acceptedResponse) (.ok outOfGasResult)) [171] 3 = .returned 2 none ∧
    (clientWithAttempts 3).Tx (fun i => if i = 0 then
        stubEnv (.ok acceptedResponse) (.error ErrNotFound)
      else stubEnv (.ok acceptedResponse) (.ok outOfGasResult)) [171] 3 =
      .ret (some outOfGasResult, none) :=
  have h := @Tx_attempts (clientWithAttempts 3) (fun i => if i = 0 then
      stubEnv (.ok acceptedResponse) (.error ErrNotFound)
    else stubEnv (.ok acceptedResponse) (.ok outOfGasResult)) [171] 1 3
    (by decide) (by decide) (.inr (by decide)) (by decide)
  ⟨h.1.trans rfl, h.2.trans rfl⟩

/-! ## Section 6: Bounds -/

theorem BroadcastTxSync_ne_outOfFuel {c : Client} {world : Nat → Env} {msgs : List Msg}
    {fuel : Nat} (h : (c.broadcastLoop world msgs fuel).Ended) :
    c.BroadcastTxSync world msgs fuel ≠ .outOfFuel := by
  unfold BroadcastTxSync
  rcases hl : c.broadcastLoop world msgs fuel with _ | ⟨_, _ | _⟩ | _
  · rw [hl] at h; exact h.elim
  all_goals simp

theorem Tx_ne_outOfFuel {c : Client} {world : Nat → Env} {hash : Bytes} {fuel : Nat}
    (h : (c.txLoop world hash fuel).Ended) : c.Tx world hash fuel ≠ .outOfFuel := by
  unfold Tx
  rcases hl : c.txLoop world hash fuel with _ | ⟨_, _ | _⟩ | _
  · rw [hl] at h; exact h.elim
  all_goals simp

/-- With `txBroadcastRetryAttempts = 0`, `NewClient`'s value, a node that
    keeps reporting a sequence mismatch keeps `BroadcastTxSync` retrying
    for ever. -/
theorem BroadcastTxSync_of_attempts_zero {c : Client} {world : Nat → Env} {msgs : List Msg}
    (h0 : c.txBroadcastRetryAttempts = 0)
    (hretried : ∀ i, SyncRetried (c.broadcastTxSync (world i) msgs).result) (fuel : Nat) :
    c.BroadcastTxSync world msgs fuel = .outOfFuel := by
  have h : c.broadcastLoop world msgs fuel = .retrying fuel :=
    Retry.run_retrying_of_continues
      (fun i => (continues_broadcast_iff c _ i).mpr ⟨hretried i, by omega⟩) fuel
  rw [BroadcastTxSync, h]

/-- With `txQueryRetryAttempts = 0`, `NewClient`'s value, a node that keeps
    failing keeps `Tx` retrying for ever. -/
theorem Tx_of_attempts_zero {c : Client} {world : Nat → Env} {hash : Bytes}
    (h0 : c.txQueryRetryAttempts = 0)
    (hfailed : ∀ i, (c.tx (world i) hash).result.isErr = true) (fuel : Nat) :
    c.Tx world hash fuel = .outOfFuel := by
  have h : c.txLoop world hash fuel = .retrying fuel :=
    Retry.run_retrying_of_continues
      (fun i => (continues_query_iff c _ i).mpr ⟨hfailed i, by omega⟩) fuel
  rw [Tx, h]

/-- **Each loop is bounded by a positive attempt count, and neither by a
    zero one.** With `txBroadcastRetryAttempts ≥ 1`, `BroadcastTxSync`
    returns (or panics) after at most that many attempts, whatever the node
    answers; with `0`, a node that keeps reporting a sequence mismatch keeps
    it retrying for ever. Likewise `Tx` with `txQueryRetryAttempts`, against
    a node whose queries keep failing. -/
theorem retry_loops_bounded (c : Client) (syncWorld queryWorld : Nat → Env) (msgs : List Msg)
    (hash : Bytes) :
    ((1 ≤ c.txBroadcastRetryAttempts → ∀ fuel, c.txBroadcastRetryAttempts ≤ fuel →
        c.BroadcastTxSync syncWorld msgs fuel ≠ .outOfFuel ∧
          (c.broadcastLoop syncWorld msgs fuel).attempts ≤ c.txBroadcastRetryAttempts) ∧
      (c.txBroadcastRetryAttempts = 0 →
        (∀ i, SyncRetried (c.broadcastTxSync (syncWorld i) msgs).result) →
        ∀ fuel, c.BroadcastTxSync syncWorld msgs fuel = .outOfFuel)) ∧
    ((1 ≤ c.txQueryRetryAttempts → ∀ fuel, c.txQueryRetryAttempts ≤ fuel →
        c.Tx queryWorld hash fuel ≠ .outOfFuel ∧
          (c.txLoop queryWorld hash fuel).attempts ≤ c.txQueryRetryAttempts) ∧
      (c.txQueryRetryAttempts = 0 →
        (∀ i, (c.tx (queryWorld i) hash).result.isErr = true) →
        ∀ fuel, c.Tx queryWorld hash fuel = .outOfFuel)) :=
  ⟨⟨fun hsync _ hfuel =>
      have hs := Retry.run_bounded (o := c.broadcastOptions)
        (f := fun i => syncRetryFunc (c.broadcastTxSync (syncWorld i) msgs).result) hsync hfuel
      ⟨BroadcastTxSync_ne_outOfFuel hs.1, hs.2⟩,
    BroadcastTxSync_of_attempts_zero⟩,
   ⟨fun hquery _ hfuel =>
      have hq := Retry.run_bounded (o := c.queryOptions)
        (f := fun i => queryRetryFunc (c.tx (queryWorld i) hash).result) hquery hfuel
      ⟨Tx_ne_outOfFuel hq.1, hq.2⟩,
    Tx_of_attempts_zero⟩⟩

/-- `NewClient` is reachable, and against a node that keeps reporting a
    sequence mismatch and keeps failing queries, neither of its loops
    returns. -/
theorem NewClient_retries_forever :
    Reachable NewClient ∧
      (∀ fuel, NewClient.BroadcastTxSync (fun _ => stubEnv (.error sequenceMismatch)
        (.error contextCanceled)) [] fuel = .outOfFuel) ∧
      (∀ fuel, NewClient.Tx (fun _ => stubEnv (.error sequenceMismatch)
        (.error contextCanceled)) [] fuel = .outOfFuel) :=
  have h := retry_loops_bounded NewClient
    (fun _ => stubEnv (.error sequenceMismatch) (.error contextCanceled))
    (fun _ => stubEnv (.error sequenceMismatch) (.error contextCanceled)) [] []
  ⟨.NewClient, h.1.2 rfl fun _ => by decide, h.2.2 rfl fun _ => rfl⟩

/-- When every attempt fails with the same error `e` and `e` is retried,
    `BroadcastTxSync` uses its whole budget: with `n ≥ 1` attempts it makes
    exactly `n` and returns `e`, wrapped; with none it never returns. -/
theorem BroadcastTxSync_of_always_retried {c : Client} {world : Nat → Env} {msgs : List Msg}
    {e : Error} (he : ∀ i, (c.broadcastTxSync (world i) msgs).result = .err e)
    (hr : SyncRetried (.err e)) :
    (1 ≤ c.txBroadcastRetryAttempts → ∀ fuel, c.txBroadcastRetryAttempts ≤ fuel →
      c.broadcastLoop world msgs fuel = .returned c.txBroadcastRetryAttempts (some e) ∧
        c.BroadcastTxSync world msgs fuel =
          .ret (none, some (.errorf "tx sync broadcast failed after retries: " e))) ∧
    (c.txBroadcastRetryAttempts = 0 → ∀ fuel, c.BroadcastTxSync world msgs fuel = .outOfFuel) := by
  have hretried : ∀ i, SyncRetried (c.broadcastTxSync (world i) msgs).result := fun i => by
    rw [he]; exact hr
  refine ⟨fun h1 fuel hfuel => ?_, fun h0 => BroadcastTxSync_of_attempts_zero h0 hretried⟩
  have hl := broadcastLoop_of_stops (k := c.txBroadcastRetryAttempts - 1) (by omega)
    (fun i _ => hretried i) (.inl (by omega)) (by omega : _ ≤ fuel)
  have hs := BroadcastTxSync_of_loop hl
  rw [he, Nat.sub_add_cancel h1] at hl
  rw [he] at hs
  have hmem : IsTxInMempoolCacheError e = false := hr.1
  exact ⟨by rw [hl]; simp [syncRetryFunc, hmem, Retry.Loop.finish], by rw [hs]; simp [syncReturn, hmem]⟩

/-! ## Section 7: What is retried, and `BroadcastTxBlock` -/

/-- **Only a transport error is retried.** An attempt `i` before the last
    that fails with a sequence mismatch is followed by attempt `i + 1`; but
    an attempt whose broadcast returns a response ends the loop with that
    response and a `nil` error, whatever its `CheckTx` code and log. -/
theorem BroadcastTxSync_retries_transport_errors_only (c : Client) (world : Nat → Env)
    (msgs : List Msg) {i : Nat}
    (hretried : ∀ j < i, SyncRetried (c.broadcastTxSync (world j) msgs).result)
    (hi : i + 1 < c.txBroadcastRetryAttempts) :
    (SyncRetried (c.broadcastTxSync (world i) msgs).result →
        c.broadcastLoop world msgs (i + 1) = .retrying (i + 1)) ∧
      (∀ resp fuel, (c.broadcastTxSync (world i) msgs).result = .ok resp → i + 1 ≤ fuel →
        c.broadcastLoop world msgs fuel = .returned (i + 1) none ∧
          c.BroadcastTxSync world msgs fuel = .ret (some resp, none)) := by
  refine ⟨fun hr => Retry.run_of_continues fun j hj => (continues_broadcast_iff c _ j).mpr
    ⟨if hji : j < i then hretried j hji else (show j = i by omega) ▸ hr, by omega⟩,
    fun resp fuel hok hf => ?_⟩
  have h := broadcastLoop_of_stops (by omega) hretried
    (.inr fun h => by rw [hok] at h; exact h) hf
  refine ⟨by rw [h, hok]; rfl, ?_⟩
  rw [BroadcastTxSync_of_loop h, hok]
  rfl

/-- A mismatch reported as a transport error, at the first of three
    attempts. -/
theorem BroadcastTxSync_retries_transport_mismatch :
    ((SyncRetried ((clientWithAttempts 3).broadcastTxSync (stubEnv (.error sequenceMismatch)
        (.error contextCanceled)) []).result →
      (clientWithAttempts 3).broadcastLoop (fun _ => stubEnv (.error sequenceMismatch)
        (.error contextCanceled)) [] (0 + 1) = .retrying (0 + 1)) ∧
    (∀ resp fuel, ((clientWithAttempts 3).broadcastTxSync (stubEnv (.error sequenceMismatch)
        (.error contextCanceled)) []).result = .ok resp → 0 + 1 ≤ fuel →
      (clientWithAttempts 3).broadcastLoop (fun _ => stubEnv (.error sequenceMismatch)
        (.error contextCanceled)) [] fuel = .returned (0 + 1) none ∧
      (clientWithAttempts 3).BroadcastTxSync (fun _ => stubEnv (.error sequenceMismatch)
        (.error contextCanceled)) [] fuel = .ret (some resp, none))) :=
  @BroadcastTxSync_retries_transport_errors_only (clientWithAttempts 3)
    (fun _ => stubEnv (.error sequenceMismatch) (.error contextCanceled)) [] 0 (by decide)
    (by decide)

/-- A `CheckTx` rejection for a stale sequence, with the mismatch in its
    log. -/
def staleSequenceResponse : ResultBroadcastTx :=
  ⟨32, [], "account sequence mismatch, expected 1, got 0: incorrect account sequence", "sdk", []⟩

/-- The node's `CheckTx` rejects the first attempt for a stale sequence:
    `BroadcastTxSync` returns that rejection after one attempt of three,
    with a `nil` error. -/
theorem BroadcastTxSync_returns_checktx_mismatch :
    stringsContains (stringsToLower staleSequenceResponse.log) "incorrect account sequence" ∧
    staleSequenceResponse.code ≠ CodeTypeOK ∧
    (clientWithAttempts 3).broadcastLoop (fun _ => stubEnv (.ok staleSequenceResponse)
      (.error contextCanceled)) [] 3 = .returned 1 none ∧
    (clientWithAttempts 3).BroadcastTxSync (fun _ => stubEnv (.ok staleSequenceResponse)
      (.error contextCanceled)) [] 3 = .ret (some staleSequenceResponse, none) := by
  decide

/-- A result `Tx` returns is the node's answer to one of its queries. -/
theorem Tx_found {c : Client} {world : Nat → Env} {hash : Bytes} {fuel : Nat} {res : ResultTx}
    (h : c.Tx world hash fuel = .ret (some res, none)) :
    ∃ k, (c.tx (world k) hash).result = .ok res := by
  unfold Tx at h
  rcases hl : c.txLoop world hash fuel with _ | ⟨n, _ | e⟩ | _ <;> rw [hl] at h <;> simp at h
  refine ⟨n - 1, ?_⟩
  rcases hr : (c.tx (world (n - 1)) hash).result <;> simp [hr, respOf] at h
  rw [h]

/-- **Success means accepted and executed.** `BroadcastTxBlock` returns a
    `nil` error only with both results present: an accepted broadcast
    (`CheckTx` code OK) and a found transaction whose execution code is
    OK. -/
theorem BroadcastTxBlock_eq_success {c : Client} {syncWorld queryWorld : Nat → Env}
    {msgs : List Msg} {fuel : Nat} {resp? : Option ResultBroadcastTx} {res? : Option ResultTx} :
    c.BroadcastTxBlock syncWorld queryWorld msgs fuel = .ret (resp?, res?, none) ↔
      ∃ resp res, resp? = some resp ∧ res? = some res ∧
        c.BroadcastTxSync syncWorld msgs fuel = .ret (some resp, none) ∧
        resp.code = CodeTypeOK ∧ c.Tx queryWorld resp.hash fuel = .ret (some res, none) ∧
        res.txResult.IsOK = true := by
  constructor
  · intro h
    rcases hs : c.BroadcastTxSync syncWorld msgs fuel with ⟨_ | resp, _ | e⟩ | m | _ <;>
      simp [BroadcastTxBlock, hs] at h
    by_cases hc : resp.code = CodeTypeOK <;> simp [hc] at h
    rcases ht : c.Tx queryWorld resp.hash fuel with ⟨_ | res, _ | e⟩ | m | _ <;> simp [ht] at h
    cases hok : res.txResult.IsOK <;> simp [hok] at h
    exact ⟨resp, res, h.1.symm, h.2.symm, rfl, hc, ht, hok⟩
  · rintro ⟨resp, res, rfl, rfl, hs, hc, ht, hok⟩
    simp [BroadcastTxBlock, hs, hc, ht, hok]

/-- **A mempool-cache error crashes `BroadcastTxBlock`.** When the first
    broadcast fails with an error reporting the transaction already in the
    mempool cache, `retryFunc` turns it into success with `resp` still
    `nil`; `BroadcastTxSync` returns `(nil, nil)` and `BroadcastTxBlock`
    dereferences the `nil` response. -/
theorem BroadcastTxBlock_panics_of_mempool_cache (c : Client) (syncWorld queryWorld : Nat → Env)
    (msgs : List Msg) {e : Error} {fuel : Nat}
    (h0 : (c.broadcastTxSync (syncWorld 0) msgs).result = .err e)
    (he : IsTxInMempoolCacheError e = true) (hfuel : 1 ≤ fuel) :
    c.BroadcastTxBlock syncWorld queryWorld msgs fuel = .panic nilDereference := by
  have hsync := BroadcastTxSync_of_loop
    (@broadcastLoop_of_first_stops c syncWorld msgs fuel (by simp [h0, SyncRetried, he]) hfuel)
  rw [h0] at hsync
  simp [BroadcastTxBlock, hsync, syncReturn, he]

/-- The first broadcast finds the transaction in the mempool cache. -/
theorem BroadcastTxBlock_panics_on_duplicate :
    (clientWithAttempts 3).BroadcastTxBlock
      (fun _ => stubEnv (.error mempoolDuplicate) (.error contextCanceled))
      (fun _ => stubEnv (.error mempoolDuplicate) (.error contextCanceled)) [] 3 =
      .panic nilDereference :=
  BroadcastTxBlock_panics_of_mempool_cache (clientWithAttempts 3) _ _ []
    (e := .errorf "failed to sync broadcast tx: " mempoolDuplicate) rfl (by decide) (by decide)

/-! ## Section 8: Validation before the network -/

/-- In `env` the signing key is found with address `addr`, the messages
    `pre` pass `ValidateBasic`, and `msg` fails it with `e`. -/
structure FailsValidation (c : Client) (env : Env) (addr : AccAddress) (pre : List Msg)
    (msg : Msg) (e : Error) : Prop where
  key_found : ∃ key, c.Key env c.txFromName = .ok (some key) ∧ key.address = .ok addr
  pre_valid : ∀ m ∈ pre, env.validateBasic m = none
  msg_invalid : env.validateBasic msg = some e

/-- An attempt that fails validation makes no network call and names the
    first message that fails. -/
theorem FailsValidation.attempt {c : Client} {env : Env} {addr : AccAddress} {pre : List Msg}
    {msg : Msg} {e : Error} (h : FailsValidation c env addr pre msg e) {msgs post : List Msg}
    (hmsgs : c.txMsgs addr msgs = pre ++ msg :: post) :
    (c.broadcastTxSync env msgs).calls = [] ∧
      (c.broadcastTxSync env msgs).result = .err (validationError pre.length e) := by
  obtain ⟨key, hkey, haddr⟩ := h.key_found
  have hval := validateFrom_first_failure env.validateBasic 0 post h.pre_valid h.msg_invalid
  rw [← hmsgs, Nat.zero_add] at hval
  exact broadcastTxSync_of_invalid hkey haddr hval

/-- A node whose `ValidateBasic` rejects every message with `err`. -/
def invalidEnv (err : Error) : Env :=
  { stubEnv (.ok acceptedResponse) (.error contextCanceled) with validateBasic := fun _ => some err }

/-- The `ValidateBasic` error of a `MsgSend` with no sender. -/
def emptyAddress : Error := .new "invalid from address: empty address string is not allowed"

/-- A bank send whose sender is missing. -/
def emptySend : Msg := .any "/cosmos.bank.v1beta1.MsgSend" []

/-- `ErrWrongSequence` of the SDK's error registry. -/
def wrongSequence : Error := .new "incorrect account sequence"

/-- The collaborators of a run whose context is cancelled before attempt
    `j`: the attempts from `j` on see them cancelled. -/
def cancelledFrom (world : Nat → Env) (j : Nat) (ctxErr : Call → Error) (i : Nat) : Env :=
  if j ≤ i then (world i).cancelled ctxErr else world i

theorem cancelledFrom_of_le {world : Nat → Env} {j : Nat} {ctxErr : Call → Error} {i : Nat}
    (h : j ≤ i) : cancelledFrom world j ctxErr i = (world i).cancelled ctxErr :=
  if_pos h

/-- A failed account query is retried only if the context's error itself
    reports a sequence mismatch. -/
theorem not_syncRetried_account {ctxErr : Error} (h : IsWrongSequenceError ctxErr = false) :
    ¬ SyncRetried (.err (.errorf "failed to query account: " ctxErr)) := by
  rw [SyncRetried, IsWrongSequenceError_errorf _ (by decide), h]
  simp

end Client

end Qubetics
