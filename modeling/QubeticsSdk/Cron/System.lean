import Mathlib
import QubeticsSdk.Cron.Worker

/-! # The scheduler and its goroutines

    `Scheduler` of package `cron` together with the goroutines its `Start`
    launches. `Start`, `Stop` and `RegisterWorkers` hold `mu` from their
    first line to their return, so each call is one atomic event, except
    `Stop`, which holds `mu` while it waits in `s.wg.Wait()`: it is one
    event up to the wait (`call .Stop`) and one for the wait's return
    (`wait`), with every other call blocked on `mu` in between. Each
    goroutine `runWorker(w)` moves on its own, one `step` at a time (`go`),
    in any interleaving with the calls and with the other goroutines. Its
    `select` takes `<-s.stopSignal` only once the channel is closed, and
    `<-time.After(w.Interval())` at any time (time is not modelled).
    Goroutine `i`'s worker methods answer as `beh i` says.

    `Start` ranges over the worker map in Go's random order; the model
    launches in the map's list order, which no result depends on, since
    `beh` is arbitrary. A goroutine whose `Run` panics takes the program
    down once its deferred function has run; the model lets the others go
    on, which only adds runs, so what holds over every run of the model
    holds of the program.

    Over every interleaving (`Reach`):

    * the counter of `wg` is the number of goroutines still running, so
      `wg.Done` never takes it below zero, and each goroutine has called
      `OnExit` once if it has returned and never otherwise
      (`wg_counts_running`);
    * a scheduler that is not running has no goroutine running: a `Stop`
      that returns leaves none (`stopped_no_goroutine`);
    * if every registered worker has `MaxRuns() ≥ 1` and
      `RetryAttempts() ≥ 1`, a waiting `Stop` returns after a bounded
      number of goroutine steps (`Stop_wait_ends`);
    * if every registered worker has `RetryAttempts() ≥ 1`, whatever its
      `MaxRuns()`, a waiting `Stop` whose closed signal the `select`s take
      returns after at most the sum of `RetryAttempts() + 2` over the
      goroutines of their steps (`Stop_returns_when_signal_taken`);
    * a goroutine of a worker with `RetryAttempts() = 0` whose `Run` keeps
      failing never returns, and a `Stop` then waits for ever holding
      `mu` (`Stop_hangs`);
    * the scheduler's part of each state is a state of the sequential
      model of `Scheduler` (`Reach.refines_scheduler`).
-/

namespace Qubetics.Cron

/-! ## Section 1: Model -/

/-- `runWorker` has not run its deferred function. -/
def Phase.running : Phase → Bool
  | .exited _ => false
  | _ => true

/-- A goroutine `go s.runWorker(w)`: its worker, and where it stands. -/
structure Goroutine where
  worker : Worker
  state : State
  deriving DecidableEq, Repr

namespace Goroutine

/-- The goroutine has not run its deferred function. -/
def running (g : Goroutine) : Bool := g.state.phase.running

/-- The goroutine as `go s.runWorker(w)` starts it. -/
def start (w : Worker) : Goroutine := ⟨w, ⟨.head 0, 0, 0⟩⟩

/-- One step of the goroutine, its worker behaving as `b`; a `select`
    takes `<-s.stopSignal` when `stop` is `true`. -/
def advance (g : Goroutine) (b : Behaviour) (stop : Bool) : Goroutine :=
  ⟨g.worker, step g.worker { b with stop := fun _ => stop } g.state⟩

end Goroutine

/-- The scheduler and the goroutines it has launched. -/
structure System where
  sched : Scheduler
  /-- The counter of `wg`. -/
  wg : Int
  /-- A `Stop` holds `mu` and waits in `s.wg.Wait()`. -/
  waiting : Bool
  /-- The goroutines launched so far; goroutine `i` is the `i`-th. -/
  gs : List Goroutine
  deriving DecidableEq, Repr

/-- An event of the system. -/
inductive Event where
  /-- A call takes `mu` and runs to its return, or, for `Stop`, up to
      `s.wg.Wait()`. -/
  | call (c : Call)
  /-- The waiting `Stop`'s `s.wg.Wait()` returns. -/
  | wait
  /-- Goroutine `i` takes one step; at its `select` it takes
      `<-s.stopSignal` when `stop` is `true`. -/
  | go (i : Nat) (stop : Bool)
  deriving Repr

/-- The goroutines of `Start`'s loop over the worker map. -/
def launch (workers : List (String × Worker)) : List Goroutine :=
  workers.map fun p => Goroutine.start p.2

namespace System

/-- `NewScheduler()`, with no goroutine. -/
def init : System := ⟨NewScheduler, 0, false, []⟩

/-- `s.Start()`: on a stopped scheduler, set `isRunning` and, for each
    worker, `s.wg.Add(1)` and `go s.runWorker(w)`. -/
def Start (st : System) : System :=
  if st.sched.isRunning then st
  else { st with
    sched := { st.sched with isRunning := true }
    wg := st.wg + st.sched.workers.length
    gs := st.gs ++ launch st.sched.workers }

/-- `s.Stop()` up to `s.wg.Wait()`: nothing on a stopped scheduler; on a
    closed `stopSignal` `close` panics and the deferred `Unlock` releases
    `mu`; otherwise close it and wait, holding `mu`. -/
def Stop (st : System) : System :=
  if !st.sched.isRunning then st
  else if st.sched.stopClosed then st
  else { st with sched := { st.sched with stopClosed := true }, waiting := true }

/-- A call, holding `mu`. -/
def call (st : System) : Call → System
  | .Start => st.Start
  | .Stop => st.Stop
  | .RegisterWorkers workers => { st with sched := (st.sched.RegisterWorkers workers).1 }

/-- The rest of the waiting `Stop` once `s.wg.Wait()` returns:
    `s.isRunning = false`, and the deferred `Unlock`. -/
def stopped (st : System) : System :=
  { st with sched := { st.sched with isRunning := false }, waiting := false }

/-- Goroutine `i`, which is `g`, takes one step; if it returns, its
    deferred `s.wg.Done()` runs. -/
def goStep (beh : Nat → Behaviour) (st : System) (i : Nat) (stop : Bool) (g : Goroutine) :
    System :=
  { st with
    gs := st.gs.set i (g.advance (beh i) stop)
    wg := if (g.advance (beh i) stop).running then st.wg else st.wg - 1 }

/-- One event, if it is enabled: a call when no `Stop` holds `mu`; the
    wait's return when the counter is zero; a step of a running goroutine,
    taking the stop case only on a closed channel. -/
def step (beh : Nat → Behaviour) (st : System) : Event → Option System
  | .call c => if st.waiting then none else some (st.call c)
  | .wait => if st.waiting && st.wg == 0 then some st.stopped else none
  | .go i stop =>
    match st.gs[i]? with
    | some g =>
      if g.running && (!stop || st.sched.stopClosed) then some (st.goStep beh i stop g) else none
    | none => none

/-- The events `es` one after another, each enabled in its turn. -/
def run (beh : Nat → Behaviour) (st : System) : List Event → Option System
  | [] => some st
  | e :: es => (st.step beh e).bind fun st' => st'.run beh es

/-- The scheduler as the sequential model sees it: a waiting `Stop` has
    already returned. -/
def toScheduler (st : System) : Scheduler :=
  if st.waiting then { st.sched with isRunning := false } else st.sched

end System

/-- The states the system reaches from `NewScheduler()`, in every
    interleaving of calls and goroutine steps. -/
inductive Reach (beh : Nat → Behaviour) : System → Prop where
  | init : Reach beh System.init
  | step {st st' : System} (e : Event) : Reach beh st → st.step beh e = some st' → Reach beh st'

/-! ## Section 2: One goroutine -/

section Goroutines

variable {w : Worker} {b : Behaviour}

/-- `OnExit` has run once in a returned `runWorker`, never in a running
    one. -/
def State.ExitsOnce (s : State) : Prop := s.exits = if s.phase.running then 0 else 1

theorem ExitsOnce_step {s : State} (h : s.ExitsOnce) : (step w b s).ExitsOnce := by
  rcases step_cases (w := w) (b := b) s with ⟨c, hp, -, he⟩ | ⟨c, hp, -, he⟩ | ⟨c, a, hp, he⟩ |
      ⟨c, l, hp, -, ⟨p, he⟩ | he⟩ | ⟨-, he⟩
  all_goals rw [he]
  all_goals first
    | exact h
    | simp only [State.ExitsOnce, hp, Phase.running, exit_phase, exit_exits] at h ⊢; simp [h]

/-- A worker with `MaxRuns() = m ≥ 1` and `RetryAttempts() = n ≥ 1` has
    at most `m * (n + 2) + 1` steps left. -/
theorem Inv.rank_le {s : State} (h : Inv w b s) :
    rank w s ≤ w.maxRuns * (w.retryAttempts + 2) + 1 := by
  cases hp : s.phase with
  | head c =>
    simp only [rank, hp]
    exact Nat.add_le_add_right (Nat.mul_le_mul_right _ (Nat.sub_le _ _)) 1
  | loop c l =>
    simp only [Inv, hp] at h
    simp only [rank, hp]
    have hleft : stepsLeft w.retryAttempts l ≤ w.retryAttempts + 1 := by
      cases l <;> simp only [stepsLeft] <;> omega
    have hsplit : (w.maxRuns - c - 1) * (w.retryAttempts + 2) + (w.retryAttempts + 2) ≤
        w.maxRuns * (w.retryAttempts + 2) := by
      rw [← Nat.succ_mul]
      exact Nat.mul_le_mul_right _ (by omega)
    omega
  | exited p => simp only [rank, hp]; exact Nat.zero_le _

/-- The goroutine of a worker with `RetryAttempts() = 0` whose `Run` keeps
    failing in its first iteration is still at that iteration. -/
def Goroutine.Stuck (g : Goroutine) : Prop :=
  g.state.phase = .head 0 ∨ ∃ a, g.state.phase = .loop 0 (.retrying a)

theorem Goroutine.Stuck.running {g : Goroutine} (h : g.Stuck) : g.running = true := by
  rcases h with h | ⟨a, h⟩ <;> simp [Goroutine.running, h, Phase.running]

theorem Goroutine.Stuck.advance {g : Goroutine} (h0 : g.worker.retryAttempts = 0)
    (hfail : ∀ a, ∃ err, b.run 0 a = .err err ∧ b.retryIf err = true) (h : g.Stuck) (stop : Bool) :
    (g.advance b stop).Stuck := by
  rcases h with h | ⟨a, h⟩
  · exact .inr ⟨0, by simp [Goroutine.advance, step, h]⟩
  · obtain ⟨err, hr, hi⟩ := hfail a
    have hc : Retry.Continues (g.worker.retryOptions { b with stop := fun _ => stop }) (b.run 0) a :=
      ⟨err, hr, by simp [Retry.givesUp, Worker.retryOptions, hi, h0]⟩
    exact .inr ⟨a + 1, by simp only [Goroutine.advance, step, h, Retry.step_retrying_of_continues hc]⟩

end Goroutines

/-! ## Section 3: Step lemmas -/

namespace System

variable {beh : Nat → Behaviour} {st st' : System}

@[simp] theorem run_nil : st.run beh [] = some st := rfl

@[simp] theorem run_cons (e : Event) (es : List Event) :
    st.run beh (e :: es) = (st.step beh e).bind fun st' => st'.run beh es := rfl

theorem Stop_gs : st.Stop.gs = st.gs := by
  unfold Stop; split <;> (try split) <;> rfl

theorem Stop_wg : st.Stop.wg = st.wg := by
  unfold Stop; split <;> (try split) <;> rfl

theorem Stop_sched_isRunning : st.Stop.sched.isRunning = st.sched.isRunning := by
  unfold Stop; split <;> (try split) <;> rfl

theorem Stop_sched_workers : st.Stop.sched.workers = st.sched.workers := by
  unfold Stop; split <;> (try split) <;> rfl

/-- **Event inversion.** What one event can do: a call while no `Stop`
    waits; the wait's return at counter zero; a step of a running
    goroutine, taking the stop case only on a closed channel. -/
theorem step_cases {e : Event} (h : st.step beh e = some st') :
    (∃ c, st.waiting = false ∧ e = .call c ∧ st' = st.call c) ∨
    (st.waiting = true ∧ st.wg = 0 ∧ e = .wait ∧ st' = st.stopped) ∨
    (∃ i stop g, st.gs[i]? = some g ∧ g.running = true ∧ (stop = true → st.sched.stopClosed = true) ∧
      e = .go i stop ∧ st' = st.goStep beh i stop g) := by
  cases e with
  | call c =>
    by_cases hw : st.waiting = true
    · simp [step, hw] at h
    · have hw : st.waiting = false := by simpa using hw
      simp only [step, hw, Bool.false_eq_true, if_false, Option.some.injEq] at h
      exact .inl ⟨c, hw, rfl, h.symm⟩
  | wait =>
    by_cases hw : st.waiting = true ∧ st.wg = 0
    · simp only [step, hw, beq_self_eq_true, Bool.and_self, if_true, Option.some.injEq] at h
      exact .inr (.inl ⟨hw.1, hw.2, rfl, h.symm⟩)
    · simp only [step] at h
      split at h
      · simp_all
      · cases h
  | go i stop =>
    simp only [step] at h
    split at h
    · rename_i g hg
      by_cases hc : g.running = true ∧ (stop = true → st.sched.stopClosed = true)
      · have hen : (g.running && (!stop || st.sched.stopClosed)) = true := by
          cases stop <;> simp_all
        rw [if_pos hen, Option.some.injEq] at h
        exact .inr (.inr ⟨i, stop, g, hg, hc.1, hc.2, rfl, h.symm⟩)
      · have hen : (g.running && (!stop || st.sched.stopClosed)) = false := by
          cases stop <;> cases hr : g.running <;> simp_all
        rw [if_neg (by simp [hen])] at h
        cases h
    · cases h

/-- **Frame.** An event leaves goroutine `i` as it was, moves it one step,
    or launches it. -/
theorem getElem?_step {e : Event} (h : st.step beh e = some st') (i : Nat) :
    st'.gs[i]? = st.gs[i]? ∨
    (∃ g stop, st.gs[i]? = some g ∧ g.running = true ∧ st'.gs[i]? = some (g.advance (beh i) stop)) ∨
    (st.gs[i]? = none ∧ ∃ w, st'.gs[i]? = some (Goroutine.start w)) := by
  rcases step_cases h with ⟨c, -, -, rfl⟩ | ⟨-, -, -, rfl⟩ | ⟨j, stop, g, hg, hr, -, -, rfl⟩
  · cases c with
    | Start =>
      simp only [call]
      unfold Start
      split
      · exact .inl rfl
      · by_cases hi : i < st.gs.length
        · exact .inl (List.getElem?_append_left hi)
        · have hnone : st.gs[i]? = none := List.getElem?_eq_none (by omega)
          simp only [List.getElem?_append_right (Nat.le_of_not_lt hi), launch, List.getElem?_map]
          cases (st.sched.workers)[i - st.gs.length]? with
          | none => exact .inl hnone.symm
          | some p => exact .inr (.inr ⟨hnone, p.2, rfl⟩)
    | Stop => exact .inl (by simp only [call, Stop_gs])
    | RegisterWorkers ws => exact .inl rfl
  · exact .inl rfl
  · by_cases hij : j = i
    · subst hij
      have hlt : j < st.gs.length := (List.getElem?_eq_some_iff.mp hg).1
      exact .inr (.inl ⟨g, stop, hg, hr, List.getElem?_set_self hlt⟩)
    · exact .inl (List.getElem?_set_ne hij)

end System

/-- **Per-goroutine induction.** A property of goroutine `i` that holds
    when it is launched and that its steps preserve holds of every
    goroutine of every reachable state. -/
theorem Reach.forall_goroutine {beh : Nat → Behaviour} {P : Nat → Goroutine → Prop}
    (hstart : ∀ i w, P i (Goroutine.start w))
    (hadvance : ∀ i g stop, g.running = true → P i g → P i (g.advance (beh i) stop))
    {st : System} (hr : Reach beh st) : ∀ i g, st.gs[i]? = some g → P i g := by
  induction hr with
  | init => intro i g h; simp [System.init] at h
  | step e _ he ih =>
    intro i g hg
    rcases System.getElem?_step he i with h | ⟨g₀, stop, h₀, hrun, h⟩ | ⟨-, w, h⟩
    · exact ih i g (h ▸ hg)
    · rw [h, Option.some.injEq] at hg
      exact hg ▸ hadvance i g₀ stop hrun (ih i g₀ h₀)
    · rw [h, Option.some.injEq] at hg
      exact hg ▸ hstart i w

/-! ## Section 4: The invariant over every interleaving -/

/-- What holds in every state the system reaches. -/
structure System.Consistent (st : System) : Prop where
  /-- The counter of `wg` is the number of goroutines still running. -/
  wg_eq : st.wg = st.gs.countP Goroutine.running
  /-- A scheduler that is not running has no goroutine running. -/
  stopped : st.sched.isRunning = false → ∀ g ∈ st.gs, g.running = false
  /-- Every goroutine runs a registered worker. -/
  registered : ∀ g ∈ st.gs, g.worker ∈ st.sched.workers.map Prod.snd

theorem registerAll_mono {m : List (String × Worker)} {p : String × Worker} (hp : p ∈ m)
    (ws : List Worker) : p ∈ (Scheduler.registerAll m ws).1 := by
  induction ws generalizing m with
  | nil => exact hp
  | cons w ws ih =>
    unfold Scheduler.registerAll
    split
    · exact hp
    · exact ih (List.mem_cons_of_mem _ hp)

theorem countP_launch (ws : List (String × Worker)) :
    (launch ws).countP Goroutine.running = ws.length := by
  simp [launch, List.countP_map, Function.comp_def, Goroutine.running, Goroutine.start,
    Phase.running]

namespace System

variable {beh : Nat → Behaviour} {st st' : System}

theorem Consistent.call (hc : st.Consistent) (c : Call) : (st.call c).Consistent := by
  cases c with
  | Start =>
    simp only [System.call]
    unfold Start
    split
    · exact hc
    · refine ⟨?_, fun h => Bool.noConfusion h, ?_⟩
      · simp only [List.countP_append, countP_launch, hc.wg_eq]
        omega
      · intro g hg
        rcases List.mem_append.mp hg with hg | hg
        · exact hc.registered g hg
        · obtain ⟨p, hp, rfl⟩ := List.mem_map.mp hg
          exact List.mem_map_of_mem _ hp
  | Stop =>
    simp only [System.call]
    refine ⟨?_, ?_, ?_⟩
    · rw [Stop_wg, Stop_gs]; exact hc.wg_eq
    · rw [Stop_sched_isRunning, Stop_gs]; exact hc.stopped
    · rw [Stop_sched_workers, Stop_gs]; exact hc.registered
  | RegisterWorkers ws =>
    refine ⟨hc.wg_eq, ?_, ?_⟩
    · simp only [System.call, Scheduler.RegisterWorkers]
      split <;> exact hc.stopped
    · intro g hg
      obtain ⟨p, hp, he⟩ := List.mem_map.mp (hc.registered g hg)
      simp only [System.call, Scheduler.RegisterWorkers]
      split
      · exact List.mem_map.mpr ⟨p, hp, he⟩
      · exact List.mem_map.mpr ⟨p, registerAll_mono hp ws, he⟩

theorem Consistent.stopped_of_wait (hc : st.Consistent) (h0 : st.wg = 0) : st.stopped.Consistent := by
  have hnone : ∀ g ∈ st.gs, g.running = false := by
    have : st.gs.countP Goroutine.running = 0 := by have := hc.wg_eq; omega
    simpa using List.countP_eq_zero.mp this
  exact ⟨hc.wg_eq, fun _ => hnone, hc.registered⟩

theorem Consistent.goStep (hc : st.Consistent) {i : Nat} {stop : Bool} {g : Goroutine}
    (hg : st.gs[i]? = some g) (hr : g.running = true) : (st.goStep beh i stop g).Consistent := by
  have hmem : g ∈ st.gs := List.getElem?_mem hg
  have hlt : i < st.gs.length := (List.getElem?_eq_some_iff.mp hg).1
  have hgi : st.gs[i] = g := (List.getElem?_eq_some_iff.mp hg).2
  have hpos : 0 < st.gs.countP Goroutine.running := List.countP_pos_iff.mpr ⟨g, hmem, hr⟩
  refine ⟨?_, ?_, ?_⟩
  · simp only [System.goStep, List.countP_set _ _ _ _ hlt, hgi, hr, if_true, hc.wg_eq]
    rcases Bool.eq_false_or_eq_true (g.advance (beh i) stop).running with h | h <;>
      simp only [h, if_true, if_false, Bool.false_eq_true] <;> omega
  · intro hs
    exact absurd (hc.stopped hs g hmem) (by simp [hr])
  · intro g' hg'
    rcases List.mem_or_eq_of_mem_set hg' with hg' | rfl
    · exact hc.registered g' hg'
    · exact hc.registered g hmem

theorem Consistent.step (hc : st.Consistent) {e : Event} (h : st.step beh e = some st') :
    st'.Consistent := by
  rcases step_cases h with ⟨c, -, -, rfl⟩ | ⟨-, h0, -, rfl⟩ | ⟨i, stop, g, hg, hr, -, -, rfl⟩
  · exact hc.call c
  · exact hc.stopped_of_wait h0
  · exact hc.goStep hg hr

end System

theorem Reach.consistent {beh : Nat → Behaviour} {st : System} (hr : Reach beh st) :
    st.Consistent := by
  induction hr with
  | init => exact ⟨rfl, fun _ _ h => absurd h (List.not_mem_nil _), fun _ h => absurd h (List.not_mem_nil _)⟩
  | step e _ he ih => exact ih.step he

/-- The property of goroutines that `exits` counts the deferred function,
    at every reachable state. -/
theorem Reach.exitsOnce {beh : Nat → Behaviour} {st : System} (hr : Reach beh st) :
    ∀ g ∈ st.gs, g.state.ExitsOnce := fun g hg =>
  have ⟨i, hi⟩ := List.getElem?_of_mem hg
  Reach.forall_goroutine (P := fun _ g => g.state.ExitsOnce) (fun _ _ => rfl)
    (fun _ _ _ _ h => ExitsOnce_step h) hr i g hi

/-- Events enabled one after another from a reachable state reach a
    reachable state. -/
theorem Reach.run {beh : Nat → Behaviour} {st st' : System} (hr : Reach beh st) {es : List Event}
    (h : st.run beh es = some st') : Reach beh st' := by
  induction es generalizing st with
  | nil => exact Option.some.inj h ▸ hr
  | cons e es ih =>
    obtain ⟨st₁, h₁, hrest⟩ := Option.bind_eq_some.mp h
    exact ih (hr.step e h₁) hrest

/-- Two workers: `a` runs once, `b` twice, one attempt each. -/
def demoWorkers : List Worker := [⟨"a", 1, 1, 0, 0⟩, ⟨"b", 2, 1, 0, 0⟩]

/-- A `Run` that succeeds, and an `OnError` that never stops the worker. -/
def succeeding : Behaviour := ⟨fun _ _ => .ok (), fun _ => true, fun _ _ => false, fun _ => false⟩

/-- `RegisterWorkers(ws...)`, `Start()`, and `Stop()` up to its wait. -/
def registerStartStop (ws : List Worker) : List Event :=
  [.call (.RegisterWorkers ws), .call .Start, .call .Stop]

/-- The demo workers started, and a `Stop` waiting for their goroutines. -/
def demoWaiting : System :=
  (System.init.run (fun _ => succeeding) (registerStartStop demoWorkers)).getD System.init

theorem reach_demoWaiting : Reach (fun _ => succeeding) demoWaiting :=
  Reach.run .init (rfl : System.init.run _ (registerStartStop demoWorkers) = some demoWaiting)

/-- **The WaitGroup counts the running goroutines.** In every state of
    every interleaving, the counter of `wg` is the number of goroutines
    that have not returned (so `wg.Done` never takes it below zero, which
    would panic), and each goroutine has called `OnExit` once if it has
    returned and never otherwise. -/
theorem wg_counts_running {beh : Nat → Behaviour} {st : System} (hr : Reach beh st) :
    st.wg = st.gs.countP Goroutine.running ∧
      ∀ g ∈ st.gs, g.state.exits = if g.running then 0 else 1 :=
  ⟨hr.consistent.wg_eq, hr.exitsOnce⟩

theorem wg_counts_running_demoWaiting :
    demoWaiting.wg = demoWaiting.gs.countP Goroutine.running ∧
      ∀ g ∈ demoWaiting.gs, g.state.exits = if g.running then 0 else 1 :=
  wg_counts_running reach_demoWaiting

/-- **A stopped scheduler runs no worker.** In every state of every
    interleaving in which the scheduler is not running (before the first
    `Start`, and after each `Stop` that returned), every goroutine it
    launched has returned and called `OnExit` exactly once. -/
theorem stopped_no_goroutine {beh : Nat → Behaviour} {st : System} (hr : Reach beh st)
    (h : st.sched.isRunning = false) : ∀ g ∈ st.gs, g.running = false ∧ g.state.exits = 1 := by
  intro g hg
  have hrun := hr.consistent.stopped h g hg
  have hx : g.state.exits = if g.running then 0 else 1 := hr.exitsOnce g hg
  exact ⟨hrun, by simpa [hrun] using hx⟩

/-- The waiting `Stop` after each goroutine has taken the stop case of
    its first `select`, and its wait has returned. -/
def demoStopped : System :=
  (System.init.run (fun _ => succeeding) (registerStartStop demoWorkers ++
    [.go 0 true, .go 0 true, .go 0 true, .go 1 true, .go 1 true, .go 1 true, .wait])).getD
    System.init

theorem stopped_no_goroutine_demoStopped :
    demoStopped.sched.isRunning = false ∧ ∀ g ∈ demoStopped.gs, g.running = false ∧ g.state.exits = 1 :=
  ⟨by decide, stopped_no_goroutine (Reach.run .init (rfl : System.init.run (fun _ => succeeding)
    (registerStartStop demoWorkers ++ [.go 0 true, .go 0 true, .go 0 true, .go 1 true, .go 1 true,
      .go 1 true, .wait]) = some demoStopped)) (by decide)⟩

/-! ## Section 5: A waiting `Stop` -/

theorem sum_map_set_lt {α : Type} {f : α → Nat} :
    ∀ {l : List α} {i : Nat} {a b : α}, l[i]? = some b → f a < f b →
      ((l.set i a).map f).sum < (l.map f).sum
  | [], _, _, _, h, _ => by simp at h
  | c :: l, 0, a, b, h, hlt => by
    simp only [List.getElem?_cons_zero, Option.some.injEq] at h
    subst h
    simp only [List.set_cons_zero, List.map_cons, List.sum_cons]
    omega
  | c :: l, i + 1, a, b, h, hlt => by
    simp only [List.getElem?_cons_succ] at h
    have := sum_map_set_lt h hlt
    simp only [List.set_cons_succ, List.map_cons, List.sum_cons]
    omega

theorem Phase.not_exited_of_running {p : Phase} (h : p.running = true) : ¬ p.Exited := by
  cases p <;> simp_all [Phase.running, Phase.Exited]

namespace System

variable {beh : Nat → Behaviour} {st st' : System}

/-- The steps the goroutines have left, summed. -/
def rankSum (st : System) : Nat := (st.gs.map fun g => rank g.worker g.state).sum

/-- The registered workers all have `MaxRuns() ≥ 1` and
    `RetryAttempts() ≥ 1`. -/
def Bounded (st : System) : Prop := ∀ p ∈ st.sched.workers, 1 ≤ p.2.maxRuns ∧ 1 ≤ p.2.retryAttempts

theorem Consistent.bounded_of_mem (hc : st.Consistent) (hb : st.Bounded) {g : Goroutine}
    (hg : g ∈ st.gs) : 1 ≤ g.worker.maxRuns ∧ 1 ≤ g.worker.retryAttempts := by
  obtain ⟨p, hp, he⟩ := List.mem_map.mp (hc.registered g hg)
  exact he ▸ hb p hp

end System

/-- The goroutine of a worker with `MaxRuns() ≥ 1` and
    `RetryAttempts() ≥ 1` keeps the worker's invariant. -/
theorem Reach.inv {beh : Nat → Behaviour} {st : System} (hr : Reach beh st) :
    ∀ i g, st.gs[i]? = some g → 1 ≤ g.worker.maxRuns → 1 ≤ g.worker.retryAttempts →
      Inv g.worker (beh i) g.state :=
  Reach.forall_goroutine (fun _ _ hm hn => Inv_runWorker hm hn 0)
    (fun i _ stop _ h hm hn => Inv_step (b := { beh i with stop := fun _ => stop }) hm hn (h hm hn)) hr

namespace System

variable {beh : Nat → Behaviour} {st st' : System}

/-- **Each goroutine step lowers the steps left.** -/
theorem rankSum_goStep (hr : Reach beh st) (hb : st.Bounded) {i : Nat} {stop : Bool}
    {g : Goroutine} (hg : st.gs[i]? = some g) (hrun : g.running = true) :
    (st.goStep beh i stop g).rankSum < st.rankSum := by
  obtain ⟨hm, hn⟩ := hr.consistent.bounded_of_mem hb (List.getElem?_mem hg)
  have hlt : rank g.worker (g.advance (beh i) stop).state < rank g.worker g.state :=
    rank_step hm hn (hr.inv i g hg hm hn) (Phase.not_exited_of_running hrun)
  exact sum_map_set_lt (f := fun g => rank g.worker g.state) hg hlt

/-- **Run of goroutine steps.** From a reachable state whose workers are
    bounded, a run of goroutine steps is no longer than `rankSum`. -/
theorem length_le_rankSum (hr : Reach beh st) (hb : st.Bounded) (moves : List (Nat × Bool))
    (h : st.run beh (moves.map fun m => .go m.1 m.2) = some st') : moves.length ≤ st.rankSum := by
  induction moves generalizing st with
  | nil => exact Nat.zero_le _
  | cons m ms ih =>
    obtain ⟨st₁, h₁, hrest⟩ := Option.bind_eq_some.mp h
    rcases step_cases h₁ with ⟨c, -, hc, -⟩ | ⟨-, -, hc, -⟩ | ⟨i, stop, g, hg, hrun, -, he, rfl⟩
    · cases hc
    · cases hc
    · cases he
      have hlt : (st.goStep beh m.1 m.2 g).rankSum < st.rankSum := rankSum_goStep hr hb hg hrun
      have := ih (hr.step _ h₁) hb hrest
      simp only [List.length_cons]
      omega

theorem rankSum_le (hr : Reach beh st) (hb : st.Bounded) :
    st.rankSum ≤ (st.gs.map fun g => g.worker.maxRuns * (g.worker.retryAttempts + 2) + 1).sum := by
  refine List.sum_le_sum fun g hg => ?_
  obtain ⟨i, hi⟩ := List.getElem?_of_mem hg
  obtain ⟨hm, hn⟩ := hr.consistent.bounded_of_mem hb hg
  exact (hr.inv i g hi hm hn).rank_le

/-- **Progress.** In a reachable state a goroutine can step, or the
    counter of `wg` is zero. -/
theorem go_enabled_or_wg_zero (hr : Reach beh st) :
    (∃ i, (st.step beh (.go i false)).isSome) ∨ st.wg = 0 := by
  by_cases hpos : 0 < st.gs.countP Goroutine.running
  · obtain ⟨g, hg, hrun⟩ := List.countP_pos_iff.mp hpos
    obtain ⟨i, hi⟩ := List.getElem?_of_mem hg
    exact .inl ⟨i, by simp [step, hi, hrun]⟩
  · exact .inr (by rw [hr.consistent.wg_eq]; omega)

end System

/-- **A waiting `Stop` returns.** If every registered worker has
    `MaxRuns() ≥ 1` and `RetryAttempts() ≥ 1`, then from every reachable
    state, whatever the interleaving, the goroutines can take at most
    the sum of `MaxRuns() * (RetryAttempts() + 2) + 1` over them of
    steps in a row; and while `Stop` waits (every call blocked on `mu`),
    a goroutine can step or the wait returns. So a waiting `Stop`
    returns, after at most that many goroutine steps. -/
theorem Stop_wait_ends {beh : Nat → Behaviour} {st : System} (hr : Reach beh st)
    (hb : ∀ p ∈ st.sched.workers, 1 ≤ p.2.maxRuns ∧ 1 ≤ p.2.retryAttempts) :
    (∀ (moves : List (Nat × Bool)) (st' : System),
      st.run beh (moves.map fun m => .go m.1 m.2) = some st' →
        moves.length ≤ (st.gs.map fun g => g.worker.maxRuns * (g.worker.retryAttempts + 2) + 1).sum) ∧
      (st.waiting = true → (∃ i, (st.step beh (.go i false)).isSome) ∨ (st.step beh .wait).isSome) := by
  refine ⟨fun moves st' h => (System.length_le_rankSum hr hb moves h).trans (System.rankSum_le hr hb),
    fun hw => ?_⟩
  rcases System.go_enabled_or_wg_zero hr with h | h0
  · exact .inl h
  · exact .inr (by simp [System.step, hw, h0])

theorem Stop_wait_ends_demoWaiting :
    (∀ (moves : List (Nat × Bool)) (st' : System),
      demoWaiting.run (fun _ => succeeding) (moves.map fun m => .go m.1 m.2) = some st' →
        moves.length ≤
          (demoWaiting.gs.map fun g => g.worker.maxRuns * (g.worker.retryAttempts + 2) + 1).sum) ∧
      (demoWaiting.waiting = true →
        (∃ i, (demoWaiting.step (fun _ => succeeding) (.go i false)).isSome) ∨
          (demoWaiting.step (fun _ => succeeding) .wait).isSome) :=
  Stop_wait_ends reach_demoWaiting (by decide)

/-! ## Section 6: A waiting `Stop` whose signal is taken

    Once `Stop` has closed `stopSignal`, the `select` of a goroutine finds
    that case ready at once, while `time.After(w.Interval())` is ready only
    after the interval: Go then takes the stop case. Under that schedule a
    goroutine finishes its current iteration and returns, so a waiting
    `Stop` returns whatever `MaxRuns()` is, `0` (no limit) included. -/

/-- The `retry.Do` of the current iteration is the loop of `Retry` after
    some number of its iterations. -/
def State.RetryReached (w : Worker) (b : Behaviour) (s : State) : Prop :=
  match s.phase with
  | .loop c l => ∃ j, Retry.run (w.retryOptions b) (b.run c) j = l
  | _ => True

/-- The steps `runWorker` has left when its `select` takes the stop
    signal: the rest of one iteration. -/
def stopRank (w : Worker) (s : State) : Nat :=
  match s.phase with
  | .head _ => w.retryAttempts + 2
  | .loop _ l => stepsLeft w.retryAttempts l
  | .exited _ => 0

section StopTaken

variable {w : Worker} {b : Behaviour}

theorem RetryReached_step {s : State} (h : s.RetryReached w b) (stop : Nat → Bool) :
    (step w { b with stop := stop } s).RetryReached w b := by
  obtain ⟨phase, runs, exits⟩ := s
  rcases phase with c | ⟨c, a | ⟨a, err⟩ | ⟨a, msg⟩⟩ | p
  · by_cases hc : w.loops c
    · simp only [step, hc, if_true, State.RetryReached]
      exact ⟨0, rfl⟩
    · simp [step, hc, State.RetryReached, State.exit]
  · obtain ⟨j, hj⟩ := h
    exact ⟨j + 1, by rw [Retry.run_succ, hj]; rfl⟩
  · show (afterRetry _ c err _).RetryReached w b
    rcases afterRetry_cases (b := { b with stop := stop }) c err ⟨.loop c (.returned a err), runs, exits⟩
      with he | he <;> rw [he] <;> trivial
  · trivial
  · trivial

theorem stopRank_le (s : State) : stopRank w s ≤ w.retryAttempts + 2 := by
  obtain ⟨phase, _, _⟩ := s
  rcases phase with c | ⟨c, a | ⟨a, err⟩ | ⟨a, msg⟩⟩ | p <;> simp only [stopRank, stepsLeft] <;> omega

/-- **A step with the signal taken lowers the rank.** -/
theorem stopRank_step (hn : 1 ≤ w.retryAttempts) {s : State} (h : s.RetryReached w b)
    (hs : ¬ s.phase.Exited) : stopRank w (step w { b with stop := fun _ => true } s) < stopRank w s := by
  obtain ⟨phase, runs, exits⟩ := s
  rcases phase with c | ⟨c, a | ⟨a, err⟩ | ⟨a, msg⟩⟩ | p
  · -- the loop's test: iteration `c` starts, or `runWorker` returns
    cases hc : w.loops c <;> simp [step, hc, stopRank, stepsLeft, State.exit]
  · -- one attempt: `a < RetryAttempts()`, and the attempts left shrink
    obtain ⟨j, hj⟩ := h
    have hlt : a < w.retryAttempts := Retry.lt_attempts_of_run_eq_retrying hn hj
    simp only [step, stopRank]
    rcases Retry.step_retrying_cases (o := w.retryOptions { b with stop := fun _ => true })
        (f := b.run c) a with ⟨-, h'⟩ | ⟨-, h'⟩
    · rw [h']; simp only [stepsLeft]; omega
    · rw [h', stepsLeft_finish]; simp only [stepsLeft]; omega
  · -- out of `retry.Do`: the `select` takes the signal
    simp only [step, afterRetry, ite_self, if_true, stopRank, State.exit, stepsLeft]
    omega
  · simp only [step, stopRank, State.exit, stepsLeft]; omega
  · exact absurd trivial hs

end StopTaken

/-- The goroutines keep `RetryReached`. -/
theorem Reach.retryReached {beh : Nat → Behaviour} {st : System} (hr : Reach beh st) :
    ∀ i (g : Goroutine), st.gs[i]? = some g → g.state.RetryReached g.worker (beh i) :=
  Reach.forall_goroutine (P := fun i g => g.state.RetryReached g.worker (beh i)) (fun _ _ => trivial)
    (fun _ _ _ _ h => RetryReached_step h _) hr

namespace System

variable {beh : Nat → Behaviour} {st st' : System}

/-- The steps the goroutines have left when their `select`s take the
    signal, summed. -/
def stopRankSum (st : System) : Nat := (st.gs.map fun g => stopRank g.worker g.state).sum

theorem stopRankSum_goStep (hr : Reach beh st) (hb : ∀ p ∈ st.sched.workers, 1 ≤ p.2.retryAttempts)
    {i : Nat} {g : Goroutine} (hg : st.gs[i]? = some g) (hrun : g.running = true) :
    (st.goStep beh i true g).stopRankSum < st.stopRankSum := by
  obtain ⟨p, hp, he⟩ := List.mem_map.mp (hr.consistent.registered g (List.getElem?_mem hg))
  have hlt : stopRank g.worker (g.advance (beh i) true).state < stopRank g.worker g.state :=
    stopRank_step (he ▸ hb p hp) (hr.retryReached i g hg) (Phase.not_exited_of_running hrun)
  exact sum_map_set_lt (f := fun g => stopRank g.worker g.state) hg hlt

/-- A run of goroutine steps that take the signal is no longer than
    `stopRankSum`. -/
theorem length_le_stopRankSum (hr : Reach beh st) (hb : ∀ p ∈ st.sched.workers, 1 ≤ p.2.retryAttempts)
    (is : List Nat) (h : st.run beh (is.map fun i => .go i true) = some st') :
    is.length ≤ st.stopRankSum := by
  induction is generalizing st with
  | nil => exact Nat.zero_le _
  | cons i is ih =>
    obtain ⟨st₁, h₁, hrest⟩ := Option.bind_eq_some.mp h
    rcases step_cases h₁ with ⟨c, -, hc, -⟩ | ⟨-, -, hc, -⟩ | ⟨j, stop, g, hg, hrun, -, he, rfl⟩
    · cases hc
    · cases hc
    · cases he
      have hlt := stopRankSum_goStep hr hb hg hrun
      have hb₁ : ∀ p ∈ (st.goStep beh i true g).sched.workers, 1 ≤ p.2.retryAttempts := hb
      have := ih (hr.step _ h₁) hb₁ hrest
      simp only [List.length_cons]
      omega

theorem stopRankSum_le : st.stopRankSum ≤ (st.gs.map fun g => g.worker.retryAttempts + 2).sum :=
  List.sum_le_sum fun g _ => stopRank_le g.state

/-- While `Stop` waits, its signal is closed. -/
theorem stopClosed_of_waiting (hr : Reach beh st) (hw : st.waiting = true) : st.sched.stopClosed = true := by
  induction hr with
  | init => cases hw
  | step e hr₀ he ih =>
    rcases step_cases he with ⟨c, hw₀, -, rfl⟩ | ⟨-, -, -, rfl⟩ | ⟨i, stop, g, -, -, -, -, rfl⟩
    · cases c with
      | Start =>
        simp only [call] at hw ⊢
        unfold Start at hw ⊢
        split <;> simp_all
      | Stop =>
        simp only [call] at hw ⊢
        unfold Stop at hw ⊢
        split
        · simp_all
        · split <;> simp_all
      | RegisterWorkers ws => simp_all [call]
    · simp [stopped] at hw
    · exact ih hw

end System

/-- **A waiting `Stop` returns when the signal is taken.** If every
    registered worker has `RetryAttempts() ≥ 1`, whatever its `MaxRuns()`
    (`0`, no limit, included), then while `Stop` waits the goroutines can
    take at most the sum of `RetryAttempts() + 2` over them of steps whose
    `select` takes the closed signal; and such a step is enabled, or the
    wait returns. So, as Go takes a ready stop case over a timer that has
    not fired, a waiting `Stop` returns. -/
theorem Stop_returns_when_signal_taken {beh : Nat → Behaviour} {st : System} (hr : Reach beh st)
    (hw : st.waiting = true) (hb : ∀ p ∈ st.sched.workers, 1 ≤ p.2.retryAttempts) :
    (∀ (is : List Nat) (st' : System), st.run beh (is.map fun i => .go i true) = some st' →
      is.length ≤ (st.gs.map fun g => g.worker.retryAttempts + 2).sum) ∧
      ((∃ i, (st.step beh (.go i true)).isSome) ∨ (st.step beh .wait).isSome) := by
  refine ⟨fun is st' h => (System.length_le_stopRankSum hr hb is h).trans System.stopRankSum_le, ?_⟩
  have hclosed := System.stopClosed_of_waiting hr hw
  rcases System.go_enabled_or_wg_zero hr with ⟨i, h⟩ | h0
  · obtain ⟨st', hst'⟩ := Option.isSome_iff_exists.mp h
    rcases System.step_cases hst' with ⟨c, -, hc, -⟩ | ⟨-, -, hc, -⟩ | ⟨j, stop, g, hg, hrun, -, he, -⟩
    · cases hc
    · cases hc
    · cases he
      exact .inl ⟨i, by simp [System.step, hg, hrun, hclosed]⟩
  · exact .inr (by simp [System.step, hw, h0])

/-- `NewBasicWorker().WithName("basic")`: no limit on its runs, one
    attempt per run, a one-second retry delay. -/
def basicWorker : Worker := ⟨"basic", 0, 1, 1000000000, 0⟩

/-- A basic worker started, and a `Stop` waiting for it. -/
def basicWaiting : System :=
  (System.init.run (fun _ => succeeding) (registerStartStop [basicWorker])).getD System.init

theorem Stop_returns_when_signal_taken_basic :
    (∀ (is : List Nat) (st' : System),
      basicWaiting.run (fun _ => succeeding) (is.map fun i => .go i true) = some st' →
        is.length ≤ (basicWaiting.gs.map fun g => g.worker.retryAttempts + 2).sum) ∧
      ((∃ i, (basicWaiting.step (fun _ => succeeding) (.go i true)).isSome) ∨
        (basicWaiting.step (fun _ => succeeding) .wait).isSome) :=
  Stop_returns_when_signal_taken (Reach.run .init (rfl : System.init.run (fun _ => succeeding)
    (registerStartStop [basicWorker]) = some basicWaiting)) (by decide) (by decide)

/-! ## Section 7: A worker that retries without bound -/

/-- The goroutine of a worker with `RetryAttempts() = 0` whose `Run` keeps
    failing in its first iteration stays in that iteration. -/
theorem Reach.stuck {beh : Nat → Behaviour} {st : System} (hr : Reach beh st) :
    ∀ i g, st.gs[i]? = some g → g.worker.retryAttempts = 0 →
      (∀ a, ∃ err, (beh i).run 0 a = .err err ∧ (beh i).retryIf err = true) → g.Stuck :=
  Reach.forall_goroutine (fun _ _ _ _ => .inl rfl)
    (fun _ _ stop _ h h0 hfail => (h h0 hfail).advance h0 hfail stop) hr

theorem Reach.wg_pos_of_stuck {beh : Nat → Behaviour} {st : System} (hr : Reach beh st) {i : Nat}
    {g : Goroutine} (hg : st.gs[i]? = some g) (h0 : g.worker.retryAttempts = 0)
    (hfail : ∀ a, ∃ err, (beh i).run 0 a = .err err ∧ (beh i).retryIf err = true) :
    g.running = true ∧ 1 ≤ st.wg := by
  have hrun := (hr.stuck i g hg h0 hfail).running
  have hpos : 0 < st.gs.countP Goroutine.running :=
    List.countP_pos_iff.mpr ⟨g, List.getElem?_mem hg, hrun⟩
  exact ⟨hrun, by rw [hr.consistent.wg_eq]; omega⟩

namespace System

variable {beh : Nat → Behaviour} {st st' : System}

/-- An event keeps goroutine `i`'s worker. -/
theorem worker_step {e : Event} (h : st.step beh e = some st') {i : Nat} {g : Goroutine}
    (hg : st.gs[i]? = some g) : ∃ g', st'.gs[i]? = some g' ∧ g'.worker = g.worker := by
  rcases getElem?_step h i with h' | ⟨g₀, stop, h₀, -, h'⟩ | ⟨h₀, -⟩
  · exact ⟨g, h'.trans hg, rfl⟩
  · rw [hg, Option.some.injEq] at h₀
    exact ⟨_, h', h₀ ▸ rfl⟩
  · rw [hg] at h₀
    cases h₀

/-- While the counter is positive, a waiting `Stop` keeps waiting. -/
theorem waiting_step (hw : st.waiting = true) (h1 : 1 ≤ st.wg) {e : Event}
    (h : st.step beh e = some st') : st'.waiting = true := by
  rcases step_cases h with ⟨c, hc, -, -⟩ | ⟨-, h0, -, -⟩ | ⟨i, stop, g, -, -, -, -, rfl⟩
  · rw [hw] at hc
    cases hc
  · omega
  · exact hw

end System

/-- **`Stop` hangs on a worker that retries without bound.** In every
    state of every interleaving, a goroutine whose worker has
    `RetryAttempts() = 0` and whose `Run` keeps failing in its first
    iteration with errors `RetryIf` accepts has not returned, and the
    counter of `wg` counts it. So once a `Stop` waits, it waits in every
    later state: it never returns, and it holds `mu`, on which every
    later call blocks. -/
theorem Stop_hangs {beh : Nat → Behaviour} {st : System} (hr : Reach beh st) {i : Nat}
    {g : Goroutine} (hg : st.gs[i]? = some g) (h0 : g.worker.retryAttempts = 0)
    (hfail : ∀ a, ∃ err, (beh i).run 0 a = .err err ∧ (beh i).retryIf err = true) :
    g.running = true ∧ 1 ≤ st.wg ∧
      ∀ es st', st.run beh es = some st' → st.waiting = true → st'.waiting = true := by
  refine ⟨(hr.wg_pos_of_stuck hg h0 hfail).1, (hr.wg_pos_of_stuck hg h0 hfail).2, fun es => ?_⟩
  induction es generalizing st g with
  | nil => intro st' h hw; exact Option.some.inj h ▸ hw
  | cons e es ih =>
    intro st' h hw
    obtain ⟨st₁, h₁, hrest⟩ := Option.bind_eq_some.mp h
    obtain ⟨g₁, hg₁, hw₁⟩ := System.worker_step h₁ hg
    exact ih (hr.step e h₁) hg₁ (hw₁ ▸ h0) st' hrest
      (System.waiting_step hw (hr.wg_pos_of_stuck hg h0 hfail).2 h₁)

/-- A worker with `RetryAttempts() = 0` whose `Run` keeps failing, started,
    and a `Stop` waiting for it. -/
def hangWaiting : System :=
  (System.init.run (fun _ => keepsFailing) (registerStartStop [⟨"a", 1, 0, 0, 0⟩])).getD System.init

theorem Stop_hangs_hangWaiting :
    (Goroutine.start ⟨"a", 1, 0, 0, 0⟩).running = true ∧ 1 ≤ hangWaiting.wg ∧
      ∀ es st', hangWaiting.run (fun _ => keepsFailing) es = some st' →
        hangWaiting.waiting = true → st'.waiting = true :=
  Stop_hangs (Reach.run .init (rfl : System.init.run (fun _ => keepsFailing)
    (registerStartStop [⟨"a", 1, 0, 0, 0⟩]) = some hangWaiting)) (i := 0) rfl rfl
    fun _ => ⟨_, rfl, rfl⟩

/-! ## Section 8: The sequential model -/

namespace System

variable {beh : Nat → Behaviour} {st st' : System}

theorem toScheduler_call (hw : st.waiting = false) (c : Call) :
    (st.call c).toScheduler = (st.toScheduler.call c).1 := by
  cases c with
  | Start =>
    cases hr : st.sched.isRunning <;>
      simp [call, Start, toScheduler, hw, Scheduler.call, Scheduler.Start, hr]
  | Stop =>
    cases hr : st.sched.isRunning <;> cases hc : st.sched.stopClosed <;>
      simp [call, Stop, toScheduler, hw, Scheduler.call, Scheduler.Stop, hr, hc]
  | RegisterWorkers ws => simp [call, toScheduler, hw, Scheduler.call]

/-- **Refinement step.** An event is a call of the sequential model, or
    leaves its state as it was. -/
theorem toScheduler_step {e : Event} (h : st.step beh e = some st') :
    st'.toScheduler = st.toScheduler ∨ ∃ c, st'.toScheduler = (st.toScheduler.call c).1 := by
  rcases step_cases h with ⟨c, hw, -, rfl⟩ | ⟨hw, -, -, rfl⟩ | ⟨i, stop, g, -, -, -, -, rfl⟩
  · exact .inr ⟨c, toScheduler_call hw c⟩
  · exact .inl (by simp [stopped, toScheduler, hw])
  · exact .inl rfl

end System

/-- **The concurrent scheduler refines the sequential one.** In every
    state of every interleaving of calls and goroutine steps, the
    scheduler, read with a waiting `Stop` as returned, is a state the
    sequential model of `Scheduler` reaches by calls alone. -/
theorem Reach.refines_scheduler {beh : Nat → Behaviour} {st : System} (hr : Reach beh st) :
    Reachable st.toScheduler := by
  induction hr with
  | init => exact .NewScheduler
  | step e _ he ih =>
    rcases System.toScheduler_step he with h | ⟨c, h⟩
    · exact h ▸ ih
    · exact h ▸ .call c ih

theorem refines_scheduler_demoWaiting : Reachable demoWaiting.toScheduler :=
  Reach.refines_scheduler reach_demoWaiting

end Qubetics.Cron
