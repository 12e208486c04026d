import QubeticsSdk.Cron.Scheduler
import QubeticsSdk.Retry

/-! # The loop of a cron worker

    `runWorker` of package `cron`, which `Scheduler.Start` runs in one
    goroutine per worker. Its deferred function calls `w.OnExit()` and
    `s.wg.Done()` however the goroutine ends. Its `for` loop runs while
    `w.MaxRuns() == 0 || c < w.MaxRuns()`. Iteration `c` hands `w.Run` to
    `retry.Do` with `Attempts(w.RetryAttempts())` and
    `Delay(w.RetryDelay())` (the loop of `Retry`), returns when `retry.Do`
    failed and `w.OnError` answers `true`, and otherwise waits on a
    `select` between `stopSignal` and `time.After(w.Interval())`,
    returning when the stop signal is taken.

    What the worker's methods answer is left open (`Behaviour`): `Run`'s
    result at each attempt of each iteration, `OnError`'s answer, and
    which case each `select` takes (both may be ready, and Go then picks
    either). `retry.Do` does not recover a panic of `Run`: the deferred
    function runs, and the panic goes on up the goroutine.

    The loop is a state machine (`step`) that counts the calls of `Run`
    and of `OnExit`, run for a number of steps (`runWorker`). With
    `MaxRuns() ≥ 1` and `RetryAttempts() ≥ 1`, every run calls `Run` at
    most `MaxRuns() * RetryAttempts()` times and `OnExit` at most once, and
    after `MaxRuns() * (RetryAttempts() + 2) + 1` steps it has ended with
    `OnExit` called once (`runWorker_bounded`). With `RetryAttempts() = 0`
    retry-go retries until `Run` succeeds: a `Run` that keeps failing
    keeps the first iteration going for ever, with `Run` called once per
    step and `OnExit` never (`runWorker_of_keeps_failing`).
-/

namespace Qubetics.Cron

/-! ## Section 1: Model -/

/-- What the worker's methods and the stop signal do in one run of
    `runWorker`. -/
structure Behaviour where
  /-- `w.Run()` at attempt `n` of iteration `c` ends with `run c n`. -/
  run : Nat → Nat → Result Unit
  /-- retry-go's default `RetryIf`, `IsRecoverable`: `false` on the
      errors `Run` wraps with `retry.Unrecoverable`. -/
  retryIf : Error → Bool
  /-- `w.OnError(err)` in iteration `c`. -/
  onError : Nat → Error → Bool
  /-- The `select` of iteration `c` takes `<-s.stopSignal` (`true`) or
      `<-time.After(w.Interval())` (`false`). -/
  stop : Nat → Bool

/-- The options `runWorker` passes to `retry.Do`. -/
def Worker.retryOptions (w : Worker) (b : Behaviour) : Retry.Options :=
  ⟨w.retryAttempts, w.retryDelay, b.retryIf⟩

/-- The test of the `for` loop at counter `c`:
    `w.MaxRuns() == 0 || c < w.MaxRuns()`. -/
def Worker.loops (w : Worker) (c : Nat) : Bool :=
  w.maxRuns == 0 || c < w.maxRuns

/-- Where `runWorker` stands. -/
inductive Phase where
  /-- The `for` loop tests its condition at counter `c`. -/
  | head (c : Nat)
  /-- Iteration `c`, its `retry.Do` at `l`. -/
  | loop (c : Nat) (l : Retry.Loop)
  /-- The deferred function has run: `runWorker` returned (`none`), or
      its goroutine goes on panicking with `Run`'s panic. -/
  | exited (panic : Option String)
  deriving DecidableEq, Repr

/-- `runWorker` has returned or is panicking. -/
def Phase.Exited : Phase → Prop
  | .exited _ => True
  | _ => False

/-- `runWorker` between two steps, with the calls it has made. -/
structure State where
  phase : Phase
  /-- Calls of `w.Run()` so far. -/
  runs : Nat
  /-- Calls of `w.OnExit()` so far. -/
  exits : Nat
  deriving DecidableEq, Repr

/-- The deferred function: `w.OnExit()`, as `runWorker` returns (`none`)
    or panics. -/
def State.exit (s : State) (panic : Option String) : State :=
  ⟨.exited panic, s.runs, s.exits + 1⟩

/-- What iteration `c` does once `retry.Do` has returned `err`: return
    when `err != nil && w.OnError(err)`, then the `select`. -/
def afterRetry (b : Behaviour) (c : Nat) (err : Option Error) (s : State) : State :=
  if err.any (b.onError c) then s.exit none
  else if b.stop c then s.exit none
  else { s with phase := .head (c + 1) }

/-- One step of `runWorker`: the loop's test, one attempt of `retry.Do`,
    or what follows `retry.Do`. -/
def step (w : Worker) (b : Behaviour) (s : State) : State :=
  match s.phase with
  | .head c => if w.loops c then { s with phase := .loop c (.retrying 0) } else s.exit none
  | .loop c (.retrying n) =>
    { s with
      phase := .loop c (Retry.step (w.retryOptions b) (b.run c) (.retrying n))
      runs := s.runs + 1 }
  | .loop c (.returned _ err) => afterRetry b c err s
  | .loop _ (.panicked _ msg) => s.exit (some msg)
  | .exited _ => s

/-- `runWorker(w)` after `k` steps. -/
def runWorker (w : Worker) (b : Behaviour) : Nat → State
  | 0 => ⟨.head 0, 0, 0⟩
  | k + 1 => step w b (runWorker w b k)

/-! ## Section 2: Step lemmas -/

section Steps

variable {w : Worker} {b : Behaviour}

@[simp] theorem runWorker_zero : runWorker w b 0 = ⟨.head 0, 0, 0⟩ := rfl

@[simp] theorem runWorker_succ (k : Nat) : runWorker w b (k + 1) = step w b (runWorker w b k) := rfl

@[simp] theorem exit_phase (s : State) (p : Option String) : (s.exit p).phase = .exited p := rfl

@[simp] theorem exit_runs (s : State) (p : Option String) : (s.exit p).runs = s.runs := rfl

@[simp] theorem exit_exits (s : State) (p : Option String) : (s.exit p).exits = s.exits + 1 := rfl

/-- The loop's first test passes, whatever `MaxRuns()` is. -/
@[simp] theorem loops_zero (w : Worker) : w.loops 0 = true := by
  simp only [Worker.loops, Bool.or_eq_true, beq_iff_eq, decide_eq_true_eq]
  omega

/-- An exited `runWorker` does not move. -/
theorem step_of_exited {s : State} (h : s.phase.Exited) : step w b s = s := by
  obtain ⟨_ | _ | _, _, _⟩ := s
  · exact h.elim
  · exact h.elim
  · rfl

/-- After `retry.Do`, iteration `c` either returns or moves to the test at
    `c + 1`, and calls no `Run`. -/
theorem afterRetry_cases (c : Nat) (err : Option Error) (s : State) :
    afterRetry b c err s = s.exit none ∨ afterRetry b c err s = { s with phase := .head (c + 1) } := by
  unfold afterRetry
  split
  · exact .inl rfl
  · split
    · exact .inl rfl
    · exact .inr rfl

/-- **Step inversion.** What one step of `runWorker` can do: start
    iteration `c` or return at the loop's test; make one attempt, calling
    `Run` once; after an ended `retry.Do`, return, panic, or go on to the
    test at `c + 1`; or, once exited, stay. -/
theorem step_cases (s : State) :
    (∃ c, s.phase = .head c ∧ w.loops c ∧ step w b s = { s with phase := .loop c (.retrying 0) }) ∨
    (∃ c, s.phase = .head c ∧ ¬ w.loops c ∧ step w b s = s.exit none) ∨
    (∃ c n, s.phase = .loop c (.retrying n) ∧
      step w b s = ⟨.loop c (Retry.step (w.retryOptions b) (b.run c) (.retrying n)), s.runs + 1,
        s.exits⟩) ∨
    (∃ c l, s.phase = .loop c l ∧ l.Ended ∧
      ((∃ p, step w b s = s.exit p) ∨ step w b s = { s with phase := .head (c + 1) })) ∨
    (s.phase.Exited ∧ step w b s = s) := by
  obtain ⟨phase, runs, exits⟩ := s
  rcases phase with c | ⟨c, n | ⟨n, err⟩ | ⟨n, msg⟩⟩ | p
  · by_cases hc : w.loops c
    · exact .inl ⟨c, rfl, hc, by simp [step, hc]⟩
    · exact .inr (.inl ⟨c, rfl, hc, by simp [step, hc]⟩)
  · exact .inr (.inr (.inl ⟨c, n, rfl, rfl⟩))
  · refine .inr (.inr (.inr (.inl ⟨c, _, rfl, trivial, ?_⟩)))
    exact (afterRetry_cases c err _).imp (⟨none, ·⟩) id
  · exact .inr (.inr (.inr (.inl ⟨c, _, rfl, trivial, .inl ⟨some msg, rfl⟩⟩)))
  · exact .inr (.inr (.inr (.inr ⟨trivial, rfl⟩)))

end Steps

/-! ## Section 3: A worker with `MaxRuns() ≥ 1` and `RetryAttempts() ≥ 1` -/

/-- What holds at every step of `runWorker` for a worker with
    `MaxRuns() = m ≥ 1` and `RetryAttempts() = n ≥ 1`. Before the exit,
    `OnExit` has not run, the counter is within `m`, each earlier
    iteration called `Run` at most `n` times, and iteration `c`'s
    `retry.Do` is the loop of `Retry` after some number of its
    iterations. After the exit, `OnExit` has run once, and `Run` at most
    `m * n` times. -/
def Inv (w : Worker) (b : Behaviour) (s : State) : Prop :=
  match s.phase with
  | .head c => c ≤ w.maxRuns ∧ s.exits = 0 ∧ s.runs ≤ c * w.retryAttempts
  | .loop c l => c < w.maxRuns ∧ s.exits = 0 ∧ s.runs ≤ c * w.retryAttempts + l.attempts ∧
      ∃ j, Retry.run (w.retryOptions b) (b.run c) j = l
  | .exited _ => s.exits = 1 ∧ s.runs ≤ w.maxRuns * w.retryAttempts

/-- The steps an iteration whose `retry.Do` is at `l` has left, for
    `RetryAttempts() = n`: the attempts not yet made, and the step out. -/
def stepsLeft (n : Nat) : Retry.Loop → Nat
  | .retrying a => n + 1 - a
  | _ => 1

@[simp] theorem stepsLeft_finish (n k : Nat) (r : Result Unit) :
    stepsLeft n (Retry.Loop.finish k r) = 1 := by
  cases r <;> rfl

/-- A bound on the steps `runWorker` has left: `RetryAttempts() + 2` for
    each iteration not yet started (its test, its attempts, and the step
    out), and one for the test that ends the loop. -/
def rank (w : Worker) (s : State) : Nat :=
  match s.phase with
  | .head c => (w.maxRuns - c) * (w.retryAttempts + 2) + 1
  | .loop c l => (w.maxRuns - c - 1) * (w.retryAttempts + 2) + 1 + stepsLeft w.retryAttempts l
  | .exited _ => 0

section Bounded

variable {w : Worker} {b : Behaviour}

theorem loops_iff (hm : 1 ≤ w.maxRuns) {c : Nat} : w.loops c = true ↔ c < w.maxRuns := by
  simp only [Worker.loops, Bool.or_eq_true, beq_iff_eq, decide_eq_true_eq]
  omega

/-- Out of an ended `retry.Do` of iteration `c`, the calls of `Run` fit in
    the iterations up to `c`. -/
theorem runs_le_of_ended (hn : 1 ≤ w.retryAttempts) {c runs : Nat} {l : Retry.Loop}
    (hr : runs ≤ c * w.retryAttempts + l.attempts)
    (hl : ∃ j, Retry.run (w.retryOptions b) (b.run c) j = l) :
    runs ≤ (c + 1) * w.retryAttempts := by
  obtain ⟨j, rfl⟩ := hl
  have : (Retry.run (w.retryOptions b) (b.run c) j).attempts ≤ w.retryAttempts :=
    Retry.attempts_run_le_attempts hn j
  rw [Nat.succ_mul]
  omega

/-- The calls the invariant allows: `Run` at most `m * n` times, `OnExit`
    at most once. -/
theorem Inv.calls_le (hn : 1 ≤ w.retryAttempts) {s : State} (h : Inv w b s) :
    s.runs ≤ w.maxRuns * w.retryAttempts ∧ s.exits ≤ 1 := by
  unfold Inv at h
  split at h
  · exact ⟨h.2.2.trans (Nat.mul_le_mul_right _ h.1), h.2.1.trans_le (Nat.zero_le 1)⟩
  · exact ⟨(runs_le_of_ended hn h.2.2.1 h.2.2.2).trans (Nat.mul_le_mul_right _ h.1),
      h.2.1.trans_le (Nat.zero_le 1)⟩
  · exact ⟨h.2, h.1.le⟩

/-- Once `runWorker` has exited, its `OnExit` has run once. -/
theorem exits_of_exited {s : State} (h : Inv w b s) (hx : s.phase.Exited) : s.exits = 1 := by
  cases hp : s.phase <;> rw [hp] at hx <;> simp only [Inv, hp] at h
  · exact hx.elim
  · exact hx.elim
  · exact h.1

/-- A `runWorker` that has not exited has a step left. -/
theorem rank_pos {s : State} (hx : ¬ s.phase.Exited) : 0 < rank w s := by
  cases hp : s.phase <;> rw [hp] at hx <;> simp only [rank, hp]
  · omega
  · omega
  · exact absurd trivial hx

variable (hm : 1 ≤ w.maxRuns) (hn : 1 ≤ w.retryAttempts)
include hm hn

/-- **Step preserves the invariant.** -/
theorem Inv_step {s : State} (h : Inv w b s) : Inv w b (step w b s) := by
  rcases step_cases (w := w) (b := b) s with ⟨c, hp, hc, he⟩ | ⟨c, hp, hc, he⟩ | ⟨c, a, hp, he⟩ |
      ⟨c, l, hp, -, he⟩ | ⟨-, he⟩
  · -- the test passes: iteration `c` starts
    simp only [Inv, hp] at h
    rw [he]
    simp only [Inv]
    exact ⟨(loops_iff hm).mp hc, h.2.1, h.2.2, 0, rfl⟩
  · -- the test fails, at `c = m`: `runWorker` returns
    simp only [Inv, hp] at h
    have hcm : c = w.maxRuns := by have := mt (loops_iff hm).mpr hc; omega
    rw [he]
    simp only [Inv, exit_phase, exit_exits, exit_runs, h.2.1]
    exact ⟨trivial, hcm ▸ h.2.2⟩
  · -- one attempt
    simp only [Inv, hp, Retry.Loop.attempts] at h
    obtain ⟨hcm, hx, hr, j, hj⟩ := h
    rw [he]
    simp only [Inv, Retry.attempts_step_retrying]
    exact ⟨hcm, hx, by omega, j + 1, by rw [Retry.run_succ, hj]⟩
  · -- out of an ended `retry.Do`
    simp only [Inv, hp] at h
    obtain ⟨hcm, hx, hr, hl⟩ := h
    have hrc := runs_le_of_ended hn hr hl
    rcases he with ⟨p, he⟩ | he <;> rw [he]
    · simp only [Inv, exit_phase, exit_exits, exit_runs, hx]
      exact ⟨trivial, hrc.trans (Nat.mul_le_mul_right _ hcm)⟩
    · simp only [Inv]
      exact ⟨hcm, hx, hrc⟩
  · rwa [he]

/-- **Every step short of the exit lowers the rank.** -/
theorem rank_step {s : State} (h : Inv w b s) (hs : ¬ s.phase.Exited) :
    rank w (step w b s) < rank w s := by
  rcases step_cases (w := w) (b := b) s with ⟨c, hp, hc, he⟩ | ⟨c, hp, -, he⟩ | ⟨c, a, hp, he⟩ |
      ⟨c, l, hp, hl, he⟩ | ⟨hx, -⟩
  · -- iteration `c` starts
    have hcm := (loops_iff hm).mp hc
    have hsplit : (w.maxRuns - c) * (w.retryAttempts + 2) =
        (w.maxRuns - c - 1) * (w.retryAttempts + 2) + (w.retryAttempts + 2) := by
      rw [← Nat.succ_mul]; congr 1; omega
    rw [he]
    simp only [rank, hp, stepsLeft]
    omega
  · rw [he]; simp [rank, hp]
  · -- one attempt
    simp only [Inv, hp] at h
    obtain ⟨-, -, -, j, hj⟩ := h
    have hlt : a < w.retryAttempts := Retry.lt_attempts_of_run_eq_retrying hn hj
    have hleft : stepsLeft w.retryAttempts (Retry.step (w.retryOptions b) (b.run c) (.retrying a)) <
        stepsLeft w.retryAttempts (.retrying a) := by
      rcases Retry.step_retrying_cases (o := w.retryOptions b) (f := b.run c) a with ⟨-, h'⟩ | ⟨-, h'⟩
      · rw [h']; simp only [stepsLeft]; omega
      · rw [h', stepsLeft_finish]; simp only [stepsLeft]; omega
    rw [he]
    simp only [rank, hp]
    omega
  · -- out of an ended `retry.Do`
    have hleft : stepsLeft w.retryAttempts l = 1 := by cases l <;> first | exact hl.elim | rfl
    rcases he with ⟨p, he⟩ | he <;> rw [he] <;> simp only [rank, hp, hleft, exit_phase]
    · omega
    · rw [← Nat.sub_sub]; omega
  · exact absurd hx hs

/-- **Run lemma.** The invariant holds at every step. -/
theorem Inv_runWorker (k : Nat) : Inv w b (runWorker w b k) := by
  induction k with
  | zero => exact ⟨Nat.zero_le _, rfl, Nat.zero_le _⟩
  | succ k ih => exact Inv_step hm hn ih

/-- **Termination.** After `k` steps `runWorker` has exited, or its rank
    has fallen by `k`. -/
theorem runWorker_exited_or_rank (k : Nat) :
    (runWorker w b k).phase.Exited ∨ rank w (runWorker w b k) + k ≤ rank w (runWorker w b 0) := by
  induction k with
  | zero => exact .inr (Nat.le_refl _)
  | succ k ih =>
    rw [runWorker_succ]
    by_cases hx : (runWorker w b k).phase.Exited
    · exact .inl (by rwa [step_of_exited hx])
    · have hlt := rank_step hm hn (Inv_runWorker hm hn k) hx
      have hk := ih.resolve_left hx
      exact .inr (by omega)

end Bounded

/-- **A worker with `MaxRuns() ≥ 1` and `RetryAttempts() ≥ 1` ends.**
    Whatever `Run`, `OnError` and the stop signal do, `runWorker` has
    called `Run` at most `MaxRuns() * RetryAttempts()` times and `OnExit`
    at most once at every step, and from
    `MaxRuns() * (RetryAttempts() + 2) + 1` steps on it has exited
    (returned, or panicking with a panic of `Run`) with `OnExit` called
    once. -/
theorem runWorker_bounded (w : Worker) (b : Behaviour) (hm : 1 ≤ w.maxRuns)
    (hn : 1 ≤ w.retryAttempts) :
    (∀ k, (runWorker w b k).runs ≤ w.maxRuns * w.retryAttempts ∧ (runWorker w b k).exits ≤ 1) ∧
      ∀ k, w.maxRuns * (w.retryAttempts + 2) + 1 ≤ k →
        (runWorker w b k).phase.Exited ∧ (runWorker w b k).exits = 1 := by
  refine ⟨fun k => (Inv_runWorker hm hn k).calls_le hn, fun k hk => ?_⟩
  have hx : (runWorker w b k).phase.Exited := by
    by_contra hx
    have hpos := rank_pos (w := w) hx
    have hr := (runWorker_exited_or_rank (b := b) hm hn k).resolve_left hx
    have h0 : rank w (runWorker w b 0) = w.maxRuns * (w.retryAttempts + 2) + 1 := by simp [rank]
    omega
  exact ⟨hx, exits_of_exited (Inv_runWorker hm hn k) hx⟩

/-- A `Run` that always fails with a recoverable error, an `OnError` that
    never stops the worker, and a stop signal that never comes. -/
def keepsFailing : Behaviour :=
  ⟨fun _ _ => .err (.new "run failed"), fun _ => true, fun _ _ => false, fun _ => false⟩

/-- Two runs of three attempts each, every attempt failing: `Run` is
    called six times. -/
theorem runWorker_bounded_keeps_failing :
    (∀ k, (runWorker ⟨"w", 2, 3, 0, 0⟩ keepsFailing k).runs ≤ 2 * 3 ∧
        (runWorker ⟨"w", 2, 3, 0, 0⟩ keepsFailing k).exits ≤ 1) ∧
      ∀ k, 2 * (3 + 2) + 1 ≤ k →
        (runWorker ⟨"w", 2, 3, 0, 0⟩ keepsFailing k).phase.Exited ∧
          (runWorker ⟨"w", 2, 3, 0, 0⟩ keepsFailing k).exits = 1 :=
  runWorker_bounded ⟨"w", 2, 3, 0, 0⟩ keepsFailing (by decide) (by decide)

example : runWorker ⟨"w", 2, 3, 0, 0⟩ keepsFailing 11 = ⟨.exited none, 6, 1⟩ := by decide

/-! ## Section 4: A worker with `RetryAttempts() = 0` -/

/-- **Retrying without bound.** With `RetryAttempts() = 0`, a `Run` that
    keeps failing in iteration `0` with errors `RetryIf` accepts keeps
    `retry.Do` going for ever, whatever `MaxRuns()` is: after `k + 1`
    steps `runWorker` is at attempt `k` of iteration `0`, with `Run`
    called `k` times and `OnExit` never. -/
theorem runWorker_of_keeps_failing {w : Worker} {b : Behaviour} (h0 : w.retryAttempts = 0)
    (hfail : ∀ a, ∃ err, b.run 0 a = .err err ∧ b.retryIf err = true) (k : Nat) :
    runWorker w b (k + 1) = ⟨.loop 0 (.retrying k), k, 0⟩ := by
  induction k with
  | zero => simp [step]
  | succ k ih =>
    obtain ⟨err, hr, hi⟩ := hfail k
    have hc : Retry.Continues (w.retryOptions b) (b.run 0) k :=
      ⟨err, hr, by simp [Retry.givesUp, Worker.retryOptions, hi, h0]⟩
    rw [runWorker_succ, ih]
    simp only [step, Retry.step_retrying_of_continues hc]

/-- A worker with `MaxRuns() = 1` and `RetryAttempts() = 0` whose `Run`
    keeps failing has called `Run` twice after three steps, more than
    `MaxRuns() * max 1 RetryAttempts()`, and goes on calling it without
    ever calling `OnExit`. -/
theorem runWorker_retries_forever :
    (runWorker ⟨"w", 1, 0, 0, 0⟩ keepsFailing 3).runs = 2 ∧
      ∀ k, runWorker ⟨"w", 1, 0, 0, 0⟩ keepsFailing (k + 1) = ⟨.loop 0 (.retrying k), k, 0⟩ :=
  have h := runWorker_of_keeps_failing (w := ⟨"w", 1, 0, 0, 0⟩) (b := keepsFailing) rfl
    fun _ => ⟨_, rfl, rfl⟩
  ⟨congrArg State.runs (h 2), h⟩

end Qubetics.Cron
