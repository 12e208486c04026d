import QubeticsSdk.Basic

/-! # The retry loop of `retry-go`

    `BroadcastTxSync`, `Tx` and the cron scheduler's workers hand a
    function to `retry.Do` of `github.com/avast/retry-go/v4`. The library
    is not part of the repository; this module models its `Do` for the
    options the repository passes: `Attempts`, `Delay` with a fixed delay
    type, `RetryIf`, and `LastErrorOnly(true)`. No call passes
    `retry.Context`, so the loop runs under `context.Background()` and its
    delays are never cut short.

    The loop runs attempts `0, 1, 2, …`. A successful attempt ends it with
    `nil`. A failed attempt ends it with that attempt's error when
    `RetryIf` rejects the error, or when it was attempt `attempts - 1`;
    otherwise the loop sleeps the delay and runs the next attempt. With
    `attempts = 0` there is no last attempt: the library retries until an
    attempt succeeds or `RetryIf` rejects its error. The library does not
    recover panics: a panicking attempt ends the loop with that panic.

    The loop is a state machine (`step`), run for a number of iterations
    (`run`). The results are the attempt-count law (`run_of_stops`), the
    bound for `attempts ≥ 1` (`run_ended_of_attempts_pos`) and the
    endless loop for `attempts = 0` (`run_retrying_of_continues`).
-/

namespace Qubetics.Retry

/-! ## Section 1: Model -/

/-- The options this repository passes to `retry.Do`. -/
structure Options where
  /-- `retry.Attempts`; `0` means retry until success. -/
  attempts : Nat
  /-- `retry.Delay`, with `retry.DelayType(retry.FixedDelay)`. -/
  delay : Duration
  /-- `retry.RetryIf`; retry-go's default accepts every recoverable
      error, and no error of this repository is unrecoverable. -/
  retryIf : Error → Bool

/-- Where one `retry.Do` loop stands. -/
inductive Loop where
  /-- `n` attempts have failed and attempt `n` comes next (after the
      delay, when `n > 0`). -/
  | retrying (n : Nat)
  /-- `retry.Do` returned `err` after `n` attempts. -/
  | returned (n : Nat) (err : Option Error)
  /-- Attempt `n - 1` panicked with `msg`. -/
  | panicked (n : Nat) (msg : String)
  deriving DecidableEq, Repr

/-- How the loop ends after `n` attempts when the last one ended with `r`. -/
def Loop.finish (n : Nat) : Result Unit → Loop
  | .ok _ => .returned n none
  | .err e => .returned n (some e)
  | .panic msg => .panicked n msg

/-- Whether the loop gives up after attempt `n` failed with `e`: `RetryIf`
    rejects `e`, or `n` was the last attempt (`n == attempts - 1`; never
    when `attempts = 0`). -/
def givesUp (o : Options) (n : Nat) (e : Error) : Bool :=
  !o.retryIf e || n + 1 == o.attempts

/-- One iteration of the loop: attempt `n`, which ends with `f n`, then a
    return or the delay. -/
def step (o : Options) (f : Nat → Result Unit) : Loop → Loop
  | .retrying n =>
    match f n with
    | .ok _ => .returned (n + 1) none
    | .err e => if givesUp o n e then .returned (n + 1) (some e) else .retrying (n + 1)
    | .panic msg => .panicked (n + 1) msg
  | .returned n err => .returned n err
  | .panicked n msg => .panicked n msg

/-- The loop after `k` iterations. -/
def run (o : Options) (f : Nat → Result Unit) : Nat → Loop
  | 0 => .retrying 0
  | k + 1 => step o f (run o f k)

/-- Attempt `n` fails with an error on which the loop does not give up. -/
def Continues (o : Options) (f : Nat → Result Unit) (n : Nat) : Prop :=
  ∃ e, f n = .err e ∧ givesUp o n e = false

/-- The loop has ended: returned or panicked. -/
def Loop.Ended : Loop → Prop
  | .retrying _ => False
  | _ => True

/-- The number of attempts the loop has started. -/
def Loop.attempts : Loop → Nat
  | .retrying n => n
  | .returned n _ => n
  | .panicked n _ => n

/-! ## Section 2: Step lemmas -/

variable {o : Options} {f : Nat → Result Unit}

@[simp] theorem run_zero : run o f 0 = .retrying 0 := rfl

@[simp] theorem run_succ (k : Nat) : run o f (k + 1) = step o f (run o f k) := rfl

/-- An ended loop does not move. -/
theorem step_of_ended {l : Loop} (h : l.Ended) : step o f l = l := by
  cases l <;> first | rfl | exact absurd h id

theorem step_retrying_of_continues {n : Nat} (h : Continues o f n) :
    step o f (.retrying n) = .retrying (n + 1) := by
  obtain ⟨e, he, hg⟩ := h
  simp [step, he, hg]

theorem step_retrying_of_stops {n : Nat} (h : ¬ Continues o f n) :
    step o f (.retrying n) = .finish (n + 1) (f n) := by
  cases hf : f n with
  | err e =>
    have hg : givesUp o n e = true := by
      by_contra hg
      exact h ⟨e, hf, by simpa using hg⟩
    simp [step, hf, hg, Loop.finish]
  | _ => simp [step, hf, Loop.finish]

/-- The step from `retrying n` either continues (attempt `n` failed and
    the loop goes on) or ends after `n + 1` attempts with `f n`. -/
theorem step_retrying_cases (n : Nat) :
    (Continues o f n ∧ step o f (.retrying n) = .retrying (n + 1)) ∨
    (¬ Continues o f n ∧ step o f (.retrying n) = .finish (n + 1) (f n)) :=
  (em _).imp (fun h => ⟨h, step_retrying_of_continues h⟩) fun h => ⟨h, step_retrying_of_stops h⟩

/-- A loop that gives up on its attempt count stops at `attempts - 1`. -/
theorem not_continues_last (h : 1 ≤ o.attempts) : ¬ Continues o f (o.attempts - 1) := by
  rintro ⟨e, -, hg⟩
  simp [givesUp, Nat.sub_add_cancel h] at hg

/-! ## Section 3: Run lemmas -/

/-- While the loop is retrying after `k` iterations, it has made exactly
    `k` attempts, and each of them continued. -/
theorem run_eq_retrying {k n : Nat} (h : run o f k = .retrying n) :
    n = k ∧ ∀ i < k, Continues o f i := by
  induction k generalizing n with
  | zero => cases h; exact ⟨rfl, fun _ hi => absurd hi (Nat.not_lt_zero _)⟩
  | succ k ih =>
    rw [run_succ] at h
    rcases hk : run o f k with m | ⟨m, err⟩ | ⟨m, msg⟩
    · obtain ⟨rfl, hc⟩ := ih hk
      rw [hk] at h
      rcases step_retrying_cases (o := o) (f := f) m with ⟨hm, hs⟩ | ⟨-, hs⟩
      · rw [hs] at h
        cases h
        exact ⟨rfl, fun i hi => (Nat.lt_succ_iff_lt_or_eq.mp hi).elim (hc i) (· ▸ hm)⟩
      · rw [hs] at h
        cases hf : f m <;> simp [hf, Loop.finish] at h
    all_goals simp [hk, step] at h

/-- The loop keeps retrying for as long as its attempts continue. -/
theorem run_of_continues {k : Nat} (h : ∀ i < k, Continues o f i) :
    run o f k = .retrying k := by
  induction k with
  | zero => rfl
  | succ k ih =>
    rw [run_succ, ih fun i hi => h i (by omega)]
    exact step_retrying_of_continues (h k (by omega))

/-- Once ended, the loop stays ended: more fuel changes nothing. -/
theorem run_stable {k : Nat} (h : (run o f k).Ended) :
    ∀ j, k ≤ j → run o f j = run o f k := by
  intro j hj
  induction j, hj using Nat.le_induction with
  | base => rfl
  | succ j _ ih => rw [run_succ, ih, step_of_ended h]

theorem finish_ended (n : Nat) (r : Result Unit) : (Loop.finish n r).Ended := by
  cases r <;> trivial

@[simp] theorem attempts_finish (n : Nat) (r : Result Unit) : (Loop.finish n r).attempts = n := by
  cases r <;> rfl

/-- The step from `retrying n` starts attempt `n`. -/
@[simp] theorem attempts_step_retrying (n : Nat) : (step o f (.retrying n)).attempts = n + 1 := by
  rcases step_retrying_cases (o := o) (f := f) n with ⟨-, hs⟩ | ⟨-, hs⟩ <;> rw [hs]
  · rfl
  · exact attempts_finish _ _

/-- One iteration starts at most one attempt. -/
theorem attempts_step_le (l : Loop) : (step o f l).attempts ≤ l.attempts + 1 := by
  rcases l with n | _ | _
  · exact (attempts_step_retrying n).le
  all_goals exact Nat.le_succ _

theorem attempts_run_le (k : Nat) : (run o f k).attempts ≤ k := by
  induction k with
  | zero => rfl
  | succ k ih => exact (attempts_step_le _).trans (by omega)

/-- **Attempt-count law.** If attempts `0, …, k - 1` continue and attempt
    `k` does not, the loop ends with `f k` after exactly `k + 1` attempts,
    for every number of iterations past `k`. -/
theorem run_of_stops {k : Nat} (hc : ∀ i < k, Continues o f i) (hs : ¬ Continues o f k) :
    ∀ j, k + 1 ≤ j → run o f j = .finish (k + 1) (f k) := by
  have hk : run o f (k + 1) = .finish (k + 1) (f k) := by
    rw [run_succ, run_of_continues hc, step_retrying_of_stops hs]
  intro j hj
  rw [run_stable (hk ▸ finish_ended _ _) j hj, hk]

/-- With `attempts ≥ 1` the loop has ended after `attempts` iterations. -/
theorem run_ended_of_attempts_pos (h : 1 ≤ o.attempts) : (run o f o.attempts).Ended := by
  rcases hr : run o f o.attempts with m | _ | _
  · obtain ⟨-, hc⟩ := run_eq_retrying hr
    exact absurd (hc _ (by omega)) (not_continues_last h)
  all_goals trivial

/-- **Bound.** With `attempts ≥ 1`, from `attempts` iterations on the loop
    has ended, after at most `attempts` attempts. -/
theorem run_bounded (h : 1 ≤ o.attempts) {j : Nat} (hj : o.attempts ≤ j) :
    (run o f j).Ended ∧ (run o f j).attempts ≤ o.attempts := by
  rw [run_stable (run_ended_of_attempts_pos h) j hj]
  exact ⟨run_ended_of_attempts_pos h, attempts_run_le _⟩

/-- With `attempts ≥ 1` the loop never starts more than `attempts`
    attempts, whatever the number of iterations. -/
theorem attempts_run_le_attempts (h : 1 ≤ o.attempts) (k : Nat) :
    (run o f k).attempts ≤ o.attempts :=
  (le_total k o.attempts).elim (fun hk => (attempts_run_le k).trans hk) fun hk => (run_bounded h hk).2

/-- With `attempts ≥ 1` a loop that is still retrying has made fewer than
    `attempts` attempts. -/
theorem lt_attempts_of_run_eq_retrying (h : 1 ≤ o.attempts) {k n : Nat}
    (hr : run o f k = .retrying n) : n < o.attempts := by
  obtain ⟨rfl, hc⟩ := run_eq_retrying hr
  by_contra hn
  exact not_continues_last h (hc _ (by omega))

/-- An attempt `j` that does not continue bounds the loop: from `j + 1`
    iterations on it has ended, after at most `j + 1` attempts, whatever
    the attempt count. -/
theorem run_bounded_of_not_continues {j : Nat} (h : ¬ Continues o f j) {fuel : Nat}
    (hfuel : j + 1 ≤ fuel) : (run o f fuel).Ended ∧ (run o f fuel).attempts ≤ j + 1 := by
  have hend : (run o f (j + 1)).Ended := by
    rcases hr : run o f j with n | _ | _
    · obtain ⟨rfl, -⟩ := run_eq_retrying hr
      rw [run_succ, hr, step_retrying_of_stops h]
      exact finish_ended _ _
    all_goals rw [run_succ, hr]; trivial
  rw [run_stable hend fuel hfuel]
  exact ⟨hend, attempts_run_le _⟩

/-- If every attempt continues, the loop never returns. -/
theorem run_retrying_of_continues (h : ∀ n, Continues o f n) (k : Nat) :
    run o f k = .retrying k :=
  run_of_continues fun i _ => h i

end Qubetics.Retry
