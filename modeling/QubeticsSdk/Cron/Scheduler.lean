import QubeticsSdk.Basic

/-! # The cron scheduler

    `Scheduler` of package `cron`: a flag `isRunning`, a stop channel
    `stopSignal`, and the registered workers by name. `Start` sets the flag
    and launches one goroutine per worker; `Stop` closes the channel, waits
    for the goroutines and clears the flag; `RegisterWorkers` adds workers
    while the scheduler is stopped. The mutex makes each call atomic, so a
    run of the scheduler is a sequence of calls, each a step of the state
    machine below.

    The channel is made once, by `NewScheduler`, and only `Stop` closes
    it: `Start` never makes a new one. A scheduler started again after a
    `Stop` runs on the closed channel, so the workers it launches are told
    to stop at once, and its next `Stop` closes the closed channel, which
    panics (`restart_breaks_invariant`).

    Over every run, the worker map stays keyed by name with no name twice
    (`reachable_workersWF`). A batch that repeats a name is registered up
    to that name: the error is returned and the workers before it stay
    registered (`RegisterWorkers_keeps_prefix`).
-/

namespace Qubetics.Cron

/-! ## Section 1: Model -/

/-- What a `Worker` reports about itself: `Name()`, `MaxRuns()`,
    `RetryAttempts()`, `RetryDelay()` and `Interval()`. -/
structure Worker where
  name : String
  maxRuns : Nat
  retryAttempts : Nat
  retryDelay : Duration
  interval : Duration
  deriving DecidableEq, Repr

/-- `Scheduler` between two calls. -/
structure Scheduler where
  isRunning : Bool
  /-- `stopSignal` has been closed. -/
  stopClosed : Bool
  /-- `workers`, the newest registration first. -/
  workers : List (String × Worker)
  deriving DecidableEq, Repr

/-- `NewScheduler()`. -/
def NewScheduler : Scheduler := ⟨false, false, []⟩

/-- `errors.New("scheduler is already running")`. -/
def errAlreadyRunning : Error := .new "scheduler is already running"

/-- The run-time panic of `close` on a closed channel. -/
def closeOfClosedChannel : String := "close of closed channel"

namespace Scheduler

/-- `s.Start()`. -/
def Start (s : Scheduler) : Scheduler × Result Unit :=
  if s.isRunning then (s, .err errAlreadyRunning)
  else ({ s with isRunning := true }, .ok ())

/-- `s.Stop()`. -/
def Stop (s : Scheduler) : Scheduler × Result Unit :=
  if !s.isRunning then (s, .ok ())
  else if s.stopClosed then (s, .panic closeOfClosedChannel)
  else ({ s with stopClosed := true, isRunning := false }, .ok ())

/-- The loop of `RegisterWorkers` over `workers`, from the map `m`: a
    duplicate name ends it with the workers before it registered. -/
def registerAll (m : List (String × Worker)) : List Worker → List (String × Worker) × Result Unit
  | [] => (m, .ok ())
  | w :: ws =>
    if (m.lookup w.name).isSome then (m, .err (.new ("duplicate worker " ++ w.name)))
    else registerAll ((w.name, w) :: m) ws

/-- `s.RegisterWorkers(workers...)`. -/
def RegisterWorkers (s : Scheduler) (workers : List Worker) : Scheduler × Result Unit :=
  if s.isRunning then (s, .err errAlreadyRunning)
  else ({ s with workers := (registerAll s.workers workers).1 }, (registerAll s.workers workers).2)

end Scheduler

/-- A call on the scheduler. -/
inductive Call where
  | Start
  | Stop
  | RegisterWorkers (workers : List Worker)
  deriving Repr

namespace Scheduler

/-- One call: the state after it and what it returned. -/
def call (s : Scheduler) : Call → Scheduler × Result Unit
  | .Start => s.Start
  | .Stop => s.Stop
  | .RegisterWorkers workers => s.RegisterWorkers workers

/-- The calls `cs` one after another: the state after them and what each
    returned. -/
def calls (s : Scheduler) : List Call → Scheduler × List (Result Unit)
  | [] => (s, [])
  | c :: cs => ((s.call c).1.calls cs).map id ((s.call c).2 :: ·)

@[simp] theorem calls_nil (s : Scheduler) : s.calls [] = (s, []) := rfl

@[simp] theorem calls_cons_fst (s : Scheduler) (c : Call) (cs : List Call) :
    (s.calls (c :: cs)).1 = ((s.call c).1.calls cs).1 := rfl

end Scheduler

/-- The states a scheduler made by `NewScheduler` reaches. -/
inductive Reachable : Scheduler → Prop where
  | NewScheduler : Reachable NewScheduler
  | call {s : Scheduler} (c : Call) : Reachable s → Reachable (s.call c).1

/-! ## Section 2: Step lemmas -/

namespace Scheduler

variable (s : Scheduler)

@[simp] theorem Start_isRunning : (s.Start).1.isRunning = true := by
  unfold Start; split <;> simp_all

@[simp] theorem Start_stopClosed : (s.Start).1.stopClosed = s.stopClosed := by
  unfold Start; split <;> rfl

/-- `Stop` closes the channel whenever the scheduler was running. -/
@[simp] theorem Stop_stopClosed : (s.Stop).1.stopClosed = (s.stopClosed || s.isRunning) := by
  obtain ⟨_ | _, _ | _, _⟩ := s <;> rfl

/-- `Stop` panics exactly on a running scheduler whose channel is closed. -/
theorem Stop_result (h : s.isRunning = true) (hc : s.stopClosed = true) :
    (s.Stop).2 = .panic closeOfClosedChannel := by
  simp [Stop, h, hc]

end Scheduler

/-! ## Section 3: Restarting -/

/-- **A restarted scheduler cannot be stopped.** From every state, the
    calls `Start`, `Stop`, `Start` leave the scheduler running on a closed
    `stopSignal` (the workers the second `Start` launches are told to stop
    at once), and the next `Stop` closes the closed channel and panics. -/
theorem restart_breaks_invariant (s : Scheduler) :
    (s.calls [.Start, .Stop, .Start]).1.isRunning = true ∧
      (s.calls [.Start, .Stop, .Start]).1.stopClosed = true ∧
      ((s.calls [.Start, .Stop, .Start]).1.Stop).2 = .panic closeOfClosedChannel := by
  have hclosed : (s.calls [.Start, .Stop, .Start]).1.stopClosed = true := by
    simp [Scheduler.call]
  exact ⟨by simp [Scheduler.call], hclosed, Scheduler.Stop_result _ (by simp [Scheduler.call]) hclosed⟩

example : (NewScheduler.calls [.Start, .Stop, .Start, .Stop]).2 =
    [.ok (), .ok (), .ok (), .panic closeOfClosedChannel] := by
  decide

/-! ## Section 4: The worker map -/

/-- The worker map is keyed by each worker's name, with no name twice. -/
structure WorkersWF (m : List (String × Worker)) : Prop where
  keyed : ∀ p ∈ m, p.1 = p.2.name
  nodup : (m.map Prod.fst).Nodup

theorem WorkersWF.cons {m : List (String × Worker)} (h : WorkersWF m) {w : Worker}
    (hw : (m.lookup w.name).isSome = false) : WorkersWF ((w.name, w) :: m) := by
  refine ⟨?_, ?_⟩
  · intro p hp
    rcases List.mem_cons.mp hp with rfl | hp
    · rfl
    · exact h.keyed p hp
  · simp only [List.map_cons, List.nodup_cons, List.mem_map]
    refine ⟨?_, h.nodup⟩
    rintro ⟨p, hp, hname⟩
    have : (m.lookup w.name).isSome = true := List.lookup_isSome_iff.mpr ⟨p, hp, by simp [hname]⟩
    simp_all

theorem registerAll_workersWF {m : List (String × Worker)} (h : WorkersWF m)
    (workers : List Worker) : WorkersWF (Scheduler.registerAll m workers).1 := by
  induction workers generalizing m with
  | nil => exact h
  | cons w ws ih =>
    unfold Scheduler.registerAll
    split
    · exact h
    · next hw => exact ih (h.cons (Bool.eq_false_iff.mpr hw))

theorem call_workersWF {s : Scheduler} (h : WorkersWF s.workers) (c : Call) :
    WorkersWF (s.call c).1.workers := by
  cases c with
  | Start => simp only [Scheduler.call, Scheduler.Start]; split <;> exact h
  | Stop => simp only [Scheduler.call, Scheduler.Stop]; split <;> (try split) <;> exact h
  | RegisterWorkers ws =>
    simp only [Scheduler.call, Scheduler.RegisterWorkers]
    split
    · exact h
    · exact registerAll_workersWF h ws

/-- **Invariant.** In every reachable state the worker map is keyed by
    name with no name twice. -/
theorem reachable_workersWF {s : Scheduler} (h : Reachable s) : WorkersWF s.workers := by
  induction h with
  | NewScheduler => exact ⟨by simp [NewScheduler], by simp [NewScheduler]⟩
  | call c _ ih => exact call_workersWF ih c

/-! ## Section 5: Registering a batch -/

/-- The worker map after `ws` are added one after another, each under its
    name. -/
def addAll (m : List (String × Worker)) (ws : List Worker) : List (String × Worker) :=
  ws.foldl (fun m w => (w.name, w) :: m) m

/-- Workers that can all be added to `m`: no name twice, and none already
    in `m`. -/
def Fresh (m : List (String × Worker)) (ws : List Worker) : Prop :=
  (ws.map Worker.name).Nodup ∧ ∀ w ∈ ws, m.lookup w.name = none

instance (m : List (String × Worker)) (ws : List Worker) : Decidable (Fresh m ws) :=
  inferInstanceAs (Decidable (_ ∧ _))

@[simp] theorem addAll_nil (m : List (String × Worker)) : addAll m [] = m := rfl

@[simp] theorem addAll_cons (m : List (String × Worker)) (w : Worker) (ws : List Worker) :
    addAll m (w :: ws) = addAll ((w.name, w) :: m) ws := rfl

theorem length_addAll (m : List (String × Worker)) (ws : List Worker) :
    (addAll m ws).length = m.length + ws.length := by
  induction ws generalizing m with
  | nil => rfl
  | cons w ws ih => simp only [addAll_cons, ih, List.length_cons]; omega

/-- A name is in the map after adding `ws` iff it was before or is the
    name of one of `ws`. -/
theorem lookup_addAll_isSome (m : List (String × Worker)) (ws : List Worker) (k : String) :
    ((addAll m ws).lookup k).isSome ↔ k ∈ ws.map Worker.name ∨ (m.lookup k).isSome := by
  induction ws generalizing m with
  | nil => simp
  | cons w ws ih =>
    rw [addAll_cons, ih]
    by_cases hk : k = w.name
    · simp [List.lookup_cons, hk]
    · simp [List.lookup_cons, beq_eq_false_iff_ne.mpr hk, hk]

theorem Fresh.cons {m : List (String × Worker)} {w : Worker} {ws : List Worker}
    (h : Fresh m (w :: ws)) : m.lookup w.name = none ∧ Fresh ((w.name, w) :: m) ws := by
  obtain ⟨hnodup, hfresh⟩ := h
  rw [List.map_cons, List.nodup_cons] at hnodup
  refine ⟨hfresh w (List.mem_cons_self _ _), hnodup.2, fun w' hw' => ?_⟩
  have hne : w'.name ≠ w.name := fun he => hnodup.1 (he ▸ List.mem_map_of_mem _ hw')
  simp [List.lookup_cons, beq_eq_false_iff_ne.mpr hne, hfresh w' (List.mem_cons_of_mem _ hw')]

/-- The loop of `RegisterWorkers` adds a batch of fresh workers. -/
theorem registerAll_of_fresh {m : List (String × Worker)} {ws : List Worker} (h : Fresh m ws) :
    Scheduler.registerAll m ws = (addAll m ws, .ok ()) := by
  induction ws generalizing m with
  | nil => rfl
  | cons w ws ih =>
    obtain ⟨hw, hws⟩ := h.cons
    simp [Scheduler.registerAll, hw, ih hws]

/-- The loop of `RegisterWorkers` stops at the first duplicate `w`, with the
    workers before it added. -/
theorem registerAll_of_duplicate {m : List (String × Worker)} {pre : List Worker} {w : Worker}
    (post : List Worker) (h : Fresh m pre)
    (hdup : w.name ∈ pre.map Worker.name ∨ (m.lookup w.name).isSome) :
    Scheduler.registerAll m (pre ++ w :: post) =
      (addAll m pre, .err (.new ("duplicate worker " ++ w.name))) := by
  induction pre generalizing m with
  | nil =>
    have hw : (m.lookup w.name).isSome = true := by simpa using hdup
    simp [Scheduler.registerAll, hw]
  | cons p pre ih =>
    obtain ⟨hp, hpre⟩ := h.cons
    have hdup' : w.name ∈ pre.map Worker.name ∨ (((p.name, p) :: m).lookup w.name).isSome := by
      rw [← lookup_addAll_isSome m (p :: pre), addAll_cons, lookup_addAll_isSome] at hdup
      exact hdup
    simp [Scheduler.registerAll, hp, ih hpre hdup']

/-- A stopped scheduler registers a batch of fresh workers and returns
    `nil`. -/
theorem RegisterWorkers_of_fresh {s : Scheduler} (hstopped : s.isRunning = false)
    {ws : List Worker} (h : Fresh s.workers ws) :
    s.RegisterWorkers ws = ({ s with workers := addAll s.workers ws }, .ok ()) := by
  simp [Scheduler.RegisterWorkers, hstopped, registerAll_of_fresh h]

/-- **A failed registration keeps what it added.** On a stopped scheduler,
    a batch whose worker `w` repeats a name of the map or of the workers
    `pre` before it returns the duplicate error for `w`, and the map keeps
    the `pre.length` workers registered before `w`. -/
theorem RegisterWorkers_keeps_prefix (s : Scheduler) (hstopped : s.isRunning = false)
    (pre : List Worker) (w : Worker) (post : List Worker) (h : Fresh s.workers pre)
    (hdup : w.name ∈ pre.map Worker.name ∨ (s.workers.lookup w.name).isSome) :
    s.RegisterWorkers (pre ++ w :: post) =
        ({ s with workers := addAll s.workers pre }, .err (.new ("duplicate worker " ++ w.name))) ∧
      (addAll s.workers pre).length = s.workers.length + pre.length := by
  refine ⟨?_, length_addAll _ _⟩
  simp [Scheduler.RegisterWorkers, hstopped, registerAll_of_duplicate post h hdup]

/-- The batch `a`, `b`, `a` on a new scheduler: `a` and `b` stay
    registered. -/
theorem RegisterWorkers_repeat_in_batch :
    NewScheduler.RegisterWorkers ([⟨"a", 1, 0, 0, 0⟩, ⟨"b", 1, 0, 0, 0⟩] ++ [⟨"a", 1, 0, 0, 0⟩]) =
        ({ NewScheduler with
            workers := addAll NewScheduler.workers [⟨"a", 1, 0, 0, 0⟩, ⟨"b", 1, 0, 0, 0⟩] },
          .err (.new ("duplicate worker " ++ "a"))) ∧
      (addAll NewScheduler.workers [⟨"a", 1, 0, 0, 0⟩, ⟨"b", 1, 0, 0, 0⟩]).length =
        NewScheduler.workers.length + 2 :=
  RegisterWorkers_keeps_prefix NewScheduler rfl _ ⟨"a", 1, 0, 0, 0⟩ [] (by decide) (by decide)

end Qubetics.Cron
