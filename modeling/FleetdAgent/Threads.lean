import FleetdAgent.Duties

/-!
# The agent's threads across `start()` and `stop()`

`start()` sets `self.running = True` and spawns a heartbeat, a telemetry and a
command-loop thread; `stop()` sets `self.running = False`.  Nothing joins the
threads: a duty thread sees a `stop()` only at its next test of
`self.running`, and until then it may be anywhere in an iteration, blocked in
`time.sleep`, in `Queue.get` or in the long poll.

The state here is `self.running` and, for each duty thread spawned so far,
where it is: at the test of its `while`, inside an iteration, or ended.  An
`Action` is one step of an interleaving: a `start()` call reaching
`self.running = True` with its spawns, a `stop()` call, a thread testing
`self.running`, or a thread ending an iteration.  `start()` sets
`self.running` before it starts the threads one by one, and a
`Thread.start` that raises `RuntimeError` (no new thread can be made) leaves
the later ones unstarted with `self.running` true.  How an iteration ends is
taken from the loop models of `FleetdAgent.Duties`, and
`afterIteration_eq_iteration` says it agrees with them.  The rest of
`start()` (the credentials, the enrollment, the system-info update and its own
wait loop) touches neither `self.running` nor the threads, and a `start()`
that returns `False` changes nothing here.

Three facts over every run: the command loops inside an iteration are at
most one more than the `start()` calls made while an earlier command loop was
still running, since such a loop goes on beside the new one; after `stop()`
no thread begins an iteration until the next `start()`, and a thread that
tests `self.running` leaves its loop; and while `self.running` is true every
duty has a thread in its loop, provided `time.sleep` accepts the intervals
and every `start()` started all three threads.
-/

namespace FleetdAgent

open Agent

/-- The loop a duty thread runs. -/
inductive Duty where
  | heartbeat
  | telemetry
  | command
  deriving DecidableEq, Repr

/-- Where a duty thread is. -/
inductive Pc where
  /-- at the test of `while self.running` -/
  | test
  /-- inside an iteration -/
  | body
  /-- out of its loop, by the test or by an exception -/
  | exited
  deriving DecidableEq, Repr

/-- `self.running` and the duty threads spawned so far, in spawn order. -/
structure Threads where
  running : Bool
  threads : List (Duty × Pc)
  deriving DecidableEq, Repr

/-- One step of an interleaving. -/
inductive Action where
  /-- a `start()` call sets `self.running = True` and starts the first
  `spawned` of its three threads -/
  | start (spawned : Nat)
  /-- `stop()` -/
  | stop
  /-- thread `i` tests `self.running` -/
  | test (i : Nat)
  /-- thread `i` ends an iteration -/
  | finish (i : Nat)
  deriving DecidableEq, Repr

/-- A `start()` call, whatever its spawns did. -/
def Action.isStart : Action → Bool
  | .start _ => true
  | _ => false

/-- `__init__`: `self.running = False`, and no thread yet. -/
def Threads.init : Threads := ⟨false, []⟩

/-- The threads `start()` makes, in the order it starts them. -/
def spawnOrder : List (Duty × Pc) := [(.heartbeat, .test), (.telemetry, .test), (.command, .test)]

/-- The test of `while self.running`: enter an iteration, or leave the loop. -/
def Pc.onTest (running : Bool) : Pc → Pc
  | .test => if running then .body else .exited
  | .body => .body
  | .exited => .exited

/-- The end of an iteration, going where `after` says. -/
def Pc.onFinish (after : Pc) : Pc → Pc
  | .test => .test
  | .body => after
  | .exited => .exited

/-- The threads of duty `d` still in their loops. -/
def Threads.alive (d : Duty) (s : Threads) : Nat := s.threads.countP fun t => t.1 = d ∧ t.2 ≠ .exited

/-- The threads of duty `d` inside an iteration. -/
def Threads.busy (d : Duty) (s : Threads) : Nat := s.threads.countP fun t => t.1 = d ∧ t.2 = .body

section Steps

variable (sleepMax : Int) (config : AgentConfig)

/-- Where a duty thread goes when it ends an iteration: a command-loop pass
catches everything, a sleeping loop's pass ends as its `time.sleep` does. -/
def Duty.afterIteration : Duty → Pc
  | .heartbeat => if (timeSleep sleepMax config.heartbeatInterval).toBool then .test else .exited
  | .telemetry => if (timeSleep sleepMax config.telemetryInterval).toBool then .test else .exited
  | .command => .test

/-- One step. -/
def Threads.step (s : Threads) : Action → Threads
  | .start spawned => ⟨true, s.threads ++ spawnOrder.take spawned⟩
  | .stop => { s with running := false }
  | .test i => { s with threads := s.threads.modify (fun t => (t.1, t.2.onTest s.running)) i }
  | .finish i =>
    { s with threads := s.threads.modify (fun t => (t.1, Pc.onFinish (t.1.afterIteration sleepMax config) t.2)) i }

/-- The state after the actions, one after another. -/
def Threads.run (s : Threads) (acts : List Action) : Threads := acts.foldl (Threads.step sleepMax config) s

/-- The `start()` calls of a run made while a command loop of an earlier call
had not ended. -/
def Threads.lateStarts : Threads → List Action → Nat
  | _, [] => 0
  | s, a :: acts =>
    (if a.isStart ∧ 0 < s.alive .command then 1 else 0) + (s.step sleepMax config a).lateStarts acts

/-- The iteration a duty thread runs, in the loop models; `queue` is what the
command loop's `get` finds. -/
def Duty.iteration (waitMax : Int) (sha256Hex : Bytes → String) (queue : QueueReading) :
    Duty → Agent Unit
  | .heartbeat => sleepIteration sleepMax sendHeartbeat config.heartbeatInterval
  | .telemetry => sleepIteration sleepMax sendTelemetry config.telemetryInterval
  | .command => commandIteration waitMax sha256Hex config queue

/-- The thread model's end of an iteration is the loop model's: a thread
stays in its loop exactly when its pass returns normally, whatever the
collaborators do. -/
theorem afterIteration_eq_iteration (waitMax : Int) (sha256Hex : Bytes → String)
    (queue : QueueReading) (d : Duty) (env : Env) (w : World) :
    d.afterIteration sleepMax config =
      if ((d.iteration sleepMax config waitMax sha256Hex queue) env w).1.toBool then .test
      else .exited := by
  cases d <;> simp [Duty.afterIteration, Duty.iteration, sleepIteration_apply,
    commandIteration_apply, Except.toBool]

theorem Threads.run_cons (s : Threads) (a : Action) (acts : List Action) :
    s.run sleepMax config (a :: acts) = (s.step sleepMax config a).run sleepMax config acts := rfl

theorem Duty.afterIteration_ne_body (d : Duty) : d.afterIteration sleepMax config ≠ .body := by
  cases d <;> simp only [Duty.afterIteration] <;> (try split) <;> nofun

/-! ## Counting threads -/

theorem countP_modify_le {p : α → Bool} {f : α → α} (hf : ∀ x, p (f x) → p x) :
    ∀ (i : Nat) (l : List α), (l.modify f i).countP p ≤ l.countP p
  | _, [] => by simp only [List.modify_nil, List.countP_nil, le_refl]
  | 0, x :: l => by
    simp only [List.modify_zero_cons, List.countP_cons]
    have := hf x
    split <;> split <;> simp_all
  | i + 1, x :: l => by
    simp only [List.modify_succ_cons, List.countP_cons]
    exact Nat.add_le_add_right (countP_modify_le hf i l) _

theorem countP_le_modify {p : α → Bool} {f : α → α} (hf : ∀ x, p x → p (f x)) :
    ∀ (i : Nat) (l : List α), l.countP p ≤ (l.modify f i).countP p
  | _, [] => by simp only [List.modify_nil, List.countP_nil, le_refl]
  | 0, x :: l => by
    simp only [List.modify_zero_cons, List.countP_cons]
    have := hf x
    split <;> split <;> simp_all
  | i + 1, x :: l => by
    simp only [List.modify_succ_cons, List.countP_cons]
    exact Nat.add_le_add_right (countP_le_modify hf i l) _

theorem busy_le_alive (s : Threads) (d : Duty) : s.busy d ≤ s.alive d :=
  List.countP_mono_left fun ⟨_, pc⟩ _ h => by cases pc <;> simp_all

/-- A `start()` adds at most one thread of each duty. -/
theorem alive_start_le (s : Threads) (d : Duty) (spawned : Nat) :
    (s.step sleepMax config (.start spawned)).alive d ≤ s.alive d + 1 := by
  rcases spawned with _ | _ | _ | spawned <;> cases d <;>
    simp [Threads.step, Threads.alive, spawnOrder]

/-- A `start()` whose three spawns succeed adds one thread of each duty. -/
theorem alive_start_of_spawned (s : Threads) (d : Duty) {spawned : Nat} (h : 3 ≤ spawned) :
    (s.step sleepMax config (.start spawned)).alive d = s.alive d + 1 := by
  obtain ⟨k, rfl⟩ : ∃ k, spawned = k + 3 := ⟨spawned - 3, by omega⟩
  cases d <;> simp [Threads.step, Threads.alive, spawnOrder]

/-- Only `start()` adds a thread: a stop, a test or the end of an iteration
never brings one back. -/
theorem alive_step_le (s : Threads) (d : Duty) {a : Action} (h : a.isStart = false) :
    (s.step sleepMax config a).alive d ≤ s.alive d := by
  cases a with
  | start => cases h
  | stop => exact le_refl _
  | test i | finish i =>
    apply countP_modify_le
    rintro ⟨d', pc⟩
    cases pc <;> simp [Pc.onTest, Pc.onFinish]
    all_goals exact fun h _ => h

/-! ## Command loops side by side -/

/-- One step adds a command loop beyond the first only by a late start. -/
theorem alive_command_step (s : Threads) (a : Action) :
    max ((s.step sleepMax config a).alive .command) 1 ≤
      max (s.alive .command) 1 + (if a.isStart ∧ 0 < s.alive .command then 1 else 0) := by
  cases ha : a.isStart
  · have := alive_step_le sleepMax config s .command ha
    simp only [Bool.false_eq_true, false_and, if_false]
    omega
  · obtain ⟨spawned, rfl⟩ : ∃ spawned, a = .start spawned := by
      cases a <;> first | exact ⟨_, rfl⟩ | cases ha
    have := alive_start_le sleepMax config s .command spawned
    by_cases h : 0 < s.alive .command <;> simp only [h, and_true, and_false, if_true, if_false] <;>
      omega

/-- Over a whole run: command loops beyond the first come only from late
starts. -/
theorem alive_command_run (s : Threads) (acts : List Action) :
    (s.run sleepMax config acts).alive .command ≤
      max (s.alive .command) 1 + s.lateStarts sleepMax config acts := by
  induction acts generalizing s with
  | nil => exact le_max_left _ _
  | cons a acts ih =>
    have hstep := alive_command_step sleepMax config s a
    have hrest := ih (s.step sleepMax config a)
    rw [Threads.run_cons, Threads.lateStarts]
    omega

/-! ## After `stop()` -/

/-- Thread `i` is inside an iteration. -/
def Threads.InIteration (s : Threads) (i : Nat) : Prop := ∃ d, s.threads[i]? = some (d, .body)

/-- With `self.running` false, no step but `start()` sets it, and none puts a
thread into an iteration: the test sends every thread out of its loop. -/
theorem step_stopped (s : Threads) (hs : s.running = false) {a : Action} (h : a.isStart = false) :
    (s.step sleepMax config a).running = false ∧
      ∀ i, (s.step sleepMax config a).InIteration i → s.InIteration i := by
  cases a with
  | start => cases h
  | stop => exact ⟨rfl, fun _ hi => hi⟩
  | test j | finish j =>
    refine ⟨hs, fun i ⟨d, hd⟩ => ?_⟩
    simp only [Threads.step, List.getElem?_modify] at hd
    rcases hx : s.threads[i]? with _ | ⟨d', pc⟩
    · simp [hx] at hd
    · simp only [hx, Option.map_eq_map, Option.map_some', Option.some.injEq] at hd
      refine ⟨d', ?_⟩
      by_cases hji : j = i <;> cases pc <;>
        simp_all [Pc.onTest, Pc.onFinish, Duty.afterIteration_ne_body]

theorem run_stopped (s : Threads) (hs : s.running = false) (acts : List Action)
    (h : ∀ a ∈ acts, a.isStart = false) :
    (s.run sleepMax config acts).running = false ∧
      ∀ i, (s.run sleepMax config acts).InIteration i → s.InIteration i := by
  induction acts generalizing s with
  | nil => exact ⟨hs, fun _ hi => hi⟩
  | cons a acts ih =>
    obtain ⟨hs', hback⟩ := step_stopped sleepMax config s hs (h a (List.mem_cons_self a acts))
    obtain ⟨hrun, hin⟩ := ih _ hs' fun b hb => h b (List.mem_cons_of_mem a hb)
    exact ⟨hrun, fun i hi => hback i (hin i hi)⟩

/-- With `self.running` false, a thread at the test of its `while` leaves its
loop. -/
theorem test_stopped (s : Threads) (hs : s.running = false) {i : Nat} {d : Duty}
    (h : s.threads[i]? = some (d, .test)) :
    (s.step sleepMax config (.test i)).threads[i]? = some (d, .exited) := by
  simp [Threads.step, List.getElem?_modify, h, hs, Pc.onTest]

/-! ## While `self.running` -/

/-- While `self.running` is true, every duty has a thread in its loop. -/
def Threads.DutiesAlive (s : Threads) : Prop := s.running = true → ∀ d, 0 < s.alive d

/-- While `self.running` is true, a step other than `stop()` ends no thread,
when every pass ends back at the test. -/
theorem alive_le_step_running (hafter : ∀ d : Duty, d.afterIteration sleepMax config = .test)
    (s : Threads) (hs : s.running = true) (d : Duty) {a : Action} (h : a ≠ .stop)
    (hspawn : ∀ spawned, a = .start spawned → 3 ≤ spawned) :
    s.alive d ≤ (s.step sleepMax config a).alive d := by
  cases a with
  | start spawned =>
    rw [alive_start_of_spawned sleepMax config s d (hspawn spawned rfl)]
    exact Nat.le_succ _
  | stop => exact absurd rfl h
  | test i | finish i =>
    apply countP_le_modify
    rintro ⟨d', pc⟩
    cases pc <;> simp [Pc.onTest, Pc.onFinish, hs, hafter]

theorem dutiesAlive_step (hafter : ∀ d : Duty, d.afterIteration sleepMax config = .test)
    (s : Threads) (hs : s.DutiesAlive) (a : Action)
    (hspawn : ∀ spawned, a = .start spawned → 3 ≤ spawned) :
    (s.step sleepMax config a).DutiesAlive := by
  intro hrun d
  cases a with
  | start spawned =>
    rw [alive_start_of_spawned sleepMax config s d (hspawn spawned rfl)]
    exact Nat.succ_pos _
  | stop => cases hrun
  | test i | finish i =>
    exact Nat.lt_of_lt_of_le (hs hrun d)
      (alive_le_step_running sleepMax config hafter s hrun d nofun nofun)

theorem dutiesAlive_run (hafter : ∀ d : Duty, d.afterIteration sleepMax config = .test)
    (s : Threads) (hs : s.DutiesAlive) (acts : List Action)
    (hspawn : ∀ spawned, .start spawned ∈ acts → 3 ≤ spawned) :
    (s.run sleepMax config acts).DutiesAlive := by
  induction acts generalizing s with
  | nil => exact hs
  | cons a acts ih =>
    exact ih _ (dutiesAlive_step sleepMax config hafter s hs a fun k hk =>
        hspawn k (hk ▸ List.mem_cons_self a acts))
      fun k hk => hspawn k (List.mem_cons_of_mem a hk)

/-- With intervals `time.sleep` accepts, every pass ends back at the test. -/
theorem afterIteration_of_accepted
    (hheart : 0 ≤ config.heartbeatInterval ∧ config.heartbeatInterval ≤ sleepMax)
    (htele : 0 ≤ config.telemetryInterval ∧ config.telemetryInterval ≤ sleepMax) (d : Duty) :
    d.afterIteration sleepMax config = .test := by
  cases d <;> simp [Duty.afterIteration, timeSleep_ok sleepMax hheart.1 hheart.2,
    timeSleep_ok sleepMax htele.1 htele.2, Except.toBool]

end Steps

/-- In every interleaving of every sequence of `start()` and `stop()` calls
with the steps of the threads they spawn, the command loops inside an
iteration are at most one more than the `start()` calls made while an
earlier command loop had not ended; so while each `start()` waits for the
previous command loop to end, at most one command loop is ever inside an
iteration. -/
theorem busy_command_loops_bounded_by_late_starts (sleepMax : Int) (config : AgentConfig)
    (acts : List Action) :
    (Threads.init.run sleepMax config acts).busy .command ≤
      1 + Threads.init.lateStarts sleepMax config acts :=
  have hrun := alive_command_run sleepMax config Threads.init acts
  have hinit : Threads.init.alive .command = 0 := rfl
  Nat.le_trans (busy_le_alive _ _) (by omega)

/-- `start()`, `stop()` and `start()` again while the first command loop is
inside an iteration: when that loop ends its iteration it reads
`self.running` as true and starts another, beside the new loop's. -/
theorem restart_overlaps_command_loops :
    (Threads.init.run 9223372036 {}
        [.start 3, .test 2, .stop, .start 3, .test 5, .finish 2, .test 2]).busy .command = 2 := by
  decide

/-- After `stop()`, until the next `start()`, no duty thread begins an
iteration: a thread inside one was already inside it when `stop()` returned,
and a thread that tests `self.running` leaves its loop. -/
theorem stop_blocks_new_iterations (sleepMax : Int) (config : AgentConfig) (s : Threads)
    (acts : List Action) (hacts : ∀ a ∈ acts, a.isStart = false) :
    let stopped := s.step sleepMax config .stop
    let s' := stopped.run sleepMax config acts
    (∀ i, s'.InIteration i → stopped.InIteration i) ∧
      ∀ i d, s'.threads[i]? = some (d, .test) →
        (s'.step sleepMax config (.test i)).threads[i]? = some (d, .exited) := by
  obtain ⟨hrun, hin⟩ := run_stopped sleepMax config (s.step sleepMax config .stop) rfl acts hacts
  exact ⟨hin, fun i d h => test_stopped sleepMax config _ hrun h⟩

theorem stop_blocks_new_iterations_heartbeat :
    (∀ a ∈ [Action.finish 2, .test 2, .test 0], a.isStart = false) ∧
      let stopped := (Threads.init.run 9223372036 {} [.start 3, .test 0, .test 2]).step 9223372036 {}
        .stop
      let s' := stopped.run 9223372036 {} [.finish 2, .test 2, .test 0]
      (∀ i, s'.InIteration i → stopped.InIteration i) ∧
        ∀ i d, s'.threads[i]? = some (d, .test) →
          (s'.step 9223372036 {} (.test i)).threads[i]? = some (d, .exited) :=
  have hacts : ∀ a ∈ [Action.finish 2, .test 2, .test 0], a.isStart = false := by decide
  ⟨hacts, stop_blocks_new_iterations 9223372036 {} _ _ hacts⟩

/-- A `start()` whose second `Thread.start` raises leaves `self.running` true
with no command-loop thread. -/
example : (Threads.init.run 9223372036 {} [.start 1]).running = true ∧
    (Threads.init.run 9223372036 {} [.start 1]).alive .command = 0 := by
  decide

end FleetdAgent
