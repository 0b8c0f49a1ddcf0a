import FleetdAgent.Poll

/-!
# The duty loops

`start()` spawns three daemon threads, `_heartbeat_loop`, `_telemetry_loop`
and `_command_loop`, each looping `while self.running`.  The heartbeat and
telemetry loops call their duty inside `try ... except: pass` and then sleep
the configured interval outside it.  The command loop waits on
`command_queue` for up to `command_poll_interval` seconds, letting only
`Empty` through, and then polls, all of it inside one `try ... except: pass`.

`self.running` is written by other threads, so a loop's run is given the
values it reads at the successive tests of the `while`, and for the command
loop what the queue holds at each `get`; quantifying over these lists
quantifies over every interleaving with the other threads.  A run that
ends with its readings leaves the thread still alive.

`time.sleep` and `Queue.get` check their argument: a negative length raises
`ValueError`, and one past what the platform can wait raises
`OverflowError`.  Those limits are parameters here, `sleepMax` and `waitMax`.
`AgentConfig` does not check its intervals, and `main` reads two of them from
the environment with a bare `int(...)`.
-/

namespace FleetdAgent

open Agent

/-- The fields of `AgentConfig` the duty loops read, with the dataclass's
defaults. -/
structure AgentConfig where
  heartbeatInterval : Int := 60
  telemetryInterval : Int := 30
  commandPollInterval : Int := 10

/-- The configuration `main` builds from the values it parses out of
`FLEET_HEARTBEAT_INTERVAL` and `FLEET_TELEMETRY_INTERVAL`;
`command_poll_interval` keeps its default. -/
def mainConfig (heartbeatInterval telemetryInterval : Int) : AgentConfig where
  heartbeatInterval := heartbeatInterval
  telemetryInterval := telemetryInterval

/-- The least int that `float()` cannot convert, `(2 ^ 54 - 1) * 2 ^ 970`,
that is `2 ^ 1024 - 2 ^ 970`: it rounds past the largest double. -/
def floatOverflow : Int := Int.ofNat (Nat.shiftLeft 18014398509481983 970)

/-- What `command_queue` holds for one `get`: an item already waiting when
`get` is called, an item put while `get` waits, or nothing before the
timeout. -/
inductive QueueReading where
  | waiting
  | arrives
  | empty
  deriving DecidableEq, Repr

/-- The `Empty` that `Queue.get` raises when its timeout passes. -/
def queueEmpty : PyError := ⟨"Empty", ""⟩

/-- `self.command_queue.put(item)`. -/
def queuePut (item : String) : Agent Unit := fun _ w => (.ok (), w.record (.queuePut item))

/-- `send_heartbeat`: read `psutil.boot_time()` for the uptime, post a
heartbeat and, when the reply counts pending commands, wake the command loop
through `command_queue`; `True` when all of it succeeded, `False` when a step
raised.  What the heartbeat carries (time, uptime, status, version) is not
modelled, only that reading the boot time can raise before the post. -/
def sendHeartbeat : Agent Bool :=
  try
    call Env.file .bootTime
    let response ← call Env.http .heartbeat
    raiseForStatus response.statusCode
    let result ← response.json
    let pending ← result.get "pending_commands" (.num 0)
    if ← pending.gtInt 0 then
      queuePut "poll_commands"
    return true
  catch _ => return false

/-- `send_telemetry`: post the metrics; `True` when the post succeeded.
`_get_telemetry_metrics` catches its own failures, so the post always
happens; the metrics themselves are not modelled. -/
def sendTelemetry : Agent Bool :=
  try
    let response ← call Env.http .telemetry
    raiseForStatus response.statusCode
    return true
  catch _ => return false

/-- The world after `n` runs of `x`, one after another, whatever each returns
or raises. -/
def callTimes (x : Agent α) (env : Env) : Nat → World → World
  | 0, w => w
  | n + 1, w => callTimes x env n (x env w).2

/-- `try: x() except: pass` around a call whose value is dropped. -/
theorem tryCatch_discard_apply (x : Agent α) (env : Env) (w : World) :
    (tryCatch (discard x) (fun _ => pure ()) : Agent Unit) env w = (.ok (), (x env w).2) := by
  rw [tryCatch_pass_apply]
  show (_, ((x >>= fun _ => pure ()) env w).2) = _
  rw [bind_apply]
  rcases x env w with ⟨_ | _, w'⟩ <;> rfl

section Loops

variable (sleepMax waitMax : Int) (sha256Hex : Bytes → String)

/-- `time.sleep(secs)` for an int `secs`. -/
def timeSleep (secs : Int) : Except PyError Unit :=
  if secs < 0 then .error ⟨"ValueError", "sleep length must be non-negative"⟩
  else if sleepMax < secs then
    .error ⟨"OverflowError", "timestamp too large to convert to C _PyTime_t"⟩
  else .ok ()

/-- `self.command_queue.get(timeout=timeout)`, given what the queue holds.
The sign check and the float conversion of `time() + timeout` come before the
queue is looked at; an item already waiting is taken at once; an empty queue
makes `Condition.wait` check the wait limit before it waits, so a timeout past
it raises whatever would arrive; and an item put during the wait ends it. -/
def queueGet (timeout : Int) (queue : QueueReading) : Except PyError Unit :=
  if timeout < 0 then .error ⟨"ValueError", "'timeout' must be a non-negative number"⟩
  else if floatOverflow ≤ timeout then .error ⟨"OverflowError", "int too large to convert to float"⟩
  else if queue = .waiting then .ok ()
  else if waitMax < timeout then .error ⟨"OverflowError", "timeout value is too large"⟩
  else if queue = .arrives then .ok ()
  else .error queueEmpty

/-- The intervals `time.sleep` and `Queue.get` take without raising. -/
structure AgentConfig.Accepted (config : AgentConfig) : Prop where
  heartbeat : 0 ≤ config.heartbeatInterval ∧ config.heartbeatInterval ≤ sleepMax
  telemetry : 0 ≤ config.telemetryInterval ∧ config.telemetryInterval ≤ sleepMax
  commandPoll : 0 ≤ config.commandPollInterval ∧ config.commandPollInterval ≤ waitMax

/-- One pass of a sleeping loop's body: `try: duty() except: pass`, then
`time.sleep(interval)`. -/
def sleepIteration (duty : Agent Bool) (interval : Int) : Agent Unit := do
  try discard duty catch _ => pure ()
  timeSleep sleepMax interval

/-- `while self.running:` around `sleepIteration`, over the values
`self.running` has at the successive tests. -/
def sleepLoop (duty : Agent Bool) (interval : Int) : List Bool → Agent Unit
  | [] => pure ()
  | running :: readings =>
    if running then do
      sleepIteration sleepMax duty interval
      sleepLoop duty interval readings
    else pure ()

/-- `_heartbeat_loop`. -/
def heartbeatLoop (config : AgentConfig) : List Bool → Agent Unit :=
  sleepLoop sleepMax sendHeartbeat config.heartbeatInterval

/-- `_telemetry_loop`. -/
def telemetryLoop (config : AgentConfig) : List Bool → Agent Unit :=
  sleepLoop sleepMax sendTelemetry config.telemetryInterval

/-- One pass of `_command_loop`'s body: wait on the queue, swallowing only
`Empty`, then poll; any exception ends the pass. -/
def commandIteration (config : AgentConfig) (queue : QueueReading) : Agent Unit :=
  try
    try
      queueGet waitMax config.commandPollInterval queue
    catch e =>
      if e.name = "Empty" then pure () else throw e
    pollCommands sha256Hex
  catch _ => pure ()

/-- `_command_loop`, over the values `self.running` has at the successive
tests, each with what the queue holds for that pass's `get`. -/
def commandLoop (config : AgentConfig) : List (Bool × QueueReading) → Agent Unit
  | [] => pure ()
  | (running, queue) :: readings =>
    if running then do
      commandIteration waitMax sha256Hex config queue
      commandLoop config readings
    else pure ()

/-! ## One pass -/

/-- A sleeping loop's pass calls its duty, and ends as the sleep does. -/
theorem sleepIteration_apply (duty : Agent Bool) (interval : Int) (env : Env) (w : World) :
    sleepIteration sleepMax duty interval env w = (timeSleep sleepMax interval, (duty env w).2) := by
  simp only [sleepIteration, bind_apply, tryCatch_discard_apply, lift_apply]

theorem timeSleep_ok {secs : Int} (h₀ : 0 ≤ secs) (h : secs ≤ sleepMax) :
    timeSleep sleepMax secs = .ok () := by
  simp only [timeSleep, if_neg (Int.not_lt.mpr h₀), if_neg (Int.not_lt.mpr h)]

/-- A pass of the command loop returns normally, having polled exactly when
the `get` returned or raised `Empty`. -/
theorem commandIteration_apply (config : AgentConfig) (queue : QueueReading) (env : Env)
    (w : World) :
    commandIteration waitMax sha256Hex config queue env w =
      (.ok (), if 0 ≤ config.commandPollInterval ∧ config.commandPollInterval < floatOverflow ∧
          (queue = .waiting ∨ config.commandPollInterval ≤ waitMax)
        then (pollCommands sha256Hex env w).2 else w) := by
  rw [commandIteration, tryCatch_pass_apply]
  simp only [bind_apply, tryCatch_apply, lift_apply, queueGet]
  by_cases hneg : config.commandPollInterval < 0
  · simp [hneg, Int.not_le.mpr hneg, Agent.ite_apply]
  have h₀ := Int.not_lt.mp hneg
  by_cases hfloat : floatOverflow ≤ config.commandPollInterval
  · simp [hneg, hfloat, Int.not_lt.mpr hfloat, Agent.ite_apply]
  have hf := Int.not_le.mp hfloat
  cases queue
  · simp [hneg, hfloat, h₀, hf]
  all_goals
    by_cases hwait : waitMax < config.commandPollInterval
    · simp [hneg, hfloat, hwait, Int.not_le.mpr hwait, Agent.ite_apply]
    · simp [hneg, hfloat, hwait, h₀, hf, Int.not_lt.mp hwait, Agent.ite_apply, queueEmpty]

/-! ## Whole runs -/

/-- A sleeping loop's run, pass by pass: a pass whose sleep raises ends the
thread with that exception. -/
theorem sleepLoop_cons_true (duty : Agent Bool) (interval : Int) (readings : List Bool)
    (env : Env) (w : World) :
    sleepLoop sleepMax duty interval (true :: readings) env w =
      match timeSleep sleepMax interval with
      | .ok () => sleepLoop sleepMax duty interval readings env (duty env w).2
      | .error e => (.error e, (duty env w).2) := by
  simp only [sleepLoop, if_true, bind_apply, sleepIteration_apply]
  rcases timeSleep sleepMax interval with _ | ⟨⟩ <;> rfl

/-- While `self.running` stays true, a sleeping loop whose interval the sleep
accepts calls its duty on every pass and stays alive. -/
theorem sleepLoop_replicate (duty : Agent Bool) {interval : Int} (h₀ : 0 ≤ interval)
    (h : interval ≤ sleepMax) (n : Nat) (env : Env) (w : World) :
    sleepLoop sleepMax duty interval (List.replicate n true) env w =
      (.ok (), callTimes duty env n w) := by
  induction n generalizing w with
  | zero => rfl
  | succ n ih =>
    rw [List.replicate_succ, sleepLoop_cons_true, timeSleep_ok sleepMax h₀ h]
    exact ih _

/-- While `self.running` stays true, a command loop whose interval the `get`
accepts polls on every pass and stays alive. -/
theorem commandLoop_running (config : AgentConfig) (h₀ : 0 ≤ config.commandPollInterval)
    (h : config.commandPollInterval ≤ waitMax) (hwait : waitMax < floatOverflow)
    (queued : List QueueReading) (env : Env) (w : World) :
    commandLoop waitMax sha256Hex config (queued.map (Prod.mk true)) env w =
      (.ok (), callTimes (pollCommands sha256Hex) env queued.length w) := by
  have hpoll (q : QueueReading) : 0 ≤ config.commandPollInterval ∧
      config.commandPollInterval < floatOverflow ∧ (q = .waiting ∨ config.commandPollInterval ≤ waitMax) :=
    ⟨h₀, Int.lt_of_le_of_lt h hwait, .inr h⟩
  induction queued generalizing w with
  | nil => rfl
  | cons q rest ih =>
    simp only [List.map_cons, commandLoop, if_true, bind_apply, commandIteration_apply,
      if_pos (hpoll q), ih, List.length_cons, callTimes]

/-- A command loop whose `get` always raises something other than `Empty`
never polls: every pass leaves the world as it found it. -/
theorem commandLoop_never_polls (config : AgentConfig) (hneg : config.commandPollInterval < 0)
    (readings : List (Bool × QueueReading)) (env : Env) (w : World) :
    commandLoop waitMax sha256Hex config readings env w = (.ok (), w) := by
  induction readings with
  | nil => rfl
  | cons r rest ih =>
    obtain ⟨running, queued⟩ := r
    cases running
    · rfl
    · simp only [commandLoop, if_true, bind_apply, commandIteration_apply,
        if_neg (fun h : 0 ≤ config.commandPollInterval ∧ _ => Int.not_lt.mpr h.1 hneg), ih]

/-- The defaults pass the checks of a platform that can sleep a minute and
wait ten seconds. -/
theorem default_accepted (hsleep : 60 ≤ sleepMax) (hwait : 10 ≤ waitMax) :
    ({} : AgentConfig).Accepted sleepMax waitMax :=
  ⟨⟨by decide, hsleep⟩, ⟨by decide, Int.le_trans (by decide) hsleep⟩, ⟨by decide, hwait⟩⟩

end Loops

/-- While `self.running` stays true, for a configuration whose intervals the
platform's `time.sleep` and `Queue.get` accept, every pass of each duty loop
does its work and no duty thread ends: the heartbeat and telemetry loops call
`send_heartbeat` and `send_telemetry` once a pass, and the command loop calls
`poll_commands` once a pass, whatever the server does and whether or not the
heartbeat has queued a poll. -/
theorem duties_work_while_running (sleepMax waitMax : Int) (sha256Hex : Bytes → String)
    (config : AgentConfig) (haccepted : config.Accepted sleepMax waitMax)
    (hwait : waitMax < floatOverflow) :
    (∀ n env w, heartbeatLoop sleepMax config (List.replicate n true) env w =
        (.ok (), callTimes sendHeartbeat env n w)) ∧
      (∀ n env w, telemetryLoop sleepMax config (List.replicate n true) env w =
        (.ok (), callTimes sendTelemetry env n w)) ∧
      ∀ (queued : List QueueReading) env w,
        commandLoop waitMax sha256Hex config (queued.map (Prod.mk true)) env w =
        (.ok (), callTimes (pollCommands sha256Hex) env queued.length w) :=
  ⟨sleepLoop_replicate sleepMax sendHeartbeat haccepted.heartbeat.1 haccepted.heartbeat.2,
    sleepLoop_replicate sleepMax sendTelemetry haccepted.telemetry.1 haccepted.telemetry.2,
    commandLoop_running waitMax sha256Hex config haccepted.commandPoll.1 haccepted.commandPoll.2
      hwait⟩

theorem duties_work_while_running_defaults :
    ({} : AgentConfig).Accepted 9223372036 9223372036 ∧ (9223372036 : Int) < floatOverflow ∧
      (∀ n env w, heartbeatLoop 9223372036 {} (List.replicate n true) env w =
          (.ok (), callTimes sendHeartbeat env n w)) ∧
        (∀ n env w, telemetryLoop 9223372036 {} (List.replicate n true) env w =
          (.ok (), callTimes sendTelemetry env n w)) ∧
        ∀ (queued : List QueueReading) env w,
          commandLoop 9223372036 (fun _ => "") {} (queued.map (Prod.mk true)) env w =
            (.ok (), callTimes (pollCommands fun _ => "") env queued.length w) :=
  have haccepted := default_accepted 9223372036 9223372036 (by decide) (by decide)
  have hwait : (9223372036 : Int) < floatOverflow := by decide
  ⟨haccepted, hwait, duties_work_while_running 9223372036 9223372036 (fun _ => "") {} haccepted hwait⟩

/-- With `FLEET_HEARTBEAT_INTERVAL=-1` the heartbeat thread sends one
heartbeat and dies in `time.sleep` though `self.running` is still true; and
with a negative `command_poll_interval` the command loop keeps running and
never polls, though the server holds a command. -/
theorem duties_stop_on_negative_interval :
    heartbeatLoop 9223372036 (mainConfig (-1) 30) [true, true] (pollingEnv [] (.ok ⟨"", "", 0⟩))
        freshWorld =
      (.error ⟨"ValueError", "sleep length must be non-negative"⟩,
        (sendHeartbeat (pollingEnv [] (.ok ⟨"", "", 0⟩)) freshWorld).2) ∧
    commandLoop 9223372036 (fun _ => "") { commandPollInterval := -1 }
        [(true, .waiting), (true, .empty), (true, .arrives)]
        (pollingEnv [scriptCommand] (.ok ⟨"", "", 0⟩))
        freshWorld = (.ok (), freshWorld) :=
  ⟨by simp only [heartbeatLoop, mainConfig, sleepLoop_cons_true]; rfl,
    commandLoop_never_polls _ _ _ (by decide) _ _ _⟩

end FleetdAgent
