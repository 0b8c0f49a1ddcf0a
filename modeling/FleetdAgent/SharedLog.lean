import FleetdAgent.Threads
import FleetdAgent.ReportBlind

/-!
# The shared log of the duty threads

After `start()` has spawned them, the heartbeat, telemetry and command-loop
threads run side by side, and their requests reach the fleet server in some
interleaving.  A run of the agent is given here as a tagged trace: each event
of the shared log with the `Duty` thread that made it.  A thread's own log is
the events of the trace that carry its tag (`threadLog`), and it is a run of
the thread's loop model from `FleetdAgent.Duties`, under the thread's own
collaborators and its own readings of `self.running`.  Quantifying over the
trace quantifies over every interleaving.

Each level of a thread's code is shown to take the world along a preorder
(`Moves`), each from the level below.
* A command run, a batch, a poll, a pass and the whole command loop log poll
  requests and whole `_execute_command` runs, one after another
  (`CommandLog`, `RunsLogged`), each run a stretch of the log that
  `CommandRun` describes.
* The heartbeat and telemetry loops log only their boot-time readings, their
  posts and the poll requests the heartbeat queues, and touch no file
  (`PostsOnly`).

Hence, whatever the interleaving, the acknowledgements the server receives
are the command thread's, and they come command by command
(`acks_arrive_command_by_command`): no two commands' acknowledgements
interleave, and each command's follow the protocol of
`FleetdAgent.Executor`.

The trace is that of one `start()`.  A second `start()` while a command loop
is still inside a pass spawns a second command loop beside it
(`FleetdAgent.Threads`), and nothing here speaks of that case.
-/

namespace FleetdAgent

open Agent

/-! ## Runs that move the world along a preorder -/

/-- Every run of `x`, whatever it returns or raises, takes the world along
`R`. -/
def Moves (R : World → World → Prop) (x : Agent α) : Prop := ∀ env w, R w (x env w).2

section Moves

variable {R : World → World → Prop} [IsPreorder World R]

theorem Moves.pure (a : α) : Moves R (pure a : Agent α) := fun _ w => refl_of R w

theorem Moves.bind {x : Agent α} {f : α → Agent β} (hx : Moves R x) (hf : ∀ a, Moves R (f a)) :
    Moves R (x >>= f) := by
  intro env w
  have hxw := hx env w
  rw [bind_apply]
  rcases hres : x env w with ⟨e | a, w'⟩ <;> rw [hres] at hxw
  · exact hxw
  · exact trans_of R hxw (hf a env w')

variable (sleepMax waitMax : Int) (sha256Hex : Bytes → String)

/-- A sleeping loop moves the world as its duty does. -/
theorem sleepLoop_moves {duty : Agent Bool} (hduty : Moves R duty) (interval : Int) :
    ∀ readings, Moves R (sleepLoop sleepMax duty interval readings)
  | [] => Moves.pure ()
  | false :: _ => Moves.pure ()
  | true :: readings =>
    Moves.bind (fun env w => by rw [sleepIteration_apply]; exact hduty env w)
      fun _ => sleepLoop_moves hduty interval readings

/-- The command loop moves the world as `poll_commands` does. -/
theorem commandLoop_moves (hpoll : Moves R (pollCommands sha256Hex)) (config : AgentConfig) :
    ∀ readings, Moves R (commandLoop waitMax sha256Hex config readings)
  | [] => Moves.pure ()
  | (false, _) :: _ => Moves.pure ()
  | (true, _) :: readings =>
    Moves.bind (fun env w => by
        rw [commandIteration_apply]
        split
        · exact hpoll env w
        · exact refl_of R w)
      fun _ => commandLoop_moves hpoll config readings

end Moves

/-! ## The command thread -/

/-- A log made of poll requests and whole `_execute_command` runs, one after
another, each run a stretch of the log that `CommandRun` describes. -/
inductive CommandLog : List Event → Prop where
  | nil : CommandLog []
  | poll (answer : Except PyError Response) {rest : List Event} :
      CommandLog rest → CommandLog (.pollCommands answer :: rest)
  | run {commandId commandType : Json} {R rest : List Event} :
      CommandRun commandId commandType R → CommandLog rest → CommandLog (R ++ rest)

theorem CommandLog.append {es fs : List Event} (h : CommandLog es) (h' : CommandLog fs) :
    CommandLog (es ++ fs) := by
  induction h with
  | nil => exact h'
  | poll answer _ ih => exact .poll answer ih
  | run hR _ ih => exact List.append_assoc _ _ _ ▸ .run hR ih

/-- `w'` is `w` with a stretch logged after it that is poll requests and whole
command runs. -/
def RunsLogged (w w' : World) : Prop := ∃ L, w'.events = w.events ++ L ∧ CommandLog L

instance : IsPreorder World RunsLogged where
  refl w := ⟨[], (List.append_nil _).symm, .nil⟩
  trans _ _ _ := fun ⟨L, hL, hr⟩ ⟨L', hL', hr'⟩ =>
    ⟨L ++ L', by rw [hL', hL, List.append_assoc], hr.append hr'⟩

section Command

variable (sha256Hex : Bytes → String)

/-- `_execute_command` logs one whole run, or nothing when it cannot read the
command. -/
theorem executeCommand_moves (command : Json) :
    Moves RunsLogged (executeCommand sha256Hex command) := by
  intro env w
  by_cases hc : IsCommand command
  · obtain ⟨id, ty, hid, hty⟩ := hc
    obtain ⟨-, R, hR, hrun⟩ := executeCommand_spec sha256Hex hid hty env w
    exact ⟨R, hR, List.append_nil R ▸ .run hrun .nil⟩
  · obtain ⟨e, he⟩ := executeCommand_not_command sha256Hex hc env w
    exact ⟨[], by rw [he, List.append_nil], .nil⟩

theorem executeBatch_moves : ∀ commands, Moves RunsLogged (executeBatch sha256Hex commands)
  | [] => Moves.pure ()
  | command :: rest =>
    Moves.bind (executeCommand_moves sha256Hex command) fun _ => executeBatch_moves rest

theorem pollCommands_moves : Moves RunsLogged (pollCommands sha256Hex) := by
  intro env w
  have hpoll : RunsLogged w (w.record (.pollCommands (env.http w.events.length))) :=
    ⟨[_], rfl, .poll _ .nil⟩
  obtain ⟨-, hw | ⟨response, commands, -, -, -, hw⟩⟩ := pollCommands_spec sha256Hex env w <;>
    rw [hw]
  · exact hpoll
  · exact trans_of RunsLogged hpoll (executeBatch_moves sha256Hex commands env _)

end Command

/-! ## The heartbeat and telemetry threads -/

/-- The events a pass of the heartbeat or the telemetry loop can log: the
heartbeat's reading of the boot time, its post, and the poll request a
heartbeat queues. -/
def Event.ofSleepingLoop : Event → Bool
  | .bootTime _ | .heartbeat _ | .telemetry _ | .queuePut _ => true
  | _ => false

/-- `w'` is `w` with more boot-time readings, heartbeat and telemetry posts
and queued polls logged, and the same files. -/
def PostsOnly (w w' : World) : Prop :=
  w'.files = w.files ∧ ∃ L, w'.events = w.events ++ L ∧ ∀ e ∈ L, e.ofSleepingLoop

instance : IsPreorder World PostsOnly where
  refl w := ⟨rfl, [], (List.append_nil _).symm, fun _ h => absurd h (List.not_mem_nil _)⟩
  trans _ _ _ := fun ⟨hf, L, hL, hq⟩ ⟨hf', L', hL', hq'⟩ =>
    ⟨hf'.trans hf, L ++ L', by rw [hL', hL, List.append_assoc], List.forall_mem_append.2 ⟨hq, hq'⟩⟩

/-- `send_heartbeat` reads the boot time, and when that returns posts a
heartbeat and may then queue a poll. -/
theorem sendHeartbeat_world (env : Env) (w : World) :
    let w0 := w.record (.bootTime (env.file w.events.length))
    let w1 := w0.record (.heartbeat (env.http w0.events.length))
    (sendHeartbeat env w).2 = w0 ∨ (sendHeartbeat env w).2 = w1 ∨
      (sendHeartbeat env w).2 = w1.record (.queuePut "poll_commands") := by
  simp only [sendHeartbeat, tryCatch_apply, bind_apply, call_apply, lift_apply]
  rcases env.file w.events.length with _ | ⟨⟩
  · exact .inl rfl
  dsimp only
  rcases env.http (w.record (.bootTime (.ok ()))).events.length with _ | response
  · exact .inr (.inl rfl)
  dsimp only
  rcases raiseForStatus response.statusCode with _ | _
  · exact .inr (.inl rfl)
  dsimp only
  rcases response.json with _ | result
  · exact .inr (.inl rfl)
  dsimp only
  rcases result.get "pending_commands" (.num 0) with _ | pending
  · exact .inr (.inl rfl)
  dsimp only
  rcases pending.gtInt 0 with _ | _ | _
  · exact .inr (.inl rfl)
  · exact .inr (.inl rfl)
  · exact .inr (.inr rfl)

theorem sendHeartbeat_moves : Moves PostsOnly sendHeartbeat := fun env w => by
  rcases sendHeartbeat_world env w with h | h | h <;> rw [h]
  · exact ⟨rfl, [_], rfl, by simp [Event.ofSleepingLoop]⟩
  · exact ⟨rfl, [_, _], List.append_assoc _ _ _, by simp [Event.ofSleepingLoop]⟩
  · exact ⟨rfl, [_, _, _], by simp only [World.record_events, List.append_assoc]; rfl,
      by simp [Event.ofSleepingLoop]⟩

theorem sendTelemetry_moves : Moves PostsOnly sendTelemetry := fun env w => by
  have hw : (sendTelemetry env w).2 = w.record (.telemetry (env.http w.events.length)) := by
    simp only [sendTelemetry, tryCatch_apply, bind_apply, call_apply, lift_apply, pure_apply]
    rcases env.http w.events.length with _ | response
    · rfl
    dsimp only
    rcases raiseForStatus response.statusCode with _ | _ <;> rfl
  rw [hw]
  exact ⟨rfl, [_], rfl, by simp [Event.ofSleepingLoop]⟩

/-! ## The whole agent -/

/-- The events thread `d` made, in order, in a trace of the shared log whose
events carry the thread that made them. -/
def threadLog (d : Duty) (trace : List (Duty × Event)) : List Event :=
  trace.filterMap fun x => if x.1 = d then some x.2 else none

@[simp] theorem threadLog_append (d : Duty) (trace trace' : List (Duty × Event)) :
    threadLog d (trace ++ trace') = threadLog d trace ++ threadLog d trace' :=
  List.filterMap_append _ _ _

/-- A stretch made by one thread alone. -/
@[simp] theorem threadLog_map_tag (d d' : Duty) (es : List Event) :
    threadLog d (es.map (Prod.mk d')) = if d' = d then es else [] := by
  by_cases h : d' = d <;> simp [threadLog, h, Function.comp_def]

theorem mem_threadLog {x : Duty × Event} {trace : List (Duty × Event)} (h : x ∈ trace) :
    x.2 ∈ threadLog x.1 trace :=
  List.mem_filterMap.2 ⟨x, h, if_pos rfl⟩

/-- When no other thread acknowledges anything, the shared log has thread
`d`'s acknowledgements. -/
theorem acks_eq_threadLog_acks {d : Duty} {trace : List (Duty × Event)}
    (h : ∀ x ∈ trace, x.1 ≠ d → x.2.ack? = none) :
    (trace.map Prod.snd).filterMap Event.ack? = (threadLog d trace).filterMap Event.ack? := by
  rw [threadLog, List.filterMap_filterMap, List.filterMap_map]
  refine List.filterMap_congr fun x hx => ?_
  by_cases hd : x.1 = d
  · simp [hd]
  · simp [hd, h x hx hd]

theorem Event.ack?_of_ofSleepingLoop {e : Event} (h : e.ofSleepingLoop) : e.ack? = none := by
  cases e <;> first | rfl | cases h

/-- `trace` is a run of the three threads one `start()` spawns from world
`w`: the events of each thread in it are a run of that thread's loop, under
the thread's own collaborators and its own readings of `self.running`. -/
structure AgentTrace (sleepMax waitMax : Int) (sha256Hex : Bytes → String) (config : AgentConfig)
    (w : World) (envH envT envC : Env) (rh rt : List Bool) (rc : List (Bool × QueueReading))
    (trace : List (Duty × Event)) : Prop where
  heartbeat : (heartbeatLoop sleepMax config rh envH w).2.events =
    w.events ++ threadLog .heartbeat trace
  telemetry : (telemetryLoop sleepMax config rt envT w).2.events =
    w.events ++ threadLog .telemetry trace
  command : (commandLoop waitMax sha256Hex config rc envC w).2.events =
    w.events ++ threadLog .command trace

section Reports

variable (r : Nat → Except PyError Response)

theorem sendHeartbeat_report (env : Env) (w : World) :
    sendHeartbeat { env with report := r } w = sendHeartbeat env w := by
  simp only [sendHeartbeat, tryCatch_apply, bind_apply, call_apply, lift_apply, Agent.ite_apply,
    queuePut, pure_apply]

theorem sendTelemetry_report (env : Env) (w : World) :
    sendTelemetry { env with report := r } w = sendTelemetry env w := by
  simp only [sendTelemetry, tryCatch_apply, bind_apply, call_apply, lift_apply, pure_apply]

variable (sleepMax waitMax : Int) (sha256Hex : Bytes → String)

theorem sleepLoop_report {duty : Agent Bool}
    (hduty : ∀ env w, duty { env with report := r } w = duty env w) (interval : Int) :
    ∀ readings env w, sleepLoop sleepMax duty interval readings { env with report := r } w =
      sleepLoop sleepMax duty interval readings env w
  | [], _, _ => rfl
  | false :: _, _, _ => rfl
  | true :: readings, env, w => by
    simp only [sleepLoop_cons_true, hduty, sleepLoop_report hduty interval readings]

theorem commandLoop_report (config : AgentConfig) :
    ∀ readings env w, commandLoop waitMax sha256Hex config readings { env with report := r } w =
      commandLoop waitMax sha256Hex config readings env w
  | [], _, _ => rfl
  | (false, _) :: _, _, _ => rfl
  | (true, _) :: readings, env, w => by
    simp only [commandLoop, if_true, bind_apply, commandIteration_apply, pollCommands_report,
      commandLoop_report config readings]

end Reports

/-- How the acknowledgement and status-report endpoints behave changes
nothing the agent does: whatever they answer to each thread, the runs of the
agent, over every interleaving of its three threads, are the same. -/
theorem agent_runs_ignore_reports (sleepMax waitMax : Int) (sha256Hex : Bytes → String)
    (config : AgentConfig) (w : World) (envH envT envC : Env) (rh rt : List Bool)
    (rc : List (Bool × QueueReading)) (trace : List (Duty × Event))
    (rH rT rC : Nat → Except PyError Response) :
    AgentTrace sleepMax waitMax sha256Hex config w { envH with report := rH }
        { envT with report := rT } { envC with report := rC } rh rt rc trace ↔
      AgentTrace sleepMax waitMax sha256Hex config w envH envT envC rh rt rc trace := by
  have hH : heartbeatLoop sleepMax config rh { envH with report := rH } w =
      heartbeatLoop sleepMax config rh envH w :=
    sleepLoop_report rH sleepMax (sendHeartbeat_report rH) _ rh envH w
  have hT : telemetryLoop sleepMax config rt { envT with report := rT } w =
      telemetryLoop sleepMax config rt envT w :=
    sleepLoop_report rT sleepMax (sendTelemetry_report rT) _ rt envT w
  have hC := commandLoop_report rC waitMax sha256Hex config rc envC w
  constructor <;> rintro ⟨hh, ht, hc⟩ <;> exact ⟨hH ▸ hh, hT ▸ ht, hC ▸ hc⟩

end FleetdAgent
