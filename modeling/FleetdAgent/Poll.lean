import FleetdAgent.Executor

/-!
# The poll and its batch

`poll_commands` asks the fleet server for commands and hands the batch of the
reply, in order, to `_execute_command`; an exception of any command ends the
poll.  From what one command run logs (`CommandRun`) this file derives, by
induction over the batch, what a poll logs: a command's `received`
acknowledgement comes only after the previous command's acknowledgements are
settled (`SerialAcks`), and a batch of readable commands is executed and
acknowledged entirely, in order.
-/

namespace FleetdAgent

open Agent

/-- Every `received` acknowledgement of the log comes after a settled
stretch: the command before it, if any, has finished acknowledging. -/
def SerialAcks (es : List Event) : Prop :=
  ∀ P id data Q, es = P ++ .ack id data :: Q → data.status = "received" → Settled P

@[simp] theorem receivedIds_cons_received (id : Json) (es : List Event) :
    receivedIds (.ack id ⟨"received", none, none⟩ :: es) = id :: receivedIds es := rfl

theorem receivedIds_ne_nil_of_mem {es : List Event} {id : Json} {data : AckData}
    (h : Event.ack id data ∈ es) (hdata : data.status = "received") : receivedIds es ≠ [] := by
  obtain ⟨P, Q, rfl⟩ := List.append_of_mem h
  simp [receivedIds, Event.ack?, hdata]

/-- Appending to a log keeps its last acknowledgement, once it has one. -/
theorem Settled.append_left {R : List Event} (h : Settled R) (hne : ackStatuses R ≠ [])
    (H : List Event) : Settled (H ++ R) := by
  rcases h with h | ⟨pre, id, c, rfl, h0⟩
  · exact .inl fun s hs => h s (by rwa [ackStatuses_append, List.getLast?_append_of_ne_nil _ hne] at hs)
  · exact .inr ⟨H ++ pre, id, c, by simp, h0⟩

theorem serialAcks_of_quiet {es : List Event} (h : ∀ e ∈ es, e.ack? = none) :
    SerialAcks es ∧ Settled es := by
  refine ⟨fun P id data Q hes _ => ?_, .inl fun s hs => by simp [(acks_eq_nil h).2.1] at hs⟩
  have := h (.ack id data) (by simp [hes])
  simp [Event.ack?] at this

/-- One command run after a settled log keeps every `received`
acknowledgement after a settled stretch, and leaves the log settled. -/
theorem SerialAcks.append_run {H R : List Event} {id ty : Json} (hH : SerialAcks H)
    (hs : Settled H) (hR : CommandRun id ty R) : SerialAcks (H ++ R) ∧ Settled (H ++ R) := by
  obtain ⟨R', rfl, hR'⟩ := hR.received
  refine ⟨fun P id' data Q hes hdata => ?_, hR.settled.append_left (by simp [Event.ack?]) H⟩
  rcases List.append_eq_append_iff.1 hes with ⟨a', rfl, ha'⟩ | ⟨c', rfl, hc'⟩
  · rcases a' with _ | ⟨x, a''⟩
    · simpa using hs
    · simp only [List.cons_append, List.cons.injEq] at ha'
      have hmem : Event.ack id' data ∈ R' := by simp [ha'.2]
      exact absurd hR' (receivedIds_ne_nil_of_mem hmem hdata)
  · rcases c' with _ | ⟨x, c''⟩
    · simpa using hs
    · simp only [List.cons_append, List.cons.injEq] at hc'
      exact hH P id' data c'' (by rw [hc'.1]) hdata

section Batch

variable (sha256Hex : Bytes → String)

/-- What a batch logs: one command run after another, stopping at the first
command that cannot be read.  The runs keep every `received`
acknowledgement after a settled stretch; and when every command is readable,
the batch returns normally and acknowledges each command `received`, in
order. -/
theorem executeBatch_spec (commands : List Json) (env : Env) (w : World) :
    ∃ B, (executeBatch sha256Hex commands env w).2.events = w.events ++ B ∧
      (∀ H, SerialAcks H → Settled H → SerialAcks (H ++ B) ∧ Settled (H ++ B)) ∧
      ((∀ c ∈ commands, IsCommand c) → (executeBatch sha256Hex commands env w).1 = .ok () ∧
        (receivedIds B).map .ok = commands.map (·.getItem "id")) := by
  induction commands generalizing w with
  | nil => exact ⟨[], by simp [executeBatch], fun H h hs => by simpa using And.intro h hs,
      fun _ => ⟨rfl, rfl⟩⟩
  | cons c rest ih =>
    simp only [executeBatch, bind_apply]
    by_cases hc : IsCommand c
    · obtain ⟨id, ty, hid, hty⟩ := hc
      obtain ⟨hok, R, hR, hrun⟩ := executeCommand_spec sha256Hex hid hty env w
      obtain ⟨B, hB, hinv, hall⟩ := ih (executeCommand sha256Hex c env w).2
      rcases hres : executeCommand sha256Hex c env w with ⟨_ | ⟨⟩, w'⟩
      · simp [hres] at hok
      rw [hres] at hR hB hall
      dsimp only at hR hB hall
      obtain ⟨R', rfl, hR'⟩ := hrun.received
      refine ⟨.ack id ⟨"received", none, none⟩ :: R' ++ B, by simp [hB, hR], fun H h hs => ?_,
        fun hcmds => ?_⟩
      · obtain ⟨h', hs'⟩ := h.append_run hs hrun
        simpa using hinv _ h' hs'
      · obtain ⟨hok', hids⟩ := hall fun c' hc' => hcmds c' (List.mem_cons_of_mem c hc')
        exact ⟨hok', by simp [hR', hid, hids]⟩
    · obtain ⟨e, he⟩ := executeCommand_not_command sha256Hex hc env w
      rw [he]
      exact ⟨[], by simp, fun H h hs => by simpa using And.intro h hs,
        fun hcmds => absurd (hcmds c (List.mem_cons_self c rest)) hc⟩

/-- `poll_commands` logs its request and, when the reply carries a batch, runs
it; the poll always returns normally. -/
theorem pollCommands_spec (env : Env) (w : World) :
    let a := env.http w.events.length
    let w1 := w.record (.pollCommands a)
    let r := pollCommands sha256Hex env w
    r.1 = .ok () ∧ (r.2 = w1 ∨ ∃ response commands, a = .ok response ∧
      response.statusCode ≠ 204 ∧ pollBatch response = .ok commands ∧
      r.2 = (executeBatch sha256Hex commands env w1).2) := by
  simp only [pollCommands, tryCatch_pass_apply, bind_apply, call_apply, lift_apply]
  refine ⟨trivial, ?_⟩
  rcases env.http w.events.length with e | response
  · exact .inl rfl
  by_cases h204 : response.statusCode = 204
  · exact .inl (by simp [h204])
  rcases hb : pollBatch response with e | commands
  · exact .inl (by simp [h204, hb])
  · exact .inr ⟨response, commands, rfl, h204, hb, by simp [h204, hb]⟩

/-- A reply that carries a batch makes the poll run it. -/
theorem pollCommands_of_batch {env : Env} {w : World} {response : Response}
    {commands : List Json} (hpoll : env.http w.events.length = .ok response)
    (h204 : response.statusCode ≠ 204) (hbatch : pollBatch response = .ok commands) :
    (pollCommands sha256Hex env w).2 =
      (executeBatch sha256Hex commands env (w.record (.pollCommands (.ok response)))).2 := by
  simp only [pollCommands, tryCatch_pass_apply, bind_apply, call_apply, lift_apply, hpoll, h204,
    if_false, hbatch]

/-- In every poll, whatever the reply and every collaborator outcome, the
`received` acknowledgement that starts a command's run comes after a settled
stretch: the previous command's last acknowledgement is `completed` or
`failed`, or the previous command was a reboot acknowledged `executing`
whose subprocess exited 0. -/
theorem next_command_after_settled_ack (env : Env) (w : World) :
    let run := (pollCommands sha256Hex env w).2.events.drop w.events.length
    ∀ P id data Q, run = P ++ .ack id data :: Q → data.status = "received" → Settled P := by
  have hpoll : SerialAcks [.pollCommands (env.http w.events.length)] ∧
      Settled [.pollCommands (env.http w.events.length)] :=
    serialAcks_of_quiet (by simp [Event.ack?])
  obtain ⟨-, hw | ⟨response, commands, -, -, -, hw⟩⟩ := pollCommands_spec sha256Hex env w <;>
    rw [hw]
  · simpa using hpoll.1
  · obtain ⟨B, hB, hinv, -⟩ := executeBatch_spec sha256Hex commands env
      (w.record (.pollCommands (env.http w.events.length)))
    rw [hB]
    simpa using (hinv _ hpoll.1 hpoll.2).1

/-- A successful poll whose batch holds only commands `_execute_command` can
read executes all of them: each run returns normally, and the commands are
acknowledged `received` in the batch's order. -/
theorem poll_runs_every_readable_command (env : Env) (w : World) (response : Response)
    (commands : List Json) (hpoll : env.http w.events.length = .ok response)
    (h204 : response.statusCode ≠ 204) (hbatch : pollBatch response = .ok commands)
    (hcmd : ∀ c ∈ commands, IsCommand c) :
    (∀ c ∈ commands, ∀ env w, (executeCommand sha256Hex c env w).1 = .ok ()) ∧
      (receivedIds ((pollCommands sha256Hex env w).2.events.drop w.events.length)).map .ok =
        commands.map (·.getItem "id") := by
  refine ⟨fun c hc env w => ?_, ?_⟩
  · obtain ⟨id, ty, hid, hty⟩ := hcmd c hc
    exact (executeCommand_spec sha256Hex hid hty env w).1
  obtain ⟨B, hB, -, hall⟩ := executeBatch_spec sha256Hex commands env
    (w.record (.pollCommands (.ok response)))
  rw [pollCommands_of_batch sha256Hex hpoll h204 hbatch, hB]
  simpa [receivedIds, Event.ack?] using (hall hcmd).2

end Batch

/-- A fleet server that answers every request with the batch `commands`. -/
def pollingEnv (commands : List Json) (proc : Except PyError Completed) : Env :=
  { servingEnv 0 [] proc with
    http := fun _ => .ok ⟨200, .ok (.obj [("commands", .arr commands)])⟩ }

/-- An `execute` command with id `b` that runs `true`. -/
def scriptCommand : Json :=
  .obj [("id", .str "b"), ("command", .str "execute"), ("payload", .obj [("script", .str "true")])]

theorem poll_runs_every_readable_command_two :
    (pollingEnv [rebootCommand, scriptCommand] (.ok ⟨"", "", 0⟩)).http freshWorld.events.length =
        .ok ⟨200, .ok (.obj [("commands", .arr [rebootCommand, scriptCommand])])⟩ ∧
      (⟨200, .ok (.obj [("commands", .arr [rebootCommand, scriptCommand])])⟩ : Response).statusCode ≠ 204 ∧
      pollBatch ⟨200, .ok (.obj [("commands", .arr [rebootCommand, scriptCommand])])⟩ =
        .ok [rebootCommand, scriptCommand] ∧
      (∀ c ∈ [rebootCommand, scriptCommand], IsCommand c) ∧
      (∀ c ∈ [rebootCommand, scriptCommand], ∀ env w,
        (executeCommand (fun _ => "") c env w).1 = .ok ()) ∧
      (receivedIds ((pollCommands (fun _ => "") (pollingEnv [rebootCommand, scriptCommand]
          (.ok ⟨"", "", 0⟩)) freshWorld).2.events.drop freshWorld.events.length)).map .ok =
        [rebootCommand, scriptCommand].map (·.getItem "id") := by
  have hcmd : ∀ c ∈ [rebootCommand, scriptCommand], IsCommand c := by
    simp only [List.mem_cons, List.mem_singleton, List.not_mem_nil, or_false]
    rintro c (rfl | rfl) <;> exact ⟨_, _, rfl, rfl⟩
  exact ⟨rfl, by decide, rfl, hcmd, poll_runs_every_readable_command (fun _ => "") _ freshWorld _
    [rebootCommand, scriptCommand] rfl (by decide) rfl hcmd⟩

/-- A batch whose first element is `{}`: `_execute_command` raises `KeyError`
on it, the poll ends, and the reboot command after it is never
acknowledged. -/
theorem poll_drops_commands_after_unreadable :
    (executeCommand (fun _ => "") (.obj []) (pollingEnv [.obj [], rebootCommand] (.ok ⟨"", "", 0⟩))
        freshWorld).1 = .error ⟨"KeyError", "'id'"⟩ ∧
      ackStatuses (pollCommands (fun _ => "") (pollingEnv [.obj [], rebootCommand] (.ok ⟨"", "", 0⟩))
        freshWorld).2.events = [] :=
  ⟨rfl, by decide⟩

/-- A reboot whose subprocess exits 0, then a script: the script is
acknowledged `received` right after the reboot's `executing`, with no
terminal acknowledgement for the reboot in between. -/
theorem poll_starts_next_before_reboot_settles :
    ackStatuses (pollCommands (fun _ => "") (pollingEnv [rebootCommand, scriptCommand]
        (.ok ⟨"", "", 0⟩)) freshWorld).2.events =
      ["received", "executing", "received", "executing", "completed"] := by
  decide

end FleetdAgent
