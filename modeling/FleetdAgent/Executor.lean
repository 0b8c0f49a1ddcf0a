import FleetdAgent.UpdateJob

/-!
# One command: the acknowledgement protocol

`_execute_command` reads the command's `id` and `command`, acknowledges
`received`, dispatches on the command type, and turns any exception of the
dispatch into a `failed` acknowledgement.  This file states the protocol the
acknowledgements of one command should follow (`protocolAcks`, after the
spec's list) and proves, one branch of the dispatch at a time, what a run of
`_execute_command` logs (`CommandRun`): a command it cannot read raises before
it logs anything; any other command returns normally, is acknowledged
`received` first and only then, has all its acknowledgements sent to its id,
ends with a terminal acknowledgement unless its reboot exited 0, and follows
the protocol except in one case, a failed reboot launch after a completed
update.
-/

namespace FleetdAgent

open Agent

/-! ## The protocol -/

namespace Event

/-- The reboot of a `reboot` command, launched with `check=True`, exited 0. -/
def rebootExitedZero : Event → Bool
  | reboot true (.ok c) => c.returncode == 0
  | _ => false

/-- `subprocess.run` returned for the script of an `execute` command, with
exit code 0.  A script that exits 0 but whose output does not decode under
`text=True` makes `subprocess.run` raise `UnicodeDecodeError`, an error
answer here. -/
def scriptExitedZero : Event → Bool
  | script _ _ (.ok c) => c.returncode == 0
  | _ => false

/-- The installer returned. -/
def installed : Event → Bool
  | install _ (.ok ()) => true
  | _ => false

/-- The server accepted the uploaded logs. -/
def logsUploaded : Event → Bool
  | uploadLogs _ (.ok r) => (raiseForStatus r.statusCode).toBool
  | _ => false

end Event

/-- The acknowledgement statuses the protocol prescribes for a command of type
`commandType` whose run logged `es`. -/
def protocolAcks (commandType : Json) (es : List Event) : List String :=
  if commandType.isStr "reboot" then
    if es.any Event.rebootExitedZero then ["received", "executing"]
    else ["received", "executing", "failed"]
  else if commandType.isStr "execute" then
    ["received", "executing", if es.any Event.scriptExitedZero then "completed" else "failed"]
  else if commandType.isStr "update" then
    ["received", if es.any Event.installed then "completed" else "failed"]
  else if commandType.isStr "collect_logs" then
    ["received", if es.any Event.logsUploaded then "completed" else "failed"]
  else ["received", "failed"]

/-- The ids of the `received` acknowledgements of a log, in order. -/
def receivedIds (es : List Event) : List Json :=
  es.filterMap fun e =>
    match e.ack? with
    | some (id, "received") => some id
    | _ => none

@[simp] theorem receivedIds_nil : receivedIds [] = [] := rfl

@[simp] theorem receivedIds_append (es fs : List Event) :
    receivedIds (es ++ fs) = receivedIds es ++ receivedIds fs := by
  simp [receivedIds]

/-- The log leaves no command unfinished: its last acknowledgement, if any,
is terminal, or it ends with a reboot acknowledged `executing` that exited 0. -/
def Settled (es : List Event) : Prop :=
  (∀ s, (ackStatuses es).getLast? = some s → s = "completed" ∨ s = "failed") ∨
    ∃ pre id c, es = pre ++ [.ack id ⟨"executing", none, none⟩, .reboot true (.ok c)] ∧
      c.returncode = 0

theorem settled_of_getLast {es : List Event} {s : String}
    (h : (ackStatuses es).getLast? = some s) (hs : s = "completed" ∨ s = "failed") :
    Settled es :=
  .inl fun _ h' => (Option.some.inj (h.symm.trans h')) ▸ hs

/-- A command `_execute_command` can read: `command['id']` and
`command['command']` both succeed. -/
def IsCommand (c : Json) : Prop := ∃ id ty, c.getItem "id" = .ok id ∧ c.getItem "command" = .ok ty

/-- A stretch of log without acknowledgements. -/
theorem acks_eq_nil {es : List Event} (h : ∀ e ∈ es, e.ack? = none) :
    es.filterMap Event.ack? = [] ∧ ackStatuses es = [] ∧ receivedIds es = [] := by
  refine ⟨List.filterMap_eq_nil_iff.2 h, List.filterMap_eq_nil_iff.2 fun e he => ?_,
    List.filterMap_eq_nil_iff.2 fun e he => ?_⟩ <;> simp [h e he]

theorem Event.DownloadStep.quiet {updateId : Json} {e : Event} (h : e.DownloadStep updateId) :
    e.ack? = none ∧ e.installed = false := by
  cases e <;> simp_all [Event.DownloadStep, Event.ack?, Event.installed]

theorem Event.ReadStep.quiet {path : String} {e : Event} (h : e.ReadStep path) :
    e.ack? = none ∧ e.installed = false := by
  cases e <;> simp_all [Event.ReadStep, Event.ack?, Event.installed]

/-- A stretch of log that neither acknowledges nor installs. -/
theorem quiet_of_forall {es : List Event} (h : ∀ e ∈ es, e.ack? = none ∧ e.installed = false) :
    es.filterMap Event.ack? = [] ∧ ackStatuses es = [] ∧ es.any Event.installed = false :=
  ⟨(acks_eq_nil fun e he => (h e he).1).1, (acks_eq_nil fun e he => (h e he).1).2.1,
    List.any_eq_false.2 fun e he => by simp [(h e he).2]⟩

theorem mem_ackStatuses_of_mem {es : List Event} {a : Json × String}
    (h : a ∈ es.filterMap Event.ack?) : a.2 ∈ ackStatuses es := by
  obtain ⟨e, he, hea⟩ := List.mem_filterMap.1 h
  exact List.mem_filterMap.2 ⟨e, he, by simp [hea]⟩

theorem receivedIds_eq_nil {es : List Event} (h : "received" ∉ ackStatuses es) :
    receivedIds es = [] :=
  List.filterMap_eq_nil_iff.2 fun e he => by
    rcases hea : e.ack? with _ | ⟨id, s⟩
    · rfl
    split
    · rename_i h'
      simp only [Option.some.injEq, Prod.mk.injEq] at h'
      exact absurd (h'.2 ▸ mem_ackStatuses_of_mem (List.mem_filterMap.2 ⟨e, he, hea⟩)) h
    · rfl

@[simp] theorem protocolAcks_ack_cons (commandType commandId : Json) (data : AckData)
    (es : List Event) :
    protocolAcks commandType (.ack commandId data :: es) = protocolAcks commandType es :=
  rfl

@[simp] theorem protocolAcks_append_ack (commandType commandId : Json) (data : AckData)
    (es : List Event) :
    protocolAcks commandType (es ++ [.ack commandId data]) = protocolAcks commandType es := by
  simp only [protocolAcks, List.any_append, List.any_cons, List.any_nil, Event.rebootExitedZero,
    Event.scriptExitedZero, Event.installed, Event.logsUploaded, Bool.or_false]

/-- What one run `R` of `_execute_command`, for a command with id `commandId`
and type `commandType`, logs. -/
structure CommandRun (commandId commandType : Json) (R : List Event) : Prop where
  /-- The run starts by acknowledging `received`, and does so only there. -/
  received : ∃ R', R = .ack commandId ⟨"received", none, none⟩ :: R' ∧ receivedIds R' = []
  /-- Every acknowledgement goes to the command's id. -/
  acks_to : ∀ a ∈ R.filterMap Event.ack?, a.1 = commandId
  /-- The last acknowledgement is terminal, unless the run ends with a reboot
  that exited 0. -/
  settled : Settled R
  /-- The acknowledgements are the protocol's, but after a failed reboot
  launch that follows a completed update. -/
  protocol : ackStatuses R = protocolAcks commandType R ∨
    (commandType.isStr "update" ∧ ackStatuses R = ["received", "completed", "failed"] ∧
      ∃ err, Event.reboot false (.error err) ∈ R)

/-- A run that acknowledges `received` and then ends on a terminal
acknowledgement. -/
theorem CommandRun.of_terminal {commandId commandType : Json} {R : List Event} {s : String}
    (hto : ∀ a ∈ R.filterMap Event.ack?, a.1 = commandId) (hrec : "received" ∉ ackStatuses R)
    (hlast : (ackStatuses R).getLast? = some s) (hs : s = "completed" ∨ s = "failed")
    (hprotocol : "received" :: ackStatuses R = protocolAcks commandType R ∨
      (commandType.isStr "update" ∧ ackStatuses R = ["completed", "failed"] ∧
        ∃ err, Event.reboot false (.error err) ∈ R)) :
    CommandRun commandId commandType (.ack commandId ⟨"received", none, none⟩ :: R) where
  received := ⟨R, rfl, receivedIds_eq_nil hrec⟩
  acks_to := List.forall_mem_cons.2 ⟨rfl, hto⟩
  settled := settled_of_getLast (s := s) (by simp [List.getLast?_cons, hlast]) hs
  protocol := by simpa [Event.ack?] using hprotocol

/-! ## The dispatch, branch by branch -/

section Dispatch

variable (sha256Hex : Bytes → String) (commandId payload : Json) (env : Env) (w : World)

/-- `reboot`: acknowledge `executing`, launch the reboot with `check=True`;
the branch returns only when the reboot exited 0. -/
theorem dispatchCommand_reboot {commandType : Json} (h : commandType.isStr "reboot") :
    let a := env.proc (w.events.length + 1)
    let r := dispatchCommand sha256Hex commandId commandType payload env w
    r.2.events = w.events ++ [.ack commandId ⟨"executing", none, none⟩, .reboot true a] ∧
      (r.1 = .ok () ↔ ∃ c, a = .ok c ∧ c.returncode = 0) := by
  simp only [dispatchCommand, h, if_true, bind_apply, acknowledgeCommand_apply, Option.filter_none,
    runReboot, call_apply, World.record_events, List.length_append, List.length_singleton]
  rcases env.proc (w.events.length + 1) with e | c
  · simp
  · by_cases hc : c.returncode = 0 <;> simp [hc]

/-- `execute`: acknowledge `executing`, read the script and its timeout, run
the script, and acknowledge `completed` on exit code 0 and `failed`
otherwise; a payload that is not a mapping or a script that cannot run
raises. -/
theorem dispatchCommand_execute {commandType : Json} (h₁ : commandType.isStr "reboot" = false)
    (h : commandType.isStr "execute") :
    let r := dispatchCommand sha256Hex commandId commandType payload env w
    ∃ D, r.2.events = w.events ++ .ack commandId ⟨"executing", none, none⟩ :: D ∧
      ((∃ e, r.1 = .error e) ∧ (∀ e ∈ D, e.ack? = none) ∧ D.any Event.scriptExitedZero = false ∨
        r.1 = .ok () ∧ ∃ s t c, D = [.script s t (.ok c),
          .ack commandId ⟨if c.returncode = 0 then "completed" else "failed", some c, none⟩]) := by
  simp only [dispatchCommand, h₁, h, Bool.false_eq_true, if_false, if_true, bind_apply,
    acknowledgeCommand_apply, Option.filter_none, lift_apply]
  rcases payload.get "script" (.str "") with e | script
  · exact ⟨[], by simp, .inl ⟨⟨e, rfl⟩, by simp, rfl⟩⟩
  rcases payload.get "timeout" (.num 60) with e | timeout
  · exact ⟨[], by simp, .inl ⟨⟨e, rfl⟩, by simp, rfl⟩⟩
  simp only [runScript, call_apply, World.record_events, List.length_append,
    List.length_singleton]
  rcases env.proc (w.events.length + 1) with e | c
  · exact ⟨[.script script timeout (.error e)], by simp, .inl ⟨⟨e, rfl⟩,
      by simp [Event.ack?], rfl⟩⟩
  · exact ⟨_, by simp, .inr ⟨rfl, script, timeout, c, rfl⟩⟩

/-- `update`: the update job.  It acknowledges `completed` after a
successful install, `failed` after any earlier failure, and `failed` once
more when the reboot launched after `completed` raises; a payload that is not
a mapping raises. -/
theorem dispatchCommand_update {commandType : Json} (h₁ : commandType.isStr "reboot" = false)
    (h₂ : commandType.isStr "execute" = false) (h : commandType.isStr "update") :
    let r := dispatchCommand sha256Hex commandId commandType payload env w
    ∃ D, r.2.events = w.events ++ D ∧ (∀ a ∈ D.filterMap Event.ack?, a.1 = commandId) ∧
      ((∃ e, r.1 = .error e) ∧ D = [] ∨
        r.1 = .ok () ∧ (ackStatuses D = [if D.any Event.installed then "completed" else "failed"] ∨
          ackStatuses D = ["completed", "failed"] ∧ ∃ err, Event.reboot false (.error err) ∈ D)) := by
  simp only [dispatchCommand, h₁, h₂, h, Bool.false_eq_true, if_false, if_true]
  by_cases hobj : ∃ fields, payload = .obj fields
  swap
  · obtain ⟨e, he⟩ := handleUpdateCommand_not_obj sha256Hex commandId payload env w
      fun f h => hobj ⟨f, h⟩
    exact ⟨[], by simp [he], by simp, .inl ⟨⟨e, by rw [he]⟩, rfl⟩⟩
  obtain ⟨fields, rfl⟩ := hobj
  obtain ⟨hok, Dd, hDd, -, -, hcases⟩ := handleUpdateCommand_cases sha256Hex commandId fields env w
  obtain ⟨hDa, hDs, hDi⟩ := quiet_of_forall fun e he => (hDd e he).quiet
  rcases hcases with ⟨err, hrun⟩ | ⟨V, hV, ⟨err, hrun⟩ | ⟨-, -, hrest⟩⟩
  · simp only [List.append_assoc, List.cons_append] at hrun
    exact ⟨_, hrun, by simp [hDa, failedPosts, Event.ack?],
      .inr ⟨hok, .inl (by simp [hDs, hDi, failedPosts, Event.ack?, Event.installed])⟩⟩
  all_goals obtain ⟨hVa, hVs, hVi⟩ := quiet_of_forall fun e he => (hV e he).quiet
  · simp only [List.append_assoc, List.cons_append] at hrun
    exact ⟨_, hrun, by simp [hDa, hVa, failedPosts, Event.ack?],
      .inr ⟨hok, .inl (by simp [hDs, hDi, hVs, hVi, failedPosts, Event.ack?, Event.installed])⟩⟩
  rcases hrest with ⟨err, hrun⟩ | ⟨-, hrun⟩ | ⟨-, ⟨c, hrun⟩ | ⟨err, hrun⟩⟩ <;>
    simp only [List.append_assoc, List.cons_append, List.singleton_append] at hrun
  · exact ⟨_, hrun, by simp [hDa, hVa, failedPosts, Event.ack?],
      .inr ⟨hok, .inl (by simp [hDs, hDi, hVs, hVi, failedPosts, Event.ack?, Event.installed])⟩⟩
  · exact ⟨_, hrun, by simp [hDa, hVa, Event.ack?],
      .inr ⟨hok, .inl (by simp [hDs, hDi, hVs, hVi, Event.ack?, Event.installed])⟩⟩
  · exact ⟨_, hrun, by simp [hDa, hVa, Event.ack?],
      .inr ⟨hok, .inl (by simp [hDs, hDi, hVs, hVi, Event.ack?, Event.installed])⟩⟩
  · exact ⟨_, hrun, by simp [hDa, hVa, failedPosts, Event.ack?],
      .inr ⟨hok, .inr ⟨by simp [hDs, hVs, failedPosts, Event.ack?], err, by simp⟩⟩⟩

/-- `collect_logs` hands the command to `_collect_and_upload_logs`. -/
theorem dispatchCommand_collectLogs {commandType : Json} (h₁ : commandType.isStr "reboot" = false)
    (h₂ : commandType.isStr "execute" = false) (h₃ : commandType.isStr "update" = false)
    (h : commandType.isStr "collect_logs") :
    dispatchCommand sha256Hex commandId commandType payload env w =
      collectAndUploadLogs commandId payload env w := by
  simp only [dispatchCommand, h₁, h₂, h₃, h, Bool.false_eq_true, if_false, if_true]

/-- Any other type is acknowledged `failed`. -/
theorem dispatchCommand_unknown {commandType : Json} (h₁ : commandType.isStr "reboot" = false)
    (h₂ : commandType.isStr "execute" = false) (h₃ : commandType.isStr "update" = false)
    (h₄ : commandType.isStr "collect_logs" = false) :
    ∃ err, dispatchCommand sha256Hex commandId commandType payload env w =
      (.ok (), w.record (.ack commandId ⟨"failed", none, err⟩)) :=
  ⟨(some ("Unknown command type: " ++ commandType.toStr)).filter (!·.isEmpty), by
    simp only [dispatchCommand, h₁, h₂, h₃, h₄, Bool.false_eq_true, if_false,
      acknowledgeCommand_apply]⟩

end Dispatch

/-- Collecting the logs logs at most the `journalctl` run: nothing that
acknowledges or uploads. -/
theorem collectLogs_spec (payload : Json) (env : Env) (w : World) :
    ∃ X, (collectLogs payload env w).2.events = w.events ++ X ∧
      ∀ e ∈ X, e.ack? = none ∧ e.logsUploaded = false := by
  simp only [collectLogs, bind_apply, lift_apply]
  rcases payload.get "log_type" (.str "system") with e | logType
  · exact ⟨[], by simp, by simp⟩
  rcases payload.get "since" (.str "1h") with e | since
  · exact ⟨[], by simp, by simp⟩
  dsimp only
  split
  · refine ⟨[.journal since (env.proc w.events.length)], ?_,
      by simp [Event.ack?, Event.logsUploaded]⟩
    simp only [journalctl, bind_apply, call_apply]
    rcases env.proc w.events.length with e | c
    · rfl
    · by_cases hc : c.returncode = 0 <;> simp [hc]
  · rcases Json.concatStr "Log collection not implemented for type: " logType with e | logs <;>
      exact ⟨[], by simp, by simp⟩

/-- `_collect_and_upload_logs` returns normally and ends with its one
acknowledgement, `completed` exactly when the server accepted the logs. -/
theorem collectAndUploadLogs_spec (commandId payload : Json) (env : Env) (w : World) :
    let r := collectAndUploadLogs commandId payload env w
    r.1 = .ok () ∧ ∃ X status err,
      r.2.events = w.events ++ X ++ [.ack commandId ⟨status, none, err⟩] ∧
      (∀ e ∈ X, e.ack? = none) ∧ status = if X.any Event.logsUploaded then "completed" else "failed" := by
  obtain ⟨X, hX, hXq⟩ := collectLogs_spec payload env w
  have hXu : X.any Event.logsUploaded = false :=
    List.any_eq_false.2 fun e he => by simp [(hXq e he).2]
  simp only [collectAndUploadLogs, tryCatch_apply, bind_apply, acknowledgeCommand_apply, lift_apply,
    call_apply]
  rcases hc : collectLogs payload env w with ⟨e | logs, w1⟩ <;> rw [hc] at hX <;>
    dsimp only at hX ⊢
  · exact ⟨rfl, X, "failed", (some e.text).filter (!·.isEmpty), by simp [hX],
      fun e he => (hXq e he).1, by simp [hXu]⟩
  have hXa : ∀ a, ∀ e ∈ X ++ [.uploadLogs logs a], e.ack? = none := fun a e he => by
    rcases List.mem_append.1 he with he | he
    · exact (hXq e he).1
    · rw [List.mem_singleton.1 he]
      rfl
  rcases env.http w1.events.length with e | resp <;> dsimp only
  · exact ⟨rfl, X ++ [.uploadLogs logs (.error e)], "failed", (some e.text).filter (!·.isEmpty),
      by simp [hX], hXa _, by simp [hXu, Event.logsUploaded]⟩
  rcases hr : raiseForStatus resp.statusCode with e | ⟨⟩ <;> dsimp only
  · exact ⟨rfl, X ++ [.uploadLogs logs (.ok resp)], "failed", (some e.text).filter (!·.isEmpty),
      by simp [hX], hXa _, by simp [hXu, Event.logsUploaded, hr, Except.toBool]⟩
  · exact ⟨rfl, X ++ [.uploadLogs logs (.ok resp)], "completed", none, by simp [hX], hXa _,
      by simp [Event.logsUploaded, hr, Except.toBool]⟩

section Execute

variable (sha256Hex : Bytes → String)

/-- A command whose `id` or `command` cannot be read raises before anything is
logged. -/
theorem executeCommand_not_command {c : Json} (h : ¬ IsCommand c) (env : Env) (w : World) :
    ∃ e, executeCommand sha256Hex c env w = (.error e, w) := by
  simp only [executeCommand, bind_apply, lift_apply]
  rcases hid : c.getItem "id" with e | id
  · exact ⟨e, rfl⟩
  rcases hty : c.getItem "command" with e | ty
  · exact ⟨e, rfl⟩
  exact absurd ⟨id, ty, hid, hty⟩ h

/-- The log of `_execute_command` after its `received` acknowledgement: the
dispatch's, and the `failed` acknowledgement of its handler when the dispatch
raised. -/
def afterDispatch (commandId : Json) (r : Except PyError Unit × World) : World :=
  match r.1 with
  | .ok () => r.2
  | .error e => r.2.record (.ack commandId ⟨"failed", none, (some e.text).filter (!·.isEmpty)⟩)

/-- A readable command is acknowledged `received` and dispatched; an exception
of the dispatch is acknowledged `failed`, and the run returns normally. -/
theorem executeCommand_of_command {c id ty : Json} (hid : c.getItem "id" = .ok id)
    (hty : c.getItem "command" = .ok ty) (env : Env) (w : World) :
    ∃ payload, executeCommand sha256Hex c env w =
      (.ok (), afterDispatch id (dispatchCommand sha256Hex id ty payload env
        (w.record (.ack id ⟨"received", none, none⟩)))) := by
  obtain ⟨fields, rfl⟩ : ∃ fields, c = .obj fields := by
    cases c <;> simp_all [Json.getItem]
  refine ⟨(fields.lookup "payload").getD (.obj []), ?_⟩
  simp only [executeCommand, bind_apply, lift_apply, hid, hty, Json.get_obj, tryCatch_apply,
    acknowledgeCommand_apply, Option.filter_none]
  rcases dispatchCommand sha256Hex id ty _ env _ with ⟨_ | ⟨⟩, w'⟩ <;> rfl

end Execute

/-! ## The run of each command type -/

section Runs

variable (sha256Hex : Bytes → String) (id payload : Json) (env : Env) (w : World) {ty : Json}

theorem commandRun_reboot (h₁ : ty.isStr "reboot") :
    ∃ R, (afterDispatch id (dispatchCommand sha256Hex id ty payload env w)).events = w.events ++ R ∧
      CommandRun id ty (.ack id ⟨"received", none, none⟩ :: R) := by
  obtain ⟨hev, hok⟩ := dispatchCommand_reboot sha256Hex id payload env w h₁
  unfold afterDispatch
  rcases hr : (dispatchCommand sha256Hex id ty payload env w).1 with e | ⟨⟩ <;> dsimp only
  · have hna : ∀ c, env.proc (w.events.length + 1) = .ok c → c.returncode ≠ 0 :=
      fun c ha h0 => by simp [hok.2 ⟨c, ha, h0⟩] at hr
    refine ⟨[.ack id ⟨"executing", none, none⟩, .reboot true (env.proc (w.events.length + 1)),
      .ack id ⟨"failed", none, (some e.text).filter (!·.isEmpty)⟩], by simp [hev],
      CommandRun.of_terminal (s := "failed") (by simp [Event.ack?]) (by simp [Event.ack?])
      (by simp [Event.ack?]) (.inr rfl) (.inl ?_)⟩
    rcases ha : env.proc (w.events.length + 1) with e' | c
    · simp [protocolAcks, h₁, Event.rebootExitedZero, Event.ack?]
    · simp [protocolAcks, h₁, Event.rebootExitedZero, Event.ack?, hna c ha]
  · obtain ⟨c, ha, h0⟩ := hok.1 hr
    refine ⟨[.ack id ⟨"executing", none, none⟩, .reboot true (.ok c)], by rw [hev, ha],
      ⟨⟨_, rfl, by simp [receivedIds, Event.ack?]⟩, by simp [Event.ack?], .inr ⟨[_], id, c, rfl, h0⟩,
      .inl (by simp [protocolAcks, h₁, Event.rebootExitedZero, Event.ack?, h0])⟩⟩

theorem commandRun_execute (h₁ : ty.isStr "reboot" = false) (h₂ : ty.isStr "execute") :
    ∃ R, (afterDispatch id (dispatchCommand sha256Hex id ty payload env w)).events = w.events ++ R ∧
      CommandRun id ty (.ack id ⟨"received", none, none⟩ :: R) := by
  obtain ⟨D, hev, ⟨⟨e, he⟩, hDa, hDs⟩ | ⟨hok, s, t, c, rfl⟩⟩ :=
    dispatchCommand_execute sha256Hex id payload env w h₁ h₂ <;> unfold afterDispatch
  · rw [he]
    obtain ⟨hDa', hDs', -⟩ := acks_eq_nil hDa
    refine ⟨.ack id ⟨"executing", none, none⟩ :: D ++
      [.ack id ⟨"failed", none, (some e.text).filter (!·.isEmpty)⟩], by simp [hev],
      CommandRun.of_terminal (s := "failed") (by simp [hDa', Event.ack?])
      (by simp [hDs', Event.ack?]) (by simp [hDs', Event.ack?]) (.inr rfl) (.inl ?_)⟩
    simp [protocolAcks, h₁, h₂, hDs, hDs', Event.ack?, Event.scriptExitedZero]
  · rw [hok]
    refine ⟨.ack id ⟨"executing", none, none⟩ :: [.script s t (.ok c),
      .ack id ⟨if c.returncode = 0 then "completed" else "failed", some c, none⟩], hev,
      CommandRun.of_terminal (s := if c.returncode = 0 then "completed" else "failed")
      (by simp [Event.ack?]) (by split <;> simp [Event.ack?]) (by simp [Event.ack?])
      (by split <;> simp) (.inl ?_)⟩
    by_cases h0 : c.returncode = 0 <;>
      simp [protocolAcks, h₁, h₂, Event.ack?, Event.scriptExitedZero, h0]

theorem commandRun_update (h₁ : ty.isStr "reboot" = false) (h₂ : ty.isStr "execute" = false)
    (h₃ : ty.isStr "update") :
    ∃ R, (afterDispatch id (dispatchCommand sha256Hex id ty payload env w)).events = w.events ++ R ∧
      CommandRun id ty (.ack id ⟨"received", none, none⟩ :: R) := by
  obtain ⟨D, hev, hDto, ⟨⟨e, he⟩, rfl⟩ | ⟨hok, hacks⟩⟩ :=
    dispatchCommand_update sha256Hex id payload env w h₁ h₂ h₃ <;> unfold afterDispatch
  · rw [he]
    exact ⟨[.ack id ⟨"failed", none, (some e.text).filter (!·.isEmpty)⟩], by simp [hev],
      CommandRun.of_terminal (s := "failed") (by simp [Event.ack?]) (by simp [Event.ack?])
      (by simp [Event.ack?]) (.inr rfl)
      (.inl (by simp [protocolAcks, h₁, h₂, h₃, Event.installed, Event.ack?]))⟩
  rw [hok]
  rcases hacks with hacks | ⟨hacks, err, hreb⟩
  · exact ⟨D, hev, CommandRun.of_terminal (s := if D.any Event.installed then "completed" else "failed")
      hDto (by rw [hacks]; split <;> simp) (by rw [hacks]; rfl) (by split <;> simp)
      (.inl (by rw [hacks]; simp [protocolAcks, h₁, h₂, h₃]))⟩
  · exact ⟨D, hev, CommandRun.of_terminal (s := "failed") hDto (by rw [hacks]; simp)
      (by rw [hacks]; rfl) (.inr rfl) (.inr ⟨h₃, hacks, err, hreb⟩)⟩

theorem commandRun_collectLogs (h₁ : ty.isStr "reboot" = false)
    (h₂ : ty.isStr "execute" = false) (h₃ : ty.isStr "update" = false)
    (h₄ : ty.isStr "collect_logs") :
    ∃ R, (afterDispatch id (dispatchCommand sha256Hex id ty payload env w)).events = w.events ++ R ∧
      CommandRun id ty (.ack id ⟨"received", none, none⟩ :: R) := by
  rw [dispatchCommand_collectLogs sha256Hex id payload env w h₁ h₂ h₃ h₄]
  obtain ⟨hok, X, status, err, hev, hXa, hst⟩ := collectAndUploadLogs_spec id payload env w
  unfold afterDispatch
  rw [hok]
  obtain ⟨hXa', hXs, -⟩ := acks_eq_nil hXa
  refine ⟨X ++ [.ack id ⟨status, none, err⟩], by simp [hev], CommandRun.of_terminal (s := status)
    (by simp [hXa', Event.ack?]) (by rw [hst]; split <;> simp [hXs, Event.ack?] <;> decide)
    (by simp [hXs, Event.ack?]) (by rw [hst]; split <;> simp) (.inl ?_)⟩
  simp [protocolAcks, h₁, h₂, h₃, h₄, hXs, Event.ack?, hst, Event.logsUploaded]

theorem commandRun_unknown (h₁ : ty.isStr "reboot" = false)
    (h₂ : ty.isStr "execute" = false) (h₃ : ty.isStr "update" = false)
    (h₄ : ty.isStr "collect_logs" = false) :
    ∃ R, (afterDispatch id (dispatchCommand sha256Hex id ty payload env w)).events = w.events ++ R ∧
      CommandRun id ty (.ack id ⟨"received", none, none⟩ :: R) := by
  obtain ⟨err, hd⟩ := dispatchCommand_unknown sha256Hex id payload env w h₁ h₂ h₃ h₄
  unfold afterDispatch
  rw [hd]
  exact ⟨[.ack id ⟨"failed", none, err⟩], rfl, CommandRun.of_terminal (s := "failed")
    (by simp [Event.ack?]) (by simp [Event.ack?]) (by simp [Event.ack?]) (.inr rfl)
    (.inl (by simp [protocolAcks, h₁, h₂, h₃, h₄, Event.ack?]))⟩

end Runs

section Execute

variable (sha256Hex : Bytes → String)

/-- What one run of `_execute_command` logs for a command it can read: it
returns normally, and its events form a `CommandRun`. -/
theorem executeCommand_spec {c id ty : Json} (hid : c.getItem "id" = .ok id)
    (hty : c.getItem "command" = .ok ty) (env : Env) (w : World) :
    (executeCommand sha256Hex c env w).1 = .ok () ∧
      ∃ R, (executeCommand sha256Hex c env w).2.events = w.events ++ R ∧ CommandRun id ty R := by
  obtain ⟨payload, hrun⟩ := executeCommand_of_command sha256Hex hid hty env w
  rw [hrun]
  obtain ⟨R, hev, hR⟩ : ∃ R, (afterDispatch id (dispatchCommand sha256Hex id ty payload env
      (w.record (.ack id ⟨"received", none, none⟩)))).events =
      (w.record (.ack id ⟨"received", none, none⟩)).events ++ R ∧
      CommandRun id ty (.ack id ⟨"received", none, none⟩ :: R) := by
    by_cases h₁ : ty.isStr "reboot"
    · exact commandRun_reboot sha256Hex id payload env _ h₁
    replace h₁ : ty.isStr "reboot" = false := by simpa using h₁
    by_cases h₂ : ty.isStr "execute"
    · exact commandRun_execute sha256Hex id payload env _ h₁ h₂
    replace h₂ : ty.isStr "execute" = false := by simpa using h₂
    by_cases h₃ : ty.isStr "update"
    · exact commandRun_update sha256Hex id payload env _ h₁ h₂ h₃
    replace h₃ : ty.isStr "update" = false := by simpa using h₃
    by_cases h₄ : ty.isStr "collect_logs"
    · exact commandRun_collectLogs sha256Hex id payload env _ h₁ h₂ h₃ h₄
    · exact commandRun_unknown sha256Hex id payload env _ h₁ h₂ h₃ (by simpa using h₄)
  exact ⟨rfl, _, by simp [hev], hR⟩

/-- For every command `_execute_command` can read and every outcome of the
collaborators, the run returns normally, every acknowledgement goes to the
command's id, and the statuses are the protocol's, or, for an update whose
reboot launch raised after `completed`, `received`, `completed`, `failed`. -/
theorem execute_command_follows_protocol (c id ty : Json) (hid : c.getItem "id" = .ok id)
    (hty : c.getItem "command" = .ok ty) (env : Env) (w : World) :
    let run := (executeCommand sha256Hex c env w).2.events.drop w.events.length
    (executeCommand sha256Hex c env w).1 = .ok () ∧ (∀ a ∈ run.filterMap Event.ack?, a.1 = id) ∧
      (ackStatuses run = protocolAcks ty run ∨
        ty.isStr "update" ∧ ackStatuses run = ["received", "completed", "failed"] ∧
          ∃ err, Event.reboot false (.error err) ∈ run) := by
  obtain ⟨hok, R, hR, hrun⟩ := executeCommand_spec sha256Hex hid hty env w
  rw [hR, List.drop_left]
  exact ⟨hok, hrun.acks_to, hrun.protocol⟩

end Execute

/-- A `reboot` command with id `a`. -/
def rebootCommand : Json := .obj [("id", .str "a"), ("command", .str "reboot")]

theorem execute_command_follows_protocol_reboot :
    rebootCommand.getItem "id" = .ok (.str "a") ∧
      rebootCommand.getItem "command" = .ok (.str "reboot") ∧
      let run := (executeCommand (fun _ => "") rebootCommand (servingEnv 0 [] (.ok ⟨"", "", 0⟩))
        freshWorld).2.events.drop freshWorld.events.length
      (executeCommand (fun _ => "") rebootCommand (servingEnv 0 [] (.ok ⟨"", "", 0⟩))
          freshWorld).1 = .ok () ∧
        (∀ a ∈ run.filterMap Event.ack?, a.1 = .str "a") ∧
        (ackStatuses run = protocolAcks (.str "reboot") run ∨
          (Json.str "reboot").isStr "update" ∧ ackStatuses run = ["received", "completed", "failed"] ∧
            ∃ err, Event.reboot false (.error err) ∈ run) :=
  ⟨rfl, rfl, execute_command_follows_protocol (fun _ => "") rebootCommand (.str "a") (.str "reboot")
    rfl rfl _ freshWorld⟩

/-- An `update` command for `updatePayload`. -/
def updateCommand (checksum : String) (rebootRequired : Bool) : Json :=
  .obj [("id", .str "c1"), ("command", .str "update"),
    ("payload", updatePayload checksum rebootRequired)]

unseal readBlocks in
/-- An update that succeeds and asks for a reboot whose launch raises is
acknowledged `received`, `completed` and then `failed`; the protocol has
`received`, `completed`. -/
theorem update_acks_failed_after_completed :
    ackStatuses (executeCommand (fun _ => emptyDigest) (updateCommand emptyDigest true)
        (servingEnv 0 [] (.error rebootLaunchError)) freshWorld).2.events =
      ["received", "completed", "failed"] ∧
    protocolAcks (.str "update") (executeCommand (fun _ => emptyDigest) (updateCommand emptyDigest true)
        (servingEnv 0 [] (.error rebootLaunchError)) freshWorld).2.events =
      ["received", "completed"] := by
  decide

end FleetdAgent
