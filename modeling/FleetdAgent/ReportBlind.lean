import FleetdAgent.Poll

/-!
# Reporting failures change nothing the device does

The agent discards what the acknowledgement and status-report endpoints
answer: `_acknowledge_command` and `_report_update_status` catch every failure
of their post and return nothing.  So a run does not depend on `Env.report`
at all.  Each function gets one lemma saying so, by unfolding for straight-line
code and by induction for the loops (the download's chunks, the read-back's
blocks, the batch); the device-side actions of two runs that differ only in
how the reporting endpoints behave are then the same.
-/

namespace FleetdAgent

open Agent

section ReportBlind

variable (sha256Hex : Bytes → String) (r : Nat → Except PyError Response) (env : Env)

theorem runReboot_report (check : Bool) (w : World) :
    runReboot check { env with report := r } w = runReboot check env w := by
  simp only [runReboot, bind_apply, call_apply, Agent.ite_apply, throw_apply, pure_apply]

theorem writeChunks_report (path : String) (updateId : Json) (totalSize : Int)
    (downloaded : Nat) (chunks : List Bytes) (w : World) :
    writeChunks path updateId totalSize downloaded chunks { env with report := r } w =
      writeChunks path updateId totalSize downloaded chunks env w := by
  induction chunks generalizing downloaded w with
  | nil => rfl
  | cons chunk rest ih =>
    simp only [writeChunks, bind_apply, writeFile, reportUpdateStatus_apply, Agent.ite_apply, pure_apply,
      ih]

theorem downloadUpdate_report (url updateId : Json) (w : World) :
    downloadUpdate url updateId { env with report := r } w = downloadUpdate url updateId env w := by
  simp only [downloadUpdate, bind_apply, makeDirs, requestsGet, openWrite, call_apply, lift_apply,
    pure_apply, writeChunks_report]

theorem readBlocks_report (path : String) (rest hashed : Bytes) (w : World) :
    readBlocks path rest hashed { env with report := r } w = readBlocks path rest hashed env w := by
  induction rest, hashed using readBlocks.induct path generalizing w with
  | case1 rest hashed ih =>
    rw [readBlocks]
    by_cases hend : rest.take 4096 = []
    · simp only [readBlock, bind_apply, call_apply, hend, if_true, pure_apply]
    · simp only [readBlock, bind_apply, call_apply, hend, if_false, ih hend]

theorem verifyChecksum_report (path : String) (expected : Json) (w : World) :
    verifyChecksum sha256Hex path expected { env with report := r } w =
      verifyChecksum sha256Hex path expected env w := by
  simp only [verifyChecksum, bind_apply, openRead, readBlocks_report, pure_apply]

theorem handleUpdateCommand_report (commandId payload : Json) (w : World) :
    handleUpdateCommand sha256Hex commandId payload { env with report := r } w =
      handleUpdateCommand sha256Hex commandId payload env w := by
  simp only [handleUpdateCommand, bind_apply, lift_apply, tryCatch_apply, reportUpdateStatus_apply,
    acknowledgeCommand_apply, downloadUpdate_report, verifyChecksum_report, installUpdate,
    call_apply, runReboot_report, Agent.ite_apply, throw_apply, pure_apply]

theorem collectAndUploadLogs_report (commandId payload : Json) (w : World) :
    collectAndUploadLogs commandId payload { env with report := r } w =
      collectAndUploadLogs commandId payload env w := by
  simp only [collectAndUploadLogs, collectLogs, journalctl, tryCatch_apply, bind_apply, lift_apply,
    call_apply, acknowledgeCommand_apply, Agent.ite_apply, throw_apply, pure_apply]

theorem executeCommand_report (c : Json) (w : World) :
    executeCommand sha256Hex c { env with report := r } w = executeCommand sha256Hex c env w := by
  simp only [executeCommand, dispatchCommand, bind_apply, lift_apply, tryCatch_apply,
    acknowledgeCommand_apply, runReboot_report, runScript, call_apply, handleUpdateCommand_report,
    collectAndUploadLogs_report, Agent.ite_apply]

theorem executeBatch_report (commands : List Json) (w : World) :
    executeBatch sha256Hex commands { env with report := r } w =
      executeBatch sha256Hex commands env w := by
  induction commands generalizing w with
  | nil => rfl
  | cons c rest ih => simp only [executeBatch, bind_apply, executeCommand_report, ih]

theorem pollCommands_report (w : World) :
    pollCommands sha256Hex { env with report := r } w = pollCommands sha256Hex env w := by
  simp only [pollCommands, tryCatch_apply, bind_apply, call_apply, lift_apply, executeBatch_report,
    Agent.ite_apply, pure_apply]

end ReportBlind

/-- Two runs of `_execute_command` whose collaborators differ only in how the
acknowledgement and status-report endpoints behave perform the same
device-side actions in the same order. -/
theorem device_actions_ignore_reports (sha256Hex : Bytes → String) (c : Json) (env₁ env₂ : Env)
    (w : World) (hhttp : env₁.http = env₂.http) (hproc : env₁.proc = env₂.proc)
    (hdownload : env₁.download = env₂.download) (hfile : env₁.file = env₂.file)
    (hinstall : env₁.install = env₂.install) :
    deviceActions (executeCommand sha256Hex c env₁ w).2.events =
      deviceActions (executeCommand sha256Hex c env₂ w).2.events := by
  have henv : env₂ = { env₁ with report := env₂.report } := by
    cases env₁
    cases env₂
    simp_all
  rw [henv, executeCommand_report sha256Hex env₂.report env₁ c w]

/-- The same holds for a whole poll: the batch it runs, and every device-side
action of every command in it, do not depend on the reporting endpoints. -/
theorem poll_device_actions_ignore_reports (sha256Hex : Bytes → String) (env₁ env₂ : Env)
    (w : World) (hhttp : env₁.http = env₂.http) (hproc : env₁.proc = env₂.proc)
    (hdownload : env₁.download = env₂.download) (hfile : env₁.file = env₂.file)
    (hinstall : env₁.install = env₂.install) :
    deviceActions (pollCommands sha256Hex env₁ w).2.events =
      deviceActions (pollCommands sha256Hex env₂ w).2.events := by
  have henv : env₂ = { env₁ with report := env₂.report } := by
    cases env₁
    cases env₂
    simp_all
  rw [henv, pollCommands_report sha256Hex env₂.report env₁ w]

/-- A reporting endpoint that refuses every connection. -/
def unreachableReports (env : Env) : Env :=
  { env with report := fun _ => .error ⟨"ConnectionError", "Connection refused"⟩ }

theorem device_actions_ignore_reports_update :
    (servingEnv 0 [] (.ok ⟨"", "", 0⟩)).http = (unreachableReports (servingEnv 0 [] (.ok ⟨"", "", 0⟩))).http ∧
      (servingEnv 0 [] (.ok ⟨"", "", 0⟩)).proc = (unreachableReports (servingEnv 0 [] (.ok ⟨"", "", 0⟩))).proc ∧
      (servingEnv 0 [] (.ok ⟨"", "", 0⟩)).download =
        (unreachableReports (servingEnv 0 [] (.ok ⟨"", "", 0⟩))).download ∧
      (servingEnv 0 [] (.ok ⟨"", "", 0⟩)).file = (unreachableReports (servingEnv 0 [] (.ok ⟨"", "", 0⟩))).file ∧
      (servingEnv 0 [] (.ok ⟨"", "", 0⟩)).install =
        (unreachableReports (servingEnv 0 [] (.ok ⟨"", "", 0⟩))).install ∧
      deviceActions (executeCommand (fun _ => "") (updateCommand "" true)
          (servingEnv 0 [] (.ok ⟨"", "", 0⟩)) freshWorld).2.events =
        deviceActions (executeCommand (fun _ => "") (updateCommand "" true)
          (unreachableReports (servingEnv 0 [] (.ok ⟨"", "", 0⟩))) freshWorld).2.events :=
  ⟨rfl, rfl, rfl, rfl, rfl, device_actions_ignore_reports (fun _ => "") (updateCommand "" true)
    _ _ freshWorld rfl rfl rfl rfl rfl⟩

theorem poll_device_actions_ignore_reports_batch :
    (pollingEnv [rebootCommand, scriptCommand] (.ok ⟨"", "", 0⟩)).http =
        (unreachableReports (pollingEnv [rebootCommand, scriptCommand] (.ok ⟨"", "", 0⟩))).http ∧
      (pollingEnv [rebootCommand, scriptCommand] (.ok ⟨"", "", 0⟩)).proc =
        (unreachableReports (pollingEnv [rebootCommand, scriptCommand] (.ok ⟨"", "", 0⟩))).proc ∧
      (pollingEnv [rebootCommand, scriptCommand] (.ok ⟨"", "", 0⟩)).download =
        (unreachableReports (pollingEnv [rebootCommand, scriptCommand] (.ok ⟨"", "", 0⟩))).download ∧
      (pollingEnv [rebootCommand, scriptCommand] (.ok ⟨"", "", 0⟩)).file =
        (unreachableReports (pollingEnv [rebootCommand, scriptCommand] (.ok ⟨"", "", 0⟩))).file ∧
      (pollingEnv [rebootCommand, scriptCommand] (.ok ⟨"", "", 0⟩)).install =
        (unreachableReports (pollingEnv [rebootCommand, scriptCommand] (.ok ⟨"", "", 0⟩))).install ∧
      deviceActions (pollCommands (fun _ => "") (pollingEnv [rebootCommand, scriptCommand]
          (.ok ⟨"", "", 0⟩)) freshWorld).2.events =
        deviceActions (pollCommands (fun _ => "") (unreachableReports
          (pollingEnv [rebootCommand, scriptCommand] (.ok ⟨"", "", 0⟩))) freshWorld).2.events :=
  ⟨rfl, rfl, rfl, rfl, rfl, poll_device_actions_ignore_reports (fun _ => "") _ _ freshWorld
    rfl rfl rfl rfl rfl⟩

end FleetdAgent
