import FleetdAgent.Update

/-!
# Executing commands

`poll_commands` long-polls the fleet server and hands every command of the
batch it gets, in order, to `_execute_command`.  `_execute_command` reads the
command's `id`, `command` and `payload`, then, inside one handler that turns
any exception into a `failed` acknowledgement, acknowledges `received` and
dispatches on the command type: `reboot`, `execute`, `update`,
`collect_logs`, or an unknown type.
-/

namespace FleetdAgent

open Agent

/-- `subprocess.run(script, shell=True, capture_output=True, text=True,
timeout=timeout)`: a timeout or a launch failure raises. -/
def runScript (script timeout : Json) : Agent Completed := call Env.proc (.script script timeout)

/-- `subprocess.check_output(['journalctl', '--since', since, '--no-pager'],
universal_newlines=True)`: a non-zero exit raises. -/
def journalctl (since : Json) : Agent String := do
  let completed ← call Env.proc (.journal since)
  if completed.returncode ≠ 0 then
    throw ⟨"CalledProcessError", "Command '['journalctl', '--since', '" ++ since.toStr ++
      "', '--no-pager']' returned non-zero exit status " ++ toString completed.returncode ++ "."⟩
  return completed.stdout

/-- The first half of `_collect_and_upload_logs` ("Collect logs based on
type"): the logs to upload. -/
def collectLogs (payload : Json) : Agent String := do
  let logType ← payload.get "log_type" (.str "system")
  let since ← payload.get "since" (.str "1h")
  if logType.isStr "system" then journalctl since
  else (Json.concatStr "Log collection not implemented for type: " logType : Agent String)

/-- `_collect_and_upload_logs`. -/
def collectAndUploadLogs (commandId payload : Json) : Agent Unit :=
  try
    let logs ← collectLogs payload
    let response ← call Env.http (.uploadLogs logs)
    raiseForStatus response.statusCode
    acknowledgeCommand commandId "completed" none none
  catch e =>
    acknowledgeCommand commandId "failed" none (some e.text)

section Execute

variable (sha256Hex : Bytes → String)

/-- The dispatch of `_execute_command` on the command type: the body of its
handler after the `received` acknowledgement. -/
def dispatchCommand (commandId commandType payload : Json) : Agent Unit :=
  if commandType.isStr "reboot" then do
    acknowledgeCommand commandId "executing" none none
    runReboot true
  else if commandType.isStr "execute" then do
    acknowledgeCommand commandId "executing" none none
    let script ← payload.get "script" (.str "")
    let timeout ← payload.get "timeout" (.num 60)
    let result ← runScript script timeout
    acknowledgeCommand commandId (if result.returncode = 0 then "completed" else "failed")
      (some result) none
  else if commandType.isStr "update" then
    handleUpdateCommand sha256Hex commandId payload
  else if commandType.isStr "collect_logs" then
    collectAndUploadLogs commandId payload
  else
    acknowledgeCommand commandId "failed" none (some ("Unknown command type: " ++ commandType.toStr))

/-- `_execute_command`.  The command's `id`, `command` and `payload` are read
before the handler is entered. -/
def executeCommand (command : Json) : Agent Unit := do
  let commandId ← command.getItem "id"
  let commandType ← command.getItem "command"
  let payload ← command.get "payload" (.obj [])
  try
    acknowledgeCommand commandId "received" none none
    dispatchCommand sha256Hex commandId commandType payload
  catch e =>
    acknowledgeCommand commandId "failed" none (some e.text)

/-- `for command in commands: self._execute_command(command)`. -/
def executeBatch : List Json → Agent Unit
  | [] => pure ()
  | command :: rest => do
    executeCommand sha256Hex command
    executeBatch rest

/-- What `poll_commands` iterates over when the reply is not a 204: the
`commands` of the decoded body. -/
def pollBatch (response : Response) : Except PyError (List Json) := do
  raiseForStatus response.statusCode
  let body ← response.json
  let commands ← body.get "commands" (.arr [])
  commands.iter

/-- `poll_commands`: a 204 reply carries no commands; any exception, also one
raised by a command of the batch, is logged and ends the poll. -/
def pollCommands : Agent Unit :=
  try
    let response ← call Env.http .pollCommands
    if response.statusCode = 204 then pure ()
    else executeBatch sha256Hex (← pollBatch response)
  catch _ => pure ()

end Execute

end FleetdAgent
