import FleetdAgent.Python

/-!
# The agent's calls on the world

The command path of the agent talks to its collaborators through a fixed set
of calls: POSTs to the fleet server, subprocesses, the artifact download, the
local file system and the installer.  A run of that code is modelled as a
computation in `Agent`, which records every call as an `Event` together with
the answer it got, keeps the local files, and raises a `PyError` where the
Python code raises.

The answers come from an `Env`: for each kind of call a function from the
position of the call in the event log to its outcome.  Quantifying over every
`Env` quantifies over every behaviour of the collaborators, each call
independently.  Acknowledgements and update status reports read their answers
from one field of their own, `Env.report`, so that two runs differing only in
how the status-reporting endpoints behave are two environments differing in
that field; since the agent discards those answers, the log records these two
posts without them.
-/

namespace FleetdAgent

/-- Bytes of an artifact or of a file. -/
abbrev Bytes := List UInt8

/-- What a subprocess left when it ran to its end: the captured output and
the exit code. -/
structure Completed where
  stdout : String
  stderr : String
  returncode : Int
  deriving Repr, DecidableEq

/-- A reply of the fleet server: its status code and what `response.json()`
decodes from its body. -/
structure Response where
  statusCode : Nat
  json : Except PyError Json

/-- The update server's streamed reply to `requests.get(url, stream=True)`. -/
structure Download where
  statusCode : Nat
  /-- `int(r.headers.get('content-length', 0))`: an absent header reads as
  `0`, a header `int` rejects raises. -/
  totalSize : Except PyError Int
  /-- What `r.iter_content(chunk_size=8192)` yields. -/
  chunks : List Bytes
  /-- How the stream ends after those chunks. -/
  streamEnd : Except PyError Unit

/-- The body `_acknowledge_command` posts. -/
structure AckData where
  status : String
  result : Option Completed
  error : Option String

/-- The body `_report_update_status` posts. -/
structure StatusData where
  status : String
  progress : Option Int
  error : Option String

/-- One call of the agent on the world, with the answer it got.  The agent
discards every answer to an acknowledgement or a status report, so those two
are logged without it. -/
inductive Event where
  /-- `POST /api/v1/device/commands/{command_id}/ack` -/
  | ack (commandId : Json) (data : AckData)
  /-- `POST /api/v1/device/updates/{update_id}/status` -/
  | updateStatus (updateId : Json) (data : StatusData)
  /-- `subprocess.run(['sudo', 'reboot'], check=check)` -/
  | reboot (check : Bool) (answer : Except PyError Completed)
  /-- `subprocess.run(script, shell=True, capture_output=True, text=True, timeout=timeout)` -/
  | script (script timeout : Json) (answer : Except PyError Completed)
  /-- `subprocess.check_output(['journalctl', '--since', since, '--no-pager'])` -/
  | journal (since : Json) (answer : Except PyError Completed)
  /-- `POST /api/v1/device/logs` -/
  | uploadLogs (logs : String) (answer : Except PyError Response)
  /-- `os.makedirs(path, exist_ok=True)` -/
  | makeDirs (path : String) (answer : Except PyError Unit)
  /-- `requests.get(url, stream=True)` -/
  | download (url : Json) (answer : Except PyError Download)
  /-- `open(path, 'wb')` -/
  | openWrite (path : String) (answer : Except PyError Unit)
  /-- `f.write(chunk)` -/
  | write (path : String) (chunk : Bytes) (answer : Except PyError Unit)
  /-- `open(path, 'rb')` -/
  | openRead (path : String) (answer : Except PyError Unit)
  /-- `f.read(4096)`, which returned `block` -/
  | read (path : String) (block : Bytes) (answer : Except PyError Unit)
  /-- `_install_update(path)` -/
  | install (path : String) (answer : Except PyError Unit)
  /-- `GET /api/v1/device/commands` -/
  | pollCommands (answer : Except PyError Response)
  /-- `psutil.boot_time()`, which reads `/proc/stat` -/
  | bootTime (answer : Except PyError Unit)
  /-- `POST /api/v1/device/heartbeat` -/
  | heartbeat (answer : Except PyError Response)
  /-- `POST /api/v1/device/telemetry` -/
  | telemetry (answer : Except PyError Response)
  /-- `self.command_queue.put(item)` -/
  | queuePut (item : String)

/-- The collaborators' answers, each call by its position in the event log. -/
structure Env where
  /-- acknowledgements and update status reports -/
  report : Nat → Except PyError Response
  /-- every other request to the fleet server -/
  http : Nat → Except PyError Response
  /-- subprocesses -/
  proc : Nat → Except PyError Completed
  /-- the artifact download -/
  download : Nat → Except PyError Download
  /-- the local file system -/
  file : Nat → Except PyError Unit
  /-- the installer -/
  install : Nat → Except PyError Unit

/-- The agent's side of a run: the calls made so far and the local files. -/
structure World where
  events : List Event
  files : String → Option Bytes

namespace World

/-- Log one more event. -/
def record (w : World) (e : Event) : World := { w with events := w.events ++ [e] }

/-- Replace the contents of one file. -/
def setFile (w : World) (path : String) (contents : Bytes) : World :=
  { w with files := fun p => if p = path then some contents else w.files p }

@[simp] theorem record_events (w : World) (e : Event) : (w.record e).events = w.events ++ [e] := rfl

@[simp] theorem record_files (w : World) (e : Event) : (w.record e).files = w.files := rfl

@[simp] theorem setFile_events (w : World) (path : String) (contents : Bytes) :
    (w.setFile path contents).events = w.events := rfl

@[simp] theorem setFile_self (w : World) (path : String) (contents : Bytes) :
    (w.setFile path contents).files path = some contents := by simp [setFile]

end World

/-- A run of agent code: from the environment and the world before it, its
outcome (a value, or the exception it raises) and the world after it. -/
def Agent (α : Type) : Type := Env → World → Except PyError α × World

namespace Agent

/-- Sequencing: an exception skips the rest, keeping what was done. -/
protected def bind (x : Agent α) (f : α → Agent β) : Agent β := fun env w =>
  match x env w with
  | (.ok a, w') => f a env w'
  | (.error e, w') => (.error e, w')

/-- `try ... except Exception as e: ...`: the handler runs on the world the
failing code left. -/
protected def tryCatch (x : Agent α) (handler : PyError → Agent α) : Agent α := fun env w =>
  match x env w with
  | (.ok a, w') => (.ok a, w')
  | (.error e, w') => handler e env w'

instance : Monad Agent where
  pure a := fun _ w => (.ok a, w)
  bind := Agent.bind

instance : MonadExceptOf PyError Agent where
  throw e := fun _ w => (.error e, w)
  tryCatch := Agent.tryCatch

instance : MonadLift (Except PyError) Agent where
  monadLift x := fun _ w => (x, w)

@[simp] theorem bind_apply (x : Agent α) (f : α → Agent β) (env : Env) (w : World) :
    (x >>= f) env w = match x env w with
      | (.ok a, w') => f a env w'
      | (.error e, w') => (.error e, w') := rfl

@[simp] theorem pure_apply (a : α) (env : Env) (w : World) :
    (pure a : Agent α) env w = (.ok a, w) := rfl

@[simp] theorem throw_apply (e : PyError) (env : Env) (w : World) :
    (throw e : Agent α) env w = (.error e, w) := rfl

/-- `Agent` is a definition, so `ite_apply` does not see it as a function. -/
theorem ite_apply {c : Prop} [Decidable c] (x y : Agent α) (env : Env) (w : World) :
    (if c then x else y) env w = if c then x env w else y env w := by
  split <;> rfl

@[simp] theorem tryCatch_apply (x : Agent α) (handler : PyError → Agent α) (env : Env)
    (w : World) : (tryCatch x handler : Agent α) env w = match x env w with
      | (.ok a, w') => (.ok a, w')
      | (.error e, w') => handler e env w' := rfl

@[simp] theorem lift_apply (x : Except PyError α) (env : Env) (w : World) :
    (monadLift x : Agent α) env w = (x, w) := rfl

/-- `try: ... except Exception: pass` returns normally and keeps the world
its body left. -/
@[simp] theorem tryCatch_pass_apply (x : Agent Unit) (env : Env) (w : World) :
    (tryCatch x (fun _ => pure ()) : Agent Unit) env w = (.ok (), (x env w).2) := by
  simp only [tryCatch_apply]
  rcases x env w with ⟨_ | _, w'⟩ <;> rfl

/-- A post to a status-reporting endpoint, answered by `Env.report`. -/
def postReport (event : Event) : Agent Response :=
  fun env w => (env.report w.events.length, w.record event)

@[simp] theorem postReport_apply (event : Event) (env : Env) (w : World) :
    postReport event env w = (env.report w.events.length, w.record event) := rfl

/-- A call answered by the environment at the current position and logged
with its answer. -/
def call (ask : Env → Nat → Except PyError α) (event : Except PyError α → Event) : Agent α :=
  fun env w => (ask env w.events.length, w.record (event (ask env w.events.length)))

@[simp] theorem call_apply (ask : Env → Nat → Except PyError α)
    (event : Except PyError α → Event) (env : Env) (w : World) :
    call ask event env w = (ask env w.events.length, w.record (event (ask env w.events.length))) :=
  rfl

end Agent

open Agent

/-- `response.raise_for_status()`. -/
def raiseForStatus (statusCode : Nat) : Except PyError Unit :=
  if 400 ≤ statusCode ∧ statusCode < 500 then
    .error ⟨"HTTPError", toString statusCode ++ " Client Error"⟩
  else if 500 ≤ statusCode ∧ statusCode < 600 then
    .error ⟨"HTTPError", toString statusCode ++ " Server Error"⟩
  else .ok ()

/-- `_acknowledge_command`: post the status, and the result and error when
they are truthy; every failure of the post is logged and swallowed. -/
def acknowledgeCommand (commandId : Json) (status : String) (result : Option Completed)
    (error : Option String) : Agent Unit :=
  try
    let response ← postReport (.ack commandId ⟨status, result, error.filter (!·.isEmpty)⟩)
    raiseForStatus response.statusCode
  catch _ => pure ()

/-- `_report_update_status`: post the status, the progress when given and
the error when truthy; every failure of the post is logged and swallowed. -/
def reportUpdateStatus (updateId : Json) (status : String) (progress : Option Int)
    (error : Option String) : Agent Unit :=
  try
    let response ← postReport
      (.updateStatus updateId ⟨status, progress, error.filter (!·.isEmpty)⟩)
    raiseForStatus response.statusCode
  catch _ => pure ()

/-- An acknowledgement returns normally whatever the server does, and logs
exactly its post. -/
@[simp]
theorem acknowledgeCommand_apply (commandId : Json) (status : String)
    (result : Option Completed) (error : Option String) (env : Env) (w : World) :
    acknowledgeCommand commandId status result error env w =
      (.ok (), w.record (.ack commandId ⟨status, result, error.filter (!·.isEmpty)⟩)) := by
  simp only [acknowledgeCommand, tryCatch_pass_apply, bind_apply, postReport_apply]
  rcases env.report w.events.length with _ | r <;> rfl

/-- A status report returns normally whatever the server does, and logs
exactly its post. -/
@[simp]
theorem reportUpdateStatus_apply (updateId : Json) (status : String) (progress : Option Int)
    (error : Option String) (env : Env) (w : World) :
    reportUpdateStatus updateId status progress error env w =
      (.ok (), w.record (.updateStatus updateId ⟨status, progress, error.filter (!·.isEmpty)⟩)) := by
  simp only [reportUpdateStatus, tryCatch_pass_apply, bind_apply, postReport_apply]
  rcases env.report w.events.length with _ | r <;> rfl

end FleetdAgent
