import FleetdAgent.Command

/-!
# Reading the event log

What the agent did on the command path is read off its event log in parts:
the statuses it acknowledged, the update statuses it reported and their
progress values, the bytes it wrote to and read back from the update file,
and the actions it took on the device.  Each is a projection of the event
log, defined here with the lemmas that push it through `++` and a single
event.
-/

namespace FleetdAgent

namespace Event

/-- The command id and status an acknowledgement posted. -/
def ack? : Event → Option (Json × String)
  | ack commandId data => some (commandId, data.status)
  | _ => none

/-- The body of an update status report. -/
def report? : Event → Option StatusData
  | updateStatus _ data => some data
  | _ => none

/-- The chunk a successful write appended to `path`. -/
def written? (path : String) : Event → Option Bytes
  | write p chunk (.ok ()) => if p = path then some chunk else none
  | _ => none

/-- The block a successful read returned from `path`. -/
def readBack? (path : String) : Event → Option Bytes
  | read p block (.ok ()) => if p = path then some block else none
  | _ => none

/-- The calls that act on the device or on what it holds: subprocesses, the
download, the file operations, the installer and the log upload.  Posts to
the fleet server, the queue and the boot-time reading are not among them. -/
def IsDeviceAction : Event → Bool
  | ack .. | updateStatus .. | pollCommands _ | bootTime _ | heartbeat _ | telemetry _ | queuePut _ =>
    false
  | _ => true

/-- The steps the checksum gate must precede: the installer, the update's
reboot, the `installing` and `completed` reports and the `completed`
acknowledgement. -/
def Gated : Event → Prop
  | install .. | reboot false _ => True
  | updateStatus _ data => data.status = "installing" ∨ data.status = "completed"
  | ack _ data => data.status = "completed"
  | _ => False

end Event

/-- The statuses acknowledged in a log. -/
def ackStatuses (es : List Event) : List String := es.filterMap fun e => e.ack?.map (·.2)

/-- The update status reports in a log. -/
def reports (es : List Event) : List StatusData := es.filterMap Event.report?

/-- The progress values the update status reports of a log carry. -/
def progressValues (es : List Event) : List Int := (reports es).filterMap (·.progress)

/-- The bytes a log wrote to `path`, in order. -/
def writtenTo (path : String) (es : List Event) : Bytes := (es.filterMap (Event.written? path)).flatten

/-- The bytes a log read back from `path`, in order. -/
def readFrom (path : String) (es : List Event) : Bytes := (es.filterMap (Event.readBack? path)).flatten

/-- The device-side actions of a log, in order. -/
def deviceActions (es : List Event) : List Event := es.filter Event.IsDeviceAction

@[simp] theorem ackStatuses_nil : ackStatuses [] = [] := rfl
@[simp] theorem ackStatuses_append (es fs : List Event) :
    ackStatuses (es ++ fs) = ackStatuses es ++ ackStatuses fs := by simp [ackStatuses]
@[simp] theorem ackStatuses_cons (e : Event) (es : List Event) :
    ackStatuses (e :: es) = (e.ack?.map (·.2)).toList ++ ackStatuses es := by
  cases h : e.ack? <;> simp [ackStatuses, h]

@[simp] theorem reports_nil : reports [] = [] := rfl
@[simp] theorem reports_append (es fs : List Event) :
    reports (es ++ fs) = reports es ++ reports fs := by simp [reports]
@[simp] theorem reports_cons (e : Event) (es : List Event) :
    reports (e :: es) = e.report?.toList ++ reports es := by
  cases h : e.report? <;> simp [reports, h]

@[simp] theorem progressValues_nil : progressValues [] = [] := rfl
@[simp] theorem progressValues_cons (e : Event) (es : List Event) :
    progressValues (e :: es) = (e.report?.bind (·.progress)).toList ++ progressValues es := by
  cases h : e.report? with
  | none => simp [progressValues, h]
  | some data => cases hp : data.progress <;> simp [progressValues, h, hp]

@[simp] theorem progressValues_append (es fs : List Event) :
    progressValues (es ++ fs) = progressValues es ++ progressValues fs := by
  simp [progressValues]

@[simp] theorem writtenTo_nil (path : String) : writtenTo path [] = [] := rfl
@[simp] theorem writtenTo_append (path : String) (es fs : List Event) :
    writtenTo path (es ++ fs) = writtenTo path es ++ writtenTo path fs := by simp [writtenTo]
@[simp] theorem writtenTo_cons (path : String) (e : Event) (es : List Event) :
    writtenTo path (e :: es) = ((e.written? path).getD []) ++ writtenTo path es := by
  cases h : e.written? path <;> simp [writtenTo, h]

@[simp] theorem readFrom_nil (path : String) : readFrom path [] = [] := rfl
@[simp] theorem readFrom_append (path : String) (es fs : List Event) :
    readFrom path (es ++ fs) = readFrom path es ++ readFrom path fs := by simp [readFrom]
@[simp] theorem readFrom_cons (path : String) (e : Event) (es : List Event) :
    readFrom path (e :: es) = ((e.readBack? path).getD []) ++ readFrom path es := by
  cases h : e.readBack? path <;> simp [readFrom, h]

end FleetdAgent
