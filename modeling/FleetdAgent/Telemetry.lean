import FleetdAgent.Python
import Mathlib.Data.String.Basic

/-!
# The telemetry metrics

`send_telemetry` posts what `_get_telemetry_metrics()` returns: one metric per
psutil reading (CPU, memory and disk usage, the network counters) and, on a
Raspberry Pi, the CPU temperature that `vcgencmd measure_temp` prints.  The
metrics are appended one statement after another inside one
`try ... except Exception`, so a reading that raises ends the list there, and
the metrics gathered so far are still returned; the temperature has a
`try ... except: pass` of its own.

Whatever the readings do, the metrics are a prefix of the six kinds in their
fixed order, all with the one timestamp, and the five psutil metrics are all
there exactly when no psutil call raised.  On the output format of `vcgencmd`,
`temp=<t>'C`, the temperature is `float(t)`.  What `float()` makes of a string
is a parameter here.
-/

namespace FleetdAgent

/-- A metric of `_get_telemetry_metrics`: its `name`, `value`, `unit` and
`timestamp`. -/
structure Metric (α : Type) where
  name : String
  value : α
  unit : String
  timestamp : String

/-- What the calls of `_get_telemetry_metrics` return or raise. -/
structure MetricReadings (α : Type) where
  /-- `psutil.cpu_percent(interval=1)` -/
  cpuPercent : Except PyError α
  /-- `psutil.virtual_memory()`, read for its `percent` -/
  memoryPercent : Except PyError α
  /-- `psutil.disk_usage('/')`, read for its `percent` -/
  diskPercent : Except PyError α
  /-- `psutil.net_io_counters()`, read for its `bytes_recv` and `bytes_sent` -/
  netIo : Except PyError (α × α)
  /-- `subprocess.check_output(['vcgencmd', 'measure_temp'], universal_newlines=True)` -/
  measureTemp : Except PyError String

variable {α : Type} (toFloat : String → Except PyError α)

/-- The quote that ends the number `vcgencmd measure_temp` prints. -/
def tempQuote : Char := Char.ofNat 39

/-- `float(temp.split('=')[1].split("'")[0])`, where `float` is `toFloat`. -/
def parseMeasureTemp (temp : String) : Except PyError α :=
  match (temp.split (· == '=')).get? 1 with
  | none => .error ⟨"IndexError", "list index out of range"⟩
  | some rest => toFloat ((rest.split (· == tempQuote)).headD "")

/-- The statements of the `try` block of `_get_telemetry_metrics`, in order:
the metrics each appends, or what its reading raised.  The temperature's own
`except: pass` makes its statement append nothing when it fails. -/
def metricSteps (r : MetricReadings α) (timestamp : String) :
    List (Except PyError (List (Metric α))) :=
  [r.cpuPercent.map fun v => [⟨"cpu_usage", v, "percent", timestamp⟩],
    r.memoryPercent.map fun v => [⟨"memory_usage", v, "percent", timestamp⟩],
    r.diskPercent.map fun v => [⟨"disk_usage", v, "percent", timestamp⟩],
    r.netIo.map fun counters =>
      [⟨"network_rx", counters.1, "bytes", timestamp⟩, ⟨"network_tx", counters.2, "bytes", timestamp⟩],
    .ok (match r.measureTemp >>= parseMeasureTemp toFloat with
      | .ok v => [⟨"cpu_temperature", v, "celsius", timestamp⟩]
      | .error _ => [])]

/-- Statements that append, run until one raises; the `except` keeps what the
earlier ones appended. -/
def appendUntilRaise {β : Type} : List (Except PyError (List β)) → List β
  | [] => []
  | .error _ :: _ => []
  | .ok items :: rest => items ++ appendUntilRaise rest

/-- `_get_telemetry_metrics()`, with the timestamp it formats. -/
def getTelemetryMetrics (r : MetricReadings α) (timestamp : String) : List (Metric α) :=
  appendUntilRaise (metricSteps toFloat r timestamp)

/-- The kinds of metric, name and unit, in the order they are appended. -/
def telemetryKinds : List (String × String) :=
  [("cpu_usage", "percent"), ("memory_usage", "percent"), ("disk_usage", "percent"),
    ("network_rx", "bytes"), ("network_tx", "bytes"), ("cpu_temperature", "celsius")]

/-! ## The metrics, whatever the readings do -/

/-- Whatever psutil, `vcgencmd` and `float()` do, the metrics are a prefix of
the six kinds in their order, all with the one timestamp, and the five psutil
metrics are all there exactly when no psutil call raised. -/
theorem telemetry_metrics_prefix (r : MetricReadings α) (timestamp : String) :
    let metrics := getTelemetryMetrics toFloat r timestamp
    metrics.map (fun m => (m.name, m.unit)) <+: telemetryKinds ∧
      (∀ m ∈ metrics, m.timestamp = timestamp) ∧
      (5 ≤ metrics.length ↔ (r.cpuPercent.toBool && r.memoryPercent.toBool &&
        r.diskPercent.toBool && r.netIo.toBool) = true) := by
  obtain ⟨cpu, mem, disk, net, temp⟩ := r
  -- a reading that raises ends the list: split on the readings in order
  rcases cpu with _ | cpu; swap
  rcases mem with _ | mem; swap
  rcases disk with _ | disk; swap
  rcases net with _ | ⟨rx, tx⟩; swap
  rcases htemp : temp >>= parseMeasureTemp toFloat with _ | v
  all_goals simp [getTelemetryMetrics, metricSteps, appendUntilRaise, Except.map, Except.toBool,
    telemetryKinds, *]

/-! ## The temperature `vcgencmd` prints -/

/-- Splitting past a stretch with no separator in it prepends the stretch to
the first piece. -/
theorem splitOnP_append_of_forall_not {β : Type} {p : β → Bool} {xs : List β}
    (h : ∀ x ∈ xs, ¬p x) (ys : List β) :
    (xs ++ ys).splitOnP p = (ys.splitOnP p).modifyHead (xs ++ ·) := by
  induction xs with
  | nil =>
    rw [List.nil_append]
    cases ys.splitOnP p <;> rfl
  | cons x xs ih =>
    simp only [List.cons_append, List.splitOnP_cons, h x (List.mem_cons_self x xs), if_false,
      ih fun y hy => h y (List.mem_cons_of_mem x hy), List.modifyHead_modifyHead]
    rfl

theorem forall_not_beq_of_not_mem {c : Char} {s : String} (h : c ∉ s.toList) :
    ∀ x ∈ s.data, ¬(x == c) = true :=
  fun _ hx hxc => h (beq_iff_eq.1 hxc ▸ hx)

/-- On the output format of `vcgencmd measure_temp`, a label, `=`, the number,
a quote and the unit, the temperature is `float` of the number, whatever
follows the quote. -/
theorem measure_temp_reads_number (label t rest : String) (hlabel : '=' ∉ label.toList)
    (ht : '=' ∉ t.toList) (hquote : tempQuote ∉ t.toList) :
    parseMeasureTemp toFloat (label ++ "=" ++ t ++ String.singleton tempQuote ++ rest) = toFloat t := by
  obtain ⟨first, pieces, hrest⟩ : ∃ first pieces, rest.data.splitOnP (· == '=') = first :: pieces := by
    rcases h : rest.data.splitOnP (· == '=') with _ | ⟨first, pieces⟩
    · exact absurd h (List.splitOnP_ne_nil _ _)
    · exact ⟨first, pieces, rfl⟩
  have hdata : (label ++ "=" ++ t ++ String.singleton tempQuote ++ rest).data =
      label.data ++ '=' :: (t.data ++ tempQuote :: rest.data) := by
    simp [String.data_append]
  have hsplit : (label ++ "=" ++ t ++ String.singleton tempQuote ++ rest).split (· == '=') =
      [label, ⟨t.data ++ tempQuote :: first⟩] ++ pieces.map String.mk := by
    rw [String.split_of_valid, hdata,
      List.splitOnP_first _ _ (forall_not_beq_of_not_mem hlabel) '=' (by decide),
      splitOnP_append_of_forall_not (forall_not_beq_of_not_mem ht), List.splitOnP_cons,
      show (tempQuote == '=') = false by decide, hrest]
    rfl
  rw [parseMeasureTemp, hsplit]
  show toFloat ((String.split ⟨t.data ++ tempQuote :: first⟩ (· == tempQuote)).headD "") = toFloat t
  rw [String.split_of_valid,
    List.splitOnP_first _ _ (forall_not_beq_of_not_mem hquote) tempQuote (by decide)]
  rfl

theorem measure_temp_reads_number_pi :
    '=' ∉ "temp".toList ∧ '=' ∉ "48.3".toList ∧ tempQuote ∉ "48.3".toList ∧
      parseMeasureTemp (fun s => (.ok s : Except PyError String))
        ("temp" ++ "=" ++ "48.3" ++ String.singleton tempQuote ++ "C\n") = .ok "48.3" :=
  ⟨by decide, by decide, by decide,
    measure_temp_reads_number _ "temp" "48.3" "C\n" (by decide) (by decide) (by decide)⟩

end FleetdAgent
