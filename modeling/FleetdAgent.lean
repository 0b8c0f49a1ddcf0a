import FleetdAgent.Python
import FleetdAgent.Agent
import FleetdAgent.FloatProgress
import FleetdAgent.Update
import FleetdAgent.Command
import FleetdAgent.Trace
import FleetdAgent.UpdateRun
import FleetdAgent.UpdateJob
import FleetdAgent.Executor
import FleetdAgent.Poll
import FleetdAgent.ReportBlind
import FleetdAgent.Startup
import FleetdAgent.Duties
import FleetdAgent.Threads
import FleetdAgent.HardwareId
import FleetdAgent.SharedLog
import FleetdAgent.Credentials
import FleetdAgent.Telemetry
