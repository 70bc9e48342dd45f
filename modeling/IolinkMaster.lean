import IolinkMaster.Acceptance
import IolinkMaster.Accounting
import IolinkMaster.Acknowledge
import IolinkMaster.Agreement
import IolinkMaster.ClockShift
import IolinkMaster.Codec
import IolinkMaster.Coherence
import IolinkMaster.Comlost
import IolinkMaster.Collection
import IolinkMaster.Conclusion
import IolinkMaster.Controller
import IolinkMaster.CycleStats
import IolinkMaster.DataStorage
import IolinkMaster.Deadline
import IolinkMaster.Establish
import IolinkMaster.EventDetails
import IolinkMaster.EventFlag
import IolinkMaster.EventMemory
import IolinkMaster.Framing
import IolinkMaster.Gateway
import IolinkMaster.Identity
import IolinkMaster.Inspection
import IolinkMaster.Layout
import IolinkMaster.Library.Clock
import IolinkMaster.Library.Loop
import IolinkMaster.Library.Numeral
import IolinkMaster.Library.Rounds
import IolinkMaster.Library.Trace
import IolinkMaster.LinkQuality
import IolinkMaster.NextTick
import IolinkMaster.Pacing
import IolinkMaster.Payload
import IolinkMaster.Polling
import IolinkMaster.PortPaths
import IolinkMaster.PowerOn
import IolinkMaster.ProcessData
import IolinkMaster.Reconnection
import IolinkMaster.Rejection
import IolinkMaster.Release
import IolinkMaster.RemoteEvents
import IolinkMaster.Replies
import IolinkMaster.Rest
import IolinkMaster.Retention
import IolinkMaster.Retiming
import IolinkMaster.Routing
import IolinkMaster.Segmentation
import IolinkMaster.Selection
import IolinkMaster.Undisturbed
import IolinkMaster.Verdict
import IolinkMaster.WakeRetry
import IolinkMaster.Watchdog
import IolinkMaster.Wraparound
import IolinkMaster.WriteLength
import IolinkMaster.Writes
