import Amiquip.Model.Protocol
import Amiquip.Model.Errors
import Amiquip.Model.OutputBuffer
import Amiquip.Model.Heartbeats
import Amiquip.Model.Inner
import Amiquip.Model.ConnectionState
import Amiquip.Model.WritePath
import Amiquip.Model.EventLoop
import Amiquip.Verif.WriteLoop
import Amiquip.Verif.PushLog
import Amiquip.Verif.Effects
import Amiquip.Verif.Runs
import Amiquip.Verif.Wire
import Amiquip.Verif.CloseRequests
import Amiquip.Verif.Handshake
import Amiquip.Verif.Readiness
import Amiquip.Verif.Timers
import Amiquip.Verif.Panics
import Amiquip.Verif.Shutdown
import Amiquip.Verif.Watchdog
import Amiquip.Verif.Keepalive
import Amiquip.Verif.OurClose
import Amiquip.Verif.Backlog
import Amiquip.Verif.Failures
