import Amiquip.Model.OutputBuffer
import Amiquip.Model.Heartbeats

/-!
# The shared context of the loop

`event_loop::Inner` — the output buffer, the two close requests and the heartbeat timers — with
the methods the read, write and timer paths share. The connection options enter through the
three methods the loop calls on them, which are not in the source and are taken as given
functions; they never change, so they are a parameter rather than a field. `set_server_close_req`
and `set_our_close_req` are one definition over the side they record: each pushes its frame and
records the buffer's length after the push, unless a request of that side is already recorded.
-/

namespace Amiquip

/-- The methods of `connection_options::ConnectionOptions` the handshake calls. -/
structure ConnectionOptions where
  /-- `make_start_ok` — the reply to the server's start, or why there is none. -/
  makeStartOk : Start → Except ArcError StartOk
  /-- `make_tune_ok` — the negotiated tuning, or why there is none. -/
  makeTuneOk : Tune → Except ArcError TuneOk
  /-- `make_open` — the virtual host to open. -/
  makeOpen : String

/-- `event_loop::CloseRequest` — a close and the offset in `outbuf` where the frame that
finishes the connection ends. -/
structure CloseRequest where
  close : Close
  pos : Nat
  deriving DecidableEq, Repr

/-- The two close requests: the close-ok owed to the server, or the client's own close. -/
inductive CloseSide where
  | server
  | client
  deriving DecidableEq, Repr

/-- `event_loop::Inner`, its options apart. -/
structure Inner where
  outbuf : OutputBuffer
  serverCloseReq : Option CloseRequest
  ourCloseReq : Option CloseRequest
  heartbeats : HeartbeatTimers
  deriving DecidableEq

namespace Inner

variable (serializer : Serializer)

/-- `Inner::new`. -/
def new (heartbeats : HeartbeatTimers) : Inner := ⟨.new, none, none, heartbeats⟩

/-- `Inner::has_data_to_write`. -/
def hasDataToWrite (inner : Inner) : Bool := !inner.outbuf.isEmpty

/-- The close request of one side. -/
def closeReq (inner : Inner) : CloseSide → Option CloseRequest
  | .server => inner.serverCloseReq
  | .client => inner.ourCloseReq

/-- Replace the close request of one side. -/
def setCloseReqOf (inner : Inner) (request : Option CloseRequest) : CloseSide → Inner
  | .server => { inner with serverCloseReq := request }
  | .client => { inner with ourCloseReq := request }

/-- Record a close request of one side: push `method` and remember where it ends, unless a
request of that side is already recorded (only the first is kept). -/
def setCloseReq (inner : Inner) (side : CloseSide) (method : AMQPMethod) (close : Close) :
    Except ArcError Inner :=
  if (inner.closeReq side).isSome then .ok inner
  else
    match inner.outbuf.pushMethod serializer 0 method with
    | .error error => .error error
    | .ok outbuf => .ok ({ inner with outbuf }.setCloseReqOf (some ⟨close, outbuf.len⟩) side)

/-- `Inner::set_server_close_req` — queue the close-ok owed for the server's close. -/
def setServerCloseReq (inner : Inner) (close : Close) : Except ArcError Inner :=
  inner.setCloseReq serializer .server .closeOk close

/-- `Inner::set_our_close_req` — queue the client's own close. -/
def setOurCloseReq (inner : Inner) (close : Close) : Except ArcError Inner :=
  inner.setCloseReq serializer .client (.close close) close

/-- `Inner::start_heartbeats` — start both timers when the negotiated interval is not zero. -/
def startHeartbeats (inner : Inner) (interval : UInt16) : Except String Inner :=
  if interval > 0 then
    (inner.heartbeats.start interval.toNat).map fun heartbeats => { inner with heartbeats }
  else .ok inner

/-- `Inner::push_method`. -/
def pushMethod (inner : Inner) (channel : UInt16) (method : AMQPMethod) : Except ArcError Inner :=
  (inner.outbuf.pushMethod serializer channel method).map fun outbuf => { inner with outbuf }

/-- `Inner::record_rx_activity`. -/
def recordRxActivity (inner : Inner) : Inner :=
  { inner with heartbeats := inner.heartbeats.recordRxActivity }

/-- `Inner::process_heartbeat_timers`, over the tags the timer yields until it has none due:
a missed server heartbeat ends the loop, and an expired transmit timer queues a heartbeat frame
unless data is already queued. -/
def processHeartbeatTimers (inner : Inner) : List HeartbeatKind → Inner × Outcome
  | [] => (inner, .ok)
  | .rx :: due =>
    match inner.heartbeats.fireRx with
    | .error message => (inner, .panic message)
    | .ok (.stillRunning, heartbeats) => processHeartbeatTimers { inner with heartbeats } due
    | .ok (.expired, heartbeats) => ({ inner with heartbeats }, .fail .missedServerHeartbeats)
  | .tx :: due =>
    match inner.heartbeats.fireTx with
    | .error message => (inner, .panic message)
    | .ok (.stillRunning, heartbeats) => processHeartbeatTimers { inner with heartbeats } due
    | .ok (.expired, heartbeats) =>
      let inner := { inner with heartbeats }
      processHeartbeatTimers
        (if inner.outbuf.isEmpty then { inner with outbuf := inner.outbuf.pushHeartbeat serializer }
          else inner) due

variable (inner : Inner) (side : CloseSide) (request : Option CloseRequest)

/-- The server's side of the close requests is `server_close_req`. -/
@[simp] theorem closeReq_server : inner.closeReq .server = inner.serverCloseReq := rfl

/-- The client's side of the close requests is `our_close_req`. -/
@[simp] theorem closeReq_client : inner.closeReq .client = inner.ourCloseReq := rfl

/-- Recording one side's close request leaves the other side's alone. -/
@[simp] theorem closeReq_setCloseReqOf (other : CloseSide) :
    (inner.setCloseReqOf request side).closeReq other =
      if side = other then request else inner.closeReq other := by
  cases side <;> cases other <;> rfl

/-- Recording a close request leaves the output buffer alone. -/
@[simp] theorem outbuf_setCloseReqOf :
    (inner.setCloseReqOf request side).outbuf = inner.outbuf := by
  cases side <;> rfl

/-- Recording a close request leaves the heartbeats alone. -/
@[simp] theorem heartbeats_setCloseReqOf :
    (inner.setCloseReqOf request side).heartbeats = inner.heartbeats := by
  cases side <;> rfl

/-- What recording a close request does: nothing when one is recorded, otherwise it pushes its
frame and records the end of it, or fails to serialize and changes nothing. -/
theorem setCloseReq_eq_ok {method : AMQPMethod} {close : Close} {after : Inner} :
    inner.setCloseReq serializer side method close = .ok after ↔
      ((inner.closeReq side).isSome ∧ after = inner) ∨
        ((inner.closeReq side) = none ∧ ∃ bytes, serializer.method 0 method = some bytes ∧
          after = { inner with outbuf := inner.outbuf.push (.method 0 method) bytes }.setCloseReqOf
            (some ⟨close, inner.outbuf.len + bytes.length⟩) side) := by
  unfold setCloseReq
  cases recorded : inner.closeReq side with
  | some request => simp [eq_comm]
  | none =>
    cases encoded : serializer.method 0 method <;>
      simp [OutputBuffer.pushMethod, encoded, eq_comm]

/-- Recording a close request fails only by failing to serialize, which changes nothing. -/
theorem setCloseReq_eq_error {method : AMQPMethod} {close : Close} {error : ArcError} :
    inner.setCloseReq serializer side method close = .error error →
      error = .ofKind .internalSerializationError := by
  unfold setCloseReq
  split
  · simp
  · split <;> simp_all [OutputBuffer.pushMethod_eq_error]

/-- A push succeeds exactly when the method serializes, and then appends its frame. -/
theorem pushMethod_eq_ok {channel : UInt16} {method : AMQPMethod} {after : Inner} :
    inner.pushMethod serializer channel method = .ok after ↔
      ∃ bytes, serializer.method channel method = some bytes ∧
        after = { inner with outbuf := inner.outbuf.push (.method channel method) bytes } := by
  cases encoded : serializer.method channel method <;>
    simp [pushMethod, OutputBuffer.pushMethod, encoded, Except.map, eq_comm]

/-- Starting the heartbeats for a positive interval is `HeartbeatTimers::start` and touches
nothing else; a zero interval changes nothing. -/
theorem startHeartbeats_eq_ok {interval : UInt16} {after : Inner}
    (started : inner.startHeartbeats interval = .ok after) :
    if 0 < interval then
      inner.heartbeats.start interval.toNat = .ok after.heartbeats ∧
        after = { inner with heartbeats := after.heartbeats }
    else after = inner := by
  unfold startHeartbeats at started
  split at started
  · rename_i positive
    cases begun : inner.heartbeats.start interval.toNat with
    | error message => simp [begun, Except.map] at started
    | ok heartbeats =>
      simp only [begun, Except.map, Except.ok.injEq] at started
      subst started
      simp [positive]
  · rename_i zero
    cases started
    simp [zero]

end Inner

end Amiquip
