import Amiquip.Model.WritePath

/-!
# The event loop

`event_loop::EventLoop`: one socket and its poller, the frame buffer, the context and the state.
An iteration of `main_loop` polls, handles each event in order and re-registers the socket when
the buffer went from empty to non-empty or back. What the environment decides is part of an
iteration: what the poll returns, and for each event what the stream answers to its writes, what
the frame buffer decodes, and which timer tags are due. The frame buffer's own state is the
environment's, so a read is given as the frames it decoded and how it ended. The loop also keeps
a history no code reads: every frame handed to `process`, in order.
-/

namespace Amiquip

/-- What `FrameBuffer::read_from` delivers to its callback and returns: the frames it decoded,
then the number of bytes read or the error that ended the read. -/
structure FrameRead where
  frames : List AMQPFrame
  result : Except ArcError Nat

/-- One event of `events.iter()`, with the environment's side of handling it. -/
inductive Event where
  /-- `STREAM`, with the answers to the writes when it is writable, and the read when it is
  readable. -/
  | stream (writable : Option (List Response)) (readable : Option FrameRead)
  /-- `HEARTBEAT`, with the tags `timer.poll()` yields until none is due. -/
  | heartbeat (due : List HeartbeatKind)
  /-- Any other token. -/
  | other (token : Nat)

/-- One pass of `main_loop`'s loop: what `poll.poll` returns, and what `poll.reregister`
returns if it is called. -/
structure Iteration where
  poll : Except IoError (List Event)
  reregister : Except IoError Unit

/-- The `io::Write` contract for every answer an event gives to a write. -/
def Event.Obeys : Event → Prop
  | .stream (some responses) _ => ∀ response ∈ responses, response.Obeys
  | _ => True

/-- Every event an iteration polls keeps the `io::Write` contract. -/
def Iteration.Obeys (iteration : Iteration) : Prop :=
  ∀ events, iteration.poll = .ok events → ∀ event ∈ events, event.Obeys

/-- `event_loop::EventLoop`, the poller as the stream's readiness and the frame buffer as the
environment's. -/
structure EventLoop where
  stream : Socket
  inner : Inner
  state : ConnectionState
  /-- History: every frame handed to `ConnectionState::process`, in order. -/
  dispatched : List AMQPFrame
  deriving DecidableEq

namespace EventLoop

variable (serializer : Serializer) (options : ConnectionOptions)

/-- `EventLoop::new` — a loop in `Start` whose socket is registered readable and writable, or
the I/O error of creating the poller or registering with it. -/
def new (registration : Except IoError Unit) : Except ArcError EventLoop :=
  match registration with
  | .error error => .error (.ofIo .io error)
  | .ok () => .ok ⟨⟨[], true⟩, Inner.new .default, .start, []⟩

/-- The callback of `Inner::read_from_stream` for one frame: channel-0 heartbeats are dropped,
every other frame goes to `process`. -/
def dispatch (loop : EventLoop) : AMQPFrame → EventLoop × Outcome
  | .heartbeat 0 => (loop, .ok)
  | frame =>
    let (state, inner, outcome) := loop.state.process serializer options loop.inner frame
    ({ loop with state, inner, dispatched := loop.dispatched ++ [frame] }, outcome)

/-- `FrameBuffer::read_from` calling the callback on each decoded frame until one fails. -/
def dispatchFrames (loop : EventLoop) : List AMQPFrame → EventLoop × Outcome
  | [] => (loop, .ok)
  | frame :: later =>
    match loop.dispatch serializer options frame with
    | (loop, .ok) => dispatchFrames loop later
    | stopped => stopped

/-- `Inner::read_from_stream` — dispatch the frames read, then record receive activity if any
byte was read. -/
def readFromStream (loop : EventLoop) (read : FrameRead) : EventLoop × Outcome :=
  match loop.dispatchFrames serializer options read.frames with
  | (loop, .ok) =>
    match read.result with
    | .ok n => (if n > 0 then { loop with inner := loop.inner.recordRxActivity } else loop, .ok)
    | .error error => (loop, .err error)
  | stopped => stopped

/-- `Inner::write_to_stream` on the loop's context, state and stream. -/
def writeToStream (loop : EventLoop) (responses : List Response) : Option (EventLoop × Outcome) :=
  (loop.inner.writeToStream loop.state loop.stream responses).map
    fun (inner, state, stream, outcome) => ({ loop with inner, state, stream }, outcome)

/-- `Inner::process_heartbeat_timers` on the loop's context. -/
def processHeartbeatTimers (loop : EventLoop) (due : List HeartbeatKind) : EventLoop × Outcome :=
  let (inner, outcome) := loop.inner.processHeartbeatTimers serializer due
  ({ loop with inner }, outcome)

/-- The timer path on the loop acts on its context only. -/
theorem processHeartbeatTimers_eq (loop : EventLoop) (due : List HeartbeatKind) :
    loop.processHeartbeatTimers serializer due =
      ({ loop with inner := (loop.inner.processHeartbeatTimers serializer due).1 },
        (loop.inner.processHeartbeatTimers serializer due).2) := rfl

/-- Handle one event: a writable stream is written (which consumes the writable event), then a
readable one read; the timer is drained; another token is `unreachable!()`. -/
def handleEvent (loop : EventLoop) : Event → Option (EventLoop × Outcome)
  | .stream writable readable =>
    let written :=
      match writable with
      | some responses =>
        { loop with stream := { loop.stream with writable := false } }.writeToStream responses
      | none => some (loop, .ok)
    written.map fun (loop, outcome) =>
      match outcome, readable with
      | .ok, some read => loop.readFromStream serializer options read
      | outcome, _ => (loop, outcome)
  | .heartbeat due => some (loop.processHeartbeatTimers serializer due)
  | .other _ => some (loop, .panic "internal error: entered unreachable code")

/-- Handle the events of one poll in order, stopping at the first that fails. -/
def handleEvents (loop : EventLoop) : List Event → Option (EventLoop × Outcome)
  | [] => some (loop, .ok)
  | event :: later =>
    (loop.handleEvent serializer options event).bind fun
      | (loop, .ok) => handleEvents loop later
      | stopped => some stopped

/-- `poll.reregister` of the stream, readable and, when `writable`, writable too. -/
def reregisterAs (loop : EventLoop) (writable : Bool) (result : Except IoError Unit) :
    EventLoop × Outcome :=
  match result with
  | .error error => (loop, .err (.ofIo .io error))
  | .ok () => ({ loop with stream := { loop.stream with writable } }, .ok)

/-- The re-registration at the end of an iteration: readable only when the buffer emptied,
readable and writable when it filled, nothing otherwise. -/
def reregister (loop : EventLoop) (hadData : Bool) (result : Except IoError Unit) :
    EventLoop × Outcome :=
  let haveData := loop.inner.hasDataToWrite
  if hadData && !haveData then loop.reregisterAs false result
  else if !hadData && haveData then loop.reregisterAs true result
  else (loop, .ok)

/-- One pass of `EventLoop::main_loop`. -/
def iterate (loop : EventLoop) (iteration : Iteration) : Option (EventLoop × Outcome) :=
  match iteration.poll with
  | .error error => some (loop, .err (.ofIo .io error))
  | .ok [] => some (loop, .fail .socketPollTimeout)
  | .ok events =>
    let hadData := loop.inner.hasDataToWrite
    (loop.handleEvents serializer options events).map fun
      | (loop, .ok) => loop.reregister hadData iteration.reregister
      | stopped => stopped

/-- `EventLoop::main_loop` over a sequence of passes: the loop and `Ok` while it still runs, or
the loop and how it stopped. -/
def mainLoop (loop : EventLoop) : List Iteration → Option (EventLoop × Outcome)
  | [] => some (loop, .ok)
  | iteration :: later =>
    (loop.iterate serializer options iteration).bind fun
      | (loop, .ok) => mainLoop loop later
      | stopped => some stopped

/-- `EventLoop::run`'s rewrite of how the main loop stopped: an error in `Secure` becomes
`InvalidCredentials` caused by it. -/
def run (loop : EventLoop) : Outcome → Outcome
  | .err error =>
    match loop.state with
    | .secure => .err (.chain .invalidCredentials error)
    | _ => .err error
  | outcome => outcome

/-- The loops reachable from `EventLoop::new` by passes of the main loop that do not stop it,
over a stream that keeps the `io::Write` contract. -/
inductive Reachable : EventLoop → Prop
  | new {registration : Except IoError Unit} {loop : EventLoop} :
      EventLoop.new registration = .ok loop → Reachable loop
  | iterate {loop after : EventLoop} {iteration : Iteration} :
      Reachable loop → iteration.Obeys →
        loop.iterate serializer options iteration = some (after, .ok) →
        Reachable after

end EventLoop

end Amiquip
