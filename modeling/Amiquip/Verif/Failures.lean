import Amiquip.Verif.Watchdog

/-!
# Where the loop's errors come from

`errors.rs` names eighteen kinds of error, and the event loop raises only some of them itself:
a poll that times out, a failed serialization, a secure challenge, a frame out of place in the
handshake, a missed server heartbeat, and the two closes. Every other error it stops with is
handed to it: an I/O error of the poller or the stream, the failure of a read of the frame
buffer, or the connection options refusing the server's start or tune. Over every run, from any
loop, every error the main loop stops with has one of these sources, and a read's failure is
that of the event the run stopped at. In particular the loop never raises
`UnexpectedSocketClose`, `ReceivedMalformed`, `FrameMaxTooSmall`, the authentication and locale
kinds or `InvalidCredentials` itself: the first come from the frame buffer or the options, and
the last only from `EventLoop::run`'s rewrite.
-/

namespace Amiquip

/-- The kinds of error the event loop raises itself. -/
def ErrorKind.raisedByLoop : ErrorKind → Bool
  | .socketPollTimeout | .internalSerializationError | .saslSecureNotSupported
  | .handshakeWrongServerFrame _ _ | .missedServerHeartbeats | .serverClosedConnection _ _
  | .clientClosedConnection _ _ => true
  | _ => false

/-- Where an error the loop stops with may come from other than a read of the frame buffer,
given the frames it handed to `process`: an I/O error of the poller or the stream, a kind the
loop raises itself, or the options' answer to a start or a tune received. -/
inductive ErrorSource (options : ConnectionOptions) (dispatched : List AMQPFrame) :
    ArcError → Prop
  | io (error : IoError) : ErrorSource options dispatched (.ofIo .io error)
  | raised {kind : ErrorKind} : kind.raisedByLoop → ErrorSource options dispatched (.ofKind kind)
  | startOk {error : ArcError} {offer : Start} : connectionFrame (.start offer) ∈ dispatched →
      options.makeStartOk offer = .error error → ErrorSource options dispatched error
  | tuneOk {error : ArcError} {proposal : Tune} : connectionFrame (.tune proposal) ∈ dispatched →
      options.makeTuneOk proposal = .error error → ErrorSource options dispatched error

/-- A failed serialization is raised by the loop. -/
theorem ErrorSource.ofSerialization {options : ConnectionOptions} {dispatched : List AMQPFrame}
    {error : ArcError} (serialized : error = .ofKind .internalSerializationError) :
    ErrorSource options dispatched error := by
  subst serialized
  exact .raised rfl

/-- A source among fewer frames handed to `process` is one among more. -/
theorem ErrorSource.mono {options : ConnectionOptions} {dispatched longer : List AMQPFrame}
    {error : ArcError} (source : ErrorSource options dispatched error)
    (handed : dispatched ⊆ longer) : ErrorSource options longer error := by
  cases source with
  | io => exact .io _
  | raised raised => exact .raised raised
  | startOk received refused => exact .startOk (handed received) refused
  | tuneOk received refused => exact .tuneOk (handed received) refused

end Amiquip

namespace Amiquip.Failures

open EventLoop Runs Effects WriteLoop

variable {serializer : Serializer} {options : ConnectionOptions}

/-! ## One frame -/

/-- A push fails only by failing to serialize. -/
theorem pushMethod_error {inner : Inner} {channel : UInt16} {method : AMQPMethod}
    {error : ArcError} (failed : inner.pushMethod serializer channel method = .error error) :
    error = .ofKind .internalSerializationError := by
  cases encoded : serializer.method channel method <;>
    simp_all [Inner.pushMethod, OutputBuffer.pushMethod, Except.map]

/-- The `Tune` branch fails with the options' refusal of the tune, a failed serialization or
the wrong frame. -/
theorem processTune_error {inner : Inner} {frame : AMQPFrame} {error : ArcError}
    (failed : (ConnectionState.processTune serializer options inner frame).2.2 = .err error) :
    ErrorSource options [frame] error := by
  unfold ConnectionState.processTune at failed
  split at failed
  · -- the tune: refused by the options, or tune-ok or open failing to serialize
    repeat' split at failed
    all_goals simp only [Outcome.err.injEq, reduceCtorEq] at failed
    all_goals subst failed
    all_goals first
      | exact .tuneOk (List.mem_singleton_self _) ‹_›
      | exact .ofSerialization (pushMethod_error ‹_›)
  · cases failed
    exact .raised rfl

/-- `process` fails with a kind it raises itself, a failed serialization, or the options'
refusal of the start or tune it handles. -/
theorem process_error {state : ConnectionState} {inner : Inner} {frame : AMQPFrame}
    {error : ArcError} (failed : (state.process serializer options inner frame).2.2 = .err error) :
    ErrorSource options [frame] error := by
  unfold ConnectionState.process at failed
  split at failed
  all_goals try (repeat' split at failed)
  all_goals try simp only [Outcome.fail, Outcome.err.injEq, reduceCtorEq] at failed
  -- each failing arm: the `Tune` branch, a kind raised here, the options' refusal of the start,
  -- or a push or close request failing to serialize
  all_goals first
    | exact processTune_error failed
    | subst failed
      first
        | exact .raised rfl
        | exact .startOk (List.mem_singleton_self _) ‹_›
        | exact .ofSerialization (pushMethod_error ‹_›)
        | exact .ofSerialization (Inner.setCloseReq_eq_error _ _ _ ‹_›)

/-- A frame stops the loop with an error only as `process` does on it, which puts the frame in
the history. -/
theorem dispatch_error {loop : EventLoop} {frame : AMQPFrame} {error : ArcError}
    (failed : (loop.dispatch serializer options frame).2 = .err error) :
    ErrorSource options (loop.dispatch serializer options frame).1.dispatched error := by
  by_cases heartbeat : frame = .heartbeat 0
  · subst heartbeat
    cases failed
  have source := @process_error serializer options loop.state loop.inner frame error
  rw [dispatch_eq heartbeat] at failed ⊢
  generalize loop.state.process serializer options loop.inner frame = result at source failed ⊢
  obtain ⟨state, inner, outcome⟩ := result
  exact (source failed).mono (by simp)

/-! ## One event -/

/-- Frames handed to `process` in turn stop the loop with an error only as `process` does on one
of them. -/
theorem dispatchFrames_error (frames : List AMQPFrame) :
    ∀ {loop : EventLoop} {error : ArcError},
      (loop.dispatchFrames serializer options frames).2 = .err error →
        ErrorSource options (loop.dispatchFrames serializer options frames).1.dispatched error := by
  induction frames with
  | nil => exact fun failed => nomatch failed
  | cons frame frames ih =>
    intro loop error failed
    have source := @dispatch_error serializer options loop frame error
    simp only [EventLoop.dispatchFrames] at failed ⊢
    generalize loop.dispatch serializer options frame = dispatched at source failed ⊢
    obtain ⟨middle, outcome⟩ := dispatched
    cases outcome with
    | ok => exact ih failed
    | err _ | panic _ => exact source failed

/-- A read fails with the error of a frame it hands to `process`, or with the frame buffer's. -/
theorem readFromStream_error {loop : EventLoop} {read : FrameRead} {error : ArcError}
    (failed : (loop.readFromStream serializer options read).2 = .err error) :
    ErrorSource options (loop.readFromStream serializer options read).1.dispatched error ∨
      read.result = .error error := by
  have source := @dispatchFrames_error serializer options read.frames loop error
  unfold EventLoop.readFromStream at failed ⊢
  generalize loop.dispatchFrames serializer options read.frames = dispatched at source failed ⊢
  obtain ⟨middle, outcome⟩ := dispatched
  cases outcome with
  | ok =>
    cases result : read.result with
    | ok n => simp [result] at failed
    | error error' =>
      simp only [result, Outcome.err.injEq] at failed
      exact .inr (failed ▸ rfl)
  | err _ | panic _ => exact .inl (source failed)

/-- A write fails with an I/O error of the stream, or ends the loop on the server's close. -/
theorem write_error {loop after : EventLoop} {responses : List Response} {error : ArcError}
    (obeys : ∀ response ∈ responses, response.Obeys)
    (written : loop.writeToStream responses = some (after, .err error))
    (dispatched : List AMQPFrame) : ErrorSource options dispatched error := by
  obtain ⟨⟨inner, state, stream, outcome⟩, call, same⟩ := Option.map_eq_some'.mp written
  simp only [Prod.mk.injEq] at same
  obtain ⟨-, rfl⟩ := same
  cases writeToStream_step obeys call with
  | failed _ _ ioError => exact .io ioError
  | serverClosed => exact .raised rfl

/-- The timer path fails only on a missed server heartbeat. -/
theorem processHeartbeatTimers_error (inner : Inner) (due : List HeartbeatKind)
    {error : ArcError} (failed : (inner.processHeartbeatTimers serializer due).2 = .err error) :
    error = .ofKind .missedServerHeartbeats := by
  induction due generalizing inner with
  | nil => cases failed
  | cons kind due ih =>
    -- the arms of each firing: the `expect` fails, `StillRunning`, `Expired`
    cases kind <;> simp only [Inner.processHeartbeatTimers] at failed <;> split at failed
    case rx.h_1 | tx.h_1 => cases failed
    case rx.h_2 | tx.h_2 | tx.h_3 => exact ih _ failed
    case rx.h_3 =>
      cases failed
      rfl

/-- An event fails with an I/O error of its write, the server's close, a missed heartbeat or the
error of a frame it hands to `process`, or its read fails with the error. -/
theorem handleEvent_error {loop after : EventLoop} {event : Event} {error : ArcError}
    (obeys : event.Obeys)
    (handled : loop.handleEvent serializer options event = some (after, .err error)) :
    ErrorSource options after.dispatched error ∨ event.ReadFails error := by
  cases event with
  | stream writable readable =>
    rw [handleEvent_stream] at handled
    obtain ⟨⟨written, outcome⟩, wrote, finished⟩ := Option.map_eq_some'.mp handled
    cases outcome with
    | ok =>
      cases readable with
      | none => cases finished
      | some read =>
        simp only at finished
        rcases readFromStream_error (congrArg Prod.snd finished) with source | fails
        · rw [finished] at source
          exact .inl source
        · exact .inr fails
    | err _ =>
      cases finished
      cases writable with
      | none => cases wrote
      | some responses =>
        exact .inl (write_error obeys ((handleEvent_write _ _).symm.trans wrote) _)
    | panic _ => cases finished
  | heartbeat due =>
    simp only [EventLoop.handleEvent, processHeartbeatTimers_eq, Option.some.injEq,
      Prod.mk.injEq] at handled
    obtain ⟨-, failed⟩ := handled
    exact .inl (processHeartbeatTimers_error loop.inner due failed ▸ .raised rfl)
  | other _ => cases handled

/-! ## Over every run -/

/-- A re-registration fails only with an I/O error. -/
theorem reregister_error {loop after : EventLoop} {hadData : Bool} {result : Except IoError Unit}
    {error : ArcError} (registered : loop.reregister hadData result = (after, .err error))
    (dispatched : List AMQPFrame) : ErrorSource options dispatched error := by
  rcases reregister_eq loop hadData result with ⟨writable, called⟩ | skipped
  · rw [called] at registered
    cases result with
    | error ioError =>
      cases registered
      exact .io ioError
    | ok => cases registered
  · rw [skipped] at registered
    cases registered

/-- Every error the main loop stops with, from any loop and over any run on a stream that keeps
the `io::Write` contract, is an I/O error of the poller or the stream, a kind the loop raises
itself, or the options' refusal of a start or a tune the loop received, or else the failure of
the read of the event the run stopped at. -/
theorem main_loop_error_sources {loop after : EventLoop} {iterations : List Iteration}
    {error : ArcError} (obeys : ∀ iteration ∈ iterations, iteration.Obeys)
    (stopped : loop.mainLoop serializer options iterations = some (after, .err error)) :
    ErrorSource options after.dispatched error ∨
      ∃ earlier reached event,
        StopsAt serializer options loop iterations (after, .err error) earlier reached
          (some event) ∧ event.ReadFails error := by
  obtain ⟨earlier, reached, stopping, stops⟩ := mainLoop_stops iterations stopped nofun
  obtain ⟨done, iteration, later, middle, handled, split, -, passStops, -⟩ := id stops
  cases passStops with
  | pollFailed _ same =>
    cases same
    exact .inl (.io _)
  | timedOut _ same =>
    cases same
    exact .inl (.raised rfl)
  | @event _ _ event _ polled _ once _ =>
    have member : iteration ∈ iterations := by simp [split]
    rcases handleEvent_error (obeys iteration member _ polled event (by simp)) once with
      source | fails
    · exact .inl source
    · exact .inr ⟨_, _, event, stops, fails⟩
  | reregister _ _ _ registered _ => exact .inl (reregister_error registered _)

/-- The server drops the connection while the client waits for its tune: the frame buffer's
read fails. -/
def dropped : List Iteration :=
  handshake.take 1 ++ [pass [.stream none (some ⟨[], .error (.ofKind .unexpectedSocketClose)⟩)]]

/-- That error is the read's: the loop never raises `UnexpectedSocketClose` itself. -/
theorem main_loop_error_sources_dropped :
    ErrorSource exampleOptions (runFromStart dropped).dispatched (.ofKind .unexpectedSocketClose) ∨
      ∃ earlier reached event,
        StopsAt exampleSerializer exampleOptions started dropped
          (runFromStart dropped, .err (.ofKind .unexpectedSocketClose)) earlier reached
          (some event) ∧ event.ReadFails (.ofKind .unexpectedSocketClose) :=
  main_loop_error_sources (show ∀ iteration ∈ dropped, iteration.Obeys by
      simp [dropped, handshake, Event.Obeys, exchange, acceptsAll_obeys])
    (show started.mainLoop exampleSerializer exampleOptions dropped =
      some (runFromStart dropped, .err (.ofKind .unexpectedSocketClose)) from rfl)

end Amiquip.Failures
