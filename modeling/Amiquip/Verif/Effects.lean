import Amiquip.Verif.PushLog

/-!
# What each operation can do

One inversion lemma per operation of the loop, stated once and used by every invariant:
`ProcessStep` lists the branches of `ConnectionState::process` with everything each branch
needs and changes, and the timer path only ever appends heartbeat frames. Invariants of the
loop then go by cases on these, never by unfolding `process` again.
-/

namespace Amiquip.Effects

open ConnectionState

variable (serializer : Serializer) (options : ConnectionOptions)

/-- The context with one more channel-0 method frame queued. -/
def withFrame (inner : Inner) (method : AMQPMethod) (bytes : List UInt8) : Inner :=
  { inner with outbuf := inner.outbuf.push (.method 0 method) bytes }

section

variable (inner : Inner) (method : AMQPMethod) (bytes : List UInt8)

/-- Queuing a method frame pushes it onto the output buffer. -/
@[simp] theorem withFrame_outbuf :
    (withFrame inner method bytes).outbuf = inner.outbuf.push (.method 0 method) bytes := rfl

/-- Queuing a method frame leaves the server's close request alone. -/
@[simp] theorem withFrame_serverCloseReq :
    (withFrame inner method bytes).serverCloseReq = inner.serverCloseReq := rfl

/-- Queuing a method frame leaves the client's close request alone. -/
@[simp] theorem withFrame_ourCloseReq :
    (withFrame inner method bytes).ourCloseReq = inner.ourCloseReq := rfl

/-- Queuing a method frame leaves the heartbeats alone. -/
@[simp] theorem withFrame_heartbeats :
    (withFrame inner method bytes).heartbeats = inner.heartbeats := rfl

end

/-- The branches of `ConnectionState::process`. -/
inductive ProcessStep (state : ConnectionState) (inner : Inner) (frame : AMQPFrame) :
    ConnectionState × Inner × Outcome → Prop
  /-- An error with nothing changed: a frame the state does not accept, or a failed step. -/
  | rejected (error : ArcError) : ProcessStep state inner frame (state, inner, .err error)
  /-- Waiting for close-ok, another frame is dropped. -/
  | discarded (close : Close) : state = .closing close →
      ProcessStep state inner frame (state, inner, .ok)
  /-- The server's start answered with start-ok. -/
  | started (offer : Start) (startOk : StartOk) (bytes : List UInt8) : state = .start →
      frame = connectionFrame (.start offer) → options.makeStartOk offer = .ok startOk →
      serializer.method 0 (.startOk startOk) = some bytes →
      ProcessStep state inner frame (.secure, withFrame inner (.startOk startOk) bytes, .ok)
  /-- The server's tune, which the options refuse to negotiate. -/
  | tuneRefused (proposal : Tune) (error : ArcError) : (state = .secure ∨ state = .tune) →
      frame = connectionFrame (.tune proposal) → options.makeTuneOk proposal = .error error →
      ProcessStep state inner frame (.tune, inner, .err error)
  /-- The server's tune, negotiated, with the heartbeats already started: the assertion of
  `HeartbeatTimers::start` fails. -/
  | startFailed (proposal : Tune) (tuneOk : TuneOk) (message : String) :
      (state = .secure ∨ state = .tune) → frame = connectionFrame (.tune proposal) →
      options.makeTuneOk proposal = .ok tuneOk →
      inner.startHeartbeats tuneOk.heartbeat = .error message →
      ProcessStep state inner frame (.tune, inner, .panic message)
  /-- The server's tune, negotiated, with tune-ok failing to serialize. -/
  | tuneBegun (proposal : Tune) (tuneOk : TuneOk) (started : Inner) (error : ArcError) :
      (state = .secure ∨ state = .tune) → frame = connectionFrame (.tune proposal) →
      options.makeTuneOk proposal = .ok tuneOk →
      inner.startHeartbeats tuneOk.heartbeat = .ok started →
      ProcessStep state inner frame (.tune, started, .err error)
  /-- The server's tune, answered by tune-ok, with open failing to serialize. -/
  | tuneHalf (proposal : Tune) (tuneOk : TuneOk) (started : Inner) (bytes : List UInt8)
      (error : ArcError) : (state = .secure ∨ state = .tune) →
      frame = connectionFrame (.tune proposal) →
      options.makeTuneOk proposal = .ok tuneOk →
      inner.startHeartbeats tuneOk.heartbeat = .ok started →
      serializer.method 0 (.tuneOk tuneOk) = some bytes →
      ProcessStep state inner frame (.tune, withFrame started (.tuneOk tuneOk) bytes, .err error)
  /-- The server's tune, answered by tune-ok and open. -/
  | tuned (proposal : Tune) (tuneOk : TuneOk) (started : Inner) (bytes more : List UInt8) :
      (state = .secure ∨ state = .tune) → frame = connectionFrame (.tune proposal) →
      options.makeTuneOk proposal = .ok tuneOk →
      inner.startHeartbeats tuneOk.heartbeat = .ok started →
      serializer.method 0 (.tuneOk tuneOk) = some bytes →
      serializer.method 0 (.open' options.makeOpen) = some more →
      ProcessStep state inner frame (.open',
        withFrame (withFrame started (.tuneOk tuneOk) bytes) (.open' options.makeOpen) more, .ok)
  /-- The server's open-ok: the handshake is complete. -/
  | opened : state = .open' → frame = connectionFrame .openOk →
      ProcessStep state inner frame (.steady, inner, .ok)
  /-- The server's close, recorded by `set_server_close_req`. -/
  | serverClose (close : Close) (after : Inner) : (state = .open' ∨ state = .steady) →
      frame = connectionFrame (.close close) →
      inner.setServerCloseReq serializer close = .ok after →
      ProcessStep state inner frame (state, after, .ok)
  /-- Any other frame in `Steady`, answered by the client's own close. -/
  | clientClose (after : Inner) : state = .steady →
      (∀ close, frame ≠ connectionFrame (.close close)) →
      inner.setOurCloseReq serializer (unknownFrameClose frame) = .ok after →
      ProcessStep state inner frame (state, after, .ok)

/-- The `Tune` branch rejects every frame but a channel-0 tune. -/
theorem processTune_other {inner : Inner} {frame : AMQPFrame}
    (other : ∀ proposal, frame ≠ connectionFrame (.tune proposal)) :
    processTune serializer options inner frame =
      (.tune, inner, .fail (.handshakeWrongServerFrame "tune" frame)) := by
  unfold processTune
  split
  · exact absurd rfl (other _)
  · rfl

/-- The `Tune` branch on a tune frame, from `Secure` or `Tune`. -/
theorem processTune_step {state : ConnectionState} (inner : Inner) (proposal : Tune)
    (from' : state = .secure ∨ state = .tune) :
    ProcessStep serializer options state inner (connectionFrame (.tune proposal))
      (processTune serializer options inner (connectionFrame (.tune proposal))) := by
  simp only [processTune, connectionFrame]
  split
  · rename_i error refused
    exact .tuneRefused proposal error from' rfl refused
  · rename_i tuneOk negotiated
    split
    · rename_i message failed
      exact .startFailed proposal tuneOk message from' rfl negotiated failed
    · rename_i started begun
      split
      · exact .tuneBegun proposal tuneOk started _ from' rfl negotiated begun
      · rename_i half pushed
        obtain ⟨bytes, encoded, rfl⟩ := (Inner.pushMethod_eq_ok _ _).mp pushed
        split
        · exact .tuneHalf proposal tuneOk started bytes _ from' rfl negotiated begun encoded
        · rename_i whole pushedOpen
          obtain ⟨more, encodedOpen, rfl⟩ := (Inner.pushMethod_eq_ok _ _).mp pushedOpen
          exact .tuned proposal tuneOk started bytes more from' rfl negotiated begun encoded
            encodedOpen

/-- Every call of `process` is one of its branches. -/
theorem process_step (state : ConnectionState) (inner : Inner) (frame : AMQPFrame) :
    ProcessStep serializer options state inner frame
      (state.process serializer options inner frame) := by
  unfold process
  split
  case h_1 offer =>
    split
    · exact .rejected _
    · rename_i startOk made
      split
      · exact .rejected _
      · rename_i after pushed
        obtain ⟨bytes, encoded, rfl⟩ := (Inner.pushMethod_eq_ok _ _).mp pushed
        exact .started offer startOk bytes rfl rfl made encoded
  case h_4 proposal => exact processTune_step serializer options inner proposal (.inl rfl)
  case h_6 =>
    by_cases tune : ∃ proposal, frame = connectionFrame (.tune proposal)
    · obtain ⟨proposal, rfl⟩ := tune
      exact processTune_step serializer options inner proposal (.inr rfl)
    · rw [processTune_other serializer options (by simpa using tune)]
      exact .rejected _
  case h_7 => exact .opened rfl rfl
  case h_8 close =>
    split
    · exact .rejected _
    · rename_i after recorded
      exact .serverClose close after (.inl rfl) rfl recorded
  case h_11 => exact .discarded _ rfl
  case h_12 close =>
    split
    · exact .rejected _
    · rename_i after recorded
      exact .serverClose close after (.inr rfl) rfl recorded
  case h_13 notClose =>
    split
    · exact .rejected _
    · rename_i after recorded
      exact .clientClose after rfl (fun close same => notClose close same) recorded
  all_goals exact .rejected _

/-- Starting the heartbeats touches neither the buffer nor the close requests. -/
theorem startHeartbeats_frame {inner after : Inner} {interval : UInt16}
    (started : inner.startHeartbeats interval = .ok after) :
    after.outbuf = inner.outbuf ∧ after.serverCloseReq = inner.serverCloseReq ∧
      after.ourCloseReq = inner.ourCloseReq := by
  have := Inner.startHeartbeats_eq_ok inner started
  split at this
  · rw [this.2]; exact ⟨rfl, rfl, rfl⟩
  · rw [this]; exact ⟨rfl, rfl, rfl⟩

/-- Recording a close request appends at most its own frame. -/
theorem setCloseReq_appends {inner after : Inner} {side : CloseSide} {method : AMQPMethod}
    {close : Close} (recorded : inner.setCloseReq serializer side method close = .ok after) :
    after.outbuf.start = inner.outbuf.start ∧
      ∃ more, after.outbuf.frames = inner.outbuf.frames ++ more := by
  rcases (Inner.setCloseReq_eq_ok _ _ _).mp recorded with ⟨-, rfl⟩ | ⟨-, bytes, -, rfl⟩
  · exact ⟨rfl, [], by simp⟩
  · exact ⟨by simp, [(.method 0 method, bytes)], by simp⟩

/-- `process` only appends frames, never moves the front of the buffer, and never leaves
`Closing`. -/
theorem process_appends {state state' : ConnectionState} {inner after : Inner}
    {frame : AMQPFrame} {outcome : Outcome}
    (processed : state.process serializer options inner frame = (state', after, outcome)) :
    after.outbuf.start = inner.outbuf.start ∧
      (∃ more, after.outbuf.frames = inner.outbuf.frames ++ more) ∧
      (state.isClosing → state' = state) := by
  have step := process_step serializer options state inner frame
  rw [processed] at step
  cases step with
  | rejected | discarded => exact ⟨rfl, ⟨[], by simp⟩, fun _ => rfl⟩
  | started offer startOk bytes isStart =>
    exact ⟨by simp, ⟨[(.method 0 (.startOk startOk), bytes)], by simp⟩,
      by simp [isStart, isClosing]⟩
  | tuneRefused _ _ from' | startFailed _ _ _ from' =>
    exact ⟨rfl, ⟨[], by simp⟩, by rcases from' with rfl | rfl <;> simp [isClosing]⟩
  | tuneBegun proposal tuneOk started outcome from' _ _ begun =>
    obtain ⟨outbuf, -, -⟩ := startHeartbeats_frame begun
    exact ⟨by rw [outbuf], ⟨[], by simp [outbuf]⟩,
      by rcases from' with rfl | rfl <;> simp [isClosing]⟩
  | tuneHalf proposal tuneOk started bytes outcome from' _ _ begun =>
    obtain ⟨outbuf, -, -⟩ := startHeartbeats_frame begun
    exact ⟨by simp [outbuf], ⟨[(.method 0 (.tuneOk tuneOk), bytes)], by simp [outbuf]⟩,
      by rcases from' with rfl | rfl <;> simp [isClosing]⟩
  | tuned proposal tuneOk started bytes more from' _ _ begun =>
    obtain ⟨outbuf, -, -⟩ := startHeartbeats_frame begun
    exact ⟨by simp [outbuf], ⟨[(.method 0 (.tuneOk tuneOk), bytes),
      (.method 0 (.open' options.makeOpen), more)], by simp [outbuf]⟩,
      by rcases from' with rfl | rfl <;> simp [isClosing]⟩
  | opened isOpen => exact ⟨rfl, ⟨[], by simp⟩, by simp [isOpen, isClosing]⟩
  | serverClose close after from' _ recorded =>
    exact ⟨(setCloseReq_appends serializer recorded).1, (setCloseReq_appends serializer recorded).2,
      fun _ => rfl⟩
  | clientClose after isSteady _ recorded =>
    exact ⟨(setCloseReq_appends serializer recorded).1, (setCloseReq_appends serializer recorded).2,
      fun _ => rfl⟩

/-- `process` appends whole method frames only: each appended frame is a method frame, and none
is empty. -/
theorem process_pushes {state state' : ConnectionState} {inner after : Inner}
    {frame : AMQPFrame} {outcome : Outcome}
    (processed : state.process serializer options inner frame = (state', after, outcome)) :
    ∃ more, after.outbuf.frames = inner.outbuf.frames ++ more ∧
      ∀ entry ∈ more, (∃ channel method, entry.1 = .method channel method) ∧ entry.2 ≠ [] := by
  have step := process_step serializer options state inner frame
  rw [processed] at step
  have whole := serializer.method_ne_nil
  cases step with
  | rejected | discarded | tuneRefused | startFailed | opened => exact ⟨[], by simp, nofun⟩
  | started _ startOk bytes _ _ _ encoded =>
    exact ⟨[(.method 0 (.startOk startOk), bytes)], by simp, by simp [whole _ _ _ encoded]⟩
  | tuneBegun _ _ _ _ _ _ _ begun =>
    exact ⟨[], by simp [(startHeartbeats_frame begun).1], nofun⟩
  | tuneHalf _ tuneOk _ bytes _ _ _ _ begun encoded =>
    exact ⟨[(.method 0 (.tuneOk tuneOk), bytes)], by simp [(startHeartbeats_frame begun).1],
      by simp [whole _ _ _ encoded]⟩
  | tuned _ tuneOk _ bytes more _ _ _ begun encoded encodedOpen =>
    exact ⟨[(.method 0 (.tuneOk tuneOk), bytes), (.method 0 (.open' options.makeOpen), more)],
      by simp [(startHeartbeats_frame begun).1],
      by simp [whole _ _ _ encoded, whole _ _ _ encodedOpen]⟩
  | serverClose _ _ _ _ recorded =>
    rcases (Inner.setCloseReq_eq_ok _ _ _).mp recorded with ⟨-, rfl⟩ | ⟨-, bytes, encoded, rfl⟩
    · exact ⟨[], by simp, nofun⟩
    · exact ⟨[(.method 0 .closeOk, bytes)], by simp, by simp [whole _ _ _ encoded]⟩
  | clientClose _ _ _ recorded =>
    rcases (Inner.setCloseReq_eq_ok _ _ _).mp recorded with ⟨-, rfl⟩ | ⟨-, bytes, encoded, rfl⟩
    · exact ⟨[], by simp, nofun⟩
    · exact ⟨[(.method 0 (.close (unknownFrameClose frame)), bytes)], by simp,
        by simp [whole _ _ _ encoded]⟩

/-- `process` records our close at most once, its frame pushed last: the request stays as it
was, or was absent and now ends at the end of the close frame pushed. -/
theorem process_ourCloseReq {state state' : ConnectionState} {inner after : Inner}
    {frame : AMQPFrame} {outcome : Outcome}
    (processed : state.process serializer options inner frame = (state', after, outcome)) :
    after.ourCloseReq = inner.ourCloseReq ∨
      inner.ourCloseReq = none ∧ ∃ close bytes, bytes ≠ [] ∧
        after.outbuf.frames = inner.outbuf.frames ++ [(.method 0 (.close close), bytes)] ∧
        after.outbuf.start = inner.outbuf.start ∧
        after.ourCloseReq = some ⟨close, inner.outbuf.len + bytes.length⟩ := by
  have step := process_step serializer options state inner frame
  rw [processed] at step
  cases step with
  | rejected | discarded | tuneRefused | startFailed | opened | started => exact .inl rfl
  | tuneBegun _ _ _ _ _ _ _ begun | tuneHalf _ _ _ _ _ _ _ _ begun | tuned _ _ _ _ _ _ _ _ begun =>
    exact .inl (startHeartbeats_frame begun).2.2
  | serverClose _ _ _ _ recorded =>
    rcases (Inner.setCloseReq_eq_ok _ _ _).mp recorded with ⟨-, rfl⟩ | ⟨-, bytes, -, rfl⟩
    · exact .inl rfl
    · exact .inl rfl
  | clientClose _ _ _ recorded =>
    rcases (Inner.setCloseReq_eq_ok _ _ _).mp recorded with
      ⟨-, rfl⟩ | ⟨unrecorded, bytes, encoded, rfl⟩
    · exact .inl rfl
    · exact .inr ⟨by simpa using unrecorded, unknownFrameClose frame, bytes,
        serializer.method_ne_nil _ _ _ encoded, by simp, by simp, by simp [Inner.setCloseReqOf]⟩

/-- What the timer path does to the context: it keeps the front of the buffer and both close
requests, appends only heartbeat frames, keeps which heartbeats run and at which intervals, and
only adds timeouts. -/
structure TimersEffect (inner after : Inner) : Prop where
  start : after.outbuf.start = inner.outbuf.start
  serverCloseReq : after.serverCloseReq = inner.serverCloseReq
  ourCloseReq : after.ourCloseReq = inner.ourCloseReq
  frames : ∃ count, after.outbuf.frames =
    inner.outbuf.frames ++ List.replicate count (.heartbeat, serializer.heartbeat)
  intervals : ∀ kind, (after.heartbeats.get kind).map Heartbeat.interval =
    (inner.heartbeats.get kind).map Heartbeat.interval
  timer : ∃ added, after.heartbeats.timer.tags = inner.heartbeats.timer.tags ++ added

section

variable {serializer}

/-- A timer effect keeps the receiving heartbeat running or not. -/
theorem TimersEffect.rx {inner after : Inner} (effect : TimersEffect serializer inner after) :
    after.heartbeats.rx.isSome = inner.heartbeats.rx.isSome := by
  simpa only [Option.isSome_map'] using congrArg Option.isSome (effect.intervals .rx)

/-- A timer effect keeps the sending heartbeat running or not. -/
theorem TimersEffect.tx {inner after : Inner} (effect : TimersEffect serializer inner after) :
    after.heartbeats.tx.isSome = inner.heartbeats.tx.isSome := by
  simpa only [Option.isSome_map'] using congrArg Option.isSome (effect.intervals .tx)

end

/-- Doing nothing is a timer effect. -/
theorem TimersEffect.refl (inner : Inner) : TimersEffect serializer inner inner :=
  ⟨rfl, rfl, rfl, ⟨0, by simp⟩, fun _ => rfl, ⟨[], by simp⟩⟩

/-- Two timer effects in turn are one. -/
theorem TimersEffect.trans {inner middle after : Inner}
    (first : TimersEffect serializer inner middle)
    (second : TimersEffect serializer middle after) : TimersEffect serializer inner after := by
  obtain ⟨start₁, server₁, client₁, ⟨count₁, frames₁⟩, intervals₁, ⟨added₁, timer₁⟩⟩ := first
  obtain ⟨start₂, server₂, client₂, ⟨count₂, frames₂⟩, intervals₂, ⟨added₂, timer₂⟩⟩ := second
  exact ⟨start₂.trans start₁, server₂.trans server₁, client₂.trans client₁,
    ⟨count₁ + count₂, by rw [frames₂, frames₁, List.replicate_add, List.append_assoc]⟩,
    fun kind => (intervals₂ kind).trans (intervals₁ kind),
    ⟨added₁ ++ added₂, by rw [timer₂, timer₁, List.append_assoc]⟩⟩

/-- A firing is a timer effect. -/
theorem fire_timersEffect {inner : Inner} {kind : HeartbeatKind} {message : String}
    {state : HeartbeatState} {heartbeats : HeartbeatTimers}
    (fired : inner.heartbeats.fire kind message = .ok (state, heartbeats)) :
    TimersEffect serializer inner { inner with heartbeats } := by
  exact ⟨rfl, rfl, rfl, ⟨0, by simp⟩, HeartbeatTimers.fire_interval _ fired,
    (HeartbeatTimers.fire_spec _ fired).2⟩

/-- A heartbeat frame pushed onto an empty buffer, or nothing, is a timer effect. -/
theorem pushHeartbeat_timersEffect (inner : Inner) :
    TimersEffect serializer inner
      (if inner.outbuf.isEmpty then { inner with outbuf := inner.outbuf.pushHeartbeat serializer }
        else inner) := by
  split
  · exact ⟨rfl, rfl, rfl, ⟨1, by simp [OutputBuffer.pushHeartbeat]⟩, fun _ => rfl, ⟨[], by simp⟩⟩
  · exact TimersEffect.refl serializer inner

/-- The timer path, over every sequence of due tags, is a timer effect. -/
theorem processHeartbeatTimers_effect (inner : Inner) (due : List HeartbeatKind) :
    TimersEffect serializer inner (inner.processHeartbeatTimers serializer due).1 := by
  induction due generalizing inner with
  | nil => exact TimersEffect.refl serializer inner
  | cons kind due ih =>
    cases kind with
    | rx =>
      simp only [Inner.processHeartbeatTimers]
      split
      · exact TimersEffect.refl serializer inner
      · rename_i heartbeats fired
        exact (fire_timersEffect serializer fired).trans serializer (ih _)
      · rename_i heartbeats fired
        exact fire_timersEffect serializer fired
    | tx =>
      simp only [Inner.processHeartbeatTimers]
      split
      · exact TimersEffect.refl serializer inner
      · rename_i heartbeats fired
        exact (fire_timersEffect serializer fired).trans serializer (ih _)
      · rename_i heartbeats fired
        exact ((fire_timersEffect serializer fired).trans serializer
          (pushHeartbeat_timersEffect serializer _)).trans serializer (ih _)

end Amiquip.Effects
