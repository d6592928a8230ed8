import Amiquip.Verif.CloseRequests

/-!
# The handshake

`ConnectionState` only moves forward along `Start`, `Secure`, `Tune`, `Open`, `Steady`,
`Closing`: `process` takes it one step along the handshake on the channel-0 method each step
expects and never into `Closing`, which only a write that sends our close enters, from `Steady`.
The connection methods the client queues follow the handshake: start-ok in answer to the
server's start, tune-ok and open in answer to its tune, then close-ok and close. Before `Steady`
a frame the state does not expect fails the loop. `Secure` is exactly the state after start-ok
was queued and before a channel-0 tune arrived, which `EventLoop::run` relies on to report bad
credentials. Above `process` stands the handshake as an automaton over the frames received, and
the loop's state is always the automaton's (`state_follows_frames`).
-/

namespace Amiquip

/-- The position of a state in the order of the handshake. -/
def ConnectionState.rank : ConnectionState → Nat
  | .start => 0
  | .secure => 1
  | .tune => 2
  | .open' => 3
  | .steady => 4
  | .closing _ => 5

end Amiquip

namespace Amiquip.Handshake

open EventLoop Runs Effects WriteLoop PushLog CloseRequests

variable {serializer : Serializer} {options : ConnectionOptions}

/-! ## Moves of the state -/

/-- `Closing` is the last rank. -/
theorem rank_le_closing (state : ConnectionState) : state.rank ≤ 5 := by
  cases state <;> simp [ConnectionState.rank]

/-- The moves `process` makes: none, or one step along the handshake on the frame that step
expects. -/
def Moves (state next : ConnectionState) (frame : AMQPFrame) : Prop :=
  next = state ∨
    (state = .start ∧ next = .secure ∧ ∃ offer, frame = connectionFrame (.start offer)) ∨
    ((state = .secure ∨ state = .tune) ∧ (next = .tune ∨ next = .open') ∧
      ∃ proposal, frame = connectionFrame (.tune proposal)) ∨
    (state = .open' ∧ next = .steady ∧ frame = connectionFrame .openOk)

/-- A move never goes back along the handshake. -/
theorem Moves.rank_le {state next : ConnectionState} {frame : AMQPFrame}
    (moves : Moves state next frame) : state.rank ≤ next.rank := by
  rcases moves with rfl | ⟨rfl, rfl, -⟩ | ⟨from', target, -⟩ | ⟨rfl, rfl, -⟩
  · exact le_rfl
  · decide
  · rcases from' with rfl | rfl <;> rcases target with rfl | rfl <;> decide
  · decide

/-- `process` enters `Steady` only from `Open` on a channel-0 open-ok. -/
theorem Moves.steady {state : ConnectionState} {frame : AMQPFrame}
    (moves : Moves state .steady frame) :
    state = .steady ∨ (state = .open' ∧ frame = connectionFrame .openOk) := by
  rcases moves with same | ⟨-, nope, -⟩ | ⟨-, nope | nope, -⟩ | ⟨isOpen, -, isFrame⟩
  · exact .inl same.symm
  all_goals first | cases nope | exact .inr ⟨isOpen, isFrame⟩

/-- `process` never enters `Closing`. -/
theorem Moves.closing {state next : ConnectionState} {frame : AMQPFrame}
    (moves : Moves state next frame) (closing : next.isClosing) : state.isClosing := by
  rcases moves with rfl | ⟨-, rfl, -⟩ | ⟨-, rfl | rfl, -⟩ | ⟨-, rfl, -⟩
  · exact closing
  all_goals cases closing

/-- Every call of `process` moves the state along the handshake or leaves it. -/
theorem process_moves (state : ConnectionState) (inner : Inner) (frame : AMQPFrame) :
    Moves state (state.process serializer options inner frame).1 frame := by
  have step := process_step serializer options state inner frame
  generalize state.process serializer options inner frame = result at step ⊢
  cases step with
  | rejected | discarded | serverClose | clientClose => exact .inl rfl
  | started offer _ _ isStart isFrame => exact .inr (.inl ⟨isStart, rfl, offer, isFrame⟩)
  | tuneRefused proposal _ from' isFrame | startFailed proposal _ _ from' isFrame
  | tuneBegun proposal _ _ _ from' isFrame | tuneHalf proposal _ _ _ _ from' isFrame =>
    exact .inr (.inr (.inl ⟨from', .inl rfl, proposal, isFrame⟩))
  | tuned proposal _ _ _ _ from' isFrame =>
    exact .inr (.inr (.inl ⟨from', .inr rfl, proposal, isFrame⟩))
  | opened isOpen isFrame => exact .inr (.inr (.inr ⟨isOpen, rfl, isFrame⟩))

/-- Every frame the read path dispatches moves the state along the handshake or leaves it. -/
theorem dispatch_moves (loop : EventLoop) (frame : AMQPFrame) :
    Moves loop.state (loop.dispatch serializer options frame).1.state frame := by
  by_cases heartbeat : frame = .heartbeat 0
  · subst heartbeat
    exact .inl rfl
  rw [dispatch_eq heartbeat]
  exact process_moves loop.state loop.inner frame

/-- The `Tune` branch leaves the state at `Tune`, or at `Open` once tune-ok and open are queued. -/
theorem processTune_state (inner : Inner) (frame : AMQPFrame) :
    (ConnectionState.processTune serializer options inner frame).1 = .tune ∨
      (ConnectionState.processTune serializer options inner frame).1 = .open' := by
  unfold ConnectionState.processTune
  split
  · split
    · exact .inl rfl
    · split
      · exact .inl rfl
      · split
        · exact .inl rfl
        · split <;> simp
  · exact .inl rfl

/-- `Secure` hands a tune frame on to `Tune`, so whatever follows leaves `Secure` behind. -/
theorem process_secure_tune (inner : Inner) (proposal : Tune) :
    (ConnectionState.secure.process serializer options inner
      (connectionFrame (.tune proposal))).1 ≠ .secure := by
  show (ConnectionState.processTune serializer options inner
    (connectionFrame (.tune proposal))).1 ≠ .secure
  rcases processTune_state inner (connectionFrame (.tune proposal)) with next | next <;>
    rw [next] <;> nofun

/-! ## Frames a handshake state does not expect -/

/-- The frames a handshake state goes on with; the read path drops channel-0 heartbeats before
`process` sees them. -/
def Expected : ConnectionState → AMQPFrame → Prop
  | .start, frame => ∃ offer, frame = connectionFrame (.start offer)
  | .secure, frame | .tune, frame => ∃ proposal, frame = connectionFrame (.tune proposal)
  | .open', frame =>
    frame = connectionFrame .openOk ∨ ∃ close, frame = connectionFrame (.close close)
  | _, _ => True

/-- The error the spec gives for a frame a handshake state does not go on with. -/
def rejection : ConnectionState → AMQPFrame → ErrorKind
  | .secure, .method 0 (.connection (.secure _)) => .saslSecureNotSupported
  | .start, frame => .handshakeWrongServerFrame "start" frame
  | .secure, frame => .handshakeWrongServerFrame "secure or tune" frame
  | .tune, frame => .handshakeWrongServerFrame "tune" frame
  | _, frame => .handshakeWrongServerFrame "open-ok" frame

/-- Before `Steady`, a frame the state does not expect fails `process` with the spec's error,
changing nothing. -/
theorem process_rejects {state : ConnectionState} (handshaking : state.rank < 4) (inner : Inner)
    {frame : AMQPFrame} (unexpected : ¬ Expected state frame) :
    state.process serializer options inner frame =
      (state, inner, .fail (rejection state frame)) := by
  cases state with
  | start =>
    unfold ConnectionState.process
    split <;> try contradiction
    · exact absurd ⟨_, rfl⟩ unexpected
    · rfl
  | secure =>
    unfold ConnectionState.process
    split <;> try contradiction
    · rfl
    · exact absurd ⟨_, rfl⟩ unexpected
    · rename_i notSecure _
      unfold rejection
      split <;> try contradiction
      · exact absurd rfl (notSecure _)
      · rfl
  | tune =>
    exact processTune_other serializer options fun proposal same => unexpected ⟨proposal, same⟩
  | open' =>
    unfold ConnectionState.process
    split <;> try contradiction
    · exact absurd (.inl rfl) unexpected
    · exact absurd (.inr ⟨_, rfl⟩) unexpected
    · rfl
  | steady | closing _ => simp [ConnectionState.rank] at handshaking

/-! ## The handshake as an automaton -/

/-- The handshake as an automaton over the frames received, from the spec: each state goes on
only on the channel-0 method it expects, a tune passing through `Tune` to `Open`, and every
other frame leaves it where it is. -/
def handshakeStep : ConnectionState → AMQPFrame → ConnectionState
  | .start, .method 0 (.connection (.start _)) => .secure
  | .secure, .method 0 (.connection (.tune _)) | .tune, .method 0 (.connection (.tune _)) => .open'
  | .open', .method 0 (.connection .openOk) => .steady
  | state, _ => state

/-- The state the automaton reaches on the frames the loop received, with `Closing` standing
for the `Steady` it was entered from. -/
def Progress (loop : EventLoop) : Prop :=
  loop.dispatched.foldl handshakeStep .start = if loop.state.isClosing then .steady else loop.state

/-- Receiving a frame keeps the automaton in step when the state moves as the automaton does. -/
theorem Progress.receive {loop after : EventLoop} (progress : Progress loop) (frame : AMQPFrame)
    (dispatched : after.dispatched = loop.dispatched ++ [frame])
    (moved : handshakeStep (if loop.state.isClosing then .steady else loop.state) frame =
      if after.state.isClosing then .steady else after.state) : Progress after := by
  unfold Progress at progress ⊢
  rw [dispatched, List.foldl_append, progress]
  exact moved

/-! ## The methods queued -/

/-- The methods queued, in order. -/
def methodsQueued (frames : List (OutFrame × List UInt8)) : List AMQPMethod :=
  frames.filterMap fun entry =>
    match entry.1 with
    | .method _ method => some method
    | .heartbeat => none

/-- The methods of two runs of frames are those of the first, then those of the second. -/
@[simp] theorem methodsQueued_append (frames more : List (OutFrame × List UInt8)) :
    methodsQueued (frames ++ more) = methodsQueued frames ++ methodsQueued more := by
  simp [methodsQueued]

/-- No frame, no method. -/
@[simp] theorem methodsQueued_nil : methodsQueued [] = [] := rfl

/-- A method frame contributes its method. -/
@[simp] theorem methodsQueued_method (channel : UInt16) (method : AMQPMethod) (bytes : List UInt8)
    (frames : List (OutFrame × List UInt8)) :
    methodsQueued ((.method channel method, bytes) :: frames) =
      method :: methodsQueued frames := rfl

/-- Heartbeat frames contribute no method. -/
@[simp] theorem methodsQueued_heartbeats (count : Nat) (bytes : List UInt8) :
    methodsQueued (List.replicate count (.heartbeat, bytes)) = [] := by
  simp [methodsQueued]

/-- The connection methods queued in a state the loop runs on in: none before the server's
start, start-ok in `Secure`, and from `Open` on start-ok, tune-ok and open followed by
close-oks and closes. A loop never runs on in `Tune`, which a tune frame passes through. -/
def QueuedFor (options : ConnectionOptions) : ConnectionState → List AMQPMethod → Prop
  | .start, methods => methods = []
  | .secure, methods => ∃ startOk, methods = [.startOk startOk]
  | .tune, _ => False
  | _, methods => ∃ startOk tuneOk closes,
      methods = [.startOk startOk, .tuneOk tuneOk, .open' options.makeOpen] ++ closes ∧
        ∀ method ∈ closes, method = .closeOk ∨ ∃ close, method = .close close

/-- After the handshake, queueing a close-ok or a close keeps the queue in order. -/
theorem QueuedFor.push_close {state : ConnectionState} {methods : List AMQPMethod}
    (queued : QueuedFor options state methods) (opened : 3 ≤ state.rank) {method : AMQPMethod}
    (closing : method = .closeOk ∨ ∃ close, method = .close close) :
    QueuedFor options state (methods ++ [method]) := by
  cases state with
  | start | secure | tune => simp [ConnectionState.rank] at opened
  | open' | steady | closing _ =>
    obtain ⟨startOk, tuneOk, closes, rfl, closes_ok⟩ := queued
    refine ⟨startOk, tuneOk, closes ++ [method], by simp, fun queued member => ?_⟩
    rcases List.mem_append.mp member with old | fresh
    · exact closes_ok queued old
    · exact (List.mem_singleton.mp fresh) ▸ closing

/-- Where the loop runs on: the methods queued for its state, each start-ok and tune-ok in
answer to a frame received, no tune received before `Tune`, and our close only recorded in
`Steady` or `Closing`. -/
structure HandshakeBooks (options : ConnectionOptions) (loop : EventLoop) : Prop where
  queued : QueuedFor options loop.state (methodsQueued loop.inner.outbuf.frames)
  startOk : ∀ startOk, .startOk startOk ∈ methodsQueued loop.inner.outbuf.frames →
    ∃ offer, connectionFrame (.start offer) ∈ loop.dispatched ∧
      options.makeStartOk offer = .ok startOk
  tuneOk : ∀ tuneOk, .tuneOk tuneOk ∈ methodsQueued loop.inner.outbuf.frames →
    ∃ proposal, connectionFrame (.tune proposal) ∈ loop.dispatched ∧
      options.makeTuneOk proposal = .ok tuneOk
  untuned : loop.state = .start ∨ loop.state = .secure →
    ∀ proposal, connectionFrame (.tune proposal) ∉ loop.dispatched
  ourClose : loop.inner.ourCloseReq.isSome → loop.state = .steady ∨ loop.state.isClosing
  progress : Progress loop

/-- The queue of a loop whose state is known. -/
theorem HandshakeBooks.queuedIn {loop : EventLoop} (books : HandshakeBooks options loop)
    {state : ConnectionState} (same : loop.state = state) :
    QueuedFor options state (methodsQueued loop.inner.outbuf.frames) :=
  same ▸ books.queued

/-- `Secure` is the state after start-ok was queued and before a channel-0 tune arrived. -/
def SecureIff (loop : EventLoop) : Prop :=
  loop.state = .secure ↔
    (∃ startOk, .startOk startOk ∈ methodsQueued loop.inner.outbuf.frames) ∧
      ∀ proposal, connectionFrame (.tune proposal) ∉ loop.dispatched

/-- The handshake books say exactly when the loop is in `Secure`. -/
theorem HandshakeBooks.secureIff {loop : EventLoop} (books : HandshakeBooks options loop) :
    SecureIff loop := by
  unfold SecureIff
  cases state : loop.state with
  | start =>
    have empty : methodsQueued loop.inner.outbuf.frames = [] := books.queuedIn state
    simp [empty]
  | secure =>
    obtain ⟨startOk, same⟩ := books.queuedIn state
    exact ⟨fun _ => ⟨⟨startOk, by simp [same]⟩, books.untuned (.inr state)⟩, fun _ => rfl⟩
  | tune => exact (books.queuedIn state).elim
  | open' | steady | closing _ =>
    obtain ⟨startOk, tuneOk, closes, same, -⟩ := books.queuedIn state
    obtain ⟨proposal, received, -⟩ := books.tuneOk tuneOk (by simp [same])
    exact ⟨nofun, fun ⟨_, untuned⟩ => absurd received (untuned proposal)⟩

/-- An operation that moves no state, queues no method and receives no tune in `Secure` keeps
`Secure` what it was. -/
theorem SecureIff.extend {loop after : EventLoop} (iff : SecureIff loop)
    (state : after.state = loop.state)
    (methods : methodsQueued after.inner.outbuf.frames = methodsQueued loop.inner.outbuf.frames)
    (received : List AMQPFrame) (dispatched : after.dispatched = loop.dispatched ++ received)
    (quiet : loop.state = .secure → ∀ proposal, connectionFrame (.tune proposal) ∉ received) :
    SecureIff after := by
  unfold SecureIff
  rw [state, methods, dispatched]
  constructor
  · intro isSecure
    obtain ⟨queued, untuned⟩ := iff.mp isSecure
    exact ⟨queued, fun proposal member => (List.mem_append.mp member).elim (untuned proposal)
      (quiet isSecure proposal)⟩
  · exact fun ⟨queued, untuned⟩ =>
      iff.mpr ⟨queued, fun proposal member => untuned proposal (List.mem_append_left _ member)⟩

/-- A loop left in `Tune` after a tune arrived is not in `Secure`. -/
theorem secureIff_tuned {loop : EventLoop} (state : loop.state = .tune) (proposal : Tune)
    (received : connectionFrame (.tune proposal) ∈ loop.dispatched) : SecureIff loop :=
  ⟨fun isSecure => (nomatch state.symm.trans isSecure),
    fun ⟨_, untuned⟩ => absurd received (untuned proposal)⟩

/-- An operation that queues `new` methods and receives `received` frames keeps the books
when what it queues answers what it received, and the state it reaches fits the queue. -/
theorem HandshakeBooks.step {loop after : EventLoop} (books : HandshakeBooks options loop)
    (new : List AMQPMethod) (received : List AMQPFrame)
    (methods : methodsQueued after.inner.outbuf.frames =
      methodsQueued loop.inner.outbuf.frames ++ new)
    (dispatched : after.dispatched = loop.dispatched ++ received)
    (queued : QueuedFor options after.state (methodsQueued after.inner.outbuf.frames))
    (answersStart : ∀ startOk, .startOk startOk ∈ new →
      ∃ offer, connectionFrame (.start offer) ∈ received ∧ options.makeStartOk offer = .ok startOk)
    (answersTune : ∀ tuneOk, .tuneOk tuneOk ∈ new →
      ∃ proposal, connectionFrame (.tune proposal) ∈ received ∧
        options.makeTuneOk proposal = .ok tuneOk)
    (untuned : after.state = .start ∨ after.state = .secure →
      (loop.state = .start ∨ loop.state = .secure) ∧
        ∀ proposal, connectionFrame (.tune proposal) ∉ received)
    (ourClose : after.inner.ourCloseReq.isSome → after.state = .steady ∨ after.state.isClosing)
    (progress : Progress after) : HandshakeBooks options after := by
  refine ⟨queued, fun startOk member => ?_, fun tuneOk member => ?_,
    fun early proposal member => ?_, ourClose, progress⟩
  · rw [methods] at member
    rcases List.mem_append.mp member with old | fresh
    · obtain ⟨offer, arrived, made⟩ := books.startOk startOk old
      exact ⟨offer, dispatched ▸ List.mem_append_left _ arrived, made⟩
    · obtain ⟨offer, arrived, made⟩ := answersStart startOk fresh
      exact ⟨offer, dispatched ▸ List.mem_append_right _ arrived, made⟩
  · rw [methods] at member
    rcases List.mem_append.mp member with old | fresh
    · obtain ⟨proposal, arrived, made⟩ := books.tuneOk tuneOk old
      exact ⟨proposal, dispatched ▸ List.mem_append_left _ arrived, made⟩
    · obtain ⟨proposal, arrived, made⟩ := answersTune tuneOk fresh
      exact ⟨proposal, dispatched ▸ List.mem_append_right _ arrived, made⟩
  · obtain ⟨wasEarly, quiet⟩ := untuned early
    rw [dispatched] at member
    exact (List.mem_append.mp member).elim (books.untuned wasEarly proposal) (quiet proposal)

/-- An operation that touches neither the queue's methods, the state, the history nor our
close keeps the books. -/
theorem HandshakeBooks.same {loop after : EventLoop} (books : HandshakeBooks options loop)
    (methods : methodsQueued after.inner.outbuf.frames = methodsQueued loop.inner.outbuf.frames)
    (state : after.state = loop.state) (dispatched : after.dispatched = loop.dispatched)
    (client : after.inner.ourCloseReq = loop.inner.ourCloseReq) : HandshakeBooks options after :=
  books.step [] [] (by simp [methods]) (by simp [dispatched])
    (by rw [methods, state]; exact books.queued) nofun nofun (fun early => ⟨state ▸ early, nofun⟩)
    (fun recorded => state ▸ books.ourClose (client ▸ recorded))
    (by unfold Progress; rw [dispatched, state]; exact books.progress)

/-- Recording a close request after the handshake keeps the books, our own only in `Steady`. -/
theorem HandshakeBooks.closeRecorded {loop : EventLoop} (books : HandshakeBooks options loop)
    {side : CloseSide} {method : AMQPMethod} {close : Close} {after : Inner}
    (from' : loop.state = .open' ∨ loop.state = .steady)
    (closing : method = .closeOk ∨ ∃ close, method = .close close)
    (recorded : loop.inner.setCloseReq serializer side method close = .ok after)
    (ours : side = .client → loop.state = .steady) (frame : AMQPFrame)
    (stays : handshakeStep loop.state frame = loop.state) :
    HandshakeBooks options
      { loop with inner := after, dispatched := loop.dispatched ++ [frame] } := by
  have opened : 3 ≤ loop.state.rank := by
    rcases from' with same | same <;> simp [same, ConnectionState.rank]
  have early : ¬ (loop.state = .start ∨ loop.state = .secure) := by
    rintro (same | same) <;> simp [same, ConnectionState.rank] at opened
  have notClosing : loop.state.isClosing = false := by
    rcases from' with same | same <;> simp [same, ConnectionState.isClosing]
  have progress : ∀ after : EventLoop, after.dispatched = loop.dispatched ++ [frame] →
      after.state = loop.state → Progress after := fun after dispatched state =>
    books.progress.receive frame dispatched (by simp [notClosing, state, stays])
  have noHandshake : ∀ answer, answer ∈ [method] → ¬ (∃ startOk, answer = .startOk startOk) ∧
      ¬ ∃ tuneOk, answer = .tuneOk tuneOk := by
    rcases closing with rfl | ⟨_, rfl⟩ <;> simp
  rcases (Inner.setCloseReq_eq_ok _ _ _).mp recorded with ⟨-, rfl⟩ | ⟨-, bytes, -, rfl⟩
  · exact books.step [] [frame] (by simp) rfl books.queued nofun nofun (absurd · early)
      books.ourClose (progress _ rfl rfl)
  · refine books.step [method] [frame] (by simp) rfl ?_
      (fun startOk member => absurd ⟨startOk, rfl⟩ (noHandshake _ member).1)
      (fun tuneOk member => absurd ⟨tuneOk, rfl⟩ (noHandshake _ member).2) (absurd · early) ?_
      (progress _ rfl rfl)
    · simp only [Inner.outbuf_setCloseReqOf, OutputBuffer.frames_push, methodsQueued_append,
        methodsQueued_method, methodsQueued_nil]
      exact books.queued.push_close opened closing
    · cases side with
      | server =>
        exact fun recordedNow => books.ourClose (by simpa [Inner.setCloseReqOf] using recordedNow)
      | client => exact fun _ => .inl (ours rfl)

/-- A new loop has queued and received nothing. -/
theorem handshake_new (registration : Except IoError Unit) (loop : EventLoop)
    (created : EventLoop.new registration = .ok loop) : HandshakeBooks options loop := by
  cases registration with
  | error error => cases created
  | ok =>
    cases created
    exact ⟨rfl, nofun, nofun, fun _ _ => List.not_mem_nil _, nofun, rfl⟩

/-- Every branch of `process` keeps the books where the loop runs on, and where it stops leaves
`Secure` exactly the state before any tune. -/
theorem handshake_dispatch {loop : EventLoop} (books : HandshakeBooks options loop)
    (frame : AMQPFrame) :
    Lands (HandshakeBooks options) (fun _ => SecureIff)
      (loop.dispatch serializer options frame) := by
  by_cases heartbeat : frame = .heartbeat 0
  · subst heartbeat
    exact books
  rw [dispatch_eq heartbeat]
  have secureTune : loop.state = .secure → ∀ proposal, frame = connectionFrame (.tune proposal) →
      (loop.state.process serializer options loop.inner frame).1 ≠ .secure := by
    rintro isSecure proposal rfl
    rw [isSecure]
    exact process_secure_tune _ _
  have step := process_step serializer options loop.state loop.inner frame
  generalize loop.state.process serializer options loop.inner frame = result at step secureTune ⊢
  cases step with
  | rejected =>
    exact lands_stopped nofun (books.secureIff.extend rfl rfl [frame] rfl
      fun isSecure proposal member =>
        secureTune isSecure proposal (List.mem_singleton.mp member).symm isSecure)
  | tuneRefused proposal _ _ isFrame | startFailed proposal _ _ _ isFrame
  | tuneBegun proposal _ _ _ _ isFrame | tuneHalf proposal _ _ _ _ _ isFrame =>
    exact lands_stopped nofun (secureIff_tuned rfl proposal (by simp [isFrame]))
  | discarded close isClosing =>
    exact books.step [] [frame] (by simp) rfl books.queued nofun nofun
      (fun early => by rcases early with same | same <;> rw [isClosing] at same <;> cases same)
      (fun _ => .inr (by simp [isClosing, ConnectionState.isClosing]))
      (books.progress.receive frame rfl (by rw [isClosing]; rfl))
  | started offer startOk bytes isStart isFrame made =>
    subst isFrame
    have empty : methodsQueued loop.inner.outbuf.frames = [] := books.queuedIn isStart
    exact books.step [.startOk startOk] [connectionFrame (.start offer)] (by simp) rfl
      ⟨startOk, by simp [empty]⟩
      (fun answered member => ⟨offer, by simp, by simp at member; exact member ▸ made⟩)
      (by simp) (fun _ => ⟨.inl isStart, by simp [connectionFrame]⟩)
      (fun recorded => absurd (books.ourClose recorded)
        (by simp [isStart, ConnectionState.isClosing]))
      (books.progress.receive _ rfl (by rw [isStart]; rfl))
  | tuned proposal tuneOk started bytes more from' isFrame negotiated begun =>
    obtain ⟨outbuf, -, client⟩ := startHeartbeats_frame begun
    have isSecure : loop.state = .secure := from'.resolve_right fun isTune => books.queuedIn isTune
    obtain ⟨startOk, single⟩ : ∃ startOk,
        methodsQueued loop.inner.outbuf.frames = [.startOk startOk] := books.queuedIn isSecure
    exact books.step [.tuneOk tuneOk, .open' options.makeOpen] [frame] (by simp [outbuf]) rfl
      ⟨startOk, tuneOk, [], by simp [outbuf, single], nofun⟩ (by simp)
      (fun answered member =>
        ⟨proposal, by simp [isFrame], by simp at member; exact member ▸ negotiated⟩)
      nofun (fun recorded => absurd (books.ourClose (client ▸ recorded))
        (by simp [isSecure, ConnectionState.isClosing]))
      (books.progress.receive frame rfl (by rw [isSecure, isFrame]; rfl))
  | opened isOpen isFrame =>
    exact books.step [] [frame] (by simp) rfl (books.queuedIn isOpen : QueuedFor options .open' _)
      nofun nofun nofun (fun _ => .inl rfl)
      (books.progress.receive frame rfl (by rw [isOpen, isFrame]; rfl))
  | serverClose close after from' isFrame recorded =>
    exact books.closeRecorded from' (.inl rfl) recorded nofun frame
      (by rw [isFrame]; rcases from' with same | same <;> rw [same] <;> rfl)
  | clientClose after isSteady _ recorded =>
    exact books.closeRecorded (.inr isSteady) (.inr ⟨_, rfl⟩) recorded (fun _ => isSteady) frame
      (by rw [isSteady]; rfl)

/-- Every call of `write_to_stream` keeps the books where the loop runs on, and leaves `Secure`
what it was where it stops. -/
theorem handshake_write {loop : EventLoop} {responses : List Response}
    {result : EventLoop × Outcome} (obeys : ∀ response ∈ responses, response.Obeys)
    (books : HandshakeBooks options loop) (written : loop.writeToStream responses = some result) :
    Lands (HandshakeBooks options) (fun _ => SecureIff) result := by
  obtain ⟨⟨inner, state, stream, outcome⟩, call, rfl⟩ := Option.map_eq_some'.mp written
  cases writeToStream_step obeys call with
  | closing _ => exact books.same (by simp) rfl rfl rfl
  | failed | serverClosed => exact books.secureIff.extend rfl (by simp) [] (by simp) nofun
  | blocked _ _ _ _ _ frames _ _ client => exact books.same (by rw [frames]) rfl rfl client
  | completed _ _ notClosing =>
    cases closes : loop.inner.closesAt .client loop.inner.writeLength with
    | none => exact books.same (by simp) (by simp [closes]) rfl (by simp)
    | some close =>
      obtain ⟨ours, found, -, -⟩ := closesAt_eq_some.mp closes
      have recorded : loop.inner.ourCloseReq = some ours := found
      have isSteady : loop.state = .steady :=
        (books.ourClose (by simp [recorded])).resolve_right notClosing
      exact books.step [] [] (by simp) (by simp)
        (by simpa [closes] using (books.queuedIn isSteady : QueuedFor options .steady _))
        nofun nofun
        (fun early => by simp [closes] at early)
        (fun _ => .inr (by simp [closes, ConnectionState.isClosing]))
        (by simpa [Progress, closes, isSteady, ConnectionState.isClosing] using books.progress)

/-- Every operation of every run keeps the handshake's books, and every stop leaves `Secure`
exactly the state after start-ok and before a tune. -/
theorem handshake_kept : Kept serializer options (HandshakeBooks options) (fun _ => SecureIff) where
  stay _ _ books := books.secureIff
  foreign _ books := books.secureIff
  dispatch _ frame books := handshake_dispatch books frame
  recordRx _ books := books.same rfl rfl rfl rfl
  write _ _ _ obeys books written := handshake_write obeys books written
  consume _ books := books.same rfl rfl rfl rfl
  timers loop due books := by
    have effect := processHeartbeatTimers_effect serializer loop.inner due
    obtain ⟨count, frames⟩ := effect.frames
    have methods :
        methodsQueued (loop.inner.processHeartbeatTimers serializer due).1.outbuf.frames =
          methodsQueued loop.inner.outbuf.frames := by simp [frames]
    rw [processHeartbeatTimers_eq]
    generalize (loop.inner.processHeartbeatTimers serializer due).2 = outcome
    cases outcome with
    | ok => exact books.same methods rfl rfl effect.ourCloseReq
    | err _ | panic _ => exact books.secureIff.extend rfl methods [] (by simp) nofun
  reregister _ _ books := books.same rfl rfl rfl rfl

/-- No operation moves the state back along the handshake. -/
theorem rank_kept (least : Nat) :
    Kept serializer options (fun loop => least ≤ loop.state.rank)
      (fun _ loop => least ≤ loop.state.rank) where
  stay _ _ atLeast := atLeast
  foreign _ atLeast := atLeast
  dispatch loop frame atLeast :=
    lands_either (Nat.le_trans atLeast (dispatch_moves loop frame).rank_le)
  recordRx _ atLeast := atLeast
  write loop _ _ obeys atLeast written := by
    obtain ⟨⟨inner, state, stream, outcome⟩, call, rfl⟩ := Option.map_eq_some'.mp written
    apply lands_either
    cases writeToStream_step obeys call with
    | completed =>
      show least ≤ (match loop.inner.closesAt .client loop.inner.writeLength with
        | some close => ConnectionState.closing close
        | none => loop.state).rank
      split
      · exact Nat.le_trans atLeast (rank_le_closing _)
      · exact atLeast
    | closing | failed | blocked | serverClosed => exact atLeast
  consume _ atLeast := atLeast
  timers loop due atLeast := by
    rw [processHeartbeatTimers_eq]
    exact lands_either atLeast
  reregister _ _ atLeast := atLeast

/-- A write leaves the state, or moves it from `Steady` to `Closing`. -/
theorem write_moves {loop : EventLoop} (books : HandshakeBooks options loop)
    {responses : List Response} {after : EventLoop} {outcome : Outcome}
    (obeys : ∀ response ∈ responses, response.Obeys)
    (written : loop.writeToStream responses = some (after, outcome)) :
    after.state = loop.state ∨ (loop.state = .steady ∧ after.state.isClosing) := by
  obtain ⟨⟨inner, state, stream, outcome'⟩, call, same⟩ := Option.map_eq_some'.mp written
  simp only [Prod.mk.injEq] at same
  obtain ⟨rfl, -⟩ := same
  cases writeToStream_step obeys call with
  | completed _ _ notClosing =>
    cases closes : loop.inner.closesAt .client loop.inner.writeLength with
    | none => exact .inl (by simp [closes])
    | some close =>
      obtain ⟨ours, found, -, -⟩ := closesAt_eq_some.mp closes
      have recorded : loop.inner.ourCloseReq = some ours := found
      exact .inr ⟨(books.ourClose (by simp [recorded])).resolve_right notClosing,
        by simp [closes, ConnectionState.isClosing]⟩
  | closing | failed | blocked | serverClosed => exact .inl rfl

/-! ## The handshake over every run -/

/-- From `EventLoop::new`, at every point of every run: no iteration moves the state back along
the handshake; `process` enters `Steady` only from `Open` on a channel-0 open-ok and never enters
`Closing`, which only a write enters, from `Steady`; the connection methods queued are start-ok
in answer to a channel-0 start, then tune-ok and open in answer to a channel-0 tune, then
close-oks and closes, at most one close-ok and one close; and before `Steady` a frame the state
does not expect fails the loop with `HandshakeWrongServerFrame`, or with
`SaslSecureNotSupported` for a secure frame in `Secure`, and changes nothing else. -/
theorem handshake_in_order {loop : EventLoop} (visited : Visited serializer options loop) :
    (∀ iteration after outcome, iteration.Obeys →
      loop.iterate serializer options iteration = some (after, outcome) →
        loop.state.rank ≤ after.state.rank) ∧
    (∀ frame, (loop.dispatch serializer options frame).1.state = .steady →
      loop.state = .steady ∨ (loop.state = .open' ∧ frame = connectionFrame .openOk)) ∧
    (∀ frame, (loop.dispatch serializer options frame).1.state.isClosing → loop.state.isClosing) ∧
    (∀ responses after outcome, (∀ response ∈ responses, response.Obeys) →
      loop.writeToStream responses = some (after, outcome) →
        after.state = loop.state ∨ (loop.state = .steady ∧ after.state.isClosing)) ∧
    QueuedFor options loop.state (methodsQueued loop.inner.outbuf.frames) ∧
    (∀ startOk, .startOk startOk ∈ methodsQueued loop.inner.outbuf.frames →
      ∃ offer, connectionFrame (.start offer) ∈ loop.dispatched ∧
        options.makeStartOk offer = .ok startOk) ∧
    (∀ tuneOk, .tuneOk tuneOk ∈ methodsQueued loop.inner.outbuf.frames →
      ∃ proposal, connectionFrame (.tune proposal) ∈ loop.dispatched ∧
        options.makeTuneOk proposal = .ok tuneOk) ∧
    closeCount .server loop.inner.outbuf.frames ≤ 1 ∧
    closeCount .client loop.inner.outbuf.frames ≤ 1 ∧
    (loop.state.rank < 4 → ∀ frame, frame ≠ .heartbeat 0 → ¬ Expected loop.state frame →
      loop.dispatch serializer options frame =
        ({ loop with dispatched := loop.dispatched ++ [frame] },
          .fail (rejection loop.state frame))) := by
  have books := visited.holds handshake_kept handshake_new
  have closes := visited.holds books_kept books_new
  refine ⟨fun _ _ _ obeys iterated => ((rank_kept _).iterate obeys le_rfl iterated).either,
    fun frame isSteady => (isSteady ▸ dispatch_moves loop frame).steady,
    fun frame closing => (dispatch_moves loop frame).closing closing,
    fun _ _ _ obeys written => write_moves books obeys written,
    books.queued, books.startOk, books.tuneOk,
    by rw [closes.serverCount]; split <;> decide, by rw [closes.clientCount]; split <;> decide,
    fun handshaking frame notHeartbeat unexpected => ?_⟩
  rw [dispatch_eq notHeartbeat, process_rejects handshaking loop.inner unexpected]

/-- After the happy handshake, the methods queued are those its states call for. -/
theorem handshake_in_order_handshake :
    QueuedFor exampleOptions (runFromStart handshake).state
      (methodsQueued (runFromStart handshake).inner.outbuf.frames) :=
  (handshake_in_order (.reachable (runFromStart_reachable
    (show ∀ iteration ∈ handshake, iteration.Obeys by simp [handshake]) rfl))).2.2.2.2.1

/-- The code refines the handshake automaton: at every point of every run from
`EventLoop::new`, the state is the one the automaton reaches on the frames received, with
`Closing` standing for the `Steady` it was entered from. -/
theorem state_follows_frames {loop : EventLoop} (visited : Visited serializer options loop) :
    loop.dispatched.foldl handshakeStep .start =
      if loop.state.isClosing then .steady else loop.state :=
  (visited.holds handshake_kept handshake_new).progress

/-- The happy handshake takes the automaton to `Steady`. -/
theorem state_follows_frames_handshake :
    (runFromStart handshake).dispatched.foldl handshakeStep .start = .steady :=
  (state_follows_frames (.reachable (runFromStart_reachable
    (show ∀ iteration ∈ handshake, iteration.Obeys by simp [handshake]) rfl))).trans rfl

/-- How `EventLoop::run` reports an error of the main loop. -/
theorem run_err (loop : EventLoop) (error : ArcError) :
    loop.run (.err error) =
      if loop.state = .secure then .err (.chain .invalidCredentials error) else .err error := by
  cases state : loop.state <;> simp [EventLoop.run, state]

/-- For every run from `EventLoop::new` that the main loop ends with an error: `EventLoop::run`
reports an error of kind `InvalidCredentials` caused by it exactly when the state at the
failure is `Secure`, and the error itself otherwise; `Secure` there is the state after start-ok
was queued and before any channel-0 tune arrived; and a tune frame in `Secure` always leaves
`Secure`, so a failure while it is processed keeps its own kind. -/
theorem run_reports_bad_credentials {registration : Except IoError Unit} {loop : EventLoop}
    (created : EventLoop.new registration = .ok loop) {iterations : List Iteration}
    (obeys : ∀ iteration ∈ iterations, iteration.Obeys) {after : EventLoop} {error : ArcError}
    (stopped : loop.mainLoop serializer options iterations = some (after, .err error)) :
    ((∃ wrapped, after.run (.err error) = .err wrapped ∧ wrapped.kind = .invalidCredentials ∧
        wrapped.causeError = some error) ↔ after.state = .secure) ∧
      (after.state ≠ .secure → after.run (.err error) = .err error) ∧
      (after.state = .secure ↔
        (∃ startOk, .startOk startOk ∈ methodsQueued after.inner.outbuf.frames) ∧
          ∀ proposal, connectionFrame (.tune proposal) ∉ after.dispatched) ∧
      ∀ inner proposal, (ConnectionState.secure.process serializer options inner
        (connectionFrame (.tune proposal))).1 ≠ .secure := by
  have iff : SecureIff after :=
    handshake_kept.mainLoop iterations obeys loop (handshake_new _ _ created) stopped
  have reported := run_err after error
  refine ⟨⟨fun ⟨wrapped, ran, _, cause⟩ => ?_, fun isSecure => ⟨.chain .invalidCredentials error,
    by simp [reported, isSecure], rfl, rfl⟩⟩, fun notSecure => by simp [reported, notSecure], iff,
    process_secure_tune⟩
  by_contra notSecure
  simp only [reported, notSecure, if_false, Outcome.err.injEq] at ran
  subst ran
  exact ArcError.causeError_ne_self _ cause

/-- The handshake's first pass, then a secure challenge, which `Secure` refuses. -/
def challenged : List Iteration :=
  handshake.take 1 ++ [pass [reads [connectionFrame (.secure "challenge")]]]

/-- A secure challenge in `Secure` is reported as bad credentials. -/
theorem run_reports_bad_credentials_challenged :
    (runFromStart challenged).state = .secure ∧
      ∃ wrapped, (runFromStart challenged).run (.fail .saslSecureNotSupported) = .err wrapped ∧
        wrapped.kind = .invalidCredentials ∧
        wrapped.causeError = some (.ofKind .saslSecureNotSupported) :=
  ⟨rfl, (run_reports_bad_credentials (show EventLoop.new (.ok ()) = .ok started from rfl)
    (show ∀ iteration ∈ challenged, iteration.Obeys by simp [challenged, handshake])
    (show started.mainLoop exampleSerializer exampleOptions challenged =
      some (runFromStart challenged, .fail .saslSecureNotSupported) from rfl)).1.mpr rfl⟩

end Amiquip.Handshake
