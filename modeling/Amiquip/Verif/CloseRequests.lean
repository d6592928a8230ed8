import Amiquip.Verif.Wire

/-!
# The close requests

`server_close_req` and `our_close_req` remember where in `outbuf` the frame that finishes the
connection ends. Against the push log the books are: each side's frame is pushed once, when its
request is recorded; until `Closing` the server's offset ends exactly at its close-ok, which every
front-drain keeps by moving it back; the client's offset is never moved, so it ends at its close
or, once a `WouldBlock` drained bytes in front of it, past it. From these, a close-ok queued
before any close of ours ends the connection in exactly the write call that sends its last byte.
A partial write of our own close leaves its offset past the end of the buffer, and `Closing` is
then never entered.
-/

namespace Amiquip.CloseRequests

open EventLoop Runs Effects WriteLoop PushLog Wire

variable {serializer : Serializer} {options : ConnectionOptions}

/-- Appending frames to a buffer, with the front left alone, adds their bytes to its length. -/
theorem len_of_append {buffer after : OutputBuffer} {more : List (OutFrame × List UInt8)}
    (frames : after.frames = buffer.frames ++ more) (start : after.start = buffer.start) :
    after.len = buffer.len + (frameBytes more).length := by
  have inside := buffer.start_le_pushed
  simp only [OutputBuffer.len_eq, OutputBuffer.pushed, frames, start, frameBytes_append,
    List.length_append] at inside ⊢
  omega

/-- The close requests against the push log and the frames received. -/
structure CloseBooks (loop : EventLoop) : Prop where
  /-- A close-ok was pushed exactly when the server's close is recorded, and only one. -/
  serverCount : closeCount .server loop.inner.outbuf.frames =
    if loop.inner.serverCloseReq.isSome then 1 else 0
  /-- A close was pushed exactly when the client's close is recorded, and only one. -/
  clientCount : closeCount .client loop.inner.outbuf.frames =
    if loop.inner.ourCloseReq.isSome then 1 else 0
  /-- Until `Closing`, the server's offset ends exactly at the close-ok, inside the buffer. -/
  serverEnds : ¬ loop.state.isClosing → ∀ request, loop.inner.serverCloseReq = some request →
    firstEnd .server loop.inner.outbuf.frames = some (loop.inner.outbuf.start + request.pos) ∧
      0 < request.pos ∧ request.pos ≤ loop.inner.outbuf.len
  /-- Until `Closing`, the client's offset ends at its close or past it. -/
  clientEnds : ¬ loop.state.isClosing → ∀ request, loop.inner.ourCloseReq = some request →
    ∃ stop, firstEnd .client loop.inner.outbuf.frames = some stop ∧
      stop ≤ loop.inner.outbuf.start + request.pos
  /-- In `Closing` with the server's close recorded, its close-ok was queued behind our close. -/
  closingOrder : loop.state.isClosing → loop.inner.serverCloseReq.isSome →
    ∃ ours theirs, firstEnd .client loop.inner.outbuf.frames = some ours ∧
      firstEnd .server loop.inner.outbuf.frames = some theirs ∧ ours < theirs
  /-- The recorded server close is the first close received. -/
  recordedFirst : ∀ request, loop.inner.serverCloseReq = some request →
    firstClose loop.dispatched = some request.close
  /-- A close received and not recorded was received in `Closing`. -/
  unrecorded : loop.inner.serverCloseReq = none →
    firstClose loop.dispatched = none ∨ loop.state.isClosing

/-- A new loop has pushed and received nothing. -/
theorem books_new (registration : Except IoError Unit) (loop : EventLoop)
    (created : EventLoop.new registration = .ok loop) : CloseBooks loop := by
  cases registration with
  | error error => cases created
  | ok =>
    cases created
    exact ⟨rfl, rfl, fun _ _ recorded => (nomatch recorded), fun _ _ recorded => (nomatch recorded),
      fun closing => (nomatch closing), fun _ recorded => (nomatch recorded), fun _ => .inl rfl⟩

/-- Frames that finish nothing, pushed with the requests and `Closing` left alone, and frames
received that close nothing unless a close is recorded or the loop is `Closing`, keep the books.
The front may move only in `Closing`. -/
theorem CloseBooks.append {loop after : EventLoop} (books : CloseBooks loop)
    (more : List (OutFrame × List UInt8)) (plain : ∀ entry ∈ more, entry.1.closeSide = none)
    (frames : after.inner.outbuf.frames = loop.inner.outbuf.frames ++ more)
    (start : ¬ after.state.isClosing → after.inner.outbuf.start = loop.inner.outbuf.start)
    (server : after.inner.serverCloseReq = loop.inner.serverCloseReq)
    (client : after.inner.ourCloseReq = loop.inner.ourCloseReq)
    (closing : after.state.isClosing = loop.state.isClosing)
    (received : List AMQPFrame) (dispatched : after.dispatched = loop.dispatched ++ received)
    (quiet : loop.inner.serverCloseReq = none →
      firstClose received = none ∨ after.state.isClosing) : CloseBooks after := by
  have counts : ∀ side, closeCount side after.inner.outbuf.frames =
      closeCount side loop.inner.outbuf.frames := by
    intro side
    have none : closeCount side more = 0 :=
      List.countP_eq_zero.mpr fun entry member => by simp [plain entry member]
    rw [frames, closeCount_append, none, Nat.add_zero]
  have ends : ∀ side, firstEnd side after.inner.outbuf.frames =
      firstEnd side loop.inner.outbuf.frames := fun side => by
    rw [frames]
    exact firstEnd_append_of_none fun entry member => by simp [plain entry member]
  have firstCloses : firstClose after.dispatched =
      (firstClose loop.dispatched).or (firstClose received) := by
    rw [dispatched, firstClose_append]
  refine ⟨?_, ?_, fun notClosing request recorded => ?_, fun notClosing request recorded => ?_,
    fun isClosing recorded => ?_, fun request recorded => ?_, fun unrecorded => ?_⟩
  · rw [counts, server]; exact books.serverCount
  · rw [counts, client]; exact books.clientCount
  · obtain ⟨found, positive, within⟩ :=
      books.serverEnds (closing ▸ notClosing) request (server ▸ recorded)
    refine ⟨by rw [ends, start notClosing]; exact found, positive, ?_⟩
    rw [len_of_append frames (start notClosing)]
    omega
  · obtain ⟨stop, found, below⟩ :=
      books.clientEnds (closing ▸ notClosing) request (client ▸ recorded)
    exact ⟨stop, by rw [ends]; exact found, by rw [start notClosing]; exact below⟩
  · rw [ends, ends]
    exact books.closingOrder (closing ▸ isClosing) (server ▸ recorded)
  · rw [firstCloses, books.recordedFirst request (server ▸ recorded)]
    rfl
  · rcases books.unrecorded (server ▸ unrecorded) with none | wasClosing
    · rcases quiet (server ▸ unrecorded) with quietly | isClosing
      · exact .inl (by rw [firstCloses, none, quietly]; rfl)
      · exact .inr isClosing
    · exact .inr (closing ▸ wasClosing)

/-- Recording the server's first close keeps the books: its close-ok is pushed, its end is
remembered, and the close joins the frames received. -/
theorem CloseBooks.recordServer {loop after : EventLoop} (books : CloseBooks loop)
    (notClosing : ¬ loop.state.isClosing) (unrecorded : loop.inner.serverCloseReq = none)
    {close : Close} {bytes : List UInt8} (nonempty : bytes ≠ [])
    (frames : after.inner.outbuf.frames =
      loop.inner.outbuf.frames ++ [(.method 0 .closeOk, bytes)])
    (start : after.inner.outbuf.start = loop.inner.outbuf.start)
    (server : after.inner.serverCloseReq = some ⟨close, loop.inner.outbuf.len + bytes.length⟩)
    (client : after.inner.ourCloseReq = loop.inner.ourCloseReq) (state : after.state = loop.state)
    (dispatched : after.dispatched = loop.dispatched ++ [connectionFrame (.close close)]) :
    CloseBooks after := by
  have none : closeCount .server loop.inner.outbuf.frames = 0 := by
    simpa [unrecorded] using books.serverCount
  have grown := len_of_append frames start
  have whole := OutputBuffer.start_add_len loop.inner.outbuf
  refine ⟨?_, ?_, fun _ request recorded => ?_, fun _ request recorded => ?_,
    fun isClosing => absurd (state ▸ isClosing) notClosing, fun request recorded => ?_,
    fun recorded => by simp [server] at recorded⟩
  · rw [frames, closeCount_append, none, server]; rfl
  · rw [frames, closeCount_append, client, books.clientCount]; rfl
  · rw [server, Option.some.injEq] at recorded
    subst recorded
    have positive := List.length_pos.mpr nonempty
    refine ⟨?_, by simp only; omega, by simp only [grown]; simp⟩
    rw [frames, firstEnd_append_single none
      (show OutFrame.closeSide (.method 0 .closeOk) = some .server from rfl), start]
    simp only [OutputBuffer.pushed] at whole
    congr 1
    dsimp only
    omega
  · obtain ⟨stop, found, below⟩ := books.clientEnds notClosing request (client ▸ recorded)
    have same : firstEnd .client after.inner.outbuf.frames =
        firstEnd .client loop.inner.outbuf.frames := by
      rw [frames]
      exact firstEnd_append_of_none (by simp [OutFrame.closeSide])
    exact ⟨stop, same ▸ found, start ▸ below⟩
  · rw [server, Option.some.injEq] at recorded
    subst recorded
    rcases books.unrecorded unrecorded with first | isClosing
    · rw [dispatched, firstClose_append, first]; rfl
    · exact absurd isClosing notClosing

/-- Recording the client's first close keeps the books: the close is pushed and its end is
remembered, in answer to a frame that closes nothing. -/
theorem CloseBooks.recordClient {loop after : EventLoop} (books : CloseBooks loop)
    (notClosing : ¬ loop.state.isClosing) (unrecorded : loop.inner.ourCloseReq = none)
    {close : Close} {bytes : List UInt8} {frame : AMQPFrame} (notClose : closeOf frame = none)
    (frames : after.inner.outbuf.frames =
      loop.inner.outbuf.frames ++ [(.method 0 (.close close), bytes)])
    (start : after.inner.outbuf.start = loop.inner.outbuf.start)
    (server : after.inner.serverCloseReq = loop.inner.serverCloseReq)
    (client : after.inner.ourCloseReq = some ⟨close, loop.inner.outbuf.len + bytes.length⟩)
    (state : after.state = loop.state)
    (dispatched : after.dispatched = loop.dispatched ++ [frame]) :
    CloseBooks after := by
  have none : closeCount .client loop.inner.outbuf.frames = 0 := by
    simpa [unrecorded] using books.clientCount
  have grown := len_of_append frames start
  have whole := OutputBuffer.start_add_len loop.inner.outbuf
  have firstCloses : firstClose after.dispatched = firstClose loop.dispatched := by
    rw [dispatched, firstClose_append]
    simp [firstClose, notClose]
  refine ⟨?_, ?_, fun _ request recorded => ?_, fun _ request recorded => ?_,
    fun isClosing => absurd (state ▸ isClosing) notClosing, fun request recorded => ?_,
    fun unrecorded' => ?_⟩
  · rw [frames, closeCount_append, server, books.serverCount]; rfl
  · rw [frames, closeCount_append, none, client]; rfl
  · obtain ⟨found, positive, within⟩ := books.serverEnds notClosing request (server ▸ recorded)
    have same : firstEnd .server after.inner.outbuf.frames =
        firstEnd .server loop.inner.outbuf.frames := by
      rw [frames]
      exact firstEnd_append_of_none (by simp [OutFrame.closeSide])
    exact ⟨by rw [same, start]; exact found, positive, by rw [grown]; omega⟩
  · rw [client, Option.some.injEq] at recorded
    subst recorded
    refine ⟨_, by rw [frames, firstEnd_append_single none
      (show OutFrame.closeSide (.method 0 (.close close)) = some .client from rfl)], ?_⟩
    simp only [OutputBuffer.pushed] at whole
    rw [start]
    dsimp only
    omega
  · rw [firstCloses]; exact books.recordedFirst request (server ▸ recorded)
  · rw [firstCloses, state]; exact books.unrecorded (server ▸ unrecorded')

/-- Every branch of `process` keeps the books where the loop runs on. -/
theorem books_dispatch {loop : EventLoop} (books : CloseBooks loop) (frame : AMQPFrame) :
    Lands CloseBooks (fun _ _ => True) (loop.dispatch serializer options frame) := by
  by_cases heartbeat : frame = .heartbeat 0
  · subst heartbeat
    exact books
  rw [dispatch_eq heartbeat]
  have step := process_step serializer options loop.state loop.inner frame
  generalize loop.state.process serializer options loop.inner frame = result at step ⊢
  cases step with
  | rejected | tuneRefused | startFailed | tuneBegun | tuneHalf => exact lands_running nofun
  | discarded close isClosing =>
    have closing : loop.state.isClosing := by simp [isClosing, ConnectionState.isClosing]
    exact books.append [] nofun (by simp) (absurd closing) rfl rfl rfl [frame] rfl
      fun _ => .inr closing
  | started offer startOk bytes isStart isFrame =>
    subst isFrame
    exact books.append [(.method 0 (.startOk startOk), bytes)] (by simp [OutFrame.closeSide])
      (by simp) (fun _ => rfl) rfl rfl (by simp [isStart, ConnectionState.isClosing]) _ rfl
      fun _ => .inl rfl
  | tuned proposal tuneOk started bytes more from' isFrame _ begun =>
    obtain ⟨outbuf, server, client⟩ := startHeartbeats_frame begun
    subst isFrame
    exact books.append
      [(.method 0 (.tuneOk tuneOk), bytes), (.method 0 (.open' options.makeOpen), more)]
      (by simp [OutFrame.closeSide]) (by simp [outbuf]) (fun _ => by simp [outbuf])
      (by simp [server]) (by simp [client])
      (by rcases from' with isState | isState <;> simp [isState, ConnectionState.isClosing]) _ rfl
      fun _ => .inl rfl
  | opened isOpen isFrame =>
    subst isFrame
    exact books.append [] nofun (by simp) (fun _ => rfl) rfl rfl
      (by simp [isOpen, ConnectionState.isClosing]) _ rfl fun _ => .inl rfl
  | serverClose close after from' isFrame recorded =>
    subst isFrame
    have notClosing : ¬ loop.state.isClosing := by
      rcases from' with isState | isState <;> simp [isState, ConnectionState.isClosing]
    rcases (Inner.setCloseReq_eq_ok _ _ _).mp recorded with
      ⟨already, rfl⟩ | ⟨unrecorded, bytes, encoded, rfl⟩
    · exact books.append [] nofun (by simp) (fun _ => rfl) rfl rfl rfl _ rfl
        fun unrecorded => absurd already (by simp [unrecorded])
    · exact books.recordServer notClosing unrecorded (serializer.method_ne_nil _ _ _ encoded)
        (by simp) (by simp) (by simp [Inner.setCloseReqOf]) (by simp [Inner.setCloseReqOf]) rfl rfl
  | clientClose after isSteady notClose recorded =>
    have notClosing : ¬ loop.state.isClosing := by simp [isSteady, ConnectionState.isClosing]
    rcases (Inner.setCloseReq_eq_ok _ _ _).mp recorded with
      ⟨already, rfl⟩ | ⟨unrecorded, bytes, encoded, rfl⟩
    · exact books.append [] nofun (by simp) (fun _ => rfl) rfl rfl rfl [frame] rfl
        fun _ => .inl (by simp [firstClose, closeOf_eq_none notClose])
    · exact books.recordClient notClosing unrecorded (closeOf_eq_none notClose) rfl rfl
        (by simp [Inner.setCloseReqOf]) (by simp [Inner.setCloseReqOf]) rfl rfl

/-- A write that ends without `Closing` and without the server's close found the server's
request unrecorded, or stopped at the client's close short of it. -/
theorem completed_short {loop : EventLoop} (books : CloseBooks loop)
    (notClosing : ¬ loop.state.isClosing) {request : CloseRequest}
    (recorded : loop.inner.serverCloseReq = some request)
    (server : loop.inner.closesAt .server loop.inner.writeLength = none) :
    ∃ ours, loop.inner.ourCloseReq = some ours ∧ loop.inner.writeLength = ours.pos ∧
      ours.pos < request.pos := by
  obtain ⟨-, -, within⟩ := books.serverEnds notClosing request recorded
  obtain ⟨-, toServer, -⟩ := writeLength_le loop.inner
  have short : loop.inner.writeLength ≠ request.pos := fun same => by
    simp [Inner.closesAt, recorded, same] at server
  have := toServer request recorded
  rcases writeLength_cases loop.inner with same | ⟨theirs, found, ends⟩ | ⟨ours, found, ends⟩
  · omega
  · rw [recorded, Option.some.injEq] at found
    exact absurd (found ▸ ends) short
  · exact ⟨ours, found, ends, by omega⟩

/-- A `WouldBlock` keeps the books: the written prefix leaves the front, and the server's
offset moves back by it. -/
theorem CloseBooks.drained {loop : EventLoop} (books : CloseBooks loop)
    (notClosing : ¬ loop.state.isClosing) {count : Nat} (below : count < loop.inner.writeLength)
    {inner : Inner} (frames : inner.outbuf.frames = loop.inner.outbuf.frames)
    (start : inner.outbuf.start = loop.inner.outbuf.start + count)
    (server : inner.serverCloseReq =
      loop.inner.serverCloseReq.map fun request => { request with pos := request.pos - count })
    (client : inner.ourCloseReq = loop.inner.ourCloseReq) (stream : Socket) :
    CloseBooks { loop with inner, stream } := by
  obtain ⟨-, toServer, -⟩ := writeLength_le loop.inner
  have same : inner.outbuf.len + count = loop.inner.outbuf.len := by
    have := OutputBuffer.start_add_len inner.outbuf
    have := OutputBuffer.start_add_len loop.inner.outbuf
    simp only [OutputBuffer.pushed, frames, start] at *
    omega
  refine ⟨?_, ?_, fun _ request recorded => ?_, fun _ request recorded => ?_,
    fun isClosing => absurd isClosing notClosing, fun request recorded => ?_,
    fun unrecorded => ?_⟩
  · simpa [frames, server] using books.serverCount
  · simpa [frames, client] using books.clientCount
  · simp only [server, Option.map_eq_some'] at recorded
    obtain ⟨old, found, rfl⟩ := recorded
    obtain ⟨ends, positive, within⟩ := books.serverEnds notClosing old found
    have := toServer old found
    refine ⟨by rw [frames, ends, start]; congr 1; dsimp only; omega, by dsimp only; omega,
      by dsimp only; omega⟩
  · obtain ⟨stop, found, below⟩ := books.clientEnds notClosing request (client ▸ recorded)
    exact ⟨stop, frames ▸ found, by rw [start]; omega⟩
  · simp only [server, Option.map_eq_some'] at recorded
    obtain ⟨old, found, rfl⟩ := recorded
    exact books.recordedFirst old found
  · simp only [server, Option.map_eq_none'] at unrecorded
    exact books.unrecorded unrecorded

/-- A write of all `len` bytes that does not end at the server's close-ok keeps the books: the
buffer is cleared, and the loop is `Closing` exactly when the write ends at our close. -/
theorem CloseBooks.cleared {loop : EventLoop} (books : CloseBooks loop)
    (notClosing : ¬ loop.state.isClosing)
    (server : loop.inner.closesAt .server loop.inner.writeLength = none) (wrote : Bool)
    (stream : Socket) :
    CloseBooks { loop with
      inner := { txRecorded loop.inner wrote with outbuf := loop.inner.outbuf.clear },
      state := match loop.inner.closesAt .client loop.inner.writeLength with
        | some close => .closing close
        | none => loop.state,
      stream } := by
  cases closes : loop.inner.closesAt .client loop.inner.writeLength with
  | none =>
    refine ⟨?_, ?_, fun _ request recorded => ?_, fun _ request recorded => ?_,
      fun isClosing => absurd isClosing notClosing, fun request recorded => ?_,
      fun unrecorded => ?_⟩
    · simpa using books.serverCount
    · simpa using books.clientCount
    · obtain ⟨ours, found, ends, -⟩ := completed_short books notClosing (by simpa using recorded)
        server
      simp [Inner.closesAt, found, ends] at closes
    · obtain ⟨stop, found, -⟩ := books.clientEnds notClosing request (by simpa using recorded)
      have := (firstEndWhere_le found).1
      have below : stop ≤ loop.inner.outbuf.pushed.length + request.pos := by
        simp only [OutputBuffer.pushed]; omega
      exact ⟨stop, by simpa using found, by simpa using below⟩
    · exact books.recordedFirst request (by simpa using recorded)
    · exact books.unrecorded (by simpa using unrecorded)
  | some close =>
    refine ⟨?_, ?_, fun isClosing => by simp [ConnectionState.isClosing] at isClosing,
      fun isClosing => by simp [ConnectionState.isClosing] at isClosing,
      fun _ recorded => ?_, fun request recorded => ?_, fun _ => .inr rfl⟩
    · simpa using books.serverCount
    · simpa using books.clientCount
    · obtain ⟨theirs, theirsFound⟩ := Option.isSome_iff_exists.mp (by simpa using recorded)
      obtain ⟨ours, ourFound, -, before⟩ := completed_short books notClosing theirsFound server
      obtain ⟨stop, stopFound, below⟩ := books.clientEnds notClosing ours ourFound
      obtain ⟨ends, -, -⟩ := books.serverEnds notClosing theirs theirsFound
      exact ⟨stop, _, by simpa using stopFound, by simpa using ends, by omega⟩
    · exact books.recordedFirst request (by simpa using recorded)

/-- Every call of `write_to_stream` keeps the books where the loop runs on. -/
theorem books_write {loop : EventLoop} {responses : List Response} {result : EventLoop × Outcome}
    (obeys : ∀ response ∈ responses, response.Obeys) (books : CloseBooks loop)
    (written : loop.writeToStream responses = some result) :
    Lands CloseBooks (fun _ _ => True) result := by
  obtain ⟨⟨inner, state, stream, outcome⟩, call, rfl⟩ := Option.map_eq_some'.mp written
  cases writeToStream_step obeys call with
  | closing isClosing =>
    exact books.append [] nofun (by simp) (absurd isClosing) rfl rfl rfl [] (by simp)
      fun _ => .inr isClosing
  | failed | serverClosed => trivial
  | blocked count wrote _ notClosing below frames start server client =>
    exact books.drained notClosing below frames start server client _
  | completed count wrote notClosing _ _ server => exact books.cleared notClosing server wrote _

/-- Every operation of every run keeps the books. -/
theorem books_kept : Kept serializer options CloseBooks (fun _ _ => True) where
  stay _ _ _ := trivial
  foreign _ _ := trivial
  dispatch _ frame books := books_dispatch books frame
  recordRx loop books :=
    books.append [] nofun (by simp [Inner.recordRxActivity]) (fun _ => rfl) rfl rfl rfl [] (by simp)
      fun _ => .inl rfl
  write _ _ _ obeys books written := books_write obeys books written
  consume loop books :=
    books.append [] nofun (by simp) (fun _ => rfl) rfl rfl rfl [] (by simp) fun _ => .inl rfl
  timers loop due books := by
    have effect := processHeartbeatTimers_effect serializer loop.inner due
    obtain ⟨count, frames⟩ := effect.frames
    rw [processHeartbeatTimers_eq]
    exact lands_running fun _ =>
      books.append _ (by simp [OutFrame.closeSide]) frames (fun _ => effect.start)
        effect.serverCloseReq effect.ourCloseReq rfl [] (by simp) fun _ => .inl rfl
  reregister loop writable books :=
    books.append [] nofun (by simp) (fun _ => rfl) rfl rfl rfl [] (by simp) fun _ => .inl rfl

/-! ## The server's close -/

/-- With the server's close recorded, a later close frame changes nothing in the context,
whatever the state. -/
theorem dispatch_close_inner {loop : EventLoop} {request : CloseRequest}
    (recorded : loop.inner.serverCloseReq = some request) (close : Close) :
    (loop.dispatch serializer options (connectionFrame (.close close))).1.inner = loop.inner := by
  rw [dispatch_eq (by simp [connectionFrame])]
  have step :=
    process_step serializer options loop.state loop.inner (connectionFrame (.close close))
  generalize loop.state.process serializer options loop.inner (connectionFrame (.close close)) =
    result at step ⊢
  cases step with
  | rejected | discarded | tuneRefused | startFailed => rfl
  | started _ _ _ _ isFrame | tuneBegun _ _ _ _ _ isFrame | tuneHalf _ _ _ _ _ _ isFrame
  | tuned _ _ _ _ _ _ isFrame | opened _ isFrame => cases isFrame
  | serverClose _ after _ _ recorded' =>
    rcases (Inner.setCloseReq_eq_ok _ _ _).mp recorded' with ⟨-, rfl⟩ | ⟨unrecorded, -⟩
    · rfl
    · simp [recorded] at unrecorded
  | clientClose _ _ notClose => exact absurd rfl (notClose close)

/-- With the close-ok queued before any close of ours, the loop is not `Closing`. -/
theorem not_closing_of_closeOkFirst {loop : EventLoop} (books : CloseBooks loop)
    {request : CloseRequest} (recorded : loop.inner.serverCloseReq = some request)
    (closeOkFirst : firstCloser loop.inner.outbuf.frames = some .server) :
    ¬ loop.state.isClosing := fun isClosing => by
  obtain ⟨ours, theirs, ourFound, theirFound, before⟩ :=
    books.closingOrder isClosing (by simp [recorded])
  have := firstEnd_le_of_firstCloser closeOkFirst theirFound ourFound
  omega

/-- With the close-ok queued before any close of ours, a write tries to send exactly up to the
end of the close-ok. -/
theorem writeLength_eq_server {loop : EventLoop} (books : CloseBooks loop)
    (notClosing : ¬ loop.state.isClosing) {request : CloseRequest}
    (recorded : loop.inner.serverCloseReq = some request)
    (closeOkFirst : firstCloser loop.inner.outbuf.frames = some .server) :
    loop.inner.writeLength = request.pos := by
  obtain ⟨found, -, within⟩ := books.serverEnds notClosing request recorded
  obtain ⟨-, toServer, -⟩ := writeLength_le loop.inner
  have := toServer request recorded
  rcases writeLength_cases loop.inner with same | ⟨theirs, found', ends⟩ | ⟨ours, ourFound, ends⟩
  · omega
  · rw [recorded, Option.some.injEq] at found'
    rw [ends, found']
  · obtain ⟨stop, ourEnds, below⟩ := books.clientEnds notClosing ours ourFound
    have := firstEnd_le_of_firstCloser closeOkFirst found ourEnds
    omega

/-- Until `Closing`, the stream has accepted exactly the bytes in front of the buffer, so a
recorded close-ok has not been sent in full. -/
theorem sent_short_of_recorded {loop : EventLoop} (books : CloseBooks loop) (sound : Sound loop)
    (notClosing : ¬ loop.state.isClosing) {request : CloseRequest}
    (recorded : loop.inner.serverCloseReq = some request) :
    loop.stream.sent.length = loop.inner.outbuf.start ∧
      loop.stream.sent.length < loop.inner.outbuf.start + request.pos := by
  have sentLength : loop.stream.sent.length = loop.inner.outbuf.start := by
    rw [sound.exact notClosing, List.length_take]
    exact min_eq_left (OutputBuffer.start_le_pushed _)
  have := (books.serverEnds notClosing request recorded).2.1
  exact ⟨sentLength, by omega⟩

/-- One call of `write_to_stream` with the close-ok queued before any close of ours returns
`ServerClosedConnection` with the recorded close exactly when the stream has accepted the
close-ok's last byte. -/
theorem server_write_timing {loop : EventLoop} (books : CloseBooks loop) (sound : Sound loop)
    {request : CloseRequest} (recorded : loop.inner.serverCloseReq = some request)
    (closeOkFirst : firstCloser loop.inner.outbuf.frames = some .server)
    {responses : List Response} {after : EventLoop} {outcome : Outcome}
    (obeys : ∀ response ∈ responses, response.Obeys)
    (written : loop.writeToStream responses = some (after, outcome)) :
    outcome = .fail (.serverClosedConnection request.close.replyCode request.close.replyText) ↔
      loop.inner.outbuf.start + request.pos ≤ after.stream.sent.length := by
  have notClosing := not_closing_of_closeOkFirst books recorded closeOkFirst
  have length := writeLength_eq_server books notClosing recorded closeOkFirst
  have sentLength := (sent_short_of_recorded books sound notClosing recorded).1
  have acceptedLength : ∀ count, count ≤ loop.inner.outbuf.len →
      (accepted loop.stream loop.inner count).sent.length = loop.inner.outbuf.start + count := by
    intro count inside
    simp only [accepted, List.length_append, sentLength, List.length_take, OutputBuffer.len]
      at inside ⊢
    omega
  have toLen := (writeLength_le loop.inner).1
  obtain ⟨⟨inner, state, stream, outcome'⟩, call, same⟩ := Option.map_eq_some'.mp written
  simp only [Prod.mk.injEq] at same
  obtain ⟨rfl, rfl⟩ := same
  cases writeToStream_step obeys call with
  | closing isClosing => exact absurd isClosing notClosing
  | failed count _ _ _ below =>
    simp only [acceptedLength count (by omega), Outcome.fail, Outcome.err.injEq, reduceCtorEq,
      false_iff]
    omega
  | blocked count _ _ _ below =>
    simp only [Socket.sent, acceptedLength count (by omega), Outcome.fail, reduceCtorEq, false_iff]
    omega
  | serverClosed count _ found _ reached inside serverRecorded =>
    rw [recorded, Option.some.injEq] at serverRecorded
    subst serverRecorded
    simp only [acceptedLength count inside, true_iff]
    omega
  | completed _ _ _ _ _ server => simp [Inner.closesAt, recorded, length] at server

/-- The loop after the handshake and a close from the server. -/
def closedByServer : EventLoop :=
  runFromStart (handshake ++ [pass [reads [connectionFrame (.close shutdown)]]])

/-- The loop after the server's close is a point of a run. -/
theorem closedByServer_visited : Visited exampleSerializer exampleOptions closedByServer :=
  .reachable (runFromStart_reachable (handshake_obeys (by simp)) rfl)

/-- Until `Closing`, at every point of every run, the server's close offset lies inside the
buffer and the bytes in front of it end exactly at the close-ok. -/
theorem server_close_offset_exact {loop : EventLoop} (visited : Visited serializer options loop)
    (notClosing : ¬ loop.state.isClosing) {request : CloseRequest}
    (recorded : loop.inner.serverCloseReq = some request) :
    request.pos ≤ loop.inner.outbuf.len ∧
      firstEnd .server loop.inner.outbuf.frames = some (loop.inner.outbuf.start + request.pos) :=
  have ⟨ends, _, within⟩ :=
    (visited.holds books_kept books_new).serverEnds notClosing request recorded
  ⟨within, ends⟩

/-- After the server's close, its offset lies within the queued bytes. -/
theorem server_close_offset_exact_closedByServer :
    ¬ closedByServer.state.isClosing ∧ closedByServer.inner.serverCloseReq = some ⟨shutdown, 12⟩ ∧
      12 ≤ closedByServer.inner.outbuf.len :=
  ⟨by decide, rfl, (server_close_offset_exact closedByServer_visited (by decide) rfl).1⟩

/-- Over every run each side's closing frame is queued at most once. -/
theorem close_frames_queued_once {loop : EventLoop} (visited : Visited serializer options loop) :
    closeCount .server loop.inner.outbuf.frames ≤ 1 ∧
      closeCount .client loop.inner.outbuf.frames ≤ 1 := by
  have books := visited.holds books_kept books_new
  rw [books.serverCount, books.clientCount]
  constructor <;> split <;> decide

/-- After the server's close, one close-ok is queued. -/
theorem close_frames_queued_once_closedByServer :
    closeCount .server closedByServer.inner.outbuf.frames ≤ 1 :=
  (close_frames_queued_once closedByServer_visited).1

/-- At every point of every run where the server's close is recorded and its close-ok was queued
before any close of ours: exactly one close-ok was queued, for the first close received; a later
close frame changes nothing; the close-ok's last byte has not been sent; and a write call returns
`ServerClosedConnection` with that close's code and text exactly when the stream has accepted the
close-ok's last byte. -/
theorem server_close_ends_on_close_ok {loop : EventLoop} {request : CloseRequest}
    (visited : Visited serializer options loop)
    (recorded : loop.inner.serverCloseReq = some request)
    (closeOkFirst : firstCloser loop.inner.outbuf.frames = some .server) :
    closeCount .server loop.inner.outbuf.frames = 1 ∧
      firstClose loop.dispatched = some request.close ∧
      (∀ close, (loop.dispatch serializer options (connectionFrame (.close close))).1.inner =
        loop.inner) ∧
      ∃ stop, firstEnd .server loop.inner.outbuf.frames = some stop ∧
        loop.stream.sent.length < stop ∧
        ∀ responses after outcome, (∀ response ∈ responses, response.Obeys) →
          loop.writeToStream responses = some (after, outcome) →
            (outcome = .fail (.serverClosedConnection request.close.replyCode
              request.close.replyText) ↔ stop ≤ after.stream.sent.length) := by
  have books := visited.holds books_kept books_new
  have sound := visited.holds sound_kept sound_new
  have notClosing := not_closing_of_closeOkFirst books recorded closeOkFirst
  exact ⟨by simpa [recorded] using books.serverCount, books.recordedFirst request recorded,
    dispatch_close_inner recorded, _, (books.serverEnds notClosing request recorded).1,
    (sent_short_of_recorded books sound notClosing recorded).2,
    fun _ _ _ obeys written => server_write_timing books sound recorded closeOkFirst obeys written⟩

/-- After the server's close, the close-ok queued is the first close frame and the only one. -/
theorem server_close_ends_on_close_ok_closedByServer :
    closedByServer.inner.serverCloseReq = some ⟨shutdown, 12⟩ ∧
      firstCloser closedByServer.inner.outbuf.frames = some .server ∧
      closeCount .server closedByServer.inner.outbuf.frames = 1 :=
  ⟨rfl, rfl, (server_close_ends_on_close_ok closedByServer_visited rfl rfl).1⟩

/-! ## The client's close -/

/-- The handshake, a frame `Steady` answers with our close, then one byte of the close written
before the stream blocks. -/
def partialClose : List Iteration :=
  handshake ++ [pass [reads [delivery]], pass [writes [takesOne, blocks]]]

/-- After one byte of our close went out and the stream blocked, `our_close_req.pos` lies past
the end of the buffer in `Steady`: the `WouldBlock` branch drained the byte without moving it. -/
theorem our_close_offset_past_buffer :
    ∃ loop request, Reachable exampleSerializer exampleOptions loop ∧ loop.state = .steady ∧
      loop.inner.ourCloseReq = some request ∧ loop.inner.outbuf.len < request.pos :=
  ⟨runFromStart partialClose, _,
    runFromStart_reachable (handshake_obeys (by simp [takesOne_obeys, blocks_obeys])) rfl, rfl, rfl,
    by decide⟩

/-- Once our close was partly written, the call in which the stream accepts its last byte leaves
the state `Steady`, and the server's close-ok is then taken for an unknown frame instead of
ending the loop with `ClientClosedConnection`. -/
theorem closing_missed_after_partial_close :
    ∃ loop after, Reachable exampleSerializer exampleOptions loop ∧ loop.state = .steady ∧
      loop.inner.ourCloseReq.isSome ∧ closeCount .server loop.inner.outbuf.frames = 0 ∧
      loop.iterate exampleSerializer exampleOptions (pass [writes [acceptsAll]]) = some (after, .ok) ∧
      (∃ stop, firstEnd .client after.inner.outbuf.frames = some stop ∧
        loop.stream.sent.length < stop ∧ stop ≤ after.stream.sent.length) ∧
      after.state = .steady ∧
      (after.iterate exampleSerializer exampleOptions
        (pass [reads [connectionFrame .closeOk]])).map Prod.snd = some .ok :=
  ⟨runFromStart partialClose, _,
    runFromStart_reachable (handshake_obeys (by simp [takesOne_obeys, blocks_obeys])) rfl, rfl, rfl,
    rfl, rfl, ⟨_, rfl, by decide, by decide⟩, rfl, rfl⟩

/-! ## After our close -/

/-- A loop in `Closing` on `close` whose stream has accepted `sent`. -/
def Final (close : Close) (sent : List UInt8) (loop : EventLoop) : Prop :=
  loop.state = .closing close ∧ loop.stream.sent = sent

/-- In `Closing` no operation moves the state or gets a byte accepted. -/
theorem final_kept (close : Close) (sent : List UInt8) :
    Kept serializer options (Final close sent) (fun _ => Final close sent) where
  stay _ _ final := final
  foreign _ final := final
  dispatch loop frame final := by
    apply lands_either
    by_cases heartbeat : frame = .heartbeat 0
    · subst heartbeat
      exact final
    rw [dispatch_eq heartbeat]
    obtain ⟨isClosing, accepted⟩ := final
    generalize processed : loop.state.process serializer options loop.inner frame = result
    obtain ⟨state, context, outcome⟩ := result
    have stays := (process_appends serializer options processed).2.2
      (by simp [isClosing, ConnectionState.isClosing])
    exact ⟨stays.trans isClosing, accepted⟩
  recordRx _ final := final
  write loop _ _ obeys final written := by
    obtain ⟨⟨inner, state, stream, outcome⟩, call, rfl⟩ := Option.map_eq_some'.mp written
    have isClosing : loop.state.isClosing := by simp [final.1, ConnectionState.isClosing]
    apply lands_either
    cases writeToStream_step obeys call with
    | closing => exact final
    | failed _ _ _ notClosing | blocked _ _ _ notClosing | serverClosed _ _ _ notClosing
    | completed _ _ notClosing => exact absurd isClosing notClosing
  consume _ final := final
  timers loop due final := by
    rw [processHeartbeatTimers_eq]
    exact lands_either final
  reregister _ _ final := final

/-- Once our close has gone out, every later run of the main loop, whatever it reads and however
it stops, stays in `Closing` on that close with no further byte accepted by the stream, and the
server's close-ok then ends the read with `ClientClosedConnection` carrying our close's code and
text. -/
theorem closing_is_final {loop : EventLoop} {close : Close} (closing : loop.state = .closing close)
    {iterations : List Iteration} (obeys : ∀ iteration ∈ iterations, iteration.Obeys)
    {after : EventLoop} {outcome : Outcome}
    (ran : loop.mainLoop serializer options iterations = some (after, outcome)) :
    after.state = .closing close ∧ after.stream.sent = loop.stream.sent ∧
      (after.dispatch serializer options (connectionFrame .closeOk)).2 =
        .fail (.clientClosedConnection close.replyCode close.replyText) := by
  have final : Final close loop.stream.sent after :=
    ((final_kept close loop.stream.sent).mainLoop iterations obeys loop ⟨closing, rfl⟩ ran).either
  refine ⟨final.1, final.2, ?_⟩
  rw [dispatch_eq (by simp [connectionFrame]), final.1]
  rfl

/-- The handshake, a frame `Steady` answers with our close, and a write that sends all of it. -/
def closedByUs : List Iteration :=
  handshake ++ [pass [reads [delivery]], pass [writes [acceptsAll]]]

/-- Once `Closing` with our close, a further read and write of the stream sends nothing. -/
theorem closing_is_final_closedByUs :
    (runFromStart closedByUs).state = .closing (unknownFrameClose delivery) ∧
      (runFromStart (closedByUs ++ [pass [exchange [delivery]]])).stream.sent =
        (runFromStart closedByUs).stream.sent :=
  ⟨rfl, (closing_is_final
    (show (runFromStart closedByUs).state = .closing (unknownFrameClose delivery) from rfl)
    (show ∀ iteration ∈ [pass [exchange [delivery]]], iteration.Obeys by simp)
    (show (runFromStart closedByUs).mainLoop exampleSerializer exampleOptions
        [pass [exchange [delivery]]] =
      some (runFromStart (closedByUs ++ [pass [exchange [delivery]]]), .ok) from rfl)).2.1⟩

end Amiquip.CloseRequests
