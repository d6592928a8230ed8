import Amiquip.Verif.Handshake

/-!
# How the connection ends

Two errors end the connection on purpose: `ServerClosedConnection`, once the close-ok owed for
the server's close has been written, and `ClientClosedConnection`, when the server answers the
client's own close. Each is reached only after the frame that finishes the close handshake has
gone out in full. A write that reports the server's close has had the stream accept every byte up
to the end of the one close-ok queued, with the code and text of the first close the server
sent. Conversely, once the close-ok is queued ahead of any close of ours, a stream that never
fails and accepts some bytes of every write gets that report within one write more than the
close-ok's end offset. `Closing` is entered only by the write that finishes the client's close.
So at every point of every run in `Closing(close)`, the close is the one recorded in
`our_close_req`, built for a frame `Steady` did not handle and carried by the first close frame
queued. The stream has accepted that frame to its last byte, and the server's close-ok is
answered with `ClientClosedConnection` and that close's code and text. While our close's offset
still ends exactly at its frame and no close-ok was queued before it, a stream that never fails
and accepts some bytes of every write enters `Closing` with it: every pushed frame has bytes, so
a close-ok queued behind ours ends strictly after it.
-/

namespace Amiquip.Shutdown

open EventLoop Runs Effects WriteLoop PushLog Wire CloseRequests Handshake

variable {serializer : Serializer} {options : ConnectionOptions}

/-- The stream's bytes include everything pushed up to an offset they reach. -/
theorem take_prefix_sent {sent pushed : List UInt8} (sentPrefix : sent <+: pushed) {stop : Nat}
    (below : stop ≤ sent.length) : pushed.take stop <+: sent :=
  calc pushed.take stop <+: pushed.take sent.length := List.take_prefix_take_left _ below
    _ = sent := (List.prefix_iff_eq_take.mp sentPrefix).symm

/-! ## The server's close -/

/-- At every point of every run, a write that returns `ServerClosedConnection` has had the stream
accept every byte pushed up to the end of the close-ok queued for the server's close, and reports
the code and text of the first close the server sent. -/
theorem server_close_reported_after_close_ok_sent {loop : EventLoop}
    (visited : Visited serializer options loop) {responses : List Response}
    (obeys : ∀ response ∈ responses, response.Obeys) {after : EventLoop} {code : UInt16}
    {text : String}
    (written : loop.writeToStream responses =
      some (after, .fail (.serverClosedConnection code text))) :
    ∃ request stop, loop.inner.serverCloseReq = some request ∧
      firstClose loop.dispatched = some request.close ∧
      code = request.close.replyCode ∧ text = request.close.replyText ∧
      firstEnd .server after.inner.outbuf.frames = some stop ∧
      after.inner.outbuf.pushed.take stop <+: after.stream.sent := by
  have books := visited.holds books_kept books_new
  have sound := visited.holds sound_kept sound_new
  obtain ⟨⟨inner, state, stream, outcome⟩, call, same⟩ := Option.map_eq_some'.mp written
  obtain ⟨rfl, rfl⟩ := Prod.mk.inj same
  cases writeToStream_step obeys call with
  | serverClosed count _ request notClosing reached _ recorded ends =>
    obtain ⟨found, -, -⟩ := books.serverEnds notClosing request recorded
    refine ⟨request, _, recorded, books.recordedFirst request recorded, rfl, rfl,
      by simpa using found, ?_⟩
    show _ <+: (accepted loop.stream loop.inner count).sent
    rw [accepted_take (sound.exact notClosing) count, txRecorded_outbuf]
    exact List.take_prefix_take_left _ (by omega)

/-- After the server's close, one write of the whole buffer reports it, with the close-ok
accepted in full. -/
theorem server_close_reported_after_close_ok_sent_closedByServer :
    ∃ after request stop, closedByServer.writeToStream [acceptsAll] =
        some (after, .fail (.serverClosedConnection shutdown.replyCode shutdown.replyText)) ∧
      closedByServer.inner.serverCloseReq = some request ∧
      firstEnd .server after.inner.outbuf.frames = some stop ∧
      after.inner.outbuf.pushed.take stop <+: after.stream.sent := by
  have written : closedByServer.writeToStream [acceptsAll] =
      some (_, .fail (.serverClosedConnection shutdown.replyCode shutdown.replyText)) := rfl
  obtain ⟨request, stop, recorded, -, -, -, ends, sent⟩ :=
    server_close_reported_after_close_ok_sent closedByServer_visited
      (show ∀ response ∈ [acceptsAll], response.Obeys by simpa using acceptsAll_obeys) written
  exact ⟨_, request, stop, written, recorded, ends, sent⟩

/-- Once the close-ok is queued before any close of ours, at every point of every run, a stream
that keeps the contract, never fails and accepts at least one byte of every write ends the
connection within one write more than the bytes up to the close-ok's end: the call of
`write_to_stream` returns `ServerClosedConnection` with the recorded close's code and text. -/
theorem server_close_ends_connection {loop : EventLoop}
    (visited : Visited serializer options loop) {request : CloseRequest}
    (recorded : loop.inner.serverCloseReq = some request)
    (closeOkFirst : firstCloser loop.inner.outbuf.frames = some .server)
    {responses : List Response}
    (good : ∀ response ∈ responses,
      response.Obeys ∧ Progresses response ∧ NeverFails response)
    (enough : request.pos < responses.length) :
    ∃ after, loop.writeToStream responses = some (after,
      .fail (.serverClosedConnection request.close.replyCode request.close.replyText)) := by
  have books := visited.holds books_kept books_new
  have notClosing := not_closing_of_closeOkFirst books recorded closeOkFirst
  have length := writeLength_eq_server books notClosing recorded closeOkFirst
  obtain ⟨⟨inner, state, stream, outcome⟩, written, -, ended⟩ :=
    writeToStream_completes loop.inner loop.state loop.stream responses notClosing good
      (length ▸ enough)
  have closes : loop.inner.closesAt .server loop.inner.writeLength = some request.close := by
    simp [Inner.closesAt, recorded, length]
  simp only [Inner.afterCompleted, closes] at ended
  exact ⟨_, by rw [EventLoop.writeToStream, written, ← ended]; rfl⟩

/-- After the server's close, a stream taking every slice whole ends the connection. -/
theorem server_close_ends_connection_closedByServer :
    closedByServer.inner.serverCloseReq = some ⟨shutdown, 12⟩ ∧
      ∃ after, closedByServer.writeToStream (List.replicate 13 acceptsAll) = some (after,
        .fail (.serverClosedConnection shutdown.replyCode shutdown.replyText)) :=
  ⟨rfl, server_close_ends_connection closedByServer_visited rfl rfl
    (by simp [acceptsAll_obeys, acceptsAll_progresses, acceptsAll_neverFails]) (by decide)⟩

/-! ## The client's close -/

/-- `frame` was received in `Steady`, which does not handle it: the handshake automaton had reached
`Steady` on the frames received before it, and it is no close of the server. -/
def UnhandledInSteady (dispatched : List AMQPFrame) (frame : AMQPFrame) : Prop :=
  ∃ before later, dispatched = before ++ frame :: later ∧
    before.foldl handshakeStep .start = .steady ∧ ∀ close, frame ≠ connectionFrame (.close close)

/-- Receiving more frames keeps what was received before. -/
theorem UnhandledInSteady.extend {dispatched longer : List AMQPFrame} {frame : AMQPFrame}
    (unhandled : UnhandledInSteady dispatched frame) (received : dispatched <+: longer) :
    UnhandledInSteady longer frame := by
  obtain ⟨before, later, split, arrived, notClose⟩ := unhandled
  obtain ⟨more, rfl⟩ := received
  exact ⟨before, later ++ more, by rw [split]; simp, arrived, notClose⟩

/-- The client's own close against the push log, the frames received and the wire. -/
structure OurCloseBooks (loop : EventLoop) : Prop where
  /-- The first close frame of the client pushed carries the recorded close. -/
  carried : ∀ request, loop.inner.ourCloseReq = some request →
    firstClientClose loop.inner.outbuf.frames = some request.close
  /-- The recorded close answers a frame received in `Steady` that it does not handle. -/
  answers : ∀ request, loop.inner.ourCloseReq = some request →
    ∃ frame, UnhandledInSteady loop.dispatched frame ∧ request.close = unknownFrameClose frame
  /-- In `Closing`, the close is the recorded one and the stream has accepted its frame. -/
  sent : ∀ close, loop.state = .closing close → ∃ request stop,
    loop.inner.ourCloseReq = some request ∧ request.close = close ∧
      firstEnd .client loop.inner.outbuf.frames = some stop ∧ stop ≤ loop.stream.sent.length

/-- A step that pushes no close of the client, keeps its request, only adds to the frames
received, enters no `Closing` and takes nothing back from the wire keeps the books. -/
theorem OurCloseBooks.append {loop after : EventLoop} (ours : OurCloseBooks loop)
    (more : List (OutFrame × List UInt8)) (plain : ∀ entry ∈ more, entry.1.closeSide ≠ some .client)
    (frames : after.inner.outbuf.frames = loop.inner.outbuf.frames ++ more)
    (client : after.inner.ourCloseReq = loop.inner.ourCloseReq)
    (received : loop.dispatched <+: after.dispatched)
    (closing : ∀ close, after.state = .closing close → loop.state = .closing close)
    (sent : loop.stream.sent.length ≤ after.stream.sent.length) : OurCloseBooks after := by
  refine ⟨fun request recorded => ?_, fun request recorded => ?_, fun close isClosing => ?_⟩
  · rw [frames, firstClientClose_append, ours.carried request (client ▸ recorded)]
    rfl
  · obtain ⟨frame, unhandled, reason⟩ := ours.answers request (client ▸ recorded)
    exact ⟨frame, unhandled.extend received, reason⟩
  · obtain ⟨request, stop, recorded, same, ends, below⟩ := ours.sent close (closing close isClosing)
    refine ⟨request, stop, client ▸ recorded, same, ?_, by omega⟩
    rw [frames, firstEnd_append_of_none plain]
    exact ends

/-- Recording the client's first close, for a frame received in `Steady` that it does not
handle, pushes the frame that carries it. -/
theorem ours_recordClient {loop after : EventLoop} (books : CloseBooks loop)
    (unrecorded : loop.inner.ourCloseReq = none) {frame : AMQPFrame} {bytes : List UInt8}
    (frames : after.inner.outbuf.frames =
      loop.inner.outbuf.frames ++ [(.method 0 (.close (unknownFrameClose frame)), bytes)])
    {pos : Nat} (client : after.inner.ourCloseReq = some ⟨unknownFrameClose frame, pos⟩)
    (dispatched : after.dispatched = loop.dispatched ++ [frame])
    (arrived : loop.dispatched.foldl handshakeStep .start = .steady)
    (notClose : ∀ close, frame ≠ connectionFrame (.close close)) (steady : after.state = .steady) :
    OurCloseBooks after := by
  have none : firstClientClose loop.inner.outbuf.frames = none :=
    firstClientClose_of_closeCount (by simpa [unrecorded] using books.clientCount)
  refine ⟨fun request recorded => ?_, fun request recorded => ?_,
    fun close closing => absurd (steady.symm.trans closing) nofun⟩
  · rw [client, Option.some.injEq] at recorded
    subst recorded
    rw [frames, firstClientClose_append, none]
    rfl
  · rw [client, Option.some.injEq] at recorded
    subst recorded
    exact ⟨frame, ⟨loop.dispatched, [], dispatched, arrived, notClose⟩, rfl⟩

/-- Every branch of `process` keeps the books where the loop runs on. -/
theorem ours_dispatch {loop : EventLoop} (books : CloseBooks loop) (ours : OurCloseBooks loop)
    (progress : Progress loop) (frame : AMQPFrame) :
    Lands OurCloseBooks (fun _ _ => True) (loop.dispatch serializer options frame) := by
  by_cases heartbeat : frame = .heartbeat 0
  · subst heartbeat
    exact ours
  rw [dispatch_eq heartbeat]
  have received : loop.dispatched <+: loop.dispatched ++ [frame] := List.prefix_append _ _
  have step := process_step serializer options loop.state loop.inner frame
  generalize loop.state.process serializer options loop.inner frame = result at step ⊢
  cases step with
  | rejected | tuneRefused | startFailed | tuneBegun | tuneHalf => exact lands_running nofun
  | discarded => exact ours.append [] nofun (List.append_nil _).symm rfl received (fun _ => id) le_rfl
  | started offer startOk bytes =>
    exact ours.append [(.method 0 (.startOk startOk), bytes)] (by simp [OutFrame.closeSide])
      rfl rfl received (fun _ => nofun) le_rfl
  | tuned proposal tuneOk started bytes more _ _ _ begun =>
    obtain ⟨outbuf, -, client⟩ := startHeartbeats_frame begun
    exact ours.append
      [(.method 0 (.tuneOk tuneOk), bytes), (.method 0 (.open' options.makeOpen), more)]
      (by simp [OutFrame.closeSide]) (by simp [outbuf]) (by simp [client]) received
      (fun _ => nofun) le_rfl
  | opened => exact ours.append [] nofun (List.append_nil _).symm rfl received (fun _ => nofun) le_rfl
  | serverClose close after _ _ recorded =>
    rcases (Inner.setCloseReq_eq_ok _ _ _).mp recorded with ⟨-, rfl⟩ | ⟨-, bytes, -, rfl⟩
    · exact ours.append [] nofun (List.append_nil _).symm rfl received (fun _ => id) le_rfl
    · exact ours.append [(.method 0 .closeOk, bytes)] (by simp [OutFrame.closeSide]) (by simp)
        (by simp [Inner.setCloseReqOf]) received (fun _ => id) le_rfl
  | clientClose after isSteady notClose recorded =>
    have arrived : loop.dispatched.foldl handshakeStep .start = .steady := by
      rw [progress, isSteady]
      rfl
    rcases (Inner.setCloseReq_eq_ok _ _ _).mp recorded with ⟨-, rfl⟩ | ⟨unrecorded, bytes, -, rfl⟩
    · exact ours.append [] nofun (List.append_nil _).symm rfl received (fun _ => id) le_rfl
    · exact @ours_recordClient _ _ books unrecorded _ bytes (by simp)
        (loop.inner.outbuf.len + bytes.length) (by simp [Inner.setCloseReqOf]) rfl arrived notClose
        isSteady

/-- The write that sends all `len` bytes up to the client's close enters `Closing` with the
recorded close, whose frame the stream has then accepted to its last byte. -/
theorem ours_closed {loop : EventLoop} (books : CloseBooks loop) (sound : Sound loop)
    (ours : OurCloseBooks loop) (notClosing : ¬ loop.state.isClosing) {count : Nat} (wrote : Bool)
    (reached : loop.inner.writeLength ≤ count) (within : count ≤ loop.inner.outbuf.len)
    {close : Close} (closes : loop.inner.closesAt .client loop.inner.writeLength = some close) :
    OurCloseBooks { loop with
      inner := { txRecorded loop.inner wrote with outbuf := loop.inner.outbuf.clear },
      state := .closing close, stream := accepted loop.stream loop.inner count } := by
  refine ⟨fun request recorded => by simpa using ours.carried request (by simpa using recorded),
    fun request recorded => ours.answers request (by simpa using recorded),
    fun close' isClosing => ?_⟩
  cases isClosing
  obtain ⟨request, recorded, ends, rfl⟩ := closesAt_eq_some.mp closes
  obtain ⟨stop, found, below⟩ := books.clientEnds notClosing request recorded
  have whole := OutputBuffer.start_add_len loop.inner.outbuf
  refine ⟨request, stop, by simpa using recorded, rfl, by simpa using found, ?_⟩
  rw [accepted_take (sound.exact notClosing) count, List.length_take]
  omega

/-- Every call of `write_to_stream` keeps the books where the loop runs on. -/
theorem ours_write {loop : EventLoop} {responses : List Response} {result : EventLoop × Outcome}
    (obeys : ∀ response ∈ responses, response.Obeys) (books : CloseBooks loop) (sound : Sound loop)
    (ours : OurCloseBooks loop) (written : loop.writeToStream responses = some result) :
    Lands OurCloseBooks (fun _ _ => True) result := by
  obtain ⟨⟨inner, state, stream, outcome⟩, call, rfl⟩ := Option.map_eq_some'.mp written
  cases writeToStream_step obeys call with
  | closing _ => exact ours.append [] nofun (by simp) rfl (List.prefix_refl _) (fun _ => id) le_rfl
  | failed | serverClosed => trivial
  | blocked _ _ _ _ _ frames _ _ client =>
    exact ours.append [] nofun (by simp [frames]) client (List.prefix_refl _) (fun _ => id)
      (by simp [accepted])
  | completed count wrote notClosing reached within =>
    cases closes : loop.inner.closesAt .client loop.inner.writeLength with
    | none =>
      exact ours.append [] nofun (by simp) (by simp) (List.prefix_refl _)
        (fun close isClosing => by simpa [closes] using isClosing) (by simp [accepted])
    | some close => exact ours_closed books sound ours notClosing wrote reached within closes

variable (options) in
/-- The close books, the wire, the client's close and the handshake's books, kept together. -/
structure Ending (loop : EventLoop) : Prop where
  books : CloseBooks loop
  sound : Sound loop
  ours : OurCloseBooks loop
  handshake : HandshakeBooks options loop

/-- An operation lands in the ending books where each part lands. -/
theorem Ending.lands {result : EventLoop × Outcome}
    (books : Lands CloseBooks (fun _ _ => True) result) (sound : Lands Sound SentPrefix result)
    (ours : Lands OurCloseBooks (fun _ _ => True) result)
    (handshake : Lands (HandshakeBooks options) (fun _ => SecureIff) result) :
    Lands (Ending options) (fun _ _ => True) result := by
  obtain ⟨loop, outcome⟩ := result
  cases outcome with
  | ok => exact ⟨books, sound, ours, handshake⟩
  | err _ | panic _ => trivial

/-- A new loop keeps the ending books. -/
theorem ending_new (registration : Except IoError Unit) (loop : EventLoop)
    (created : EventLoop.new registration = .ok loop) : Ending options loop := by
  cases registration with
  | error error => cases created
  | ok =>
    refine ⟨books_new _ _ created, sound_new _ _ created, ?_, handshake_new _ _ created⟩
    cases created
    exact ⟨nofun, nofun, nofun⟩

/-- Every operation keeps the ending books. -/
theorem ending_kept : Kept serializer options (Ending options) (fun _ _ => True) where
  stay _ _ _ := trivial
  foreign _ _ := trivial
  dispatch loop frame ending :=
    Ending.lands ((@books_kept serializer options).dispatch loop frame ending.books)
      ((@sound_kept serializer options).dispatch loop frame ending.sound)
      (ours_dispatch ending.books ending.ours ending.handshake.progress frame)
      ((@handshake_kept serializer options).dispatch loop frame ending.handshake)
  recordRx loop ending :=
    ⟨(@books_kept serializer options).recordRx loop ending.books,
      (@sound_kept serializer options).recordRx loop ending.sound,
      ending.ours.append [] nofun (by simp [Inner.recordRxActivity]) rfl (List.prefix_refl _)
        (fun _ => id) le_rfl,
      (@handshake_kept serializer options).recordRx loop ending.handshake⟩
  write loop responses result obeys ending written :=
    Ending.lands
      ((@books_kept serializer options).write loop responses result obeys ending.books written)
      ((@sound_kept serializer options).write loop responses result obeys ending.sound written)
      (ours_write obeys ending.books ending.sound ending.ours written)
      ((@handshake_kept serializer options).write loop responses result obeys ending.handshake
        written)
  consume loop ending :=
    ⟨(@books_kept serializer options).consume loop ending.books,
      (@sound_kept serializer options).consume loop ending.sound,
      ending.ours.append [] nofun (by simp) rfl (List.prefix_refl _) (fun _ => id) le_rfl,
      (@handshake_kept serializer options).consume loop ending.handshake⟩
  timers loop due ending := by
    have effect := processHeartbeatTimers_effect serializer loop.inner due
    obtain ⟨count, frames⟩ := effect.frames
    refine Ending.lands ((@books_kept serializer options).timers loop due ending.books)
      ((@sound_kept serializer options).timers loop due ending.sound) ?_
      ((@handshake_kept serializer options).timers loop due ending.handshake)
    rw [processHeartbeatTimers_eq]
    exact lands_running fun _ =>
      ending.ours.append _ (by simp [OutFrame.closeSide]) frames effect.ourCloseReq
        (List.prefix_refl _) (fun _ => id) le_rfl
  reregister loop writable ending :=
    ⟨(@books_kept serializer options).reregister loop writable ending.books,
      (@sound_kept serializer options).reregister loop writable ending.sound,
      ending.ours.append [] nofun (by simp) rfl (List.prefix_refl _) (fun _ => id) le_rfl,
      (@handshake_kept serializer options).reregister loop writable ending.handshake⟩

/-- At every point of every run where the loop is `Closing(close)`: `close` is the close
recorded in `our_close_req`, the NOT_IMPLEMENTED close built for a frame received in `Steady`
that `Steady` did not handle; the first close frame of the client queued carries it; the stream
has accepted every byte pushed up to the end of that frame; and the server's close-ok is
answered with `ClientClosedConnection` and that close's code and text. -/
theorem closing_after_our_close_sent {loop : EventLoop}
    (visited : Visited serializer options loop) {close : Close}
    (closing : loop.state = .closing close) :
    ∃ request unhandled stop, loop.inner.ourCloseReq = some request ∧ request.close = close ∧
      UnhandledInSteady loop.dispatched unhandled ∧ close = unknownFrameClose unhandled ∧
      firstClientClose loop.inner.outbuf.frames = some close ∧
      firstEnd .client loop.inner.outbuf.frames = some stop ∧
      loop.inner.outbuf.pushed.take stop <+: loop.stream.sent ∧
      (loop.dispatch serializer options (connectionFrame .closeOk)).2 =
        .fail (.clientClosedConnection close.replyCode close.replyText) := by
  have ending := visited.holds ending_kept ending_new
  obtain ⟨request, stop, recorded, rfl, ends, below⟩ := ending.ours.sent close closing
  obtain ⟨unhandled, received, reason⟩ := ending.ours.answers request recorded
  refine ⟨request, unhandled, stop, recorded, rfl, received, reason,
    ending.ours.carried request recorded, ends, take_prefix_sent ending.sound.sentPrefix below, ?_⟩
  rw [dispatch_eq (by simp [connectionFrame]), closing]
  rfl

/-- The delivery received after the handshake is answered with our close, which the loop has
written and is `Closing` with. -/
theorem closing_after_our_close_sent_closedByUs :
    (runFromStart closedByUs).state = .closing (unknownFrameClose delivery) ∧
      firstClientClose (runFromStart closedByUs).inner.outbuf.frames =
        some (unknownFrameClose delivery) := by
  obtain ⟨-, -, -, -, -, -, -, carried, -⟩ := closing_after_our_close_sent
    (show Visited exampleSerializer exampleOptions (runFromStart closedByUs) from
      .reachable (runFromStart_reachable (handshake_obeys (by simp [acceptsAll_obeys])) rfl))
    (show (runFromStart closedByUs).state = .closing (unknownFrameClose delivery) from rfl)
  exact ⟨rfl, carried⟩

/-- No frame of the push log is empty. -/
def WholeFrames (loop : EventLoop) : Prop :=
  ∀ entry ∈ loop.inner.outbuf.frames, entry.2 ≠ []

/-- Appending frames none of which is empty keeps the push log whole. -/
theorem WholeFrames.append {loop after : EventLoop} (whole : WholeFrames loop)
    (more : List (OutFrame × List UInt8))
    (frames : after.inner.outbuf.frames = loop.inner.outbuf.frames ++ more)
    (nonempty : ∀ entry ∈ more, entry.2 ≠ []) : WholeFrames after := fun entry member => by
  rw [frames, List.mem_append] at member
  exact member.elim (whole entry) (nonempty entry)

/-- Every operation keeps the push log whole: `process` pushes method frames the serializer
encoded, and the timer path the canonical heartbeat frame, neither of them empty. -/
theorem whole_kept : Kept serializer options WholeFrames (fun _ _ => True) where
  stay _ _ _ := trivial
  foreign _ _ := trivial
  dispatch loop frame whole := by
    by_cases heartbeat : frame = .heartbeat 0
    · subst heartbeat
      exact whole
    rw [dispatch_eq heartbeat]
    generalize processed : loop.state.process serializer options loop.inner frame = result
    obtain ⟨state, after, outcome⟩ := result
    obtain ⟨more, frames, pushed⟩ := process_pushes serializer options processed
    exact lands_running fun _ =>
      whole.append more frames fun entry member => (pushed entry member).2
  recordRx _ whole := whole
  write loop responses result obeys whole written := by
    obtain ⟨⟨inner, state, stream, outcome⟩, call, rfl⟩ := Option.map_eq_some'.mp written
    refine lands_running fun _ => ?_
    cases writeToStream_step obeys call with
    | closing | failed | serverClosed | completed => simpa [WholeFrames] using whole
    | blocked _ _ _ _ _ frames => exact whole.append [] (by simpa using frames) nofun
  consume _ whole := whole
  timers loop due whole := by
    obtain ⟨count, frames⟩ := (processHeartbeatTimers_effect serializer loop.inner due).frames
    rw [processHeartbeatTimers_eq]
    exact lands_running fun _ => whole.append _ frames fun entry member =>
      (List.eq_of_mem_replicate member) ▸ serializer.heartbeat_ne_nil
  reregister _ _ whole := whole

/-- A new loop has pushed nothing. -/
theorem whole_new (registration : Except IoError Unit) (loop : EventLoop)
    (created : EventLoop.new registration = .ok loop) : WholeFrames loop := by
  cases registration with
  | error error => cases created
  | ok =>
    cases created
    exact nofun

/-- With our close queued before any close-ok and its offset exact, a write tries to send exactly
up to the end of our close, which is not where a close-ok ends: every pushed frame has bytes, so a
close-ok queued behind ours ends strictly after it. -/
theorem writeLength_eq_client {loop : EventLoop} (books : CloseBooks loop)
    (whole : WholeFrames loop) (notClosing : ¬ loop.state.isClosing) {request : CloseRequest}
    (recorded : loop.inner.ourCloseReq = some request)
    (exact : firstEnd .client loop.inner.outbuf.frames =
      some (loop.inner.outbuf.start + request.pos))
    (closeFirst : firstCloser loop.inner.outbuf.frames = some .client) :
    loop.inner.writeLength = request.pos ∧ loop.inner.closesAt .server request.pos = none := by
  have inside : request.pos ≤ loop.inner.outbuf.len := by
    have := (firstEndWhere_le exact).1
    have := OutputBuffer.start_add_len loop.inner.outbuf
    simp only [OutputBuffer.pushed] at this
    omega
  cases server : loop.inner.serverCloseReq with
  | none => simp [Inner.writeLength, Inner.closesAt, server, recorded, inside]
  | some theirs =>
    have := firstEnd_lt_of_firstCloser whole (by decide) closeFirst exact
      (books.serverEnds notClosing theirs server).1
    have before : request.pos < theirs.pos := by omega
    simp [Inner.writeLength, Inner.closesAt, server, recorded, before.ne]
    omega

/-- The client's close completes on a stream that lets it: at every point of every run where our
close is recorded with an offset that still ends exactly at its frame, and was queued before any
close-ok, a stream that keeps the contract, never fails and accepts at least one byte of every
write moves the loop to `Closing` with that close within one write more than the offset. -/
theorem client_close_sent_on_accepting_stream {loop : EventLoop}
    (visited : Visited serializer options loop) {request : CloseRequest}
    (recorded : loop.inner.ourCloseReq = some request)
    (exact : firstEnd .client loop.inner.outbuf.frames =
      some (loop.inner.outbuf.start + request.pos))
    (closeFirst : firstCloser loop.inner.outbuf.frames = some .client)
    {responses : List Response}
    (good : ∀ response ∈ responses,
      response.Obeys ∧ Progresses response ∧ NeverFails response)
    (enough : request.pos < responses.length) :
    ∃ after, loop.writeToStream responses = some (after, .ok) ∧
      after.state = .closing request.close := by
  by_cases closing : loop.state.isClosing
  · obtain ⟨close, isClosing⟩ : ∃ close, loop.state = .closing close := by
      cases state : loop.state <;> simp_all [ConnectionState.isClosing]
    obtain ⟨request', -, recorded', rfl, -⟩ :=
      (visited.holds ending_kept ending_new).ours.sent close isClosing
    rw [recorded, Option.some.injEq] at recorded'
    subst recorded'
    exact ⟨{ loop with inner := { loop.inner with outbuf := loop.inner.outbuf.clear } },
      by simp [EventLoop.writeToStream, Inner.writeToStream, closing], isClosing⟩
  · have length := writeLength_eq_client (visited.holds books_kept books_new)
      (visited.holds whole_kept whole_new) closing recorded exact closeFirst
    obtain ⟨⟨inner, state, stream, outcome⟩, written, entered, ended⟩ :=
      writeToStream_completes loop.inner loop.state loop.stream responses closing good
        (length.1 ▸ enough)
    simp only [Inner.afterCompleted, length.1, length.2] at entered ended
    simp only [Inner.closesAt, Inner.closeReq_client, recorded, if_true] at entered
    refine ⟨_, by rw [EventLoop.writeToStream, written, ended]; rfl, entered⟩

/-- The handshake, then a frame `Steady` answers with our close, not yet written. -/
def closePending : List Iteration := handshake ++ [pass [reads [delivery]]]

/-- The close queued for the delivery is written whole by a stream taking every slice. -/
theorem client_close_sent_on_accepting_stream_closePending :
    (runFromStart closePending).inner.ourCloseReq = some ⟨unknownFrameClose delivery, 12⟩ ∧
      ∃ after, (runFromStart closePending).writeToStream (List.replicate 13 acceptsAll) =
        some (after, .ok) ∧ after.state = .closing (unknownFrameClose delivery) :=
  ⟨rfl, client_close_sent_on_accepting_stream
    (show Visited exampleSerializer exampleOptions (runFromStart closePending) from
      .reachable (runFromStart_reachable (handshake_obeys (by simp)) rfl)) rfl rfl rfl
    (by simp [acceptsAll_obeys, acceptsAll_progresses, acceptsAll_neverFails]) (by decide)⟩

end Amiquip.Shutdown
