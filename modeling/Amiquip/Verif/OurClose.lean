import Amiquip.Verif.Shutdown

/-!
# Our close on a stream that blocks only up front

`write_to_stream` decides where to stop from the offsets the two close requests recorded when
their frames were queued. When a call blocks after writing part of the buffer, the `WouldBlock`
branch drains what was written and moves the server's offset back by it, but leaves
`our_close_req.pos` where it was, so the client's offset then ends past its close. That is the
only way it drifts. Over a stream that blocks a write call only before accepting any of it, the
drain is empty: at every point of every run until `Closing`, our close's offset ends exactly at
its frame, and where that close was queued before any close-ok, a write call enters `Closing`
with it exactly in the call that gets its last byte accepted, never earlier. The points of such
runs are those of `VisitedUnder`, every write answered as `BlocksUpFront` says.
-/

namespace Amiquip

/-- The stream keeps the `io::Write` contract and blocks a write call only before accepting any
of it: no answer after the first is `WouldBlock`. -/
def BlocksUpFront (responses : List Response) : Prop :=
  Obeying responses ∧
    ∀ response ∈ responses.drop 1, ∀ slice, response slice ≠ .error ⟨.wouldBlock⟩

end Amiquip

namespace Amiquip.OurClose

open EventLoop Runs Effects WriteLoop PushLog Wire CloseRequests Shutdown

variable {serializer : Serializer} {options : ConnectionOptions}

/-- A write loop none of whose answers blocks does not end blocked. -/
theorem writeLoop_unblocked {outbuf : OutputBuffer} {len : Nat} :
    ∀ {pos : Nat} {responses : List Response} {run : WriteRun},
      (∀ response ∈ responses, ∀ slice, response slice ≠ .error ⟨.wouldBlock⟩) →
        writeLoop outbuf len pos responses = some run → ∀ stop, run.finish ≠ .blocked stop
  | pos, [], run, _, looped, stop => by
    unfold writeLoop at looped
    split at looped
    · cases looped
    · cases looped; nofun
  | pos, response :: later, run, never, looped, stop => by
    unfold writeLoop at looped
    split at looped
    · split at looped
      · cases looped; nofun
      · split at looped
        · rename_i n _
          obtain ⟨rest, found, rfl⟩ := Option.map_eq_some'.mp looped
          exact writeLoop_unblocked (fun r mem => never r (by simp [mem])) found stop
        · rename_i slice _ _ error answered
          cases looped
          obtain ⟨kind⟩ := error
          cases kind with
          | wouldBlock => exact absurd answered (never response (by simp) slice)
          | other _ => nofun
    · cases looped; nofun

/-- A write loop whose answers after the first never block ends blocked only where it started,
before accepting anything. -/
theorem writeLoop_blocked_first {outbuf : OutputBuffer} {len pos : Nat}
    {responses : List Response} {run : WriteRun}
    (later :
      ∀ response ∈ responses.drop 1, ∀ slice, response slice ≠ .error ⟨.wouldBlock⟩)
    (looped : writeLoop outbuf len pos responses = some run) {stop : Nat}
    (blocked : run.finish = .blocked stop) : stop = pos := by
  cases responses with
  | nil =>
    unfold writeLoop at looped
    split at looped
    · cases looped
    · cases looped; cases blocked
  | cons response rest =>
    unfold writeLoop at looped
    split at looped
    · split at looped
      · cases looped; cases blocked
      · split at looped
        · obtain ⟨after, found, rfl⟩ := Option.map_eq_some'.mp looped
          exact absurd blocked (writeLoop_unblocked later found stop)
        · cases looped
          split at blocked
          · cases blocked; rfl
          · cases blocked
    · cases looped; cases blocked

/-- Over answers that block only up front, a call that ends blocked has accepted nothing. -/
theorem writeToStream_blocked_nothing {inner : Inner} {state : ConnectionState}
    {stream : Socket} {responses : List Response} {after : Inner} {count : Nat}
    (upFront : BlocksUpFront responses) (below : count < inner.writeLength)
    (call : inner.writeToStream state stream responses =
      some (after, state, { accepted stream inner count with writable := true }, .ok)) :
    count = 0 := by
  have toLen := (writeLength_le inner).1
  have taken : ∀ accepted : List UInt8,
      stream.sent ++ accepted = stream.sent ++ inner.outbuf.bytes.take count →
        accepted.length = count := fun accepted same => by
    have := congrArg List.length (List.append_cancel_left same)
    simp only [OutputBuffer.len] at toLen
    simp only [List.length_take] at this
    omega
  have sent : ∀ {result : Inner × ConnectionState × Socket × Outcome},
      result = (after, state, { accepted stream inner count with writable := true }, .ok) →
        result.2.2.1.sent = stream.sent ++ inner.outbuf.bytes.take count := by
    rintro _ rfl; rfl
  unfold Inner.writeToStream at call
  split at call
  · have := taken [] (by simpa using sent (Option.some.inj call))
    simp only [List.length_nil] at this
    omega
  · obtain ⟨run, looped, same⟩ := Option.map_eq_some'.mp call
    obtain ⟨-, -, fits⟩ := writeLoop_spec upFront.1 (Nat.zero_le _) looped
    cases finish : run.finish with
    | panicked | failed => simp [finish] at same
    | blocked stop =>
      have first := writeLoop_blocked_first upFront.2 looped finish
      simp only [finish, Fits, Nat.zero_add] at fits
      simp only [finish] at same
      split at same
      · simp at same
      · have := taken run.accepted (by simpa using sent same)
        omega
    | completed stop =>
      simp only [finish, Fits, Nat.zero_add] at fits
      simp only [finish] at same
      have := taken run.accepted (by simpa using sent same)
      omega

/-! ## The books of our close -/

/-- The books of both closes, with our close's offset ending exactly at its frame until
`Closing`, after at least one byte still to send. -/
structure OurCloseExact (loop : EventLoop) : Prop where
  books : CloseBooks loop
  exact : ¬ loop.state.isClosing → ∀ request, loop.inner.ourCloseReq = some request →
    firstEnd .client loop.inner.outbuf.frames = some (loop.inner.outbuf.start + request.pos) ∧
      0 < request.pos

/-- An exact offset lies inside the buffer. -/
theorem pos_le_len {loop : EventLoop} {request : CloseRequest}
    (exact : firstEnd .client loop.inner.outbuf.frames =
      some (loop.inner.outbuf.start + request.pos)) :
    request.pos ≤ loop.inner.outbuf.len := by
  have := (firstEndWhere_le exact).1
  have := OutputBuffer.start_add_len loop.inner.outbuf
  simp only [OutputBuffer.pushed] at this
  omega

/-- Frames pushed behind the front with our request and `Closing` left alone keep the offset
exact. -/
theorem OurCloseExact.append {loop after : EventLoop} (ours : OurCloseExact loop)
    (books : CloseBooks after) (more : List (OutFrame × List UInt8))
    (frames : after.inner.outbuf.frames = loop.inner.outbuf.frames ++ more)
    (start : after.inner.outbuf.start = loop.inner.outbuf.start)
    (client : after.inner.ourCloseReq = loop.inner.ourCloseReq)
    (open' : ¬ after.state.isClosing → ¬ loop.state.isClosing) : OurCloseExact after :=
  ⟨books, fun notClosing request recorded => by
    obtain ⟨found, positive⟩ := ours.exact (open' notClosing) request (client ▸ recorded)
    rw [frames, start, firstEnd_append_of_some found]
    exact ⟨rfl, positive⟩⟩

/-- A new loop records no close of its own. -/
theorem exact_new (registration : Except IoError Unit) (loop : EventLoop)
    (created : EventLoop.new registration = .ok loop) : OurCloseExact loop := by
  cases registration with
  | error error => cases created
  | ok =>
    cases created
    exact ⟨books_new (.ok ()) _ rfl, fun _ _ recorded => nomatch recorded⟩

/-- Every frame keeps the offset exact: `process` leaves our request alone, or records it with
its frame pushed last. -/
theorem exact_dispatch {loop : EventLoop} (ours : OurCloseExact loop) (frame : AMQPFrame) :
    Lands OurCloseExact (fun _ _ => True) (loop.dispatch serializer options frame) := by
  have books := @books_dispatch serializer options loop ours.books frame
  by_cases heartbeat : frame = .heartbeat 0
  · subst heartbeat
    exact ours
  rw [dispatch_eq heartbeat] at books ⊢
  generalize processed : loop.state.process serializer options loop.inner frame = result at books
  obtain ⟨state, inner, outcome⟩ := result
  refine lands_running fun ok => ?_
  subst ok
  obtain ⟨start, -, kept⟩ := process_appends serializer options processed
  have open' : ¬ state.isClosing → ¬ loop.state.isClosing := fun notClosing isClosing =>
    notClosing (kept isClosing ▸ isClosing)
  rcases process_ourCloseReq serializer options processed with
    same | ⟨unrecorded, close, bytes, nonempty, frames, start, recorded⟩
  · obtain ⟨more, frames⟩ := (process_appends serializer options processed).2.1
    exact ours.append books more frames start same open'
  · refine ⟨books, fun notClosing request found => ?_⟩
    rw [recorded, Option.some.injEq] at found
    subst found
    have none : closeCount .client loop.inner.outbuf.frames = 0 := by
      simpa [unrecorded] using ours.books.clientCount
    have whole := OutputBuffer.start_add_len loop.inner.outbuf
    simp only [OutputBuffer.pushed] at whole
    refine ⟨?_, by simp only; have := List.length_pos.mpr nonempty; omega⟩
    rw [frames, firstEnd_append_single none
      (show OutFrame.closeSide (.method 0 (.close close)) = some .client from rfl), start]
    simp only [Option.some.injEq]
    omega

/-- A write over answers that block only up front keeps the offset exact: a call that blocks
drains nothing, and one that completes enters `Closing` or finds no close of ours. -/
theorem exact_write {loop : EventLoop} (ours : OurCloseExact loop) {responses : List Response}
    {result : EventLoop × Outcome} (upFront : BlocksUpFront responses)
    (written : loop.writeToStream responses = some result) :
    Lands OurCloseExact (fun _ _ => True) result := by
  have books := books_write upFront.1 ours.books written
  obtain ⟨⟨inner, state, stream, outcome⟩, call, rfl⟩ := Option.map_eq_some'.mp written
  refine lands_running fun ok =>
    ⟨by subst ok; exact books, fun notClosing request recorded => ?_⟩
  cases writeToStream_step upFront.1 call with
  | closing isClosing => exact absurd isClosing notClosing
  | failed | serverClosed => cases ok
  | blocked count wrote after notClosing' below frames start server client =>
    cases writeToStream_blocked_nothing upFront below call
    rw [frames, start]
    exact ours.exact notClosing' request (client ▸ recorded)
  | completed count wrote notClosing' reached inside server =>
    cases closes : loop.inner.closesAt .client loop.inner.writeLength with
    | some close => simp [closes, ConnectionState.isClosing] at notClosing
    | none =>
      exfalso
      simp only [txRecorded_ourCloseReq] at recorded
      have inBuffer := pos_le_len (ours.exact notClosing' request recorded).1
      have short : loop.inner.writeLength ≠ request.pos := fun same => by
        simp [Inner.closesAt, recorded, same] at closes
      cases theirs : loop.inner.serverCloseReq with
      | none => exact short (by simp [Inner.writeLength, theirs, recorded, inBuffer])
      | some request' =>
        obtain ⟨ours', found, ends, -⟩ := completed_short ours.books notClosing' theirs server
        rw [recorded, Option.some.injEq] at found
        exact short (found ▸ ends)

/-- Every operation of a run over answers that block only up front keeps the offset exact. -/
theorem exact_kept :
    KeptUnder serializer options BlocksUpFront OurCloseExact (fun _ _ => True) where
  stay _ _ _ := trivial
  foreign _ _ := trivial
  dispatch _ frame ours := exact_dispatch ours frame
  recordRx loop ours := ⟨(@books_kept serializer options).recordRx loop ours.books, ours.exact⟩
  write _ _ _ upFront ours written := exact_write ours upFront written
  consume loop ours := ⟨(@books_kept serializer options).consume loop ours.books, ours.exact⟩
  timers loop due ours := by
    have effect := processHeartbeatTimers_effect serializer loop.inner due
    obtain ⟨count, frames⟩ := effect.frames
    have books := (@books_kept serializer options).timers loop due ours.books
    rw [processHeartbeatTimers_eq] at books ⊢
    exact lands_running fun ok => ours.append (by rw [ok] at books; exact books) _ frames
      effect.start effect.ourCloseReq id
  reregister loop writable ours :=
    ⟨(@books_kept serializer options).reregister loop writable ours.books, ours.exact⟩

/-! ## Our close over a stream that blocks only up front -/

/-- What every operation keeps over streams that keep the contract holds at every point of a run
over a stream that blocks only up front. -/
theorem holds_up_front {holds : EventLoop → Prop} {stops : Outcome → EventLoop → Prop}
    (kept : Kept serializer options holds stops)
    (new : ∀ registration loop, EventLoop.new registration = .ok loop → holds loop)
    {loop : EventLoop} (visited : VisitedUnder serializer options BlocksUpFront loop) :
    holds loop :=
  visited.kept (kept.weaken fun _ up => up.1) new

/-- Over a stream that blocks a write call only before accepting any of it, at every point of
every run until `Closing`, our close's offset ends exactly at its frame, inside the buffer and
with at least one byte of it still to send. -/
theorem our_close_offset_exact_up_front {loop : EventLoop}
    (visited : VisitedUnder serializer options BlocksUpFront loop)
    (notClosing : ¬ loop.state.isClosing) {request : CloseRequest}
    (recorded : loop.inner.ourCloseReq = some request) :
    0 < request.pos ∧ request.pos ≤ loop.inner.outbuf.len ∧
      firstEnd .client loop.inner.outbuf.frames = some (loop.inner.outbuf.start + request.pos) :=
  have ⟨ends, positive⟩ := (visited.kept exact_kept exact_new).exact notClosing request recorded
  ⟨positive, pos_le_len ends, ends⟩

/-- The loop where the handshake and a delivery leave it is reached over a stream that takes every
slice whole. -/
theorem closePending_visited :
    VisitedUnder exampleSerializer exampleOptions BlocksUpFront (runFromStart closePending) :=
  VisitedUnder.mainLoop (.new (show EventLoop.new (.ok ()) = .ok started from rfl))
    (by simp [closePending, handshake, Iteration.Allows, Runs.pass, Event.Allows, exchange, reads,
      BlocksUpFront, Obeying, acceptsAll_obeys])
    (show started.mainLoop exampleSerializer exampleOptions closePending =
      some (runFromStart closePending, .ok) from rfl)

/-- The close queued for the delivery ends within the queued bytes. -/
theorem our_close_offset_exact_up_front_closePending :
    (runFromStart closePending).inner.ourCloseReq = some ⟨unknownFrameClose delivery, 12⟩ ∧
      12 ≤ (runFromStart closePending).inner.outbuf.len :=
  ⟨rfl, (our_close_offset_exact_up_front closePending_visited (by decide) rfl).2.1⟩

/-- Over a stream that blocks a write call only before accepting any of it, at every point of
every run where our close is recorded, was queued before any close-ok and the loop is not yet
`Closing`: the close's last byte has not been sent, and a write call, whatever the stream answers
in it, moves the loop to `Closing` with that close exactly when the stream accepts that byte. -/
theorem closing_on_our_last_byte {loop : EventLoop}
    (visited : VisitedUnder serializer options BlocksUpFront loop)
    (notClosing : ¬ loop.state.isClosing) {request : CloseRequest}
    (recorded : loop.inner.ourCloseReq = some request)
    (closeFirst : firstCloser loop.inner.outbuf.frames = some .client) :
    loop.stream.sent.length < loop.inner.outbuf.start + request.pos ∧
      ∀ responses after outcome, (∀ response ∈ responses, response.Obeys) →
        loop.writeToStream responses = some (after, outcome) →
          (after.state = .closing request.close ↔
            loop.inner.outbuf.start + request.pos ≤ after.stream.sent.length) := by
  have ⟨ends, positive⟩ := (visited.kept exact_kept exact_new).exact notClosing request recorded
  have books := holds_up_front books_kept books_new visited
  have sound := holds_up_front sound_kept sound_new visited
  have whole := holds_up_front whole_kept whole_new visited
  have length := writeLength_eq_client books whole notClosing recorded ends closeFirst
  have sentLength : loop.stream.sent.length = loop.inner.outbuf.start := by
    rw [sound.exact notClosing, List.length_take]
    exact min_eq_left (OutputBuffer.start_le_pushed _)
  have acceptedLength : ∀ count, count ≤ loop.inner.outbuf.len →
      (accepted loop.stream loop.inner count).sent.length = loop.inner.outbuf.start + count := by
    intro count inside
    simp only [accepted, List.length_append, sentLength, List.length_take, OutputBuffer.len]
      at inside ⊢
    omega
  have toLen := (writeLength_le loop.inner).1
  refine ⟨by omega, fun responses after outcome obeys written => ?_⟩
  obtain ⟨⟨inner, state, stream, outcome'⟩, call, same⟩ := Option.map_eq_some'.mp written
  simp only [Prod.mk.injEq] at same
  obtain ⟨rfl, rfl⟩ := same
  cases writeToStream_step obeys call with
  | closing isClosing => exact absurd isClosing notClosing
  | failed count _ _ _ below | blocked count _ _ _ below =>
    have stays : loop.state ≠ .closing request.close := fun isClosing =>
      notClosing (by simp [isClosing, ConnectionState.isClosing])
    simp only [Socket.sent, acceptedLength count (by omega), stays, false_iff]
    omega
  | serverClosed count _ theirs _ _ _ found ends' =>
    simp [Inner.closesAt, found, ← ends', length.1] at length
  | completed count _ _ reached inside _ =>
    simp only [Inner.closesAt, Inner.closeReq_client, recorded, length.1, if_true,
      acceptedLength count inside, true_iff]
    omega

/-- After the handshake and a delivery, our close waits with none of its bytes sent. -/
theorem closing_on_our_last_byte_closePending :
    (runFromStart closePending).stream.sent.length <
      (runFromStart closePending).inner.outbuf.start + 12 :=
  (closing_on_our_last_byte closePending_visited (by decide) rfl rfl).1

end Amiquip.OurClose
