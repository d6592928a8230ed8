import Amiquip.Verif.Runs
import Amiquip.Verif.WriteLoop

/-!
# What reaches the wire

Over every run on a stream that keeps the `io::Write` contract, the bytes the stream accepted
are a prefix of the bytes the loop pushed, in push order: nothing is sent twice, out of order or
that was never queued. Until the state is `Closing` they are exactly the pushed bytes before the
buffer's front, so a drain or a clear only ever drops bytes that went out. Once `Closing`, the
buffer is cleared without being written and the wire stays where it was.
-/

namespace Amiquip.Wire

open EventLoop Runs Effects WriteLoop

variable {serializer : Serializer} {options : ConnectionOptions}

/-- The bytes accepted by the stream, against the bytes pushed. -/
structure Sound (loop : EventLoop) : Prop where
  sentPrefix : loop.stream.sent <+: loop.inner.outbuf.pushed
  exact : ¬ loop.state.isClosing →
    loop.stream.sent = loop.inner.outbuf.pushed.take loop.inner.outbuf.start

/-- Where an iteration stops, the stream has accepted a prefix of the pushed bytes. -/
def SentPrefix (_ : Outcome) (loop : EventLoop) : Prop :=
  loop.stream.sent <+: loop.inner.outbuf.pushed

/-- A loop with a sound wire lands soundly however the operation that reached it ended. -/
theorem Sound.lands {loop : EventLoop} (sound : Sound loop) (outcome : Outcome) :
    Lands Sound SentPrefix (loop, outcome) := by
  cases outcome with
  | ok => exact sound
  | err _ | panic _ => exact sound.sentPrefix

/-- Appending frames, with the front, the wire and `Closing` left alone, keeps the wire sound. -/
theorem Sound.append {loop after : EventLoop} (sound : Sound loop)
    (sent : after.stream.sent = loop.stream.sent)
    (start : after.inner.outbuf.start = loop.inner.outbuf.start)
    (frames : ∃ more, after.inner.outbuf.frames = loop.inner.outbuf.frames ++ more)
    (closing : ¬ after.state.isClosing → ¬ loop.state.isClosing) : Sound after := by
  obtain ⟨more, frames⟩ := frames
  have pushed : after.inner.outbuf.pushed = loop.inner.outbuf.pushed ++ frameBytes more := by
    simp [OutputBuffer.pushed, frames]
  refine ⟨?_, fun notClosing => ?_⟩
  · rw [sent, pushed]
    exact sound.sentPrefix.trans (List.prefix_append _ _)
  · rw [sent, pushed, start, List.take_append_of_le_length (OutputBuffer.start_le_pushed _)]
    exact sound.exact (closing notClosing)

/-- Accepting the next `count` queued bytes extends an exact wire to the front moved by
`count`. -/
theorem accepted_take {loop : EventLoop} (exact : loop.stream.sent =
    loop.inner.outbuf.pushed.take loop.inner.outbuf.start) (count : Nat) :
    (accepted loop.stream loop.inner count).sent =
      loop.inner.outbuf.pushed.take (loop.inner.outbuf.start + count) := by
  simp [accepted, exact, List.take_add, OutputBuffer.bytes]

/-- A write keeps the wire sound, and where it stops the wire is a prefix of the pushed bytes. -/
theorem write_sound {loop : EventLoop} {responses : List Response} {result : EventLoop × Outcome}
    (obeys : ∀ response ∈ responses, response.Obeys) (sound : Sound loop)
    (written : loop.writeToStream responses = some result) :
    Lands Sound SentPrefix result := by
  obtain ⟨⟨inner, state, stream, outcome⟩, call, rfl⟩ := Option.map_eq_some'.mp written
  cases writeToStream_step obeys call with
  | closing closing =>
    exact ⟨by simpa using sound.sentPrefix, fun notClosing => absurd closing notClosing⟩
  | failed count _ _ notClosing | serverClosed count _ _ notClosing =>
    show (accepted loop.stream loop.inner count).sent <+: _
    rw [accepted_take (sound.exact notClosing) count]
    simpa using List.take_prefix _ _
  | blocked count wrote _ notClosing below frames start =>
    have pushed : inner.outbuf.pushed = loop.inner.outbuf.pushed := by
      simp [OutputBuffer.pushed, frames]
    have sent := accepted_take (sound.exact notClosing) count
    refine ⟨?_, fun _ => ?_⟩
    · show (accepted loop.stream loop.inner count).sent <+: _
      rw [sent, pushed]
      exact List.take_prefix _ _
    · show (accepted loop.stream loop.inner count).sent = _
      rw [sent, pushed, start]
  | completed count wrote notClosing reached within server =>
    have sent := accepted_take (sound.exact notClosing) count
    refine ⟨?_, fun notClosing' => ?_⟩
    · show (accepted loop.stream loop.inner count).sent <+: _
      rw [sent]
      simpa using List.take_prefix _ _
    · show (accepted loop.stream loop.inner count).sent = _
      have client : loop.inner.closesAt .client loop.inner.writeLength = none := by
        cases closes : loop.inner.closesAt .client loop.inner.writeLength
        · rfl
        · simp [closes, ConnectionState.isClosing] at notClosing'
      have whole := writeLength_eq_len server client
      rw [sent]
      have := OutputBuffer.len_eq loop.inner.outbuf
      have := OutputBuffer.start_le_pushed loop.inner.outbuf
      simp only [txRecorded_outbuf, OutputBuffer.start_clear, OutputBuffer.pushed_clear]
      rw [List.take_of_length_le (by omega), List.take_of_length_le (by omega)]

/-- Every operation keeps the wire sound. -/
theorem sound_kept : Kept serializer options Sound SentPrefix where
  stay _ _ sound := sound.sentPrefix
  foreign _ sound := sound.sentPrefix
  dispatch loop frame sound := by
    unfold EventLoop.dispatch
    split
    · exact sound
    · generalize processed : loop.state.process serializer options loop.inner frame = result
      obtain ⟨state, inner, outcome⟩ := result
      obtain ⟨start, frames, closing⟩ := process_appends serializer options processed
      have after : Sound { loop with state, inner, dispatched := loop.dispatched ++ [frame] } :=
        sound.append rfl start frames fun notClosing wasClosing => notClosing (by
          rw [closing wasClosing]; exact wasClosing)
      exact after.lands outcome
  recordRx loop sound := ⟨sound.sentPrefix, sound.exact⟩
  write _ _ _ obeys sound written := write_sound obeys sound written
  consume loop sound := ⟨sound.sentPrefix, sound.exact⟩
  timers loop due sound := by
    have effect := processHeartbeatTimers_effect serializer loop.inner due
    obtain ⟨count, frames⟩ := effect.frames
    have after : Sound (loop.processHeartbeatTimers serializer due).1 :=
      sound.append rfl effect.start ⟨_, frames⟩ id
    rw [processHeartbeatTimers_eq] at after ⊢
    exact after.lands _
  reregister loop writable sound := ⟨sound.sentPrefix, sound.exact⟩

/-- A new loop has sent nothing. -/
theorem sound_new (registration : Except IoError Unit) (loop : EventLoop)
    (created : EventLoop.new registration = .ok loop) : Sound loop := by
  cases registration with
  | error error => cases created
  | ok => cases created; exact ⟨List.nil_prefix, fun _ => rfl⟩

/-- Over every run, at every reachable loop and where the next iteration stops, the bytes the
stream accepted are a prefix of the bytes pushed, in push order. -/
theorem sent_prefix_of_pushed {loop : EventLoop} (reachable : Reachable serializer options loop)
    {iteration : Iteration} (obeys : iteration.Obeys) {after : EventLoop} {outcome : Outcome}
    (iterated : loop.iterate serializer options iteration = some (after, outcome)) :
    loop.stream.sent <+: loop.inner.outbuf.pushed ∧
      after.stream.sent <+: after.inner.outbuf.pushed := by
  have sound := Reachable.holds sound_kept sound_new reachable
  have lands := sound_kept.iterate obeys sound iterated
  refine ⟨sound.sentPrefix, ?_⟩
  cases outcome with
  | ok => exact lands.sentPrefix
  | err _ | panic _ => exact lands

/-- After the happy handshake the stream has accepted a prefix of what was pushed. -/
theorem sent_prefix_of_pushed_handshake :
    (runFromStart handshake).stream.sent <+: (runFromStart handshake).inner.outbuf.pushed :=
  (sent_prefix_of_pushed
    (runFromStart_reachable (show ∀ iteration ∈ handshake, iteration.Obeys by simp [handshake]) rfl)
    (show (pass [writes [acceptsAll]]).Obeys by simp [acceptsAll_obeys]) rfl).1

/-- Until `Closing`, at every point of every run, the bytes the stream has accepted followed by
the bytes still queued are exactly the bytes pushed: a drain or a clear drops only bytes that
went out, and no queued byte is lost, sent twice or reordered. -/
theorem sent_then_queued_is_pushed {loop : EventLoop} (visited : Visited serializer options loop)
    (notClosing : ¬ loop.state.isClosing) :
    loop.stream.sent ++ loop.inner.outbuf.bytes = loop.inner.outbuf.pushed := by
  rw [(visited.holds sound_kept sound_new).exact notClosing]
  exact List.take_append_drop _ _

/-- After the happy handshake what the stream accepted and what is queued make up what was
pushed. -/
theorem sent_then_queued_is_pushed_handshake :
    ¬ (runFromStart handshake).state.isClosing ∧
      (runFromStart handshake).stream.sent ++ (runFromStart handshake).inner.outbuf.bytes =
        (runFromStart handshake).inner.outbuf.pushed :=
  ⟨by decide, sent_then_queued_is_pushed (.reachable (runFromStart_reachable
    (show ∀ iteration ∈ handshake, iteration.Obeys by simp [handshake]) rfl)) (by decide)⟩

/-- The slice handed to the stream runs to the end of the buffer, not to the close it must stop
at: with our close queued before the server's close-ok, a stream that takes the whole slice is
sent the close-ok too, past the end of the first close frame queued, and the loop runs on in
`Closing`. -/
theorem sends_past_first_close :
    ∃ loop after, Reachable exampleSerializer exampleOptions loop ∧
      (pass [writes [acceptsAll]]).Obeys ∧
      loop.iterate exampleSerializer exampleOptions (pass [writes [acceptsAll]]) = some (after, .ok) ∧
      ∃ bound, PushLog.firstCloseEnd after.inner.outbuf.frames = some bound ∧
        bound < after.stream.sent.length :=
  ⟨runFromStart (handshake ++ [pass [reads [delivery, connectionFrame (.close shutdown)]]]), _,
    runFromStart_reachable (handshake_obeys (by simp)) rfl, by simp [acceptsAll_obeys], rfl, _, rfl,
    by decide⟩

end Amiquip.Wire
