import Amiquip.Verif.Keepalive

/-!
# No heartbeat backlog

The timer path queues a heartbeat frame only when it finds the output buffer empty, and every
other push appends a method frame. A heartbeat frame therefore begins where the queued bytes
begin, and a write only moves that front forward. So over every run, a heartbeat frame that the
stream has not yet taken in full is at the front of the queue, with no output in front of it,
and it is the only heartbeat frame waiting. However long the stream stays slow, heartbeats do
not pile up in the buffer, and none waits behind other output.
-/

namespace Amiquip.Backlog

open EventLoop Runs Effects WriteLoop

variable {serializer : Serializer} {options : ConnectionOptions}

/-! ## Splitting a push log -/

/-- An entry of a list extended at the end is an entry of the list, or of the extension. -/
theorem split_append {α : Type} {frames more before after : List α} {entry : α}
    (split : frames ++ more = before ++ entry :: after) :
    (∃ middle, frames = before ++ entry :: middle) ∨
      ∃ front, before = frames ++ front ∧ more = front ++ entry :: after := by
  rcases List.append_eq_append_iff.mp split with ⟨front, rfl, added⟩ | ⟨front, rfl, rest⟩
  · exact .inr ⟨front, rfl, added⟩
  · cases front with
    | nil => exact .inr ⟨[], by simp, by simpa using rest.symm⟩
    | cons first front =>
      obtain ⟨rfl, -⟩ := List.cons.inj rest
      exact .inl ⟨front, rfl⟩

/-- Two entries of one list: the same position, or one strictly before the other. -/
theorem split_twice {α : Type} {before after before' after' : List α} {entry entry' : α}
    (same : before ++ entry :: after = before' ++ entry' :: after') :
    before = before' ∨ (∃ middle, before' = before ++ entry :: middle) ∨
      ∃ middle, before = before' ++ entry' :: middle := by
  rcases List.append_eq_append_iff.mp same with ⟨front, rfl, rest⟩ | ⟨front, rfl, rest⟩
  · cases front with
    | nil => exact .inl (by simp)
    | cons first front =>
      obtain ⟨rfl, -⟩ := List.cons.inj rest
      exact .inr (.inl ⟨front, rfl⟩)
  · cases front with
    | nil => exact .inl (by simp)
    | cons first front =>
      obtain ⟨rfl, -⟩ := List.cons.inj rest
      exact .inr (.inr ⟨front, rfl⟩)

/-! ## The invariant -/

/-- Every heartbeat frame not yet taken in full begins at or before the front of the queued
bytes: no output waits in front of it. -/
def HeartbeatAtFront (buffer : OutputBuffer) : Prop :=
  ∀ before bytes after, buffer.frames = before ++ (.heartbeat, bytes) :: after →
    buffer.start < (frameBytes before).length + bytes.length →
      (frameBytes before).length ≤ buffer.start

/-- Appending frames that are not heartbeats keeps the heartbeats at the front. -/
theorem HeartbeatAtFront.append {buffer after : OutputBuffer} (front : HeartbeatAtFront buffer)
    {more : List (OutFrame × List UInt8)} (frames : after.frames = buffer.frames ++ more)
    (start : after.start = buffer.start) (methods : ∀ entry ∈ more, entry.1 ≠ .heartbeat) :
    HeartbeatAtFront after := by
  intro before bytes rest split waiting
  rw [frames] at split
  rw [start] at waiting ⊢
  rcases split_append split with ⟨middle, old⟩ | ⟨added, -, appended⟩
  · exact front before bytes middle old waiting
  · exact absurd rfl (methods (.heartbeat, bytes) (by simp [appended]))

/-- A heartbeat pushed onto an empty buffer begins at the front. -/
theorem HeartbeatAtFront.pushHeartbeat {buffer : OutputBuffer} (front : HeartbeatAtFront buffer)
    (empty : buffer.len = 0) : HeartbeatAtFront (buffer.pushHeartbeat serializer) := by
  intro before bytes rest split waiting
  simp only [OutputBuffer.pushHeartbeat, OutputBuffer.frames_push,
    OutputBuffer.start_push] at split waiting ⊢
  rcases split_append split with ⟨middle, old⟩ | ⟨added, rfl, appended⟩
  · exact front before bytes middle old waiting
  · -- the heartbeat just pushed: every byte in front of it has left the buffer
    have nothingAdded : added = [] := by
      cases added with
      | nil => rfl
      | cons first added => simp at appended
    have gone := buffer.start_add_len
    simp only [nothingAdded, List.append_nil]
    simp only [OutputBuffer.pushed, empty] at gone
    omega

/-- Moving the front of the buffer forward keeps the heartbeats at the front. -/
theorem HeartbeatAtFront.advance {buffer after : OutputBuffer} (front : HeartbeatAtFront buffer)
    (frames : after.frames = buffer.frames) (moved : buffer.start ≤ after.start) :
    HeartbeatAtFront after := by
  intro before bytes rest split waiting
  have atFront := front before bytes rest (frames ▸ split) (by omega)
  omega

/-- Of two heartbeat frames waiting at the front, neither comes after the other. -/
theorem HeartbeatAtFront.alone {buffer : OutputBuffer} (front : HeartbeatAtFront buffer)
    {before after before' after' : List (OutFrame × List UInt8)} {bytes bytes' : List UInt8}
    (queued : buffer.frames = before ++ (.heartbeat, bytes) :: after)
    (waiting : buffer.start < (frameBytes before).length + bytes.length)
    (queued' : buffer.frames = before' ++ (.heartbeat, bytes') :: after')
    (waiting' : buffer.start < (frameBytes before').length + bytes'.length) : before' = before := by
  have atFront := front before bytes after queued waiting
  have atFront' := front before' bytes' after' queued' waiting'
  rcases split_twice (queued.symm.trans queued') with
    same | ⟨middle, later⟩ | ⟨middle, later⟩
  · exact same.symm
  · simp only [later, frameBytes_append, frameBytes_cons, List.length_append] at atFront'
    omega
  · simp only [later, frameBytes_append, frameBytes_cons, List.length_append] at atFront
    omega

/-! ## Over every run -/

/-- `process` pushes method frames only, at the back. -/
theorem front_dispatch {loop : EventLoop} (front : HeartbeatAtFront loop.inner.outbuf)
    (frame : AMQPFrame) :
    HeartbeatAtFront (loop.dispatch serializer options frame).1.inner.outbuf := by
  by_cases heartbeat : frame = .heartbeat 0
  · subst heartbeat
    exact front
  rw [dispatch_eq heartbeat]
  generalize processed : loop.state.process serializer options loop.inner frame = result
  obtain ⟨state, after, outcome⟩ := result
  obtain ⟨more, frames, pushed⟩ := process_pushes serializer options processed
  exact front.append frames (process_appends serializer options processed).1 fun entry member => by
    obtain ⟨⟨channel, method, isMethod⟩, -⟩ := pushed entry member
    rw [isMethod]
    nofun

/-- The timer path pushes a heartbeat frame only onto an empty buffer. -/
theorem front_processHeartbeatTimers (inner : Inner) (due : List HeartbeatKind)
    (front : HeartbeatAtFront inner.outbuf) :
    HeartbeatAtFront (inner.processHeartbeatTimers serializer due).1.outbuf := by
  induction due generalizing inner with
  | nil => exact front
  | cons kind due ih =>
    -- the arms of each firing: the `expect` fails, `StillRunning`, `Expired`
    cases kind <;> simp only [Inner.processHeartbeatTimers] <;> split
    case rx.h_1 | rx.h_3 | tx.h_1 => exact front
    case rx.h_2 | tx.h_2 => exact ih _ front
    case tx.h_3 =>
      refine ih _ ?_
      split
      · rename_i empty
        exact front.pushHeartbeat (by simpa using empty)
      · exact front

/-- A write only moves the front of the buffer forward. -/
theorem front_write {loop : EventLoop} {responses : List Response}
    {result : EventLoop × Outcome} (obeys : ∀ response ∈ responses, response.Obeys)
    (front : HeartbeatAtFront loop.inner.outbuf)
    (written : loop.writeToStream responses = some result) :
    Lands (fun loop => HeartbeatAtFront loop.inner.outbuf) (fun _ _ => True) result := by
  obtain ⟨⟨inner, state, stream, outcome⟩, call, rfl⟩ := Option.map_eq_some'.mp written
  cases writeToStream_step obeys call with
  | closing | completed => exact front.advance rfl loop.inner.outbuf.start_le_pushed
  | failed | serverClosed => trivial
  | blocked count _ _ _ _ frames start => exact front.advance frames (by dsimp only; omega)

/-- Every operation keeps a lone heartbeat frame at the front of the queue. -/
theorem front_kept :
    Kept serializer options (fun loop => HeartbeatAtFront loop.inner.outbuf) (fun _ _ => True) where
  stay _ _ _ := trivial
  foreign _ _ := trivial
  dispatch _ frame front := lands_running fun _ => front_dispatch front frame
  recordRx _ front := front
  write _ _ _ obeys front written := front_write obeys front written
  consume _ front := front
  timers loop due front := by
    rw [processHeartbeatTimers_eq]
    exact lands_running fun _ => front_processHeartbeatTimers loop.inner due front
  reregister _ _ front := front

/-- A new loop has nothing queued, so no heartbeat at the front. -/
theorem front_new (registration : Except IoError Unit) (loop : EventLoop)
    (created : EventLoop.new registration = .ok loop) : HeartbeatAtFront loop.inner.outbuf := by
  cases registration with
  | error error => cases created
  | ok =>
    cases created
    intro before bytes after empty
    have nothing : before ++ (.heartbeat, bytes) :: after = [] := empty.symm
    simp at nothing

/-- At every point of every run, a heartbeat frame the stream has not yet taken in full begins
at or before the front of the queued bytes, and no other heartbeat frame is waiting: the client
never queues a heartbeat behind other output, and heartbeats never pile up while the stream is
slow. -/
theorem heartbeat_waits_alone_at_front {loop : EventLoop}
    (visited : Visited serializer options loop) {before after : List (OutFrame × List UInt8)}
    {bytes : List UInt8}
    (queued : loop.inner.outbuf.frames = before ++ (.heartbeat, bytes) :: after)
    (waiting : loop.inner.outbuf.start < (frameBytes before).length + bytes.length) :
    (frameBytes before).length ≤ loop.inner.outbuf.start ∧
      ∀ before' bytes' after',
        loop.inner.outbuf.frames = before' ++ (.heartbeat, bytes') :: after' →
        loop.inner.outbuf.start < (frameBytes before').length + bytes'.length →
        before' = before := by
  have front := visited.holds front_kept front_new
  exact ⟨front before bytes after queued waiting,
    fun _ _ _ queued' waiting' => front.alone queued waiting queued' waiting'⟩

/-- The quiet client's heartbeat frame waits alone at the front, behind the handshake frames
that have all been written. -/
theorem heartbeat_waits_alone_at_front_quietClient :
    (runFromStart Keepalive.quietClient).inner.outbuf.frames =
        (runFromStart Keepalive.quietClient).inner.outbuf.frames.take 3 ++
          [(.heartbeat, exampleSerializer.heartbeat)] ∧
      (runFromStart Keepalive.quietClient).inner.outbuf.start <
        (frameBytes ((runFromStart Keepalive.quietClient).inner.outbuf.frames.take 3)).length +
          exampleSerializer.heartbeat.length ∧
      (frameBytes ((runFromStart Keepalive.quietClient).inner.outbuf.frames.take 3)).length ≤
          (runFromStart Keepalive.quietClient).inner.outbuf.start ∧
        ∀ before' bytes' after',
          (runFromStart Keepalive.quietClient).inner.outbuf.frames =
            before' ++ (.heartbeat, bytes') :: after' →
          (runFromStart Keepalive.quietClient).inner.outbuf.start <
            (frameBytes before').length + bytes'.length →
          before' = (runFromStart Keepalive.quietClient).inner.outbuf.frames.take 3 :=
  have queued : (runFromStart Keepalive.quietClient).inner.outbuf.frames =
      (runFromStart Keepalive.quietClient).inner.outbuf.frames.take 3 ++
        [(.heartbeat, exampleSerializer.heartbeat)] := by rfl
  have waiting : (runFromStart Keepalive.quietClient).inner.outbuf.start <
      (frameBytes ((runFromStart Keepalive.quietClient).inner.outbuf.frames.take 3)).length +
        exampleSerializer.heartbeat.length := by decide
  ⟨queued, waiting, heartbeat_waits_alone_at_front (.reachable (runFromStart_reachable
    (show ∀ iteration ∈ Keepalive.quietClient, iteration.Obeys by
      simp [Keepalive.quietClient, Timers.beating, Event.Obeys, exchange, acceptsAll_obeys])
    rfl)) queued waiting⟩

end Amiquip.Backlog
