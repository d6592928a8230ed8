import Amiquip.Verif.Handshake

/-!
# Writable readiness

The poller is edge-triggered: it delivers a writable event once per arming, and the loop arms
writable interest when it re-registers with the buffer filled and when a write blocks. The
re-registration at the end of an iteration only compares whether the buffer held data before
the iteration and after it. An iteration that starts empty therefore leaves any output it queued
with a writable event pending. When one event's write empties the buffer and its read fills it
again, both are true, nothing is re-registered, and the queued output waits for a writable event
that never comes.

Nothing else strands output. Events that write nothing leave the stream's readiness as it was
and never leave `Closing`, so over any run from a loop whose queued output has a writable event
pending, the first pass that strands output starts with output queued and handles a writable
event.
-/

namespace Amiquip

/-- A pass polls a writable event of the stream. -/
def Iteration.Writes (iteration : Iteration) : Prop :=
  ∃ events, iteration.poll = .ok events ∧
    ∃ responses readable, Event.stream (some responses) readable ∈ events

end Amiquip

namespace Amiquip.Readiness

open EventLoop Runs Handshake

variable {serializer : Serializer} {options : ConnectionOptions}

/-- Output queued to be written has a writable event pending. -/
def Armed (loop : EventLoop) : Prop :=
  loop.inner.hasDataToWrite → ¬ loop.state.isClosing → loop.stream.writable

/-- The re-registration of an iteration that started with nothing queued arms writable interest
when the buffer now holds data. -/
theorem reregister_filled {loop after : EventLoop} {result : Except IoError Unit}
    (registered : loop.reregister false result = (after, .ok)) : Armed after := by
  simp only [EventLoop.reregister, Bool.false_and, Bool.not_false, Bool.true_and,
    Bool.false_eq_true, if_false] at registered
  split at registered
  · cases result with
    | error error => cases registered
    | ok => cases registered; exact fun _ _ => rfl
  · rename_i stillEmpty
    cases registered
    exact fun queued => absurd queued stillEmpty

/-- An iteration that starts with nothing queued and does not stop leaves what it queued with a
writable event pending. -/
theorem armed_after_filling {loop after : EventLoop} {iteration : Iteration}
    (empty : loop.inner.hasDataToWrite = false)
    (iterated : loop.iterate serializer options iteration = some (after, .ok)) : Armed after := by
  unfold EventLoop.iterate at iterated
  split at iterated
  · cases iterated
  · cases iterated
  · obtain ⟨⟨middle, outcome⟩, -, finished⟩ := Option.map_eq_some'.mp iterated
    cases outcome with
    | err _ | panic _ => cases finished
    | ok => exact reregister_filled (empty ▸ finished)

/-- A writable and readable event whose write empties the buffer and whose read queues a reply
leaves that reply with no writable event pending: the second pass of the handshake, whose
start-ok is written and whose tune is answered by tune-ok and open. -/
theorem output_stranded_after_write_then_read :
    ∃ loop after, Reachable exampleSerializer exampleOptions loop ∧ loop.stream.writable ∧
      loop.iterate exampleSerializer exampleOptions
        (pass [exchange [connectionFrame (.tune ⟨0, 131072, 0⟩)]]) = some (after, .ok) ∧
      after.inner.hasDataToWrite ∧ ¬ after.state.isClosing ∧ ¬ after.stream.writable :=
  ⟨runFromStart (handshake.take 1), _,
    runFromStart_reachable (by simp [handshake]) rfl,
    rfl, rfl, rfl, by decide, by decide⟩

/-! ## Passes that write nothing -/

/-- What handling events that write nothing keeps: the stream with its readiness, and
`Closing`. -/
structure KeepsStream (loop after : EventLoop) : Prop where
  stream : after.stream = loop.stream
  closing : loop.state.isClosing → after.state.isClosing

/-- Handling nothing keeps the stream. -/
theorem KeepsStream.refl (loop : EventLoop) : KeepsStream loop loop := ⟨rfl, id⟩

/-- Two steps that keep the stream in turn keep it. -/
theorem KeepsStream.trans {loop middle after : EventLoop} (first : KeepsStream loop middle)
    (second : KeepsStream middle after) : KeepsStream loop after :=
  ⟨second.stream.trans first.stream, second.closing ∘ first.closing⟩

/-- `process` never leaves `Closing`. -/
theorem closing_stays {state next : ConnectionState} {frame : AMQPFrame}
    (moves : Moves state next frame) (closing : state.isClosing) : next.isClosing := by
  rcases moves with rfl | ⟨rfl, -⟩ | ⟨rfl | rfl, -⟩ | ⟨rfl, -⟩
  · exact closing
  all_goals cases closing

/-- A dispatch leaves the stream alone and never leaves `Closing`. -/
theorem dispatch_keepsStream (loop : EventLoop) (frame : AMQPFrame) :
    KeepsStream loop (loop.dispatch serializer options frame).1 := by
  refine ⟨?_, closing_stays (dispatch_moves loop frame)⟩
  unfold EventLoop.dispatch
  split <;> rfl

/-- Dispatching frames in turn leaves the stream alone and never leaves `Closing`. -/
theorem dispatchFrames_keepsStream (frames : List AMQPFrame) :
    ∀ loop : EventLoop, KeepsStream loop (loop.dispatchFrames serializer options frames).1 := by
  induction frames with
  | nil => exact KeepsStream.refl
  | cons frame frames ih =>
    intro loop
    have once := @dispatch_keepsStream serializer options loop frame
    simp only [EventLoop.dispatchFrames]
    generalize loop.dispatch serializer options frame = dispatched at once ⊢
    obtain ⟨middle, outcome⟩ := dispatched
    cases outcome with
    | ok => exact once.trans (ih middle)
    | err _ | panic _ => exact once

/-- A read leaves the stream alone and never leaves `Closing`. -/
theorem readFromStream_keepsStream (loop : EventLoop) (read : FrameRead) :
    KeepsStream loop (loop.readFromStream serializer options read).1 := by
  have frames := @dispatchFrames_keepsStream serializer options read.frames loop
  unfold EventLoop.readFromStream
  generalize loop.dispatchFrames serializer options read.frames = dispatched at frames ⊢
  obtain ⟨middle, outcome⟩ := dispatched
  cases outcome with
  | ok =>
    cases read.result with
    | ok n =>
      show KeepsStream loop
        (if 0 < n then { middle with inner := middle.inner.recordRxActivity } else middle)
      split
      · exact ⟨frames.stream, frames.closing⟩
      · exact frames
    | error error => exact frames
  | err _ | panic _ => exact frames

/-- An event that writes nothing leaves the stream alone and never leaves `Closing`. -/
theorem handleEvent_keepsStream (loop : EventLoop) {event : Event}
    (quiet : ∀ responses readable, event ≠ .stream (some responses) readable)
    {result : EventLoop × Outcome}
    (handled : loop.handleEvent serializer options event = some result) :
    KeepsStream loop result.1 := by
  cases event with
  | stream writable readable =>
    cases writable with
    | some responses => exact absurd rfl (quiet responses readable)
    | none =>
      cases readable <;>
        simp only [EventLoop.handleEvent, Option.map_some', Option.some.injEq] at handled <;>
        subst handled
      · exact KeepsStream.refl loop
      · exact readFromStream_keepsStream loop _
  | heartbeat due =>
    simp only [EventLoop.handleEvent, Option.some.injEq] at handled
    subst handled
    exact ⟨rfl, id⟩
  | other token =>
    simp only [EventLoop.handleEvent, Option.some.injEq] at handled
    subst handled
    exact KeepsStream.refl loop

/-- Events none of which writes leave the stream alone and never leave `Closing`. -/
theorem handleEvents_keepsStream (events : List Event)
    (quiet : ∀ responses readable, Event.stream (some responses) readable ∉ events) :
    ∀ loop : EventLoop, ∀ {result},
      loop.handleEvents serializer options events = some result →
      KeepsStream loop result.1 := by
  induction events with
  | nil =>
    intro loop result handled
    cases handled
    exact KeepsStream.refl loop
  | cons event events ih =>
    intro loop result handled
    simp only [EventLoop.handleEvents] at handled
    obtain ⟨⟨middle, first⟩, once, rest⟩ := Option.bind_eq_some.mp handled
    have firstKeeps := handleEvent_keepsStream loop
      (fun responses readable same => quiet responses readable (same ▸ List.mem_cons_self _ _))
      once
    cases first with
    | ok =>
      exact firstKeeps.trans (ih (fun responses readable member =>
        quiet responses readable (List.mem_cons_of_mem _ member)) middle rest)
    | err _ | panic _ => cases rest; exact firstKeeps

/-- A pass from a loop whose queued output has a writable event pending leaves its output with
one pending too, unless it started with output queued and handled a writable event. -/
theorem armed_iterate {loop after : EventLoop} {iteration : Iteration} (armed : Armed loop)
    (iterated : loop.iterate serializer options iteration = some (after, .ok)) :
    Armed after ∨ loop.inner.hasDataToWrite ∧ iteration.Writes := by
  by_cases writes : loop.inner.hasDataToWrite ∧ iteration.Writes
  · exact .inr writes
  refine .inl ?_
  cases queued : loop.inner.hasDataToWrite with
  | false => exact armed_after_filling queued iterated
  | true =>
    unfold EventLoop.iterate at iterated
    split at iterated
    · cases iterated
    · cases iterated
    · rename_i events _ polled
      obtain ⟨⟨middle, outcome⟩, handled, finished⟩ := Option.map_eq_some'.mp iterated
      cases outcome with
      | err _ | panic _ => cases finished
      | ok =>
        have keeps := handleEvents_keepsStream events (fun responses readable member =>
          writes ⟨queued, events, polled, responses, readable, member⟩) loop handled
        simp only [queued, EventLoop.reregister, Bool.true_and, Bool.not_true, Bool.false_and,
          Bool.false_eq_true, if_false] at finished
        split at finished
        · -- the buffer emptied: readable only, with nothing left to arm for
          rename_i emptied
          unfold EventLoop.reregisterAs at finished
          split at finished
          · cases finished
          · cases finished
            exact fun stillQueued => absurd stillQueued (by simpa using emptied)
        · -- still queued: the interest stays as it was, and the pass wrote nothing
          cases finished
          intro _ notClosing
          rw [keeps.stream]
          exact armed queued fun closing => notClosing (keeps.closing closing)

/-- Over every run of the main loop that does not stop, from a loop whose queued output has a
writable event pending (such as the one `EventLoop::new` builds, with nothing queued), output is
left queued outside `Closing` with no writable event pending only through a pass that starts with
output queued and handles a writable event: the first pass after which output is stranded is
one, every point of the run before it has its output armed, and after it none is. -/
theorem stranded_only_by_queued_write {loop after : EventLoop} {iterations : List Iteration}
    (armed : Armed loop) (ran : loop.mainLoop serializer options iterations = some (after, .ok))
    (stranded : ¬ Armed after) :
    ∃ before iteration later middle next, iterations = before ++ iteration :: later ∧
      loop.mainLoop serializer options before = some (middle, .ok) ∧
      (∀ runs, runs <+: before → ∀ reached,
        loop.mainLoop serializer options runs = some (reached, .ok) → Armed reached) ∧
      middle.inner.hasDataToWrite ∧ iteration.Writes ∧
      middle.iterate serializer options iteration = some (next, .ok) ∧ ¬ Armed next := by
  induction iterations generalizing loop with
  | nil =>
    cases ran
    exact absurd armed stranded
  | cons iteration later ih =>
    simp only [EventLoop.mainLoop] at ran
    obtain ⟨⟨middle, outcome⟩, iterated, rest⟩ := Option.bind_eq_some.mp ran
    cases outcome with
    | err _ | panic _ => cases rest
    | ok =>
      by_cases still : Armed middle
      · -- the first pass keeps the output armed: the stranding pass comes later
        obtain ⟨before, found, remaining, reached, next, split, runs, earlier, rest'⟩ :=
          ih still rest
        refine ⟨iteration :: before, found, remaining, reached, next, by rw [split]; rfl,
          by simp [EventLoop.mainLoop, iterated, runs], fun shorter pre point ran' => ?_, rest'⟩
        rcases List.prefix_cons_iff.mp pre with rfl | ⟨tail, rfl, pre'⟩
        · cases ran'
          exact armed
        · simp only [EventLoop.mainLoop, iterated, Option.some_bind] at ran'
          exact earlier tail pre' point ran'
      · -- the first pass strands it
        obtain ⟨queued, writes⟩ := (armed_iterate armed iterated).resolve_left still
        refine ⟨[], iteration, later, loop, middle, rfl, rfl, fun runs pre point ran' => ?_,
          queued, writes, iterated, still⟩
        rw [List.prefix_nil.mp pre] at ran'
        cases ran'
        exact armed

/-- The handshake strands its tune-ok and open in its second pass, which starts with the
start-ok queued and writes it before reading the tune. -/
theorem stranded_only_by_queued_write_handshake :
    Armed started ∧ started.mainLoop exampleSerializer exampleOptions (handshake.take 2) =
        some (runFromStart (handshake.take 2), .ok) ∧
      ¬ Armed (runFromStart (handshake.take 2)) ∧
      ∃ before iteration later middle next, handshake.take 2 = before ++ iteration :: later ∧
        started.mainLoop exampleSerializer exampleOptions before = some (middle, .ok) ∧
        (∀ runs, runs <+: before → ∀ reached,
          started.mainLoop exampleSerializer exampleOptions runs = some (reached, .ok) →
            Armed reached) ∧
        middle.inner.hasDataToWrite ∧ iteration.Writes ∧
        middle.iterate exampleSerializer exampleOptions iteration = some (next, .ok) ∧
        ¬ Armed next :=
  have armed : Armed started := fun queued => absurd queued (by decide)
  have ran : started.mainLoop exampleSerializer exampleOptions (handshake.take 2) =
      some (runFromStart (handshake.take 2), .ok) := by rfl
  have stranded : ¬ Armed (runFromStart (handshake.take 2)) :=
    fun armed => absurd (armed rfl (by decide)) (by decide)
  ⟨armed, ran, stranded, stranded_only_by_queued_write armed ran stranded⟩

end Amiquip.Readiness
