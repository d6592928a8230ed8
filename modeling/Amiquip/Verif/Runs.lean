import Amiquip.Verif.Effects
import Amiquip.Verif.WriteLoop

/-!
# From operations to runs

An iteration of the main loop is a sequence of operations: frames dispatched to `process`, a
read's receive activity, writes, the writable event consumed, timer firings and a
re-registration. A property kept by each of them holds in every reachable loop. Where an
iteration stops, the loop it stops at satisfies a second property, which every operation must
reach when it stops the loop; a stop that changes nothing reaches it from the first property.
`KeptUnder` packages these obligations over a stream whose answers to each write call a given
predicate allows, and `VisitedUnder` collects the points of the runs over such a stream; `Kept`
and `Visited` are the case of a stream that keeps the `io::Write` contract. A read hands the
frames it decoded to `process` in order, each once, up to the first whose processing stops the
loop (`ReadEnd`). Over a whole run the history of frames handed to `process` grows by the frames
every read decoded, channel-0 heartbeats dropped: all of them where the run goes on, and where
it stops, those of every event handled before the stop and what the stopping operation handed
over (`StopsAt`, `StopForwards`).
-/

namespace Amiquip

/-- Answers to a write call that all keep the `io::Write` contract. -/
def Obeying (responses : List Response) : Prop := ∀ response ∈ responses, response.Obeys

/-- Every write the event makes is answered as `allowed` asks. -/
def Event.Allows (allowed : List Response → Prop) : Event → Prop
  | .stream (some responses) _ => allowed responses
  | _ => True

/-- Every event the pass polls answers its writes as `allowed` asks. -/
def Iteration.Allows (allowed : List Response → Prop) (iteration : Iteration) : Prop :=
  ∀ events, iteration.poll = .ok events → ∀ event ∈ events, event.Allows allowed

/-- An event's writes are answered as contract-keeping answers allow exactly when it keeps
the contract. -/
theorem Event.allows_obeying (event : Event) : event.Allows Obeying ↔ event.Obeys := by
  rcases event with ⟨_ | _, _⟩ | _ | _ <;> exact Iff.rfl

/-- A pass's writes are answered as contract-keeping answers allow exactly when it keeps the
contract. -/
theorem Iteration.allows_obeying (iteration : Iteration) :
    iteration.Allows Obeying ↔ iteration.Obeys := by
  simp only [Iteration.Allows, Iteration.Obeys, Event.allows_obeying]

end Amiquip

namespace Amiquip.Runs

open EventLoop

variable {serializer : Serializer} {options : ConnectionOptions}

/-- Where an operation lands: a loop that runs on keeps `holds`, one stopped by `outcome`
satisfies `stops outcome`. -/
def Lands (holds : EventLoop → Prop) (stops : Outcome → EventLoop → Prop) :
    EventLoop × Outcome → Prop
  | (loop, .ok) => holds loop
  | (loop, outcome) => stops outcome loop

/-- Re-registering is a call of `poll.reregister`, or nothing. -/
theorem reregister_eq (loop : EventLoop) (hadData : Bool) (result : Except IoError Unit) :
    (∃ writable, loop.reregister hadData result = loop.reregisterAs writable result) ∨
      loop.reregister hadData result = (loop, .ok) := by
  unfold EventLoop.reregister
  simp only
  split
  · exact .inl ⟨false, rfl⟩
  · split
    · exact .inl ⟨true, rfl⟩
    · exact .inr rfl

/-- Re-registering changes the socket's readiness only. -/
theorem reregister_fst (loop : EventLoop) (hadData : Bool) (result : Except IoError Unit) :
    ∃ writable, (loop.reregister hadData result).1 =
      { loop with stream := { loop.stream with writable } } := by
  rcases reregister_eq loop hadData result with ⟨writable, called⟩ | skipped
  · rw [called]
    cases result <;> exact ⟨_, rfl⟩
  · rw [skipped]
    exact ⟨_, rfl⟩

variable (serializer options) in
/-- A property of running loops that every operation of an iteration keeps, with what holds of
a loop an operation stops, over a stream whose answers to each write call are `allowed`. -/
structure KeptUnder (allowed : List Response → Prop) (holds : EventLoop → Prop)
    (stops : Outcome → EventLoop → Prop) : Prop where
  /-- An error that changes nothing: a failed or empty poll, read or re-registration. -/
  stay : ∀ loop error, holds loop → stops (.err error) loop
  /-- The `unreachable!()` of a token that is neither the stream's nor the timer's. -/
  foreign : ∀ loop, holds loop → stops (.panic "internal error: entered unreachable code") loop
  dispatch : ∀ loop frame, holds loop → Lands holds stops (loop.dispatch serializer options frame)
  recordRx : ∀ loop, holds loop → holds { loop with inner := loop.inner.recordRxActivity }
  write : ∀ loop responses result, allowed responses → holds loop →
    loop.writeToStream responses = some result → Lands holds stops result
  consume : ∀ loop, holds loop →
    holds { loop with stream := { loop.stream with writable := false } }
  timers : ∀ loop due, holds loop → Lands holds stops (loop.processHeartbeatTimers serializer due)
  reregister : ∀ loop writable, holds loop →
    holds { loop with stream := { loop.stream with writable } }

variable (serializer options) in
/-- A property of running loops that every operation of an iteration keeps, with what holds of
a loop an operation stops, over a stream that keeps the `io::Write` contract. -/
abbrev Kept (holds : EventLoop → Prop) (stops : Outcome → EventLoop → Prop) : Prop :=
  KeptUnder serializer options Obeying holds stops

section

variable {holds : EventLoop → Prop} {stops : Outcome → EventLoop → Prop}

/-- A property kept over some answers is kept over fewer. -/
theorem KeptUnder.weaken {allowed fewer : List Response → Prop}
    (kept : KeptUnder serializer options allowed holds stops)
    (within : ∀ responses, fewer responses → allowed responses) :
    KeptUnder serializer options fewer holds stops :=
  ⟨kept.stay, kept.foreign, kept.dispatch, kept.recordRx,
    fun loop responses result answered => kept.write loop responses result (within _ answered),
    kept.consume, kept.timers, kept.reregister⟩

namespace KeptUnder

variable {allowed : List Response → Prop} (kept : KeptUnder serializer options allowed holds stops)
include kept

/-- Dispatching frames in turn lands: on a running loop keeping the property, or where it
stopped. -/
theorem dispatchFrames (frames : List AMQPFrame) :
    ∀ loop, holds loop → Lands holds stops (loop.dispatchFrames serializer options frames) := by
  induction frames with
  | nil => exact fun loop start => start
  | cons frame frames ih =>
    intro loop start
    have once := kept.dispatch loop frame start
    simp only [EventLoop.dispatchFrames]
    generalize loop.dispatch serializer options frame = dispatched at once ⊢
    obtain ⟨middle, outcome⟩ := dispatched
    cases outcome with
    | ok => exact ih middle once
    | err _ | panic _ => exact once

/-- A read lands: on a running loop keeping the property, or where it stopped. -/
theorem readFromStream (loop : EventLoop) (read : FrameRead) (start : holds loop) :
    Lands holds stops (loop.readFromStream serializer options read) := by
  have frames := kept.dispatchFrames read.frames loop start
  unfold EventLoop.readFromStream
  generalize loop.dispatchFrames serializer options read.frames = dispatched at frames ⊢
  obtain ⟨middle, outcome⟩ := dispatched
  cases outcome with
  | ok =>
    simp only
    cases read.result with
    | ok n =>
      show holds (if 0 < n then { middle with inner := middle.inner.recordRxActivity } else middle)
      split
      · exact kept.recordRx middle frames
      · exact frames
    | error error => exact kept.stay middle error frames
  | err _ | panic _ => exact frames

/-- An event whose writes are answered as allowed lands: on a running loop keeping the property,
or where it stopped. -/
theorem handleEvent (loop : EventLoop) (event : Event) (answered : event.Allows allowed)
    (start : holds loop) {result : EventLoop × Outcome}
    (handled : loop.handleEvent serializer options event = some result) :
    Lands holds stops result := by
  cases event with
  | stream writable readable =>
    simp only [EventLoop.handleEvent] at handled
    obtain ⟨⟨written, writtenOutcome⟩, wrote, rfl⟩ := Option.map_eq_some'.mp handled
    have writtenLands : Lands holds stops (written, writtenOutcome) := by
      cases writable with
      | none => cases wrote; exact start
      | some responses =>
        exact kept.write _ responses _ answered (kept.consume loop start) wrote
    cases writtenOutcome with
    | ok =>
      cases readable with
      | some read => exact kept.readFromStream written read writtenLands
      | none => exact writtenLands
    | err _ | panic _ => exact writtenLands
  | heartbeat due =>
    simp only [EventLoop.handleEvent, Option.some.injEq] at handled
    exact handled ▸ kept.timers loop due start
  | other token =>
    simp only [EventLoop.handleEvent, Option.some.injEq] at handled
    exact handled ▸ kept.foreign loop start

/-- Events whose writes are answered as allowed land: on a running loop keeping the property, or
where they stopped. -/
theorem handleEvents (events : List Event) (answered : ∀ event ∈ events, event.Allows allowed) :
    ∀ loop, holds loop → ∀ {result}, loop.handleEvents serializer options events = some result →
      Lands holds stops result := by
  induction events with
  | nil =>
    intro loop start result handled
    cases handled
    exact start
  | cons event events ih =>
    intro loop start result handled
    simp only [EventLoop.handleEvents] at handled
    obtain ⟨⟨middle, first⟩, once, rest⟩ := Option.bind_eq_some.mp handled
    have firstLands := kept.handleEvent loop event (answered event (by simp)) start once
    cases first with
    | ok => exact ih (fun e mem => answered e (by simp [mem])) middle firstLands rest
    | err _ | panic _ => cases rest; exact firstLands

/-- A re-registration lands: on a running loop keeping the property, or where it failed. -/
theorem reregistered (loop : EventLoop) (hadData : Bool) (result : Except IoError Unit)
    (start : holds loop) : Lands holds stops (loop.reregister hadData result) := by
  rcases reregister_eq loop hadData result with ⟨writable, called⟩ | skipped
  · rw [called]
    cases result with
    | error error => exact kept.stay loop _ start
    | ok => exact kept.reregister loop writable start
  · rw [skipped]
    exact start

/-- Every iteration lands: on a running loop keeping the property, or where it stopped. -/
theorem iterate {loop : EventLoop} {iteration : Iteration} {result : EventLoop × Outcome}
    (answered : iteration.Allows allowed) (start : holds loop)
    (iterated : loop.iterate serializer options iteration = some result) :
    Lands holds stops result := by
  unfold EventLoop.iterate at iterated
  split at iterated
  · cases iterated; exact kept.stay loop _ start
  · cases iterated; exact kept.stay loop _ start
  · rename_i events nonempty polled
    obtain ⟨⟨middle, handledOutcome⟩, handled, rfl⟩ := Option.map_eq_some'.mp iterated
    have handledLands := kept.handleEvents events (answered events polled) loop start handled
    cases handledOutcome with
    | ok => exact kept.reregistered middle _ _ handledLands
    | err _ | panic _ => exact handledLands

/-- A main loop over passes whose writes are answered as allowed lands: on a running loop
keeping the property, or where it stopped. -/
theorem mainLoop (iterations : List Iteration)
    (answered : ∀ iteration ∈ iterations, iteration.Allows allowed) :
    ∀ loop, holds loop → ∀ {result}, loop.mainLoop serializer options iterations = some result →
      Lands holds stops result := by
  induction iterations with
  | nil =>
    intro loop start result ran
    cases ran
    exact start
  | cons iteration later ih =>
    intro loop start result ran
    simp only [EventLoop.mainLoop] at ran
    obtain ⟨⟨middle, outcome⟩, once, rest⟩ := Option.bind_eq_some.mp ran
    have lands := kept.iterate (answered iteration (by simp)) start once
    cases outcome with
    | ok => exact ih (fun it mem => answered it (by simp [mem])) middle lands rest
    | err _ | panic _ => cases rest; exact lands

end KeptUnder

namespace Kept

variable (kept : Kept serializer options holds stops)
include kept

/-- Every iteration lands: on a running loop keeping the property, or where it stopped. -/
theorem iterate {loop : EventLoop} {iteration : Iteration} {result : EventLoop × Outcome}
    (obeys : iteration.Obeys) (start : holds loop)
    (iterated : loop.iterate serializer options iteration = some result) :
    Lands holds stops result :=
  KeptUnder.iterate kept ((Iteration.allows_obeying iteration).mpr obeys) start iterated

/-- A main loop over contract-keeping passes lands: on a running loop keeping the property, or
where it stopped. -/
theorem mainLoop (iterations : List Iteration) (obeys : ∀ iteration ∈ iterations, iteration.Obeys) :
    ∀ loop, holds loop → ∀ {result}, loop.mainLoop serializer options iterations = some result →
      Lands holds stops result :=
  KeptUnder.mainLoop kept iterations fun iteration member =>
    (Iteration.allows_obeying iteration).mpr (obeys iteration member)

end Kept

end

/-- A property of every new loop that every operation keeps holds in every reachable loop. -/
theorem Reachable.holds {holds : EventLoop → Prop} {stops : Outcome → EventLoop → Prop}
    (kept : Kept serializer options holds stops)
    (initial : ∀ registration loop, EventLoop.new registration = .ok loop → holds loop)
    {loop : EventLoop} (reachable : Reachable serializer options loop) : holds loop := by
  induction reachable with
  | new created => exact initial _ _ created
  | iterate _ obeys iterated ih => exact kept.iterate obeys ih iterated

/-- A main loop that runs through a sequence of contract-keeping passes reaches its loop. -/
theorem Reachable.mainLoop {loop after : EventLoop}
    (reachable : Reachable serializer options loop) :
    ∀ {iterations : List Iteration}, (∀ iteration ∈ iterations, iteration.Obeys) →
      loop.mainLoop serializer options iterations = some (after, .ok) →
        Reachable serializer options after := by
  intro iterations
  induction iterations generalizing loop with
  | nil =>
    intro _ ran
    cases ran
    exact reachable
  | cons iteration later ih =>
    intro obeys ran
    simp only [EventLoop.mainLoop] at ran
    obtain ⟨⟨middle, outcome⟩, once, rest⟩ := Option.bind_eq_some.mp ran
    cases outcome <;> simp only [Option.some.injEq, Prod.mk.injEq, reduceCtorEq, and_false] at rest
    exact ih (Reachable.iterate reachable (obeys iteration (by simp)) once)
      (fun it mem => obeys it (by simp [mem])) rest

/-- Where nothing is required of a stopped loop, an operation lands when the loop it runs on
keeps the property. -/
theorem lands_running {holds : EventLoop → Prop} {loop : EventLoop} {outcome : Outcome}
    (running : outcome = .ok → holds loop) : Lands holds (fun _ _ => True) (loop, outcome) := by
  cases outcome with
  | ok => exact running rfl
  | err _ | panic _ => trivial

/-- An operation that stops the loop lands where its stop property holds. -/
theorem lands_stopped {holds : EventLoop → Prop} {stops : Outcome → EventLoop → Prop}
    {loop : EventLoop} {outcome : Outcome} (notOk : outcome ≠ .ok) (stopped : stops outcome loop) :
    Lands holds stops (loop, outcome) := by
  cases outcome with
  | ok => exact absurd rfl notOk
  | err _ | panic _ => exact stopped

/-- A property required alike where the loop runs on and where it stops holds of where an
operation lands when it holds of the loop it leaves. -/
theorem lands_either {holds : EventLoop → Prop} {result : EventLoop × Outcome}
    (lands : holds result.1) : Lands holds (fun _ => holds) result := by
  obtain ⟨loop, outcome⟩ := result
  cases outcome with
  | ok => exact lands
  | err _ | panic _ => exact lands

/-- Where the property is required alike of running and stopped loops, landing is having it. -/
theorem Lands.either {holds : EventLoop → Prop} {result : EventLoop × Outcome}
    (lands : Lands holds (fun _ => holds) result) : holds result.1 := by
  obtain ⟨loop, outcome⟩ := result
  cases outcome with
  | ok => exact lands
  | err _ | panic _ => exact lands

variable (serializer options) in
/-- The loops the operations of a run reach from `EventLoop::new` over a stream whose answers to
each write call are `allowed`, taken in any order and with re-registration at any point: every
point of every such run is one. -/
inductive VisitedUnder (allowed : List Response → Prop) : EventLoop → Prop
  | new {registration : Except IoError Unit} {loop : EventLoop} :
      EventLoop.new registration = .ok loop → VisitedUnder allowed loop
  | dispatch {loop after : EventLoop} {frame : AMQPFrame} : VisitedUnder allowed loop →
      loop.dispatch serializer options frame = (after, .ok) → VisitedUnder allowed after
  | recordRx {loop : EventLoop} : VisitedUnder allowed loop →
      VisitedUnder allowed { loop with inner := loop.inner.recordRxActivity }
  | write {loop after : EventLoop} {responses : List Response} : VisitedUnder allowed loop →
      allowed responses → loop.writeToStream responses = some (after, .ok) →
      VisitedUnder allowed after
  | consume {loop : EventLoop} : VisitedUnder allowed loop →
      VisitedUnder allowed { loop with stream := { loop.stream with writable := false } }
  | timers {loop after : EventLoop} {due : List HeartbeatKind} : VisitedUnder allowed loop →
      loop.processHeartbeatTimers serializer due = (after, .ok) → VisitedUnder allowed after
  | reregister {loop : EventLoop} {writable : Bool} : VisitedUnder allowed loop →
      VisitedUnder allowed { loop with stream := { loop.stream with writable } }

section

variable {allowed : List Response → Prop} {holds : EventLoop → Prop}
  {stops : Outcome → EventLoop → Prop}

/-- A property of every new loop that every operation keeps over such answers holds at every
point of every run over them. -/
theorem VisitedUnder.kept (kept : KeptUnder serializer options allowed holds stops)
    (initial : ∀ registration loop, EventLoop.new registration = .ok loop → holds loop)
    {loop : EventLoop} (visited : VisitedUnder serializer options allowed loop) : holds loop := by
  induction visited with
  | new created => exact initial _ _ created
  | @dispatch loop after frame _ dispatched ih =>
    have lands := kept.dispatch loop frame ih
    rwa [dispatched] at lands
  | recordRx _ ih => exact kept.recordRx _ ih
  | write _ answered written ih => exact kept.write _ _ _ answered ih written
  | consume _ ih => exact kept.consume _ ih
  | @timers loop after due _ fired ih =>
    have lands := kept.timers loop due ih
    rwa [fired] at lands
  | reregister _ ih => exact kept.reregister _ _ ih

/-- Every operation leads from a point of such a run to another. -/
theorem visitedUnder_kept :
    KeptUnder serializer options allowed (VisitedUnder serializer options allowed)
      (fun _ _ => True) where
  stay _ _ _ := trivial
  foreign _ _ := trivial
  dispatch loop frame visited := by
    generalize dispatched : loop.dispatch serializer options frame = result
    obtain ⟨after, outcome⟩ := result
    exact lands_running fun ok => .dispatch visited (ok ▸ dispatched)
  recordRx _ visited := .recordRx visited
  write _ _ result answered visited written := by
    obtain ⟨after, outcome⟩ := result
    exact lands_running fun ok => .write visited answered (ok ▸ written)
  consume _ visited := .consume visited
  timers loop due visited := by
    generalize fired : loop.processHeartbeatTimers serializer due = result
    obtain ⟨after, outcome⟩ := result
    exact lands_running fun ok => .timers visited (ok ▸ fired)
  reregister _ _ visited := .reregister visited

/-- A main loop over passes whose writes are answered as allowed goes from a point of such a run
to another. -/
theorem VisitedUnder.mainLoop {loop after : EventLoop} {iterations : List Iteration}
    (visited : VisitedUnder serializer options allowed loop)
    (answered : ∀ iteration ∈ iterations, iteration.Allows allowed)
    (ran : loop.mainLoop serializer options iterations = some (after, .ok)) :
    VisitedUnder serializer options allowed after :=
  visitedUnder_kept.mainLoop iterations answered loop visited ran

end

variable (serializer options) in
/-- The points of the runs over a stream that keeps the `io::Write` contract: every reachable
loop, and every loop an operation of an iteration leads to while the iteration goes on. -/
abbrev Visited : EventLoop → Prop := VisitedUnder serializer options Obeying

/-- Every reachable loop is a point of a run. -/
theorem Visited.reachable {loop : EventLoop} (reachable : Reachable serializer options loop) :
    Visited serializer options loop := by
  induction reachable with
  | new created => exact .new created
  | iterate _ obeys iterated ih =>
    exact visitedUnder_kept.iterate ((Iteration.allows_obeying _).mpr obeys) ih iterated

/-- A property of every new loop that every operation keeps holds at every point of every run. -/
theorem Visited.holds {holds : EventLoop → Prop} {stops : Outcome → EventLoop → Prop}
    (kept : Kept serializer options holds stops)
    (initial : ∀ registration loop, EventLoop.new registration = .ok loop → holds loop)
    {loop : EventLoop} (visited : Visited serializer options loop) : holds loop :=
  VisitedUnder.kept kept initial visited

/-- A frame other than a channel-0 heartbeat goes to `process` and into the history. -/
theorem dispatch_eq {frame : AMQPFrame} (notHeartbeat : frame ≠ .heartbeat 0) (loop : EventLoop) :
    loop.dispatch serializer options frame =
      let (state, context, outcome) := loop.state.process serializer options loop.inner frame
      ({ loop with state, inner := context, dispatched := loop.dispatched ++ [frame] },
        outcome) := by
  unfold EventLoop.dispatch
  split
  · exact absurd rfl notHeartbeat
  · rfl

/-! ## The read path -/

/-- A dispatch adds its frame to the history, unless it is a channel-0 heartbeat. -/
theorem dispatch_dispatched (loop : EventLoop) (frame : AMQPFrame) :
    (loop.dispatch serializer options frame).1.dispatched =
      loop.dispatched ++ [frame].filter fun frame => frame ≠ .heartbeat 0 := by
  by_cases heartbeat : frame = .heartbeat 0
  · subst heartbeat
    simp [EventLoop.dispatch]
  · simp [dispatch_eq heartbeat, heartbeat]

/-- A sequence of dispatches that lets the loop run on hands every frame to `process`, in order,
channel-0 heartbeats dropped. -/
theorem dispatchFrames_ok {frames : List AMQPFrame} :
    ∀ {loop after : EventLoop}, loop.dispatchFrames serializer options frames = (after, .ok) →
      after.dispatched = loop.dispatched ++ frames.filter (fun frame => frame ≠ .heartbeat 0) := by
  induction frames with
  | nil =>
    intro loop after ran
    cases ran
    simp
  | cons frame later ih =>
    intro loop after ran
    have once := @dispatch_dispatched serializer options loop frame
    simp only [EventLoop.dispatchFrames] at ran
    generalize loop.dispatch serializer options frame = result at once ran
    obtain ⟨middle, outcome⟩ := result
    cases outcome with
    | ok =>
      rw [ih ran, once, List.append_assoc, ← List.filter_append]
      rfl
    | err _ | panic _ => cases ran

/-- Handing frames to `process` one by one lets the loop run on, or stops at the first frame
whose dispatch stops it, after every frame before it ran on. -/
theorem dispatchFrames_stops (loop : EventLoop) (frames : List AMQPFrame) :
    (loop.dispatchFrames serializer options frames).2 = .ok ∨
      ∃ done frame rest middle, frames = done ++ frame :: rest ∧
        loop.dispatchFrames serializer options done = (middle, .ok) ∧
        middle.dispatch serializer options frame = loop.dispatchFrames serializer options frames ∧
        (middle.dispatch serializer options frame).2 ≠ .ok := by
  induction frames generalizing loop with
  | nil => exact .inl rfl
  | cons frame later ih =>
    simp only [EventLoop.dispatchFrames]
    generalize dispatched : loop.dispatch serializer options frame = result
    obtain ⟨middle, outcome⟩ := result
    cases outcome with
    | ok =>
      rcases ih middle with ran | ⟨done, failing, rest, reached, split, ran, stopped, notOk⟩
      · exact .inl ran
      · refine .inr ⟨frame :: done, failing, rest, reached, by rw [split]; rfl, ?_, stopped, notOk⟩
        simp only [EventLoop.dispatchFrames, dispatched]
        exact ran
    | err _ | panic _ =>
      exact .inr ⟨[], frame, later, loop, rfl, rfl, dispatched, by rw [dispatched]; nofun⟩

variable (serializer options) in
/-- How a read ends, as to the frames it hands to `process`: every frame it decoded, in order with
channel-0 heartbeats dropped, and the loop runs on; the frames up to the first whose dispatch
stops the loop, every one before it having run on; or every frame, and the frame buffer's own
error. -/
inductive ReadEnd (loop : EventLoop) (read : FrameRead) : EventLoop × Outcome → Prop
  | whole {after : EventLoop} :
      after.dispatched = loop.dispatched ++ read.frames.filter (fun frame => frame ≠ .heartbeat 0) →
      ReadEnd loop read (after, .ok)
  | stoppedAt {done rest : List AMQPFrame} {frame : AMQPFrame} {middle : EventLoop}
      {result : EventLoop × Outcome} : read.frames = done ++ frame :: rest →
      loop.dispatchFrames serializer options done = (middle, .ok) →
      middle.dispatch serializer options frame = result → result.2 ≠ .ok →
      result.1.dispatched =
        loop.dispatched ++ (done ++ [frame]).filter (fun frame => frame ≠ .heartbeat 0) →
      ReadEnd loop read result
  | failed {after : EventLoop} {error : ArcError} :
      loop.dispatchFrames serializer options read.frames = (after, .ok) →
      read.result = .error error →
      after.dispatched = loop.dispatched ++ read.frames.filter (fun frame => frame ≠ .heartbeat 0) →
      ReadEnd loop read (after, .err error)

/-- Every read ends as `ReadEnd` says. -/
theorem readFromStream_ends (loop : EventLoop) (read : FrameRead) :
    ReadEnd serializer options loop read (loop.readFromStream serializer options read) := by
  unfold EventLoop.readFromStream
  rcases dispatchFrames_stops loop read.frames with
    ran | ⟨done, frame, rest, middle, split, ran, stopped, notOk⟩
  · generalize dispatched : loop.dispatchFrames serializer options read.frames = result at ran
    obtain ⟨after, outcome⟩ := result
    cases ran
    have whole := dispatchFrames_ok dispatched
    cases result : read.result with
    | ok n => exact .whole (by split <;> exact whole)
    | error error => exact .failed dispatched result whole
  · have history : (middle.dispatch serializer options frame).1.dispatched =
        loop.dispatched ++ (done ++ [frame]).filter (fun frame => frame ≠ .heartbeat 0) := by
      rw [dispatch_dispatched, dispatchFrames_ok ran, List.filter_append, List.append_assoc]
    rw [← stopped]
    generalize dispatched : middle.dispatch serializer options frame = result at notOk history
    obtain ⟨after, outcome⟩ := result
    cases outcome with
    | ok => exact absurd rfl notOk
    | err _ | panic _ => exact .stoppedAt split ran dispatched notOk history

end Amiquip.Runs

namespace Amiquip.Runs

open EventLoop WriteLoop

/-! ## A concrete connection

A serializer and connection options to run the loop on: every connection method becomes one
method frame carrying its AMQP class and method ids, and the options accept any start and agree
to the server's tuning. Nothing proved for all serializers and options depends on them.
-/

/-- The AMQP method id of a connection method. -/
def methodId : AMQPMethod → UInt8
  | .start _ => 10
  | .startOk _ => 11
  | .secure _ => 20
  | .secureOk _ => 21
  | .tune _ => 30
  | .tuneOk _ => 31
  | .open' _ => 40
  | .openOk => 41
  | .close _ => 50
  | .closeOk => 51

/-- Method frames of class 10 with a four-byte payload, and the AMQP heartbeat frame. -/
def exampleSerializer : Serializer where
  method channel method :=
    some [1, (channel >>> 8).toUInt8, channel.toUInt8, 0, 0, 0, 4, 0, 10, 0, methodId method, 206]
  heartbeat := [8, 0, 0, 0, 0, 0, 0, 206]
  method_ne_nil := by
    intro channel method bytes encoded
    cases encoded
    simp
  heartbeat_ne_nil := by simp

/-- Options that answer every start with PLAIN and take the server's tuning as it is. -/
def exampleOptions : ConnectionOptions where
  makeStartOk _ := .ok ⟨"PLAIN", "\x00guest\x00guest", "en_US"⟩
  makeTuneOk tune := .ok ⟨tune.channelMax, tune.frameMax, tune.heartbeat⟩
  makeOpen := "/"

/-- A stream that takes one byte of every slice. -/
def takesOne : Response := fun slice => .ok (min 1 slice.length)

/-- A stream whose send buffer is full. -/
def blocks : Response := fun _ => .error ⟨.wouldBlock⟩

/-- Taking one byte of every slice keeps the contract. -/
theorem takesOne_obeys : takesOne.Obeys := fun _ _ answered => by
  cases answered
  exact min_le_right _ _

/-- A full send buffer keeps the contract. -/
theorem blocks_obeys : blocks.Obeys := fun _ _ answered => nomatch answered

/-- A readable stream event delivering `frames`. -/
def reads (frames : List AMQPFrame) : Event := .stream none (some ⟨frames, .ok 8⟩)

/-- A writable stream event answered by `responses`. -/
def writes (responses : List Response) : Event := .stream (some responses) none

/-- A stream event that is writable, answered by taking every slice whole, and readable with
`frames`. -/
def exchange (frames : List AMQPFrame) : Event :=
  .stream (some [acceptsAll]) (some ⟨frames, .ok 8⟩)

/-- One pass polling only the given events, with re-registration succeeding. -/
def pass (events : List Event) : Iteration := ⟨.ok events, .ok ()⟩

/-- A pass keeps the contract when each of its events does. -/
@[simp] theorem pass_obeys_iff {events : List Event} :
    (pass events).Obeys ↔ ∀ event ∈ events, event.Obeys :=
  ⟨fun obeys => obeys events rfl, fun obeys _ polled => by cases polled; exact obeys⟩

/-- A read writes nothing. -/
@[simp] theorem reads_obeys (frames : List AMQPFrame) : (reads frames).Obeys := trivial

/-- A write keeps the contract when each of its answers does. -/
@[simp] theorem writes_obeys_iff {responses : List Response} :
    (writes responses).Obeys ↔ ∀ response ∈ responses, response.Obeys := Iff.rfl

/-- A write taking every slice whole keeps the contract. -/
@[simp] theorem exchange_obeys (frames : List AMQPFrame) : (exchange frames).Obeys := by
  simp [exchange, Event.Obeys, acceptsAll_obeys]

/-- The happy handshake of the spec, as the server sends it: start, a tune without heartbeats,
open-ok, each read while the client's previous reply is written. -/
def handshake : List Iteration :=
  [pass [exchange [connectionFrame (.start ⟨"PLAIN", "en_US"⟩)]],
    pass [exchange [connectionFrame (.tune ⟨0, 131072, 0⟩)]],
    pass [exchange [connectionFrame .openOk]]]

/-- The handshake followed by further passes keeps the contract when they do. -/
theorem handshake_obeys {later : List Iteration} (obeys : ∀ iteration ∈ later, iteration.Obeys) :
    ∀ iteration ∈ handshake ++ later, iteration.Obeys := by
  simpa [handshake] using obeys

/-- A close the server sends. -/
def shutdown : Close := ⟨320, "shutdown", 0, 0⟩

/-- A frame of another class on another channel, which `Steady` does not handle itself. -/
def delivery : AMQPFrame := .method 1 (.other 60 60)

/-- The loop `EventLoop::new` builds. -/
def started : EventLoop := ⟨⟨[], true⟩, Inner.new .default, .start, []⟩

/-- The loop `EventLoop::new` builds is reachable. -/
theorem started_reachable : Reachable exampleSerializer exampleOptions started :=
  @Reachable.new _ _ (.ok ()) _ rfl

/-- Where the main loop from `started` is after running `iterations`. -/
def runFromStart (iterations : List Iteration) : EventLoop :=
  ((started.mainLoop exampleSerializer exampleOptions iterations).map Prod.fst).getD started

/-- A run from `started` that keeps the contract and does not stop reaches its loop. -/
theorem runFromStart_reachable {iterations : List Iteration}
    (obeys : ∀ iteration ∈ iterations, iteration.Obeys)
    (running : (started.mainLoop exampleSerializer exampleOptions iterations).map Prod.snd =
      some .ok) :
    Reachable exampleSerializer exampleOptions (runFromStart iterations) := by
  cases ran : started.mainLoop exampleSerializer exampleOptions iterations with
  | none => simp [ran] at running
  | some result =>
    obtain ⟨loop, outcome⟩ := result
    simp only [ran, Option.map_some', Option.some.injEq] at running
    subst running
    exact Reachable.mainLoop started_reachable obeys (by simp [runFromStart, ran])

end Amiquip.Runs

namespace Amiquip

/-- The frames the read of an event decodes. -/
def Event.framesRead : Event → List AMQPFrame
  | .stream _ (some read) => read.frames
  | _ => []

/-- The events a pass polls. -/
def Iteration.events (iteration : Iteration) : List Event :=
  match iteration.poll with
  | .ok events => events
  | .error _ => []

/-- The frames the reads of a pass decode, in order. -/
def Iteration.framesRead (iteration : Iteration) : List AMQPFrame :=
  iteration.events.flatMap Event.framesRead

end Amiquip

namespace Amiquip.Runs

open EventLoop WriteLoop

variable {serializer : Serializer} {options : ConnectionOptions}

/-! ## Whole runs of the read path -/

/-- A stream event is its write, then, where the write lets the loop run on, its read. -/
theorem handleEvent_stream (loop : EventLoop) (writable : Option (List Response))
    (readable : Option FrameRead) :
    loop.handleEvent serializer options (.stream writable readable) =
      (loop.handleEvent serializer options (.stream writable none)).map fun (written, outcome) =>
        match outcome, readable with
        | .ok, some read => written.readFromStream serializer options read
        | outcome, _ => (written, outcome) := by
  cases writable with
  | none => rfl
  | some responses =>
    simp only [EventLoop.handleEvent, Option.map_map]
    congr 1
    funext ⟨written, outcome⟩
    cases outcome <;> rfl

/-- A writable stream event with nothing to read is its write. -/
theorem handleEvent_write (loop : EventLoop) (responses : List Response) :
    loop.handleEvent serializer options (.stream (some responses) none) =
      { loop with stream := { loop.stream with writable := false } }.writeToStream responses := by
  simp only [EventLoop.handleEvent]
  cases { loop with stream := { loop.stream with writable := false } }.writeToStream responses with
  | none => rfl
  | some result =>
    obtain ⟨after, outcome⟩ := result
    cases outcome <;> rfl

/-- The write of a stream event leaves the history alone. -/
theorem write_dispatched {loop written : EventLoop} {writable : Option (List Response)}
    {outcome : Outcome}
    (wrote : loop.handleEvent serializer options (.stream writable none) =
      some (written, outcome)) : written.dispatched = loop.dispatched := by
  cases writable with
  | none => cases wrote; rfl
  | some responses =>
    rw [handleEvent_write] at wrote
    obtain ⟨_, _, same⟩ := Option.map_eq_some'.mp wrote
    cases same
    rfl

/-- What an operation that lets the loop run on handed to `process`: the frames decoded while it
ran, in order, each once, channel-0 heartbeats dropped. -/
def Forwards (loop : EventLoop) (frames : List AMQPFrame) (result : EventLoop × Outcome) : Prop :=
  result.2 = .ok →
    result.1.dispatched = loop.dispatched ++ frames.filter (fun frame => frame ≠ .heartbeat 0)

/-- An operation that decodes nothing and hands nothing to `process` forwards nothing. -/
theorem forwards_nothing {loop : EventLoop} {result : EventLoop × Outcome}
    (same : result.1.dispatched = loop.dispatched) : Forwards loop [] result := fun _ => by
  rw [same, List.filter_nil, List.append_nil]

/-- An operation that stops the loop has nothing to forward. -/
theorem forwards_stopped {loop : EventLoop} {frames : List AMQPFrame} {result : EventLoop × Outcome}
    (stopped : result.2 ≠ .ok) : Forwards loop frames result := fun ok => absurd ok stopped

/-- Two operations in sequence, the second only when the first runs on, forward the frames
decoded by both. -/
theorem Forwards.seq {loop : EventLoop} {first later : List AMQPFrame}
    {step result : EventLoop × Outcome} (once : Forwards loop first step)
    (rest : step.2 = .ok → Forwards step.1 later result) (stopped : step.2 ≠ .ok → result = step) :
    Forwards loop (first ++ later) result := fun ok => by
  by_cases ran : step.2 = .ok
  · rw [rest ran ok, once ran, List.filter_append, List.append_assoc]
  · exact absurd (stopped ran ▸ ok) ran

/-- Forwarding depends on the loop it starts from only through the history. -/
theorem Forwards.start {loop other : EventLoop} {frames : List AMQPFrame}
    {result : EventLoop × Outcome} (same : other.dispatched = loop.dispatched)
    (forwards : Forwards other frames result) : Forwards loop frames result := fun ok => by
  rw [forwards ok, same]

/-- A read that lets the loop run on forwards every frame the frame buffer decoded. -/
theorem readFromStream_forwards (loop : EventLoop) (read : FrameRead) :
    Forwards loop read.frames (loop.readFromStream serializer options read) := by
  have ends := @readFromStream_ends serializer options loop read
  generalize loop.readFromStream serializer options read = result at ends ⊢
  intro ok
  cases ends with
  | whole history => exact history
  | stoppedAt _ _ _ notOk => exact absurd ok notOk
  | failed => cases ok

/-- An event that lets the loop run on forwards the frames its read decoded: a write and a timer
pass hand nothing to `process`. -/
theorem handleEvent_forwards (loop : EventLoop) (event : Event) {result : EventLoop × Outcome}
    (handled : loop.handleEvent serializer options event = some result) :
    Forwards loop event.framesRead result := by
  cases event with
  | stream writable readable =>
    rw [handleEvent_stream] at handled
    obtain ⟨⟨written, outcome⟩, wrote, rfl⟩ := Option.map_eq_some'.mp handled
    cases outcome with
    | ok =>
      cases readable with
      | some read => exact (readFromStream_forwards written read).start (write_dispatched wrote)
      | none => exact forwards_nothing (write_dispatched wrote)
    | err _ | panic _ => exact forwards_stopped nofun
  | heartbeat due =>
    cases handled
    exact forwards_nothing rfl
  | other _ =>
    cases handled
    exact forwards_nothing rfl

/-- Events that let the loop run on forward the frames their reads decoded, in order. -/
theorem handleEvents_forwards (events : List Event) :
    ∀ (loop : EventLoop) {result : EventLoop × Outcome},
      loop.handleEvents serializer options events = some result →
        Forwards loop (events.flatMap Event.framesRead) result := by
  induction events with
  | nil =>
    intro loop result handled
    cases handled
    exact forwards_nothing rfl
  | cons event events ih =>
    intro loop result handled
    simp only [EventLoop.handleEvents] at handled
    obtain ⟨⟨middle, outcome⟩, once, rest⟩ := Option.bind_eq_some.mp handled
    rw [List.flatMap_cons]
    refine (handleEvent_forwards loop event once).seq (fun ok => ?_) (fun stopped => ?_)
    · cases ok
      exact ih middle rest
    · cases outcome with
      | ok => exact absurd rfl stopped
      | err _ | panic _ => exact (Option.some.inj rest).symm

/-- A pass that lets the loop run on forwards the frames the reads of its events decoded. -/
theorem iterate_forwards (loop : EventLoop) (iteration : Iteration) {result : EventLoop × Outcome}
    (iterated : loop.iterate serializer options iteration = some result) :
    Forwards loop iteration.framesRead result := by
  unfold EventLoop.iterate at iterated
  unfold Iteration.framesRead Iteration.events
  split at iterated
  case h_3 events _ polled =>
    rw [polled]
    dsimp only
    rw [← List.append_nil (events.flatMap _)]
    obtain ⟨⟨middle, outcome⟩, handled, rfl⟩ := Option.map_eq_some'.mp iterated
    refine (handleEvents_forwards events loop handled).seq (fun ok => ?_) (fun stopped => ?_)
    · cases ok
      obtain ⟨writable, same⟩ := reregister_fst middle loop.inner.hasDataToWrite
        iteration.reregister
      exact forwards_nothing (by rw [same])
    · cases outcome with
      | ok => exact absurd rfl stopped
      | err _ | panic _ => rfl
  -- a poll that fails or times out decodes and hands over nothing
  all_goals
    rename_i polled
    cases iterated
    rw [polled]
    exact forwards_nothing rfl

/-- A run that goes on forwards the frames every read of it decoded, in order. -/
theorem mainLoop_forwards (iterations : List Iteration) :
    ∀ (loop : EventLoop) {result : EventLoop × Outcome},
      loop.mainLoop serializer options iterations = some result →
        Forwards loop (iterations.flatMap Iteration.framesRead) result := by
  induction iterations with
  | nil =>
    intro loop result ran
    cases ran
    exact forwards_nothing rfl
  | cons iteration iterations ih =>
    intro loop result ran
    simp only [EventLoop.mainLoop] at ran
    obtain ⟨⟨middle, outcome⟩, once, rest⟩ := Option.bind_eq_some.mp ran
    rw [List.flatMap_cons]
    refine (iterate_forwards loop iteration once).seq (fun ok => ?_) (fun stopped => ?_)
    · cases ok
      exact ih middle rest
    · cases outcome with
      | ok => exact absurd rfl stopped
      | err _ | panic _ => exact (Option.some.inj rest).symm

/-! ## Where a run stops -/

variable (serializer options) in
/-- What the operation that stopped the loop from `reached` handed to `process`: a poll or a
re-registration (no event), a timer or a foreign event hand over nothing; a stream event whose
write fails skips its read and hands over nothing; a stream event whose write, if any, went
through hands over what its read does, which ends as `ReadEnd` says. -/
inductive StopForwards (reached : EventLoop) : Option Event → EventLoop × Outcome → Prop
  | nothing {stopping : Option Event} {result : EventLoop × Outcome} :
      (∀ event, stopping = some event → event.framesRead = []) →
      result.1.dispatched = reached.dispatched → StopForwards reached stopping result
  | writeFailed {responses : List Response} {readable : Option FrameRead}
      {result : EventLoop × Outcome} :
      { reached with stream := { reached.stream with writable := false } }.writeToStream
        responses = some result → result.2 ≠ .ok → result.1.dispatched = reached.dispatched →
      StopForwards reached (some (.stream (some responses) readable)) result
  | readStopped {writable : Option (List Response)} {read : FrameRead} {written : EventLoop}
      {result : EventLoop × Outcome} :
      reached.handleEvent serializer options (.stream writable none) = some (written, .ok) →
      written.dispatched = reached.dispatched → ReadEnd serializer options written read result →
      StopForwards reached (some (.stream writable (some read))) result

/-- An event that stops the loop hands over what `StopForwards` says. -/
theorem handleEvent_stops {reached : EventLoop} {event : Event} {result : EventLoop × Outcome}
    (handled : reached.handleEvent serializer options event = some result)
    (notOk : result.2 ≠ .ok) : StopForwards serializer options reached (some event) result := by
  cases event with
  | stream writable readable =>
    rw [handleEvent_stream] at handled
    obtain ⟨⟨written, outcome⟩, wrote, rfl⟩ := Option.map_eq_some'.mp handled
    cases outcome with
    | ok =>
      cases readable with
      | some read => exact .readStopped wrote (write_dispatched wrote) (readFromStream_ends _ _)
      | none => exact absurd rfl notOk
    | err _ | panic _ =>
      cases writable with
      | none => cases wrote
      | some responses =>
        exact .writeFailed ((handleEvent_write _ _).symm.trans wrote) nofun
          (write_dispatched wrote)
  | heartbeat due =>
    cases handled
    exact .nothing (fun _ same => by cases same; rfl) rfl
  | other _ =>
    cases handled
    exact .nothing (fun _ same => by cases same; rfl) rfl

variable (serializer options) in
/-- Where a pass from `loop` stopped the loop at `result`: its poll fails or times out; one of its
events stops it, after the events `handled` before it ran on to `reached`; or its
re-registration fails, after all of its events `handled` ran on to `reached`. `stopping` is the
event that stopped it, if one did. -/
inductive PassStops (loop : EventLoop) (iteration : Iteration) (result : EventLoop × Outcome) :
    List Event → EventLoop → Option Event → Prop
  | pollFailed {error : IoError} : iteration.poll = .error error →
      result = (loop, .err (.ofIo .io error)) → PassStops loop iteration result [] loop none
  | timedOut : iteration.poll = .ok [] → result = (loop, .fail .socketPollTimeout) →
      PassStops loop iteration result [] loop none
  | event {handled skipped : List Event} {event : Event} {reached : EventLoop} :
      iteration.poll = .ok (handled ++ event :: skipped) →
      loop.handleEvents serializer options handled = some (reached, .ok) →
      reached.handleEvent serializer options event = some result → result.2 ≠ .ok →
      PassStops loop iteration result handled reached (some event)
  | reregister {handled : List Event} {reached : EventLoop} :
      iteration.poll = .ok handled → handled ≠ [] →
      loop.handleEvents serializer options handled = some (reached, .ok) →
      reached.reregister loop.inner.hasDataToWrite iteration.reregister = result →
      result.2 ≠ .ok → PassStops loop iteration result handled reached none

/-- Events that stop the loop stop at one of them, after those before it ran on. -/
theorem handleEvents_stops (events : List Event) :
    ∀ {loop : EventLoop} {result : EventLoop × Outcome},
      loop.handleEvents serializer options events = some result → result.2 ≠ .ok →
      ∃ handled event skipped reached, events = handled ++ event :: skipped ∧
        loop.handleEvents serializer options handled = some (reached, .ok) ∧
        reached.handleEvent serializer options event = some result := by
  induction events with
  | nil =>
    intro loop result handled notOk
    cases handled
    exact absurd rfl notOk
  | cons event events ih =>
    intro loop result handled notOk
    simp only [EventLoop.handleEvents] at handled
    obtain ⟨⟨middle, outcome⟩, once, rest⟩ := Option.bind_eq_some.mp handled
    cases outcome with
    | ok =>
      obtain ⟨before, failing, skipped, reached, split, ran, stopped⟩ := ih rest notOk
      refine ⟨event :: before, failing, skipped, reached, by rw [split]; rfl, ?_, stopped⟩
      simp only [EventLoop.handleEvents, once, Option.some_bind]
      exact ran
    | err _ | panic _ =>
      cases rest
      exact ⟨[], event, events, loop, rfl, rfl, once⟩

/-- A pass that stops the loop stops as `PassStops` says. -/
theorem iterate_stops {loop : EventLoop} {iteration : Iteration} {result : EventLoop × Outcome}
    (iterated : loop.iterate serializer options iteration = some result) (notOk : result.2 ≠ .ok) :
    ∃ handled reached stopping,
      PassStops serializer options loop iteration result handled reached stopping := by
  unfold EventLoop.iterate at iterated
  split at iterated
  · rename_i polled
    exact ⟨_, _, _, .pollFailed polled (Option.some.inj iterated).symm⟩
  · rename_i polled
    exact ⟨_, _, _, .timedOut polled (Option.some.inj iterated).symm⟩
  · rename_i events nonempty polled
    obtain ⟨⟨middle, outcome⟩, handled, finished⟩ := Option.map_eq_some'.mp iterated
    cases outcome with
    | ok =>
      exact ⟨_, _, _, .reregister polled (fun empty => nonempty (empty ▸ rfl)) handled finished
        notOk⟩
    | err _ | panic _ =>
      cases finished
      obtain ⟨before, event, skipped, reached, rfl, ran, stopped⟩ :=
        handleEvents_stops events handled notOk
      exact ⟨_, _, _, .event polled ran stopped notOk⟩

variable (serializer options) in
/-- Where a run from `loop` over `iterations` stopped at `result`: the passes `done` before the
stopping one ran on, and that pass stopped as `PassStops` says. `earlier` are the events handled
in full before the stop, `reached` the loop the stopping operation started from, and `stopping`
the event that stopped the run, if one did. -/
def StopsAt (loop : EventLoop) (iterations : List Iteration) (result : EventLoop × Outcome)
    (earlier : List Event) (reached : EventLoop) (stopping : Option Event) : Prop :=
  ∃ done iteration later middle handled, iterations = done ++ iteration :: later ∧
    loop.mainLoop serializer options done = some (middle, .ok) ∧
    PassStops serializer options middle iteration result handled reached stopping ∧
    earlier = done.flatMap Iteration.events ++ handled

/-- A run that stops does so as `StopsAt` says. -/
theorem mainLoop_stops (iterations : List Iteration) :
    ∀ {loop : EventLoop} {result : EventLoop × Outcome},
      loop.mainLoop serializer options iterations = some result → result.2 ≠ .ok →
      ∃ earlier reached stopping,
        StopsAt serializer options loop iterations result earlier reached stopping := by
  induction iterations with
  | nil =>
    intro loop result ran notOk
    cases ran
    exact absurd rfl notOk
  | cons iteration later ih =>
    intro loop result ran notOk
    simp only [EventLoop.mainLoop] at ran
    obtain ⟨⟨middle, outcome⟩, once, rest⟩ := Option.bind_eq_some.mp ran
    cases outcome with
    | ok =>
      obtain ⟨_, reached, stopping, done, stopper, remaining, start, handled, split, runs, stops,
        rfl⟩ := ih rest notOk
      refine ⟨_, reached, stopping, iteration :: done, stopper, remaining, start, handled,
        by rw [split]; rfl, ?_, stops, by rw [List.flatMap_cons, List.append_assoc]⟩
      simp only [EventLoop.mainLoop, once, Option.some_bind]
      exact runs
    | err _ | panic _ =>
      cases rest
      obtain ⟨handled, reached, stopping, stops⟩ := iterate_stops once notOk
      exact ⟨_, reached, stopping, [], iteration, later, loop, handled, rfl, rfl, stops, rfl⟩

/-- Where a pass stops, the loop its stopping operation starts from has forwarded the frames of
the events handled before in full, and the operation hands over what `StopForwards` says. -/
theorem PassStops.forwards {loop : EventLoop} {iteration : Iteration}
    {result : EventLoop × Outcome} {handled : List Event} {reached : EventLoop}
    {stopping : Option Event}
    (stops : PassStops serializer options loop iteration result handled reached stopping) :
    reached.dispatched = loop.dispatched ++
        (handled.flatMap Event.framesRead).filter (fun frame => frame ≠ .heartbeat 0) ∧
      StopForwards serializer options reached stopping result := by
  cases stops with
  | pollFailed _ stopped | timedOut _ stopped =>
    subst stopped
    exact ⟨by simp, .nothing nofun rfl⟩
  | event _ ran stopped notOk =>
    exact ⟨handleEvents_forwards _ _ ran rfl, handleEvent_stops stopped notOk⟩
  | reregister _ _ ran registered _ =>
    refine ⟨handleEvents_forwards _ _ ran rfl, .nothing nofun ?_⟩
    obtain ⟨writable, same⟩ := reregister_fst reached loop.inner.hasDataToWrite iteration.reregister
    rw [← registered, same]

/-- Over every run of the main loop from any loop, the frames handed to `process` are the frames
the frame buffer decoded in the reads of the run, in order and each once, channel-0 heartbeats
dropped. When the run goes on, all of them. When it stops, those of every event handled in full
before the stop, then what the stopping operation handed over: nothing for a poll, a
re-registration, a timer or a failed write, whose read is skipped, and for a read, the frames up
to the one whose processing stopped the loop. No frame is lost, duplicated or reordered between
the frame buffer and the state machine. -/
theorem dispatched_frames_read (loop : EventLoop) (iterations : List Iteration)
    {result : EventLoop × Outcome}
    (ran : loop.mainLoop serializer options iterations = some result) :
    (result.2 = .ok → result.1.dispatched = loop.dispatched ++
        (iterations.flatMap Iteration.framesRead).filter (fun frame => frame ≠ .heartbeat 0)) ∧
      (result.2 ≠ .ok → ∃ earlier reached stopping,
        StopsAt serializer options loop iterations result earlier reached stopping ∧
        reached.dispatched = loop.dispatched ++
          (earlier.flatMap Event.framesRead).filter (fun frame => frame ≠ .heartbeat 0) ∧
        StopForwards serializer options reached stopping result) := by
  refine ⟨mainLoop_forwards iterations loop ran, fun notOk => ?_⟩
  obtain ⟨earlier, reached, stopping, stops⟩ := mainLoop_stops iterations ran notOk
  refine ⟨earlier, reached, stopping, stops, ?_⟩
  obtain ⟨done, iteration, later, middle, handled, -, runs, passStops, rfl⟩ := stops
  obtain ⟨history, forwards⟩ := passStops.forwards
  refine ⟨?_, forwards⟩
  rw [history, mainLoop_forwards done loop runs rfl, List.append_assoc, ← List.filter_append,
    List.flatMap_append, List.flatMap_assoc]
  rfl

/-- The handshake hands `process` the start, the tune and the open-ok, the frames its three
reads decoded. -/
theorem dispatched_frames_read_handshake :
    started.mainLoop exampleSerializer exampleOptions handshake =
        some (runFromStart handshake, .ok) ∧
      (runFromStart handshake).dispatched = (handshake.flatMap Iteration.framesRead).filter
        (fun frame => frame ≠ .heartbeat 0) :=
  have ran : started.mainLoop exampleSerializer exampleOptions handshake =
      some (runFromStart handshake, .ok) := by rfl
  ⟨ran, (dispatched_frames_read started handshake ran).1 rfl⟩

end Amiquip.Runs
