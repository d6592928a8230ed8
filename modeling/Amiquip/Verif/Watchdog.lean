import Amiquip.Verif.Timers

/-!
# The receiving watchdog over whole runs

A firing of the receiving heartbeat that finds no byte received since the one before ends the
loop with `MissedServerHeartbeats`. Over every run from a reachable loop in which no read
receives a byte, the loop does not go on past the second firing of the receiving heartbeat, or
past the first when no activity was recorded since it last fired; over a run in which no firing
finds its activity used up (`Event.feed`), it stops with a missed heartbeat only where a read
fails with that error.
-/

namespace Amiquip

/-- Nothing received: every read the event makes returns no byte or an error. -/
def Event.Silent : Event → Prop
  | .stream _ (some read) => ∀ n, read.result = .ok n → n = 0
  | _ => True

/-- The firings of the receiving heartbeat an event brings. -/
def Event.rxFirings : Event → Nat
  | .heartbeat due => due.count .rx
  | _ => 0

/-- Nothing received in any event a pass polls. -/
def Iteration.Silent (iteration : Iteration) : Prop :=
  ∀ events, iteration.poll = .ok events → ∀ event ∈ events, event.Silent

/-- The firings of the receiving heartbeat the events of a pass bring. -/
def Iteration.rxFirings (iteration : Iteration) : Nat :=
  match iteration.poll with
  | .ok events => (events.map Event.rxFirings).foldr (· + ·) 0
  | .error _ => 0

/-- Whether a read received a byte: `n > 0` for the count it returned. -/
def FrameRead.receives (read : FrameRead) : Bool :=
  match read.result with
  | .ok n => n > 0
  | .error _ => false

/-- Whether activity is recorded since the receiving heartbeat last fired, after the timer yields
`due` with `active` recorded before: none when a firing of it finds no activity. -/
def feedFirings (active : Bool) : List HeartbeatKind → Option Bool
  | [] => some active
  | .rx :: due => if active then feedFirings false due else none
  | .tx :: due => feedFirings active due

/-- Whether activity is recorded since the receiving heartbeat last fired, after an event: a read
that receives a byte records it, a firing of the receiving heartbeat uses it up, and none when
such a firing finds none. -/
def Event.feed (active : Bool) : Event → Option Bool
  | .stream _ (some read) => some (active || read.receives)
  | .heartbeat due => feedFirings active due
  | _ => some active

/-- The read of an event failed with `error`. -/
def Event.ReadFails (error : ArcError) : Event → Prop
  | .stream _ (some read) => read.result = .error error
  | _ => False

end Amiquip

namespace Amiquip.Watchdog

open EventLoop Runs Effects WriteLoop Timers

variable {serializer : Serializer} {options : ConnectionOptions}

/-! ## The measure -/

/-- How many more firings of the receiving heartbeat the loop survives with nothing received:
one when activity was recorded since it last fired, none when none was or it does not run. -/
def spare (timers : HeartbeatTimers) : Nat :=
  match timers.rx with
  | some rx => if rx.active then 1 else 0
  | none => 0

/-- Firing the sending heartbeat leaves the watchdog alone. -/
theorem spare_fire_tx {timers after : HeartbeatTimers} {message : String}
    {state : HeartbeatState} (fired : timers.fire .tx message = .ok (state, after)) :
    spare after = spare timers := by
  unfold HeartbeatTimers.fire at fired
  split at fired
  · cases fired
  · simp only [Heartbeat.fire] at fired
    split at fired <;> cases fired <;> rfl

/-- A firing of the receiving heartbeat that finds activity uses up its spare firing. -/
theorem spare_fire_rx {timers after : HeartbeatTimers} {message : String}
    (fired : timers.fire .rx message = .ok (.stillRunning, after)) :
    spare after + 1 = spare timers := by
  unfold HeartbeatTimers.fire at fired
  split at fired
  · cases fired
  · rename_i heartbeat running
    simp only [Heartbeat.fire] at fired
    split at fired <;> cases fired
    simp_all [spare, HeartbeatTimers.set]

/-- A timer pass that does not stop the loop lowers the spare firings by the firings of the
receiving heartbeat it makes. -/
theorem processHeartbeatTimers_spare (inner : Inner) (due : List HeartbeatKind)
    (alive : (inner.processHeartbeatTimers serializer due).2 = .ok) :
    spare (inner.processHeartbeatTimers serializer due).1.heartbeats + due.count .rx ≤
      spare inner.heartbeats := by
  induction due generalizing inner with
  | nil => simp [Inner.processHeartbeatTimers]
  | cons kind due ih =>
    -- the arms of each firing: the `expect` fails, `StillRunning`, `Expired`
    cases kind <;> simp only [Inner.processHeartbeatTimers] at alive ⊢ <;> split at alive
    case rx.h_1 | rx.h_3 | tx.h_1 => cases alive
    case rx.h_2 fired =>
      have := spare_fire_rx fired
      have := ih _ alive
      simp only [List.count_cons_self] at this ⊢
      omega
    case tx.h_2 fired =>
      rw [List.count_cons_of_ne (by decide : HeartbeatKind.rx ≠ .tx), ← spare_fire_tx fired]
      exact ih _ alive
    case tx.h_3 fired =>
      rw [List.count_cons_of_ne (by decide : HeartbeatKind.rx ≠ .tx), ← spare_fire_tx fired]
      revert alive
      split <;> exact ih _

/-! ## What each operation does to it -/

/-- A frame leaves running heartbeats as they are. -/
theorem dispatch_keeps_heartbeats {loop : EventLoop} (books : TimerBooks loop)
    (running : loop.inner.heartbeats.rx.isSome) (frame : AMQPFrame) :
    (loop.dispatch serializer options frame).1.inner.heartbeats = loop.inner.heartbeats :=
  Classical.byContradiction fun changed => by
    simp [(dispatch_heartbeats books changed).2.2.1] at running

/-- The frames of a read leave running heartbeats as they are. -/
theorem dispatchFrames_heartbeats (frames : List AMQPFrame) :
    ∀ {loop : EventLoop}, TimerBooks loop → loop.inner.heartbeats.rx.isSome →
      (loop.dispatchFrames serializer options frames).1.inner.heartbeats =
        loop.inner.heartbeats := by
  induction frames with
  | nil => exact fun _ _ => rfl
  | cons frame frames ih =>
    intro loop books running
    have same := @dispatch_keeps_heartbeats serializer options loop books running frame
    have lands := @timers_dispatch serializer options loop books frame
    simp only [EventLoop.dispatchFrames]
    generalize loop.dispatch serializer options frame = dispatched at same lands ⊢
    obtain ⟨middle, outcome⟩ := dispatched
    cases outcome with
    | ok => exact (ih lands (same ▸ running)).trans same
    | err _ | panic _ => exact same

/-- A read that receives no byte leaves running heartbeats as they are. -/
theorem readFromStream_heartbeats {loop : EventLoop} (books : TimerBooks loop)
    (running : loop.inner.heartbeats.rx.isSome) {read : FrameRead}
    (silent : ∀ n, read.result = .ok n → n = 0) :
    (loop.readFromStream serializer options read).1.inner.heartbeats = loop.inner.heartbeats := by
  have same := @dispatchFrames_heartbeats serializer options read.frames loop books running
  unfold EventLoop.readFromStream
  generalize loop.dispatchFrames serializer options read.frames = dispatched at same ⊢
  obtain ⟨middle, outcome⟩ := dispatched
  cases outcome with
  | ok =>
    cases result : read.result with
    | ok n => simpa [silent n result] using same
    | error _ => exact same
  | err _ | panic _ => exact same

/-- A write records transmit activity at most: the receiving heartbeat is left as it was. -/
theorem write_rx {loop : EventLoop} {responses : List Response} {result : EventLoop × Outcome}
    (obeys : ∀ response ∈ responses, response.Obeys)
    (written : loop.writeToStream responses = some result) :
    result.1.inner.heartbeats.rx = loop.inner.heartbeats.rx := by
  obtain ⟨⟨inner, state, stream, outcome⟩, call, rfl⟩ := Option.map_eq_some'.mp written
  have recorded : ∀ wrote, (txRecorded loop.inner wrote).heartbeats.rx = loop.inner.heartbeats.rx :=
    fun wrote => by cases wrote <;> rfl
  cases writeToStream_step obeys call with
  | closing _ => rfl
  | failed _ wrote | serverClosed _ wrote | completed _ wrote => exact recorded wrote
  | blocked _ wrote _ _ _ _ _ _ _ beats =>
    exact (congrArg HeartbeatTimers.rx beats).trans (recorded wrote)

/-- An event that receives nothing and does not stop the loop keeps the receiving heartbeat
running and lowers the spare firings by the receiving firings it brings. -/
theorem handleEvent_spare {loop after : EventLoop} {event : Event} (books : TimerBooks loop)
    (running : loop.inner.heartbeats.rx.isSome) (obeys : event.Obeys) (silent : event.Silent)
    (handled : loop.handleEvent serializer options event = some (after, .ok)) :
    after.inner.heartbeats.rx.isSome ∧
      spare after.inner.heartbeats + event.rxFirings ≤ spare loop.inner.heartbeats := by
  cases event with
  | stream writable readable =>
    simp only [EventLoop.handleEvent] at handled
    obtain ⟨⟨written, outcome⟩, wrote, finished⟩ := Option.map_eq_some'.mp handled
    have write : written.inner.heartbeats.rx = loop.inner.heartbeats.rx ∧
        (outcome = .ok → TimerBooks written) := by
      cases writable with
      | none => cases wrote; exact ⟨rfl, fun _ => books⟩
      | some responses =>
        have lands := (@timers_kept serializer options).write _ _ _ obeys
          ((@timers_kept serializer options).consume _ books) wrote
        exact ⟨write_rx obeys wrote, fun ok => by subst ok; exact lands⟩
    have same : after.inner.heartbeats.rx = loop.inner.heartbeats.rx := by
      cases outcome with
      | ok =>
        cases readable with
        | some read =>
          have := @readFromStream_heartbeats serializer options _ (write.2 rfl)
            (write.1 ▸ running) _ silent
          rw [show written.readFromStream serializer options read = (after, .ok) from finished]
            at this
          rw [this, write.1]
        | none => cases finished; exact write.1
      | err _ | panic _ => cases finished
    simp [same, running, spare, Event.rxFirings]
  | heartbeat due =>
    simp only [EventLoop.handleEvent, processHeartbeatTimers_eq, Option.some.injEq,
      Prod.mk.injEq] at handled
    obtain ⟨rfl, alive⟩ := handled
    exact ⟨(processHeartbeatTimers_effect serializer loop.inner due).rx ▸ running,
      processHeartbeatTimers_spare loop.inner due alive⟩
  | other _ => cases handled

/-! ## Runs -/

/-- The events of a pass, up to where it would stop, lower the measure by the receiving firings
they bring. -/
theorem handleEvents_spare (events : List Event) :
    ∀ {loop after : EventLoop}, TimerBooks loop → loop.inner.heartbeats.rx.isSome →
      (∀ event ∈ events, event.Obeys) → (∀ event ∈ events, event.Silent) →
      loop.handleEvents serializer options events = some (after, .ok) →
      after.inner.heartbeats.rx.isSome ∧
        spare after.inner.heartbeats + (events.map Event.rxFirings).foldr (· + ·) 0 ≤
          spare loop.inner.heartbeats := by
  induction events with
  | nil => rintro loop after - running - - ⟨⟩; exact ⟨running, le_refl _⟩
  | cons event events ih =>
    intro loop after books running obeys silent handled
    simp only [EventLoop.handleEvents] at handled
    obtain ⟨⟨middle, outcome⟩, once, rest⟩ := Option.bind_eq_some.mp handled
    cases outcome with
    | ok =>
      have kept := (@timers_kept serializer options).handleEvent loop event
        (obeys event (by simp)) books once
      obtain ⟨running, first⟩ :=
        handleEvent_spare books running (obeys event (by simp)) (silent event (by simp)) once
      obtain ⟨running, later⟩ := ih kept running (fun e mem => obeys e (by simp [mem]))
        (fun e mem => silent e (by simp [mem])) rest
      exact ⟨running, by simp only [List.map_cons, List.foldr_cons]; omega⟩
    | err _ | panic _ => cases rest

/-- A pass of the main loop that receives nothing and does not stop lowers the measure by the
receiving firings its events bring. -/
theorem iterate_spare {loop after : EventLoop} {iteration : Iteration} (books : TimerBooks loop)
    (running : loop.inner.heartbeats.rx.isSome) (obeys : iteration.Obeys)
    (silent : iteration.Silent)
    (iterated : loop.iterate serializer options iteration = some (after, .ok)) :
    after.inner.heartbeats.rx.isSome ∧
      spare after.inner.heartbeats + iteration.rxFirings ≤ spare loop.inner.heartbeats := by
  unfold EventLoop.iterate at iterated
  split at iterated
  · cases iterated
  · cases iterated
  · rename_i events _ polled
    obtain ⟨⟨middle, outcome⟩, handled, reregistered⟩ := Option.map_eq_some'.mp iterated
    cases outcome with
    | ok =>
      have reregistered : middle.reregister loop.inner.hasDataToWrite iteration.reregister =
          (after, .ok) := reregistered
      have same : after.inner = middle.inner := by
        obtain ⟨writable, same⟩ := reregister_fst middle loop.inner.hasDataToWrite
          iteration.reregister
        rw [reregistered] at same
        exact (congrArg EventLoop.inner same :)
      rw [Iteration.rxFirings, polled, same]
      exact handleEvents_spare events books running (obeys events polled) (silent events polled)
        handled
    | err _ | panic _ => cases reregistered

/-- A run that receives nothing and does not stop lowers the measure by all the receiving
firings it brings. -/
theorem mainLoop_spare (iterations : List Iteration) :
    ∀ {loop after : EventLoop}, TimerBooks loop → loop.inner.heartbeats.rx.isSome →
      (∀ iteration ∈ iterations, iteration.Obeys) →
      (∀ iteration ∈ iterations, iteration.Silent) →
      loop.mainLoop serializer options iterations = some (after, .ok) →
      after.inner.heartbeats.rx.isSome ∧
        spare after.inner.heartbeats + (iterations.map Iteration.rxFirings).foldr (· + ·) 0 ≤
          spare loop.inner.heartbeats := by
  induction iterations with
  | nil => rintro loop after - running - - ⟨⟩; exact ⟨running, le_refl _⟩
  | cons iteration iterations ih =>
    intro loop after books running obeys silent ran
    simp only [EventLoop.mainLoop] at ran
    obtain ⟨⟨middle, outcome⟩, once, rest⟩ := Option.bind_eq_some.mp ran
    cases outcome with
    | ok =>
      have kept := (@timers_kept serializer options).iterate (obeys iteration (by simp)) books once
      obtain ⟨running, first⟩ := iterate_spare books running (obeys iteration (by simp))
        (silent iteration (by simp)) once
      obtain ⟨running, later⟩ := ih kept running (fun it mem => obeys it (by simp [mem]))
        (fun it mem => silent it (by simp [mem])) rest
      exact ⟨running, by simp only [List.map_cons, List.foldr_cons]; omega⟩
    | err _ | panic _ => cases rest

/-- The receiving watchdog over whole runs: from any reachable loop with the heartbeats running,
a run of the main loop in which no read receives a byte does not go on once the receiving
heartbeat has fired twice, or once when no activity was recorded since it last fired, however
the firings fall across passes and timer events. -/
theorem silent_server_detected {loop : EventLoop} (reachable : Reachable serializer options loop)
    {rx : Heartbeat} (receiving : loop.inner.heartbeats.rx = some rx)
    {iterations : List Iteration} (obeys : ∀ iteration ∈ iterations, iteration.Obeys)
    (silent : ∀ iteration ∈ iterations, iteration.Silent)
    (fired :
      (if rx.active then 2 else 1) ≤ (iterations.map Iteration.rxFirings).foldr (· + ·) 0)
    (after : EventLoop) : loop.mainLoop serializer options iterations ≠ some (after, .ok) :=
  fun ran => by
    have bound := (mainLoop_spare iterations (Reachable.holds timers_kept timers_new reachable)
      (by simp [receiving]) obeys silent ran).2
    have allowed : spare loop.inner.heartbeats + 1 = if rx.active then 2 else 1 := by
      cases active : rx.active <;> simp [spare, receiving, active]
    omega

/-- After the handshake of `beating`, two passes that each fire only the receiving heartbeat,
with no read between them, end the run. -/
theorem silent_server_detected_beating :
    (runFromStart beating).inner.heartbeats.rx = some ⟨.rx, 120, true⟩ ∧
      ∀ after, (runFromStart beating).mainLoop exampleSerializer exampleOptions
        [pass [.heartbeat [.rx]], pass [.heartbeat [.rx]]] ≠ some (after, .ok) :=
  ⟨rfl, silent_server_detected (runFromStart_reachable
    (show ∀ iteration ∈ beating, iteration.Obeys by simp [beating]) rfl) rfl
    (by simp [Event.Obeys]) (by simp [Iteration.Silent, Runs.pass, Event.Silent]) (by decide)⟩

/-! ## A server that keeps sending -/

/-- A timer pass whose firings of the receiving heartbeat each find activity returns `Ok`, and
leaves activity recorded as the feed says. -/
theorem processHeartbeatTimers_fed (due : List HeartbeatKind) :
    ∀ {inner : Inner} {active next : Bool}, inner.heartbeats.tx.isSome →
      inner.heartbeats.rx.map Heartbeat.active = some active →
      feedFirings active due = some next →
      (inner.processHeartbeatTimers serializer due).2 = .ok ∧
        (inner.processHeartbeatTimers serializer due).1.heartbeats.rx.map Heartbeat.active =
          some next := by
  induction due with
  | nil => rintro inner active next - tracks ⟨⟩; exact ⟨rfl, tracks⟩
  | cons kind due ih =>
    intro inner active next sending tracks fed
    cases kind with
    | rx =>
      obtain ⟨rx, receiving, rfl⟩ := Option.map_eq_some'.mp tracks
      obtain ⟨after, fired, got, others⟩ := inner.heartbeats.fire_running
        (show inner.heartbeats.get .rx = some rx from receiving)
        "fire_rx called on empty rx heartbeat"
      cases active : rx.active with
      | false => simp [active, feedFirings] at fed
      | true =>
        simp only [active, feedFirings, if_true] at fed
        simp only [Inner.processHeartbeatTimers, HeartbeatTimers.fireRx, fired, active, if_true]
        have kept : after.tx = inner.heartbeats.tx := others .tx (by decide)
        exact ih (kept ▸ sending) (by simp [show after.rx = _ from got]) fed
    | tx =>
      obtain ⟨tx, transmitting⟩ := Option.isSome_iff_exists.mp sending
      obtain ⟨after, fired, got, others⟩ := inner.heartbeats.fire_running
        (show inner.heartbeats.get .tx = some tx from transmitting)
        "fire_tx called on empty tx heartbeat"
      have still : after.tx.isSome := by simp [show after.tx = _ from got]
      have same : after.rx = inner.heartbeats.rx := others .rx (by decide)
      simp only [feedFirings] at fed
      cases active : tx.active <;>
        simp only [Inner.processHeartbeatTimers, HeartbeatTimers.fireTx, fired, active,
          Bool.false_eq_true, if_false, if_true]
      · split <;> exact ih still (by simpa [same] using tracks) fed
      · exact ih still (by simpa [same] using tracks) fed

/-- In `Open` and after, `process` never reports a missed heartbeat: its errors there are a frame
out of place, a failed serialization and the server's close-ok of our close. -/
theorem process_not_missed {state : ConnectionState} (opened : 2 < state.rank) (inner : Inner)
    (frame : AMQPFrame) :
    (state.process serializer options inner frame).2.2 ≠ .fail .missedServerHeartbeats := by
  have serialization : ∀ {inner : Inner} {side method close error},
      inner.setCloseReq serializer side method close = .error error →
        Outcome.err error ≠ .fail .missedServerHeartbeats := fun failed => by
    simp [Inner.setCloseReq_eq_error _ _ _ failed, Outcome.fail]
  cases state with
  | start | secure | tune => exact absurd opened (by decide)
  | open' | steady | closing close =>
    unfold ConnectionState.process
    split <;> (try split) <;> first | contradiction | exact serialization ‹_› | nofun

/-- A frame in `Open` or after never reports a missed heartbeat, and leaves the state there. -/
theorem dispatch_not_missed {loop : EventLoop} (opened : 2 < loop.state.rank)
    (frame : AMQPFrame) :
    (loop.dispatch serializer options frame).2 ≠ .fail .missedServerHeartbeats ∧
      2 < (loop.dispatch serializer options frame).1.state.rank := by
  refine ⟨?_, lt_of_lt_of_le opened (Handshake.dispatch_moves loop frame).rank_le⟩
  by_cases heartbeat : frame = .heartbeat 0
  · subst heartbeat
    exact nofun
  have quiet := @process_not_missed serializer options _ opened loop.inner frame
  rw [dispatch_eq heartbeat]
  generalize loop.state.process serializer options loop.inner frame = processed at quiet ⊢
  exact quiet

/-- The frames of a read in `Open` or after never report a missed heartbeat. -/
theorem dispatchFrames_not_missed (frames : List AMQPFrame) :
    ∀ {loop : EventLoop}, 2 < loop.state.rank →
      (loop.dispatchFrames serializer options frames).2 ≠ .fail .missedServerHeartbeats := by
  induction frames with
  | nil => exact fun _ => nofun
  | cons frame frames ih =>
    intro loop opened
    have ⟨quiet, still⟩ := @dispatch_not_missed serializer options loop opened frame
    simp only [EventLoop.dispatchFrames]
    generalize loop.dispatch serializer options frame = dispatched at quiet still ⊢
    obtain ⟨middle, outcome⟩ := dispatched
    cases outcome with
    | ok => exact ih still
    | err _ | panic _ => exact quiet

/-- Where the receiving heartbeat runs, the loop is in `Open` or after. -/
theorem opened_of_running {loop : EventLoop} (books : TimerBooks loop)
    (running : loop.inner.heartbeats.rx.isSome) : 2 < loop.state.rank :=
  Nat.lt_of_not_le fun early => by simp [(books.unstarted early).1] at running

/-- A read with the heartbeats running reports a missed heartbeat only when the frame buffer
failed with that very error, and where it returns `Ok` it has recorded receive activity exactly
when it received a byte. -/
theorem readFromStream_fed {loop : EventLoop} (books : TimerBooks loop) {active : Bool}
    (tracks : loop.inner.heartbeats.rx.map Heartbeat.active = some active) (read : FrameRead) :
    ((loop.readFromStream serializer options read).2 = .fail .missedServerHeartbeats →
        read.result = .error (.ofKind .missedServerHeartbeats)) ∧
      ((loop.readFromStream serializer options read).2 = .ok →
        (loop.readFromStream serializer options read).1.inner.heartbeats.rx.map Heartbeat.active =
          some (active || read.receives)) := by
  obtain ⟨rx, receiving, rfl⟩ := Option.map_eq_some'.mp tracks
  have running : loop.inner.heartbeats.rx.isSome := by simp [receiving]
  have same := @dispatchFrames_heartbeats serializer options read.frames loop books running
  have quiet := @dispatchFrames_not_missed serializer options read.frames loop
    (opened_of_running books running)
  unfold EventLoop.readFromStream FrameRead.receives
  generalize loop.dispatchFrames serializer options read.frames = dispatched at same quiet ⊢
  obtain ⟨middle, outcome⟩ := dispatched
  cases outcome with
  | ok =>
    simp only at same
    cases result : read.result with
    | ok n =>
      by_cases positive : n > 0 <;>
        simp [positive, same, receiving, Inner.recordRxActivity, HeartbeatTimers.recordRxActivity,
          HeartbeatTimers.recordActivity, HeartbeatTimers.set, Heartbeat.recordActivity,
          Outcome.fail]
    | error error => simp [Outcome.fail]
  | err _ | panic _ => exact ⟨fun missed => absurd missed quiet, nofun⟩

/-- A write never reports a missed heartbeat: it fails with an I/O error or the server's close. -/
theorem write_not_missed {loop : EventLoop} {responses : List Response}
    {result : EventLoop × Outcome} (obeys : ∀ response ∈ responses, response.Obeys)
    (written : loop.writeToStream responses = some result) :
    result.2 ≠ .fail .missedServerHeartbeats := by
  obtain ⟨⟨inner, state, stream, outcome⟩, call, rfl⟩ := Option.map_eq_some'.mp written
  cases writeToStream_step obeys call <;> simp [Outcome.fail]

/-- An event with the heartbeats running reports a missed heartbeat only when its read failed
with that very error, and where it returns `Ok` it leaves activity recorded as the feed says. -/
theorem handleEvent_fed {loop : EventLoop} {event : Event} {active next : Bool}
    {result : EventLoop × Outcome} (books : TimerBooks loop)
    (tracks : loop.inner.heartbeats.rx.map Heartbeat.active = some active) (obeys : event.Obeys)
    (fed : event.feed active = some next)
    (handled : loop.handleEvent serializer options event = some result) :
    (result.2 = .fail .missedServerHeartbeats →
        event.ReadFails (.ofKind .missedServerHeartbeats)) ∧
      (result.2 = .ok → result.1.inner.heartbeats.rx.map Heartbeat.active = some next) := by
  cases event with
  | stream writable readable =>
    simp only [EventLoop.handleEvent] at handled
    obtain ⟨⟨written, outcome⟩, wrote, rfl⟩ := Option.map_eq_some'.mp handled
    have write : written.inner.heartbeats.rx = loop.inner.heartbeats.rx ∧
        outcome ≠ .fail .missedServerHeartbeats ∧ (outcome = .ok → TimerBooks written) := by
      cases writable with
      | none => cases wrote; exact ⟨rfl, nofun, fun _ => books⟩
      | some responses =>
        have lands := (@timers_kept serializer options).write _ _ _ obeys
          ((@timers_kept serializer options).consume _ books) wrote
        exact ⟨write_rx obeys wrote, write_not_missed obeys wrote,
          fun ok => by subst ok; exact lands⟩
    obtain ⟨same, quiet, kept⟩ := write
    cases outcome with
    | ok =>
      cases readable with
      | some read =>
        simp only [Event.feed, Option.some.injEq] at fed
        subst fed
        exact readFromStream_fed (kept rfl) (same ▸ tracks) read
      | none =>
        simp only [Event.feed, Option.some.injEq] at fed
        exact ⟨nofun, fun _ => by rw [← fed, ← tracks, same]⟩
    | err _ | panic _ => exact ⟨fun missed => absurd missed quiet, nofun⟩
  | heartbeat due =>
    simp only [EventLoop.handleEvent, processHeartbeatTimers_eq, Option.some.injEq] at handled
    subst handled
    have sending : loop.inner.heartbeats.tx.isSome := by
      obtain ⟨rx, receiving, -⟩ := Option.map_eq_some'.mp tracks
      rw [← books.consistent.paired, receiving]; rfl
    obtain ⟨ok, fedTo⟩ := @processHeartbeatTimers_fed serializer due _ _ _ sending tracks fed
    exact ⟨fun missed => absurd (ok.symm.trans missed) nofun, fun _ => fedTo⟩
  | other _ =>
    cases handled
    exact ⟨nofun, nofun⟩

/-- The events of a pass with the heartbeats running report a missed heartbeat only when one of
their reads failed with that very error, and where they return `Ok` they leave activity recorded
as the feed says. -/
theorem handleEvents_fed (events : List Event) :
    ∀ {loop : EventLoop} {active next : Bool} {result : EventLoop × Outcome}, TimerBooks loop →
      loop.inner.heartbeats.rx.map Heartbeat.active = some active →
      (∀ event ∈ events, event.Obeys) → events.foldlM Event.feed active = some next →
      loop.handleEvents serializer options events = some result →
      (result.2 = .fail .missedServerHeartbeats →
          ∃ event ∈ events, event.ReadFails (.ofKind .missedServerHeartbeats)) ∧
        (result.2 = .ok → result.1.inner.heartbeats.rx.map Heartbeat.active = some next) := by
  induction events with
  | nil =>
    rintro loop active next result - tracks - fed ⟨⟩
    cases fed
    exact ⟨nofun, fun _ => tracks⟩
  | cons event events ih =>
    intro loop active next result books tracks obeys fed handled
    obtain ⟨middle, first, later⟩ := Option.bind_eq_some.mp fed
    simp only [EventLoop.handleEvents] at handled
    obtain ⟨⟨after, outcome⟩, once, rest⟩ := Option.bind_eq_some.mp handled
    have ⟨blamed, tracked⟩ := handleEvent_fed books tracks (obeys event (by simp)) first once
    cases outcome with
    | ok =>
      have kept := (@timers_kept serializer options).handleEvent loop event
        (obeys event (by simp)) books once
      have ⟨blamedLater, trackedLater⟩ := ih kept (tracked rfl)
        (fun e mem => obeys e (by simp [mem])) later rest
      exact ⟨fun missed => (blamedLater missed).imp fun e ⟨mem, fails⟩ =>
        ⟨List.mem_cons_of_mem event mem, fails⟩, trackedLater⟩
    | err _ | panic _ =>
      cases rest
      exact ⟨fun missed => ⟨event, by simp, blamed missed⟩, nofun⟩

/-- A pass with the heartbeats running reports a missed heartbeat only when one of its reads
failed with that very error, and where it returns `Ok` it leaves activity recorded as the feed
says. -/
theorem iterate_fed {loop : EventLoop} {iteration : Iteration} {active next : Bool}
    {result : EventLoop × Outcome} (books : TimerBooks loop)
    (tracks : loop.inner.heartbeats.rx.map Heartbeat.active = some active)
    (obeys : iteration.Obeys) (fed : iteration.events.foldlM Event.feed active = some next)
    (iterated : loop.iterate serializer options iteration = some result) :
    (result.2 = .fail .missedServerHeartbeats →
        ∃ event ∈ iteration.events, event.ReadFails (.ofKind .missedServerHeartbeats)) ∧
      (result.2 = .ok → result.1.inner.heartbeats.rx.map Heartbeat.active = some next) := by
  unfold EventLoop.iterate at iterated
  split at iterated
  · cases iterated
    exact ⟨nofun, nofun⟩
  · cases iterated
    exact ⟨nofun, nofun⟩
  · rename_i events _ polled
    rw [Iteration.events, polled] at fed ⊢
    obtain ⟨⟨middle, outcome⟩, handled, rfl⟩ := Option.map_eq_some'.mp iterated
    have ⟨blamed, tracked⟩ := handleEvents_fed events books tracks (obeys events polled) fed
      handled
    cases outcome with
    | ok =>
      obtain ⟨writable, same⟩ := reregister_fst middle loop.inner.hasDataToWrite
        iteration.reregister
      have quiet : (middle.reregister loop.inner.hasDataToWrite iteration.reregister).2 ≠
          .fail .missedServerHeartbeats := by
        rcases reregister_eq middle loop.inner.hasDataToWrite iteration.reregister with
          ⟨writable, called⟩ | skipped
        · rw [called]
          cases iteration.reregister <;> nofun
        · rw [skipped]
          nofun
      exact ⟨fun missed => absurd missed quiet, fun _ => by rw [same]; exact tracked rfl⟩
    | err _ | panic _ => exact ⟨blamed, tracked⟩

/-- A run with the heartbeats running reports a missed heartbeat only when one of its reads
failed with that very error, and where it goes on it leaves activity recorded as the feed
says. -/
theorem mainLoop_fed (iterations : List Iteration) :
    ∀ {loop : EventLoop} {active next : Bool} {result : EventLoop × Outcome}, TimerBooks loop →
      loop.inner.heartbeats.rx.map Heartbeat.active = some active →
      (∀ iteration ∈ iterations, iteration.Obeys) →
      (iterations.flatMap Iteration.events).foldlM Event.feed active = some next →
      loop.mainLoop serializer options iterations = some result →
      (result.2 = .fail .missedServerHeartbeats →
          ∃ event ∈ iterations.flatMap Iteration.events,
            event.ReadFails (.ofKind .missedServerHeartbeats)) ∧
        (result.2 = .ok → result.1.inner.heartbeats.rx.map Heartbeat.active = some next) := by
  induction iterations with
  | nil =>
    rintro loop active next result - tracks - fed ⟨⟩
    cases fed
    exact ⟨nofun, fun _ => tracks⟩
  | cons iteration iterations ih =>
    intro loop active next result books tracks obeys fed ran
    rw [List.flatMap_cons, List.foldlM_append] at fed
    obtain ⟨middle, first, later⟩ := Option.bind_eq_some.mp fed
    simp only [EventLoop.mainLoop] at ran
    obtain ⟨⟨after, outcome⟩, once, rest⟩ := Option.bind_eq_some.mp ran
    have ⟨blamed, tracked⟩ := iterate_fed books tracks (obeys iteration (by simp)) first once
    cases outcome with
    | ok =>
      have kept := (@timers_kept serializer options).iterate (obeys iteration (by simp)) books once
      have ⟨blamedLater, trackedLater⟩ := ih kept (tracked rfl)
        (fun it mem => obeys it (by simp [mem])) later rest
      exact ⟨fun missed => (blamedLater missed).imp fun e ⟨mem, fails⟩ =>
        ⟨List.mem_append_right _ mem, fails⟩, trackedLater⟩
    | err _ | panic _ =>
      cases rest
      exact ⟨fun missed => (blamed missed).imp fun e ⟨mem, fails⟩ =>
        ⟨List.mem_append_left _ mem, fails⟩, nofun⟩

/-- A server that keeps sending is never declared dead: from any reachable loop with the
receiving heartbeat running, over a run in which every firing of it finds a byte received since
it last fired, the main loop never stops with a missed heartbeat, as long as no read of the frame
buffer fails with that error itself. -/
theorem sending_server_never_missed {loop : EventLoop}
    (reachable : Reachable serializer options loop) {rx : Heartbeat}
    (receiving : loop.inner.heartbeats.rx = some rx) {iterations : List Iteration}
    (obeys : ∀ iteration ∈ iterations, iteration.Obeys)
    (fed : ((iterations.flatMap Iteration.events).foldlM Event.feed rx.active).isSome)
    (honest : ∀ event ∈ iterations.flatMap Iteration.events,
      ¬ event.ReadFails (.ofKind .missedServerHeartbeats))
    (after : EventLoop) :
    loop.mainLoop serializer options iterations ≠ some (after, .fail .missedServerHeartbeats) :=
  fun ran => by
    obtain ⟨next, fedTo⟩ := Option.isSome_iff_exists.mp fed
    obtain ⟨event, member, fails⟩ := (mainLoop_fed iterations
      (Reachable.holds timers_kept timers_new reachable) (by simp [receiving]) obeys fedTo
      ran).1 rfl
    exact honest event member fails

/-- After the handshake of `beating`, two firings of the receiving heartbeat with a server
heartbeat read between them do not end the run with a missed heartbeat. -/
theorem sending_server_never_missed_beating :
    (runFromStart beating).inner.heartbeats.rx = some ⟨.rx, 120, true⟩ ∧
      ∀ after, (runFromStart beating).mainLoop exampleSerializer exampleOptions
        [pass [.heartbeat [.rx]], pass [reads [.heartbeat 0]], pass [.heartbeat [.rx]]] ≠
          some (after, .fail .missedServerHeartbeats) :=
  ⟨rfl, sending_server_never_missed (runFromStart_reachable
    (show ∀ iteration ∈ beating, iteration.Obeys by simp [beating]) rfl) rfl
    (by simp [Event.Obeys, reads]) rfl
    (by simp [Iteration.events, Runs.pass, Event.ReadFails, reads])⟩

end Amiquip.Watchdog
