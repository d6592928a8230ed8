import Amiquip.Verif.Timers

/-!
# What can panic

The loop's code panics in four places: the assertion of `HeartbeatTimers::start`, the slicing
and draining of the write path, the `expect`s of `fire_rx` and `fire_tx`, and the
`unreachable!()` of a token the loop never registered. Over every run on a stream that keeps the
`io::Write` contract the first two never fire. The `expect`s fire only when the timer yields a
tag while no heartbeat runs and nothing is set on it, and the last only on a token the poller was
never given: every panic a run can end in is the environment's.
-/

namespace Amiquip.Panics

open EventLoop Runs Effects WriteLoop Timers

variable {serializer : Serializer} {options : ConnectionOptions}

/-- How a stopped loop may have panicked: on a foreign token, or in an `expect` of the timer path
where no heartbeat runs and nothing is set on the timer. -/
def EnvironmentPanic (outcome : Outcome) (loop : EventLoop) : Prop :=
  ∀ message, outcome = .panic message →
    message = "internal error: entered unreachable code" ∨
      ((message = "fire_rx called on empty rx heartbeat" ∨
          message = "fire_tx called on empty tx heartbeat") ∧
        loop.inner.heartbeats.rx = none ∧ loop.inner.heartbeats.tx = none ∧
        loop.inner.heartbeats.timer.tags = [])

/-- A timer pass over consistent timers panics only in an `expect` of a firing that finds its
heartbeat not running, where nothing runs and nothing is set. -/
theorem processHeartbeatTimers_panic (inner : Inner) (due : List HeartbeatKind)
    (consistent : Consistent inner.heartbeats) {message : String}
    (panicked : (inner.processHeartbeatTimers serializer due).2 = .panic message) :
    (message = "fire_rx called on empty rx heartbeat" ∨
        message = "fire_tx called on empty tx heartbeat") ∧
      (inner.processHeartbeatTimers serializer due).1.heartbeats.rx = none ∧
      (inner.processHeartbeatTimers serializer due).1.heartbeats.tx = none ∧
      (inner.processHeartbeatTimers serializer due).1.heartbeats.timer.tags = [] := by
  induction due generalizing inner with
  | nil => cases panicked
  | cons kind due ih =>
    have idle : ∀ {expected failure : String},
        inner.heartbeats.fire kind expected = .error failure →
        failure = expected ∧ inner.heartbeats.rx = none ∧ inner.heartbeats.tx = none ∧
          inner.heartbeats.timer.tags = [] := fun failed => by
      obtain ⟨empty, rfl⟩ := (HeartbeatTimers.fire_eq_error _).mp failed
      exact ⟨rfl, consistent.idle empty⟩
    cases kind <;> simp only [Inner.processHeartbeatTimers] at panicked ⊢ <;> split at panicked
    -- the arms of each firing: the `expect` fails, `StillRunning`, `Expired`
    case rx.h_1 failed | tx.h_1 failed =>
      cases panicked
      obtain ⟨rfl, quiet⟩ := idle failed
      first | exact ⟨.inl rfl, quiet⟩ | exact ⟨.inr rfl, quiet⟩
    case rx.h_2 fired | tx.h_2 fired => exact ih _ (consistent.fire fired) panicked
    case rx.h_3 => cases panicked
    case tx.h_3 fired =>
      exact ih _ (by split <;> exact consistent.fire fired) panicked

/-- An operation that keeps `holds` and cannot panic lands where every panic is the
environment's. -/
theorem lands_calm {holds : EventLoop → Prop} {stops : Outcome → EventLoop → Prop}
    {result : EventLoop × Outcome} (lands : Lands holds stops result)
    (calm : ∀ message, result.2 ≠ .panic message) : Lands holds EnvironmentPanic result := by
  obtain ⟨loop, outcome⟩ := result
  cases outcome with
  | ok => exact lands
  | err _ => exact fun _ => nofun
  | panic message => exact absurd rfl (calm message)

/-- Under the contract, no call of `write_to_stream` panics. -/
theorem writeToStream_calm {loop : EventLoop} {responses : List Response}
    {result : EventLoop × Outcome} (obeys : ∀ response ∈ responses, response.Obeys)
    (written : loop.writeToStream responses = some result) (message : String) :
    result.2 ≠ .panic message := by
  obtain ⟨⟨inner, state, stream, outcome⟩, call, rfl⟩ := Option.map_eq_some'.mp written
  cases writeToStream_step obeys call <;> simp [Outcome.fail]

/-- Every operation keeps the timer books, and every panic it stops with is the environment's. -/
theorem panics_kept : Kept serializer options TimerBooks EnvironmentPanic where
  stay _ _ _ _ := nofun
  foreign _ _ _ same := .inl (Outcome.panic.inj same).symm
  dispatch loop frame books :=
    lands_calm (timers_dispatch books frame) (dispatch_no_panic books frame)
  recordRx := (@timers_kept serializer options).recordRx
  write loop responses result obeys books written :=
    lands_calm ((@timers_kept serializer options).write loop responses result obeys books written)
      (writeToStream_calm obeys written)
  consume := (@timers_kept serializer options).consume
  timers loop due books := by
    have lands := (@timers_kept serializer options).timers loop due books
    have panics := fun message =>
      @processHeartbeatTimers_panic serializer loop.inner due books.consistent message
    rw [processHeartbeatTimers_eq] at lands ⊢
    revert lands panics
    generalize loop.inner.processHeartbeatTimers serializer due = pass
    obtain ⟨inner, outcome⟩ := pass
    intro lands panics
    cases outcome with
    | ok => exact lands
    | err _ => exact fun _ => nofun
    | panic message => exact fun _ same => .inr (Outcome.panic.inj same ▸ panics message rfl)
  reregister := (@timers_kept serializer options).reregister

/-- Over every run from `EventLoop::new` on a stream that keeps the `io::Write` contract, the main
loop panics only on a token it never registered, or in an `expect` of the timer path when the
timer yields a tag while no heartbeat runs and nothing is set on it. The assertion of
`HeartbeatTimers::start` and the slicing and draining of the write path never fire. -/
theorem panics_only_from_environment {loop : EventLoop}
    (reachable : Reachable serializer options loop) {iterations : List Iteration}
    (obeys : ∀ iteration ∈ iterations, iteration.Obeys) {after : EventLoop} {message : String}
    (ran : loop.mainLoop serializer options iterations = some (after, .panic message)) :
    message = "internal error: entered unreachable code" ∨
      ((message = "fire_rx called on empty rx heartbeat" ∨
          message = "fire_tx called on empty tx heartbeat") ∧
        after.inner.heartbeats.rx = none ∧ after.inner.heartbeats.tx = none ∧
        after.inner.heartbeats.timer.tags = []) :=
  panics_kept.mainLoop iterations obeys loop (Reachable.holds timers_kept timers_new reachable) ran
    message rfl

/-- A timer event before the handshake, when nothing is set on the timer, fails the `expect` of
`fire_rx`. -/
theorem panics_only_from_environment_early :
    started.mainLoop exampleSerializer exampleOptions [pass [.heartbeat [.rx]]] =
        some (started, .panic "fire_rx called on empty rx heartbeat") ∧
      ("fire_rx called on empty rx heartbeat" = "internal error: entered unreachable code" ∨
        (("fire_rx called on empty rx heartbeat" = "fire_rx called on empty rx heartbeat" ∨
            "fire_rx called on empty rx heartbeat" = "fire_tx called on empty tx heartbeat") ∧
          started.inner.heartbeats.rx = none ∧ started.inner.heartbeats.tx = none ∧
          started.inner.heartbeats.timer.tags = [])) :=
  ⟨rfl, panics_only_from_environment started_reachable
    (show ∀ iteration ∈ [pass [.heartbeat [.rx]]], iteration.Obeys by simp [Event.Obeys]) rfl⟩

end Amiquip.Panics
