import Amiquip.Verif.Handshake

/-!
# The heartbeat timers over every run

`HeartbeatTimers::start` asserts that neither heartbeat runs, and `fire_rx` and `fire_tx` expect
the heartbeat they fire to run. Both hold over every run from `EventLoop::new`. The heartbeats
are started only while a channel-0 tune is processed in `Secure` or `Tune`, before which neither
runs, and which the loop leaves for good; they run exactly when the tune-ok queued asks for
heartbeats, and always together. Every timeout on the timer is of a heartbeat that runs and
carries its slot's tag, so a timer that yields only the tags set on it never finds a slot empty.
A timer pass declares the server dead at the first firing of the receiving heartbeat that finds
no activity since the one before it. Until then, the pass queues a heartbeat frame exactly when
it finds the buffer empty and a firing of the sending heartbeat finds no activity.
-/

namespace Amiquip.Timers

open EventLoop Runs Effects WriteLoop Handshake

variable {serializer : Serializer} {options : ConnectionOptions}

/-! ## Consistent timers -/

/-- Timers whose two heartbeats run together, each with its own slot's tag, and whose every
timeout is of a heartbeat that runs. -/
structure Consistent (timers : HeartbeatTimers) : Prop where
  paired : timers.rx.isSome = timers.tx.isSome
  kinds : ∀ kind heartbeat, timers.get kind = some heartbeat → heartbeat.kind = kind
  tagged : ∀ kind ∈ timers.timer.tags, (timers.get kind).isSome

/-- Replacing the timer leaves both heartbeats alone. -/
theorem get_withTimer (timers : HeartbeatTimers) (timer : Timer) (kind : HeartbeatKind) :
    (⟨timer, timers.rx, timers.tx⟩ : HeartbeatTimers).get kind = timers.get kind := by
  cases kind <;> rfl

namespace Consistent

/-- No heartbeat and no timeout is consistent. -/
theorem default : Consistent HeartbeatTimers.default :=
  ⟨rfl, fun kind _ found => (by cases kind <;> cases found), nofun⟩

/-- Timers that run the heartbeats consistent ones run, with their slots' tags, and add
timeouts only of those, are consistent. -/
theorem alike {timers after : HeartbeatTimers} (consistent : Consistent timers)
    (running : ∀ kind, (after.get kind).isSome = (timers.get kind).isSome)
    (kinds : ∀ kind heartbeat, after.get kind = some heartbeat → heartbeat.kind = kind)
    (tags : ∀ kind ∈ after.timer.tags, kind ∈ timers.timer.tags ∨ (timers.get kind).isSome) :
    Consistent after :=
  ⟨(running .rx).trans (consistent.paired.trans (running .tx).symm), kinds,
    fun kind member => (running kind).symm ▸ (tags kind member).elim (consistent.tagged kind) id⟩

/-- Starting both heartbeats leaves consistent timers, whatever was there. -/
theorem start {timers after : HeartbeatTimers} {interval : Nat}
    (started : timers.start interval = .ok after) : Consistent after := by
  simp only [HeartbeatTimers.start, Heartbeat.start] at started
  split at started
  · cases started
    exact ⟨rfl, fun kind _ found => (by cases kind <;> cases found <;> rfl),
      fun kind _ => by cases kind <;> rfl⟩
  · cases started

/-- Recording activity keeps the heartbeats consistent with the timer. -/
theorem recordActivity {timers : HeartbeatTimers} (consistent : Consistent timers)
    (kind : HeartbeatKind) : Consistent (timers.recordActivity kind) := by
  have same := timers.recordActivity_isSome kind
  refine consistent.alike (fun other => (same other).1) (fun other heartbeat found => ?_)
    (fun other member => .inl ((same other).2 ▸ member))
  by_cases slot : kind = other
  · subst slot
    simp only [HeartbeatTimers.recordActivity, HeartbeatTimers.get_set, if_true,
      Option.map_eq_some'] at found
    obtain ⟨old, running, rfl⟩ := found
    exact consistent.kinds kind old running
  · simp only [HeartbeatTimers.recordActivity, HeartbeatTimers.get_set, slot, if_false] at found
    exact consistent.kinds other heartbeat found

/-- Firing a heartbeat that runs keeps the timers consistent: the timeout it sets again is of the
heartbeat it fired. -/
theorem fire {timers after : HeartbeatTimers} {kind : HeartbeatKind} {message : String}
    {state : HeartbeatState} (consistent : Consistent timers)
    (fired : timers.fire kind message = .ok (state, after)) : Consistent after := by
  unfold HeartbeatTimers.fire at fired
  split at fired
  · cases fired
  · rename_i heartbeat running
    have own := consistent.kinds kind heartbeat running
    have slots : ∀ (next : Heartbeat) (timer : Timer) (other : HeartbeatKind), next.kind = kind →
        ((⟨timer, (timers.set (some next) kind).rx, (timers.set (some next) kind).tx⟩ :
          HeartbeatTimers).get other).isSome = (timers.get other).isSome ∧
          ∀ found, (⟨timer, (timers.set (some next) kind).rx, (timers.set (some next) kind).tx⟩ :
            HeartbeatTimers).get other = some found → found.kind = other := by
      intro next timer other kindOf
      rw [get_withTimer]
      by_cases slot : kind = other
      · subst slot
        exact ⟨by simp [running], fun found same => by simp_all⟩
      · exact ⟨by simp [slot],
          fun found same => consistent.kinds other found (by simpa [slot] using same)⟩
    simp only [Heartbeat.fire] at fired
    split at fired <;> cases fired
    · refine consistent.alike (fun other => (slots _ _ other (by exact own)).1)
        (fun other => (slots _ _ other (by exact own)).2) (fun other member => ?_)
      simp only [HeartbeatTimers.timer_set, List.mem_append, List.mem_singleton] at member
      rcases member with old | rfl
      · exact .inl old
      · exact .inr (by simp [own, running])
    · exact consistent.alike (fun other => (slots _ _ other own).1)
        (fun other => (slots _ _ other own).2) (fun other member => .inl member)

/-- Consistent timers with one slot empty have nothing running and nothing set. -/
theorem idle {timers : HeartbeatTimers} (consistent : Consistent timers)
    {kind : HeartbeatKind} (empty : timers.get kind = none) :
    timers.rx = none ∧ timers.tx = none ∧ timers.timer.tags = [] := by
  have paired := consistent.paired
  have both : timers.rx = none ∧ timers.tx = none := by
    cases kind
    · have empty : timers.rx = none := empty
      exact ⟨empty, Option.not_isSome_iff_eq_none.mp (by rw [← paired, empty]; decide)⟩
    · have empty : timers.tx = none := empty
      exact ⟨Option.not_isSome_iff_eq_none.mp (by rw [paired, empty]; decide), empty⟩
  refine ⟨both.1, both.2, List.eq_nil_iff_forall_not_mem.mpr fun other member => ?_⟩
  have := consistent.tagged other member
  cases other <;> simp_all

end Consistent

/-! ## The context's heartbeats -/

/-- Starting the heartbeats where neither runs succeeds, keeps the timers consistent, and starts
them exactly for a positive interval. -/
theorem startHeartbeats_unset {inner : Inner} (consistent : Consistent inner.heartbeats)
    (unset : inner.heartbeats.rx = none ∧ inner.heartbeats.tx = none) (interval : UInt16) :
    ∃ after, inner.startHeartbeats interval = .ok after ∧ Consistent after.heartbeats ∧
      (after.heartbeats.rx.isSome ↔ 0 < interval) := by
  unfold Inner.startHeartbeats
  split
  · rename_i positive
    cases begun : inner.heartbeats.start interval.toNat with
    | error message => simp [HeartbeatTimers.start, unset] at begun
    | ok heartbeats =>
      refine ⟨{ inner with heartbeats }, by simp [begun, Except.map], Consistent.start begun, ?_⟩
      simp only [HeartbeatTimers.start, unset, Option.isNone_none, Bool.and_self, if_true,
        Except.ok.injEq] at begun
      simp [← begun, positive]
  · rename_i zero
    exact ⟨inner, rfl, consistent, by simp [unset.1, zero]⟩

/-- Recording write activity keeps the timers consistent and which heartbeats run. -/
theorem txRecorded_consistent {inner : Inner} (consistent : Consistent inner.heartbeats)
    (wrote : Bool) : Consistent (txRecorded inner wrote).heartbeats ∧
      (txRecorded inner wrote).heartbeats.rx.isSome = inner.heartbeats.rx.isSome := by
  cases wrote
  · exact ⟨consistent, rfl⟩
  · exact ⟨consistent.recordActivity .tx, (inner.heartbeats.recordActivity_isSome .tx .rx).1⟩

/-- The timer path keeps the timers consistent, and never finds a slot empty when every tag
due was set on the timer. -/
theorem processHeartbeatTimers_consistent (inner : Inner) (due : List HeartbeatKind)
    (consistent : Consistent inner.heartbeats) :
    Consistent (inner.processHeartbeatTimers serializer due).1.heartbeats ∧
      ((∀ kind ∈ due, kind ∈ inner.heartbeats.timer.tags) →
        ∀ message, (inner.processHeartbeatTimers serializer due).2 ≠ .panic message) := by
  induction due generalizing inner with
  | nil => exact ⟨consistent, fun _ _ => nofun⟩
  | cons kind due ih =>
    have continues : ∀ {message : String} {state : HeartbeatState} {heartbeats : HeartbeatTimers}
        (next : Inner), inner.heartbeats.fire kind message = .ok (state, heartbeats) →
        next.heartbeats = heartbeats →
        Consistent (next.processHeartbeatTimers serializer due).1.heartbeats ∧
          ((∀ other ∈ kind :: due, other ∈ inner.heartbeats.timer.tags) →
            ∀ message, (next.processHeartbeatTimers serializer due).2 ≠ .panic message) := by
      rintro message state heartbeats next fired rfl
      obtain ⟨added, grown⟩ := (HeartbeatTimers.fire_spec _ fired).2
      have kept := consistent.fire fired
      exact ⟨(ih next kept).1, fun set => (ih next kept).2 fun other member => by
        simp [grown, set other (by simp [member])]⟩
    have empty : ∀ {message panic : String},
        (∀ other ∈ kind :: due, other ∈ inner.heartbeats.timer.tags) →
        inner.heartbeats.fire kind message ≠ .error panic := fun set failed => by
      have := consistent.tagged kind (set kind (by simp))
      simp_all [HeartbeatTimers.fire_eq_error]
    cases kind with
    | rx =>
      simp only [Inner.processHeartbeatTimers]
      split
      · exact ⟨consistent, fun set => absurd ‹_› (empty set)⟩
      · exact continues _ ‹_› rfl
      · exact ⟨consistent.fire ‹_›, fun _ _ => nofun⟩
    | tx =>
      simp only [Inner.processHeartbeatTimers]
      split
      · exact ⟨consistent, fun set => absurd ‹_› (empty set)⟩
      · exact continues _ ‹_› rfl
      · exact continues _ ‹_› (by split <;> rfl)

/-- What `process` does to the heartbeats: nothing, unless it handles a channel-0 tune in
`Secure` or `Tune`. -/
theorem process_heartbeats (state : ConnectionState) (inner : Inner) (frame : AMQPFrame) :
    (state.process serializer options inner frame).2.1.heartbeats = inner.heartbeats ∨
      ((state = .secure ∨ state = .tune) ∧
        ∃ proposal, frame = connectionFrame (.tune proposal)) := by
  have step := process_step serializer options state inner frame
  generalize state.process serializer options inner frame = result at step ⊢
  cases step with
  | rejected | discarded | started | tuneRefused | startFailed | opened => exact .inl rfl
  | tuneBegun proposal _ _ _ from' isFrame | tuneHalf proposal _ _ _ _ from' isFrame
  | tuned proposal _ _ _ _ from' isFrame => exact .inr ⟨from', proposal, isFrame⟩
  | serverClose _ _ _ _ recorded | clientClose _ _ _ recorded =>
    rcases (Inner.setCloseReq_eq_ok _ _ _).mp recorded with ⟨-, rfl⟩ | ⟨-, bytes, -, rfl⟩ <;>
      exact .inl (by simp)

/-! ## The books of the timers -/

/-- `Secure` and `Tune` come before `Open`. -/
theorem rank_le_of_handshaking {state : ConnectionState}
    (handshaking : state = .secure ∨ state = .tune) : state.rank ≤ 2 := by
  rcases handshaking with rfl | rfl <;> decide

/-- Where the loop runs on: consistent timers, no heartbeat and no tune-ok before the server's
tune is handled, and heartbeats running exactly when the tune-ok queued asks for them. -/
structure TimerBooks (loop : EventLoop) : Prop where
  consistent : Consistent loop.inner.heartbeats
  unstarted : loop.state.rank ≤ 2 →
    loop.inner.heartbeats.rx = none ∧ loop.inner.heartbeats.tx = none
  untuned : loop.state.rank ≤ 2 →
    ∀ tuneOk, .tuneOk tuneOk ∉ methodsQueued loop.inner.outbuf.frames
  negotiated : ∀ tuneOk, .tuneOk tuneOk ∈ methodsQueued loop.inner.outbuf.frames →
    (loop.inner.heartbeats.rx.isSome ↔ 0 < tuneOk.heartbeat)

/-- An operation that keeps the timers consistent and which heartbeats run, queues no tune-ok
and moves back to no handshake state keeps the books. -/
theorem TimerBooks.step {loop after : EventLoop} (books : TimerBooks loop)
    (consistent : Consistent after.inner.heartbeats)
    (running : after.inner.heartbeats.rx.isSome = loop.inner.heartbeats.rx.isSome)
    (new : List AMQPMethod)
    (methods :
      methodsQueued after.inner.outbuf.frames = methodsQueued loop.inner.outbuf.frames ++ new)
    (fresh : ∀ tuneOk, .tuneOk tuneOk ∉ new)
    (early : after.state.rank ≤ 2 → loop.state.rank ≤ 2) : TimerBooks after := by
  refine ⟨consistent, fun isEarly => ?_, fun isEarly tuneOk member => ?_, fun tuneOk member => ?_⟩
  · have rx : after.inner.heartbeats.rx.isSome = false := by
      rw [running, (books.unstarted (early isEarly)).1]; rfl
    have tx : after.inner.heartbeats.tx.isSome = false := consistent.paired ▸ rx
    exact ⟨by simpa using rx, by simpa using tx⟩
  · rw [methods] at member
    exact (List.mem_append.mp member).elim (books.untuned (early isEarly) tuneOk) (fresh tuneOk)
  · rw [methods] at member
    rcases List.mem_append.mp member with old | added
    · rw [running]; exact books.negotiated tuneOk old
    · exact absurd added (fresh tuneOk)

/-- An operation that touches neither the heartbeats, the queue's methods nor the state keeps
the books. -/
theorem TimerBooks.same {loop after : EventLoop} (books : TimerBooks loop)
    (heartbeats : after.inner.heartbeats = loop.inner.heartbeats)
    (methods : methodsQueued after.inner.outbuf.frames = methodsQueued loop.inner.outbuf.frames)
    (state : after.state = loop.state) : TimerBooks after :=
  books.step (heartbeats ▸ books.consistent) (by rw [heartbeats]) [] (by simp [methods]) nofun
    (fun early => state ▸ early)

/-- A new loop keeps the timer books. -/
theorem timers_new (registration : Except IoError Unit) (loop : EventLoop)
    (created : EventLoop.new registration = .ok loop) : TimerBooks loop := by
  cases registration with
  | error error => cases created
  | ok =>
    cases created
    exact ⟨Consistent.default, fun _ => ⟨rfl, rfl⟩, fun _ _ => List.not_mem_nil _, nofun⟩

/-- Every branch of `process` keeps the books where the loop runs on, and the timers consistent
where it stops. -/
theorem timers_dispatch {loop : EventLoop} (books : TimerBooks loop) (frame : AMQPFrame) :
    Lands TimerBooks (fun _ loop => Consistent loop.inner.heartbeats)
      (loop.dispatch serializer options frame) := by
  by_cases heartbeat : frame = .heartbeat 0
  · subst heartbeat
    exact books
  rw [dispatch_eq heartbeat]
  have step := process_step serializer options loop.state loop.inner frame
  generalize loop.state.process serializer options loop.inner frame = result at step ⊢
  have handshaking := @rank_le_of_handshaking loop.state
  have begins : ∀ {interval : UInt16} {started : Inner},
      (loop.state = .secure ∨ loop.state = .tune) →
      loop.inner.startHeartbeats interval = .ok started →
        Consistent started.heartbeats ∧ (started.heartbeats.rx.isSome ↔ 0 < interval) :=
    fun from' begun => by
      obtain ⟨after, ok, consistent, iff⟩ :=
        startHeartbeats_unset books.consistent (books.unstarted (handshaking from')) _
      cases begun.symm.trans ok
      exact ⟨consistent, iff⟩
  cases step with
  | rejected | tuneRefused | startFailed => exact lands_stopped nofun books.consistent
  | tuneBegun _ _ _ _ from' _ _ begun | tuneHalf _ _ _ _ _ from' _ _ begun =>
    exact lands_stopped nofun (begins from' begun).1
  | discarded => exact books.same rfl rfl rfl
  | started offer startOk bytes isStart =>
    exact books.step books.consistent rfl [.startOk startOk] (by simp) (by simp)
      (fun _ => by simp [isStart, ConnectionState.rank])
  | tuned proposal tuneOk started bytes more from' _ _ begun =>
    obtain ⟨consistent, iff⟩ := begins from' begun
    obtain ⟨outbuf, -, -⟩ := startHeartbeats_frame begun
    refine ⟨consistent, fun isEarly => absurd isEarly (by simp [ConnectionState.rank]),
      fun isEarly => absurd isEarly (by simp [ConnectionState.rank]), fun answered member => ?_⟩
    simp only [withFrame_outbuf, OutputBuffer.frames_push, outbuf, methodsQueued_append,
      methodsQueued_method, methodsQueued_nil, List.mem_append, List.mem_cons,
      AMQPMethod.tuneOk.injEq, List.mem_singleton, List.not_mem_nil, or_false,
      reduceCtorEq] at member
    rcases member with old | rfl
    · exact absurd old (books.untuned (handshaking from') answered)
    · simpa using iff
  | opened isOpen =>
    exact books.same rfl rfl (by simp [isOpen]) |>.step books.consistent rfl [] (by simp) nofun
      (fun isEarly => absurd isEarly (by simp [ConnectionState.rank]))
  | serverClose close after _ _ recorded =>
    rcases (Inner.setCloseReq_eq_ok _ _ _).mp recorded with ⟨-, rfl⟩ | ⟨-, bytes, -, rfl⟩
    · exact books.same rfl rfl rfl
    · exact books.step (by simpa using books.consistent) (by simp) [.closeOk] (by simp) (by simp) id
  | clientClose after _ _ recorded =>
    rcases (Inner.setCloseReq_eq_ok _ _ _).mp recorded with ⟨-, rfl⟩ | ⟨-, bytes, -, rfl⟩
    · exact books.same rfl rfl rfl
    · exact books.step (by simpa using books.consistent) (by simp)
        [.close (unknownFrameClose frame)] (by simp) (by simp) id

/-- Every call of `write_to_stream` keeps the books where the loop runs on, and the timers
consistent where it stops. -/
theorem timers_write {loop : EventLoop} {responses : List Response}
    {result : EventLoop × Outcome} (obeys : ∀ response ∈ responses, response.Obeys)
    (books : TimerBooks loop) (written : loop.writeToStream responses = some result) :
    Lands TimerBooks (fun _ loop => Consistent loop.inner.heartbeats) result := by
  obtain ⟨⟨inner, state, stream, outcome⟩, call, rfl⟩ := Option.map_eq_some'.mp written
  cases writeToStream_step obeys call with
  | closing _ => exact books.same rfl (by simp) rfl
  | failed _ wrote | serverClosed _ wrote =>
    exact lands_stopped nofun (txRecorded_consistent books.consistent wrote).1
  | blocked _ wrote _ _ _ frames _ _ _ beats =>
    obtain ⟨consistent, running⟩ := txRecorded_consistent books.consistent wrote
    exact books.step (beats ▸ consistent) (by rw [beats]; exact running) [] (by simp [frames])
      nofun id
  | completed _ wrote =>
    obtain ⟨consistent, running⟩ := txRecorded_consistent books.consistent wrote
    refine books.step consistent running [] (by simp) nofun fun isEarly => ?_
    split at isEarly
    · exact absurd isEarly (by simp [ConnectionState.rank])
    · exact isEarly

/-- Every operation of every run keeps the books of the timers, and every stop leaves them
consistent. -/
theorem timers_kept :
    Kept serializer options TimerBooks (fun _ loop => Consistent loop.inner.heartbeats) where
  stay _ _ books := books.consistent
  foreign _ books := books.consistent
  dispatch _ frame books := timers_dispatch books frame
  recordRx loop books := books.step (books.consistent.recordActivity .rx)
    (loop.inner.heartbeats.recordActivity_isSome .rx .rx).1 [] (List.append_nil _).symm nofun id
  write _ _ _ obeys books written := timers_write obeys books written
  consume _ books := books.same rfl rfl rfl
  timers loop due books := by
    have effect := processHeartbeatTimers_effect serializer loop.inner due
    have consistent :=
      (@processHeartbeatTimers_consistent serializer loop.inner due books.consistent).1
    obtain ⟨count, frames⟩ := effect.frames
    rw [processHeartbeatTimers_eq]
    generalize (loop.inner.processHeartbeatTimers serializer due).2 = outcome
    cases outcome with
    | ok => exact books.step consistent effect.rx [] (by simp [frames]) nofun id
    | err _ | panic _ => exact consistent
  reregister _ _ books := books.same rfl rfl rfl

/-! ## The heartbeat timers over every run -/

/-- A frame changes the heartbeats only when it is a channel-0 tune handled in `Secure` or `Tune`,
where neither runs yet. -/
theorem dispatch_heartbeats {loop : EventLoop} (books : TimerBooks loop) {frame : AMQPFrame}
    (changed :
      (loop.dispatch serializer options frame).1.inner.heartbeats ≠ loop.inner.heartbeats) :
    (loop.state = .secure ∨ loop.state = .tune) ∧
      (∃ proposal, frame = connectionFrame (.tune proposal)) ∧
      loop.inner.heartbeats.rx = none ∧ loop.inner.heartbeats.tx = none := by
  by_cases heartbeat : frame = .heartbeat 0
  · subst heartbeat
    exact absurd rfl changed
  rw [dispatch_eq heartbeat] at changed
  rcases @process_heartbeats serializer options loop.state loop.inner frame with
    same | ⟨from', tune⟩
  · exact absurd same changed
  · exact ⟨from', tune, books.unstarted (rank_le_of_handshaking from')⟩

/-- No frame makes `process` panic: the one branch that could, starting the heartbeats, finds
neither running. -/
theorem dispatch_no_panic {loop : EventLoop} (books : TimerBooks loop) (frame : AMQPFrame)
    (message : String) : (loop.dispatch serializer options frame).2 ≠ .panic message := by
  by_cases heartbeat : frame = .heartbeat 0
  · subst heartbeat
    nofun
  rw [dispatch_eq heartbeat]
  have step := process_step serializer options loop.state loop.inner frame
  generalize loop.state.process serializer options loop.inner frame = result at step ⊢
  cases step with
  | startFailed _ tuneOk _ from' _ _ failed =>
    obtain ⟨_, begun, -⟩ := startHeartbeats_unset books.consistent
      (books.unstarted (rank_le_of_handshaking from')) tuneOk.heartbeat
    exact absurd (failed.symm.trans begun) nofun
  | _ => nofun

/-- At every point of every run from `EventLoop::new`: both heartbeats run or neither does;
neither runs before the server's tune is handled; they run exactly when the tune-ok queued asks
for heartbeats; a frame changes them only when it is a channel-0 tune handled in `Secure` or
`Tune` while neither runs, which is where `HeartbeatTimers::start` is called, so it is called at
most once and its assertion holds; no frame makes `process` panic; and a timer that yields only
the tags set on it never leaves `fire_rx` or `fire_tx` without their heartbeat. -/
theorem heartbeats_start_once {loop : EventLoop} (visited : Visited serializer options loop) :
    loop.inner.heartbeats.rx.isSome = loop.inner.heartbeats.tx.isSome ∧
    (loop.state.rank ≤ 2 → loop.inner.heartbeats.rx = none ∧ loop.inner.heartbeats.tx = none) ∧
    (∀ tuneOk, .tuneOk tuneOk ∈ methodsQueued loop.inner.outbuf.frames →
      (loop.inner.heartbeats.rx.isSome ↔ 0 < tuneOk.heartbeat)) ∧
    (∀ frame, (loop.dispatch serializer options frame).1.inner.heartbeats ≠ loop.inner.heartbeats →
      (loop.state = .secure ∨ loop.state = .tune) ∧
        (∃ proposal, frame = connectionFrame (.tune proposal)) ∧
        loop.inner.heartbeats.rx = none ∧ loop.inner.heartbeats.tx = none) ∧
    (∀ frame message, (loop.dispatch serializer options frame).2 ≠ .panic message) ∧
    (∀ due, (∀ kind ∈ due, kind ∈ loop.inner.heartbeats.timer.tags) →
      ∀ message, (loop.processHeartbeatTimers serializer due).2 ≠ .panic message) := by
  have books := visited.holds timers_kept timers_new
  exact ⟨books.consistent.paired, books.unstarted, books.negotiated,
    fun _ changed => dispatch_heartbeats books changed, dispatch_no_panic books,
    fun due set => (processHeartbeatTimers_consistent loop.inner due books.consistent).2 set⟩

/-- The happy handshake with a tune asking for a heartbeat every 60 seconds. -/
def beating : List Iteration :=
  [pass [exchange [connectionFrame (.start ⟨"PLAIN", "en_US"⟩)]],
    pass [exchange [connectionFrame (.tune ⟨0, 131072, 60⟩)]],
    pass [exchange [connectionFrame .openOk]]]

/-- After the handshake of `beating` both heartbeats run, and a timer pass does not panic. -/
theorem heartbeats_start_once_beating :
    (runFromStart beating).inner.heartbeats.rx.isSome ∧
      ∀ message, ((runFromStart beating).processHeartbeatTimers exampleSerializer [.rx, .tx]).2 ≠
        .panic message :=
  ⟨rfl, (heartbeats_start_once (.reachable (runFromStart_reachable
    (show ∀ iteration ∈ beating, iteration.Obeys by simp [beating]) rfl))).2.2.2.2.2 [.rx, .tx]
      (by decide)⟩

/-! ## Heartbeat frames -/

/-- The timer path leaves a buffer it finds non-empty as it was. -/
theorem processHeartbeatTimers_full (inner : Inner) (due : List HeartbeatKind)
    (full : inner.outbuf.isEmpty = false) :
    (inner.processHeartbeatTimers serializer due).1.outbuf = inner.outbuf := by
  induction due generalizing inner with
  | nil => rfl
  | cons kind due ih =>
    -- the arms of each firing: the `expect` fails, `StillRunning`, `Expired`
    cases kind <;> simp only [Inner.processHeartbeatTimers] <;> split
    case rx.h_1 | rx.h_3 | tx.h_1 => rfl
    case rx.h_2 | tx.h_2 => exact ih _ full
    case tx.h_3 =>
      rw [if_neg (by simp [full])]
      exact ih _ full

/-- One call of `process_heartbeat_timers` leaves the output buffer as it was, or finds it empty
and leaves it with one heartbeat frame pushed: the first expired transmit timer fills the buffer,
and later ones find it full. -/
theorem heartbeat_frames_at_most_one (inner : Inner) (due : List HeartbeatKind) :
    (inner.processHeartbeatTimers serializer due).1.outbuf = inner.outbuf ∨
      inner.outbuf.isEmpty ∧
        (inner.processHeartbeatTimers serializer due).1.outbuf =
          inner.outbuf.pushHeartbeat serializer := by
  induction due generalizing inner with
  | nil => exact .inl rfl
  | cons kind due ih =>
    -- the arms of each firing: the `expect` fails, `StillRunning`, `Expired`
    cases kind <;> simp only [Inner.processHeartbeatTimers] <;> split
    case rx.h_1 | rx.h_3 | tx.h_1 => exact .inl rfl
    case rx.h_2 | tx.h_2 => exact ih _
    case tx.h_3 =>
      split
      · rename_i empty
        exact .inr ⟨empty,
          processHeartbeatTimers_full _ _ (inner.outbuf.isEmpty_pushHeartbeat serializer)⟩
      · exact ih _

/-! ## The receiving watchdog -/

/-- The receiving watchdog: with both heartbeats running, a timer pass declares the server dead
at the first firing of the receiving heartbeat that finds no activity since the one before it,
which is the first firing of the pass when none was recorded and the second otherwise, and ends
`Ok` when no such firing comes. Firings of the sending heartbeat leave the watchdog alone. -/
theorem watchdog_expires (inner : Inner) {rx : Heartbeat}
    (receiving : inner.heartbeats.rx = some rx)
    (sending : inner.heartbeats.tx.isSome) (due : List HeartbeatKind) :
    (inner.processHeartbeatTimers serializer due).2 =
      if (if rx.active then 2 else 1) ≤ due.count .rx then .fail .missedServerHeartbeats
        else .ok := by
  induction due generalizing inner rx with
  | nil => cases rx.active <;> rfl
  | cons kind due ih =>
    cases kind with
    | rx =>
      obtain ⟨after, fired, cleared, other⟩ :=
        @HeartbeatTimers.fire_running inner.heartbeats .rx _ receiving
          "fire_rx called on empty rx heartbeat"
      have next := ih { inner with heartbeats := after } cleared
        (by rw [show after.tx = inner.heartbeats.tx from other .tx nofun]; exact sending)
      cases active : rx.active
      · simp [Inner.processHeartbeatTimers, HeartbeatTimers.fireRx, fired, active]
      · simp only [Inner.processHeartbeatTimers, HeartbeatTimers.fireRx, fired, active, if_true]
        rw [next]
        simp [List.count_cons_self]
    | tx =>
      obtain ⟨beat, running⟩ := Option.isSome_iff_exists.mp sending
      obtain ⟨after, fired, rearmed, other⟩ :=
        @HeartbeatTimers.fire_running inner.heartbeats .tx _ running
          "fire_tx called on empty tx heartbeat"
      have continues : ∀ next : Inner, next.heartbeats = after →
          (next.processHeartbeatTimers serializer due).2 =
            if (if rx.active then 2 else 1) ≤ due.count .rx then .fail .missedServerHeartbeats
              else .ok := fun next beats =>
        ih next (by rw [beats]; exact (other .rx nofun).trans receiving)
          (by rw [beats, show after.tx = _ from rearmed]; rfl)
      cases active : beat.active <;>
        simp only [Inner.processHeartbeatTimers, HeartbeatTimers.fireTx, fired, active,
          List.count_cons, if_false, Nat.add_zero]
      · exact continues _ (by split <;> rfl)
      · exact continues _ rfl

/-- After the handshake of `beating` the reads have recorded activity, so the pass that fires
the receiving heartbeat a second time declares the server dead. -/
theorem watchdog_expires_beating :
    (runFromStart beating).inner.heartbeats.rx = some ⟨.rx, 120, true⟩ ∧
      (runFromStart beating).inner.heartbeats.tx.isSome ∧
      ((runFromStart beating).inner.processHeartbeatTimers exampleSerializer [.rx, .tx, .rx]).2 =
        .fail .missedServerHeartbeats :=
  ⟨rfl, rfl, (@watchdog_expires exampleSerializer (runFromStart beating).inner ⟨.rx, 120, true⟩
    rfl rfl _).trans rfl⟩

/-- The sending prompt: with both heartbeats running and a pass in which the watchdog does not
expire, the pass pushes one heartbeat frame onto the output buffer exactly when it finds the
buffer empty and the sending heartbeat fires once more than the activity recorded since it last
fired allows, and otherwise leaves the buffer as it was. -/
theorem tx_prompt (inner : Inner) {rx tx : Heartbeat} (receiving : inner.heartbeats.rx = some rx)
    (sending : inner.heartbeats.tx = some tx) (due : List HeartbeatKind)
    (alive : due.count .rx < if rx.active then 2 else 1) :
    (inner.processHeartbeatTimers serializer due).1.outbuf =
      if inner.outbuf.isEmpty ∧ (if tx.active then 2 else 1) ≤ due.count .tx then
        inner.outbuf.pushHeartbeat serializer
      else inner.outbuf := by
  induction due generalizing inner rx tx with
  | nil => cases tx.active <;> simp [Inner.processHeartbeatTimers]
  | cons kind due ih =>
    cases kind with
    | rx =>
      obtain ⟨after, fired, cleared, other⟩ :=
        @HeartbeatTimers.fire_running inner.heartbeats .rx _ receiving
          "fire_rx called on empty rx heartbeat"
      cases active : rx.active
      · simp [active] at alive
      · have next := ih { inner with heartbeats := after } cleared
          (by rw [show after.tx = inner.heartbeats.tx from other .tx nofun]; exact sending)
          (by simp only [active, if_true, List.count_cons_self] at alive
              simp only [Bool.false_eq_true, if_false]
              omega)
        simp only [Inner.processHeartbeatTimers, HeartbeatTimers.fireRx, fired, active, if_true]
        rw [next]
        simp [List.count_cons]
    | tx =>
      obtain ⟨after, fired, rearmed, other⟩ :=
        @HeartbeatTimers.fire_running inner.heartbeats .tx _ sending
          "fire_tx called on empty tx heartbeat"
      have continues : ∀ next : Inner, next.heartbeats = after →
          (next.processHeartbeatTimers serializer due).1.outbuf =
            if next.outbuf.isEmpty ∧ 1 ≤ due.count .tx then next.outbuf.pushHeartbeat serializer
            else next.outbuf := fun next beats => by
        simpa only [Bool.false_eq_true, if_false] using
          ih next (by rw [beats]; exact (other .rx nofun).trans receiving)
            (by rw [beats]; exact rearmed) (by simpa [List.count_cons] using alive)
      cases active : tx.active <;>
        simp only [Inner.processHeartbeatTimers, HeartbeatTimers.fireTx, fired, active,
          Bool.false_eq_true, if_true, if_false]
      · rw [continues _ (by split <;> rfl)]
        split
        · rename_i empty
          simp [empty]
        · rename_i full
          simp [full]
      · rw [continues _ rfl]
        simp [List.count_cons]

/-- After the handshake of `beating` the buffer is empty and the writes have recorded activity,
so the second firing of the sending heartbeat pushes the heartbeat frame. -/
theorem tx_prompt_beating :
    (runFromStart beating).inner.heartbeats.rx = some ⟨.rx, 120, true⟩ ∧
      (runFromStart beating).inner.heartbeats.tx = some ⟨.tx, 60, true⟩ ∧
      [HeartbeatKind.tx, .tx].count .rx < 2 ∧
      ((runFromStart beating).inner.processHeartbeatTimers exampleSerializer [.tx, .tx]).1.outbuf =
        (runFromStart beating).inner.outbuf.pushHeartbeat exampleSerializer :=
  ⟨rfl, rfl, by decide, (@tx_prompt exampleSerializer (runFromStart beating).inner ⟨.rx, 120, true⟩
    ⟨.tx, 60, true⟩ rfl rfl _ (by decide)).trans rfl⟩

end Amiquip.Timers
