import Amiquip.Verif.Timers

/-!
# Heartbeat frames only after a negotiated tune-ok

A heartbeat of zero in the tune-ok disables heartbeats, and before the tune there is nothing to
negotiate, so the client must queue no heartbeat frame in either case. The timer path queues
one only when a firing of the sending heartbeat finds no activity, and a firing needs the
heartbeat to run. The heartbeats start only while the tune is processed, in the same step that
queues the tune-ok, and only when that tune-ok asks for them. `process` queues method frames
only. So over every run, every heartbeat frame in the push log comes after the tune-ok queued
for a tune the server sent, and that tune-ok has a positive heartbeat.

The same step fixes the intervals: `HeartbeatTimers::start` gives the sending heartbeat the
tune-ok's heartbeat and the receiving one `MAX_MISSED_SERVER_HEARTBEATS` times it, and neither
recording activity nor a firing changes an interval. So wherever the heartbeats run, they run at
the intervals of that tune-ok.
-/

namespace Amiquip.Keepalive

open EventLoop Runs Effects WriteLoop Handshake Timers

variable {serializer : Serializer} {options : ConnectionOptions}

/-! ## The order of the push log -/

/-- Every heartbeat frame of a push log comes after a tune-ok that asked for heartbeats. -/
def HeartbeatsNegotiated (frames : List (OutFrame × List UInt8)) : Prop :=
  ∀ before entry after, frames = before ++ entry :: after → entry.1 = .heartbeat →
    ∃ tuneOk, .tuneOk tuneOk ∈ methodsQueued before ∧ 0 < tuneOk.heartbeat

/-- Appending frames keeps the order when every heartbeat frame appended comes after a tune-ok
that asked for heartbeats. -/
theorem HeartbeatsNegotiated.append {frames : List (OutFrame × List UInt8)}
    (negotiated : HeartbeatsNegotiated frames) (more : List (OutFrame × List UInt8))
    (later : ∀ entry ∈ more, entry.1 = .heartbeat →
      ∃ tuneOk, .tuneOk tuneOk ∈ methodsQueued frames ∧ 0 < tuneOk.heartbeat) :
    HeartbeatsNegotiated (frames ++ more) := by
  intro before entry after split heartbeat
  rcases List.append_eq_append_iff.mp split with ⟨middle, rfl, rest⟩ | ⟨middle, found, rest⟩
  · -- the heartbeat frame is one of those appended
    obtain ⟨tuneOk, member, positive⟩ := later entry (by simp [rest]) heartbeat
    exact ⟨tuneOk, by simp [member], positive⟩
  · cases middle with
    | nil =>
      obtain ⟨tuneOk, member, positive⟩ :=
        later entry (by rw [List.nil_append] at rest; simp [← rest]) heartbeat
      exact ⟨tuneOk, by simpa [found] using member, positive⟩
    | cons first middle =>
      obtain ⟨rfl, -⟩ := List.cons.inj rest
      exact negotiated before entry middle found heartbeat

/-- The timer path queues a heartbeat frame only when the sending heartbeat runs. -/
theorem processHeartbeatTimers_frames_tx (inner : Inner) (due : List HeartbeatKind) :
    (inner.processHeartbeatTimers serializer due).1.outbuf.frames = inner.outbuf.frames ∨
      inner.heartbeats.tx.isSome := by
  induction due generalizing inner with
  | nil => exact .inl rfl
  | cons kind due ih =>
    -- the arms of each firing: the `expect` fails, `StillRunning`, `Expired`
    cases kind <;> simp only [Inner.processHeartbeatTimers] <;> split
    case rx.h_1 | rx.h_3 | tx.h_1 => exact .inl rfl
    case rx.h_2 fired =>
      have running := ((HeartbeatTimers.fire_spec _ fired).1).2
      exact (ih _).imp id fun sending => running ▸ sending
    case tx.h_2 fired | tx.h_3 fired =>
      refine .inr (Option.isSome_iff_ne_none.mpr fun idle => ?_)
      simp [HeartbeatTimers.fireTx, HeartbeatTimers.fire, idle] at fired

/-! ## Over every run -/

/-- A loop whose sending heartbeat runs has queued a tune-ok that asked for heartbeats. -/
theorem tuneOk_of_sending {loop : EventLoop} (timers : TimerBooks loop)
    (handshake : HandshakeBooks options loop) (sending : loop.inner.heartbeats.tx.isSome) :
    ∃ tuneOk, .tuneOk tuneOk ∈ methodsQueued loop.inner.outbuf.frames ∧ 0 < tuneOk.heartbeat := by
  have receiving : loop.inner.heartbeats.rx.isSome := timers.consistent.paired.trans sending
  have tuned : ¬ loop.state.rank ≤ 2 := fun early => by
    simp [(timers.unstarted early).1] at receiving
  obtain ⟨startOk, tuneOk, closes, queued, -⟩ : ∃ startOk tuneOk closes,
      methodsQueued loop.inner.outbuf.frames =
        [.startOk startOk, .tuneOk tuneOk, .open' options.makeOpen] ++ closes ∧
      ∀ method ∈ closes, method = .closeOk ∨ ∃ close, method = .close close := by
    cases state : loop.state with
    | start | secure | tune => simp [state, ConnectionState.rank] at tuned
    | open' | steady | closing _ => exact handshake.queuedIn state
  have member : .tuneOk tuneOk ∈ methodsQueued loop.inner.outbuf.frames := by simp [queued]
  exact ⟨tuneOk, member, (timers.negotiated tuneOk member).mp receiving⟩

/-- The timers, the handshake and the order of the heartbeat frames, kept together. -/
structure KeepaliveBooks (options : ConnectionOptions) (loop : EventLoop) : Prop where
  timers : TimerBooks loop
  handshake : HandshakeBooks options loop
  negotiated : HeartbeatsNegotiated loop.inner.outbuf.frames

/-- An operation lands in the keepalive books where each part lands. -/
theorem KeepaliveBooks.lands {result : EventLoop × Outcome}
    {timersStop handshakeStop : Outcome → EventLoop → Prop}
    (timers : Lands TimerBooks timersStop result)
    (handshake : Lands (HandshakeBooks options) handshakeStop result)
    (negotiated : result.2 = .ok → HeartbeatsNegotiated result.1.inner.outbuf.frames) :
    Lands (KeepaliveBooks options) (fun _ _ => True) result := by
  obtain ⟨loop, outcome⟩ := result
  cases outcome with
  | ok => exact ⟨timers, handshake, negotiated rfl⟩
  | err _ | panic _ => trivial

/-- A new loop has no heartbeat running and nothing queued. -/
theorem keepalive_new (registration : Except IoError Unit) (loop : EventLoop)
    (created : EventLoop.new registration = .ok loop) : KeepaliveBooks options loop := by
  refine ⟨timers_new _ _ created, handshake_new _ _ created, ?_⟩
  cases registration with
  | error error => cases created
  | ok =>
    cases created
    intro before entry after empty
    have nothing : before ++ entry :: after = [] := empty.symm
    simp at nothing

/-- A frame appends no heartbeat frame. -/
theorem negotiated_dispatch {loop : EventLoop}
    (negotiated : HeartbeatsNegotiated loop.inner.outbuf.frames) (frame : AMQPFrame) :
    HeartbeatsNegotiated (loop.dispatch serializer options frame).1.inner.outbuf.frames := by
  by_cases heartbeat : frame = .heartbeat 0
  · subst heartbeat
    exact negotiated
  rw [dispatch_eq heartbeat]
  generalize processed : loop.state.process serializer options loop.inner frame = result
  obtain ⟨state, after, outcome⟩ := result
  obtain ⟨more, frames, pushed⟩ := process_pushes serializer options processed
  show HeartbeatsNegotiated after.outbuf.frames
  rw [frames]
  refine negotiated.append more fun entry member heartbeat => ?_
  obtain ⟨⟨channel, method, isMethod⟩, -⟩ := pushed entry member
  exact absurd (isMethod.symm.trans heartbeat) nofun

/-- A write that does not stop the loop keeps the push log. -/
theorem negotiated_write {loop : EventLoop} {responses : List Response}
    {result : EventLoop × Outcome} (obeys : ∀ response ∈ responses, response.Obeys)
    (negotiated : HeartbeatsNegotiated loop.inner.outbuf.frames)
    (written : loop.writeToStream responses = some result) :
    result.2 = .ok → HeartbeatsNegotiated result.1.inner.outbuf.frames := by
  obtain ⟨⟨inner, state, stream, outcome⟩, call, rfl⟩ := Option.map_eq_some'.mp written
  cases writeToStream_step obeys call with
  | closing | completed => exact fun _ => by simpa using negotiated
  | blocked _ _ _ _ _ frames => exact fun _ => frames ▸ negotiated
  | failed | serverClosed => nofun

/-- The timer path appends a heartbeat frame only while the sending heartbeat runs, after the
tune-ok that started it. -/
theorem negotiated_timers {loop : EventLoop} (books : KeepaliveBooks options loop)
    (due : List HeartbeatKind) :
    HeartbeatsNegotiated (loop.processHeartbeatTimers serializer due).1.inner.outbuf.frames := by
  rw [processHeartbeatTimers_eq]
  rcases @processHeartbeatTimers_frames_tx serializer loop.inner due with same | sending
  · exact same ▸ books.negotiated
  · obtain ⟨count, frames⟩ := (processHeartbeatTimers_effect serializer loop.inner due).frames
    rw [show (loop.inner.processHeartbeatTimers serializer due).1.outbuf.frames = _ from frames]
    exact books.negotiated.append _ fun _ _ _ =>
      tuneOk_of_sending books.timers books.handshake sending

/-- Every operation keeps the keepalive books where the loop runs on. -/
theorem keepalive_kept : Kept serializer options (KeepaliveBooks options) (fun _ _ => True) where
  stay _ _ _ := trivial
  foreign _ _ := trivial
  dispatch loop frame books :=
    KeepaliveBooks.lands ((@timers_kept serializer options).dispatch loop frame books.timers)
      ((@handshake_kept serializer options).dispatch loop frame books.handshake)
      fun _ => negotiated_dispatch books.negotiated frame
  recordRx loop books := ⟨(@timers_kept serializer options).recordRx loop books.timers,
    (@handshake_kept serializer options).recordRx loop books.handshake, books.negotiated⟩
  write loop responses result obeys books written :=
    KeepaliveBooks.lands
      ((@timers_kept serializer options).write loop responses result obeys books.timers written)
      ((@handshake_kept serializer options).write loop responses result obeys books.handshake
        written)
      (negotiated_write obeys books.negotiated written)
  consume loop books := ⟨(@timers_kept serializer options).consume loop books.timers,
    (@handshake_kept serializer options).consume loop books.handshake, books.negotiated⟩
  timers loop due books :=
    KeepaliveBooks.lands ((@timers_kept serializer options).timers loop due books.timers)
      ((@handshake_kept serializer options).timers loop due books.handshake)
      fun _ => negotiated_timers books due
  reregister loop writable books :=
    ⟨(@timers_kept serializer options).reregister loop writable books.timers,
      (@handshake_kept serializer options).reregister loop writable books.handshake,
      books.negotiated⟩

/-- At every point of every run, every heartbeat frame the client has queued comes after the
tune-ok it queued for a tune the server sent, and that tune-ok asked for heartbeats: before the
server's tune, or with heartbeats negotiated off, no heartbeat frame is ever queued. -/
theorem heartbeat_frames_after_tune_ok {loop : EventLoop}
    (visited : Visited serializer options loop) {before after : List (OutFrame × List UInt8)}
    {entry : OutFrame × List UInt8} (queued : loop.inner.outbuf.frames = before ++ entry :: after)
    (heartbeat : entry.1 = .heartbeat) :
    ∃ tuneOk proposal, .tuneOk tuneOk ∈ methodsQueued before ∧ 0 < tuneOk.heartbeat ∧
      connectionFrame (.tune proposal) ∈ loop.dispatched ∧
      options.makeTuneOk proposal = .ok tuneOk := by
  have books := visited.holds keepalive_kept keepalive_new
  obtain ⟨tuneOk, member, positive⟩ := books.negotiated before entry after queued heartbeat
  obtain ⟨proposal, received, made⟩ :=
    books.handshake.tuneOk tuneOk (by simp [queued, member])
  exact ⟨tuneOk, proposal, member, positive, received, made⟩

/-- The handshake of `beating`, then a timer event firing the sending heartbeat twice with
nothing written in between. -/
def quietClient : List Iteration := beating ++ [pass [.heartbeat [.tx, .tx]]]

/-- The quiet client's heartbeat frame is queued behind the start-ok, the tune-ok asking for a
heartbeat every 60 seconds, and the open. -/
theorem heartbeat_frames_after_tune_ok_quietClient :
    (runFromStart quietClient).inner.outbuf.frames =
        (runFromStart quietClient).inner.outbuf.frames.take 3 ++
          [(.heartbeat, exampleSerializer.heartbeat)] ∧
      ∃ tuneOk proposal,
        .tuneOk tuneOk ∈ methodsQueued ((runFromStart quietClient).inner.outbuf.frames.take 3) ∧
        0 < tuneOk.heartbeat ∧
        connectionFrame (.tune proposal) ∈ (runFromStart quietClient).dispatched ∧
        exampleOptions.makeTuneOk proposal = .ok tuneOk :=
  have queued : (runFromStart quietClient).inner.outbuf.frames =
      (runFromStart quietClient).inner.outbuf.frames.take 3 ++
        [(.heartbeat, exampleSerializer.heartbeat)] := by rfl
  ⟨queued, heartbeat_frames_after_tune_ok (.reachable (runFromStart_reachable
    (show ∀ iteration ∈ quietClient, iteration.Obeys by
      simp [quietClient, beating, Event.Obeys, exchange, acceptsAll_obeys])
    rfl)) queued rfl⟩

/-! ## The negotiated intervals -/

/-- Where both heartbeats run, the sending one beats at the heartbeat of a tune-ok in the push
log, and the receiving one allows `MAX_MISSED_SERVER_HEARTBEATS` of those beats. -/
def IntervalsNegotiated (heartbeats : HeartbeatTimers) (frames : List (OutFrame × List UInt8)) :
    Prop :=
  ∀ rx tx, heartbeats.rx = some rx → heartbeats.tx = some tx →
    ∃ tuneOk, .tuneOk tuneOk ∈ methodsQueued frames ∧ tx.interval = tuneOk.heartbeat.toNat ∧
      rx.interval = tuneOk.heartbeat.toNat * maxMissedServerHeartbeats

/-- A heartbeat that runs at an interval ran at it before, when no operation changes one. -/
theorem running_of_interval {heartbeats after : HeartbeatTimers} {kind : HeartbeatKind}
    {heartbeat : Heartbeat}
    (same : (after.get kind).map Heartbeat.interval = (heartbeats.get kind).map Heartbeat.interval)
    (running : after.get kind = some heartbeat) :
    ∃ before, heartbeats.get kind = some before ∧ before.interval = heartbeat.interval := by
  rw [running] at same
  exact Option.map_eq_some'.mp same.symm

/-- Timers running the same heartbeats at the same intervals, over a push log that keeps every
method queued, keep the intervals negotiated. -/
theorem IntervalsNegotiated.keep {heartbeats after : HeartbeatTimers}
    {frames longer : List (OutFrame × List UInt8)}
    (negotiated : IntervalsNegotiated heartbeats frames)
    (intervals : ∀ kind, (after.get kind).map Heartbeat.interval =
      (heartbeats.get kind).map Heartbeat.interval)
    (kept : methodsQueued frames ⊆ methodsQueued longer) : IntervalsNegotiated after longer := by
  intro rx tx receiving sending
  obtain ⟨rx₀, running, rxSame⟩ := running_of_interval (intervals .rx) receiving
  obtain ⟨tx₀, sending₀, txSame⟩ := running_of_interval (intervals .tx) sending
  obtain ⟨tuneOk, member, txInterval, rxInterval⟩ := negotiated rx₀ tx₀ running sending₀
  exact ⟨tuneOk, kept member, txSame ▸ txInterval, rxSame ▸ rxInterval⟩

/-- Starting the heartbeats for a tune-ok's heartbeat, which the push log then holds, negotiates
their intervals with it; a zero heartbeat starts nothing. -/
theorem IntervalsNegotiated.startHeartbeats {inner started : Inner} {tuneOk : TuneOk}
    {longer : List (OutFrame × List UInt8)}
    (negotiated : IntervalsNegotiated inner.heartbeats inner.outbuf.frames)
    (begun : inner.startHeartbeats tuneOk.heartbeat = .ok started)
    (kept : methodsQueued inner.outbuf.frames ⊆ methodsQueued longer)
    (queued : .tuneOk tuneOk ∈ methodsQueued longer) :
    IntervalsNegotiated started.heartbeats longer := by
  have effect := Inner.startHeartbeats_eq_ok inner begun
  split at effect
  · have fresh := effect.1
    simp only [HeartbeatTimers.start, Heartbeat.start] at fresh
    split at fresh
    · intro rx tx receiving sending
      rw [← Except.ok.inj fresh] at receiving sending
      cases receiving
      cases sending
      exact ⟨tuneOk, queued, rfl, rfl⟩
    · cases fresh
  · exact effect ▸ negotiated.keep (fun _ => rfl) kept

/-- Recording write activity keeps the interval of every heartbeat. -/
theorem txRecorded_interval (inner : Inner) (wrote : Bool) (kind : HeartbeatKind) :
    ((txRecorded inner wrote).heartbeats.get kind).map Heartbeat.interval =
      (inner.heartbeats.get kind).map Heartbeat.interval := by
  unfold txRecorded
  split
  · exact inner.heartbeats.recordActivity_interval .tx kind
  · rfl

/-- `process` starts the heartbeats only with the tune-ok it queues, and otherwise appends to the
push log with the heartbeats untouched. -/
theorem intervals_dispatch {loop : EventLoop}
    (negotiated : IntervalsNegotiated loop.inner.heartbeats loop.inner.outbuf.frames)
    (frame : AMQPFrame) :
    Lands (fun loop => IntervalsNegotiated loop.inner.heartbeats loop.inner.outbuf.frames)
      (fun _ _ => True) (loop.dispatch serializer options frame) := by
  by_cases heartbeat : frame = .heartbeat 0
  · subst heartbeat
    exact negotiated
  rw [dispatch_eq heartbeat]
  generalize processed : loop.state.process serializer options loop.inner frame = result
  obtain ⟨state, after, outcome⟩ := result
  have unchanged : after.heartbeats = loop.inner.heartbeats →
      IntervalsNegotiated after.heartbeats after.outbuf.frames := fun same => by
    obtain ⟨more, frames, -⟩ := process_pushes serializer options processed
    rw [same, frames]
    exact negotiated.keep (fun _ => rfl) (by simp)
  have step := process_step serializer options loop.state loop.inner frame
  rw [processed] at step
  cases step with
  | rejected | tuneRefused | startFailed | tuneBegun | tuneHalf => trivial
  | discarded | started | opened => exact unchanged rfl
  | serverClose _ _ _ _ recorded | clientClose _ _ _ recorded =>
    rcases (Inner.setCloseReq_eq_ok _ _ _).mp recorded with ⟨-, rfl⟩ | ⟨-, bytes, -, rfl⟩ <;>
      exact unchanged rfl
  | tuned _ tuneOk started bytes more _ _ _ begun =>
    obtain ⟨outbuf, -, -⟩ := startHeartbeats_frame begun
    have tuned : IntervalsNegotiated started.heartbeats
        (withFrame (withFrame started (.tuneOk tuneOk) bytes) (.open' options.makeOpen)
          more).outbuf.frames :=
      negotiated.startHeartbeats begun (by simp [outbuf]) (by simp [outbuf])
    exact tuned

/-- A write that does not stop the loop keeps the push log, and records activity at most. -/
theorem intervals_write {loop : EventLoop} {responses : List Response}
    {result : EventLoop × Outcome} (obeys : ∀ response ∈ responses, response.Obeys)
    (negotiated : IntervalsNegotiated loop.inner.heartbeats loop.inner.outbuf.frames)
    (written : loop.writeToStream responses = some result) :
    Lands (fun loop => IntervalsNegotiated loop.inner.heartbeats loop.inner.outbuf.frames)
      (fun _ _ => True) result := by
  obtain ⟨⟨inner, state, stream, outcome⟩, call, rfl⟩ := Option.map_eq_some'.mp written
  cases writeToStream_step obeys call with
  | closing => exact negotiated.keep (fun _ => rfl) (by simp)
  | failed | serverClosed => trivial
  | blocked _ wrote _ _ _ frames _ _ _ beats =>
    exact negotiated.keep (beats ▸ txRecorded_interval _ wrote) (by simp [frames])
  | completed _ wrote => exact negotiated.keep (txRecorded_interval _ wrote) (by simp)

/-- Every operation keeps the intervals negotiated where the loop runs on. -/
theorem intervals_kept : Kept serializer options
    (fun loop => IntervalsNegotiated loop.inner.heartbeats loop.inner.outbuf.frames)
    (fun _ _ => True) where
  stay _ _ _ := trivial
  foreign _ _ := trivial
  dispatch _ frame negotiated := intervals_dispatch negotiated frame
  recordRx loop negotiated :=
    negotiated.keep (loop.inner.heartbeats.recordActivity_interval .rx) (List.Subset.refl _)
  write _ _ _ obeys negotiated written := intervals_write obeys negotiated written
  consume _ negotiated := negotiated
  timers loop due negotiated := by
    have effect := processHeartbeatTimers_effect serializer loop.inner due
    obtain ⟨count, frames⟩ := effect.frames
    rw [processHeartbeatTimers_eq]
    exact lands_running fun _ => negotiated.keep effect.intervals (by simp [frames])
  reregister _ _ negotiated := negotiated

/-- A new loop has no interval to negotiate. -/
theorem intervals_new (registration : Except IoError Unit) (loop : EventLoop)
    (created : EventLoop.new registration = .ok loop) :
    IntervalsNegotiated loop.inner.heartbeats loop.inner.outbuf.frames := by
  cases registration with
  | error error => cases created
  | ok =>
    cases created
    intro rx _ idle
    cases idle

/-- At every point of every run where the heartbeats run, they run at the intervals negotiated
with the server: the client's tune-ok for a tune the server sent asked for a positive heartbeat,
the sending heartbeat fires every that many seconds, and the receiving one allows
`MAX_MISSED_SERVER_HEARTBEATS` of them. -/
theorem heartbeat_intervals_negotiated {loop : EventLoop}
    (visited : Visited serializer options loop) {rx tx : Heartbeat}
    (receiving : loop.inner.heartbeats.rx = some rx)
    (sending : loop.inner.heartbeats.tx = some tx) :
    ∃ tuneOk proposal, .tuneOk tuneOk ∈ methodsQueued loop.inner.outbuf.frames ∧
      connectionFrame (.tune proposal) ∈ loop.dispatched ∧
      options.makeTuneOk proposal = .ok tuneOk ∧ 0 < tuneOk.heartbeat ∧
      tx.interval = tuneOk.heartbeat.toNat ∧
      rx.interval = tuneOk.heartbeat.toNat * maxMissedServerHeartbeats := by
  have books := visited.holds keepalive_kept keepalive_new
  obtain ⟨tuneOk, member, txInterval, rxInterval⟩ :=
    visited.holds intervals_kept intervals_new rx tx receiving sending
  obtain ⟨proposal, received, made⟩ := books.handshake.tuneOk tuneOk member
  have positive := (books.timers.negotiated tuneOk member).mp (by simp [receiving])
  exact ⟨tuneOk, proposal, member, received, made, positive, txInterval, rxInterval⟩

/-- After the handshake of `beating`, the client sends a heartbeat every 60 seconds and gives the
server 120, as the tune-ok it queued for the server's tune asked. -/
theorem heartbeat_intervals_negotiated_beating :
    (runFromStart beating).inner.heartbeats.rx = some ⟨.rx, 120, true⟩ ∧
      (runFromStart beating).inner.heartbeats.tx = some ⟨.tx, 60, true⟩ ∧
      ∃ tuneOk proposal,
        .tuneOk tuneOk ∈ methodsQueued (runFromStart beating).inner.outbuf.frames ∧
        connectionFrame (.tune proposal) ∈ (runFromStart beating).dispatched ∧
        exampleOptions.makeTuneOk proposal = .ok tuneOk ∧ 0 < tuneOk.heartbeat ∧
        60 = tuneOk.heartbeat.toNat ∧ 120 = tuneOk.heartbeat.toNat * maxMissedServerHeartbeats :=
  have receiving : (runFromStart beating).inner.heartbeats.rx = some ⟨.rx, 120, true⟩ := by rfl
  have sending : (runFromStart beating).inner.heartbeats.tx = some ⟨.tx, 60, true⟩ := by rfl
  ⟨receiving, sending, heartbeat_intervals_negotiated (.reachable (runFromStart_reachable
    (show ∀ iteration ∈ beating, iteration.Obeys by simp [beating]) rfl)) receiving sending⟩

end Amiquip.Keepalive
