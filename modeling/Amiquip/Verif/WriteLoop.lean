import Amiquip.Model.WritePath

/-!
# The write loop: bounds, panics and termination

Over every sequence of answers that keeps the `io::Write` contract, the main write loop from a
position inside the buffer accepts exactly the bytes from that position up to where it stops, and
it stops inside the buffer: finished at or past `len`, or blocked or failed before it. No slice
is taken past the end, so nothing in the loop panics, and a `WouldBlock` comes strictly before
`len`, which is at most every close offset: the adjustment of `server_close_req.pos` cannot go
below one and the drain stays inside the buffer. The contract allows `Ok(0)`, which the loop
neither refuses nor turns into an error; a stream answering only that keeps the loop running
however many answers it gives. When no write accepts zero bytes of a non-empty slice, the loop
returns within one more write than there are bytes to write; when moreover no write fails, it
returns by reaching the end of what it tries to write.
-/

namespace Amiquip.WriteLoop

/-- Where a run of the write loop can end when it stopped at `stop` bytes: finished at or past
`len`, blocked or failed before it, never by a panic. -/
def Fits (len stop : Nat) : WriteEnd → Prop
  | .completed pos => pos = stop ∧ len ≤ pos
  | .blocked pos => pos = stop ∧ pos < len
  | .failed _ => stop < len
  | .panicked _ => False

/-- From a position inside the buffer, under the contract, the loop accepts a prefix of the
bytes from there, stays inside the buffer, and ends where `Fits` allows. -/
theorem writeLoop_spec {outbuf : OutputBuffer} {len : Nat} :
    ∀ {pos : Nat} {responses : List Response} {run : WriteRun},
      (∀ response ∈ responses, response.Obeys) → pos ≤ outbuf.len →
        writeLoop outbuf len pos responses = some run →
          run.accepted <+: outbuf.bytes.drop pos ∧ pos + run.accepted.length ≤ outbuf.len ∧
            Fits len (pos + run.accepted.length) run.finish
  | pos, [], run, _, inside, looped => by
    unfold writeLoop at looped
    split at looped
    · cases looped
    · injection looped with looped
      subst looped
      exact ⟨List.nil_prefix, by simpa using inside, rfl, by omega⟩
  | pos, response :: later, run, obeys, inside, looped => by
    unfold writeLoop at looped
    split at looped
    · rename_i below
      have sliced : outbuf.sliceFrom pos = some (outbuf.bytes.drop pos) := by
        simp [OutputBuffer.sliceFrom, inside]
      rw [sliced] at looped
      simp only at looped
      split at looped
      · rename_i n answered
        obtain ⟨rest, found, rfl⟩ := Option.map_eq_some'.mp looped
        have bound : n ≤ outbuf.len - pos := by
          simpa [OutputBuffer.len] using obeys response (by simp) _ _ answered
        obtain ⟨accepted, within, fits⟩ :=
          writeLoop_spec (fun r mem => obeys r (by simp [mem])) (by omega) found
        have taken : (List.take n (outbuf.bytes.drop pos)).length = n := by
          simp [OutputBuffer.len] at bound ⊢; omega
        refine ⟨?_, ?_, ?_⟩
        · have split : (outbuf.bytes.drop pos).take n ++ outbuf.bytes.drop (pos + n) =
              outbuf.bytes.drop pos := by
            rw [← List.drop_drop, List.take_append_drop]
          have step := (List.prefix_append_right_inj ((outbuf.bytes.drop pos).take n)).mpr accepted
          rwa [split] at step
        · simp only [WriteRun.after, List.length_append, taken]; omega
        · simpa only [WriteRun.after, List.length_append, taken, Nat.add_assoc] using fits
      · injection looped with looped
        subst looped
        refine ⟨List.nil_prefix, by simpa using inside, ?_⟩
        split <;> simp [Fits, below]
    · injection looped with looped
      subst looped
      exact ⟨List.nil_prefix, by simpa using inside, rfl, by omega⟩

/-- The write length is at most the queued bytes and every recorded close offset. -/
theorem writeLength_le (inner : Inner) :
    inner.writeLength ≤ inner.outbuf.len ∧
      (∀ request, inner.serverCloseReq = some request → inner.writeLength ≤ request.pos) ∧
      ∀ request, inner.ourCloseReq = some request → inner.writeLength ≤ request.pos := by
  unfold Inner.writeLength
  cases inner.serverCloseReq <;> cases inner.ourCloseReq <;>
    simp only [reduceCtorEq, IsEmpty.forall_iff, implies_true, Option.some.injEq, forall_eq',
      and_true, true_and, le_refl] <;> omega

/-- The write length is the buffer's length or one of the recorded close offsets. -/
theorem writeLength_cases (inner : Inner) :
    inner.writeLength = inner.outbuf.len ∨
      (∃ request, inner.serverCloseReq = some request ∧ inner.writeLength = request.pos) ∨
      ∃ request, inner.ourCloseReq = some request ∧ inner.writeLength = request.pos := by
  unfold Inner.writeLength
  cases inner.serverCloseReq <;> cases inner.ourCloseReq <;>
    simp only [reduceCtorEq, false_and, exists_false, Option.some.injEq, exists_eq_left', or_false,
      false_or, or_self] <;> omega

/-- A write length at neither side's close is the buffer's length. -/
theorem writeLength_eq_len {inner : Inner}
    (server : inner.closesAt .server inner.writeLength = none)
    (client : inner.closesAt .client inner.writeLength = none) :
    inner.writeLength = inner.outbuf.len := by
  rcases writeLength_cases inner with same | ⟨request, recorded, ends⟩ | ⟨request, recorded, ends⟩
  · exact same
  · simp [Inner.closesAt, recorded, ends] at server
  · simp [Inner.closesAt, recorded, ends] at client

/-- The context after the writes of one call, with transmit activity recorded if any write
returned `Ok`. -/
def txRecorded (inner : Inner) (wrote : Bool) : Inner :=
  if wrote then { inner with heartbeats := inner.heartbeats.recordTxActivity } else inner

/-- Recording transmit activity leaves the output buffer alone. -/
@[simp] theorem txRecorded_outbuf (inner : Inner) (wrote : Bool) :
    (txRecorded inner wrote).outbuf = inner.outbuf := by
  unfold txRecorded; split <;> rfl

/-- Recording transmit activity leaves the server's close request alone. -/
@[simp] theorem txRecorded_serverCloseReq (inner : Inner) (wrote : Bool) :
    (txRecorded inner wrote).serverCloseReq = inner.serverCloseReq := by
  unfold txRecorded; split <;> rfl

/-- Recording transmit activity leaves the client's close request alone. -/
@[simp] theorem txRecorded_ourCloseReq (inner : Inner) (wrote : Bool) :
    (txRecorded inner wrote).ourCloseReq = inner.ourCloseReq := by
  unfold txRecorded; split <;> rfl

/-- Recording transmit activity leaves the close offsets alone. -/
@[simp] theorem txRecorded_closesAt (inner : Inner) (wrote : Bool) (side : CloseSide)
    (len : Nat) : (txRecorded inner wrote).closesAt side len = inner.closesAt side len := by
  cases side <;> simp [Inner.closesAt]

/-- A side closes at `len` exactly when its request is recorded and ends there. -/
theorem closesAt_eq_some {inner : Inner} {side : CloseSide} {len : Nat} {close : Close} :
    inner.closesAt side len = some close ↔
      ∃ request, inner.closeReq side = some request ∧ len = request.pos ∧
        close = request.close := by
  cases recorded : inner.closeReq side <;> simp [Inner.closesAt, recorded, eq_comm]

/-- The stream after it accepted the first `count` queued bytes. -/
def accepted (stream : Socket) (inner : Inner) (count : Nat) : Socket :=
  { stream with sent := stream.sent ++ inner.outbuf.bytes.take count }

/-- Everything one call of `write_to_stream` can do when the stream keeps the contract, with
`count` the bytes accepted. -/
inductive WriteStep (inner : Inner) (state : ConnectionState) (stream : Socket) :
    Inner × ConnectionState × Socket × Outcome → Prop
  /-- Already `Closing`: the buffer is cleared and nothing is written. -/
  | closing : state.isClosing →
      WriteStep inner state stream ({ inner with outbuf := inner.outbuf.clear }, state, stream, .ok)
  /-- An I/O error before `len` bytes went out. -/
  | failed (count : Nat) (wrote : Bool) (error : IoError) : ¬ state.isClosing →
      count < inner.writeLength →
      WriteStep inner state stream
        (txRecorded inner wrote, state, accepted stream inner count, .err (.ofIo .io error))
  /-- `WouldBlock` before `len` bytes went out: the written prefix is drained and the server's
  close offset moved back by it. -/
  | blocked (count : Nat) (wrote : Bool) (after : Inner) : ¬ state.isClosing →
      count < inner.writeLength → after.outbuf.frames = inner.outbuf.frames →
      after.outbuf.start = inner.outbuf.start + count →
      after.serverCloseReq =
        inner.serverCloseReq.map (fun request => { request with pos := request.pos - count }) →
      after.ourCloseReq = inner.ourCloseReq →
      after.heartbeats = (txRecorded inner wrote).heartbeats →
      WriteStep inner state stream
        (after, state, { accepted stream inner count with writable := true }, .ok)
  /-- All `len` bytes went out and `len` ends the server's close-ok. -/
  | serverClosed (count : Nat) (wrote : Bool) (request : CloseRequest) : ¬ state.isClosing →
      inner.writeLength ≤ count → count ≤ inner.outbuf.len →
      inner.serverCloseReq = some request → inner.writeLength = request.pos →
      WriteStep inner state stream (txRecorded inner wrote, state, accepted stream inner count,
        .fail (.serverClosedConnection request.close.replyCode request.close.replyText))
  /-- All `len` bytes went out, not ending the server's close-ok: the buffer is cleared, and the
  state is `Closing` when `len` ends the client's close. -/
  | completed (count : Nat) (wrote : Bool) : ¬ state.isClosing →
      inner.writeLength ≤ count → count ≤ inner.outbuf.len →
      inner.closesAt .server inner.writeLength = none →
      WriteStep inner state stream
        ({ txRecorded inner wrote with outbuf := inner.outbuf.clear },
          (match inner.closesAt .client inner.writeLength with
            | some close => .closing close
            | none => state),
          accepted stream inner count, .ok)

/-- The `WouldBlock` branch within the bounds the loop guarantees: no panic, and its effect. -/
theorem afterBlocked_ok (inner : Inner) (count : Nat) (inBuffer : count < inner.outbuf.len)
    (beforeClose : ∀ request, inner.serverCloseReq = some request → count < request.pos) :
    ∃ after, inner.afterBlocked count = .ok after ∧ after.outbuf.frames = inner.outbuf.frames ∧
      after.outbuf.start = inner.outbuf.start + count ∧
      after.serverCloseReq =
        inner.serverCloseReq.map (fun request => { request with pos := request.pos - count }) ∧
      after.ourCloseReq = inner.ourCloseReq ∧ after.heartbeats = inner.heartbeats := by
  obtain ⟨drained, drainedEq⟩ : ∃ drained, inner.outbuf.drainWritten count = some drained := by
    simp [OutputBuffer.drainWritten, Nat.le_of_lt inBuffer]
  obtain ⟨-, frames, start⟩ := (OutputBuffer.drainWritten_eq_some _).mp drainedEq
  let moved := inner.serverCloseReq.map fun request => { request with pos := request.pos - count }
  refine ⟨{ inner with outbuf := drained, serverCloseReq := moved }, ?_, frames, start, rfl, rfl,
    rfl⟩
  unfold Inner.afterBlocked
  cases recorded : inner.serverCloseReq with
  | none => simp [drainedEq, moved, recorded]
  | some request => simp [drainedEq, moved, recorded, Nat.le_of_lt (beforeClose request recorded)]

/-- Under the contract, every call of `write_to_stream` is one of the `WriteStep`s. -/
theorem writeToStream_step {inner : Inner} {state : ConnectionState} {stream : Socket}
    {responses : List Response} {result : Inner × ConnectionState × Socket × Outcome}
    (obeys : ∀ response ∈ responses, response.Obeys)
    (written : inner.writeToStream state stream responses = some result) :
    WriteStep inner state stream result := by
  unfold Inner.writeToStream at written
  split at written
  · rename_i closing
    cases written
    exact .closing closing
  · rename_i notClosing
    obtain ⟨run, looped, rfl⟩ := Option.map_eq_some'.mp written
    obtain ⟨prefixOf, within, fits⟩ := writeLoop_spec obeys (Nat.zero_le _) looped
    obtain ⟨toLen, toServer, -⟩ := writeLength_le inner
    have sent : run.accepted = inner.outbuf.bytes.take run.accepted.length := by
      simpa using List.prefix_iff_eq_take.mp prefixOf
    have recorded : (if run.wrote then
        { inner with heartbeats := inner.heartbeats.recordTxActivity } else inner) =
        txRecorded inner run.wrote := rfl
    simp only [Nat.zero_add] at within fits
    cases finish : run.finish with
    | panicked text => simp [finish, Fits] at fits
    | failed error =>
      simp only [finish, Fits] at fits
      simpa [recorded, accepted, ← sent] using
        @WriteStep.failed inner state stream run.accepted.length run.wrote error notClosing fits
    | blocked pos =>
      simp only [finish, Fits] at fits
      obtain ⟨rfl, below⟩ := fits
      obtain ⟨after, blockedEq, frames, start, server, client, beats⟩ :=
        afterBlocked_ok (txRecorded inner run.wrote) run.accepted.length
          (by simpa using Nat.lt_of_lt_of_le below toLen)
          (fun request found => by have := toServer request (by simpa using found); omega)
      simp only [recorded, blockedEq]
      simpa [accepted, ← sent] using @WriteStep.blocked inner state stream run.accepted.length
        run.wrote after notClosing below (by simpa using frames) (by simpa using start)
        (by simpa using server) (by simpa using client) beats
    | completed pos =>
      simp only [finish, Fits] at fits
      obtain ⟨rfl, reached⟩ := fits
      simp only [recorded, Inner.afterCompleted, txRecorded_closesAt]
      cases server : inner.closesAt .server inner.writeLength with
      | some close =>
        obtain ⟨request, recordedAt, endsAt, rfl⟩ := closesAt_eq_some.mp server
        simpa [accepted, ← sent] using @WriteStep.serverClosed inner state stream
          run.accepted.length run.wrote request notClosing reached within recordedAt endsAt
      | none =>
        simpa [accepted, ← sent] using @WriteStep.completed inner state stream
          run.accepted.length run.wrote notClosing reached within server

/-- Under the contract no call of the write loop panics: every slice starts inside the buffer,
and a `WouldBlock` comes strictly before the buffer's end and every recorded server close offset,
so the offset's adjustment leaves at least one byte and the drain stays inside the buffer. Hence
`write_to_stream` never panics, whatever the buffer, the close requests and the state. -/
theorem write_loop_never_panics (inner : Inner) (responses : List Response)
    (obeys : ∀ response ∈ responses, response.Obeys) :
    (∀ run, writeLoop inner.outbuf inner.writeLength 0 responses = some run →
      (∀ message, run.finish ≠ .panicked message) ∧
        ∀ pos, run.finish = .blocked pos →
          pos < inner.outbuf.len ∧ ∀ request, inner.serverCloseReq = some request →
            1 ≤ request.pos - pos) ∧
      ∀ state stream result, inner.writeToStream state stream responses = some result →
        ∀ message, result.2.2.2 ≠ .panic message := by
  obtain ⟨toLen, toServer, -⟩ := writeLength_le inner
  refine ⟨fun run looped => ?_, fun state stream result written message => ?_⟩
  · have fits := (writeLoop_spec obeys (Nat.zero_le _) looped).2.2
    refine ⟨fun message panicked => by simp [panicked, Fits] at fits, fun pos blocked => ?_⟩
    simp only [blocked, Fits] at fits
    exact ⟨by omega, fun request recorded => by have := toServer request recorded; omega⟩
  · cases writeToStream_step obeys written <;> simp [Outcome.fail]

/-- One queued heartbeat frame, nothing else recorded. -/
def queuedHeartbeat : Inner :=
  ⟨⟨[(.heartbeat, [8, 0, 0, 0, 0, 0, 0, 206])], 0, by decide⟩, none, none, .default⟩

/-- A stream that accepts every slice whole. -/
def acceptsAll : Response := fun slice => .ok slice.length

/-- Taking every slice whole keeps the contract. -/
theorem acceptsAll_obeys : acceptsAll.Obeys := fun _ _ answered => by
  cases answered
  exact le_rfl

/-- With one heartbeat queued and a stream taking it whole, the bounds hold and nothing panics. -/
theorem write_loop_never_panics_accepting :
    (∀ response ∈ [acceptsAll], response.Obeys) ∧
      ((∀ run, writeLoop queuedHeartbeat.outbuf queuedHeartbeat.writeLength 0 [acceptsAll] = some run →
        (∀ message, run.finish ≠ .panicked message) ∧
          ∀ pos, run.finish = .blocked pos →
            pos < queuedHeartbeat.outbuf.len ∧ ∀ request, queuedHeartbeat.serverCloseReq = some request →
              1 ≤ request.pos - pos) ∧
        ∀ state stream result, queuedHeartbeat.writeToStream state stream [acceptsAll] = some result →
          ∀ message, result.2.2.2 ≠ .panic message) :=
  have obeys : ∀ response ∈ [acceptsAll], response.Obeys := by simpa using acceptsAll_obeys
  ⟨obeys, write_loop_never_panics queuedHeartbeat [acceptsAll] obeys⟩

/-- A stream that accepts nothing: `Ok(0)` to every write, which the contract allows. -/
def acceptsNothing : Response := fun _ => .ok 0

/-- Accepting nothing keeps the contract. -/
theorem acceptsNothing_obeys : acceptsNothing.Obeys := by
  intro slice n answered
  cases answered
  exact Nat.zero_le _

/-- Answering `Ok(0)`, the stream keeps the loop at the same position for as many answers as it
gives, so the loop never returns. -/
theorem writeLoop_acceptsNothing {outbuf : OutputBuffer} {len pos : Nat}
    (inside : pos ≤ outbuf.len) (below : pos < len) :
    ∀ calls, writeLoop outbuf len pos (List.replicate calls acceptsNothing) = none
  | 0 => by simp [writeLoop, below]
  | calls + 1 => by
    simp [writeLoop, below, OutputBuffer.sliceFrom, inside, acceptsNothing,
      writeLoop_acceptsNothing inside below calls]

/-- From any context with bytes to write and a state other than `Closing`, a stream answering
`Ok(0)` keeps `write_to_stream` from returning, however many answers it gives. -/
theorem writeToStream_acceptsNothing (inner : Inner) (state : ConnectionState) (stream : Socket)
    (notClosing : ¬ state.isClosing) (pending : 0 < inner.writeLength) (calls : Nat) :
    inner.writeToStream state stream (List.replicate calls acceptsNothing) = none := by
  simp [Inner.writeToStream, notClosing,
    writeLoop_acceptsNothing (Nat.zero_le _) pending calls]

/-- In `Steady` with one heartbeat frame queued and a stream that keeps the contract by
answering `Ok(0)`, `write_to_stream` returns after no number of writes. -/
theorem write_to_stream_spins_on_zero_writes :
    acceptsNothing.Obeys ∧ ¬ ∃ calls,
      (queuedHeartbeat.writeToStream .steady ⟨[], true⟩
        (List.replicate calls acceptsNothing)).isSome := by
  refine ⟨acceptsNothing_obeys, fun ⟨calls, returned⟩ => ?_⟩
  rw [writeToStream_acceptsNothing _ _ _ (by decide) (by decide)] at returned
  cases returned

/-- No write accepts zero bytes of a non-empty slice. -/
def Progresses (response : Response) : Prop :=
  ∀ slice, slice ≠ [] → response slice ≠ .ok 0

/-- Taking every slice whole accepts a byte of every non-empty slice. -/
theorem acceptsAll_progresses : Progresses acceptsAll := fun slice nonempty answered => by
  simp [acceptsAll] at answered
  exact nonempty answered

/-- At most `stalls` of the answers may accept zero bytes of a non-empty slice: every other one
makes progress. -/
inductive StallsAtMost : Nat → List Response → Prop
  | nil (stalls : Nat) : StallsAtMost stalls []
  | progress {stalls : Nat} {response : Response} {later : List Response} :
      Progresses response → StallsAtMost stalls later → StallsAtMost stalls (response :: later)
  | stall {stalls : Nat} {response : Response} {later : List Response} :
      StallsAtMost stalls later → StallsAtMost (stalls + 1) (response :: later)

/-- Answers that all make progress stall at most zero times. -/
theorem stallsAtMost_zero :
    ∀ {responses : List Response}, (∀ response ∈ responses, Progresses response) →
      StallsAtMost 0 responses
  | [], _ => .nil 0
  | _ :: _, progress =>
    .progress (progress _ (by simp)) (stallsAtMost_zero fun r mem => progress r (by simp [mem]))

/-- The loop returns on one more answer when, whatever that answer accepts of the slice at
`pos` while `pos` is inside the buffer and short of `len`, the loop over the others returns from
where it moves. -/
theorem writeLoop_cons_isSome {outbuf : OutputBuffer} {len pos : Nat} {response : Response}
    {later : List Response}
    (next : ∀ n, response (outbuf.bytes.drop pos) = .ok n → pos < len → pos ≤ outbuf.len →
      (writeLoop outbuf len (pos + n) later).isSome) :
    (writeLoop outbuf len pos (response :: later)).isSome := by
  unfold writeLoop
  by_cases below : pos < len
  · by_cases inside : pos ≤ outbuf.len
    · simp only [below, inside, OutputBuffer.sliceFrom, if_true]
      split
      · rename_i n answered
        simpa using next n answered below inside
      · rfl
    · simp [below, inside, OutputBuffer.sliceFrom]
  · simp [below]

/-- Whatever a stream answers, the loop returns once it is given more answers than the bytes
left to write and the answers that may accept zero bytes together: each other answer moves it
forward by at least one byte. -/
theorem writeLoop_returns_stalling {outbuf : OutputBuffer} {len : Nat} (fits : len ≤ outbuf.len)
    {stalls : Nat} {responses : List Response} (stalling : StallsAtMost stalls responses) :
    ∀ {pos : Nat}, len - pos + stalls < responses.length →
      (writeLoop outbuf len pos responses).isSome := by
  induction stalling with
  | nil => intro pos enough; simp at enough
  | progress progress _ ih =>
    intro pos enough
    refine writeLoop_cons_isSome fun n answered below _ => ih ?_
    have nonempty : outbuf.bytes.drop pos ≠ [] := by
      simpa [List.drop_eq_nil_iff] using Nat.lt_of_lt_of_le below fits
    have moved : 0 < n := Nat.pos_of_ne_zero fun zero => progress _ nonempty (zero ▸ answered)
    simp only [List.length_cons] at enough
    omega
  | stall _ ih =>
    intro pos enough
    simp only [List.length_cons] at enough
    exact writeLoop_cons_isSome fun n _ _ _ => ih (by omega)

/-- With every write accepting at least one byte, the loop returns once it is given one more
answer than there are bytes left to write. -/
theorem writeLoop_returns {outbuf : OutputBuffer} {len : Nat} (fits : len ≤ outbuf.len)
    {pos : Nat} {responses : List Response}
    (good : ∀ response ∈ responses, response.Obeys ∧ Progresses response)
    (enough : len - pos < responses.length) : (writeLoop outbuf len pos responses).isSome :=
  writeLoop_returns_stalling fits (stallsAtMost_zero fun r mem => (good r mem).2) enough

/-- Under the contract, when no write accepts zero bytes of a non-empty slice, every call of
`write_to_stream` returns within one write more than the bytes it tries to write. -/
theorem writeToStream_returns (inner : Inner) (state : ConnectionState) (stream : Socket)
    (responses : List Response)
    (good : ∀ response ∈ responses, response.Obeys ∧ Progresses response)
    (enough : inner.writeLength < responses.length) :
    (inner.writeToStream state stream responses).isSome := by
  unfold Inner.writeToStream
  split
  · rfl
  · simpa using writeLoop_returns (writeLength_le inner).1 good (by omega)

/-- One heartbeat queued and nine answers taking every slice whole: the call returns. -/
theorem writeToStream_returns_queuedHeartbeat :
    (queuedHeartbeat.writeToStream .steady ⟨[], true⟩ (List.replicate 9 acceptsAll)).isSome :=
  writeToStream_returns _ _ _ _ (by simp [acceptsAll_obeys, acceptsAll_progresses]) (by decide)

/-- Whatever a stream answers, when at most `stalls` of its answers accept zero bytes of a
non-empty slice, every call of `write_to_stream` returns within one write more than the bytes it
tries to write and the stalls together; over a stream that never stalls, within one more than
the bytes. -/
theorem write_to_stream_returns_past_stalls (inner : Inner) (state : ConnectionState)
    (stream : Socket) {stalls : Nat} {responses : List Response}
    (stalling : StallsAtMost stalls responses)
    (enough : inner.writeLength + stalls < responses.length) :
    (inner.writeToStream state stream responses).isSome := by
  unfold Inner.writeToStream
  split
  · rfl
  · simpa using writeLoop_returns_stalling (writeLength_le inner).1 stalling (by omega)

/-- With one heartbeat queued, a stream answering `Ok(0)` once and then taking every slice whole
lets `write_to_stream` return within ten writes. -/
theorem write_to_stream_returns_past_stalls_once :
    StallsAtMost 1 (acceptsNothing :: List.replicate 9 acceptsAll) ∧
      queuedHeartbeat.writeLength + 1 < (acceptsNothing :: List.replicate 9 acceptsAll).length ∧
      (queuedHeartbeat.writeToStream .steady ⟨[], true⟩
        (acceptsNothing :: List.replicate 9 acceptsAll)).isSome :=
  have stalling : StallsAtMost 1 (acceptsNothing :: List.replicate 9 acceptsAll) :=
    .stall (stallsAtMost_zero fun r mem => (List.eq_of_mem_replicate mem) ▸ acceptsAll_progresses)
  ⟨stalling, by decide, write_to_stream_returns_past_stalls _ _ _ stalling (by decide)⟩

/-- No write ends in an I/O error, `WouldBlock` included. -/
def NeverFails (response : Response) : Prop :=
  ∀ slice error, response slice ≠ .error error

/-- Taking every slice whole never fails. -/
theorem acceptsAll_neverFails : NeverFails acceptsAll := fun _ _ => nofun

/-- When no answer is an error, the loop ends only by reaching `len` or by a panic. -/
theorem writeLoop_finish_of_neverFails {outbuf : OutputBuffer} {len : Nat} :
    ∀ {pos : Nat} {responses : List Response} {run : WriteRun},
      (∀ response ∈ responses, NeverFails response) →
        writeLoop outbuf len pos responses = some run →
          (∃ stop, run.finish = .completed stop) ∨ ∃ message, run.finish = .panicked message
  | pos, [], run, _, looped => by
    unfold writeLoop at looped
    split at looped
    · cases looped
    · cases looped; exact .inl ⟨_, rfl⟩
  | pos, response :: later, run, never, looped => by
    unfold writeLoop at looped
    split at looped
    · split at looped
      · cases looped; exact .inr ⟨_, rfl⟩
      · split at looped
        · obtain ⟨rest, found, rfl⟩ := Option.map_eq_some'.mp looped
          exact (writeLoop_finish_of_neverFails (fun r mem => never r (by simp [mem])) found :)
        · rename_i answered
          exact absurd answered (never response (by simp) _ _)
    · cases looped; exact .inl ⟨_, rfl⟩

/-- Outside `Closing`, over answers that keep the contract, never fail and accept at least one
byte of every non-empty slice, a call given one answer more than it tries to write reaches the
end of what it tries to write, and its state and outcome are those `afterCompleted` gives. -/
theorem writeToStream_completes (inner : Inner) (state : ConnectionState) (stream : Socket)
    (responses : List Response) (notClosing : ¬ state.isClosing)
    (good : ∀ response ∈ responses,
      response.Obeys ∧ Progresses response ∧ NeverFails response)
    (enough : inner.writeLength < responses.length) :
    ∃ result, inner.writeToStream state stream responses = some result ∧
      result.2.1 = (inner.afterCompleted state inner.writeLength).2.1 ∧
      result.2.2.2 = (inner.afterCompleted state inner.writeLength).2.2 := by
  obtain ⟨run, looped⟩ := Option.isSome_iff_exists.mp <| writeLoop_returns (writeLength_le inner).1
    (fun response mem => ⟨(good response mem).1, (good response mem).2.1⟩) (by omega)
  have fits := (writeLoop_spec (fun response mem => (good response mem).1) (Nat.zero_le _)
    looped).2.2
  unfold Inner.writeToStream
  rw [if_neg notClosing]
  simp only [looped, Option.map_some']
  refine ⟨_, rfl, ?_⟩
  rcases writeLoop_finish_of_neverFails (fun response mem => (good response mem).2.2) looped with
    ⟨stop, finish⟩ | ⟨message, finish⟩
  · have recorded : (if run.wrote then
        { inner with heartbeats := inner.heartbeats.recordTxActivity } else inner) =
        txRecorded inner run.wrote := rfl
    simp only [finish, recorded, Inner.afterCompleted, txRecorded_closesAt]
    split <;> exact ⟨rfl, rfl⟩
  · simp [finish, Fits] at fits

/-- A stream that takes every slice whole ends the loop at its first write, having accepted
every queued byte. -/
theorem writeLoop_acceptsAll (outbuf : OutputBuffer) {len : Nat} (within : len ≤ outbuf.len) :
    ∃ pos, writeLoop outbuf len 0 [acceptsAll] =
      some ⟨if 0 < len then outbuf.bytes else [], decide (0 < len), .completed pos⟩ := by
  by_cases positive : 0 < len
  · have whole : ¬ outbuf.bytes.length < len := by simp only [OutputBuffer.len] at within; omega
    exact ⟨outbuf.bytes.length, by simp [writeLoop, positive, OutputBuffer.sliceFrom, acceptsAll,
      whole, WriteRun.after]⟩
  · exact ⟨0, by simp [writeLoop, positive]⟩

/-- Outside `Closing`, one call over a stream that takes every slice whole gets every queued
byte accepted, those queued behind a recorded close included, and then either ends the loop
with `ServerClosedConnection` or leaves nothing queued. -/
theorem whole_write_sends_all_queued (inner : Inner) (state : ConnectionState) (stream : Socket)
    (notClosing : ¬ state.isClosing) :
    ∃ after next outcome, inner.writeToStream state stream [acceptsAll] =
        some (after, next,
          { stream with
            sent := stream.sent ++ if 0 < inner.writeLength then inner.outbuf.bytes else [] },
          outcome) ∧
      ((outcome = .ok ∧ after.outbuf.len = 0) ∨
        ∃ code text, outcome = .fail (.serverClosedConnection code text)) := by
  obtain ⟨pos, looped⟩ := writeLoop_acceptsAll inner.outbuf (writeLength_le inner).1
  unfold Inner.writeToStream
  rw [if_neg notClosing]
  simp only [looped, Option.map_some']
  refine ⟨_, _, _, rfl, ?_⟩
  unfold Inner.afterCompleted
  split
  · exact .inr ⟨_, _, rfl⟩
  · exact .inl ⟨rfl, OutputBuffer.len_clear _⟩

/-- One heartbeat queued and a stream taking it whole: the call sends every queued byte. -/
theorem whole_write_sends_all_queued_heartbeat :
    ¬ ConnectionState.steady.isClosing ∧
      (queuedHeartbeat.writeToStream .steady ⟨[], true⟩ [acceptsAll]).map (·.2.2.1.sent) =
        some queuedHeartbeat.outbuf.bytes := by
  obtain ⟨after, next, outcome, written, -⟩ :=
    whole_write_sends_all_queued queuedHeartbeat .steady ⟨[], true⟩ (by decide)
  exact ⟨by decide, by rw [written]; rfl⟩

end Amiquip.WriteLoop
