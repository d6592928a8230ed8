import Amiquip.Model.ConnectionState

/-!
# The write path

`Inner::write_to_stream`. The socket is seen through its answers: each call of `stream.write`
on a slice answers `Ok(n)` or an I/O error, and a run supplies one answer per call, as a function
of the slice it is given. The main loop is `writeLoop`, which returns the bytes the stream
accepted and how the loop ended; it is partial only in the sense that the answers supplied may
run out before the loop returns. Indexing and `usize` arithmetic are checked, as in a debug build:
`&outbuf[pos..]` past the end, `server_close_req.pos -= pos` below zero and a drain past the end
are panics. The socket also carries the abstraction of edge-triggered readiness: whether the
poller will deliver another writable event, which a `WouldBlock` arms.
-/

namespace Amiquip

/-- What `stream.write` answers for the slice it is given. -/
abbrev Response := List UInt8 → Except IoError Nat

/-- The `io::Write` contract: `Ok(n)` never exceeds the slice. -/
def Response.Obeys (response : Response) : Prop :=
  ∀ slice n, response slice = .ok n → n ≤ slice.length

/-- How the main write loop ends. -/
inductive WriteEnd where
  /-- `pos` reached `len`. -/
  | completed (pos : Nat)
  /-- `WouldBlock` after `pos` bytes. -/
  | blocked (pos : Nat)
  /-- Another I/O error. -/
  | failed (error : IoError)
  /-- An index out of range. -/
  | panicked (message : String)
  deriving DecidableEq, Repr

/-- One run of the main write loop: the bytes accepted in order, whether some write returned
`Ok` (each records transmit activity), and how the loop ended. -/
structure WriteRun where
  accepted : List UInt8
  wrote : Bool
  finish : WriteEnd
  deriving DecidableEq, Repr

/-- A run preceded by a write that accepted `bytes`. -/
def WriteRun.after (bytes : List UInt8) (run : WriteRun) : WriteRun :=
  ⟨bytes ++ run.accepted, true, run.finish⟩

/-- The main loop of `Inner::write_to_stream`: while `pos < len`, write `&outbuf[pos..]` and
advance by what was accepted; absent when the answers run out first. -/
def writeLoop (outbuf : OutputBuffer) (len : Nat) : Nat → List Response → Option WriteRun
  | pos, [] => if pos < len then none else some ⟨[], false, .completed pos⟩
  | pos, response :: later =>
    if pos < len then
      match outbuf.sliceFrom pos with
      | none => some ⟨[], false, .panicked "range start index out of range for slice"⟩
      | some slice =>
        match response slice with
        | .ok n => (writeLoop outbuf len (pos + n) later).map (WriteRun.after (slice.take n))
        | .error error =>
          some ⟨[], false, if error.kind = .wouldBlock then .blocked pos else .failed error⟩
    else some ⟨[], false, .completed pos⟩

/-- The stream as the loop drives it. -/
structure Socket where
  /-- Every byte `stream.write` has accepted, in order. -/
  sent : List UInt8
  /-- Whether the poller will deliver a writable event (edge-triggered readiness). -/
  writable : Bool
  deriving DecidableEq, Repr

namespace Inner

/-- The close of one side's request when it ends exactly at `len`. -/
def closesAt (inner : Inner) (side : CloseSide) (len : Nat) : Option Close :=
  match inner.closeReq side with
  | some request => if len = request.pos then some request.close else none
  | none => none

/-- How much queued data one call tries to write: all of it, but no further than the end of a
recorded close-ok or close. -/
def writeLength (inner : Inner) : Nat :=
  let len := inner.outbuf.len
  let len := match inner.serverCloseReq with
    | some request => min len request.pos
    | none => len
  match inner.ourCloseReq with
  | some request => min len request.pos
  | none => len

/-- The `WouldBlock` branch: move the server's close offset back by what was written, and drain
it from the front. -/
def afterBlocked (inner : Inner) (pos : Nat) : Except String Inner :=
  let adjusted : Except String (Option CloseRequest) :=
    match inner.serverCloseReq with
    | some request =>
      if pos ≤ request.pos then .ok (some { request with pos := request.pos - pos })
      else .error "attempt to subtract with overflow"
    | none => .ok none
  match adjusted with
  | .error message => .error message
  | .ok serverCloseReq =>
    match inner.outbuf.drainWritten pos with
    | some outbuf => .ok { inner with serverCloseReq, outbuf }
    | none => .error "range end index out of range for slice"

/-- After `len` bytes went out: the server's close ends the loop, the client's close moves the
state to `Closing`, and the buffer is cleared. -/
def afterCompleted (inner : Inner) (state : ConnectionState) (len : Nat) :
    Inner × ConnectionState × Outcome :=
  match inner.closesAt .server len with
  | some close => (inner, state, .fail (.serverClosedConnection close.replyCode close.replyText))
  | none =>
    let state := match inner.closesAt .client len with
      | some close => .closing close
      | none => state
    ({ inner with outbuf := inner.outbuf.clear }, state, .ok)

/-- `Inner::write_to_stream` — nothing once `Closing` but a clear, otherwise the write loop and
the bookkeeping of how it ended. -/
def writeToStream (inner : Inner) (state : ConnectionState) (stream : Socket)
    (responses : List Response) : Option (Inner × ConnectionState × Socket × Outcome) :=
  if state.isClosing then some ({ inner with outbuf := inner.outbuf.clear }, state, stream, .ok)
  else
    let len := inner.writeLength
    (writeLoop inner.outbuf len 0 responses).map fun run =>
      let inner :=
        if run.wrote then { inner with heartbeats := inner.heartbeats.recordTxActivity } else inner
      let stream := { stream with sent := stream.sent ++ run.accepted }
      match run.finish with
      | .panicked message => (inner, state, stream, .panic message)
      | .failed error => (inner, state, stream, .err (.ofIo .io error))
      | .blocked pos =>
        match inner.afterBlocked pos with
        | .error message => (inner, state, stream, .panic message)
        | .ok inner => (inner, state, { stream with writable := true }, .ok)
      | .completed _ =>
        let (inner, state, outcome) := inner.afterCompleted state len
        (inner, state, stream, outcome)

end Inner

end Amiquip
