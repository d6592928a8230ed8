import Amiquip.Model.Inner

/-!
# The handshake state machine

`event_loop::ConnectionState` and its `process`, the reaction to every frame the read path
does not filter out. The handshake runs `Start`, `Secure`, `Tune`, `Open`, `Steady` on
channel-0 methods; `Closing` is entered by the write path once the client's own close has gone
out. On an error the state and the context keep whatever the branch had changed before it, as
`&mut` borrows do in the source: a tune frame whose `tune-ok` cannot be built leaves the state at
`Tune`. `Secure` hands a tune frame to the `Tune` branch, which is `processTune`.
-/

namespace Amiquip

/-- `event_loop::ConnectionState`. -/
inductive ConnectionState where
  | start
  | secure
  | tune
  | open'
  | steady
  | closing (close : Close)
  deriving DecidableEq, Repr

/-- `AMQPHardError::NOTIMPLEMENTED.get_id()`, the protocol's reply code 540. -/
def notImplemented : UInt16 := 540

/-- `format!("do not know how to handle frame {:?}", other)`, with Lean's rendering of the
frame standing for Rust's `Debug`. -/
def unknownFrameText (frame : AMQPFrame) : String :=
  "do not know how to handle frame " ++ reprStr frame

/-- The close the client sends for a frame it does not handle in `Steady`. -/
def unknownFrameClose (frame : AMQPFrame) : Close :=
  ⟨notImplemented, unknownFrameText frame, 0, 0⟩

namespace ConnectionState

variable (serializer : Serializer) (options : ConnectionOptions)

/-- `ConnectionState::is_closing`. -/
def isClosing : ConnectionState → Bool
  | closing _ => true
  | _ => false

/-- The `Tune` branch of `ConnectionState::process`: negotiate, start the heartbeats, queue
tune-ok and open. -/
def processTune (inner : Inner) : AMQPFrame → ConnectionState × Inner × Outcome
  | .method 0 (.connection (.tune proposal)) =>
    match options.makeTuneOk proposal with
    | .error error => (.tune, inner, .err error)
    | .ok tuneOk =>
      match inner.startHeartbeats tuneOk.heartbeat with
      | .error message => (.tune, inner, .panic message)
      | .ok inner =>
        match inner.pushMethod serializer 0 (.tuneOk tuneOk) with
        | .error error => (.tune, inner, .err error)
        | .ok inner =>
          match inner.pushMethod serializer 0 (.open' options.makeOpen) with
          | .error error => (.tune, inner, .err error)
          | .ok inner => (.open', inner, .ok)
  | frame => (.tune, inner, .fail (.handshakeWrongServerFrame "tune" frame))

/-- `ConnectionState::process` — react to one frame. -/
def process : ConnectionState → Inner → AMQPFrame → ConnectionState × Inner × Outcome
  | start, inner, .method 0 (.connection (.start offer)) =>
    match options.makeStartOk offer with
    | .error error => (.start, inner, .err error)
    | .ok startOk =>
      match inner.pushMethod serializer 0 (.startOk startOk) with
      | .error error => (.start, inner, .err error)
      | .ok inner => (.secure, inner, .ok)
  | start, inner, frame => (.start, inner, .fail (.handshakeWrongServerFrame "start" frame))
  | secure, inner, .method 0 (.connection (.secure _)) =>
    (.secure, inner, .fail .saslSecureNotSupported)
  | secure, inner, frame@(.method 0 (.connection (.tune _))) =>
    processTune serializer options inner frame
  | secure, inner, frame =>
    (.secure, inner, .fail (.handshakeWrongServerFrame "secure or tune" frame))
  | tune, inner, frame => processTune serializer options inner frame
  | open', inner, .method 0 (.connection .openOk) => (.steady, inner, .ok)
  | open', inner, .method 0 (.connection (.close close)) =>
    match inner.setServerCloseReq serializer close with
    | .error error => (.open', inner, .err error)
    | .ok inner => (.open', inner, .ok)
  | open', inner, frame => (.open', inner, .fail (.handshakeWrongServerFrame "open-ok" frame))
  | closing close, inner, .method 0 (.connection .closeOk) =>
    (.closing close, inner, .fail (.clientClosedConnection close.replyCode close.replyText))
  | closing close, inner, _ => (.closing close, inner, .ok)
  | steady, inner, .method 0 (.connection (.close close)) =>
    match inner.setServerCloseReq serializer close with
    | .error error => (.steady, inner, .err error)
    | .ok inner => (.steady, inner, .ok)
  | steady, inner, other =>
    match inner.setOurCloseReq serializer (unknownFrameClose other) with
    | .error error => (.steady, inner, .err error)
    | .ok inner => (.steady, inner, .ok)

end ConnectionState

end Amiquip
