import Mathlib.Data.List.Basic

/-!
# Frames of the connection class

The wire vocabulary of the event loop, as the `amq_protocol` crate gives it: a frame, the class
of a method frame, and the methods of the connection class with the fields that the loop or its
collaborators read. Every other class is one constructor holding its class and method ids, which
is all the loop inspects of it; content headers and bodies keep only their channel. How a frame
becomes bytes is the serializer's business (`Amiquip.Serializer`), not this module's.
-/

namespace Amiquip

/-- `connection.start` — the server's mechanisms and locales, each list space-separated. -/
structure Start where
  mechanisms : String
  locales : String
  deriving DecidableEq, Repr

/-- `connection.start-ok` — the chosen mechanism, its response and the chosen locale. -/
structure StartOk where
  mechanism : String
  response : String
  locale : String
  deriving DecidableEq, Repr

/-- `connection.tune` — the server's channel-max, frame-max and heartbeat proposals. -/
structure Tune where
  channelMax : UInt16
  frameMax : UInt32
  heartbeat : UInt16
  deriving DecidableEq, Repr

/-- `connection.tune-ok` — the negotiated values; `heartbeat` is in seconds, `0` disables it. -/
structure TuneOk where
  channelMax : UInt16
  frameMax : UInt32
  heartbeat : UInt16
  deriving DecidableEq, Repr

/-- `connection.close` — the reply code and text, and the method that caused the close. -/
structure Close where
  replyCode : UInt16
  replyText : String
  classId : UInt16
  methodId : UInt16
  deriving DecidableEq, Repr

/-- `amq_protocol::protocol::connection::AMQPMethod` — the methods of the connection class. -/
inductive AMQPMethod where
  | start (start : Start)
  | startOk (startOk : StartOk)
  | secure (challenge : String)
  | secureOk (response : String)
  | tune (tune : Tune)
  | tuneOk (tuneOk : TuneOk)
  | open' (virtualHost : String)
  | openOk
  | close (close : Close)
  | closeOk
  deriving DecidableEq, Repr

/-- `amq_protocol::protocol::AMQPClass` — the connection class, or any other class by its ids. -/
inductive AMQPClass where
  | connection (method : AMQPMethod)
  | other (classId methodId : UInt16)
  deriving DecidableEq, Repr

/-- `amq_protocol::frame::AMQPFrame` — one decoded frame and the channel it travels on. -/
inductive AMQPFrame where
  | protocolHeader
  | method (channel : UInt16) (cls : AMQPClass)
  | header (channel : UInt16)
  | body (channel : UInt16)
  | heartbeat (channel : UInt16)
  deriving DecidableEq, Repr

/-- A connection-class method on channel 0, the only place the handshake accepts one. -/
def connectionFrame (method : AMQPMethod) : AMQPFrame :=
  .method 0 (.connection method)

/-- What the loop appends to its output buffer: a method frame on a channel, or a heartbeat. -/
inductive OutFrame where
  | method (channel : UInt16) (method : AMQPMethod)
  | heartbeat
  deriving DecidableEq, Repr

end Amiquip
