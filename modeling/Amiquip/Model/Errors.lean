import Amiquip.Model.Protocol

/-!
# Errors of the loop

`errors.rs` in full as far as the loop builds and inspects errors: every `ErrorKind`, and an
`ArcError` as the context it wraps, which is a kind with an optional cause. An error made from a
kind alone (`From<ErrorKind>`) has no cause; `io::Error::context` gives the kind an I/O error as
its cause, and `ArcError::context` an earlier error. `kind()` reads the outermost kind. The
display texts of the kinds are read by no modelled function and are left out. `Outcome` is how a
call of the loop ends: `Ok(())`, an `Err` propagated by `?`, or a panic with its message.
-/

namespace Amiquip

/-- `std::io::ErrorKind`, with the one kind the write loop tells apart. -/
inductive IoErrorKind where
  | wouldBlock
  | other (code : Nat)
  deriving DecidableEq, Repr

/-- `std::io::Error` as the loop reads it, through `kind()`. -/
structure IoError where
  kind : IoErrorKind
  deriving DecidableEq, Repr

/-- `errors::ErrorKind`. -/
inductive ErrorKind where
  | unexpectedSocketClose
  | receivedMalformed
  | io
  | unsupportedAuthMechanism (available : String)
  | unsupportedLocale (available : String)
  | frameMaxTooSmall (min : UInt32)
  | socketPollTimeout
  | internalSerializationError
  | saslSecureNotSupported
  | invalidCredentials
  | handshakeUnexpectedServerFrame (frame : AMQPFrame)
  | handshakeWrongServerFrame (expected : String) (frame : AMQPFrame)
  | missedServerHeartbeats
  | serverClosedConnection (code : UInt16) (text : String)
  | clientClosedConnection (code : UInt16) (text : String)
  | eventLoopClientDropped
  | eventLoopDropped
  | nonexhaustive
  deriving DecidableEq, Repr

/-- `errors::ArcError` — the `failure::Context<ErrorKind>` it shares, a kind over its cause. -/
inductive ArcError where
  /-- `From<ErrorKind> for ArcError`: a kind with no cause. -/
  | ofKind (kind : ErrorKind)
  /-- `io::Error::context(kind)`, converted by `From<Context<ErrorKind>>`. -/
  | ofIo (kind : ErrorKind) (cause : IoError)
  /-- `ArcError::context(kind)`, converted by `From<Context<ErrorKind>>`. -/
  | chain (kind : ErrorKind) (cause : ArcError)
  deriving DecidableEq, Repr

namespace ArcError

/-- `ArcError::kind` — the kind of the outermost context. -/
def kind : ArcError → ErrorKind
  | ofKind kind | ofIo kind _ | chain kind _ => kind

/-- `Fail::cause` for a cause that is itself an `ArcError`. -/
def causeError : ArcError → Option ArcError
  | chain _ cause => some cause
  | _ => none

/-- No error is its own cause: contexts nest strictly. -/
theorem chain_ne (kind : ErrorKind) (error : ArcError) : chain kind error ≠ error := by
  intro same
  have sizes := congrArg sizeOf same
  simp only [chain.sizeOf_spec] at sizes
  omega

/-- No error is recorded as its own cause. -/
theorem causeError_ne_self (error : ArcError) : error.causeError ≠ some error := by
  cases error with
  | chain kind cause => exact fun same => chain_ne kind cause (Option.some.inj same).symm
  | ofKind | ofIo => nofun

end ArcError

/-- How one call of the loop ends: `Ok(())`, an error returned through `?`, or a panic. -/
inductive Outcome where
  | ok
  | err (error : ArcError)
  | panic (message : String)
  deriving DecidableEq, Repr

/-- `Err(ErrorKind::...)?` — an error made from a kind alone. -/
def Outcome.fail (kind : ErrorKind) : Outcome := .err (.ofKind kind)

end Amiquip
