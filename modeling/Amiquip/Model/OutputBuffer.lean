import Amiquip.Model.Errors

/-!
# The output buffer

`serialize::OutputBuffer` is not in the source; the spec describes it as an append-only staging
buffer of serialized frames, truncated from the front after a partial write and cleared after a
full one. It is modelled as exactly that: the frames pushed so far, each with its bytes, and how
many bytes have left the front. The queued bytes are the pushed bytes after that offset, so a
push appends a frame and a drain or a clear moves the offset. No code reads the frames pushed;
they are the history against which the write path's properties are stated, and the bytes the
loop reads are a function of them.
-/

namespace Amiquip

/-- Modelled from the spec: the serializer behind `OutputBuffer::push_method` and
`push_heartbeat`. Encoding a method can fail (`InternalSerializationError`); every frame carries
at least its header, so no frame is empty. -/
structure Serializer where
  /-- The bytes of a method frame on a channel, absent when encoding fails. -/
  method : UInt16 → AMQPMethod → Option (List UInt8)
  /-- The canonical heartbeat frame for channel 0. -/
  heartbeat : List UInt8
  method_ne_nil : ∀ channel frame bytes, method channel frame = some bytes → bytes ≠ []
  heartbeat_ne_nil : heartbeat ≠ []

/-- The bytes of pushed frames, in push order. -/
def frameBytes (frames : List (OutFrame × List UInt8)) : List UInt8 :=
  frames.flatMap Prod.snd

/-- No frame pushed, no byte. -/
@[simp] theorem frameBytes_nil : frameBytes [] = [] := rfl

/-- The bytes of two runs of frames are those of the first, then those of the second. -/
@[simp] theorem frameBytes_append (frames more : List (OutFrame × List UInt8)) :
    frameBytes (frames ++ more) = frameBytes frames ++ frameBytes more :=
  List.flatMap_append _ _ _

/-- The bytes of a frame come before those of the frames after it. -/
@[simp] theorem frameBytes_cons (frame : OutFrame) (bytes : List UInt8)
    (frames : List (OutFrame × List UInt8)) :
    frameBytes ((frame, bytes) :: frames) = bytes ++ frameBytes frames := rfl

/-- Modelled from the spec: `serialize::OutputBuffer`, as its push history and the number of
bytes gone from its front. -/
structure OutputBuffer where
  /-- Every frame pushed, oldest first, with its bytes. -/
  frames : List (OutFrame × List UInt8)
  /-- Bytes drained or cleared from the front. -/
  start : Nat
  start_le : start ≤ (frameBytes frames).length
  deriving DecidableEq

namespace OutputBuffer

/-- Every byte ever pushed, those already gone included. -/
def pushed (buffer : OutputBuffer) : List UInt8 := frameBytes buffer.frames

/-- The queued bytes. -/
def bytes (buffer : OutputBuffer) : List UInt8 := buffer.pushed.drop buffer.start

/-- `OutputBuffer::len`. -/
def len (buffer : OutputBuffer) : Nat := buffer.bytes.length

/-- `OutputBuffer::is_empty`. -/
def isEmpty (buffer : OutputBuffer) : Bool := buffer.len == 0

/-- `OutputBuffer::new`. -/
def new : OutputBuffer := ⟨[], 0, Nat.le_refl 0⟩

/-- Append one frame with its bytes. -/
def push (buffer : OutputBuffer) (frame : OutFrame) (bytes : List UInt8) : OutputBuffer :=
  ⟨buffer.frames ++ [(frame, bytes)], buffer.start, by
    simpa using Nat.le_add_right_of_le buffer.start_le⟩

/-- `OutputBuffer::push_method` — serialize one method frame and append it. -/
def pushMethod (serializer : Serializer) (buffer : OutputBuffer) (channel : UInt16)
    (method : AMQPMethod) : Except ArcError OutputBuffer :=
  match serializer.method channel method with
  | some bytes => .ok (buffer.push (.method channel method) bytes)
  | none => .error (.ofKind .internalSerializationError)

/-- `OutputBuffer::push_heartbeat`. -/
def pushHeartbeat (serializer : Serializer) (buffer : OutputBuffer) : OutputBuffer :=
  buffer.push .heartbeat serializer.heartbeat

/-- `&outbuf[pos..]`, absent where the slice's start is out of range and indexing panics. -/
def sliceFrom (buffer : OutputBuffer) (pos : Nat) : Option (List UInt8) :=
  if pos ≤ buffer.len then some (buffer.bytes.drop pos) else none

/-- `OutputBuffer::drain_written(n)` — drop `n` bytes from the front; absent where `n` exceeds
the length and the drain panics. -/
def drainWritten (buffer : OutputBuffer) (n : Nat) : Option OutputBuffer :=
  if fits : n ≤ buffer.len then
    some ⟨buffer.frames, buffer.start + n, by
      have := buffer.start_le
      simp only [len, bytes, pushed, List.length_drop] at fits
      omega⟩
  else none

/-- `OutputBuffer::clear`. -/
def clear (buffer : OutputBuffer) : OutputBuffer := ⟨buffer.frames, buffer.pushed.length, le_rfl⟩

variable (buffer : OutputBuffer) (frame : OutFrame) (more : List UInt8)

/-- The queued bytes are the pushed bytes past the start. -/
theorem len_eq : buffer.len = buffer.pushed.length - buffer.start := List.length_drop _ _

/-- The start never passes the pushed bytes. -/
theorem start_le_pushed : buffer.start ≤ buffer.pushed.length := buffer.start_le

/-- The front and what is queued behind it make up everything pushed. -/
theorem start_add_len : buffer.start + buffer.len = buffer.pushed.length := by
  rw [len_eq]
  have := buffer.start_le_pushed
  omega

/-- A push appends its bytes to the pushed bytes. -/
@[simp] theorem pushed_push : (buffer.push frame more).pushed = buffer.pushed ++ more := by
  simp [push, pushed]

/-- A push appends its frame to the push log. -/
@[simp] theorem frames_push : (buffer.push frame more).frames = buffer.frames ++ [(frame, more)] :=
  rfl

/-- A push leaves the start where it was. -/
@[simp] theorem start_push : (buffer.push frame more).start = buffer.start := rfl

/-- A push appends its bytes to the queued bytes. -/
@[simp] theorem bytes_push : (buffer.push frame more).bytes = buffer.bytes ++ more := by
  simp [bytes, List.drop_append_of_le_length buffer.start_le_pushed]

/-- A push lengthens the buffer by its bytes. -/
@[simp] theorem len_push : (buffer.push frame more).len = buffer.len + more.length := by
  simp [len]

/-- Clearing keeps the push log. -/
@[simp] theorem frames_clear : buffer.clear.frames = buffer.frames := rfl

/-- Clearing moves the start past every pushed byte. -/
@[simp] theorem start_clear : buffer.clear.start = buffer.pushed.length := rfl

/-- Clearing keeps every pushed byte. -/
@[simp] theorem pushed_clear : buffer.clear.pushed = buffer.pushed := rfl

/-- A cleared buffer is empty. -/
@[simp] theorem len_clear : buffer.clear.len = 0 := by simp [len_eq]

/-- A new buffer has nothing pushed. -/
@[simp] theorem pushed_new : new.pushed = [] := rfl

/-- A new buffer is empty. -/
@[simp] theorem len_new : new.len = 0 := rfl

/-- `is_empty` is a length of zero. -/
@[simp] theorem isEmpty_iff : buffer.isEmpty = true ↔ buffer.len = 0 := by simp [isEmpty]

/-- A heartbeat frame leaves the buffer non-empty. -/
@[simp] theorem isEmpty_pushHeartbeat (serializer : Serializer) :
    (buffer.pushHeartbeat serializer).isEmpty = false := by
  simp [isEmpty, pushHeartbeat, serializer.heartbeat_ne_nil]

/-- A push succeeds exactly when the frame serializes, and then appends it. -/
theorem pushMethod_eq_ok {serializer : Serializer} {channel : UInt16} {method : AMQPMethod}
    {result : OutputBuffer} :
    buffer.pushMethod serializer channel method = .ok result ↔
      ∃ bytes, serializer.method channel method = some bytes ∧
        result = buffer.push (.method channel method) bytes := by
  cases encoded : serializer.method channel method <;> simp [pushMethod, encoded, eq_comm]

/-- A failed push fails with `InternalSerializationError` and nothing else. -/
theorem pushMethod_eq_error {serializer : Serializer} {channel : UInt16} {method : AMQPMethod}
    {error : ArcError} :
    buffer.pushMethod serializer channel method = .error error ↔
      serializer.method channel method = none ∧ error = .ofKind .internalSerializationError := by
  cases encoded : serializer.method channel method <;> simp [pushMethod, encoded, eq_comm]

/-- A drain succeeds exactly within the length, and then moves the front by `n`. -/
theorem drainWritten_eq_some {n : Nat} {result : OutputBuffer} :
    buffer.drainWritten n = some result ↔
      n ≤ buffer.len ∧ result.frames = buffer.frames ∧ result.start = buffer.start + n := by
  unfold drainWritten
  split
  · constructor
    · rintro ⟨⟩; exact ⟨‹_›, rfl, rfl⟩
    · rintro ⟨-, frames, start⟩
      cases result
      simp_all
  · simp_all

end OutputBuffer

end Amiquip
