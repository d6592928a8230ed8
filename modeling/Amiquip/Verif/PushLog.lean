import Amiquip.Model.EventLoop

/-!
# Reading the push log

The frames pushed to the output buffer, in order, are where the write path's properties are
stated: the bytes the loop has committed to send, and where in them the close-ok owed to the
server and the client's own close end. `firstEndWhere` finds the end offset of the first frame
with a property; appending frames leaves a found offset alone and otherwise looks in what was
appended, shifted by what came before.
-/

namespace Amiquip

/-- The request a pushed frame finishes the connection for: a close-ok answers the server's
close, a close is the client's own. -/
def OutFrame.closeSide : OutFrame → Option CloseSide
  | .method _ .closeOk => some .server
  | .method _ (.close _) => some .client
  | _ => none

/-- The method each side's request pushes. -/
def CloseSide.method (close : Close) : CloseSide → AMQPMethod
  | .server => .closeOk
  | .client => .close close

/-- The close method of a side is that side's close frame. -/
@[simp] theorem CloseSide.closeSide_method (side : CloseSide) (close : Close) (channel : UInt16) :
    (OutFrame.method channel (side.method close)).closeSide = some side := by
  cases side <;> rfl

namespace PushLog

/-- The end offset, in the bytes of `frames`, of the first frame satisfying `holds`. -/
def firstEndWhere (holds : OutFrame → Bool) : List (OutFrame × List UInt8) → Option Nat
  | [] => none
  | (frame, bytes) :: later =>
    if holds frame then some bytes.length
    else (firstEndWhere holds later).map (bytes.length + ·)

/-- The end offset of the first frame that finishes the connection for `side`. -/
def firstEnd (side : CloseSide) (frames : List (OutFrame × List UInt8)) : Option Nat :=
  firstEndWhere (fun frame => frame.closeSide = some side) frames

/-- How many pushed frames finish the connection for `side`. -/
def closeCount (side : CloseSide) (frames : List (OutFrame × List UInt8)) : Nat :=
  frames.countP fun entry => entry.1.closeSide = some side

variable {holds : OutFrame → Bool}

/-- The first end in two runs of frames is the first run's, or else one in the second, offset. -/
theorem firstEndWhere_append (frames more : List (OutFrame × List UInt8)) :
    firstEndWhere holds (frames ++ more) =
      (firstEndWhere holds frames).or
        ((firstEndWhere holds more).map ((frameBytes frames).length + ·)) := by
  induction frames with
  | nil => simp [firstEndWhere, Option.map_id']
  | cons entry frames ih =>
    obtain ⟨frame, bytes⟩ := entry
    cases found : holds frame
    · rw [List.cons_append]
      simp only [firstEndWhere, found]
      rw [ih]
      cases firstEndWhere holds frames <;> simp [Option.map_map, Function.comp_def, Nat.add_assoc]
    · simp [firstEndWhere, found]

/-- Appending frames none of which satisfies `holds` finds nothing new. -/
theorem firstEndWhere_append_none {frames more : List (OutFrame × List UInt8)}
    (none : ∀ entry ∈ more, holds entry.1 = false) :
    firstEndWhere holds (frames ++ more) = firstEndWhere holds frames := by
  have nothing : firstEndWhere holds more = .none := by
    induction more with
    | nil => rfl
    | cons entry more ih =>
      simp only [List.mem_cons, forall_eq_or_imp] at none
      simp [firstEndWhere, none.1, ih none.2]
  rw [firstEndWhere_append, nothing]
  cases firstEndWhere holds frames <;> rfl

/-- A found end lies inside the bytes pushed, after at least the found frame's bytes. -/
theorem firstEndWhere_le {frames : List (OutFrame × List UInt8)} {offset : Nat}
    (found : firstEndWhere holds frames = some offset) :
    offset ≤ (frameBytes frames).length ∧
      ∃ entry ∈ frames, holds entry.1 ∧ entry.2.length ≤ offset := by
  induction frames generalizing offset with
  | nil => cases found
  | cons entry frames ih =>
    obtain ⟨frame, bytes⟩ := entry
    unfold firstEndWhere at found
    split at found
    · cases found
      exact ⟨by simp, ⟨frame, bytes⟩, by simp, by simpa, le_rfl⟩
    · obtain ⟨inner, innerFound, rfl⟩ := Option.map_eq_some'.mp found
      obtain ⟨within, entry, member, holdsEntry, shorter⟩ := ih innerFound
      exact ⟨by simp; omega, entry, by simp [member], holdsEntry, by omega⟩

/-- Some frame satisfies `holds` exactly when a first end is found. -/
theorem firstEndWhere_isSome {frames : List (OutFrame × List UInt8)} :
    (firstEndWhere holds frames).isSome ↔ 0 < frames.countP fun entry => holds entry.1 := by
  induction frames with
  | nil => simp [firstEndWhere]
  | cons entry frames ih =>
    obtain ⟨frame, bytes⟩ := entry
    by_cases found : holds frame <;> simp [firstEndWhere, found, ih, List.countP_cons]

/-- The end offset of the first close-ok or close pushed. -/
def firstCloseEnd (frames : List (OutFrame × List UInt8)) : Option Nat :=
  firstEndWhere (fun frame => frame.closeSide.isSome) frames

/-- Whose request the first close-ok or close pushed finishes. -/
def firstCloser (frames : List (OutFrame × List UInt8)) : Option CloseSide :=
  frames.findSome? fun entry => entry.1.closeSide

variable {side : CloseSide}

/-- Close frames of two runs of frames add up. -/
@[simp] theorem closeCount_append (frames more : List (OutFrame × List UInt8)) :
    closeCount side (frames ++ more) = closeCount side frames + closeCount side more := by
  simp [closeCount]

/-- Frames that finish nothing for `side` leave its first end alone. -/
theorem firstEnd_append_of_none {frames more : List (OutFrame × List UInt8)}
    (none : ∀ entry ∈ more, entry.1.closeSide ≠ some side) :
    firstEnd side (frames ++ more) = firstEnd side frames :=
  firstEndWhere_append_none fun entry member => by simpa using none entry member

/-- A first end already found stays where it is whatever is pushed behind it. -/
theorem firstEnd_append_of_some {frames : List (OutFrame × List UInt8)} {offset : Nat}
    (found : firstEnd side frames = some offset) (more : List (OutFrame × List UInt8)) :
    firstEnd side (frames ++ more) = some offset := by
  unfold firstEnd at found ⊢
  rw [firstEndWhere_append, found]
  rfl

/-- A first end for `side` is found exactly when a frame finishing it was pushed. -/
theorem firstEnd_isSome {frames : List (OutFrame × List UInt8)} :
    (firstEnd side frames).isSome ↔ 0 < closeCount side frames :=
  firstEndWhere_isSome

/-- Pushing one frame for `side` onto a log with none finds it at the end of the pushed bytes. -/
theorem firstEnd_append_single {frames : List (OutFrame × List UInt8)} {frame : OutFrame}
    {bytes : List UInt8} (none : closeCount side frames = 0)
    (finishes : frame.closeSide = some side) :
    firstEnd side (frames ++ [(frame, bytes)]) =
      some ((frameBytes frames).length + bytes.length) := by
  have nothing : firstEnd side frames = Option.none := by
    cases found : firstEnd side frames with
    | none => rfl
    | some _ => have := (@firstEnd_isSome side frames).mp (by simp [found]); omega
  unfold firstEnd at nothing ⊢
  rw [firstEndWhere_append, nothing]
  simp [firstEndWhere, finishes]

/-- The side whose frame came first ends no later than the other side's first frame. -/
theorem firstEnd_le_of_firstCloser {frames : List (OutFrame × List UInt8)} {other : CloseSide}
    {first later : Nat} (firstOf : firstCloser frames = some side)
    (ends : firstEnd side frames = some first) (otherEnds : firstEnd other frames = some later) :
    first ≤ later := by
  induction frames generalizing first later with
  | nil => cases firstOf
  | cons entry frames ih =>
    obtain ⟨frame, bytes⟩ := entry
    cases closes : frame.closeSide with
    | none =>
      simp only [firstCloser, List.findSome?_cons, closes] at firstOf
      simp only [firstEnd, firstEndWhere, closes, reduceCtorEq, decide_False, Bool.false_eq_true,
        if_false] at ends otherEnds
      obtain ⟨first', ends', rfl⟩ := Option.map_eq_some'.mp ends
      obtain ⟨later', otherEnds', rfl⟩ := Option.map_eq_some'.mp otherEnds
      exact Nat.add_le_add_left (ih firstOf ends' otherEnds') _
    | some closer =>
      simp only [firstCloser, List.findSome?_cons, closes, Option.some.injEq] at firstOf
      subst firstOf
      simp only [firstEnd, firstEndWhere, closes, decide_True, if_true, Option.some.injEq] at ends
      subst ends
      unfold firstEnd firstEndWhere at otherEnds
      split at otherEnds
      · cases otherEnds; exact le_rfl
      · obtain ⟨later', -, rfl⟩ := Option.map_eq_some'.mp otherEnds
        exact Nat.le_add_right _ _

/-- With no empty frame, the side whose frame came first ends strictly before the other side's
first frame. -/
theorem firstEnd_lt_of_firstCloser {frames : List (OutFrame × List UInt8)} {other : CloseSide}
    (whole : ∀ entry ∈ frames, entry.2 ≠ []) (apart : other ≠ side) {first later : Nat}
    (firstOf : firstCloser frames = some side)
    (ends : firstEnd side frames = some first) (otherEnds : firstEnd other frames = some later) :
    first < later := by
  induction frames generalizing first later with
  | nil => cases firstOf
  | cons entry frames ih =>
    obtain ⟨frame, bytes⟩ := entry
    cases closes : frame.closeSide with
    | none =>
      simp only [firstCloser, List.findSome?_cons, closes] at firstOf
      simp only [firstEnd, firstEndWhere, closes, reduceCtorEq, decide_False, Bool.false_eq_true,
        if_false] at ends otherEnds
      obtain ⟨first', ends', rfl⟩ := Option.map_eq_some'.mp ends
      obtain ⟨later', otherEnds', rfl⟩ := Option.map_eq_some'.mp otherEnds
      exact Nat.add_lt_add_left
        (ih (fun entry member => whole entry (.tail _ member)) firstOf ends' otherEnds') _
    | some closer =>
      simp only [firstCloser, List.findSome?_cons, closes, Option.some.injEq] at firstOf
      subst firstOf
      simp only [firstEnd, firstEndWhere, closes, decide_True, if_true, Option.some.injEq] at ends
      subst ends
      simp only [firstEnd, firstEndWhere, closes, Option.some.injEq, apart.symm, decide_False,
        Bool.false_eq_true, if_false] at otherEnds
      obtain ⟨later', found, rfl⟩ := Option.map_eq_some'.mp otherEnds
      obtain ⟨-, ⟨frame', bytes'⟩, member, -, within⟩ := firstEndWhere_le found
      have := List.length_pos.mpr (whole _ (.tail _ member))
      simp only at this within
      omega

/-- The close a pushed close frame of the client carries. -/
def closeCarried : OutFrame → Option Close
  | .method _ (.close close) => some close
  | _ => none

/-- The close carried by the first close frame of the client pushed. -/
def firstClientClose (frames : List (OutFrame × List UInt8)) : Option Close :=
  frames.findSome? fun entry => closeCarried entry.1

/-- The first client close of two runs of frames is the first run's, or else the second's. -/
theorem firstClientClose_append (frames more : List (OutFrame × List UInt8)) :
    firstClientClose (frames ++ more) = (firstClientClose frames).or (firstClientClose more) :=
  List.findSome?_append

/-- Frames that are no close of the client carry no close. -/
theorem firstClientClose_eq_none {frames : List (OutFrame × List UInt8)}
    (none : ∀ entry ∈ frames, entry.1.closeSide ≠ some .client) :
    firstClientClose frames = Option.none :=
  List.findSome?_eq_none_iff.mpr fun ⟨frame, _⟩ member => by
    have := none _ member
    cases frame with
    | method channel method => cases method <;> first | rfl | exact absurd rfl this
    | heartbeat => rfl

/-- A log without a close of the client carries none. -/
theorem firstClientClose_of_closeCount {frames : List (OutFrame × List UInt8)}
    (none : closeCount .client frames = 0) : firstClientClose frames = Option.none :=
  firstClientClose_eq_none fun entry member => by
    simpa using List.countP_eq_zero.mp none entry member

/-- The close of a channel-0 connection.close frame. -/
def closeOf : AMQPFrame → Option Close
  | .method 0 (.connection (.close close)) => some close
  | _ => none

/-- The close of the first channel-0 connection.close among frames received. -/
def firstClose (frames : List AMQPFrame) : Option Close :=
  frames.findSome? closeOf

/-- The first close received in two runs of frames is the first run's, or else the second's. -/
theorem firstClose_append (frames more : List AMQPFrame) :
    firstClose (frames ++ more) = (firstClose frames).or (firstClose more) :=
  List.findSome?_append

/-- A connection close frame carries its close. -/
@[simp] theorem closeOf_connectionFrame_close (close : Close) :
    closeOf (connectionFrame (.close close)) = some close := rfl

/-- A frame that is not a channel-0 close carries no close. -/
theorem closeOf_eq_none {frame : AMQPFrame}
    (notClose : ∀ close, frame ≠ connectionFrame (.close close)) : closeOf frame = none := by
  unfold closeOf
  split
  · exact absurd rfl (notClose _)
  · rfl

end PushLog

end Amiquip
