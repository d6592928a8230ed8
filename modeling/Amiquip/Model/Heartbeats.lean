import Amiquip.Model.Errors

/-!
# Heartbeat timers

`event_loop::HeartbeatTimers` over the two collaborators it drives, neither of which is in the
source: the heartbeat records of `heartbeats.rs` and the timer wheel of `mio_extras`. Following
the spec, a heartbeat knows its interval and whether activity has been recorded since it last
fired; firing with activity reports `StillRunning` and reschedules, firing without reports
`Expired`. The timer is kept as the tags it has been given timeouts for: which of them is due at
a poll depends on time, which the model leaves to the environment. The assertion of `start` and
the `expect`s of `fire_rx` and `fire_tx` are modelled as failures carrying their panic messages.
-/

namespace Amiquip

/-- `MAX_MISSED_SERVER_HEARTBEATS`. -/
def maxMissedServerHeartbeats : Nat := 2

/-- `event_loop::HeartbeatKind` — the tag of a timeout on the shared timer. -/
inductive HeartbeatKind where
  | rx
  | tx
  deriving DecidableEq, Repr

/-- `heartbeats::HeartbeatState` — what one firing reports. -/
inductive HeartbeatState where
  | stillRunning
  | expired
  deriving DecidableEq, Repr

/-- Modelled from the spec: the timer wheel `Timer<HeartbeatKind>`, as the tags of the timeouts
set on it. -/
structure Timer where
  tags : List HeartbeatKind
  deriving DecidableEq, Repr

/-- Modelled from the spec: `heartbeats::Heartbeat` — its tag, its interval in seconds, and
whether activity has been recorded since it last fired. -/
structure Heartbeat where
  kind : HeartbeatKind
  interval : Nat
  active : Bool
  deriving DecidableEq, Repr

namespace Heartbeat

/-- Modelled from the spec: `Heartbeat::start` — a fresh record and its first timeout. -/
def start (kind : HeartbeatKind) (interval : Nat) (timer : Timer) : Heartbeat × Timer :=
  (⟨kind, interval, false⟩, ⟨timer.tags ++ [kind]⟩)

/-- Modelled from the spec: `Heartbeat::record_activity`. -/
def recordActivity (heartbeat : Heartbeat) : Heartbeat := { heartbeat with active := true }

/-- Modelled from the spec: `Heartbeat::fire` — `StillRunning` and rescheduled after activity,
`Expired` without. -/
def fire (heartbeat : Heartbeat) (timer : Timer) : HeartbeatState × Heartbeat × Timer :=
  if heartbeat.active then
    (.stillRunning, { heartbeat with active := false }, ⟨timer.tags ++ [heartbeat.kind]⟩)
  else (.expired, heartbeat, timer)

end Heartbeat

/-- `event_loop::HeartbeatTimers`. -/
structure HeartbeatTimers where
  timer : Timer
  rx : Option Heartbeat
  tx : Option Heartbeat
  deriving DecidableEq, Repr

namespace HeartbeatTimers

/-- `HeartbeatTimers::default` — no heartbeat started, nothing on the timer. -/
def default : HeartbeatTimers := ⟨⟨[]⟩, none, none⟩

/-- The heartbeat of one direction. -/
def get (timers : HeartbeatTimers) : HeartbeatKind → Option Heartbeat
  | .rx => timers.rx
  | .tx => timers.tx

/-- Replace the heartbeat of one direction. -/
def set (timers : HeartbeatTimers) (heartbeat : Option Heartbeat) : HeartbeatKind → HeartbeatTimers
  | .rx => { timers with rx := heartbeat }
  | .tx => { timers with tx := heartbeat }

/-- Record activity on one direction's heartbeat, if it runs. -/
def recordActivity (timers : HeartbeatTimers) (kind : HeartbeatKind) : HeartbeatTimers :=
  timers.set ((timers.get kind).map Heartbeat.recordActivity) kind

/-- `HeartbeatTimers::record_rx_activity`. -/
def recordRxActivity (timers : HeartbeatTimers) : HeartbeatTimers := timers.recordActivity .rx

/-- `HeartbeatTimers::record_tx_activity`. -/
def recordTxActivity (timers : HeartbeatTimers) : HeartbeatTimers := timers.recordActivity .tx

/-- `HeartbeatTimers::start` — both heartbeats at once, the receiving one allowing
`MAX_MISSED_SERVER_HEARTBEATS` intervals; the assertion fails once either runs. -/
def start (timers : HeartbeatTimers) (interval : Nat) : Except String HeartbeatTimers :=
  if timers.rx.isNone && timers.tx.isNone then
    let (rx, timer) := Heartbeat.start .rx (interval * maxMissedServerHeartbeats) timers.timer
    let (tx, timer) := Heartbeat.start .tx interval timer
    .ok ⟨timer, some rx, some tx⟩
  else .error "heartbeat timer started multiple times"

/-- Fire one direction's heartbeat; the `expect` fails with `message` when it never started. -/
def fire (timers : HeartbeatTimers) (kind : HeartbeatKind) (message : String) :
    Except String (HeartbeatState × HeartbeatTimers) :=
  match timers.get kind with
  | none => .error message
  | some heartbeat =>
    let (state, heartbeat, timer) := heartbeat.fire timers.timer
    .ok (state, { timers.set (some heartbeat) kind with timer })

/-- `HeartbeatTimers::fire_rx`. -/
def fireRx (timers : HeartbeatTimers) : Except String (HeartbeatState × HeartbeatTimers) :=
  timers.fire .rx "fire_rx called on empty rx heartbeat"

/-- `HeartbeatTimers::fire_tx`. -/
def fireTx (timers : HeartbeatTimers) : Except String (HeartbeatState × HeartbeatTimers) :=
  timers.fire .tx "fire_tx called on empty tx heartbeat"

variable (timers : HeartbeatTimers) (heartbeat : Option Heartbeat)

/-- The receiving heartbeat is the `rx` field. -/
@[simp] theorem get_rx : timers.get .rx = timers.rx := rfl

/-- The sending heartbeat is the `tx` field. -/
@[simp] theorem get_tx : timers.get .tx = timers.tx := rfl

/-- Replacing one direction's heartbeat leaves the other's alone. -/
@[simp] theorem get_set (kind other : HeartbeatKind) :
    (timers.set heartbeat kind).get other =
      if kind = other then heartbeat else timers.get other := by
  cases kind <;> cases other <;> rfl

/-- Replacing a heartbeat leaves the timer alone. -/
@[simp] theorem timer_set (kind : HeartbeatKind) :
    (timers.set heartbeat kind).timer = timers.timer := by
  cases kind <;> rfl

/-- Recording activity never starts or stops a heartbeat, nor touches the timer. -/
theorem recordActivity_isSome (kind other : HeartbeatKind) :
    ((timers.recordActivity kind).get other).isSome = (timers.get other).isSome ∧
      (timers.recordActivity kind).timer = timers.timer := by
  by_cases same : kind = other <;> simp [recordActivity, same]

/-- Recording activity keeps the interval of every heartbeat. -/
theorem recordActivity_interval (kind other : HeartbeatKind) :
    ((timers.recordActivity kind).get other).map Heartbeat.interval =
      (timers.get other).map Heartbeat.interval := by
  by_cases same : kind = other <;> simp [recordActivity, same, Option.map_map]
  rfl

/-- A firing keeps every heartbeat running that ran, and only adds timeouts to the timer. -/
theorem fire_spec {kind : HeartbeatKind} {message : String} {state : HeartbeatState}
    {after : HeartbeatTimers} (fired : timers.fire kind message = .ok (state, after)) :
    (after.rx.isSome = timers.rx.isSome ∧ after.tx.isSome = timers.tx.isSome) ∧
      ∃ added, after.timer.tags = timers.timer.tags ++ added := by
  unfold fire at fired
  split at fired
  · cases fired
  · rename_i heartbeat running
    simp only [Heartbeat.fire] at fired
    split at fired <;> cases fired <;> cases kind <;> simp_all [set]

/-- A firing keeps the interval of every heartbeat: only `start` sets one. -/
theorem fire_interval {kind : HeartbeatKind} {message : String} {state : HeartbeatState}
    {after : HeartbeatTimers} (fired : timers.fire kind message = .ok (state, after))
    (other : HeartbeatKind) :
    (after.get other).map Heartbeat.interval = (timers.get other).map Heartbeat.interval := by
  unfold fire at fired
  split at fired
  · cases fired
  · rename_i heartbeat running
    simp only [Heartbeat.fire] at fired
    split at fired <;> cases fired <;> cases kind <;> cases other <;> simp_all [set]

/-- A firing fails exactly when the direction never started, with the `expect`'s message. -/
theorem fire_eq_error {kind : HeartbeatKind} {message panic : String} :
    timers.fire kind message = .error panic ↔ timers.get kind = none ∧ panic = message := by
  cases running : timers.get kind <;> simp [fire, running, eq_comm]

/-- Firing a heartbeat that runs reports `StillRunning` exactly when activity was recorded since
it last fired, leaves it with none recorded, and leaves the other direction alone. -/
theorem fire_running {kind : HeartbeatKind} {heartbeat : Heartbeat}
    (running : timers.get kind = some heartbeat) (message : String) :
    ∃ after, timers.fire kind message =
        .ok (if heartbeat.active then .stillRunning else .expired, after) ∧
      after.get kind = some { heartbeat with active := false } ∧
      ∀ other, other ≠ kind → after.get other = timers.get other := by
  obtain ⟨_, _, active⟩ := heartbeat
  cases active <;> cases kind <;>
    exact ⟨_, by simp only [fire, running, Heartbeat.fire]; rfl, by rfl,
      fun other apart => by cases other <;> first | exact absurd rfl apart | rfl⟩

end HeartbeatTimers

end Amiquip
