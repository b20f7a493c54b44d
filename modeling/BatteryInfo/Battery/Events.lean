import BatteryInfo.Sequence.Calls
import BatteryInfo.Battery.PowerLines

/-!
# The events of the battery lines

`MonitorForGPIOEvent` folds the lines of one wake-up into a set of flags, and the loop of
`BatteryTaskLoop` then refreshes what the flags stand for. The loop compares the whole set with
each flag instead of testing for it, so that a wake-up with events of both lines refreshes
neither (`events_refreshed`).
-/

namespace BatteryInfo.Battery

open Gpiod Sequence

/-- The loop body of `MonitorForGPIOEvent` on a line of `event_bulk_lines`. The line may be
`NULL`. -/
def markEvent (gpios : UInt32) (eventLine : Option Line) : UInt32 :=
  match eventLine with
  | none => gpios
  | some l =>
      if l.offset = inDockPin then gpios ||| LineId.inBase.gpio
      else if l.offset = chargingPin then gpios ||| LineId.charging.gpio
      else gpios

/-- `MonitorForGPIOEvent`, given the lines that `gpiod_line_event_wait_bulk` returns if it
returns more than 0. -/
def monitorForGPIOEvent (wait : Option (List (Option Line))) (gpios : UInt32) : UInt32 :=
  match wait with
  | none => gpios
  | some eventLines => eventLines.foldl markEvent gpios

/-- The statics `IsInDock` and `IsCharging`. -/
structure Levels where
  isInDock : Int
  isCharging : Int
deriving DecidableEq, Repr

/-- The initial values. -/
def Levels.initial : Levels :=
  ⟨-1, -1⟩

/-- What libgpiod returns in one iteration of the loop: the lines with events, and the values
of the two lines where they are asked for. -/
structure Wakeup where
  wait : Option (List (Option Line))
  inDockValue : Int
  chargingValue : Int

/-- One iteration of `BatteryTaskLoop`: the lines that are read in it, and the levels after
it. -/
def batteryTaskIteration (w : Wakeup) (s : Levels) : List LineId × Levels :=
  let gpios := monitorForGPIOEvent w.wait 0
  let (read, s) :=
    if gpios = LineId.inBase.gpio then
      ([LineId.inBase], { s with isInDock := levelOfValue w.inDockValue })
    else ([], s)
  if gpios = LineId.charging.gpio then
    (read ++ [.charging], { s with isCharging := levelOfValue w.chargingValue })
  else (read, s)

/-- The levels after an iteration of `BatteryTaskLoop`. -/
def batteryTaskStep (s : Levels) (w : Wakeup) : Levels :=
  (batteryTaskIteration w s).2

/-- The lines with events include one with the offset of this line. -/
def Wakeup.HasEvent (w : Wakeup) (id : LineId) : Prop :=
  ∃ eventLines ∈ w.wait, ∃ l, some l ∈ eventLines ∧ l.offset = id.pin

/-- In the iteration exactly the lines with events are read, each of them once, and exactly their
levels are refreshed. -/
structure EventsRefreshed (s : Levels) (w : Wakeup) : Prop where
  inDockRead : .inBase ∈ (batteryTaskIteration w s).1 ↔ w.HasEvent .inBase
  chargingRead : .charging ∈ (batteryTaskIteration w s).1 ↔ w.HasEvent .charging
  once : (batteryTaskIteration w s).1.Nodup
  inDock : w.HasEvent .inBase → (batteryTaskStep s w).isInDock = levelOfValue w.inDockValue
  inDockKept : ¬ w.HasEvent .inBase → (batteryTaskStep s w).isInDock = s.isInDock
  charging :
    w.HasEvent .charging → (batteryTaskStep s w).isCharging = levelOfValue w.chargingValue
  chargingKept : ¬ w.HasEvent .charging → (batteryTaskStep s w).isCharging = s.isCharging

/-- The lines with events are not of both kinds. -/
def Wakeup.OneKind (w : Wakeup) : Prop :=
  ¬ (w.HasEvent .inBase ∧ w.HasEvent .charging)

/-! ## The flags -/

/-- A line of the list has the offset of this line. -/
def hasOffset (id : LineId) (eventLines : List (Option Line)) : Bool :=
  eventLines.any fun eventLine => eventLine.any fun l => l.offset = id.pin

/-- The set with the flags of some lines. -/
def gpioSet (inBase charging : Bool) : UInt32 :=
  (if inBase then LineId.inBase.gpio else 0) ||| (if charging then LineId.charging.gpio else 0)

theorem gpioSet_or_inBase (inBase charging : Bool) :
    gpioSet inBase charging ||| LineId.inBase.gpio = gpioSet true charging := by
  cases inBase <;> cases charging <;> decide

theorem gpioSet_or_charging (inBase charging : Bool) :
    gpioSet inBase charging ||| LineId.charging.gpio = gpioSet inBase true := by
  cases inBase <;> cases charging <;> decide

/-- A line sets the flag of its offset. -/
theorem markEvent_gpioSet (inBase charging : Bool) (eventLine : Option Line) :
    markEvent (gpioSet inBase charging) eventLine =
      gpioSet (inBase || hasOffset .inBase [eventLine])
        (charging || hasOffset .charging [eventLine]) := by
  cases eventLine with
  | none => simp [markEvent, hasOffset]
  | some l =>
      have hother : chargingPin ≠ inDockPin := by decide
      by_cases hdock : l.offset = inDockPin
      · simp [markEvent, hasOffset, LineId.pin, hdock, hother.symm, gpioSet_or_inBase]
      · by_cases hcharging : l.offset = chargingPin
        · simp [markEvent, hasOffset, LineId.pin, hcharging, hother, gpioSet_or_charging]
        · simp [markEvent, hasOffset, LineId.pin, hdock, hcharging]

theorem foldl_markEvent (inBase charging : Bool) (eventLines : List (Option Line)) :
    eventLines.foldl markEvent (gpioSet inBase charging) =
      gpioSet (inBase || hasOffset .inBase eventLines)
        (charging || hasOffset .charging eventLines) := by
  induction eventLines generalizing inBase charging with
  | nil => simp [hasOffset]
  | cons eventLine rest ih =>
      rw [List.foldl_cons, markEvent_gpioSet, ih]
      simp [hasOffset, Bool.or_assoc]

/-- A line with an event has the offset of this line. -/
def Wakeup.has (w : Wakeup) (id : LineId) : Bool :=
  w.wait.any (hasOffset id)

theorem Wakeup.has_iff (w : Wakeup) (id : LineId) : w.has id ↔ w.HasEvent id := by
  unfold has HasEvent
  cases w.wait with
  | none => simp
  | some eventLines => simp [hasOffset, Option.any_eq_true]

theorem Wakeup.monitor_eq (w : Wakeup) :
    monitorForGPIOEvent w.wait 0 = gpioSet (w.has .inBase) (w.has .charging) := by
  unfold monitorForGPIOEvent has
  cases w.wait with
  | none => rfl
  | some eventLines =>
      show eventLines.foldl markEvent (gpioSet false false) = _
      rw [foldl_markEvent]
      simp

/-- An iteration refreshes what the lines with events ask for exactly if they are not of both
kinds. -/
theorem eventsRefreshed_iff (s : Levels) (w : Wakeup) : EventsRefreshed s w ↔ w.OneKind := by
  have hiteration : batteryTaskIteration w s =
      match w.has .inBase, w.has .charging with
      | true, false => ([.inBase], { s with isInDock := levelOfValue w.inDockValue })
      | false, true => ([.charging], { s with isCharging := levelOfValue w.chargingValue })
      | _, _ => ([], s) := by
    unfold batteryTaskIteration
    rw [w.monitor_eq]
    cases w.has .inBase <;> cases w.has .charging <;> rfl
  have hdock := w.has_iff .inBase
  have hcharging := w.has_iff .charging
  constructor
  · rintro h ⟨hin, hch⟩
    have hread := h.inDockRead.2 hin
    rw [hiteration, hdock.2 hin, hcharging.2 hch] at hread
    simp at hread
  · intro hone
    -- the set is one flag or empty, so that comparing it is testing it
    cases hin : w.has .inBase <;> cases hch : w.has .charging <;> rw [hin, hch] at hiteration <;>
      rw [hin] at hdock <;> rw [hch] at hcharging
    · constructor <;> simp [hiteration, batteryTaskStep, ← hdock, ← hcharging]
    · constructor <;> simp [hiteration, batteryTaskStep, ← hdock, ← hcharging]
    · constructor <;> simp [hiteration, batteryTaskStep, ← hdock, ← hcharging]
    · exact absurd ⟨hdock.1 rfl, hcharging.1 rfl⟩ hone

/-- Over any sequence of wake-ups every event is followed by a refresh of its own level, and
nothing else is refreshed, exactly if no wake-up has events of both lines. -/
theorem events_refreshed (s : Levels) (wakeups : List Wakeup) :
    EveryCall batteryTaskStep EventsRefreshed s wakeups ↔ ∀ w ∈ wakeups, w.OneKind :=
  EveryCall.iff_forall_mem eventsRefreshed_iff s wakeups

/-- The meter is put into the dock: both lines have an event, and neither level is refreshed. -/
theorem docked_event_lost :
    ¬ EveryCall batteryTaskStep EventsRefreshed .initial
      [⟨some [some ⟨⟨0, inDockPortName⟩, inDockPin⟩, some ⟨⟨0, inDockPortName⟩, chargingPin⟩],
        0, 1⟩] := by
  intro h
  have hread := h.1.inDockRead.2 ⟨_, rfl, _, List.mem_cons_self, rfl⟩
  revert hread
  decide

end BatteryInfo.Battery
