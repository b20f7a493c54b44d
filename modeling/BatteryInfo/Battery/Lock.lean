import BatteryInfo.Sequence.Calls
import BatteryInfo.Battery.Gpio

/-!
# The battery lock

Runs of `Battery_Init`, `RunBatteryMonitor` and `RunBatteryMonitorCleanup`. Every call gives the
lock back but for a `Battery_Init` that fails, which keeps it for ever together with whatever
it had opened (`battery_lock_given_back`).
-/

namespace BatteryInfo.Battery

open Gpiod Sequence

/-- A call, with what the libgpiod calls return in it. -/
inductive Call where
  | init (o : GpioOutcomes)
  | monitor (o : GpioOutcomes)
  | cleanup
deriving DecidableEq, Repr

/-- The state that a call returns with, if it returns. -/
def Call.run (s : Statics) : Call → Option Statics
  | .init o => (batteryInit o s).map Prod.snd
  | .monitor o => runBatteryMonitor o s
  | .cleanup => runBatteryMonitorCleanup s

/-- The state after a call. One that waits for the lock changes nothing. -/
def Call.step (s : Statics) (call : Call) : Statics :=
  (call.run s).getD s

/-- The outcomes of the `Battery_Init` that a call makes. -/
def Call.initOutcomes : Call → Option GpioOutcomes
  | .init o | .monitor o => some o
  | .cleanup => none

/-- The call returns with the lock free, and if it is a `Battery_Init` that fails with nothing
open then nothing is open after it. -/
def GivesBack (s : Statics) (call : Call) : Prop :=
  (∃ s', call.run s = some s' ∧ s'.batteryLock = false) ∧
  ∀ o ∈ call.initOutcomes, ∀ s', batteryInit o s = some (-1, s') → NothingOpen s → NothingOpen s'

/-- The libgpiod calls of a `Battery_Init` all succeed: nothing stands against them, and neither
pin is requested already. -/
def GpiosAvailable (s : Statics) (call : Call) : Prop :=
  ∀ o ∈ call.initOutcomes, o.Work ∧ PinsFree s

/-- The lock is free, and the lines are all open or all closed. -/
structure AtRest (s : Statics) : Prop where
  unlocked : s.batteryLock = false
  lines : (NothingOpen s ∧ s.inDockChip = none ∧ s.chargingChip = none) ∨
    ∃ dock charging, LinesOpen s dock charging

/-- The only lines that stand against a `Battery_Init` are its own. -/
theorem AtRest.nothingOpen {s : Statics} (h : AtRest s) (hfree : PinsFree s) : NothingOpen s := by
  rcases h.lines with ⟨hnothing, _⟩ | ⟨dock, charging, hopen⟩
  · exact hnothing
  · exact absurd hfree hopen.not_pinsFree

/-- A `Battery_Init` succeeds and gives the lock back, or it fails and keeps it. -/
theorem AtRest.batteryInit {s : Statics} (h : AtRest s) (o : GpioOutcomes) :
    (o.Work ∧ PinsFree s ∧ ∃ s', batteryInit o s = some (0, s') ∧ AtRest s') ∨
    (¬ (o.Work ∧ PinsFree s) ∧ ∃ s', batteryInit o s = some (-1, s') ∧ s'.batteryLock) := by
  have hlocked := initializeBatteryGPIOs_batteryLock o { s with batteryLock := true }
  rcases initializeBatteryGPIOs_cases o { s with batteryLock := true } with
    ⟨hwork, hfree, hzero, hopens⟩ | ⟨hfails, hminus⟩
  · obtain ⟨dock, charging, hopen⟩ := hopens (h.nothingOpen hfree)
    refine .inl ⟨hwork, hfree, { (initializeBatteryGPIOs o { s with batteryLock := true }).2 with
      batteryLock := false }, ?_, rfl, .inr ⟨dock, charging, ?_⟩⟩
    · simp [Battery.batteryInit, h.unlocked, hzero]
    · exact hopen.of_lock false
  -- the early return skips the unlock
  · refine .inr ⟨hfails, _, ?_, hlocked⟩
    simp [Battery.batteryInit, h.unlocked, hminus]

/-- A cleanup gives everything back. -/
theorem AtRest.cleanup {s : Statics} (h : AtRest s) :
    ∃ s', runBatteryMonitorCleanup s = some s' ∧ AtRest s' := by
  have hrun : runBatteryMonitorCleanup s =
      some { closeGPIOs { s with batteryLock := true } with batteryLock := false } := by
    rw [runBatteryMonitorCleanup, h.unlocked]
    rfl
  refine ⟨_, hrun, rfl, .inl ?_⟩
  rcases h.lines with ⟨hnothing, hdock, hcharging⟩ | ⟨dock, charging, hopen⟩
  · exact NothingOpen.closeGPIOs (s := { s with batteryLock := true }) hnothing hdock hcharging
  · exact LinesOpen.closeGPIOs (s := { s with batteryLock := true }) (hopen.of_lock true)

/-- A call that makes a `Battery_Init` leaves what that leaves. -/
theorem Call.run_init {s : Statics} {call : Call} {o : GpioOutcomes}
    (hcall : o ∈ call.initOutcomes) : call.run s = (batteryInit o s).map Prod.snd := by
  cases call with
  | init o' | monitor o' =>
      cases hcall
      rfl
  | cleanup => simp [Call.initOutcomes] at hcall

/-- From a state of rest a call gives everything back and comes to rest, or its `Battery_Init`
fails and keeps the lock. -/
theorem AtRest.call {s : Statics} (h : AtRest s) (call : Call) :
    (GpiosAvailable s call ∧ GivesBack s call ∧ AtRest (call.step s)) ∨
    (¬ GpiosAvailable s call ∧ ¬ GivesBack s call) := by
  cases hcall : call.initOutcomes with
  | none =>
      obtain rfl : call = .cleanup := by
        cases call <;> simp [Call.initOutcomes] at hcall ⊢
      obtain ⟨s', hrun, hrest⟩ := h.cleanup
      refine .inl ⟨by simp [GpiosAvailable, hcall],
        ⟨⟨s', hrun, hrest.unlocked⟩, by simp [hcall]⟩, ?_⟩
      rwa [Call.step, Call.run, hrun]
  | some o =>
      have hrun : call.run s = (Battery.batteryInit o s).map Prod.snd :=
        Call.run_init (by simp [hcall])
      rcases h.batteryInit o with ⟨hwork, hfree, s', hinit, hrest⟩ | ⟨hfails, s', hinit, hlocked⟩
      · rw [hinit] at hrun
        refine .inl ⟨fun o' ho' => ?_,
          ⟨⟨s', hrun, hrest.unlocked⟩, fun o' ho' s'' hfailed => ?_⟩, ?_⟩
        · rw [hcall] at ho'
          cases ho'
          exact ⟨hwork, hfree⟩
        · rw [hcall] at ho'
          cases ho'
          simp [hinit] at hfailed
        · rw [Call.step, hrun]
          exact hrest
      · rw [hinit] at hrun
        refine .inr ⟨fun havailable => hfails (havailable o (by simp [hcall])), ?_⟩
        rintro ⟨⟨s'', hreturns, hunlocked⟩, _⟩
        rw [hrun] at hreturns
        cases hreturns
        rw [hlocked] at hunlocked
        cases hunlocked

/-- From the start of the program every call gives the lock back, and a failed `Battery_Init`
leaves nothing open, exactly if the libgpiod calls of every `Battery_Init` succeed. -/
theorem battery_lock_given_back (bus : Bus) (hbus : ∀ c ∈ bus.opened, ¬ OnPort c)
    (calls : List Call) :
    EveryCall Call.step GivesBack (.initial bus) calls ↔
      EveryCall Call.step GpiosAvailable (.initial bus) calls := by
  refine EveryCall.iff_of_invariant (I := AtRest) ?_ ?_
    ⟨rfl, .inl ⟨nothingOpen_of_opened hbus, rfl, rfl⟩⟩ calls
  · intro s call hrest
    rcases hrest.call call with ⟨havailable, hgives, _⟩ | ⟨hfails, hkeeps⟩
    · exact iff_of_true hgives havailable
    · exact iff_of_false hkeeps hfails
  · intro s call hrest havailable
    rcases hrest.call call with ⟨_, _, hnext⟩ | ⟨hfails, _⟩
    · exact hnext
    · exact absurd havailable hfails

/-- All six libgpiod calls succeed. -/
def gpiosWork : GpioOutcomes :=
  ⟨⟨true, true, true⟩, ⟨true, true, true⟩⟩

/-- The charging chip cannot be opened. -/
def chargingChipMissing : GpioOutcomes :=
  { gpiosWork with charging := ⟨false, true, true⟩ }

theorem battery_lock_given_back_reopened :
    EveryCall Call.step GivesBack (.initial .empty)
      [.monitor gpiosWork, .cleanup, .init gpiosWork] := by
  refine (battery_lock_given_back _ (by simp [Bus.empty]) _).2 ⟨?_, nofun, ?_, trivial⟩
  all_goals
    intro o ho
    cases ho
    exact ⟨by decide, by decide, by decide⟩

/-- A `Battery_Init` that fails at the charging chip keeps the lock and the dock line, and the
cleanup never returns. -/
theorem failed_init_keeps_lock :
    ¬ EveryCall Call.step GivesBack (.initial .empty) [.init chargingChipMissing] ∧
      Call.run (Call.step (.initial .empty) (.init chargingChipMissing)) .cleanup = none := by
  refine ⟨fun h => ?_, rfl⟩
  obtain ⟨⟨s', hrun, hunlocked⟩, _⟩ := h.1
  cases hrun
  revert hunlocked
  decide

end BatteryInfo.Battery
