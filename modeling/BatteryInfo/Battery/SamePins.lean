import BatteryInfo.Battery.Lock
import BatteryInfo.Battery.PowerLines

/-!
# The two interfaces to a pin

An entry of `power_lines` stands for the same signal as the line that `InitializeBatteryGPIOs`
opens. `OpenGPIO` takes both entries from the dock chip, keeps an entry whose request fails, and
nothing clears the entries when `CloseGPIOs` closes that chip. An entry is the requested pin of
its signal as long as none of the three happens (`power_lines_same_pins`).
-/

namespace BatteryInfo.Battery

open Gpiod Sequence

/-- A call, with what the libgpiod calls return in it. -/
inductive LineCall where
  | init (o : GpioOutcomes)
  | cleanup
  | openGpio (id : LineId) (o : OpenOutcomes)
  | closeGpio (id : LineId)
  | readGpio (gpio : UInt32) (value : Int)
deriving DecidableEq

/-- The state that a call returns with, if it returns. -/
def LineCall.run (s : GpioStatics) : LineCall → Option GpioStatics
  | .init o => (s.batteryInit o).map Prod.snd
  | .cleanup => s.cleanup
  | .openGpio id o => (Battery.openGpio id o s).map Prod.snd
  | .closeGpio id => some (Battery.closeGpio id s)
  | .readGpio gpio value => some (Battery.readGpio gpio value s).2

/-- The state after a call. One that does not return changes nothing. -/
def LineCall.step (s : GpioStatics) (call : LineCall) : GpioStatics :=
  (call.run s).getD s

/-- An entry of the table is the requested line of its pin, and on the same pin as the line that
is polled. -/
def SamePins (s : GpioStatics) : Prop :=
  ∀ id l, s.powerLine id = some l →
    l.pin = (id.portName, id.pin) ∧ l ∈ s.bus.requested ∧
      ∀ m, s.polledLine id = some m → m.pin = l.pin

/-- What a call must find. An `OpenGPIO` that gets a line must be for the dock, and the line
requested or free to be. A cleanup must find the dock entry closed. -/
def KeepsPins (s : GpioStatics) : LineCall → Prop
  | .openGpio id o => s.powerLine id = none → ∀ c, s.inDockChip = some c → o.lineFound →
      id = .inBase ∧
        (⟨c, id.pin⟩ ∈ s.bus.requested ∨ o.lineRequested ∧ s.bus.Grants ⟨c, id.pin⟩)
  | .cleanup => s.batteryLock = false → s.powerLine .inBase = none
  | _ => True

/-- The statics are as calls leave them that find what they must. -/
structure Matching (s : GpioStatics) : Prop where
  samePins : SamePins s
  chip : ∀ c, s.inDockChip = some c → c.name = inDockPortName ∧ c ∈ s.bus.opened
  polled : ∀ id m, s.polledLine id = some m → m.pin = (id.portName, id.pin)
  held : s.batteryLock = false → ∀ l, s.powerLine .inBase = some l → s.inDockChip = some l.chip
  chargingClosed : s.powerLine .charging = none

/-- With the charging entry closed, all is said about the dock entry. -/
theorem samePins_of_inBase {s : GpioStatics} (hcharging : s.powerLine .charging = none)
    (hpolled : ∀ id m, s.polledLine id = some m → m.pin = (id.portName, id.pin))
    (hdock : ∀ l, s.powerLine .inBase = some l →
      l.pin = (inDockPortName, inDockPin) ∧ l ∈ s.bus.requested) : SamePins s := by
  intro id l hline
  cases id with
  | inBase =>
      obtain ⟨hpin, hrequested⟩ := hdock l hline
      refine ⟨hpin, hrequested, fun m hm => ?_⟩
      rw [hpolled .inBase m hm, hpin]
      rfl
  | charging =>
      rw [hcharging] at hline
      cases hline

section Calls

variable {s : GpioStatics}

/-- A `Battery_Init` opens and requests more, and only one that keeps the lock can move the dock
chip away from an entry. -/
theorem Matching.init (h : Matching s) (o : GpioOutcomes) :
    Matching (LineCall.step s (.init o)) := by
  cases hlock : s.batteryLock with
  | true =>
      have hwaits : LineCall.step s (.init o) = s := by
        simp [LineCall.step, LineCall.run, GpioStatics.batteryInit, batteryInit, hlock]
      rw [hwaits]
      exact h
  | false =>
      have heffect := initializeBatteryGPIOs_effect o { s.toStatics with batteryLock := true }
      have hlocked := initializeBatteryGPIOs_batteryLock o { s.toStatics with batteryLock := true }
      have hcases := initializeBatteryGPIOs_cases o { s.toStatics with batteryLock := true }
      generalize hinit : initializeBatteryGPIOs o { s.toStatics with batteryLock := true } =
        result at heffect hlocked hcases
      obtain ⟨error, s'⟩ := result
      have hpolled : ∀ locked id m,
          GpioStatics.polledLine ⟨{ s' with batteryLock := locked }, s.powerLine⟩ id = some m →
            m.pin = (id.portName, id.pin) := by
        intro locked id m hm
        cases id with
        | inBase => exact (heffect.inDockLine m hm).elim (h.polled .inBase m) fun hpin => hpin
        | charging => exact (heffect.chargingLine m hm).elim (h.polled .charging m) fun hpin => hpin
      have hdock : ∀ l, s.powerLine .inBase = some l →
          l.pin = (inDockPortName, inDockPin) ∧ l ∈ s'.bus.requested := by
        intro l hl
        obtain ⟨hpin, hrequested, _⟩ := h.samePins .inBase l hl
        exact ⟨hpin, heffect.requested l hrequested⟩
      have hsame : ∀ locked,
          SamePins ⟨{ s' with batteryLock := locked }, s.powerLine⟩ := fun locked =>
        samePins_of_inBase h.chargingClosed (hpolled locked) hdock
      by_cases hfailed : error < 0
      · have hstep : LineCall.step s (.init o) = ⟨s', s.powerLine⟩ := by
          simp [LineCall.step, LineCall.run, GpioStatics.batteryInit, batteryInit, hlock, hinit,
            hfailed]
        rw [hstep]
        refine ⟨?_, heffect.inDockChip, ?_, fun hunlocked => ?_, h.chargingClosed⟩
        · exact hsame s'.batteryLock
        · exact hpolled s'.batteryLock
        · have htrue : s'.batteryLock = true := hlocked
          rw [htrue] at hunlocked
          cases hunlocked
      · have hstep : LineCall.step s (.init o) =
            ⟨{ s' with batteryLock := false }, s.powerLine⟩ := by
          simp [LineCall.step, LineCall.run, GpioStatics.batteryInit, batteryInit, hlock, hinit,
            hfailed]
        rw [hstep]
        refine ⟨hsame false, heffect.inDockChip, hpolled false, fun _ l hl => ?_,
          h.chargingClosed⟩
        -- the pin of an entry is not free, so the call cannot have succeeded
        exfalso
        rcases hcases with ⟨_, hfree, _⟩ | ⟨_, hminus⟩
        · obtain ⟨hpin, hrequested, _⟩ := h.samePins .inBase l hl
          exact hfree.1 (List.mem_map.2 ⟨l, hrequested, hpin⟩)
        · omega

/-- A cleanup that gets the lock closes the chip of the dock entry. -/
theorem Matching.cleanup (h : Matching s) :
    (KeepsPins s .cleanup ∧ Matching (LineCall.step s .cleanup)) ∨
      (¬ KeepsPins s .cleanup ∧ ¬ SamePins (LineCall.step s .cleanup)) := by
  cases hlock : s.batteryLock with
  | true =>
      have hwaits : LineCall.step s .cleanup = s := by
        simp [LineCall.step, LineCall.run, GpioStatics.cleanup, runBatteryMonitorCleanup, hlock]
      rw [hwaits]
      refine .inl ⟨fun hunlocked => ?_, h⟩
      rw [hlock] at hunlocked
      cases hunlocked
  | false =>
      have hstep : LineCall.step s .cleanup =
          ⟨{ closeGPIOs { s.toStatics with batteryLock := true } with batteryLock := false },
            s.powerLine⟩ := by
        simp [LineCall.step, LineCall.run, GpioStatics.cleanup, runBatteryMonitorCleanup, hlock]
      rw [hstep]
      cases hline : s.powerLine .inBase with
      | none =>
          refine .inl ⟨fun _ => hline, ?_⟩
          have hpolled : ∀ id m, GpioStatics.polledLine
              ⟨{ closeGPIOs { s.toStatics with batteryLock := true } with batteryLock := false },
                s.powerLine⟩ id = some m → m.pin = (id.portName, id.pin) := by
            intro id m hm
            cases id with
            | inBase => exact h.polled .inBase m (by simpa [GpioStatics.polledLine] using hm)
            | charging => exact h.polled .charging m (by simpa [GpioStatics.polledLine] using hm)
          refine ⟨samePins_of_inBase h.chargingClosed hpolled fun l hl => ?_, fun c hc => ?_,
            hpolled, fun _ l hl => ?_, h.chargingClosed⟩
          · rw [hline] at hl
            cases hl
          · simp at hc
          · rw [hline] at hl
            cases hl
      | some l =>
          refine .inr ⟨fun hkeeps => ?_, fun hsame => ?_⟩
          · rw [hkeeps hlock] at hline
            cases hline
          · obtain ⟨_, hrequested, _⟩ := hsame .inBase l hline
            have hopened := Bus.live _ l hrequested
            exact not_mem_opened_closeGPIOs { s.toStatics with batteryLock := true }
              (h.held hlock l hline) hopened

/-- A request can only add to what is requested. -/
theorem Matching.requestPowerLine (h : Matching s) (l : Line) (ok : Bool) :
    Matching (Battery.requestPowerLine l ok s).2 := by
  refine ⟨samePins_of_inBase h.chargingClosed h.polled fun m hm => ?_, fun c hc => ?_, h.polled,
    h.held, h.chargingClosed⟩
  · obtain ⟨hpin, hrequested, _⟩ := h.samePins .inBase m hm
    exact ⟨hpin, Bus.mem_requested_lineRequest.2 (.inl hrequested)⟩
  · obtain ⟨hname, hopened⟩ := h.chip c hc
    refine ⟨hname, ?_⟩
    show c ∈ ((s.using l).bus.lineRequest l none ok).2.opened
    rw [Bus.opened_lineRequest]
    exact hopened

/-- An `OpenGPIO` that gets a line of the dock chip sets the entry to it, and requests it. -/
theorem openGpio_found {id : LineId} {o : OpenOutcomes} {c : Chip} (hline : s.powerLine id = none)
    (hchip : s.inDockChip = some c) (hfound : o.lineFound) :
    LineCall.step s (.openGpio id o) = (Battery.requestPowerLine ⟨c, id.pin⟩ o.lineRequested
      { s with powerLine := Function.update s.powerLine id (some ⟨c, id.pin⟩) }).2 := by
  simp [LineCall.step, LineCall.run, openGpio, hline, hchip, Bus.chipGetLine, hfound]

section Found

variable {id : LineId} {o : OpenOutcomes} {c : Chip}

theorem powerLine_openGpio_found (hline : s.powerLine id = none) (hchip : s.inDockChip = some c)
    (hfound : o.lineFound) :
    (LineCall.step s (.openGpio id o)).powerLine =
      Function.update s.powerLine id (some ⟨c, id.pin⟩) := by
  rw [Battery.openGpio_found hline hchip hfound]
  rfl

/-- A new entry is requested if the line was, or if the request is granted. -/
theorem mem_requested_openGpio_found (hline : s.powerLine id = none)
    (hchip : s.inDockChip = some c) (hfound : o.lineFound) :
    (⟨c, id.pin⟩ : Line) ∈ (LineCall.step s (.openGpio id o)).bus.requested ↔
      ⟨c, id.pin⟩ ∈ s.bus.requested ∨ o.lineRequested ∧ s.bus.Grants ⟨c, id.pin⟩ := by
  rw [Battery.openGpio_found hline hchip hfound]
  show _ ∈ (s.bus.lineRequest ⟨c, id.pin⟩ none o.lineRequested).2.requested ↔ _
  rw [Bus.mem_requested_lineRequest]
  simp

/-- A new entry for the charging signal is a line of the dock chip. -/
theorem Matching.openGpio_charging (h : Matching s) (hline : s.powerLine .charging = none)
    (hchip : s.inDockChip = some c) (hfound : o.lineFound) :
    ¬ SamePins (LineCall.step s (.openGpio .charging o)) := by
  intro hsame
  have hentry := powerLine_openGpio_found hline hchip hfound
  have hpin := (hsame .charging ⟨c, chargingPin⟩ (by rw [hentry]; rfl)).1
  have hport : c.name = chargingPortName := congrArg Prod.fst hpin
  rw [(h.chip c hchip).1] at hport
  exact absurd hport (by decide)

/-- A new entry for the dock is right if it is requested. -/
theorem Matching.openGpio_inBase (h : Matching s) (hline : s.powerLine .inBase = none)
    (hchip : s.inDockChip = some c) (hfound : o.lineFound)
    (hgets : (⟨c, LineId.inBase.pin⟩ : Line) ∈ s.bus.requested ∨
      o.lineRequested ∧ s.bus.Grants ⟨c, LineId.inBase.pin⟩) :
    Matching (LineCall.step s (.openGpio .inBase o)) := by
  obtain ⟨hname, _⟩ := h.chip c hchip
  have hentry := powerLine_openGpio_found hline hchip hfound
  have hrequested := (mem_requested_openGpio_found hline hchip hfound).2 hgets
  have hset : ∀ l, (LineCall.step s (.openGpio .inBase o)).powerLine .inBase = some l →
      l = ⟨c, inDockPin⟩ := by
    intro l hl
    rw [hentry, Function.update_self] at hl
    exact (Option.some.inj hl).symm
  have hcharging : (LineCall.step s (.openGpio .inBase o)).powerLine .charging = none := by
    rw [hentry, Function.update_of_ne (by decide)]
    exact h.chargingClosed
  rw [Battery.openGpio_found hline hchip hfound] at hset hcharging hrequested ⊢
  refine ⟨samePins_of_inBase hcharging h.polled fun l hl => ?_, fun c' hc' => ?_, h.polled,
    fun _ l hl => ?_, hcharging⟩
  · rw [hset l hl]
    refine ⟨?_, hrequested⟩
    rw [Line.pin, hname]
  · obtain ⟨hname', hopened'⟩ := h.chip c' hc'
    refine ⟨hname', ?_⟩
    show c' ∈ (s.bus.lineRequest ⟨c, inDockPin⟩ none o.lineRequested).2.opened
    rw [Bus.opened_lineRequest]
    exact hopened'
  · rw [hset l hl]
    exact hchip

/-- A new entry is a line of the dock chip, so that it is wrong for the charging signal, and
right for the dock if the line is requested. -/
theorem Matching.openGpio_found (h : Matching s) (hline : s.powerLine id = none)
    (hchip : s.inDockChip = some c) (hfound : o.lineFound) :
    (KeepsPins s (.openGpio id o) ∧ Matching (LineCall.step s (.openGpio id o))) ∨
      (¬ KeepsPins s (.openGpio id o) ∧ ¬ SamePins (LineCall.step s (.openGpio id o))) := by
  cases id with
  | charging =>
      refine .inr ⟨fun hkeeps => ?_, h.openGpio_charging hline hchip hfound⟩
      have hdock := (hkeeps hline c hchip hfound).1
      cases hdock
  | inBase =>
      by_cases hgets : (⟨c, LineId.inBase.pin⟩ : Line) ∈ s.bus.requested ∨
          o.lineRequested ∧ s.bus.Grants ⟨c, LineId.inBase.pin⟩
      · refine .inl ⟨fun _ c' hc' _ => ?_, h.openGpio_inBase hline hchip hfound hgets⟩
        rw [hchip] at hc'
        cases hc'
        exact ⟨rfl, hgets⟩
      · refine .inr ⟨fun hkeeps => hgets (hkeeps hline c hchip hfound).2, fun hsame => ?_⟩
        have hentry := powerLine_openGpio_found hline hchip hfound
        have hgot := (hsame .inBase ⟨c, inDockPin⟩ (by rw [hentry]; rfl)).2.1
        exact hgets ((mem_requested_openGpio_found hline hchip hfound).1 hgot)

end Found

theorem Matching.openGpio (h : Matching s) (id : LineId) (o : OpenOutcomes) :
    (KeepsPins s (.openGpio id o) ∧ Matching (LineCall.step s (.openGpio id o))) ∨
      (¬ KeepsPins s (.openGpio id o) ∧ ¬ SamePins (LineCall.step s (.openGpio id o))) := by
  cases hline : s.powerLine id with
  | some l =>
      have hstep : LineCall.step s (.openGpio id o) =
          (Battery.requestPowerLine l o.lineRequested s).2 := by
        simp [LineCall.step, LineCall.run, Battery.openGpio, hline]
      refine .inl ⟨fun hnone => ?_, ?_⟩
      · rw [hline] at hnone
        cases hnone
      · rw [hstep]
        exact h.requestPowerLine l o.lineRequested
  | none =>
      cases hchip : s.inDockChip with
      | none =>
          have hstep : LineCall.step s (.openGpio id o) = s := by
            simp [LineCall.step, LineCall.run, Battery.openGpio, hline, hchip]
          refine .inl ⟨fun _ c hc => ?_, ?_⟩
          · rw [hchip] at hc
            cases hc
          · rw [hstep]
            exact h
      | some c =>
          cases hfound : o.lineFound with
          | true => exact h.openGpio_found hline hchip hfound
          | false =>
              have hnone : Function.update s.powerLine id none = s.powerLine := by
                rw [← hline]
                exact Function.update_eq_self id s.powerLine
              have hstep : LineCall.step s (.openGpio id o) = s := by
                simp [LineCall.step, LineCall.run, Battery.openGpio, hline, hchip,
                  Bus.chipGetLine, hfound, hnone]
              refine .inl ⟨fun _ c' _ hfound' => ?_, ?_⟩
              · rw [hfound] at hfound'
                cases hfound'
              · rw [hstep]
                exact h

/-- A closed entry is nobody's pin. -/
theorem Matching.closeGpio (h : Matching s) (id : LineId) :
    Matching (LineCall.step s (.closeGpio id)) := by
  cases hline : s.powerLine id with
  | none =>
      have hstep : LineCall.step s (.closeGpio id) = s := by
        simp [LineCall.step, LineCall.run, Battery.closeGpio, hline]
      rw [hstep]
      exact h
  | some l =>
      obtain rfl : id = .inBase := by
        cases id with
        | inBase => rfl
        | charging =>
            rw [h.chargingClosed] at hline
            cases hline
      have hstep : LineCall.step s (.closeGpio .inBase) = { s.using l with
          bus := s.bus.lineRelease l
          powerLine := Function.update s.powerLine .inBase none } := by
        simp [LineCall.step, LineCall.run, Battery.closeGpio, hline, GpioStatics.using]
      have hdock : (LineCall.step s (.closeGpio .inBase)).powerLine .inBase = none := by
        rw [hstep]
        rfl
      have hcharging : (LineCall.step s (.closeGpio .inBase)).powerLine .charging = none := by
        rw [hstep]
        exact h.chargingClosed
      rw [hstep] at hdock hcharging ⊢
      refine ⟨samePins_of_inBase hcharging h.polled fun m hm => ?_, h.chip, h.polled,
        fun _ m hm => ?_, hcharging⟩
      · rw [hdock] at hm
        cases hm
      · rw [hdock] at hm
        cases hm

theorem Matching.using (h : Matching s) (l : Line) : Matching (s.using l) :=
  ⟨h.samePins, h.chip, h.polled, h.held, h.chargingClosed⟩

theorem Matching.readGpio (h : Matching s) (gpio : UInt32) (value : Int) :
    Matching (LineCall.step s (.readGpio gpio value)) := by
  have hvalue : ∀ id, Matching (getGPIOLineValue id value s).2 := by
    intro id
    unfold getGPIOLineValue
    split
    · exact h
    · exact h.using _
  show Matching (Battery.readGpio gpio value s).2
  unfold Battery.readGpio
  split
  · exact hvalue .inBase
  · split
    · exact hvalue .charging
    · exact h

/-- A call finds what it must and leaves the statics as they were, or it breaks the table. -/
theorem Matching.call (h : Matching s) (call : LineCall) :
    (KeepsPins s call ∧ Matching (call.step s)) ∨
      (¬ KeepsPins s call ∧ ¬ SamePins (call.step s)) := by
  cases call with
  | init o => exact .inl ⟨trivial, h.init o⟩
  | cleanup => exact h.cleanup
  | openGpio id o => exact h.openGpio id o
  | closeGpio id => exact .inl ⟨trivial, h.closeGpio id⟩
  | readGpio gpio value => exact .inl ⟨trivial, h.readGpio gpio value⟩

end Calls

theorem matching_initial (bus : Bus) : Matching (.initial bus) where
  samePins := nofun
  chip := nofun
  polled := by
    intro id m hm
    cases id <;> cases hm
  held := nofun
  chargingClosed := rfl

/-- From the start of the program, after each call of any sequence, an entry of `power_lines` is
the requested line of its pin, and on the same pin as the line that is polled, exactly if every
`OpenGPIO` that gets a line is for the dock and finds the line requested or has it requested, and
every cleanup finds the dock entry closed. -/
theorem power_lines_same_pins (bus : Bus) (calls : List LineCall) :
    EveryCall LineCall.step (fun s call => SamePins (call.step s)) (.initial bus) calls ↔
      EveryCall LineCall.step KeepsPins (.initial bus) calls := by
  refine EveryCall.iff_of_invariant (I := Matching) ?_ ?_ (matching_initial bus) calls
  · intro s call hmatching
    rcases hmatching.call call with ⟨hkeeps, hnext⟩ | ⟨hfails, hbroken⟩
    · exact iff_of_true hnext.samePins hkeeps
    · exact iff_of_false hbroken hfails
  · intro s call hmatching hkeeps
    rcases hmatching.call call with ⟨_, hnext⟩ | ⟨hfails, _⟩
    · exact hnext
    · exact absurd hkeeps hfails

/-- With everything working, the charging entry is opened after the start-up: it is line 15 of
the dock chip. -/
theorem charging_entry_on_dock_chip :
    ¬ EveryCall LineCall.step (fun s call => SamePins (call.step s)) (.initial .empty)
      [.init gpiosWork, .openGpio .charging ⟨true, true⟩] := by
  intro h
  have hpin := (h.2.1 .charging ⟨⟨0, inDockPortName⟩, chargingPin⟩ rfl).1
  revert hpin
  decide

end BatteryInfo.Battery
