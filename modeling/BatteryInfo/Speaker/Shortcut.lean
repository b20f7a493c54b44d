import BatteryInfo.Speaker.Pins

/-!
# The frequency that the speaker remembers

`Speaker_PlayPitch` does nothing when it is called with the frequency of the call before. With
hardware that never fails, its runs are compared with those of a version without that test.
The two agree as long as the remembered frequency is what the channel is set to;
`Speaker_DeInit` switches the channel off behind it, and the next `Speaker_PlayPitch` of the
same frequency stays silent (`shortcut_agrees`).
-/

namespace BatteryInfo.Speaker

open Gpiod Sequence

/-- `Speaker_PlayPitch` without the test `Frequency == CurrentFreq`. -/
def playPitchAlways (kernel : Kernel) (frequency : UInt16) (s : Device) : ErrorCode × Device :=
  if s.state ≠ .inited then (.errorState, s) else (.errorNone, setPitch kernel frequency s)

/-- Every system call of the call succeeds. -/
def Call.Succeeds : Call → Prop
  | .init o => o.Work
  | .deInit o => o.en1Set ∧ o.en2Set
  | .setVolume _ o => o.en1Set ∧ o.en2Set
  | .playPitch _ => True

instance : (call : Call) → Decidable call.Succeeds
  | .init o => inferInstanceAs (Decidable o.Work)
  | .deInit _ | .setVolume _ _ => inferInstanceAs (Decidable (_ ∧ _))
  | .playPitch _ => .isTrue trivial

/-- A call in which every system call succeeds. -/
abbrev GoodCall := {call : Call // call.Succeeds}

/-- The state that a call leaves in the version without the test. -/
def Call.stepAlways (s : Device) : Call → Device
  | .playPitch frequency => (playPitchAlways acceptAll frequency s).2
  | call => call.step acceptAll s

/-- The code and the version without the test, side by side. -/
def bothStep (v : Device × Device) (call : GoodCall) : Device × Device :=
  (call.1.step acceptAll v.1, call.1.stepAlways v.2)

/-- The channel as a pitch sets it: enabled with the period and half of it as duty cycle, or
disabled with no duty cycle. -/
def Pwm.SetTo (p : Pwm) (frequency : UInt16) : Prop :=
  p.enable = (if frequency = 0 then 0 else 1) ∧ p.dutyCycle = dutyCyclens frequency ∧
    (frequency ≠ 0 → p.period = periodns frequency)

instance (p : Pwm) (frequency : UInt16) : Decidable (p.SetTo frequency) :=
  inferInstanceAs (Decidable (_ ∧ _ ∧ _))

/-- A `Speaker_PlayPitch` that returns no error leaves the channel as the version without the
test does, set to the pitch. -/
def PlaysAsAlways (v : Device × Device) (call : GoodCall) : Prop :=
  ∀ frequency, call.1 = .playPitch frequency → (call.1.run acceptAll v.1).1 = .errorNone →
    (bothStep v call).1.pwm.enable = (bothStep v call).2.pwm.enable ∧
    (bothStep v call).1.pwm.dutyCycle = (bothStep v call).2.pwm.dutyCycle ∧
    (frequency ≠ 0 → (bothStep v call).1.pwm.period = (bothStep v call).2.pwm.period) ∧
    (bothStep v call).1.pwm.SetTo frequency

/-- What the calls so far amount to: whether the speaker is initialised, the frequency of the
last pitch, and whether the channel has been switched off since behind a pitch that sounds. -/
structure Remembered where
  inited : Bool
  current : UInt16
  stale : Bool

/-- One call. -/
def Remembered.next (m : Remembered) (call : GoodCall) : Remembered :=
  match call.1 with
  | .init _ => { m with inited := true }
  | .playPitch frequency =>
      if m.inited ∧ frequency ≠ m.current then { m with current := frequency, stale := false }
      else m
  | .setVolume _ _ => m
  | .deInit _ => if m.inited then { m with inited := false, stale := m.current ≠ 0 } else m

/-- The call does not repeat the remembered frequency when that is stale. -/
def NoStaleRepeat (m : Remembered) (call : GoodCall) : Prop :=
  ∀ frequency, call.1 = .playPitch frequency → m.inited → frequency = m.current →
    m.stale = false

/-- At the start nothing is remembered but silence. -/
def Remembered.initial (pwm : Pwm) : Remembered where
  inited := false
  current := 0
  stale := ¬ pwm.SetTo 0

/-! ## One call -/

theorem setPitch_acceptAll (frequency : UInt16) (s : Device) :
    (setPitch acceptAll frequency s).pwm =
      if frequency = 0 then { s.pwm with dutyCycle := 0, enable := 0 }
      else ⟨periodns frequency, dutyCyclens frequency, 1⟩ := by
  unfold setPitch
  split
  · rename_i hzero
    subst hzero
    rfl
  · rfl

theorem setPitch_setTo (frequency : UInt16) (s : Device) :
    (setPitch acceptAll frequency s).pwm.SetTo frequency := by
  rw [setPitch_acceptAll]
  unfold Pwm.SetTo dutyCyclens
  split <;> simp [*]

theorem deInit_acceptAll (o : SetOutcomes) {s : Device} (hstate : s.state = .inited) :
    (deInit acceptAll o s).2.pwm = { s.pwm with dutyCycle := 0, enable := 0 } ∧
      (deInit acceptAll o s).2.currentFreq = s.currentFreq ∧
      (deInit acceptAll o s).2.state = .ended := by
  unfold deInit
  rw [if_neg (not_not.2 hstate)]
  exact ⟨rfl, rfl, rfl⟩

/-- A channel that is switched off is set to no pitch. -/
theorem setTo_off (p : Pwm) (frequency : UInt16) :
    ({ p with dutyCycle := 0, enable := 0 } : Pwm).SetTo frequency ↔ frequency = 0 := by
  unfold Pwm.SetTo dutyCyclens
  by_cases h : frequency = 0 <;> simp [h]

/-- Two channels set to one pitch. -/
theorem Pwm.SetTo.agree {p q : Pwm} {frequency : UInt16} (hp : p.SetTo frequency)
    (hq : q.SetTo frequency) : p.enable = q.enable ∧ p.dutyCycle = q.dutyCycle ∧
      (frequency ≠ 0 → p.period = q.period) :=
  ⟨hp.1.trans hq.1.symm, hp.2.1.trans hq.2.1.symm, fun h => (hp.2.2 h).trans (hq.2.2 h).symm⟩

/-- The two versions hold the same, and what is remembered is what the channel of the code is
set to unless it is stale. -/
structure Faithful (v : Device × Device) (m : Remembered) : Prop where
  holds : Holds v.1
  holdsAlways : Holds v.2
  sameState : v.2.state = v.1.state
  inited : m.inited ↔ v.1.state = .inited
  current : v.1.currentFreq = m.current
  fresh : m.stale = false ↔ v.1.pwm.SetTo m.current

/-- What a `Speaker_PlayPitch` of the initialised speaker does to the two versions. -/
theorem bothStep_playPitch {v : Device × Device} (frequency : UInt16)
    (hgood : (Call.playPitch frequency).Succeeds) (hstate : v.1.state = .inited)
    (hsame : v.2.state = v.1.state) :
    bothStep v ⟨.playPitch frequency, hgood⟩ =
      (if frequency = v.1.currentFreq then v.1 else setPitch acceptAll frequency v.1,
        setPitch acceptAll frequency v.2) := by
  have halways : playPitchAlways acceptAll frequency v.2 =
      (.errorNone, setPitch acceptAll frequency v.2) :=
    if_neg (not_not.2 (hsame.trans hstate))
  refine Prod.ext ?_ ?_
  · simp only [bothStep, Call.step, Call.run]
    split
    · rename_i heq
      rw [heq, playPitch_same _ hstate]
    · rename_i hne
      rw [playPitch_other _ hstate hne]
  · simp only [bothStep, Call.stepAlways, halways]

/-- A `Speaker_PlayPitch` agrees with the version without the test exactly if it does not
repeat a stale frequency. -/
theorem Faithful.playsAsAlways {v : Device × Device} {m : Remembered} (h : Faithful v m)
    (call : GoodCall) : PlaysAsAlways v call ↔ NoStaleRepeat m call := by
  obtain ⟨call, hgood⟩ := call
  cases call with
  | init o => exact iff_of_true nofun nofun
  | setVolume level o => exact iff_of_true nofun nofun
  | deInit o => exact iff_of_true nofun nofun
  | playPitch frequency =>
      by_cases hstate : v.1.state = .inited
      · have hboth := bothStep_playPitch frequency hgood hstate h.sameState
        have hset := setPitch_setTo frequency v.2
        by_cases heq : frequency = m.current
        -- the code does nothing: it agrees if the channel is still set to this frequency
        · rw [if_pos (heq.trans h.current.symm)] at hboth
          have hfresh := h.fresh
          rw [← heq] at hfresh
          constructor
          · intro hplays _ hcall _ _
            refine hfresh.2 ?_
            obtain ⟨_, _, _, hset'⟩ := hplays frequency rfl
              (by simp [Call.run, heq, ← h.current, playPitch_same _ hstate])
            rwa [hboth] at hset'
          · intro hrepeat f hcall _
            cases hcall
            have hset' := hfresh.1 (hrepeat _ rfl (h.inited.2 hstate) heq)
            rw [hboth]
            exact ⟨(hset'.agree hset).1, (hset'.agree hset).2.1, (hset'.agree hset).2.2, hset'⟩
        -- both versions write the pitch
        · rw [if_neg (fun he => heq (he.trans h.current))] at hboth
          refine iff_of_true (fun f hcall _ => ?_) (fun f hcall _ he => ?_)
          · cases hcall
            have hset' := setPitch_setTo frequency v.1
            rw [hboth]
            exact ⟨(hset'.agree hset).1, (hset'.agree hset).2.1, (hset'.agree hset).2.2, hset'⟩
          · cases hcall
            exact absurd he heq
      · refine iff_of_true (fun f hcall hnone => ?_) (fun f hcall hinited _ => ?_)
        · cases hcall
          simp [Call.run, playPitch_of_ended _ _ hstate] at hnone
        · exact absurd (h.inited.1 hinited) hstate

section Next

variable {v : Device × Device} {m : Remembered}

/-- What is remembered has the frequency and the channel as before. -/
theorem Faithful.init (h : Faithful v m) (o : InitOutcomes) (hgood : (Call.init o).Succeeds) :
    Faithful (bothStep v ⟨.init o, hgood⟩) (m.next ⟨.init o, hgood⟩) := by
  have hwork : o.Work := hgood
  obtain ⟨hholds, hinited⟩ := h.holds.init_inited hwork
  obtain ⟨hholds', hinited'⟩ := h.holdsAlways.init_inited hwork
  obtain ⟨hpwm, hfreq, _⟩ := init_sound o v.1
  refine ⟨hholds, hholds', hinited'.trans hinited.symm, iff_of_true rfl hinited,
    hfreq.trans h.current, ?_⟩
  show m.stale = false ↔ (Speaker.init o v.1).2.pwm.SetTo m.current
  rw [hpwm]
  exact h.fresh

/-- Nothing that is remembered depends on the lines. -/
theorem Faithful.setVolume (h : Faithful v m) (level : UInt32) (o : SetOutcomes)
    (hgood : (Call.setVolume level o).Succeeds) :
    Faithful (bothStep v ⟨.setVolume level o, hgood⟩) (m.next ⟨.setVolume level o, hgood⟩) := by
  have hsame := setVolume_pinsOnly level o v.1
  have hsame' := setVolume_pinsOnly level o v.2
  refine ⟨h.holds.of_same hsame.state (setVolume_samePins level o v.1),
    h.holdsAlways.of_same hsame'.state (setVolume_samePins level o v.2),
    hsame'.state.trans (h.sameState.trans hsame.state.symm), ?_,
    hsame.currentFreq.trans h.current, ?_⟩
  · show m.inited ↔ (Speaker.setVolume level o v.1).2.state = .inited
    rw [hsame.state]
    exact h.inited
  · show m.stale = false ↔ (Speaker.setVolume level o v.1).2.pwm.SetTo m.current
    rw [hsame.pwm]
    exact h.fresh

/-- The channel is switched off behind the frequency that is remembered. -/
theorem Faithful.deInit (h : Faithful v m) (o : SetOutcomes) (hgood : (Call.deInit o).Succeeds) :
    Faithful (bothStep v ⟨.deInit o, hgood⟩) (m.next ⟨.deInit o, hgood⟩) := by
  by_cases hstate : v.1.state = .inited
  · obtain ⟨hpwm, hfreq, hended⟩ := deInit_acceptAll o hstate
    obtain ⟨_, _, hended'⟩ := deInit_acceptAll o (h.sameState.trans hstate)
    have hnext : m.next ⟨.deInit o, hgood⟩ =
        { m with inited := false, stale := m.current ≠ 0 } := by
      simp [Remembered.next, h.inited.2 hstate]
    rw [hnext]
    -- the channel is off now, which is what a remembered rest amounts to and no other pitch
    refine ⟨h.holds.deInit _ o, h.holdsAlways.deInit _ o, hended'.trans hended.symm, ?_,
      hfreq.trans h.current, ?_⟩
    · refine iff_of_false nofun ?_
      show (Speaker.deInit acceptAll o v.1).2.state ≠ .inited
      simp [hended]
    · show _ ↔ (Speaker.deInit acceptAll o v.1).2.pwm.SetTo m.current
      rw [hpwm, setTo_off]
      simp
  · have hboth : bothStep v ⟨.deInit o, hgood⟩ = v := by
      refine Prod.ext ?_ ?_
      · simp [bothStep, Call.step, Call.run, Speaker.deInit, hstate]
      · simp [bothStep, Call.stepAlways, Call.step, Call.run, Speaker.deInit, h.sameState,
          hstate]
    have hidle : m.inited = false := Bool.eq_false_iff.2 (mt h.inited.1 hstate)
    have hnext : m.next ⟨.deInit o, hgood⟩ = m := by
      simp [Remembered.next, hidle]
    rw [hboth, hnext]
    exact h

/-- The frequency is remembered, and the channel set to it if it is another one. -/
theorem Faithful.playPitch (h : Faithful v m) (frequency : UInt16)
    (hgood : (Call.playPitch frequency).Succeeds) :
    Faithful (bothStep v ⟨.playPitch frequency, hgood⟩)
      (m.next ⟨.playPitch frequency, hgood⟩) := by
  by_cases hstate : v.1.state = .inited
  · have hboth := bothStep_playPitch frequency hgood hstate h.sameState
    have hsound := setPitch_soundOnly acceptAll frequency v.1
    have hsound' := setPitch_soundOnly acceptAll frequency v.2
    have halways := h.holdsAlways.of_same hsound'.state hsound'.samePins
    by_cases heq : frequency = m.current
    · rw [if_pos (heq.trans h.current.symm)] at hboth
      have hnext : m.next ⟨.playPitch frequency, hgood⟩ = m := by
        simp [Remembered.next, heq]
      rw [hboth, hnext]
      exact ⟨h.holds, halways, hsound'.state.trans h.sameState, h.inited, h.current, h.fresh⟩
    · rw [if_neg (fun he => heq (he.trans h.current))] at hboth
      have hnext : m.next ⟨.playPitch frequency, hgood⟩ =
          { m with current := frequency, stale := false } := by
        simp [Remembered.next, heq, h.inited.2 hstate]
      rw [hboth, hnext]
      exact ⟨h.holds.of_same hsound.state hsound.samePins, halways,
        hsound'.state.trans (h.sameState.trans hsound.state.symm),
        h.inited.trans (by rw [hsound.state]), rfl, iff_of_true rfl (setPitch_setTo _ _)⟩
  · have hboth : bothStep v ⟨.playPitch frequency, hgood⟩ = v := by
      refine Prod.ext ?_ ?_
      · simp [bothStep, Call.step, Call.run, playPitch_of_ended _ _ hstate]
      · simp [bothStep, Call.stepAlways, playPitchAlways, h.sameState, hstate]
    have hidle : m.inited = false := Bool.eq_false_iff.2 (mt h.inited.1 hstate)
    have hnext : m.next ⟨.playPitch frequency, hgood⟩ = m := by
      simp [Remembered.next, hidle]
    rw [hboth, hnext]
    exact h

/-- Every call keeps the two versions together, and what is remembered with them. -/
theorem Faithful.next (h : Faithful v m) (call : GoodCall) :
    Faithful (bothStep v call) (m.next call) := by
  obtain ⟨call, hgood⟩ := call
  cases call with
  | init o => exact h.init o hgood
  | setVolume level o => exact h.setVolume level o hgood
  | deInit o => exact h.deInit o hgood
  | playPitch frequency => exact h.playPitch frequency hgood

end Next

/-- On hardware that never fails, the code sets the channel after every `Speaker_PlayPitch` as
the version without the test does, exactly if no call repeats a stale frequency. -/
theorem shortcut_agrees (pwm : Pwm) (bus : Bus)
    (hfree : ∀ l ∈ bus.requested, l.chip.name ≠ chipName) (calls : List GoodCall) :
    EveryCall bothStep PlaysAsAlways (.initial pwm bus, .initial pwm bus) calls ↔
      EveryCall Remembered.next NoStaleRepeat (.initial pwm) calls := by
  have hclosed : Holds (.initial pwm bus) := .ended rfl ⟨rfl, rfl, rfl, hfree⟩
  have hstart : Faithful (.initial pwm bus, .initial pwm bus) (.initial pwm) :=
    ⟨hclosed, hclosed, rfl, by simp [Remembered.initial, Device.initial], rfl,
      by simp [Remembered.initial, Device.initial]⟩
  exact EveryCall.iff_of_related (fun _ _ call h => h.playsAsAlways call)
    (fun _ _ call h _ => h.next call) hstart calls

/-- The speaker is closed after a note and plays another one when it is open again. -/
def reopened (frequency : UInt16) : List GoodCall :=
  [⟨.init workingInit, by decide⟩, ⟨.playPitch 440, trivial⟩, ⟨.deInit ⟨true, true⟩, by decide⟩,
    ⟨.init workingInit, by decide⟩, ⟨.playPitch frequency, trivial⟩]

theorem shortcut_agrees_other_note :
    EveryCall bothStep PlaysAsAlways (.initial ⟨0, 0, 0⟩ .empty, .initial ⟨0, 0, 0⟩ .empty)
      (reopened 262) := by
  refine (shortcut_agrees _ _ (by simp [Bus.empty]) _).2 ⟨nofun, ?_, nofun, nofun, ?_, trivial⟩
  all_goals
    intro frequency hcall _ hrepeat
    cases hcall
    revert hrepeat
    decide

/-- A reopened speaker stays silent when it is asked for the note it played last. -/
theorem reopened_speaker_silent :
    ¬ EveryCall bothStep PlaysAsAlways (.initial ⟨0, 0, 0⟩ .empty, .initial ⟨0, 0, 0⟩ .empty)
      (reopened 440) := by
  intro h
  have henabled := (h.2.2.2.2.1 440 rfl (by decide)).1
  revert henabled
  decide

end BatteryInfo.Speaker
