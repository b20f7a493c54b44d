import BatteryInfo.Speaker.Shortcut

/-!
# Pitches that could not be set

`Speaker_PlayPitch` ignores the errors of its writes to the PWM channel, returns no error and
remembers the frequency all the same. So a pitch is taken as set although a write failed, and
a call that should try again does nothing (`failures_noticed`).
-/

namespace BatteryInfo.Speaker

open Gpiod

/-- A write fails or takes effect as `lands` says of its file. A call writes to a file once at
most, so that these are all the patterns of failures there are. -/
def failing (lands : PwmFile → Bool) : Kernel :=
  fun _ file _ _ => lands file

/-- Some write that was made from the state `s` to the state `s'` failed. -/
def SomeWriteFailed (s s' : Device) : Prop :=
  ∃ w ∈ s'.writes.drop s.writes.length, ¬ w.accepted

/-- A `Speaker_PlayPitch` that returns no error has set the channel to the pitch. If one of its
writes failed then the same call writes again, whatever becomes of that, and with working writes
it sets the channel to the pitch. -/
def FailuresNoticed (lands : PwmFile → Bool) (frequency : UInt16) (s : Device) : Prop :=
  ((playPitch (failing lands) frequency s).1 = .errorNone →
    (playPitch (failing lands) frequency s).2.pwm.SetTo frequency) ∧
  (SomeWriteFailed s (playPitch (failing lands) frequency s).2 →
    (∀ kernel, (playPitch kernel frequency (playPitch (failing lands) frequency s).2).2.writes ≠
      (playPitch (failing lands) frequency s).2.writes) ∧
    (playPitch acceptAll frequency
      (playPitch (failing lands) frequency s).2).2.pwm.SetTo frequency)

/-- No write of a `Speaker_PlayPitch` of a new frequency fails. -/
def AllLand (lands : PwmFile → Bool) (frequency : UInt16) : Prop :=
  (frequency ≠ 0 → lands .period) ∧ lands .dutyCycle ∧ lands .enable

/-- No write of the call fails, and if it makes none then the channel is set to the pitch
already. -/
def NothingToNotice (lands : PwmFile → Bool) (frequency : UInt16) (s : Device) : Prop :=
  if frequency = s.currentFreq then s.pwm.SetTo frequency else AllLand lands frequency

theorem setPitch_writes (lands : PwmFile → Bool) (frequency : UInt16) (s : Device) :
    (setPitch (failing lands) frequency s).writes = s.writes ++
      (if frequency = 0 then []
        else [⟨s.speakerDir, .pwm0 .period, periodns frequency, lands .period⟩]) ++
      [⟨s.speakerDir, .pwm0 .dutyCycle, dutyCyclens frequency, lands .dutyCycle⟩,
        ⟨s.speakerDir, .pwm0 .enable, if frequency = 0 then 0 else 1, lands .enable⟩] := by
  have hdir (file : PwmFile) (value : Nat) (s : Device) :
      (pwmWrite (failing lands) file value s).2.speakerDir = s.speakerDir :=
    (pwmWrite_soundOnly _ _ _ _).speakerDir
  by_cases hzero : frequency = 0
  · simp [setPitch, hzero, pwmWrite_writes, hdir, failing]
  · simp [setPitch, hzero, pwmWrite_writes, hdir, failing]

/-- Some write of a new pitch failed exactly if not all of them land. -/
theorem someWriteFailed_setPitch (lands : PwmFile → Bool) (frequency : UInt16) (s : Device) :
    SomeWriteFailed s (setPitch (failing lands) frequency s) ↔ ¬ AllLand lands frequency := by
  have hall : (¬ SomeWriteFailed s (setPitch (failing lands) frequency s)) ↔
      AllLand lands frequency := by
    unfold SomeWriteFailed AllLand
    rw [setPitch_writes, List.append_assoc, List.drop_left]
    by_cases hzero : frequency = 0
    · simp [hzero]
    · simp [hzero]
  rw [← hall, not_not]

/-- When all of its writes land, a new pitch is set as on hardware that never fails. -/
theorem setPitch_allLand {lands : PwmFile → Bool} {frequency : UInt16}
    (hlands : AllLand lands frequency) (s : Device) :
    (setPitch (failing lands) frequency s).pwm = (setPitch acceptAll frequency s).pwm := by
  obtain ⟨hperiod, hduty, henable⟩ := hlands
  by_cases hzero : frequency = 0
  · simp [setPitch, hzero, pwmWrite, pwmFileWriteInt, failing, acceptAll, hduty, henable]
  · simp [setPitch, hzero, pwmWrite, pwmFileWriteInt, failing, acceptAll, hperiod hzero, hduty,
      henable]

/-- A frequency that was just played is not written again. -/
theorem playPitch_again (kernel : Kernel) {frequency : UInt16} {s : Device}
    (hstate : s.state = .inited) (lands : PwmFile → Bool) :
    (playPitch kernel frequency (setPitch (failing lands) frequency s)).2 =
      setPitch (failing lands) frequency s := by
  have hinited : (setPitch (failing lands) frequency s).state = .inited :=
    (setPitch_soundOnly _ _ _).state.trans hstate
  have hcurrent : (setPitch (failing lands) frequency s).currentFreq = frequency := rfl
  have hsame := playPitch_same kernel hinited
  rw [hcurrent] at hsame
  rw [hsame]

/-- The failures of a `Speaker_PlayPitch` of the initialised speaker are noticed exactly if there
are none, and the call does not rely on a channel that has changed behind it. -/
theorem failures_noticed (lands : PwmFile → Bool) (frequency : UInt16) (s : Device)
    (hstate : s.state = .inited) :
    FailuresNoticed lands frequency s ↔ NothingToNotice lands frequency s := by
  unfold FailuresNoticed NothingToNotice
  by_cases heq : frequency = s.currentFreq
  · -- the call writes nothing, so no write of it can fail
    have hskipped : playPitch (failing lands) frequency s = (.errorNone, s) := by
      rw [heq]
      exact playPitch_same _ hstate
    have hnone : ¬ SomeWriteFailed s s := by simp [SomeWriteFailed]
    rw [hskipped, if_pos heq]
    exact ⟨fun h => h.1 rfl, fun hset => ⟨fun _ => hset, fun hfailed => absurd hfailed hnone⟩⟩
  · rw [playPitch_other _ hstate heq, if_neg heq]
    constructor
    · rintro ⟨_, hretries⟩
      by_contra hlands
      -- a failed write is never made good: the retry is skipped
      have hfailed := (someWriteFailed_setPitch lands frequency s).2 hlands
      exact (hretries hfailed).1 acceptAll (by rw [playPitch_again _ hstate])
    · intro hlands
      refine ⟨fun _ => ?_, fun hfailed => ?_⟩
      · show (setPitch (failing lands) frequency s).pwm.SetTo frequency
        rw [setPitch_allLand hlands]
        exact setPitch_setTo frequency s
      · exact absurd hlands ((someWriteFailed_setPitch lands frequency s).1 hfailed)

/-- The speaker as the first `Speaker_Init` on working hardware leaves it. -/
def justInited : Device :=
  (init workingInit (.initial ⟨0, 0, 0⟩ .empty)).2

theorem failures_noticed_working : FailuresNoticed (fun _ => true) 440 justInited :=
  (failures_noticed (fun _ => true) 440 justInited (by decide)).2
    (by simp [NothingToNotice, AllLand]; decide)

/-- A note whose three writes all fail is returned as played, and playing it again writes
nothing. -/
theorem failed_note_taken_as_set :
    justInited.state = .inited ∧ ¬ FailuresNoticed (fun _ => false) 440 justInited := by
  refine ⟨by decide, fun h => ?_⟩
  have henabled := (h.1 (by decide)).1
  revert henabled
  decide

end BatteryInfo.Speaker
