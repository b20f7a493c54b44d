import BatteryInfo.Speaker.Pins

/-!
# Setting a pitch

The kernel refuses a write that would make the duty cycle of the channel longer than its
period, and `Speaker_PlayPitch` always writes the period before the duty cycle. When the period
gets shorter than the duty cycle of the note before, the write to `period` is refused and the
note sounds at the old period (`pitches_are_set`).
-/

namespace BatteryInfo.Speaker

open Gpiod Sequence

/-- The kernel refuses exactly the writes that would make the duty cycle exceed the period. -/
def exactKernel : Kernel
  | _, .period, value, p => p.dutyCycle ≤ value
  | _, .dutyCycle, value, p => value ≤ p.period
  | _, .enable, _, _ => true

/-- The last value written to a file of the channel, accepted or not. -/
def lastWritten (file : PwmFile) (log : List Write) : Option Nat :=
  (log.filterMap fun w => if w.subDir = .pwm0 file then some w.value else none).getLast?

/-- Once a period has been written, the last duty cycle written is at most the last period
written. -/
def DutyWithinPeriod (log : List Write) : Prop :=
  ∀ p ∈ lastWritten .period log, ∀ d ∈ lastWritten .dutyCycle log, d ≤ p

/-- The newest write is accepted if it is a period or a duty cycle and a period has been written
before. -/
def NewestAccepted (log : List Write) : Prop :=
  ∀ before w, log = before ++ [w] → w.subDir = .pwm0 .period ∨ w.subDir = .pwm0 .dutyCycle →
    lastWritten .period before ≠ none → w.accepted

/-- After the call every duty cycle was written within its period, no period or duty cycle was
refused after the first period, and a pitch that was played is what the channel is set to. -/
def PitchIsSet (s : Device) (call : Call) : Prop :=
  AtEveryPoint DutyWithinPeriod (call.step exactKernel s).writes ∧
  AtEveryPoint NewestAccepted (call.step exactKernel s).writes ∧
  ∀ frequency, call = .playPitch frequency → s.state = .inited → frequency ≠ 0 →
    (call.step exactKernel s).pwm.period = periodns frequency ∧
    (call.step exactKernel s).pwm.dutyCycle = periodns frequency / 2

/-- A new frequency has a period no shorter than the duty cycle that the channel has before the
call, and a frequency is repeated only while the channel is enabled. -/
def PitchFits (s : Device) (call : Call) : Prop :=
  ∀ frequency, call = .playPitch frequency → s.state = .inited → frequency ≠ 0 →
    if frequency = s.currentFreq then s.pwm.enable ≠ 0
    else s.pwm.dutyCycle ≤ periodns frequency

/-! ## The log of writes -/

theorem lastWritten_concat (file : PwmFile) (log : List Write) (w : Write) :
    lastWritten file (log ++ [w]) =
      if w.subDir = .pwm0 file then some w.value else lastWritten file log := by
  unfold lastWritten
  rw [List.filterMap_append]
  split
  · rename_i h
    simp [h]
  · rename_i h
    simp [h]

/-- The channel is set to the last values written, and its duty cycle fits its period. -/
structure Obeyed (pwm : Pwm) (log : List Write) : Prop where
  fits : pwm.dutyCycle ≤ pwm.period
  period : ∀ p ∈ lastWritten .period log, pwm.period = p
  dutyCycle : ∀ d ∈ lastWritten .dutyCycle log, pwm.dutyCycle = d

theorem Obeyed.dutyWithinPeriod {pwm : Pwm} {log : List Write} (h : Obeyed pwm log) :
    DutyWithinPeriod log := by
  intro p hp d hd
  rw [← h.period p hp, ← h.dutyCycle d hd]
  exact h.fits

/-- A write that the kernel accepts. -/
theorem Obeyed.store {pwm : Pwm} {log : List Write} (h : Obeyed pwm log) {n : Nat}
    {file : PwmFile} {value : Nat} (haccepts : exactKernel n file value pwm)
    (speakerDir : List Char) :
    Obeyed (pwm.store file value) (log ++ [⟨speakerDir, .pwm0 file, value, true⟩]) := by
  refine ⟨?_, ?_, ?_⟩
  · cases file with
    | period => simpa [exactKernel, Pwm.store] using haccepts
    | dutyCycle => simpa [exactKernel, Pwm.store] using haccepts
    | enable => exact h.fits
  · intro p hp
    rw [lastWritten_concat] at hp
    cases file with
    | period => simpa [Pwm.store] using hp
    | dutyCycle => exact h.period p (by simpa using hp)
    | enable => exact h.period p (by simpa using hp)
  · intro d hd
    rw [lastWritten_concat] at hd
    cases file with
    | period => exact h.dutyCycle d (by simpa using hd)
    | dutyCycle => simpa [Pwm.store] using hd
    | enable => exact h.dutyCycle d (by simpa using hd)

/-- The log is in order at every point, and the channel follows it. -/
structure InOrder (pwm : Pwm) (log : List Write) : Prop where
  obeyed : Obeyed pwm log
  within : AtEveryPoint DutyWithinPeriod log
  accepted : AtEveryPoint NewestAccepted log

theorem InOrder.nil {pwm : Pwm} (hfits : pwm.dutyCycle ≤ pwm.period) : InOrder pwm [] where
  obeyed := ⟨hfits, by simp [lastWritten], by simp [lastWritten]⟩
  within := atEveryPoint_nil.2 (by simp [DutyWithinPeriod, lastWritten])
  accepted := atEveryPoint_nil.2 (by simp [NewestAccepted])

/-- A write that is accepted or goes elsewhere, after which the channel follows the log. -/
theorem InOrder.concat {pwm pwm' : Pwm} {log : List Write} (h : InOrder pwm log) {w : Write}
    (hobeyed : Obeyed pwm' (log ++ [w])) (hw : w.accepted ∨ w.subDir = .exportFile) :
    InOrder pwm' (log ++ [w]) where
  obeyed := hobeyed
  within := atEveryPoint_concat.2 ⟨h.within, hobeyed.dutyWithinPeriod⟩
  accepted := by
    refine atEveryPoint_concat.2 ⟨h.accepted, ?_⟩
    intro before v hlog hsubDir _
    obtain ⟨_, hv⟩ := List.append_inj' hlog rfl
    cases hv
    rcases hw with hw | hw
    · exact hw
    · simp [hw] at hsubDir

/-- Writes to `export` are none to the channel. -/
theorem InOrder.exports {pwm : Pwm} {log exports : List Write} (h : InOrder pwm log)
    (hexports : ∀ w ∈ exports, w.subDir = .exportFile) : InOrder pwm (log ++ exports) := by
  induction exports generalizing log with
  | nil => simpa using h
  | cons w rest ih =>
      have hw : w.subDir = .exportFile := hexports w List.mem_cons_self
      have hobeyed : Obeyed pwm (log ++ [w]) := by
        refine ⟨h.obeyed.fits, ?_, ?_⟩
        · rw [lastWritten_concat, if_neg (by simp [hw])]
          exact h.obeyed.period
        · rw [lastWritten_concat, if_neg (by simp [hw])]
          exact h.obeyed.dutyCycle
      rw [List.append_cons]
      exact ih (h.concat hobeyed (.inr hw)) fun v hv => hexports v (List.mem_cons_of_mem w hv)

/-- A write that the kernel accepts takes effect and keeps the log in order. -/
theorem InOrder.write {s : Device} (h : InOrder s.pwm s.writes) (file : PwmFile) (value : Nat)
    (haccepts : ∀ n, exactKernel n file value s.pwm) :
    InOrder (pwmWrite exactKernel file value s).2.pwm
        (pwmWrite exactKernel file value s).2.writes ∧
      (pwmWrite exactKernel file value s).2.pwm = s.pwm.store file value := by
  have hwrite : (pwmWrite exactKernel file value s).2 =
      { s with
        pwm := s.pwm.store file value
        writes := s.writes ++ [⟨s.speakerDir, .pwm0 file, value, true⟩] } := by
    simp only [pwmWrite, haccepts, if_true, pwmFileWriteInt]
  rw [hwrite]
  exact ⟨h.concat (h.obeyed.store (haccepts 0) s.speakerDir) (.inl rfl), rfl⟩

/-! ## One call -/

/-- The log is in order, and the remembered frequency is what the channel sounds unless it has
been switched off. -/
structure Tuned (s : Device) : Prop where
  inOrder : InOrder s.pwm s.writes
  sounds : s.currentFreq ≠ 0 → s.pwm.enable ≠ 0 →
    s.pwm.period = periodns s.currentFreq ∧ s.pwm.dutyCycle = periodns s.currentFreq / 2
  silent : s.currentFreq ≠ 0 → s.pwm.enable = 0 → s.pwm.dutyCycle = 0

/-- The duty cycle is set to 0 and the channel disabled. -/
theorem InOrder.off {s : Device} (h : InOrder s.pwm s.writes) :
    InOrder (pwmWrite exactKernel .enable 0 (pwmWrite exactKernel .dutyCycle 0 s).2).2.pwm
        (pwmWrite exactKernel .enable 0 (pwmWrite exactKernel .dutyCycle 0 s).2).2.writes ∧
      (pwmWrite exactKernel .enable 0 (pwmWrite exactKernel .dutyCycle 0 s).2).2.pwm =
        { s.pwm with dutyCycle := 0, enable := 0 } := by
  obtain ⟨hduty, hpwm⟩ := h.write .dutyCycle 0 (by simp [exactKernel])
  obtain ⟨henable, hpwm'⟩ := hduty.write .enable 0 (by simp [exactKernel])
  refine ⟨henable, ?_⟩
  rw [hpwm', hpwm]
  rfl

/-- A period that fits the duty cycle is set, then half of it as duty cycle, and the channel is
enabled. -/
theorem InOrder.pitch {s : Device} (h : InOrder s.pwm s.writes) {frequency : UInt16}
    (hne : frequency ≠ 0) (hfits : s.pwm.dutyCycle ≤ periodns frequency) :
    InOrder (setPitch exactKernel frequency s).pwm (setPitch exactKernel frequency s).writes ∧
      (setPitch exactKernel frequency s).pwm =
        ⟨periodns frequency, periodns frequency / 2, 1⟩ := by
  obtain ⟨hperiod, hpwm⟩ := h.write .period (periodns frequency)
    (by simpa [exactKernel] using hfits)
  obtain ⟨hduty, hpwm'⟩ := hperiod.write .dutyCycle (dutyCyclens frequency) (by
    rw [hpwm]
    simp only [exactKernel, Pwm.store, dutyCyclens, if_neg hne]
    simp [Nat.div_le_self])
  obtain ⟨henable, hpwm''⟩ := hduty.write .enable 1 (by simp [exactKernel])
  have hset : setPitch exactKernel frequency s =
      { (pwmWrite exactKernel .enable 1 (pwmWrite exactKernel .dutyCycle (dutyCyclens frequency)
          (pwmWrite exactKernel .period (periodns frequency) s).2).2).2 with
        currentFreq := frequency } := by
    simp only [setPitch, if_neg hne]
  rw [hset]
  refine ⟨henable, ?_⟩
  -- each of the three writes is accepted, so the channel holds all three values
  show (pwmWrite exactKernel .enable 1 _).2.pwm = _
  rw [hpwm'', hpwm', hpwm]
  simp [Pwm.store, dutyCyclens, hne]

/-- Only a write to `period` changes the period. -/
theorem pwmWrite_period {kernel : Kernel} {file : PwmFile} {value : Nat} {s : Device}
    (hfile : file ≠ .period) : (pwmWrite kernel file value s).2.pwm.period = s.pwm.period := by
  unfold pwmWrite
  cases kernel s.writes.length file value s.pwm with
  | false => rfl
  | true =>
      cases file with
      | period => exact absurd rfl hfile
      | dutyCycle => rfl
      | enable => rfl

/-- A period that does not fit the duty cycle is refused, and the pitch stays as it was. -/
theorem setPitch_refused {s : Device} {frequency : UInt16}
    (hrefused : periodns frequency < s.pwm.dutyCycle) :
    (setPitch exactKernel frequency s).pwm.period = s.pwm.period := by
  have hperiod : (pwmWrite exactKernel .period (periodns frequency) s).2.pwm = s.pwm := by
    simp [pwmWrite, exactKernel, pwmFileWriteInt, Nat.not_le.2 hrefused]
  show (pwmWrite exactKernel .enable _ (pwmWrite exactKernel .dutyCycle _ _).2).2.pwm.period = _
  rw [pwmWrite_period (by simp), pwmWrite_period (by simp)]
  split
  · rfl
  · rw [hperiod]

/-- No frequency is so high that half of its period is nothing. -/
theorem periodns_half_pos {frequency : UInt16} (hne : frequency ≠ 0) :
    0 < periodns frequency / 2 := by
  have hlt : frequency.toNat < 2 ^ 16 := frequency.toNat_lt
  have hpos : 0 < frequency.toNat := by
    refine Nat.pos_of_ne_zero fun hzero => hne ?_
    exact UInt16.toNat_inj.1 hzero
  unfold periodns
  rw [Nat.div_div_eq_div_mul]
  exact Nat.div_pos (by omega) (by omega)

theorem Tuned.deInit {s : Device} (h : Tuned s) (o : SetOutcomes) :
    Tuned (deInit exactKernel o s).2 := by
  unfold Speaker.deInit
  split
  · exact h
  · obtain ⟨hoff, hpwm⟩ := h.inOrder.off
    refine ⟨hoff, fun _ henable => absurd ?_ henable, fun _ _ => ?_⟩
    · exact congrArg Pwm.enable hpwm
    · exact congrArg Pwm.dutyCycle hpwm

theorem Tuned.of_pinsOnly {s s' : Device} (h : Tuned s) (hsame : PinsOnly s s') : Tuned s' := by
  obtain ⟨_, _, hfreq, hpwm, hwrites⟩ := hsame
  refine ⟨?_, ?_, ?_⟩
  · rw [hpwm, hwrites]
    exact h.inOrder
  · rw [hfreq, hpwm]
    exact h.sounds
  · rw [hfreq, hpwm]
    exact h.silent

theorem Tuned.init {s : Device} (h : Tuned s) (o : InitOutcomes) : Tuned (init o s).2 := by
  obtain ⟨hpwm, hfreq, exports, hwrites, hexports⟩ := init_sound o s
  refine ⟨?_, ?_, ?_⟩
  · rw [hpwm, hwrites]
    exact h.inOrder.exports hexports
  · rw [hfreq, hpwm]
    exact h.sounds
  · rw [hfreq, hpwm]
    exact h.silent

/-- A pitch that fits is set. -/
theorem Tuned.setPitch {s : Device} (h : Tuned s) {frequency : UInt16}
    (hfits : frequency ≠ 0 → s.pwm.dutyCycle ≤ periodns frequency) :
    Tuned (setPitch exactKernel frequency s) := by
  by_cases hzero : frequency = 0
  · subst hzero
    obtain ⟨hoff, hpwm⟩ := h.inOrder.off
    exact ⟨hoff, fun hne => absurd rfl hne, fun hne => absurd rfl hne⟩
  · obtain ⟨hpitch, hpwm⟩ := h.inOrder.pitch hzero (hfits hzero)
    refine ⟨hpitch, fun _ _ => ?_, fun _ henable => ?_⟩
    · rw [hpwm]
      exact ⟨rfl, rfl⟩
    · rw [hpwm] at henable
      simp at henable

/-- A call that fits keeps the channel in tune with the module. -/
theorem Tuned.step {s : Device} (h : Tuned s) {call : Call} (hfits : PitchFits s call) :
    Tuned (call.step exactKernel s) := by
  cases call with
  | init o => exact h.init o
  | setVolume level o => exact h.of_pinsOnly (setVolume_pinsOnly level o s)
  | deInit o => exact h.deInit o
  | playPitch frequency =>
      show Tuned (playPitch exactKernel frequency s).2
      by_cases hstate : s.state = .inited
      · by_cases heq : frequency = s.currentFreq
        · rw [heq, playPitch_same _ hstate]
          exact h
        · rw [playPitch_other _ hstate heq]
          refine h.setPitch fun hne => ?_
          have := hfits frequency rfl hstate hne
          rwa [if_neg heq] at this
      · rw [playPitch_of_ended _ _ hstate]
        exact h

/-- A call does what is asked of it exactly if its pitch fits. -/
theorem Tuned.pitchIsSet {s : Device} (h : Tuned s) (call : Call) :
    PitchIsSet s call ↔ PitchFits s call := by
  constructor
  · rintro ⟨_, _, hset⟩ frequency hcall hstate hne
    subst hcall
    obtain ⟨hperiod, hduty⟩ := hset frequency rfl hstate hne
    split
    · rename_i heq
      intro henable
      -- the call is skipped on a channel that is off, and half a period is not 0
      have hskipped : Call.step exactKernel s (.playPitch frequency) = s := by
        simp [Call.step, Call.run, heq, playPitch_same _ hstate]
      rw [hskipped, h.silent (heq ▸ hne) henable] at hduty
      exact (periodns_half_pos hne).ne hduty
    · rename_i hother
      by_contra hshort
      -- the refused period would have to be the old one, which is no shorter than the duty cycle
      have hstep : Call.step exactKernel s (.playPitch frequency) =
          Speaker.setPitch exactKernel frequency s := by
        simp [Call.step, Call.run, playPitch_other _ hstate hother]
      rw [hstep, setPitch_refused (Nat.not_le.1 hshort)] at hperiod
      have := h.inOrder.obeyed.fits
      omega
  · intro hfits
    have hnext := h.step hfits
    refine ⟨hnext.inOrder.within, hnext.inOrder.accepted, ?_⟩
    intro frequency hcall hstate hne
    have hpitch := hfits frequency hcall hstate hne
    subst hcall
    by_cases heq : frequency = s.currentFreq
    · rw [if_pos heq] at hpitch
      have hskipped : Call.step exactKernel s (.playPitch frequency) = s := by
        simp [Call.step, Call.run, heq, playPitch_same _ hstate]
      rw [hskipped, heq]
      exact h.sounds (heq ▸ hne) hpitch
    · rw [if_neg heq] at hpitch
      have hstep : Call.step exactKernel s (.playPitch frequency) =
          Speaker.setPitch exactKernel frequency s := by
        simp [Call.step, Call.run, playPitch_other _ hstate heq]
      rw [hstep, (h.inOrder.pitch hne hpitch).2]
      exact ⟨rfl, rfl⟩

/-- With the exact kernel and from the start of the program, every duty cycle is written within
its period, no write is refused once a period has been written, and every pitch is set, exactly
if every pitch fits. -/
theorem pitches_are_set (pwm : Pwm) (bus : Bus) (hfits : pwm.dutyCycle ≤ pwm.period)
    (calls : List Call) :
    EveryCall (Call.step exactKernel) PitchIsSet (.initial pwm bus) calls ↔
      EveryCall (Call.step exactKernel) PitchFits (.initial pwm bus) calls :=
  EveryCall.iff_of_invariant (I := Tuned) (fun _ call h => h.pitchIsSet call)
    (fun _ _ h => h.step)
    ⟨.nil hfits, fun hne => absurd rfl hne, fun hne => absurd rfl hne⟩ calls

theorem pitches_are_set_downwards :
    EveryCall (Call.step exactKernel) PitchIsSet (.initial ⟨0, 0, 0⟩ .empty)
      [.init workingInit, .playPitch 880, .playPitch 262, .playPitch 0, .deInit ⟨true, true⟩] := by
  refine (pitches_are_set _ _ (by decide) _).2 ⟨nofun, ?_, ?_, ?_, nofun, trivial⟩
  all_goals
    intro frequency hcall _ hne
    cases hcall
    revert hne
    decide

/-- A note more than an octave above the one that sounds keeps the old period. -/
theorem octave_jump_refused :
    ¬ EveryCall (Call.step exactKernel) PitchIsSet (.initial ⟨0, 0, 0⟩ .empty)
      [.init workingInit, .playPitch 262, .playPitch 880] := by
  intro h
  have hperiod := (h.2.2.1.2.2 880 rfl (by decide) (by decide)).1
  revert hperiod
  decide

end BatteryInfo.Speaker
