import BatteryInfo.Concurrent.TwoPhase
import BatteryInfo.Speaker.Pins

/-!
# The two mutexes of the speaker

The four functions of `Speaker.c` as code that any number of threads may run at the same time.
`SpeakerMutex` guards the state, the directory and the sound, `VolumeMutex` the chip and its two
lines, and `Speaker_Init` and `Speaker_DeInit` take the second with the first held. One step is
one operation on a mutex, one write to a file of the channel, or one libgpiod call with the
tests around it.

The code locks in two phases, so that what is proved of calls made one after the other holds of
threads too (`speaker_calls_atomic`, `inited_lines_requested`), and no set of calls can block
for ever (`speaker_calls_progress`).
-/

namespace BatteryInfo.Speaker

open Gpiod Concurrent

/-- The mutexes. -/
inductive MutexId where
  | speakerMutex
  | volumeMutex
deriving DecidableEq

/-- What `SpeakerMutex` guards. -/
structure Sound where
  state : State
  speakerDir : List Char
  currentFreq : UInt16
  pwm : Pwm
  writes : List Write

/-- What `VolumeMutex` guards. -/
structure VolumePins where
  en1Line : Option Line
  en2Line : Option Line
  chip : Option Chip
  bus : Bus

/-- What a mutex guards. -/
@[reducible] def Part : MutexId → Type
  | .speakerMutex => Sound
  | .volumeMutex => VolumePins

namespace Device

def sound (s : Device) : Sound :=
  ⟨s.state, s.speakerDir, s.currentFreq, s.pwm, s.writes⟩

def pins (s : Device) : VolumePins :=
  ⟨s.en1Line, s.en2Line, s.chip, s.bus⟩

/-- The speaker in its two parts. -/
def parts (s : Device) : ∀ m, Part m
  | .speakerMutex => s.sound
  | .volumeMutex => s.pins

/-- The speaker that two parts make up. -/
def ofParts (x : ∀ m, Part m) : Device where
  state := (x .speakerMutex).state
  speakerDir := (x .speakerMutex).speakerDir
  en1Line := (x .volumeMutex).en1Line
  en2Line := (x .volumeMutex).en2Line
  chip := (x .volumeMutex).chip
  currentFreq := (x .speakerMutex).currentFreq
  pwm := (x .speakerMutex).pwm
  bus := (x .volumeMutex).bus
  writes := (x .speakerMutex).writes

theorem parts_ofParts (x : ∀ m, Part m) : (ofParts x).parts = x := by
  funext m
  cases m <;> rfl

def withSound (s : Device) (x : Sound) : Device :=
  { s with
    state := x.state
    speakerDir := x.speakerDir
    currentFreq := x.currentFreq
    pwm := x.pwm
    writes := x.writes }

def withPins (s : Device) (x : VolumePins) : Device :=
  { s with en1Line := x.en1Line, en2Line := x.en2Line, chip := x.chip, bus := x.bus }

theorem update_speakerMutex (s : Device) (x : Sound) :
    Function.update s.parts .speakerMutex x = (s.withSound x).parts := by
  funext m
  cases m <;> rfl

theorem update_volumeMutex (s : Device) (x : VolumePins) :
    Function.update s.parts .volumeMutex x = (s.withPins x).parts := by
  funext m
  cases m <;> rfl

end Device

/-! ## The code -/

/-- `PWMWrite` on what `SpeakerMutex` guards. -/
def Sound.pwmWrite (kernel : Kernel) (file : PwmFile) (value : Nat) (x : Sound) : Sound :=
  let accepted := kernel x.writes.length file value x.pwm
  { x with
    pwm := if accepted then x.pwm.store file value else x.pwm
    writes := x.writes ++ [⟨x.speakerDir, .pwm0 file, value, accepted⟩] }

/-- The places of the four functions, with their arguments and local variables. In
`unlockSpeaker`, at the label `END`, `again` says that `VolumeMutex` was held before. -/
inductive Pc where
  | init (o : InitOutcomes)
  | initState (o : InitOutcomes)
  | initDir (o : InitOutcomes)
  | initExport (o : InitOutcomes)
  | openLock (o : PinOutcomes)
  | openChip (o : PinOutcomes)
  | openEn1Line (o : PinOutcomes) (c : Chip)
  | openEn1Request (o : PinOutcomes) (c : Chip) (l : Line)
  | openEn2Line (o : PinOutcomes) (c : Chip)
  | openEn2Request (o : PinOutcomes) (l : Line)
  | openUnlock (e : ErrorCode)
  | initStore (e : ErrorCode)
  | playPitch (frequency : UInt16)
  | pitchState (frequency : UInt16)
  | pitchPeriod (frequency : UInt16)
  | pitchDuty (frequency : UInt16)
  | pitchEnable (frequency : UInt16)
  | pitchStore (frequency : UInt16)
  | setVolume (level : UInt32) (o : SetOutcomes)
  | volumeTest (level : UInt32) (o : SetOutcomes)
  | volumeEn2 (level : UInt32) (o : SetOutcomes) (en1 en2 : Line)
  | volumeEn1 (level : UInt32) (o : SetOutcomes) (en1 : Line) (ok2 : Bool)
  | volumeUnlock (e : ErrorCode)
  | deInit (o : SetOutcomes)
  | deInitState (o : SetOutcomes)
  | deInitDuty (o : SetOutcomes)
  | deInitEnable (o : SetOutcomes)
  | closeLock (o : SetOutcomes)
  | closeEn2Set (o : SetOutcomes)
  | closeEn2Release (o : SetOutcomes) (l : Line)
  | closeEn1Set (o : SetOutcomes)
  | closeEn1Release (l : Line)
  | closeChip
  | closeUnlock
  | deInitStore
  | unlockSpeaker (again : Bool) (e : ErrorCode)
  | ret (e : ErrorCode)

/-- The place where a call begins. -/
def Call.entry : Call → Pc
  | .init o => .init o
  | .playPitch frequency => .playPitch frequency
  | .setVolume level o => .setVolume level o
  | .deInit o => .deInit o

section Steps

variable (kernel : Kernel)

/-- Work on what `SpeakerMutex` guards. -/
def soundStep : Pc → Sound → Pc × Sound
  | .initState o, x =>
      (if x.state ≠ .ended then .unlockSpeaker false .errorState else .initDir o, x)
  | .initDir o, x =>
      match o.listing with
      | none => (.unlockSpeaker false .errorSysfs, x)
      | some listing =>
          (.initExport o, { x with speakerDir := readListing listing x.speakerDir })
  | .initExport o, x =>
      (if o.exported = .failed then .unlockSpeaker false .errorSysfs else .openLock o.pins,
        { x with
          writes := x.writes ++ [⟨x.speakerDir, .exportFile, 0, o.exported = .written⟩] })
  | .initStore e, x =>
      (.unlockSpeaker true e, if e = .errorNone then { x with state := .inited } else x)
  | .pitchState frequency, x =>
      (if x.state ≠ .inited then .unlockSpeaker false .errorState
        else if frequency = x.currentFreq then .unlockSpeaker false .errorNone
        else if frequency = 0 then .pitchDuty frequency
        else .pitchPeriod frequency, x)
  | .pitchPeriod frequency, x =>
      (.pitchDuty frequency, x.pwmWrite kernel .period (periodns frequency))
  | .pitchDuty frequency, x =>
      (.pitchEnable frequency, x.pwmWrite kernel .dutyCycle (dutyCyclens frequency))
  | .pitchEnable frequency, x =>
      (.pitchStore frequency, x.pwmWrite kernel .enable (if frequency = 0 then 0 else 1))
  | .pitchStore frequency, x =>
      (.unlockSpeaker false .errorNone, { x with currentFreq := frequency })
  | .deInitState o, x =>
      (if x.state ≠ .inited then .unlockSpeaker false .errorState else .deInitDuty o, x)
  | .deInitDuty o, x => (.deInitEnable o, x.pwmWrite kernel .dutyCycle 0)
  | .deInitEnable o, x => (.closeLock o, x.pwmWrite kernel .enable 0)
  | .deInitStore, x => (.unlockSpeaker true .errorNone, { x with state := .ended })
  | pc, x => (pc, x)

/-- Work on what `VolumeMutex` guards. -/
def pinsStep : Pc → VolumePins → Pc × VolumePins
  | .openChip o, x =>
      match x.chip with
      | some c => (.openEn1Line o c, x)
      | none =>
          let opened := x.bus.chipOpenByName chipName o.chipOpens
          (match opened.1 with
            | none => .openUnlock .gpioErrorOpenChip
            | some c => .openEn1Line o c, { x with chip := opened.1, bus := opened.2 })
  | .openEn1Line o c, x =>
      let line := Bus.chipGetLine c gpioOffsetSpkrEn1 o.en1Line
      (match line with
        | none => .openUnlock .gpioErrorGetLine
        | some l => .openEn1Request o c l, { x with en1Line := line })
  | .openEn1Request o c l, x =>
      let requested := x.bus.lineRequest l (some 0) o.en1Request
      (if requested.1 then .openEn2Line o c else .openUnlock .gpioErrorGetLine,
        { x with bus := requested.2 })
  | .openEn2Line o c, x =>
      let line := Bus.chipGetLine c gpioOffsetSpkrEn2 o.en2Line
      (match line with
        | none => .openUnlock .gpioErrorGetLine
        | some l => .openEn2Request o l, { x with en2Line := line })
  | .openEn2Request o l, x =>
      let requested := x.bus.lineRequest l (some 0) o.en2Request
      (.openUnlock (if requested.1 then .errorNone else .gpioErrorGetLine),
        { x with bus := requested.2 })
  | .volumeTest level o, x =>
      (match x.en1Line, x.en2Line with
        | some en1, some en2 =>
            if level > maxVolumeLevel then .volumeUnlock .errorOutOfBounds
            else .volumeEn2 level o en1 en2
        | _, _ => .volumeUnlock .errorSysfs, x)
  | .volumeEn2 level o en1 en2, x =>
      let set :=
        x.bus.lineSetValue en2 (if level &&& spkrEn2Bit = spkrEn2Bit then 1 else 0) o.en2Set
      (.volumeEn1 level o en1 set.1, { x with bus := set.2 })
  | .volumeEn1 level o en1 ok2, x =>
      let set :=
        x.bus.lineSetValue en1 (if level &&& spkrEn1Bit = spkrEn1Bit then 1 else 0) o.en1Set
      (.volumeUnlock (if ok2 ∧ set.1 then .errorNone else .errorSysfs), { x with bus := set.2 })
  | .closeEn2Set o, x =>
      match x.en2Line with
      | none => (.closeEn1Set o, x)
      | some l => (.closeEn2Release o l, { x with bus := (x.bus.lineSetValue l 0 o.en2Set).2 })
  | .closeEn2Release o l, x =>
      (.closeEn1Set o, { x with bus := x.bus.lineRelease l, en2Line := none })
  | .closeEn1Set o, x =>
      match x.en1Line with
      | none => (.closeChip, x)
      | some l => (.closeEn1Release l, { x with bus := (x.bus.lineSetValue l 0 o.en1Set).2 })
  | .closeEn1Release l, x =>
      (.closeChip, { x with bus := x.bus.lineRelease l, en1Line := none })
  | .closeChip, x =>
      (.closeUnlock,
        match x.chip with
        | none => x
        | some c => { x with bus := x.bus.chipClose c, chip := none })
  | pc, x => (pc, x)

/-- What a thread does at each place. -/
def speakerAction : Pc → Action Part ErrorCode Pc
  | .init o => .acquire .speakerMutex (.initState o)
  | .openLock o => .acquire .volumeMutex (.openChip o)
  | .openUnlock e => .release .volumeMutex (.initStore e)
  | .playPitch frequency => .acquire .speakerMutex (.pitchState frequency)
  | .setVolume level o => .acquire .volumeMutex (.volumeTest level o)
  | .volumeUnlock e => .release .volumeMutex (.ret e)
  | .deInit o => .acquire .speakerMutex (.deInitState o)
  | .closeLock o => .acquire .volumeMutex (.closeEn2Set o)
  | .closeUnlock => .release .volumeMutex .deInitStore
  | .unlockSpeaker _ e => .release .speakerMutex (.ret e)
  | .ret e => .ret e
  | .openChip o => .work .volumeMutex (pinsStep (.openChip o))
  | .openEn1Line o c => .work .volumeMutex (pinsStep (.openEn1Line o c))
  | .openEn1Request o c l => .work .volumeMutex (pinsStep (.openEn1Request o c l))
  | .openEn2Line o c => .work .volumeMutex (pinsStep (.openEn2Line o c))
  | .openEn2Request o l => .work .volumeMutex (pinsStep (.openEn2Request o l))
  | .volumeTest level o => .work .volumeMutex (pinsStep (.volumeTest level o))
  | .volumeEn2 level o en1 en2 => .work .volumeMutex (pinsStep (.volumeEn2 level o en1 en2))
  | .volumeEn1 level o en1 ok2 => .work .volumeMutex (pinsStep (.volumeEn1 level o en1 ok2))
  | .closeEn2Set o => .work .volumeMutex (pinsStep (.closeEn2Set o))
  | .closeEn2Release o l => .work .volumeMutex (pinsStep (.closeEn2Release o l))
  | .closeEn1Set o => .work .volumeMutex (pinsStep (.closeEn1Set o))
  | .closeEn1Release l => .work .volumeMutex (pinsStep (.closeEn1Release l))
  | .closeChip => .work .volumeMutex (pinsStep .closeChip)
  | pc => .work .speakerMutex (soundStep kernel pc)

/-- The code of `Speaker.c`. -/
def speakerCode : Code Part Call ErrorCode Pc where
  entry := Call.entry
  action := speakerAction kernel

end Steps

/-- The mutexes held at each place. -/
def Pc.held : Pc → List MutexId
  | .init _ | .playPitch _ | .setVolume _ _ | .deInit _ | .ret _ => []
  | .volumeTest _ _ | .volumeEn2 _ _ _ _ | .volumeEn1 _ _ _ _ | .volumeUnlock _ => [.volumeMutex]
  | .openChip _ | .openEn1Line _ _ | .openEn1Request _ _ _ | .openEn2Line _ _
  | .openEn2Request _ _ | .openUnlock _ | .closeEn2Set _ | .closeEn2Release _ _
  | .closeEn1Set _ | .closeEn1Release _ | .closeChip | .closeUnlock =>
      [.speakerMutex, .volumeMutex]
  | _ => [.speakerMutex]

/-- The places after the first unlock of a call. -/
def Pc.shrinking : Pc → Prop
  | .initStore _ | .deInitStore | .ret _ => True
  | .unlockSpeaker again _ => again
  | _ => False

/-- The work of a place keeps what is held. -/
theorem pinsStep_held (pc : Pc) (x : VolumePins) :
    (pinsStep pc x).1.held = pc.held ∧ ((pinsStep pc x).1.shrinking ↔ pc.shrinking) := by
  cases pc <;> unfold pinsStep <;> (try dsimp only) <;> (repeat' split) <;> exact ⟨rfl, .rfl⟩

theorem soundStep_held (kernel : Kernel) (pc : Pc) (x : Sound) :
    (soundStep kernel pc x).1.held = pc.held ∧
      ((soundStep kernel pc x).1.shrinking ↔ pc.shrinking) := by
  cases pc <;> unfold soundStep <;> (try dsimp only) <;> (repeat' split) <;>
    simp [Pc.held, Pc.shrinking]

section Discipline

variable {kernel : Kernel} {l next : Pc} {m : MutexId}

theorem acquire_held (h : speakerAction kernel l = .acquire m next) :
    ¬ l.shrinking ∧ ¬ next.shrinking ∧ m ∉ l.held ∧
      ∀ k, k ∈ next.held ↔ k = m ∨ k ∈ l.held := by
  cases l <;> cases h <;> simp [Pc.shrinking, Pc.held, or_comm]

theorem release_held (h : speakerAction kernel l = .release m next) :
    m ∈ l.held ∧ next.shrinking ∧ ∀ k, k ∈ next.held ↔ k ≠ m ∧ k ∈ l.held := by
  cases l <;> cases h <;> refine ⟨by simp [Pc.held], trivial, fun k => ?_⟩ <;> cases k <;>
    simp [Pc.held]

theorem work_speakerMutex {f : Sound → Pc × Sound}
    (h : speakerAction kernel l = .work .speakerMutex f) :
    f = soundStep kernel l ∧ .speakerMutex ∈ l.held := by
  cases l <;> cases h <;> exact ⟨rfl, by simp [Pc.held]⟩

theorem work_volumeMutex {f : VolumePins → Pc × VolumePins}
    (h : speakerAction kernel l = .work .volumeMutex f) :
    f = pinsStep l ∧ .volumeMutex ∈ l.held := by
  cases l <;> cases h <;> exact ⟨rfl, by simp [Pc.held]⟩

theorem work_held {f : Part m → Pc × Part m} (h : speakerAction kernel l = .work m f) :
    m ∈ l.held ∧
      ∀ x, ((f x).1.shrinking ↔ l.shrinking) ∧ ∀ k, k ∈ (f x).1.held ↔ k ∈ l.held := by
  cases m with
  | speakerMutex =>
      obtain ⟨rfl, hheld⟩ := work_speakerMutex h
      refine ⟨hheld, fun x => ?_⟩
      obtain ⟨hsame, hshrinking⟩ := soundStep_held kernel l x
      exact ⟨hshrinking, fun k => by rw [hsame]⟩
  | volumeMutex =>
      obtain ⟨rfl, hheld⟩ := work_volumeMutex h
      refine ⟨hheld, fun x => ?_⟩
      obtain ⟨hsame, hshrinking⟩ := pinsStep_held l x
      exact ⟨hshrinking, fun k => by rw [hsame]⟩

theorem ret_held {e : ErrorCode} (h : speakerAction kernel l = .ret e) :
    l.shrinking ∧ ∀ m, m ∉ l.held := by
  cases l <;> cases h
  exact ⟨trivial, fun _ => List.not_mem_nil⟩

end Discipline

/-- No function takes a mutex after it has given one back. -/
def speakerTwoPhase (kernel : Kernel) : (speakerCode kernel).TwoPhase where
  held := Pc.held
  shrinking := Pc.shrinking
  entry op := by cases op <;> exact ⟨id, fun _ => List.not_mem_nil⟩
  acquire := acquire_held
  work := work_held
  release := release_held
  ret := ret_held

/-- `SpeakerMutex` is taken before `VolumeMutex`. -/
def MutexId.rank : MutexId → Nat
  | .speakerMutex => 0
  | .volumeMutex => 1

theorem rank_lt {kernel : Kernel} {l next : Pc} {m : MutexId}
    (h : speakerAction kernel l = .acquire m next) : ∀ k ∈ l.held, k.rank < m.rank := by
  cases l <;> cases h <;> simp [Pc.held, MutexId.rank]

/-! ## Calls that nobody disturbs -/

section Undisturbed

variable (kernel : Kernel)

/-- The code runs from a place to its end as a function of the whole speaker says. -/
def RunsTo (l : Pc) (s : Device) (r : ErrorCode × Device) : Prop :=
  (speakerCode kernel).Finishes l s.parts r.1 r.2.parts

variable {kernel} {l next : Pc} {m : MutexId} {s : Device} {r : ErrorCode × Device}

theorem RunsTo.acquire (haction : speakerAction kernel l = .acquire m next)
    (h : RunsTo kernel next s r) : RunsTo kernel l s r :=
  Code.Finishes.acquire haction h

theorem RunsTo.release (haction : speakerAction kernel l = .release m next)
    (h : RunsTo kernel next s r) : RunsTo kernel l s r :=
  Code.Finishes.release haction h

theorem RunsTo.ret (e : ErrorCode) (s : Device) : RunsTo kernel (.ret e) s (e, s) :=
  Code.Finishes.ret rfl

theorem RunsTo.sound (haction : speakerAction kernel l = .work .speakerMutex (soundStep kernel l))
    (h : RunsTo kernel (soundStep kernel l s.sound).1
      (s.withSound (soundStep kernel l s.sound).2) r) : RunsTo kernel l s r := by
  refine Code.Finishes.work haction ?_
  rw [Device.update_speakerMutex]
  exact h

theorem RunsTo.pins (haction : speakerAction kernel l = .work .volumeMutex (pinsStep l))
    (h : RunsTo kernel (pinsStep l s.pins).1 (s.withPins (pinsStep l s.pins).2) r) :
    RunsTo kernel l s r := by
  refine Code.Finishes.work haction ?_
  rw [Device.update_volumeMutex]
  exact h

theorem withSound_pwmWrite (file : PwmFile) (value : Nat) (s : Device) :
    s.withSound (s.sound.pwmWrite kernel file value) = (pwmWrite kernel file value s).2 := by
  unfold Speaker.pwmWrite Sound.pwmWrite
  dsimp only [Device.sound]
  cases kernel s.writes.length file value s.pwm <;> rfl

theorem runsTo_unlockSpeaker (again : Bool) (e : ErrorCode) (s : Device) :
    RunsTo kernel (.unlockSpeaker again e) s (e, s) :=
  .release rfl (.ret e s)

theorem runsTo_volumeUnlock (e : ErrorCode) (s : Device) :
    RunsTo kernel (.volumeUnlock e) s (e, s) :=
  .release rfl (.ret e s)

/-! ### `Speaker_PlayPitch` -/

theorem runsTo_pitchDuty (frequency : UInt16) (s : Device) :
    RunsTo kernel (.pitchDuty frequency) s
      (.errorNone,
        { (pwmWrite kernel .enable (if frequency = 0 then 0 else 1)
            (pwmWrite kernel .dutyCycle (dutyCyclens frequency) s).2).2 with
          currentFreq := frequency }) := by
  refine .sound rfl ?_
  show RunsTo kernel (.pitchEnable frequency) (s.withSound (s.sound.pwmWrite ..)) _
  rw [withSound_pwmWrite]
  refine .sound rfl ?_
  show RunsTo kernel (.pitchStore frequency) (Device.withSound _ (Sound.pwmWrite ..)) _
  rw [withSound_pwmWrite]
  exact .sound rfl (runsTo_unlockSpeaker _ _ _)

theorem runsTo_playPitch (frequency : UInt16) (s : Device) :
    RunsTo kernel (.playPitch frequency) s (playPitch kernel frequency s) := by
  refine .acquire rfl (.sound rfl ?_)
  show RunsTo kernel (if s.state ≠ .inited then _ else if frequency = s.currentFreq then _
    else if frequency = 0 then _ else _) s _
  unfold playPitch
  split
  · exact runsTo_unlockSpeaker _ _ _
  · split
    · exact runsTo_unlockSpeaker _ _ _
    · unfold setPitch
      by_cases hzero : frequency = 0
      · rw [if_pos hzero, if_pos hzero]
        exact runsTo_pitchDuty frequency s
      · rw [if_neg hzero, if_neg hzero]
        refine .sound rfl ?_
        show RunsTo kernel (.pitchDuty frequency) (s.withSound (s.sound.pwmWrite ..)) _
        rw [withSound_pwmWrite]
        exact runsTo_pitchDuty frequency _

/-! ### `Speaker_SetVolume` -/

theorem runsTo_setVolume (level : UInt32) (o : SetOutcomes) (s : Device) :
    RunsTo kernel (.setVolume level o) s (setVolume level o s) := by
  refine .acquire rfl (.pins rfl ?_)
  obtain ⟨_, _, en1Line, en2Line, _, _, _, _, _⟩ := s
  cases en1Line with
  | none => exact runsTo_volumeUnlock _ _
  | some en1 =>
      cases en2Line with
      | none => exact runsTo_volumeUnlock _ _
      | some en2 =>
          show RunsTo kernel (if level > maxVolumeLevel then _ else _) _
            (if level > maxVolumeLevel then _ else _)
          split
          · exact runsTo_volumeUnlock _ _
          · exact .pins rfl (.pins rfl (runsTo_volumeUnlock _ _))

/-! ### `Speaker_DeInit` -/

theorem runsTo_closeChip (s : Device) :
    RunsTo kernel .closeChip s
      (.errorNone,
        { s with
          bus := match s.chip with
            | some c => s.bus.chipClose c
            | none => s.bus
          chip := none
          state := .ended }) := by
  refine .pins rfl (.release rfl (.sound rfl ?_))
  obtain ⟨_, _, _, _, chip, _, _, _, _⟩ := s
  cases chip <;> exact runsTo_unlockSpeaker _ _ _

theorem runsTo_closeEn1Set (o : SetOutcomes) (s : Device) :
    RunsTo kernel (.closeEn1Set o) s
      (.errorNone,
        { s with
          bus := match s.chip with
            | some c => (closeLine s.en1Line o.en1Set s.bus).2.chipClose c
            | none => (closeLine s.en1Line o.en1Set s.bus).2
          en1Line := none
          chip := none
          state := .ended }) := by
  refine .pins rfl ?_
  obtain ⟨_, _, en1Line, _, _, _, _, _, _⟩ := s
  cases en1Line with
  | none => exact runsTo_closeChip _
  | some l => exact .pins rfl (runsTo_closeChip _)

theorem runsTo_closeEn2Set (o : SetOutcomes) (s : Device) :
    RunsTo kernel (.closeEn2Set o) s
      (.errorNone, { (closeVolumePins o s).2 with state := .ended }) := by
  refine .pins rfl ?_
  obtain ⟨_, _, _, en2Line, chip, _, _, _, _⟩ := s
  cases en2Line with
  | none => exact runsTo_closeEn1Set o _
  | some l => exact .pins rfl (runsTo_closeEn1Set o _)

theorem runsTo_deInit (o : SetOutcomes) (s : Device) :
    RunsTo kernel (.deInit o) s (deInit kernel o s) := by
  refine .acquire rfl (.sound rfl ?_)
  show RunsTo kernel (if s.state ≠ .inited then _ else _) s _
  unfold deInit
  split
  · exact runsTo_unlockSpeaker _ _ _
  · refine .sound rfl ?_
    show RunsTo kernel (.deInitEnable o) (s.withSound (s.sound.pwmWrite ..)) _
    rw [withSound_pwmWrite]
    refine .sound rfl ?_
    show RunsTo kernel (.closeLock o) (Device.withSound _ (Sound.pwmWrite ..)) _
    rw [withSound_pwmWrite]
    exact .acquire rfl (runsTo_closeEn2Set o _)

/-! ### `Speaker_Init` -/

/-- `Speaker_Init` once `OpenVolumePins` has come to its end. -/
def initStored (r : ErrorCode × Device) : ErrorCode × Device :=
  (r.1, if r.1 = .errorNone then { r.2 with state := .inited } else r.2)

theorem initStored_eq (r : ErrorCode × Device) :
    (if r.1 ≠ .errorNone then r else (.errorNone, { r.2 with state := .inited })) =
      initStored r := by
  obtain ⟨e, s⟩ := r
  by_cases he : e = .errorNone <;> simp [initStored, he]

theorem runsTo_openUnlock (e : ErrorCode) (s : Device) :
    RunsTo kernel (.openUnlock e) s (initStored (e, s)) := by
  refine .release rfl (.sound rfl ?_)
  unfold initStored
  by_cases he : e = .errorNone
  · subst he
    exact runsTo_unlockSpeaker _ _ _
  · have hsame : s.withSound (soundStep kernel (.initStore e) s.sound).2 = s := by
      show s.withSound (if e = .errorNone then _ else s.sound) = s
      rw [if_neg he]
      rfl
    rw [hsame]
    simp only [he, if_false]
    exact runsTo_unlockSpeaker true e s

/-- The part of `OpenVolumePins` about the second line. -/
theorem runsTo_openEn2Line (o : PinOutcomes) (c : Chip) (s : Device) :
    RunsTo kernel (.openEn2Line o c) s
      (initStored
        (let (en2Line, ok, bus) :=
          s.bus.takeLine c gpioOffsetSpkrEn2 (some 0) o.en2Line o.en2Request
        let s := { s with en2Line, bus }
        if ¬ ok then (.gpioErrorGetLine, s) else (.errorNone, s))) := by
  refine .pins rfl ?_
  obtain ⟨_, _, _, en2Found, en2Requested⟩ := o
  cases en2Found with
  | false => exact runsTo_openUnlock _ _
  | true =>
      refine .pins rfl ?_
      show RunsTo kernel
        (.openUnlock (if (s.bus.lineRequest ⟨c, gpioOffsetSpkrEn2⟩ (some 0) en2Requested).1
          then .errorNone else .gpioErrorGetLine)) _
        (initStored (if ¬ (s.bus.lineRequest ⟨c, gpioOffsetSpkrEn2⟩ (some 0) en2Requested).1
          then _ else _))
      cases (s.bus.lineRequest ⟨c, gpioOffsetSpkrEn2⟩ (some 0) en2Requested).1 <;>
        exact runsTo_openUnlock _ _

/-- `OpenVolumePins` with the chip open. -/
theorem runsTo_openEn1Line (o : PinOutcomes) {c : Chip} {s : Device} (hchip : s.chip = some c) :
    RunsTo kernel (.openEn1Line o c) s (initStored (openVolumePins o s)) := by
  refine .pins rfl ?_
  obtain ⟨_, en1Found, en1Requested, _, _⟩ := o
  obtain ⟨_, _, _, _, chip, _, _, bus, _⟩ := s
  obtain rfl : chip = some c := hchip
  cases en1Found with
  | false => exact runsTo_openUnlock _ _
  | true =>
      refine .pins rfl ?_
      show RunsTo kernel
        (if (bus.lineRequest ⟨c, gpioOffsetSpkrEn1⟩ (some 0) en1Requested).1
          then .openEn2Line _ c else .openUnlock .gpioErrorGetLine) _
        (initStored (if ¬ (bus.lineRequest ⟨c, gpioOffsetSpkrEn1⟩ (some 0) en1Requested).1
          then _ else _))
      cases (bus.lineRequest ⟨c, gpioOffsetSpkrEn1⟩ (some 0) en1Requested).1 with
      | false => exact runsTo_openUnlock _ _
      | true => exact runsTo_openEn2Line _ c _

theorem runsTo_openChip (o : PinOutcomes) (s : Device) :
    RunsTo kernel (.openChip o) s (initStored (openVolumePins o s)) := by
  refine .pins rfl ?_
  obtain ⟨chipOpens, _, _, _, _⟩ := o
  obtain ⟨_, _, _, _, chip, _, _, _, _⟩ := s
  cases chip with
  | some c => exact runsTo_openEn1Line _ rfl
  | none =>
      cases chipOpens with
      | false => exact runsTo_openUnlock _ _
      | true => exact runsTo_openEn1Line _ rfl

theorem runsTo_init (o : InitOutcomes) (s : Device) :
    RunsTo kernel (.init o) s (init o s) := by
  refine .acquire rfl (.sound rfl ?_)
  show RunsTo kernel (if s.state ≠ .ended then _ else _) s _
  unfold init
  split
  · exact runsTo_unlockSpeaker _ _ _
  · refine .sound rfl ?_
    obtain ⟨listing, exported, pins⟩ := o
    cases listing with
    | none => exact runsTo_unlockSpeaker _ _ _
    | some listing =>
        refine .sound rfl ?_
        have hopened (s : Device) : RunsTo kernel (.openLock pins) s
            (if (openVolumePins pins s).1 ≠ .errorNone then openVolumePins pins s
              else (.errorNone, { (openVolumePins pins s).2 with state := .inited })) := by
          rw [initStored_eq]
          exact .acquire rfl (runsTo_openChip pins s)
        cases exported with
        | failed => exact runsTo_unlockSpeaker _ _ _
        | written => exact hopened _
        | busy => exact hopened _

/-- The code of each function, run without interruption, does what the function does. -/
theorem runsTo_call (call : Call) (s : Device) :
    RunsTo kernel call.entry s (call.run kernel s) := by
  cases call with
  | init o => exact runsTo_init o s
  | playPitch frequency => exact runsTo_playPitch frequency s
  | setVolume level o => exact runsTo_setVolume level o s
  | deInit o => exact runsTo_deInit o s

end Undisturbed

/-! ## Threads -/

/-- What a call does to the two parts of the speaker. -/
def Call.runParts (kernel : Kernel) (call : Call) (x : ∀ m, Part m) :
    ErrorCode × ∀ m, Part m :=
  let r := call.run kernel (.ofParts x)
  (r.1, r.2.parts)

theorem finishes_call (kernel : Kernel) (call : Call) (x : ∀ m, Part m) :
    (speakerCode kernel).Finishes call.entry x (call.runParts kernel x).1
      (call.runParts kernel x).2 := by
  have hrun : RunsTo kernel call.entry (.ofParts x) (call.run kernel (.ofParts x)) :=
    runsTo_call call _
  unfold RunsTo at hrun
  rwa [Device.parts_ofParts] at hrun

/-- The speaker with any threads that call its functions. A thread is in no call or at a place of
the code. -/
abbrev SpeakerConfig := Config (Guarded Nat Part Call ErrorCode) fun _ : Nat => Option Pc

/-- The speaker at the start of the program, over any hardware on which nobody else holds its
pins. -/
def AtStart (s : Device) : Prop :=
  ∃ pwm bus, s = .initial pwm bus ∧ ∀ l ∈ bus.requested, l.chip.name ≠ chipName

/-- The configurations that some interleaving of the threads reaches. -/
abbrev Reached (kernel : Kernel) (c : SpeakerConfig) : Prop :=
  (speakerCode kernel).threads.Reach ((speakerCode kernel).Start fun x => AtStart (.ofParts x))
    anyStep c

/-- Whatever the threads do, their calls come and return as if each happened at one moment, one
after the other. What a mutex guards is, when the mutex is free, as those calls have left it. -/
theorem speaker_calls_atomic {kernel : Kernel} {c : SpeakerConfig} (h : Reached kernel c) :
    ∃ a, (atomicCalls fun call s => Call.run kernel s call).Reach (AtomicStart AtStart) anyStep a ∧
      c.shared.history = a.shared.history ∧
      (c.shared.owner .speakerMutex = none →
        c.shared.state .speakerMutex = a.shared.state.sound) ∧
      (c.shared.owner .volumeMutex = none → c.shared.state .volumeMutex = a.shared.state.pins) := by
  obtain ⟨a, ha, hhistory, hfree⟩ :=
    (speakerTwoPhase kernel).atomic (Call.runParts kernel) (finishes_call kernel) h
  exact ⟨_, atomicCalls_map Device.ofParts (fun _ hs => hs) (fun _ _ => rfl) ha, hhistory,
    hfree .speakerMutex, hfree .volumeMutex⟩

/-- A bound on the number of steps that a call has left. -/
def Pc.left : Pc → Nat
  | .ret _ => 1
  | .unlockSpeaker _ _ | .volumeUnlock _ => 2
  | .initStore _ | .pitchStore _ | .volumeEn1 _ _ _ _ | .deInitStore => 3
  | .openUnlock _ | .pitchEnable _ | .volumeEn2 _ _ _ _ | .closeUnlock => 4
  | .openEn2Request _ _ | .pitchDuty _ | .volumeTest _ _ | .closeChip => 5
  | .openEn2Line _ _ | .pitchPeriod _ | .setVolume _ _ | .closeEn1Release _ => 6
  | .openEn1Request _ _ _ | .pitchState _ | .closeEn1Set _ => 7
  | .openEn1Line _ _ | .playPitch _ | .closeEn2Release _ _ => 8
  | .openChip _ | .closeEn2Set _ => 9
  | .openLock _ | .closeLock _ => 10
  | .initExport _ | .deInitEnable _ => 11
  | .initDir _ | .deInitDuty _ => 12
  | .initState _ | .deInitState _ => 13
  | .init _ | .deInit _ => 14

theorem pinsStep_left {kernel : Kernel} {l : Pc} (x : VolumePins)
    (h : speakerAction kernel l = .work .volumeMutex (pinsStep l)) :
    (pinsStep l x).1.left < l.left := by
  cases l <;> cases h <;> unfold pinsStep <;> (try dsimp only) <;> (repeat' split) <;>
    simp [Pc.left]

theorem soundStep_left {kernel : Kernel} {l : Pc} (x : Sound)
    (h : speakerAction kernel l = .work .speakerMutex (soundStep kernel l)) :
    (soundStep kernel l x).1.left < l.left := by
  cases l <;> cases h <;> unfold soundStep <;> (try dsimp only) <;> (repeat' split) <;>
    simp [Pc.left]

/-- A step in a call comes closer to its return. -/
theorem left_lt {kernel : Kernel} {t : Nat} {s s' : Guarded Nat Part Call ErrorCode} {l l' : Pc}
    (h : CodeStep (speakerCode kernel) t s (some l) s' (some l')) : l'.left < l.left := by
  cases h with
  | acquire haction _ =>
      have haction : speakerAction kernel l = _ := haction
      cases l <;> cases haction <;> simp [Pc.left]
  | release haction =>
      have haction : speakerAction kernel l = _ := haction
      cases l <;> cases haction <;> simp [Pc.left]
  | @work _ m f haction =>
      have haction : speakerAction kernel l = .work m f := haction
      cases m with
      | speakerMutex =>
          obtain ⟨rfl, _⟩ := work_speakerMutex haction
          exact soundStep_left _ haction
      | volumeMutex =>
          obtain ⟨rfl, _⟩ := work_volumeMutex haction
          exact pinsStep_left _ haction

/-- Calls do not block each other for ever: as long as one is in progress, some call can go on,
and each step of a call leaves it with fewer steps to its return, of which there are at most
fourteen. -/
theorem speaker_calls_progress {kernel : Kernel} {c : SpeakerConfig} (h : Reached kernel c)
    {t : Nat} (ht : c.locals t ≠ none) :
    (∃ u s l, c.locals u ≠ none ∧
      (speakerCode kernel).threads.Step u c.shared (c.locals u) s l) ∧
    ∀ u s l l', (speakerCode kernel).threads.Step u c.shared (some l) s (some l') →
      l'.left < l.left ∧ l.left ≤ 14 := by
  constructor
  · exact (speakerTwoPhase kernel).progress MutexId.rank 2
      (fun m => by cases m <;> simp [MutexId.rank]) rank_lt h ht
  · intro u s l l' hstep
    exact ⟨left_lt hstep, by cases l <;> simp [Pc.left]⟩

/-! ### Two schedules -/

/-- The program at its start, over an idle channel. -/
def startConfig : SpeakerConfig :=
  ⟨⟨fun _ => none, (Device.initial ⟨0, 0, 0⟩ .empty).parts, []⟩, fun _ => none⟩

theorem reached_startConfig (kernel : Kernel) : Reached kernel startConfig :=
  .start ⟨⟨⟨0, 0, 0⟩, .empty, rfl, fun _ hl => absurd hl List.not_mem_nil⟩, fun _ => rfl, rfl,
    fun _ => rfl⟩

/-- Thread 0 has initialised the speaker. -/
def initedConfig : SpeakerConfig :=
  startConfig.move 0
    ⟨fun _ => none, (Call.runParts acceptAll (.init workingInit) startConfig.shared.state).2,
      [.call 0 (.init workingInit), .ret 0 .errorNone]⟩ none

theorem reached_initedConfig : Reached acceptAll initedConfig :=
  (speakerTwoPhase acceptAll).call_run (Call.runParts acceptAll) (finishes_call acceptAll)
    (reached_startConfig acceptAll) rfl rfl (.init workingInit)

/-- Thread 0 is inside `Speaker_Init` while thread 1 waits for `SpeakerMutex`. -/
def contendedConfig : SpeakerConfig :=
  ((startConfig.move 0 ⟨fun _ => none, startConfig.shared.state, [.call 0 (.init workingInit)]⟩
    (some (.init workingInit))).move 0
      ⟨Function.update (fun _ => none) .speakerMutex (some 0), startConfig.shared.state,
        [.call 0 (.init workingInit)]⟩ (some (.initState workingInit))).move 1
    ⟨Function.update (fun _ => none) .speakerMutex (some 0), startConfig.shared.state,
      [.call 0 (.init workingInit), .call 1 (.playPitch 440)]⟩ (some (.playPitch 440))

theorem reached_contendedConfig : Reached acceptAll contendedConfig := by
  refine .step (.step (.step (reached_startConfig _) ?_ trivial) ?_ trivial) ?_ trivial
  · exact CodeStep.call (Call.init workingInit)
  · exact CodeStep.acquire rfl rfl
  · exact CodeStep.call (Call.playPitch 440)

/-- Some steps of one thread. -/
theorem Reached.run {kernel : Kernel} {c : SpeakerConfig} (h : Reached kernel c) (t : Nat)
    {s : Guarded Nat Part Call ErrorCode} {l : Option Pc}
    (hrun : ThreadRun (CodeStep (speakerCode kernel) t) (fun _ _ => True) c.shared (c.locals t)
      s l) : Reached kernel (c.move t s l) :=
  h.thread (fun _ _ _ _ => trivial) hrun

/-- A `Speaker_SetVolume` begins after a `Speaker_Init` and gets `VolumeMutex` before it: it finds
no lines. -/
theorem speaker_calls_atomic_overlapping :
    ∃ c, Reached acceptAll c ∧
      c.shared.history = [.call 0 (.init workingInit), .call 1 (.setVolume 3 ⟨true, true⟩),
        .ret 1 .errorSysfs, .ret 0 .errorNone] ∧
      ∃ a, (atomicCalls fun call s => Call.run acceptAll s call).Reach (AtomicStart AtStart)
          anyStep a ∧
        c.shared.history = a.shared.history ∧
        c.shared.state .speakerMutex = a.shared.state.sound ∧
        c.shared.state .volumeMutex = a.shared.state.pins := by
  have hbegun := (reached_startConfig acceptAll).run 0 <|
    .head (CodeStep.call (Call.init workingInit)) trivial <|
    .head (CodeStep.acquire rfl rfl) trivial <| .head (CodeStep.work rfl) trivial <|
    .head (CodeStep.work rfl) trivial <| .head (CodeStep.work rfl) trivial <| .refl _ _
  have hvolume := hbegun.run 1 <|
    .head (CodeStep.call (Call.setVolume 3 ⟨true, true⟩)) trivial <|
    .head (CodeStep.acquire rfl rfl) trivial <| .head (CodeStep.work rfl) trivial <| .refl _ _
  have hreturned := hvolume.run 1 <|
    .head (CodeStep.release rfl) trivial <| .head (CodeStep.ret rfl) trivial <| .refl _ _
  have hdone := hreturned.run 0 <|
    .head (CodeStep.acquire rfl rfl) trivial <| .head (CodeStep.work rfl) trivial <|
    .head (CodeStep.work rfl) trivial <| .head (CodeStep.work rfl) trivial <|
    .head (CodeStep.work rfl) trivial <| .head (CodeStep.work rfl) trivial <|
    .head (CodeStep.release rfl) trivial <| .head (CodeStep.work rfl) trivial <|
    .head (CodeStep.release rfl) trivial <| .head (CodeStep.ret rfl) trivial <| .refl _ _
  obtain ⟨a, ha, hhistory, hsound, hpins⟩ := speaker_calls_atomic hdone
  exact ⟨_, hdone, rfl, a, ha, hhistory, hsound rfl, hpins rfl⟩

theorem speaker_calls_progress_contended :
    (∃ u s l, contendedConfig.locals u ≠ none ∧
      (speakerCode acceptAll).threads.Step u contendedConfig.shared (contendedConfig.locals u)
        s l) ∧
    ∀ u s l l', (speakerCode acceptAll).threads.Step u contendedConfig.shared (some l) s
        (some l') → l'.left < l.left ∧ l.left ≤ 14 :=
  speaker_calls_progress (t := 1) reached_contendedConfig (Option.some_ne_none _)

/-! ## The lines of an initialised speaker -/

/-- The two lines of the speaker are requested through its chip. -/
structure LinesRequested (s : Device) (c : Chip) : Prop where
  chip : s.chip = some c
  en1Line : s.en1Line = some ⟨c, gpioOffsetSpkrEn1⟩
  en1Requested : ⟨c, gpioOffsetSpkrEn1⟩ ∈ s.bus.requested
  en2Line : s.en2Line = some ⟨c, gpioOffsetSpkrEn2⟩
  en2Requested : ⟨c, gpioOffsetSpkrEn2⟩ ∈ s.bus.requested

/-- An initialised speaker has its lines, whatever happened before. -/
def InitedHasLines (s : Device) : Prop :=
  s.state = .inited → ∃ c, LinesRequested s c

theorem InitedHasLines.of_samePins {s s' : Device} (h : InitedHasLines s)
    (hstate : s'.state = s.state) (hsame : SamePins s s') : InitedHasLines s' := by
  intro hinited
  obtain ⟨c, hchip, hen1, hreq1, hen2, hreq2⟩ := h (hstate.symm.trans hinited)
  refine ⟨c, hsame.chip.trans hchip, hsame.en1Line.trans hen1, ?_, hsame.en2Line.trans hen2, ?_⟩
  · rw [hsame.requested]
    exact hreq1
  · rw [hsame.requested]
    exact hreq2

/-- An `OpenVolumePins` that returns no error has requested both lines, also where an earlier one
failed half-way. -/
theorem openVolumePins_requested {o : PinOutcomes} {s s' : Device}
    (h : openVolumePins o s = (.errorNone, s')) : ∃ c, LinesRequested s' c := by
  unfold openVolumePins at h
  dsimp only at h
  generalize openChip o.chipOpens s = s₁ at h
  cases hchip : s₁.chip with
  | none =>
      rw [hchip] at h
      cases h
  | some c =>
      simp only [hchip] at h
      rcases Bus.takeLine_cases s₁.bus c gpioOffsetSpkrEn1 (some 0) o.en1Line o.en1Request with
        ⟨h1, _, _, htake1⟩ | ⟨_, l, htake1⟩
      · simp only [htake1] at h
        rcases Bus.takeLine_cases (s₁.bus.requesting ⟨c, gpioOffsetSpkrEn1⟩ (some 0) h1) c
          gpioOffsetSpkrEn2 (some 0) o.en2Line o.en2Request with
          ⟨h2, _, _, htake2⟩ | ⟨_, l, htake2⟩
        · simp only [htake2, not_true_eq_false, if_false, Prod.mk.injEq, true_and] at h
          subst h
          exact ⟨c, rfl, rfl, by simp, rfl, by simp⟩
        · simp [htake2] at h
      · simp [htake1] at h

theorem InitedHasLines.call {s : Device} (h : InitedHasLines s) (kernel : Kernel) (call : Call) :
    InitedHasLines (call.run kernel s).2 := by
  cases call with
  | playPitch frequency =>
      have hsound := playPitch_soundOnly kernel frequency s
      exact h.of_samePins hsound.state hsound.samePins
  | setVolume level o =>
      exact h.of_samePins (setVolume_pinsOnly level o s).state (setVolume_samePins level o s)
  | deInit o =>
      show InitedHasLines (Speaker.deInit kernel o s).2
      unfold Speaker.deInit
      split
      · exact h
      · intro hinited
        cases hinited
  | init o =>
      show InitedHasLines (Speaker.init o s).2
      rcases init_cases o s with ⟨_, hinit⟩ | ⟨hended, _, hinit⟩ | ⟨listing, hended, _, _, hinit⟩ |
        ⟨listing, hended, _, _, error, s', hpins, hinit⟩
      · rw [hinit]
        exact h
      · rw [hinit]
        exact h
      · rw [hinit]
        intro hinited
        cases hended.symm.trans hinited
      · rw [hinit]
        by_cases herror : error = .errorNone
        · subst herror
          obtain ⟨c, hchip, hen1, hreq1, hen2, hreq2⟩ := openVolumePins_requested hpins
          intro _
          exact ⟨c, hchip, hen1, hreq1, hen2, hreq2⟩
        · have hsame := (openVolumePins_pinsOnly o.pins (exporting listing o.exported s)).state
          rw [hpins] at hsame
          intro hinited
          simp only [herror, if_false] at hinited
          cases (hsame.trans hended).symm.trans hinited

/-- Whatever calls fail, and however the threads interleave: when no thread is inside the module
and the speaker is initialised, both lines are requested through the open chip. -/
theorem inited_lines_requested {kernel : Kernel} {c : SpeakerConfig} (h : Reached kernel c)
    (hfree : ∀ m, c.shared.owner m = none)
    (hinited : (c.shared.state .speakerMutex).state = .inited) :
    ∃ chip, LinesRequested (.ofParts c.shared.state) chip :=
  (speakerTwoPhase kernel).invariant (Call.runParts kernel) (finishes_call kernel)
    (P := fun x => InitedHasLines (.ofParts x))
    (fun x hx hinited => by
      obtain ⟨pwm, bus, hs, _⟩ := hx
      rw [hs] at hinited
      cases hinited)
    (fun call x hx => hx.call kernel call) h hfree hinited

theorem inited_lines_requested_init :
    ∃ chip, LinesRequested (.ofParts initedConfig.shared.state) chip :=
  inited_lines_requested reached_initedConfig (fun _ => rfl) (by rfl)

end BatteryInfo.Speaker
