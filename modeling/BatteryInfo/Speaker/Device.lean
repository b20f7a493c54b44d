import Mathlib.Algebra.Group.Nat.Defs
import BatteryInfo.Gpio.Lines

/-!
# The speaker

`Speaker.c`: the statics of the module, the PWM channel and the two amplifier lines they stand
for, and the five functions of its interface. One caller is inside the module at a time, so
that its two mutexes are free when a function locks them.

What the world decides is an argument: `kernel` says which writes to the files of the PWM
channel take effect, and the `…Outcomes` of a call what `opendir`, the export and the libgpiod
calls return in it.
-/

namespace BatteryInfo.Speaker

open Gpiod

/-- `Speaker_ErrorCodes`, and the `Speaker_GPIO_ErrorCodes` that `OpenVolumePins` returns
through the same `int`. -/
inductive ErrorCode where
  | errorNone | errorSysfs | errorOutOfBounds | errorState | errorMutex
  | gpioErrorOpenChip | gpioErrorGetLine
deriving DecidableEq, Repr

/-- `Speaker_State`. -/
inductive State where
  | inited | ended
deriving DecidableEq, Repr

/-- The files of a PWM channel. -/
inductive PwmFile where
  | period | dutyCycle | enable
deriving DecidableEq, Repr

/-- The name of a file of the channel. -/
def PwmFile.name : PwmFile → String
  | .period => "period"
  | .dutyCycle => "duty_cycle"
  | .enable => "enable"

/-- What the module writes to below `SpeakerDir`. -/
inductive SubDir where
  | exportFile
  | pwm0 (file : PwmFile)
deriving DecidableEq, Repr

/-- The path below `SpeakerDir`. -/
def SubDir.name : SubDir → String
  | .exportFile => "export"
  | .pwm0 file => "pwm0/" ++ file.name

/-- The settings of the PWM channel. -/
structure Pwm where
  period : Nat
  dutyCycle : Nat
  enable : Nat
deriving DecidableEq, Repr

/-- A write that takes effect. -/
def Pwm.store (file : PwmFile) (value : Nat) (p : Pwm) : Pwm :=
  match file with
  | .period => { p with period := value }
  | .dutyCycle => { p with dutyCycle := value }
  | .enable => { p with enable := value }

/-- A call of `PWMFileWriteInt`, with the directory it went to. -/
structure Write where
  speakerDir : List Char
  subDir : SubDir
  value : Nat
  accepted : Bool
deriving DecidableEq, Repr

/-- The file that was written to. -/
def Write.path (w : Write) : List Char :=
  w.speakerDir ++ '/' :: w.subDir.name.toList

/-- Whether a write to a file of the channel is accepted, given how many writes went before it
and the settings it finds. -/
abbrev Kernel := Nat → PwmFile → Nat → Pwm → Bool

/-- Every write is accepted. -/
def acceptAll : Kernel :=
  fun _ _ _ _ => true

/-- The statics of `Speaker.c` (`CurrentFreq` is local to `Speaker_PlayPitch`), the hardware,
and the writes made so far, the newest last. A `char` of `SpeakerDir` is a `Char`. -/
structure Device where
  state : State
  speakerDir : List Char
  en1Line : Option Line
  en2Line : Option Line
  chip : Option Chip
  currentFreq : UInt16
  pwm : Pwm
  bus : Bus
  writes : List Write

/-- The statics as the program starts with them, over any hardware. -/
def Device.initial (pwm : Pwm) (bus : Bus) : Device where
  state := .ended
  speakerDir := []
  en1Line := none
  en2Line := none
  chip := none
  currentFreq := 0
  pwm := pwm
  bus := bus
  writes := []

/-! ## Writing to the PWM channel -/

/-- `PWMFileWriteInt`. -/
def pwmFileWriteInt (subDir : SubDir) (value : Nat) (accepted : Bool) (s : Device) :
    ErrorCode × Device :=
  (if accepted then .errorNone else .errorSysfs,
    { s with writes := s.writes ++ [⟨s.speakerDir, subDir, value, accepted⟩] })

/-- `PWMWrite`. -/
def pwmWrite (kernel : Kernel) (file : PwmFile) (value : Nat) (s : Device) :
    ErrorCode × Device :=
  let accepted := kernel s.writes.length file value s.pwm
  let s := if accepted then { s with pwm := s.pwm.store file value } else s
  pwmFileWriteInt (.pwm0 file) value accepted s

/-- What becomes of the write to `export`. -/
inductive ExportOutcome where
  | written | busy | failed
deriving DecidableEq, Repr

/-- `Export`: the channel may be exported already. Exporting leaves its settings alone. -/
def exportChannel (outcome : ExportOutcome) (s : Device) : ErrorCode × Device :=
  let (error, s) := pwmFileWriteInt .exportFile 0 (outcome = .written) s
  (if error ≠ .errorNone ∧ outcome = .busy then .errorNone else error, s)

/-! ## The amplifier lines -/

/-- `chip_name`. -/
def chipName : String := "gpiochip7"

/-- `GPIO_OFFSET_SPKR_EN1`. -/
def gpioOffsetSpkrEn1 : Nat := 8

/-- `GPIO_OFFSET_SPKR_EN2`. -/
def gpioOffsetSpkrEn2 : Nat := 9

/-- What the libgpiod calls of `OpenVolumePins` return. -/
structure PinOutcomes where
  chipOpens : Bool
  en1Line : Bool
  en1Request : Bool
  en2Line : Bool
  en2Request : Bool
deriving DecidableEq, Repr

/-- The libgpiod calls that set the two lines, and whether they succeed. -/
structure SetOutcomes where
  en1Set : Bool
  en2Set : Bool
deriving DecidableEq, Repr

/-- `chip = gpiod_chip_open_by_name(chip_name)`, unless the chip is open. -/
def openChip (chipOpens : Bool) (s : Device) : Device :=
  match s.chip with
  | some _ => s
  | none =>
      let (chip, bus) := s.bus.chipOpenByName chipName chipOpens
      { s with chip, bus }

/-- `OpenVolumePins`. -/
def openVolumePins (o : PinOutcomes) (s : Device) : ErrorCode × Device :=
  let s := openChip o.chipOpens s
  match s.chip with
  | none => (.gpioErrorOpenChip, s)
  | some c =>
      -- What was acquired before a failing call stays acquired.
      let (en1Line, ok, bus) := s.bus.takeLine c gpioOffsetSpkrEn1 (some 0) o.en1Line o.en1Request
      let s := { s with en1Line, bus }
      if ¬ ok then (.gpioErrorGetLine, s)
      else
        let (en2Line, ok, bus) :=
          s.bus.takeLine c gpioOffsetSpkrEn2 (some 0) o.en2Line o.en2Request
        let s := { s with en2Line, bus }
        if ¬ ok then (.gpioErrorGetLine, s) else (.errorNone, s)

/-- A line is set to 0 and released, if there is one: whether no call failed, and the bus. -/
def closeLine (line : Option Line) (setOk : Bool) (b : Bus) : Bool × Bus :=
  match line with
  | none => (true, b)
  | some l =>
      let (ok, b) := b.lineSetValue l 0 setOk
      (ok, b.lineRelease l)

/-- `CloseVolumePins`, and whether no call failed. -/
def closeVolumePins (o : SetOutcomes) (s : Device) : Bool × Device :=
  let (ok2, bus) := closeLine s.en2Line o.en2Set s.bus
  let (ok1, bus) := closeLine s.en1Line o.en1Set bus
  let bus := match s.chip with
    | some c => bus.chipClose c
    | none => bus
  (ok2 && ok1, { s with en2Line := none, en1Line := none, chip := none, bus })

/-! ## The interface -/

/-- What the system calls of a `Speaker_Init` return: the names that `readdir` lists if
`opendir` succeeds, what becomes of the export, and the libgpiod calls. -/
structure InitOutcomes where
  listing : Option (List (List Char))
  exported : ExportOutcome
  pins : PinOutcomes
deriving DecidableEq, Repr

/-- `PWM_DIR`. -/
def pwmDir : List Char := "/sys/class/pwm/".toList

/-- `SPEAKER_PWM_DIR_LEN`. -/
def speakerPwmDirLen : Nat := 15 + 10

/-- The loop over the directory: the last name that is not hidden, as much of it as
`snprintf` has room for. -/
def readListing (listing : List (List Char)) (speakerDir : List Char) : List Char :=
  listing.foldl
    (fun dir name =>
      if name.head? = some '.' then dir else (pwmDir ++ name).take (speakerPwmDirLen - 1))
    speakerDir

/-- `Speaker_Init`. -/
def init (o : InitOutcomes) (s : Device) : ErrorCode × Device :=
  if s.state ≠ .ended then (.errorState, s)
  else
    match o.listing with
    | none => (.errorSysfs, s)
    | some listing =>
        let s := { s with speakerDir := readListing listing s.speakerDir }
        let (error, s) := exportChannel o.exported s
        if error ≠ .errorNone then (error, s)
        else
          let (error, s) := openVolumePins o.pins s
          if error ≠ .errorNone then (error, s)
          else (.errorNone, { s with state := .inited })

/-- `Periodns`. The double that is cut off here is taken as exact. -/
def periodns (frequency : UInt16) : Nat :=
  10 ^ 9 / frequency.toNat

/-- `DutyCyclens`. -/
def dutyCyclens (frequency : UInt16) : Nat :=
  if frequency = 0 then 0 else periodns frequency / 2

/-- The part of `Speaker_PlayPitch` after its tests. The errors of the writes are ignored. -/
def setPitch (kernel : Kernel) (frequency : UInt16) (s : Device) : Device :=
  let s := if frequency = 0 then s else (pwmWrite kernel .period (periodns frequency) s).2
  let s := (pwmWrite kernel .dutyCycle (dutyCyclens frequency) s).2
  let s := (pwmWrite kernel .enable (if frequency = 0 then 0 else 1) s).2
  { s with currentFreq := frequency }

/-- `Speaker_PlayPitch`. -/
def playPitch (kernel : Kernel) (frequency : UInt16) (s : Device) : ErrorCode × Device :=
  if s.state ≠ .inited then (.errorState, s)
  else if frequency = s.currentFreq then (.errorNone, s)
  else (.errorNone, setPitch kernel frequency s)

/-- `SPEAKER_MAX_VOLUME_LEVEL`. -/
def maxVolumeLevel : UInt32 := 3

/-- `SPKR_EN1_BIT`. -/
def spkrEn1Bit : UInt32 := 0x02

/-- `SPKR_EN2_BIT`. -/
def spkrEn2Bit : UInt32 := 0x01

/-- `Speaker_SetVolume`. -/
def setVolume (level : UInt32) (o : SetOutcomes) (s : Device) : ErrorCode × Device :=
  match s.en1Line, s.en2Line with
  | some en1, some en2 =>
      if level > maxVolumeLevel then (.errorOutOfBounds, s)
      else
        let (ok2, bus) :=
          s.bus.lineSetValue en2 (if level &&& spkrEn2Bit = spkrEn2Bit then 1 else 0) o.en2Set
        let (ok1, bus) :=
          bus.lineSetValue en1 (if level &&& spkrEn1Bit = spkrEn1Bit then 1 else 0) o.en1Set
        (if ok2 ∧ ok1 then .errorNone else .errorSysfs, { s with bus })
  | _, _ => (.errorSysfs, s)

/-- `Speaker_DeInit`. `CurrentFreq` keeps its value. -/
def deInit (kernel : Kernel) (o : SetOutcomes) (s : Device) : ErrorCode × Device :=
  if s.state ≠ .inited then (.errorState, s)
  else
    let s := (pwmWrite kernel .dutyCycle 0 s).2
    let s := (pwmWrite kernel .enable 0 s).2
    let s := (closeVolumePins o s).2
    (.errorNone, { s with state := .ended })

/-- A call to the interface, with what the system calls return in it. -/
inductive Call where
  | init (o : InitOutcomes)
  | playPitch (frequency : UInt16)
  | setVolume (level : UInt32) (o : SetOutcomes)
  | deInit (o : SetOutcomes)

/-- What a call returns, and the state it leaves. -/
def Call.run (kernel : Kernel) (s : Device) : Call → ErrorCode × Device
  | .init o => Speaker.init o s
  | .playPitch frequency => Speaker.playPitch kernel frequency s
  | .setVolume level o => Speaker.setVolume level o s
  | .deInit o => Speaker.deInit kernel o s

/-- The state that a call leaves. -/
def Call.step (kernel : Kernel) (s : Device) (call : Call) : Device :=
  (call.run kernel s).2

end BatteryInfo.Speaker
