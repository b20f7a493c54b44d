import BatteryInfo.Audio.Types

/-!
# The tracks

The tables of `Source/Libs/Audio/Music.h` that the build compiles in, and `GetTrack`. Neither
`NOTE_EQUIVALENT` nor `REAL_ODE_TO_JOY` is defined. `BootTune` plays the table of `OdeToJoy`.
-/

namespace BatteryInfo.Audio

/-! ## Pitches in hertz and durations in milliseconds -/

def noteC3 : UInt16 := 131
def noteE3 : UInt16 := 165
def noteG3 : UInt16 := 196
def noteA3 : UInt16 := 220
def noteC4 : UInt16 := 262
def noteD4 : UInt16 := 294
def noteE4 : UInt16 := 330
def noteF4 : UInt16 := 349
def noteG4 : UInt16 := 392
def noteA4 : UInt16 := 440
def noteB4 : UInt16 := 494
def noteC5 : UInt16 := 523
def noteD5 : UInt16 := 587
def noteG5 : UInt16 := 784
def noteA5 : UInt16 := 880
def noteB5 : UInt16 := 988
def note980Hz : UInt16 := 980
def note1120Hz : UInt16 := 1120
def note1800Hz : UInt16 := 1800
def note2000Hz : UInt16 := 2500
def note2500Hz : UInt16 := 2000
def note3200Hz : UInt16 := 3200

/-- `REST_NOTE`, the pitch that is silence. -/
def restNote : UInt16 := 0

/-- `NOTE_SEPARATION`. -/
def noteSeparation : UInt16 := 10

/-- `BEAT_TIME`. -/
def beatTime : UInt16 := 300

/-- `SIXTEENTH_NOTE`. -/
def sixteenthNote : UInt16 := beatTime / 4 - noteSeparation

/-! ## The tables -/

/-- What `GetTrack` hands to the player: a melody and a rhythm of the same length, with at
least one note. -/
structure Track where
  melody : List UInt16
  rhythm : List UInt16
  length_eq : melody.length = rhythm.length
  nonempty : melody ≠ []

def scaleTrack : Track where
  melody :=
    [noteC4, noteD4, noteE4, noteF4, noteG4, noteA4, noteB4, noteC5]
  rhythm :=
    [300, 300, 300, 300, 300, 300, 300, 300]
  length_eq := rfl
  nonempty := List.cons_ne_nil _ _

def alarm1Track : Track where
  melody :=
    [noteG4, restNote, noteE4, restNote, noteC4, restNote]
  rhythm :=
    [sixteenthNote, noteSeparation, sixteenthNote, noteSeparation, sixteenthNote, noteSeparation]
  length_eq := rfl
  nonempty := List.cons_ne_nil _ _

def alarm2Track : Track where
  melody :=
    [note2500Hz, note3200Hz, restNote, note2500Hz, note3200Hz, restNote, note2500Hz, note3200Hz]
  rhythm :=
    [300, 300, 100, 300, 300, 100, 300, 300]
  length_eq := rfl
  nonempty := List.cons_ne_nil _ _

def alert1Track : Track where
  melody :=
    [noteC3, restNote, noteE3, restNote]
  rhythm :=
    [sixteenthNote, noteSeparation, sixteenthNote, noteSeparation]
  length_eq := rfl
  nonempty := List.cons_ne_nil _ _

def alert2Track : Track where
  melody :=
    [noteC4, restNote, noteE4, restNote, noteG4, restNote]
  rhythm :=
    [sixteenthNote, noteSeparation, sixteenthNote, noteSeparation, sixteenthNote, noteSeparation]
  length_eq := rfl
  nonempty := List.cons_ne_nil _ _

def badInputTrack : Track where
  melody :=
    [noteC3]
  rhythm :=
    [500]
  length_eq := rfl
  nonempty := List.cons_ne_nil _ _

def odeToJoyTrack : Track where
  melody :=
    [noteB5, restNote, noteB5, restNote, noteC5, restNote, noteD5, restNote, noteD5, restNote,
      noteC5, restNote, noteB5, restNote, noteA5, restNote, noteG5, restNote, noteG5, restNote,
      noteA5, restNote, noteB5, restNote, noteB5, restNote, noteA5, restNote, noteA5]
  rhythm :=
    [250, 250, 250, 250, 250, 250, 250, 250, 250, 250, 250, 250, 250, 250, 250, 250, 250, 250,
      250, 250, 250, 250, 250, 250, 500, 250, 250, 250, 250]
  length_eq := rfl
  nonempty := List.cons_ne_nil _ _

def dockedTrack : Track where
  melody :=
    [note980Hz, note1120Hz, note980Hz]
  rhythm :=
    [40, 40, 40]
  length_eq := rfl
  nonempty := List.cons_ne_nil _ _

def keyPressTrack : Track where
  melody :=
    [note1800Hz]
  rhythm :=
    [40]
  length_eq := rfl
  nonempty := List.cons_ne_nil _ _

def longTrack : Track where
  melody :=
    [note2000Hz]
  rhythm :=
    [900]
  length_eq := rfl
  nonempty := List.cons_ne_nil _ _

def quickTrack : Track where
  melody :=
    [note2000Hz]
  rhythm :=
    [150]
  length_eq := rfl
  nonempty := List.cons_ne_nil _ _

def quickThreeTrack : Track where
  melody :=
    [note2000Hz, restNote, note2000Hz, restNote, note2000Hz]
  rhythm :=
    [150, 600, 150, 600, 150]
  length_eq := rfl
  nonempty := List.cons_ne_nil _ _

def scanTrack : Track where
  melody :=
    [note2500Hz]
  rhythm :=
    [100]
  length_eq := rfl
  nonempty := List.cons_ne_nil _ _

def novaTrack : Track where
  melody :=
    [noteA3, restNote, noteC3, restNote, noteE3, restNote, noteG3, restNote]
  rhythm :=
    [sixteenthNote, noteSeparation, sixteenthNote, noteSeparation, sixteenthNote, noteSeparation,
      sixteenthNote, noteSeparation]
  length_eq := rfl
  nonempty := List.cons_ne_nil _ _

/-- `GetTrack`. -/
def getTrack : AudioTrackID → Option Track
  | .scale => some scaleTrack
  | .alarm1 => some alarm1Track
  | .alarm2 => some alarm2Track
  | .alert1 => some alert1Track
  | .alert2 => some alert2Track
  | .badInput => some badInputTrack
  | .bootTune => some odeToJoyTrack
  | .docked => some dockedTrack
  | .keyPress => some keyPressTrack
  | .long => some longTrack
  | .quick => some quickTrack
  | .quickThree => some quickThreeTrack
  | .scan => some scanTrack
  | .nova => some novaTrack
  | .maxTracks => none

/-- Every valid ID has a track. -/
theorem get_track_isSome {id : AudioTrackID} (h : id ≠ .maxTracks) :
    ∃ track, getTrack id = some track := by
  cases id with
  | maxTracks => exact absurd rfl h
  | _ => exact ⟨_, rfl⟩

end BatteryInfo.Audio
