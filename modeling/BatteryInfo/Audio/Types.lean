import Mathlib.Tactic.Common

/-!
# Types of the audio service

The enumerations and the message of `Source/Libs/Audio/Audio.c` and
`Include/AudioTrackID.h`.
-/

namespace BatteryInfo.Audio

/-- `enum ComponentState`, the values of `MyState` and `PlayerState`. -/
inductive ComponentState where
  | ended
  | inited
  | running
  | ending
  deriving DecidableEq, Repr

/-- `enum ErrorCodes`, what the functions of the audio service return. -/
inductive ErrorCode where
  | errorNone
  | errorTaskRunning
  | errorTaskStopped
  | errorTaskCreate
  | errorNullMsgQueue
  | errorGetHeader
  | errorUnknownMessage
  | errorSetVolume
  | errorMutex
  | errorMutexCreate
  | errorMutexDestroy
  | errorCondCreate
  | errorCondDestroy
  | errorMsgqFull
  | errorHardwareInit
  | errorHardwareDeinit
  deriving DecidableEq, Repr

/-- `AudioTrackID`. The last one, `MaxTracks`, names no track. -/
inductive AudioTrackID where
  | scale
  | alarm1
  | alarm2
  | alert1
  | alert2
  | badInput
  | bootTune
  | docked
  | keyPress
  | long
  | quick
  | quickThree
  | scan
  | nova
  | maxTracks
  deriving DecidableEq, Repr

/-- `enum MessageID`. -/
inductive MessageID where
  | msgIdEnd
  | msgIdPlayTrack
  deriving DecidableEq, Repr

/-- `struct Message`; the union `Data` has one member. -/
structure Message where
  msgID : MessageID
  trackID : AudioTrackID
  deriving DecidableEq, Repr

/-- The message `Audio_PlayTrack(id)` sends. -/
def Message.playTrack (id : AudioTrackID) : Message :=
  ⟨.msgIdPlayTrack, id⟩

/-- The message `Audio_end` sends. Its designated initialiser names `MsgID` only, so the rest
is zero. -/
def Message.endTask : Message :=
  ⟨.msgIdEnd, .scale⟩

/-- `enum ProcessCode`, what `ProcessMessage` returns. -/
inductive ProcessCode where
  | codeOk
  | codeKill
  deriving DecidableEq, Repr

end BatteryInfo.Audio
