import BatteryInfo.Audio.Lifecycle
import BatteryInfo.Speaker.Volume

/-!
# The service and its speaker

The interface of `Audio.c`, with `RunAudioPlayer` and `CloseAudioPlayer`, as calls of one caller
over the state of the service and that of the speaker. Both have a state of their own. The two
agree exactly as long as no `Audio_end` fails (`states_agree`): it gives the speaker back first.
`RunAudioPlayer` returns nothing and goes on after an error, so that what it leaves depends on
every call that it makes (`run_and_close`).
-/

namespace BatteryInfo.Audio

open Sequence

/-- The service and the speaker. -/
structure AudioPlayer where
  service : Lifecycle
  speaker : Speaker.Device

/-- What the functions return that an `Audio_init` calls, up to the system calls of the
speaker. -/
structure PlayerInit where
  mutexInit : Int
  condInit : Int
  speaker : Speaker.InitOutcomes
  deriving DecidableEq, Repr

/-- The same for `Audio_end`. -/
structure PlayerEnd where
  speaker : Speaker.SetOutcomes
  mutexDestroy : Int
  condDestroy : Int
  deriving DecidableEq, Repr

/-- The same for `RunAudioPlayer`. -/
structure PlayerRun where
  init : PlayerInit
  threadCreate : Int
  volume : Speaker.SetOutcomes
  deriving DecidableEq, Repr

/-- `Audio_GetMaxVolume`. -/
def getMaxVolume : UInt32 :=
  Speaker.maxVolumeLevel

namespace AudioPlayer

/-- The start of the program. -/
def initial (pwm : Speaker.Pwm) (bus : Gpiod.Bus) : AudioPlayer where
  service := .initial
  speaker := .initial pwm bus

/-- `Audio_init`. -/
def init (o : PlayerInit) (p : AudioPlayer) : ErrorCode × AudioPlayer :=
  if p.service.myState ≠ .ended then (.errorTaskRunning, p)
  else
    let (error, service) := callInitMessaging o.mutexInit o.condInit p.service
    let p := { p with service }
    if error ≠ .errorNone then (.errorNullMsgQueue, p)
    else
      let (error, speaker) := Speaker.init o.speaker p.speaker
      let p := { p with speaker }
      if error ≠ .errorNone then (.errorHardwareInit, p)
      else (.errorNone, { p with service := { p.service with myState := .inited } })

/-- `Audio_start`. -/
def start (threadCreate : Int) (p : AudioPlayer) : ErrorCode × AudioPlayer :=
  let (error, service) := audioStart threadCreate p.service
  (error, { p with service })

/-- `Audio_end`. -/
def «end» (kernel : Speaker.Kernel) (o : PlayerEnd) (p : AudioPlayer) : ErrorCode × AudioPlayer :=
  if p.service.myState = .ended then (.errorNone, p)
  else
    let (speakerErrorCode, speaker) := Speaker.deInit kernel o.speaker p.speaker
    let (error, service) := audioEnd ⟨speakerErrorCode, o.mutexDestroy, o.condDestroy⟩ p.service
    (error, { service, speaker })

/-- `Audio_SetVolume`. -/
def setVolume (level : UInt32) (o : Speaker.SetOutcomes) (p : AudioPlayer) :
    ErrorCode × AudioPlayer :=
  let (error, speaker) := Speaker.setVolume level o p.speaker
  (if error ≠ .errorNone then .errorSetVolume else .errorNone, { p with speaker })

/-- `RunAudioPlayer`. It goes on after an error. -/
def run (o : PlayerRun) (p : AudioPlayer) : AudioPlayer :=
  let p := (p.init o.init).2
  let p := (p.start o.threadCreate).2
  (p.setVolume getMaxVolume o.volume).2

/-- `CloseAudioPlayer`. -/
def close (kernel : Speaker.Kernel) (o : PlayerEnd) (p : AudioPlayer) : AudioPlayer :=
  (p.end kernel o).2

end AudioPlayer

/-- What happens to the service and the speaker: a call, the end of `TaskLoop`, or a call of the
player. -/
inductive PlayerEvent where
  | init (o : PlayerInit)
  | start (threadCreate : Int)
  | «end» (o : PlayerEnd)
  | setVolume (level : UInt32) (o : Speaker.SetOutcomes)
  | run (o : PlayerRun)
  | close (o : PlayerEnd)
  | taskEnds
  | playPitch (frequency : UInt16)

namespace AudioPlayer

/-- The state after an event. -/
def step (kernel : Speaker.Kernel) (p : AudioPlayer) : PlayerEvent → AudioPlayer
  | .init o => (p.init o).2
  | .start threadCreate => (p.start threadCreate).2
  | .end o => (p.end kernel o).2
  | .setVolume level o => (p.setVolume level o).2
  | .run o => p.run o
  | .close o => p.close kernel o
  | .taskEnds => { p with service := Audio.taskEnds p.service }
  | .playPitch frequency =>
      { p with speaker := (Speaker.playPitch kernel frequency p.speaker).2 }

/-- The service has ended exactly if the speaker has. -/
def StatesAgree (p : AudioPlayer) : Prop :=
  p.service.myState = .ended ↔ p.speaker.state = .ended

/-- An `Audio_end` that has something to destroy destroys it. -/
def EndsWhole (p : AudioPlayer) : PlayerEvent → Prop
  | .end o | .close o => p.service.myState ≠ .ended → o.mutexDestroy = 0 ∧ o.condDestroy = 0
  | _ => True

/-! ## The calls to the speaker -/

/-- The calls to the speaker in an `Audio_init`. -/
def initCalls (p : AudioPlayer) (o : PlayerInit) : List Speaker.Call :=
  if p.service.myState = .ended ∧ o.mutexInit = 0 ∧ o.condInit = 0 then [.init o.speaker] else []

/-- The calls to the speaker in an `Audio_end`. -/
def endCalls (p : AudioPlayer) (o : PlayerEnd) : List Speaker.Call :=
  if p.service.myState = .ended then [] else [.deInit o.speaker]

/-- The calls to the speaker at an event. -/
def speakerCalls (p : AudioPlayer) : PlayerEvent → List Speaker.Call
  | .init o => p.initCalls o
  | .end o | .close o => p.endCalls o
  | .setVolume level o => [.setVolume level o]
  | .run o => p.initCalls o.init ++ [.setVolume getMaxVolume o.volume]
  | .start _ | .taskEnds => []
  | .playPitch frequency => [.playPitch frequency]

/-- The error that `InitMessaging` returns. -/
theorem callInitMessaging_none_iff (mutexInit condInit : Int) (s : Lifecycle) :
    (callInitMessaging mutexInit condInit s).1 = .errorNone ↔ mutexInit = 0 ∧ condInit = 0 := by
  unfold callInitMessaging
  by_cases hmutex : mutexInit = 0
  · by_cases hcond : condInit = 0 <;> simp [hmutex, hcond]
  · simp [hmutex]

theorem callInitMessaging_myState (mutexInit condInit : Int) (s : Lifecycle) :
    (callInitMessaging mutexInit condInit s).2.myState = s.myState := by
  unfold callInitMessaging
  split
  · rfl
  · dsimp only
    split <;> rfl

variable {p : AudioPlayer} {kernel : Speaker.Kernel}

/-- Where an `Audio_init` ends: without a call to the speaker, in which case the service keeps its
state, or with what `Speaker_Init` leaves. -/
theorem init_cases (o : PlayerInit) (p : AudioPlayer) :
    (p.initCalls o = [] ∧ (p.init o).2.service.myState = p.service.myState ∧
      (p.init o).2.speaker = p.speaker ∧
      ¬ (p.service.myState = .ended ∧ o.mutexInit = 0 ∧ o.condInit = 0)) ∨
    (p.initCalls o = [.init o.speaker] ∧ p.service.myState = .ended ∧ o.mutexInit = 0 ∧
      o.condInit = 0 ∧ (p.init o).2.speaker = (Speaker.init o.speaker p.speaker).2 ∧
      (p.init o).2.service.myState =
        if (Speaker.init o.speaker p.speaker).1 = .errorNone then .inited else .ended) := by
  have hstate := callInitMessaging_myState o.mutexInit o.condInit p.service
  by_cases hended : p.service.myState = .ended
  · by_cases hnone : o.mutexInit = 0 ∧ o.condInit = 0
    · refine .inr ⟨if_pos ⟨hended, hnone⟩, hended, hnone.1, hnone.2, ?_⟩
      have herror := (callInitMessaging_none_iff o.mutexInit o.condInit p.service).2 hnone
      rw [hended] at hstate
      unfold init
      rw [if_neg (not_not.2 hended)]
      dsimp only
      rw [if_neg (not_not.2 herror)]
      by_cases hspeaker : (Speaker.init o.speaker p.speaker).1 = .errorNone
      · simp [hspeaker]
      · simp [hspeaker, hstate]
    · refine .inl ⟨if_neg fun hall => hnone hall.2, ?_⟩
      have herror := mt (callInitMessaging_none_iff o.mutexInit o.condInit p.service).1 hnone
      unfold init
      rw [if_neg (not_not.2 hended)]
      dsimp only
      rw [if_pos herror]
      exact ⟨hstate, rfl, fun hall => hnone hall.2⟩
  · refine .inl ⟨if_neg fun hall => hended hall.1, ?_⟩
    unfold init
    rw [if_pos hended]
    exact ⟨rfl, rfl, fun hall => hended hall.1⟩

theorem init_speaker (kernel : Speaker.Kernel) (o : PlayerInit) (p : AudioPlayer) :
    (p.init o).2.speaker = (p.initCalls o).foldl (Speaker.Call.step kernel) p.speaker := by
  rcases init_cases o p with ⟨hcalls, _, hsame, _⟩ | ⟨hcalls, _, _, _, hspeaker, _⟩
  · rw [hcalls, hsame]
    rfl
  · rw [hcalls, hspeaker]
    rfl

theorem end_speaker (kernel : Speaker.Kernel) (o : PlayerEnd) (p : AudioPlayer) :
    (p.end kernel o).2.speaker = (p.endCalls o).foldl (Speaker.Call.step kernel) p.speaker := by
  unfold «end» endCalls
  split <;> rfl

/-- The speaker only sees its own calls. -/
theorem step_speaker (p : AudioPlayer) (event : PlayerEvent) :
    (p.step kernel event).speaker =
      (p.speakerCalls event).foldl (Speaker.Call.step kernel) p.speaker := by
  cases event with
  | init o => exact init_speaker kernel o p
  | «end» o => exact end_speaker kernel o p
  | close o => exact end_speaker kernel o p
  | run o =>
      show (Speaker.setVolume getMaxVolume o.volume (p.init o.init).2.speaker).2 = _
      rw [init_speaker kernel, speakerCalls, List.foldl_append]
      rfl
  | setVolume | start | taskEnds | playPitch => rfl

/-! ## The two states -/

/-- A `Speaker_Init` of an ended speaker initialises it exactly if it returns no error. -/
theorem speakerInit_state (o : Speaker.InitOutcomes) {s : Speaker.Device}
    (hended : s.state = .ended) :
    (Speaker.init o s).2.state = .ended ↔ (Speaker.init o s).1 ≠ .errorNone := by
  rcases Speaker.init_cases o s with ⟨hne, _⟩ | ⟨_, _, hinit⟩ | ⟨listing, _, _, _, hinit⟩ |
    ⟨listing, _, _, _, error, s', hpins, hinit⟩
  · exact absurd hended hne
  · rw [hinit]
    exact iff_of_true hended nofun
  · rw [hinit]
    exact iff_of_true hended nofun
  · rw [hinit]
    have hstate : s'.state = .ended := by
      have hsame := (Speaker.openVolumePins_pinsOnly o.pins
        (Speaker.exporting listing o.exported s)).state
      rw [hpins] at hsame
      exact hsame.trans hended
    by_cases herror : error = .errorNone
    · simp [herror]
    · simp [herror, hstate]

/-- A `Speaker_DeInit` always leaves the speaker ended, and returns nothing that `Audio_end` takes
for an error. -/
theorem speakerDeInit_state (kernel : Speaker.Kernel) (o : Speaker.SetOutcomes)
    (s : Speaker.Device) :
    (Speaker.deInit kernel o s).2.state = .ended ∧
      ((Speaker.deInit kernel o s).1 = .errorNone ∨
        (Speaker.deInit kernel o s).1 = .errorState) := by
  unfold Speaker.deInit
  cases hstate : s.state with
  | ended => exact ⟨hstate, .inr rfl⟩
  | inited => exact ⟨rfl, .inl rfl⟩

theorem StatesAgree.of_same {p p' : AudioPlayer} (h : StatesAgree p)
    (hservice : p'.service.myState = .ended ↔ p.service.myState = .ended)
    (hspeaker : p'.speaker.state = p.speaker.state) : StatesAgree p' := by
  unfold StatesAgree
  rw [hservice, hspeaker]
  exact h

theorem StatesAgree.init (h : StatesAgree p) (o : PlayerInit) : StatesAgree (p.init o).2 := by
  rcases init_cases o p with ⟨_, hservice, hspeaker, _⟩ | ⟨_, hended, _, _, hspeaker, hservice⟩
  · exact h.of_same (by rw [hservice]) (by rw [hspeaker])
  · unfold StatesAgree
    rw [hspeaker, hservice, speakerInit_state o.speaker (h.1 hended)]
    split <;> simp [*]

theorem StatesAgree.start (h : StatesAgree p) (threadCreate : Int) :
    StatesAgree (p.start threadCreate).2 :=
  h.of_same (audioStart_same threadCreate p.service).2 rfl

theorem StatesAgree.setVolume (h : StatesAgree p) (level : UInt32) (o : Speaker.SetOutcomes) :
    StatesAgree (p.setVolume level o).2 :=
  h.of_same .rfl (Speaker.setVolume_pinsOnly level o p.speaker).state

theorem end_of_ended (kernel : Speaker.Kernel) (o : PlayerEnd)
    (hended : p.service.myState = .ended) : (p.end kernel o).2 = p := by
  unfold «end»
  rw [if_pos hended]

/-- What an `Audio_end` leaves of the two states. -/
theorem end_states (kernel : Speaker.Kernel) (o : PlayerEnd)
    (hlive : p.service.myState ≠ .ended) :
    ((p.end kernel o).2.service.myState = .ended ↔ o.mutexDestroy = 0 ∧ o.condDestroy = 0) ∧
      (p.end kernel o).2.speaker.state = .ended := by
  obtain ⟨hended, hreturned⟩ := speakerDeInit_state kernel o.speaker p.speaker
  unfold «end»
  rw [if_neg hlive]
  refine ⟨?_, hended⟩
  rw [(audioEnd_of_live _ hlive).2, EndOutcomes.error_eq_none]
  exact and_iff_right hreturned

theorem StatesAgree.end_iff (h : StatesAgree p) (kernel : Speaker.Kernel) (o : PlayerEnd) :
    StatesAgree (p.end kernel o).2 ↔
      (p.service.myState ≠ .ended → o.mutexDestroy = 0 ∧ o.condDestroy = 0) := by
  by_cases hlive : p.service.myState = .ended
  · rw [end_of_ended kernel o hlive]
    exact iff_of_true h fun hne => absurd hlive hne
  · obtain ⟨hservice, hspeaker⟩ := end_states kernel o hlive
    unfold StatesAgree
    rw [hservice]
    exact ⟨fun hagree _ => hagree.2 hspeaker, fun hwhole => iff_of_true (hwhole hlive) hspeaker⟩

/-- One event. -/
theorem StatesAgree.step_iff (h : StatesAgree p) (kernel : Speaker.Kernel) (event : PlayerEvent) :
    StatesAgree (p.step kernel event) ↔ p.EndsWhole event := by
  cases event with
  | init o => exact iff_of_true (h.init o) trivial
  | start threadCreate => exact iff_of_true (h.start threadCreate) trivial
  | «end» o => exact h.end_iff kernel o
  | close o => exact h.end_iff kernel o
  | setVolume level o => exact iff_of_true (h.setVolume level o) trivial
  | run o =>
      exact iff_of_true (((h.init o.init).start o.threadCreate).setVolume getMaxVolume o.volume)
        trivial
  | taskEnds => exact iff_of_true (h.of_same (taskEnds_same p.service).2 rfl) trivial
  | playPitch frequency =>
      exact iff_of_true
        (h.of_same .rfl (Speaker.playPitch_soundOnly kernel frequency p.speaker).state) trivial

/-- A service that has ended has given its speaker back. -/
def SpeakerEnded (p : AudioPlayer) : Prop :=
  p.service.myState = .ended → p.speaker.state = .ended

theorem SpeakerEnded.of_same {p p' : AudioPlayer} (h : SpeakerEnded p)
    (hservice : p'.service.myState = .ended ↔ p.service.myState = .ended)
    (hspeaker : p'.speaker.state = p.speaker.state) : SpeakerEnded p' :=
  fun hended => hspeaker.trans (h (hservice.1 hended))

theorem SpeakerEnded.init (h : SpeakerEnded p) (o : PlayerInit) : SpeakerEnded (p.init o).2 := by
  rcases init_cases o p with ⟨_, hservice, hspeaker, _⟩ | ⟨_, hended, _, _, hspeaker, hservice⟩
  · exact h.of_same (by rw [hservice]) (by rw [hspeaker])
  · intro hafter
    rw [hspeaker, speakerInit_state o.speaker (h hended)]
    intro hnone
    rw [hservice, if_pos hnone] at hafter
    cases hafter

theorem SpeakerEnded.end (h : SpeakerEnded p) (kernel : Speaker.Kernel) (o : PlayerEnd) :
    SpeakerEnded (p.end kernel o).2 := by
  intro hafter
  by_cases hlive : p.service.myState = .ended
  · rw [end_of_ended kernel o hlive]
    exact h hlive
  · exact (end_states kernel o hlive).2

/-- It goes on so, whatever fails. -/
theorem SpeakerEnded.step (h : SpeakerEnded p) (kernel : Speaker.Kernel) (event : PlayerEvent) :
    SpeakerEnded (p.step kernel event) := by
  have hvolume {p : AudioPlayer} (h : SpeakerEnded p) (level : UInt32)
      (o : Speaker.SetOutcomes) : SpeakerEnded (p.setVolume level o).2 :=
    h.of_same .rfl (Speaker.setVolume_pinsOnly level o p.speaker).state
  have hstart {p : AudioPlayer} (h : SpeakerEnded p) (threadCreate : Int) :
      SpeakerEnded (p.start threadCreate).2 :=
    h.of_same (audioStart_same threadCreate p.service).2 rfl
  cases event with
  | init o => exact h.init o
  | start threadCreate => exact hstart h threadCreate
  | «end» o => exact h.end kernel o
  | close o => exact h.end kernel o
  | setVolume level o => exact hvolume h level o
  | run o => exact hvolume (hstart (h.init o.init) o.threadCreate) getMaxVolume o.volume
  | taskEnds => exact h.of_same (taskEnds_same p.service).2 rfl
  | playPitch frequency =>
      exact h.of_same .rfl (Speaker.playPitch_soundOnly kernel frequency p.speaker).state

/-- From the start of the program, whatever is called and whatever the system calls return, a
service that has ended has given its speaker back after every call. The converse holds after every
call exactly if no `Audio_end` fails to destroy the mutex or the condition variable of the queue. -/
theorem states_agree (kernel : Speaker.Kernel) (pwm : Speaker.Pwm) (bus : Gpiod.Bus)
    (events : List PlayerEvent) :
    SpeakerEnded (events.foldl (step kernel) (initial pwm bus)) ∧
      (EveryCall (step kernel) (fun p event => StatesAgree (p.step kernel event))
          (initial pwm bus) events ↔
        EveryCall (step kernel) EndsWhole (initial pwm bus) events) := by
  constructor
  · generalize hp : initial pwm bus = p
    have h : SpeakerEnded p := by
      rw [← hp]
      exact fun _ => rfl
    clear hp
    induction events generalizing p with
    | nil => exact h
    | cons event rest ih => exact ih _ (h.step kernel event)
  · exact EveryCall.iff_of_invariant (I := StatesAgree) (fun _ event h => h.step_iff kernel event)
      (fun _ event h hwhole => (h.step_iff kernel event).2 hwhole) (iff_of_true rfl rfl) events

/-! ## A session -/

/-- Every `Speaker_Init` at the event acquires all or nothing. -/
def SpeakerAllOrNothing (kernel : Speaker.Kernel) (p : AudioPlayer) (event : PlayerEvent) : Prop :=
  EveryCall (Speaker.Call.step kernel) Speaker.AcquiresAllOrNothing p.speaker
    (p.speakerCalls event)

/-- A module that holds all or nothing goes on to. -/
theorem holds_foldl {s : Speaker.Device} (h : Speaker.Holds s) {calls : List Speaker.Call}
    (hall : EveryCall (Speaker.Call.step kernel) Speaker.AcquiresAllOrNothing s calls) :
    Speaker.Holds (calls.foldl (Speaker.Call.step kernel) s) := by
  induction calls generalizing s with
  | nil => exact h
  | cons call rest ih =>
      rcases h.call kernel call with ⟨_, hkept⟩ | ⟨hfails, _⟩
      · exact ih hkept hall.2
      · exact absurd hall.1 hfails

/-- In a run the speaker holds all of its lines or none, and is ended if the service is. -/
theorem reached {events : List PlayerEvent} (hholds : Speaker.Holds p.speaker)
    (hended : SpeakerEnded p)
    (hall : EveryCall (step kernel) (SpeakerAllOrNothing kernel) p events) :
    Speaker.Holds (events.foldl (step kernel) p).speaker ∧
      SpeakerEnded (events.foldl (step kernel) p) := by
  induction events generalizing p with
  | nil => exact ⟨hholds, hended⟩
  | cons event rest ih =>
      refine ih ?_ (hended.step kernel event) hall.2
      rw [step_speaker]
      exact holds_foldl hholds hall.1

/-- `TaskLoop` runs, and the speaker is at its full volume. -/
structure AtFullVolume (p : AudioPlayer) : Prop where
  running : p.service.myState = .running
  inited : p.speaker.state = .inited
  volume : p.speaker.volume = getMaxVolume.toNat

/-- Nothing is left of a session. -/
structure Silent (p : AudioPlayer) : Prop where
  ended : p.service.myState = .ended
  speaker : p.speaker.state = .ended
  volume : p.speaker.volume = 0

/-- All that a `RunAudioPlayer` calls succeeds. -/
def RunSucceeds (o : PlayerRun) : Prop :=
  (o.init.mutexInit = 0 ∧ o.init.condInit = 0 ∧ o.init.speaker.Work) ∧ o.threadCreate = 0 ∧
    o.volume.en1Set ∧ o.volume.en2Set

/-- All that a `CloseAudioPlayer` calls succeeds. -/
def CloseSucceeds (o : PlayerEnd) : Prop :=
  (o.mutexDestroy = 0 ∧ o.condDestroy = 0) ∧ o.speaker.en1Set ∧ o.speaker.en2Set

/-- A service with its speaker as `Audio_init` leaves them when nothing fails. -/
structure Fresh (p : AudioPlayer) : Prop where
  inited : p.service.myState = .inited
  speaker : p.speaker.state = .inited
  volume : p.speaker.volume = 0
  lines : ∃ c, Speaker.PinsOpen p.speaker c ∧ c.name = Speaker.chipName

/-- An `Audio_init` of an ended service gives a fresh one, or leaves it ended. -/
theorem init_of_ended (o : PlayerInit) (hended : p.service.myState = .ended)
    (hspeaker : p.speaker.state = .ended) (hclosed : Speaker.PinsClosed p.speaker) :
    ((o.mutexInit = 0 ∧ o.condInit = 0 ∧ o.speaker.Work) ∧ Fresh (p.init o).2) ∨
    (¬ (o.mutexInit = 0 ∧ o.condInit = 0 ∧ o.speaker.Work) ∧
      (p.init o).2.service.myState = .ended) := by
  rcases init_cases o p with ⟨_, hstate, _, hnot⟩ | ⟨_, _, hmutex, hcond, hdevice, hstate⟩
  · exact .inr ⟨fun hall => hnot ⟨hended, hall.1, hall.2.1⟩, hstate.trans hended⟩
  · have hnone := speakerInit_state o.speaker hspeaker
    rcases Speaker.init_of_closed o.speaker hspeaker hclosed with
      ⟨hwork, herror, hinited, c, hopen⟩ | ⟨hfails, hafter, _⟩ | ⟨hfails, hafter, _⟩
    · have hall : Speaker.AcquiresAllOrNothing p.speaker (.init o.speaker) := by
        intro o' ho' _ _ _ _
        cases ho'
        exact hwork.2.2
      rcases Speaker.init_volume (.ended hspeaker hclosed) hall with
        ⟨_, _, _, hzero, hname⟩ | ⟨hrefused, _⟩
      · rw [if_pos herror] at hstate
        rw [← hdevice] at hinited hzero hname hopen
        exact .inl ⟨⟨hmutex, hcond, hwork⟩, hstate, hinited, hzero, c, hopen,
          hname c hopen.chip⟩
      · exact absurd ⟨hspeaker, hwork⟩ hrefused
    · rw [if_neg (hnone.1 hafter)] at hstate
      exact .inr ⟨fun hall => hfails ⟨hall.2.2.1, hall.2.2.2.1, hall.2.2.2.2.1⟩, hstate⟩
    · rw [if_neg (hnone.1 hafter)] at hstate
      exact .inr ⟨fun hall => hfails.2.2.2 hall.2.2.2.2, hstate⟩

/-- A player with the lines of its speaker and what they are at. -/
structure Playing (p : AudioPlayer) (en1 en2 : Nat) : Prop where
  speaker : p.speaker.state = .inited
  lines : ∃ c, Speaker.PinsOpen p.speaker c ∧ c.name = Speaker.chipName
  en1 : p.speaker.bus.level Speaker.en1Pin = en1
  en2 : p.speaker.bus.level Speaker.en2Pin = en2

/-- The last two calls of a `RunAudioPlayer` on a fresh service. -/
theorem Fresh.run (h : Fresh p) (threadCreate : Int) (o : Speaker.SetOutcomes) :
    ((((p.start threadCreate).2.setVolume getMaxVolume o).2.service.myState = .running) ↔
      threadCreate = 0) ∧
    Playing ((p.start threadCreate).2.setVolume getMaxVolume o).2 (if o.en1Set then 1 else 0)
      (if o.en2Set then 1 else 0) := by
  obtain ⟨hinited, hspeaker, hzero, c, hopen, hname⟩ := h
  have hpins := Speaker.setVolume_pinsOnly getMaxVolume o p.speaker
  have hsame := Speaker.setVolume_samePins getMaxVolume o p.speaker
  obtain ⟨h1, h2⟩ := Speaker.setVolume_levels hopen hname ⟨getMaxVolume, UInt32.le_refl _⟩ o
  have hlow1 : p.speaker.bus.level Speaker.en1Pin = 0 := by
    unfold Speaker.Device.volume at hzero
    omega
  have hlow2 : p.speaker.bus.level Speaker.en2Pin = 0 := by
    unfold Speaker.Device.volume at hzero
    omega
  constructor
  · show (audioStart threadCreate p.service).2.myState = .running ↔ _
    unfold audioStart
    rw [if_neg (not_not.2 hinited)]
    by_cases hcreate : threadCreate = 0 <;> simp [hcreate, hinited]
  · refine ⟨hpins.state.trans hspeaker, ⟨c, hopen.of_samePins hsame, hname⟩, h1.trans ?_,
      h2.trans ?_⟩
    · rw [hlow1]
      rfl
    · rw [hlow2]
      rfl

/-- A `CloseAudioPlayer` of a player at full volume. -/
theorem Playing.close_iff (h : Playing p 1 1) (hlive : p.service.myState ≠ .ended)
    (kernel : Speaker.Kernel) (o : PlayerEnd) :
    Silent (p.close kernel o) ↔ CloseSucceeds o := by
  obtain ⟨hstate, ⟨c, hopen, hname⟩, h1, h2⟩ := h
  obtain ⟨hservice, hspeaker⟩ := end_states kernel o hlive
  have hvolume := Speaker.deInit_volume hopen hname kernel o.speaker hstate
  have hdevice : (p.close kernel o).speaker = (Speaker.deInit kernel o.speaker p.speaker).2 := by
    unfold close «end»
    rw [if_neg hlive]
  rw [← hdevice, h1, h2] at hvolume
  constructor
  · intro hsilent
    have hoff := hvolume.1 hsilent.volume
    exact ⟨hservice.1 hsilent.ended, by simpa using hoff⟩
  · rintro ⟨hdestroyed, hset⟩
    exact ⟨hservice.2 hdestroyed, hspeaker, hvolume.2 ⟨.inl hset.1, .inl hset.2⟩⟩

/-- From the start of the program, and after any calls in which every `Speaker_Init` acquires all
of its lines or none: a `RunAudioPlayer` of a service that has ended leaves it running at full
volume exactly if all that it calls succeeds, and a `CloseAudioPlayer` after that leaves nothing
behind exactly if all that it calls does. -/
theorem run_and_close (kernel : Speaker.Kernel) (pwm : Speaker.Pwm) (bus : Gpiod.Bus)
    (hfree : ∀ l ∈ bus.requested, l.chip.name ≠ Speaker.chipName) (events : List PlayerEvent)
    (hall : EveryCall (step kernel) (SpeakerAllOrNothing kernel) (initial pwm bus) events)
    (hended : (events.foldl (step kernel) (initial pwm bus)).service.myState = .ended)
    (o : PlayerRun) :
    (AtFullVolume ((events.foldl (step kernel) (initial pwm bus)).run o) ↔ RunSucceeds o) ∧
      (RunSucceeds o → ∀ o', Silent (((events.foldl (step kernel) (initial pwm bus)).run o).close
        kernel o') ↔ CloseSucceeds o') := by
  have hstart : Speaker.Holds (initial pwm bus).speaker := .ended rfl ⟨rfl, rfl, rfl, hfree⟩
  obtain ⟨hholds, hspeaker⟩ := reached hstart (fun _ => rfl) hall
  generalize events.foldl (step kernel) (initial pwm bus) = p at *
  have hstate := hspeaker hended
  have hclosed : Speaker.PinsClosed p.speaker := by
    cases hholds with
    | inited c hinited _ => cases hinited.symm.trans hstate
    | ended _ hclosed => exact hclosed
  rcases init_of_ended o.init hended hstate hclosed with ⟨hinit, hfresh⟩ | ⟨hfails, hleft⟩
  · obtain ⟨hrunning, hplaying⟩ := hfresh.run o.threadCreate o.volume
    constructor
    · constructor
      · intro hfull
        have hshown : (p.run o).speaker.volume = 3 := hfull.volume
        unfold Speaker.Device.volume at hshown
        rw [show (p.run o).speaker.bus.level Speaker.en1Pin = _ from hplaying.en1,
          show (p.run o).speaker.bus.level Speaker.en2Pin = _ from hplaying.en2] at hshown
        refine ⟨hinit, hrunning.1 hfull.running, ?_⟩
        split_ifs at hshown with h1 h2
        · exact ⟨h1, h2⟩
        all_goals omega
      · rintro ⟨_, hcreate, hset1, hset2⟩
        refine ⟨hrunning.2 hcreate, hplaying.speaker, ?_⟩
        show 2 * (p.run o).speaker.bus.level Speaker.en1Pin +
          (p.run o).speaker.bus.level Speaker.en2Pin = 3
        rw [show (p.run o).speaker.bus.level Speaker.en1Pin = _ from hplaying.en1,
          show (p.run o).speaker.bus.level Speaker.en2Pin = _ from hplaying.en2, if_pos hset1,
          if_pos hset2]
    · rintro ⟨_, hcreate, hset1, hset2⟩ o'
      rw [if_pos hset1, if_pos hset2] at hplaying
      have hlive : (p.run o).service.myState ≠ .ended := by
        rw [show (p.run o).service.myState = .running from hrunning.2 hcreate]
        exact nofun
      exact Playing.close_iff hplaying hlive kernel o'
  · have hstopped : (p.run o).service.myState = .ended := by
      show (audioStart o.threadCreate (p.init o.init).2.service).2.myState = .ended
      exact (audioStart_same o.threadCreate _).2.2 hleft
    refine ⟨iff_of_false (fun hfull => ?_) fun hsucceeds => hfails hsucceeds.1,
      fun hsucceeds => absurd hsucceeds.1 hfails⟩
    cases hstopped.symm.trans hfull.running

/-- A `RunAudioPlayer` in which all calls succeed. -/
def workingRun : PlayerRun :=
  ⟨⟨0, 0, Speaker.workingInit⟩, 0, ⟨true, true⟩⟩

/-- A `CloseAudioPlayer` in which all calls succeed. -/
def workingClose : PlayerEnd :=
  ⟨⟨true, true⟩, 0, 0⟩

/-- A session in which the `CloseAudioPlayer` cannot set a line. -/
def firstSession : List PlayerEvent :=
  [.run workingRun, .playPitch 440, .close ⟨⟨true, false⟩, 0, 0⟩]

/-- What it leaves. -/
def afterSession : AudioPlayer :=
  firstSession.foldl (step Speaker.acceptAll) (initial ⟨0, 0, 0⟩ .empty)

/-- The session after it. -/
theorem run_and_close_again :
    AtFullVolume (afterSession.run workingRun) ∧
      Silent ((afterSession.run workingRun).close Speaker.acceptAll workingClose) := by
  have hall : EveryCall (step Speaker.acceptAll) (SpeakerAllOrNothing Speaker.acceptAll)
      (initial ⟨0, 0, 0⟩ .empty) firstSession := by
    refine ⟨⟨?_, nofun, trivial⟩, ⟨nofun, trivial⟩, ⟨nofun, trivial⟩, trivial⟩
    intro o ho _ _ _ _
    cases ho
    decide
  have hwork : RunSucceeds workingRun := by
    unfold RunSucceeds
    decide
  obtain ⟨hrun, hclose⟩ := run_and_close Speaker.acceptAll ⟨0, 0, 0⟩ .empty
    (by simp [Gpiod.Bus.empty]) _ hall (by decide) workingRun
  exact ⟨hrun.2 hwork, (hclose hwork workingClose).2 ⟨⟨rfl, rfl⟩, rfl, rfl⟩⟩

end AudioPlayer

end BatteryInfo.Audio
