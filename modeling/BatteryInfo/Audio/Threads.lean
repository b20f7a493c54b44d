import Mathlib.Data.Finset.Basic
import BatteryInfo.Concurrent.Locks
import BatteryInfo.Audio.MsgQueue
import BatteryInfo.Audio.Player

/-!
# The threads of the audio service

The functions of `Audio.c` as threads that take turns. One step is one access to an atomic
variable, one operation on a mutex, a condition variable or a thread, or the work on the queue
between a lock and an unlock. There is one thread that calls `Audio_init`, `Audio_start` and
`Audio_end` in any order (`ControlStep`), any number of threads that call `Audio_PlayTrack`
(`CallerStep`), and for each successful `pthread_create` of `Audio_start` a `TaskLoop` thread
(`TaskStep`) with its `PlayerTaskLoop` thread (`PlayerStep`).

Locking, joining and signalling follow POSIX: a signal wakes a sleeper if there is one, and a
sleeper may wake by itself. Initialisations and `pthread_create` in `Audio_start` may fail. A
mutex that nobody holds is destroyed without error, and so is a condition variable. For a mutex
that is held, which POSIX leaves undefined, both outcomes are possible, and so are both
outcomes of locking a mutex that is not initialised. What other failures of the destructors
lead to is in `BatteryInfo.Audio.Lifecycle`.

`History` records what happened. No step depends on it.
-/

namespace BatteryInfo.Audio

open Concurrent

/-- The threads. `task g` runs the `TaskLoop` that the `g`-th successful `pthread_create` of
`Audio_start` made, `player g` the `PlayerTaskLoop` that `task g` made. -/
inductive Tid where
  | control
  | caller (i : Nat)
  | task (g : Nat)
  | player (g : Nat)
  deriving DecidableEq

/-- The mutexes. `SpeakerMutex` is that of `Speaker.c`. -/
inductive MutexId where
  | audioMutex
  | msgMutex
  | speakerMutex
  deriving DecidableEq

/-- A message of `Audio_PlayTrack` that entered the queue: who sent it, and in which session the
queue was then. -/
structure Request where
  caller : Nat
  trackID : AudioTrackID
  session : Nat
  deriving DecidableEq

/-- What happened so far. A session begins when `InitMessaging` initialises the mutex. -/
structure History where
  /-- The number of sessions begun. -/
  session : Nat
  /-- The messages of `Audio_PlayTrack` that entered the queue, in this order. -/
  accepted : List Request
  /-- The ID in the message that `TaskLoop` has taken and not yet processed. -/
  taken : Option AudioTrackID
  /-- The IDs the player has taken from `NextTrackID`. -/
  started : List AudioTrackID
  /-- The pitches the player has passed to `Speaker_PlayPitch`. -/
  pitches : List UInt16
  /-- `Audio_start` created a thread in this session. -/
  threadCreated : Bool
  /-- `Audio_start` stored `Running` in this session, and `Audio_end` has not come to destroy
  `MsgMutex`. -/
  serving : Bool
  /-- `Audio_start` returned `ERROR_NONE` in this session. -/
  startReturned : Bool
  /-- `Audio_end` was called in this session and, if `Audio_start` has created a thread, since
  then. -/
  endCalled : Bool
  /-- `Audio_end` found `Running` and stored `Ending`. -/
  endStored : Bool
  /-- `Audio_end` offered its message to the queue. -/
  endSent : Bool
  /-- `Audio_end` got past its join. -/
  joined : Bool
  /-- `TaskLoop` left its loop and stored `Ending`. -/
  loopLeft : Bool
  /-- The messages that `TaskLoop` took after `Audio_end` stored `Ending`. -/
  takenAfterEnd : Nat
  /-- The thread that has stored a message and not yet signalled. -/
  signalDue : Option Tid

namespace History

/-- The history at the beginning of session `session`. -/
def begin (session : Nat) (accepted : List Request) : History where
  session := session
  accepted := accepted
  taken := none
  started := []
  pitches := []
  threadCreated := false
  serving := false
  startReturned := false
  endCalled := false
  endStored := false
  endSent := false
  joined := false
  loopLeft := false
  takenAfterEnd := 0
  signalDue := none

/-- Thread `t` stored a message; `request` describes it unless it is that of `Audio_end`. -/
def store (t : Tid) (request : Option Request) (h : History) : History :=
  { h with
    accepted := h.accepted ++ request.toList
    endSent := h.endSent || request.isNone
    signalDue := some t }

/-- A message was refused. -/
def refuse (request : Option Request) (h : History) : History :=
  { h with endSent := h.endSent || request.isNone }

/-- `TaskLoop` took a message. -/
def take (m : Message) (h : History) : History :=
  { h with
    taken := if m.msgID = .msgIdPlayTrack then some m.trackID else none
    takenAfterEnd := if h.endStored then h.takenAfterEnd + 1 else h.takenAfterEnd }

/-- The player took `next` from `NextTrackID`. -/
def pickUp (next : AudioTrackID) (h : History) : History :=
  { h with started := if next = .maxTracks then h.started else h.started ++ [next] }

end History

/-- The static variables of `Audio.c`, the mutexes and threads, and the history. -/
structure Shared where
  myState : ComponentState
  playerState : ComponentState
  nextTrackID : AudioTrackID
  /-- `AudioThread`, as the number of its `TaskLoop` thread. -/
  audioThread : Nat
  queue : MsgRing
  owner : MutexId → Option Tid
  /-- `MsgMutex` is initialised. -/
  mutexInit : Bool
  /-- `MsgCond` is initialised. -/
  condInit : Bool
  /-- The threads asleep on `MsgCond`. -/
  sleepers : Finset Tid
  /-- The number of `TaskLoop` threads created. -/
  created : Nat
  spawned : Finset Tid
  exited : Finset Tid
  hist : History

namespace Shared

/-- Thread `t` takes mutex `m`. -/
def acquire (sh : Shared) (m : MutexId) (t : Tid) : Shared :=
  { sh with owner := Function.update sh.owner m (some t) }

/-- Mutex `m` is free again. -/
def release (sh : Shared) (m : MutexId) : Shared :=
  { sh with owner := Function.update sh.owner m none }

theorem release_owner (sh : Shared) (m : MutexId) : (sh.release m).owner m = none := by
  simp [release]

end Shared

/-! ## `SendMessage` -/

/-- The places in `SendMessage`: before the lock, with the mutex held, with the message stored
and the signal to give, before the unlock, and at the return. -/
inductive SendPc where
  | lock
  | body
  | signal
  | unlock (e : ErrorCode)
  | ret (e : ErrorCode)

/-- A step of thread `t` in `SendMessage(m)`. -/
inductive SendStep (t : Tid) (m : Message) (request : Option Request) :
    Shared → SendPc → Shared → SendPc → Prop where
  | lock {sh} : sh.owner .msgMutex = none →
      SendStep t m request sh .lock (sh.acquire .msgMutex t) .body
  | lockError {sh} : sh.mutexInit = false →
      SendStep t m request sh .lock sh (.ret .errorMutex)
  | store {sh q} : sh.queue.send m = (.errorNone, q) →
      SendStep t m request sh .body
        { sh with queue := q, hist := sh.hist.store t request } .signal
  | refuse {sh e q} : sh.queue.send m = (e, q) → e ≠ .errorNone →
      SendStep t m request sh .body
        { sh with queue := q, hist := sh.hist.refuse request } (.unlock e)
  | wake {sh u} : u ∈ sh.sleepers →
      SendStep t m request sh .signal
        { sh with sleepers := sh.sleepers.erase u, hist := { sh.hist with signalDue := none } }
        (.unlock .errorNone)
  | wakeNone {sh} : sh.sleepers = ∅ →
      SendStep t m request sh .signal
        { sh with hist := { sh.hist with signalDue := none } } (.unlock .errorNone)
  | unlock {sh e} :
      SendStep t m request sh (.unlock e) (sh.release .msgMutex) (.ret e)

/-! ## `Audio_PlayTrack` -/

/-- The places in `Audio_PlayTrack`. `send id seen pc` is inside `SendMessage` after `MyState`
was read as `Running` in session `seen`. -/
inductive CallerPc where
  | idle
  | check (id : AudioTrackID)
  | send (id : AudioTrackID) (seen : Nat) (pc : SendPc)

/-- A finished call: the track asked for, what it returned, and the session in which it read
`Running`, if it did. -/
structure CallResult where
  trackID : AudioTrackID
  code : ErrorCode
  seen : Option Nat

/-- A thread that calls `Audio_PlayTrack` again and again, with what its calls returned. -/
structure Caller where
  pc : CallerPc
  results : List CallResult

/-- A step of caller `i`. -/
inductive CallerStep (i : Nat) : Shared → Caller → Shared → Caller → Prop where
  | call {sh rs} (id) : CallerStep i sh ⟨.idle, rs⟩ sh ⟨.check id, rs⟩
  | running {sh rs id} : sh.myState = .running →
      CallerStep i sh ⟨.check id, rs⟩ sh ⟨.send id sh.hist.session .lock, rs⟩
  | stopped {sh rs id} : sh.myState ≠ .running →
      CallerStep i sh ⟨.check id, rs⟩ sh ⟨.idle, rs ++ [⟨id, .errorTaskStopped, none⟩]⟩
  | send {sh sh' rs id seen pc pc'} :
      SendStep (.caller i) (.playTrack id) (some ⟨i, id, sh.hist.session⟩)
        sh pc sh' pc' →
      CallerStep i sh ⟨.send id seen pc, rs⟩ sh' ⟨.send id seen pc', rs⟩
  | ret {sh rs id seen e} :
      CallerStep i sh ⟨.send id seen (.ret e), rs⟩ sh ⟨.idle, rs ++ [⟨id, e, some seen⟩]⟩

/-! ## `Audio_init`, `Audio_start` and `Audio_end` -/

/-- The places in the three functions of the controlling thread. -/
inductive ControlPc where
  | idle
  | initLock
  | initCheck
  | initMutex
  | initCond
  | initQueue
  | initSpeakerLock
  | initSpeaker
  | initStore
  | initUnlock (e : ErrorCode)
  | startLock
  | startCheck
  | startCreate
  | startStore
  | startUnlock (e : ErrorCode)
  | endLock
  | endCheckEnded
  | endCheckRunning
  | endStore
  | endSend (pc : SendPc)
  | endJoin
  | endCheckEnding
  | endCheckInited
  | endSpeakerLock
  | endSpeaker
  | endDestroyMutex
  | endDestroyCond (e : ErrorCode)
  | endClear (e : ErrorCode)
  | endStoreEnded (e : ErrorCode)
  | endUnlock (e : ErrorCode)

/-- A step in `Audio_init`, with `InitMessaging` in line. -/
inductive InitStep : Shared → ControlPc → Shared → ControlPc → Prop where
  | call {sh} : InitStep sh .idle sh .initLock
  | lock {sh} : sh.owner .audioMutex = none →
      InitStep sh .initLock (sh.acquire .audioMutex .control) .initCheck
  | notEnded {sh} : sh.myState ≠ .ended →
      InitStep sh .initCheck sh (.initUnlock .errorTaskRunning)
  | ended {sh} : sh.myState = .ended → InitStep sh .initCheck sh .initMutex
  | mutexError {sh} : InitStep sh .initMutex sh (.initUnlock .errorNullMsgQueue)
  | mutexInit {sh} :
      InitStep sh .initMutex
        { sh with
          mutexInit := true
          owner := Function.update sh.owner .msgMutex none
          hist := .begin (sh.hist.session + 1) sh.hist.accepted } .initCond
  | condError {sh} : InitStep sh .initCond sh (.initUnlock .errorNullMsgQueue)
  | condInit {sh} : InitStep sh .initCond { sh with condInit := true, sleepers := ∅ } .initQueue
  | queue {sh} :
      InitStep sh .initQueue { sh with queue := .init sh.queue.queue } .initSpeakerLock
  | speakerLock {sh} : sh.owner .speakerMutex = none →
      InitStep sh .initSpeakerLock (sh.acquire .speakerMutex .control) .initSpeaker
  | speakerError {sh} :
      InitStep sh .initSpeaker (sh.release .speakerMutex) (.initUnlock .errorHardwareInit)
  | speakerInit {sh} : InitStep sh .initSpeaker (sh.release .speakerMutex) .initStore
  | store {sh} :
      InitStep sh .initStore { sh with myState := .inited } (.initUnlock .errorNone)
  | unlock {sh e} : InitStep sh (.initUnlock e) (sh.release .audioMutex) .idle

/-- A step in `Audio_start`. -/
inductive StartStep : Shared → ControlPc → Shared → ControlPc → Prop where
  | call {sh} : StartStep sh .idle sh .startLock
  | lock {sh} : sh.owner .audioMutex = none →
      StartStep sh .startLock (sh.acquire .audioMutex .control) .startCheck
  | notInited {sh} : sh.myState ≠ .inited →
      StartStep sh .startCheck sh (.startUnlock .errorTaskRunning)
  | inited {sh} : sh.myState = .inited → StartStep sh .startCheck sh .startCreate
  | createError {sh} : StartStep sh .startCreate sh (.startUnlock .errorTaskCreate)
  | create {sh} :
      StartStep sh .startCreate
        { sh with
          audioThread := sh.created
          created := sh.created + 1
          spawned := insert (.task sh.created) sh.spawned
          hist := { sh.hist with threadCreated := true, endCalled := false } } .startStore
  | store {sh} :
      StartStep sh .startStore
        { sh with myState := .running, hist := { sh.hist with serving := true } }
        (.startUnlock .errorNone)
  | unlock {sh e} :
      StartStep sh (.startUnlock e)
        { sh.release .audioMutex with
          hist := { sh.hist with
            startReturned := sh.hist.startReturned || decide (e = .errorNone) } } .idle

/-- A step in `Audio_end`. -/
inductive EndStep : Shared → ControlPc → Shared → ControlPc → Prop where
  | call {sh} :
      EndStep sh .idle { sh with hist := { sh.hist with endCalled := true } } .endLock
  | lock {sh} : sh.owner .audioMutex = none →
      EndStep sh .endLock (sh.acquire .audioMutex .control) .endCheckEnded
  | ended {sh} : sh.myState = .ended → EndStep sh .endCheckEnded sh (.endUnlock .errorNone)
  | notEnded {sh} : sh.myState ≠ .ended → EndStep sh .endCheckEnded sh .endCheckRunning
  | running {sh} : sh.myState = .running → EndStep sh .endCheckRunning sh .endStore
  | notRunning {sh} : sh.myState ≠ .running → EndStep sh .endCheckRunning sh .endCheckEnding
  | store {sh} :
      EndStep sh .endStore
        { sh with myState := .ending, hist := { sh.hist with endStored := true } }
        (.endSend .lock)
  | send {sh sh' pc pc'} : SendStep .control .endTask none sh pc sh' pc' →
      EndStep sh (.endSend pc) sh' (.endSend pc')
  -- the result of SendMessage is ignored
  | sent {sh e} : EndStep sh (.endSend (.ret e)) sh .endJoin
  | join {sh} : Tid.task sh.audioThread ∈ sh.exited →
      EndStep sh .endJoin { sh with hist := { sh.hist with joined := true } } .endCheckEnding
  | ending {sh} : sh.myState = .ending → EndStep sh .endCheckEnding sh .endSpeakerLock
  | notEnding {sh} : sh.myState ≠ .ending → EndStep sh .endCheckEnding sh .endCheckInited
  | inited {sh} : sh.myState = .inited → EndStep sh .endCheckInited sh .endSpeakerLock
  | notInited {sh} : sh.myState ≠ .inited →
      EndStep sh .endCheckInited sh (.endUnlock .errorTaskRunning)
  | speakerLock {sh} : sh.owner .speakerMutex = none →
      EndStep sh .endSpeakerLock (sh.acquire .speakerMutex .control) .endSpeaker
  -- Speaker_DeInit returns SPEAKER_ERROR_NONE or SPEAKER_ERROR_STATE, neither counts
  | speakerDeInit {sh} : EndStep sh .endSpeaker (sh.release .speakerMutex) .endDestroyMutex
  | destroyMutex {sh} :
      EndStep sh .endDestroyMutex
        { sh with mutexInit := false, hist := { sh.hist with serving := false } }
        (.endDestroyCond .errorNone)
  | destroyMutexBusy {sh} : sh.owner .msgMutex ≠ none →
      EndStep sh .endDestroyMutex { sh with hist := { sh.hist with serving := false } }
        (.endDestroyCond .errorMutexDestroy)
  | destroyCond {sh e} :
      EndStep sh (.endDestroyCond e) { sh with condInit := false } (.endClear e)
  | clear {sh e} :
      EndStep sh (.endClear e) { sh with queue := sh.queue.clear } (.endStoreEnded e)
  | storeEnded {sh} :
      EndStep sh (.endStoreEnded .errorNone) { sh with myState := .ended } (.endUnlock .errorNone)
  | keepState {sh e} : e ≠ .errorNone → EndStep sh (.endStoreEnded e) sh (.endUnlock e)
  | unlock {sh e} : EndStep sh (.endUnlock e) (sh.release .audioMutex) .idle

/-- A step of the controlling thread. -/
inductive ControlStep (sh : Shared) (pc : ControlPc) (sh' : Shared) (pc' : ControlPc) : Prop where
  | init : InitStep sh pc sh' pc' → ControlStep sh pc sh' pc'
  | start : StartStep sh pc sh' pc' → ControlStep sh pc sh' pc'
  | end : EndStep sh pc sh' pc' → ControlStep sh pc sh' pc'

/-! ## `TaskLoop` -/

/-- The places in `TaskLoop`. `release` and `process` have the message just taken. -/
inductive TaskPc where
  | lock
  | setPlayer
  | createPlayer
  | check
  | get
  | wait
  | asleep
  | release (m : Message)
  | process (m : Message)
  | relock
  | relockKill
  | storeEnding
  | unlock
  | stopPlayer
  | joinPlayer
  | playerEnded
  | done

/-- `ProcessMessage` with `PlayTrackID`: the result, and `NextTrackID` afterwards. -/
def processMessage (m : Message) (nextTrackID : AudioTrackID) : ProcessCode × AudioTrackID :=
  match m.msgID with
  | .msgIdPlayTrack => (.codeOk, m.trackID)
  | .msgIdEnd => (.codeKill, nextTrackID)

/-- A step of `TaskLoop` number `g`. -/
inductive TaskStep (g : Nat) : Shared → TaskPc → Shared → TaskPc → Prop where
  | lock {sh} : Tid.task g ∈ sh.spawned → sh.owner .msgMutex = none →
      TaskStep g sh .lock (sh.acquire .msgMutex (.task g)) .setPlayer
  | setPlayer {sh} : TaskStep g sh .setPlayer { sh with playerState := .running } .createPlayer
  | createPlayer {sh} :
      TaskStep g sh .createPlayer { sh with spawned := insert (.player g) sh.spawned } .check
  | running {sh} : sh.myState = .running → TaskStep g sh .check sh .get
  | notRunning {sh} : sh.myState ≠ .running → TaskStep g sh .check sh .storeEnding
  | got {sh m q} : sh.queue.get = (some m, q) →
      TaskStep g sh .get { sh with queue := q, hist := sh.hist.take m } (.release m)
  | gotNone {sh q} : sh.queue.get = (none, q) → TaskStep g sh .get { sh with queue := q } .wait
  -- pthread_cond_wait gives the mutex back and goes to sleep in one step
  | wait {sh} :
      TaskStep g sh .wait
        { sh.release .msgMutex with sleepers := insert (.task g) sh.sleepers } .asleep
  | spurious {sh} : Tid.task g ∈ sh.sleepers →
      TaskStep g sh .asleep { sh with sleepers := sh.sleepers.erase (.task g) } .asleep
  | wake {sh} : Tid.task g ∉ sh.sleepers → sh.owner .msgMutex = none →
      TaskStep g sh .asleep (sh.acquire .msgMutex (.task g)) .get
  | release {sh m} : TaskStep g sh (.release m) (sh.release .msgMutex) (.process m)
  | processOk {sh m id} : processMessage m sh.nextTrackID = (.codeOk, id) →
      TaskStep g sh (.process m)
        { sh with nextTrackID := id, hist := { sh.hist with taken := none } } .relock
  | processKill {sh m id} : processMessage m sh.nextTrackID = (.codeKill, id) →
      TaskStep g sh (.process m) { sh with nextTrackID := id } .relockKill
  | relock {sh} : sh.owner .msgMutex = none →
      TaskStep g sh .relock (sh.acquire .msgMutex (.task g)) .check
  | relockKill {sh} : sh.owner .msgMutex = none →
      TaskStep g sh .relockKill (sh.acquire .msgMutex (.task g)) .storeEnding
  | storeEnding {sh} :
      TaskStep g sh .storeEnding
        { sh with myState := .ending, hist := { sh.hist with loopLeft := true } } .unlock
  | unlock {sh} : TaskStep g sh .unlock (sh.release .msgMutex) .stopPlayer
  | stopPlayer {sh} :
      TaskStep g sh .stopPlayer { sh with playerState := .ending } .joinPlayer
  | joinPlayer {sh} : Tid.player g ∈ sh.exited → TaskStep g sh .joinPlayer sh .playerEnded
  | playerEnded {sh} :
      TaskStep g sh .playerEnded
        { sh with playerState := .ended, exited := insert (.task g) sh.exited } .done

/-! ## `PlayerTaskLoop` -/

/-- The places in `PlayerTaskLoop`. `pitch calls` has the calls of `Speaker_PlayPitch` that the
iteration still makes; `inPitch calls` is inside the call before them. -/
inductive PlayerPc where
  | check
  | exchange
  | pitch (calls : List UInt16)
  | inPitch (calls : List UInt16)
  | clear
  | lastPitch
  | inLastPitch
  | done

/-- A player thread: its place and its local variables. -/
structure Player where
  pc : PlayerPc
  vars : PlayerVars

/-- A step of `PlayerTaskLoop` number `g`. `Speaker_PlayPitch` locks `SpeakerMutex` around its
body. -/
inductive PlayerStep (g : Nat) : Shared → Player → Shared → Player → Prop where
  | running {sh v} : Tid.player g ∈ sh.spawned → sh.playerState = .running →
      PlayerStep g sh ⟨.check, v⟩ sh ⟨.exchange, v⟩
  | notRunning {sh v} : Tid.player g ∈ sh.spawned → sh.playerState ≠ .running →
      PlayerStep g sh ⟨.check, v⟩ sh ⟨.clear, v⟩
  | exchange {sh v v' calls} : v.iterate sh.nextTrackID = some (v', calls) →
      PlayerStep g sh ⟨.exchange, v⟩
        { sh with nextTrackID := .maxTracks, hist := sh.hist.pickUp sh.nextTrackID }
        ⟨.pitch calls, v'⟩
  | pitch {sh v f calls} : sh.owner .speakerMutex = none →
      PlayerStep g sh ⟨.pitch (f :: calls), v⟩
        { sh.acquire .speakerMutex (.player g) with
          hist := { sh.hist with pitches := sh.hist.pitches ++ [f] } }
        ⟨.inPitch calls, v⟩
  | pitched {sh v calls} :
      PlayerStep g sh ⟨.inPitch calls, v⟩ (sh.release .speakerMutex) ⟨.pitch calls, v⟩
  | loop {sh v} : PlayerStep g sh ⟨.pitch [], v⟩ sh ⟨.check, v⟩
  | clear {sh v} :
      PlayerStep g sh ⟨.clear, v⟩ { sh with nextTrackID := .maxTracks } ⟨.lastPitch, v⟩
  | lastPitch {sh v} : sh.owner .speakerMutex = none →
      PlayerStep g sh ⟨.lastPitch, v⟩
        { sh.acquire .speakerMutex (.player g) with
          hist := { sh.hist with pitches := sh.hist.pitches ++ [0] } }
        ⟨.inLastPitch, v⟩
  | lastPitched {sh v} :
      PlayerStep g sh ⟨.inLastPitch, v⟩
        { sh.release .speakerMutex with exited := insert (.player g) sh.exited } ⟨.done, v⟩

/-! ## The system -/

/-- The private state of each thread. -/
@[reducible] def Local : Tid → Type
  | .control => ControlPc
  | .caller _ => Caller
  | .task _ => TaskPc
  | .player _ => Player

/-- The audio service: all threads together. -/
def service : System Shared Local where
  Step
    | .control => ControlStep
    | .caller i => CallerStep i
    | .task g => TaskStep g
    | .player g => PlayerStep g

/-- A configuration of the service. -/
abbrev Service := Config Shared Local

/-! ## Calls that nobody disturbs -/

/-- The shared state after an `Audio_init` in which nothing fails. -/
def Shared.inited (sh : Shared) : Shared :=
  let sh := sh.acquire .audioMutex .control
  let sh :=
    { sh with
      mutexInit := true
      owner := Function.update sh.owner .msgMutex none
      hist := .begin (sh.hist.session + 1) sh.hist.accepted }
  let sh := { sh with condInit := true, sleepers := ∅, queue := .init sh.queue.queue }
  let sh := (sh.acquire .speakerMutex .control).release .speakerMutex
  { sh with myState := .inited }.release .audioMutex

/-- The shared state after an `Audio_start` in which nothing fails. -/
def Shared.started (sh : Shared) : Shared :=
  let sh := sh.acquire .audioMutex .control
  let sh : Shared :=
    { sh with
      audioThread := sh.created
      created := sh.created + 1
      spawned := insert (Tid.task sh.created) sh.spawned
      hist := { sh.hist with threadCreated := true, endCalled := false } }
  let sh : Shared :=
    { sh with
      myState := .running
      hist := { sh.hist with serving := true } }
  { sh.release .audioMutex with hist := { sh.hist with startReturned := true } }

section Undisturbed

variable {sh : Shared} {ok : ControlPc → ControlPc → Prop}

theorem init_run (hok : ∀ pc pc', pc ≠ .endDestroyMutex → ok pc pc')
    (haudio : sh.owner .audioMutex = none) (hspeaker : sh.owner .speakerMutex = none)
    (hended : sh.myState = .ended) :
    ThreadRun ControlStep ok sh .idle sh.inited .idle :=
  .head (.init .call) (hok _ _ (by simp)) <| .head (.init (.lock haudio)) (hok _ _ (by simp)) <|
    .head (.init (.ended hended)) (hok _ _ (by simp)) <|
    .head (.init .mutexInit) (hok _ _ (by simp)) <| .head (.init .condInit) (hok _ _ (by simp)) <|
    .head (.init .queue) (hok _ _ (by simp)) <|
    .head (.init (.speakerLock (by simp [Shared.acquire, hspeaker]))) (hok _ _ (by simp)) <|
    .head (.init .speakerInit) (hok _ _ (by simp)) <| .head (.init .store) (hok _ _ (by simp)) <|
    .head (.init .unlock) (hok _ _ (by simp)) <| .refl _ _

theorem start_run (hok : ∀ pc pc', pc ≠ .endDestroyMutex → pc' ≠ .initLock → ok pc pc')
    (haudio : sh.owner .audioMutex = none) (hinited : sh.myState = .inited) :
    ThreadRun ControlStep ok sh .idle sh.started .idle := by
  have hstarted : sh.started =
      { sh.started with hist := { sh.started.hist with startReturned :=
        (sh.hist.startReturned || decide (ErrorCode.errorNone = .errorNone)) } } := by
    simp [Shared.started]
  rw [hstarted]
  exact .head (.start .call) (hok _ _ (by simp) (by simp)) <|
    .head (.start (.lock haudio)) (hok _ _ (by simp) (by simp)) <|
    .head (.start (.inited hinited)) (hok _ _ (by simp) (by simp)) <|
    .head (.start .create) (hok _ _ (by simp) (by simp)) <|
    .head (.start .store) (hok _ _ (by simp) (by simp)) <|
    .head (.start .unlock) (hok _ _ (by simp) (by simp)) <| .refl _ _

end Undisturbed

end BatteryInfo.Audio
