import BatteryInfo.Audio.Score
import BatteryInfo.Audio.Session
import BatteryInfo.Speaker.Shortcut

/-!
# The sound of a session

The threads of a session with the speaker under them: what the player and `Audio_end` do to the
PWM channel and its lines, while any thread may call `Audio_SetVolume`.

`Speaker_PlayPitch` skips a pitch that it remembers, also if `Speaker_DeInit` has switched the
channel off behind it. In a session this never happens (`session_sound`): when `Audio_end` comes
to call `Speaker_DeInit`, the last pitch was 0. If it has joined `TaskLoop` then the player has
ended with that pitch. It does not join a `TaskLoop` that found `MyState` not yet `Running` and
left at once; but then no message was processed, and the player has played nothing but 0
(`last_pitch_zero`).
-/

namespace BatteryInfo.Audio

open Concurrent

/-! ## Before the first track -/

/-- No track has reached the player, and none is on its way in `NextTrackID`. -/
def Shared.Silent (sh : Shared) : Prop :=
  sh.nextTrackID = .maxTracks ∧ sh.hist.started = []

/-- The pitches that the iteration still plays. -/
def PlayerPc.calls : PlayerPc → List UInt16
  | .pitch calls | .inPitch calls => calls
  | _ => []

namespace Startup

/-- What holds throughout a session: only `Audio_end` sends an end message, and before the first
track only 0 is played. -/
structure Inv (sh : Shared) : Prop where
  held : sh.hist.endStored = false → ∀ m ∈ sh.queue.held, m.msgID = .msgIdPlayTrack
  pitches : sh.hist.started = [] → ∀ f ∈ sh.hist.pitches, f = 0

/-- `Audio_end` is not between storing `Ending` and the return of its join. -/
def ControlAt : ControlPc → Shared → Prop
  | .endSend _, _ | .endJoin, _ => True
  | _, sh => sh.hist.endStored = true → sh.hist.joined = true

/-- What `TaskLoop` claims until `Audio_end` stores `Ending`: it serves only while it finds
`Running`, and if it leaves then it has never found it. -/
def TaskAt : TaskPc → Shared → Prop
  | .get, sh | .wait, sh | .asleep, sh | .relock, sh => sh.myState = .running
  | .release m, sh | .process m, sh => sh.myState = .running ∧ m.msgID = .msgIdPlayTrack
  | .check, sh => sh.Silent ∨ sh.myState = .running
  | .relockKill, _ => False
  | _, sh => sh.Silent

/-- A player without a track. -/
def PlayerAt (l : Player) : Prop :=
  l.vars.currTrackID = .maxTracks ∧ ∀ f ∈ l.pc.calls, f = 0

/-- What the other threads may do. -/
def Rely : Tid → Shared → Shared → Prop
  | .control, sh, sh' =>
      sh'.hist.endStored = sh.hist.endStored ∧ sh'.hist.joined = sh.hist.joined
  | .task g, sh, sh' => g = 0 → sh'.hist.endStored = false → sh.hist.endStored = false ∧
      (sh.myState = .running → sh'.myState = .running) ∧ (sh.Silent → sh'.Silent)
  | .player _, sh, sh' => sh'.hist.started = [] → sh.hist.started = []
  | .caller _, _, _ => True

theorem Rely.refl (t : Tid) (sh : Shared) : Rely t sh sh := by
  cases t with
  | control => exact ⟨rfl, rfl⟩
  | task _ => exact fun _ h => ⟨h, id, id⟩
  | player _ => exact id
  | caller _ => trivial

/-- A step that stores nothing that the outline is about. -/
theorem Rely.of_same {t : Tid} {sh sh' : Shared} (hstate : sh'.myState = sh.myState)
    (hnext : sh'.nextTrackID = sh.nextTrackID)
    (hend : sh'.hist.endStored = sh.hist.endStored) (hjoined : sh'.hist.joined = sh.hist.joined)
    (hstarted : sh'.hist.started = sh.hist.started) : Rely t sh sh' := by
  cases t with
  | control => exact ⟨hend, hjoined⟩
  | task _ =>
      intro _ h
      refine ⟨hend.symm.trans h, hstate.trans, fun hsilent => ?_⟩
      exact ⟨hnext.trans hsilent.1, hstarted.trans hsilent.2⟩
  | player _ => exact hstarted.symm.trans
  | caller _ => trivial

variable {sh sh' : Shared}

theorem send_step {t : Tid} {msg : Message} {request : Option Request} {pc pc' : SendPc}
    (hinv : Inv sh) (hstep : SendStep t msg request sh pc sh' pc')
    (hmsg : sh.hist.endStored = false → msg.msgID = .msgIdPlayTrack) :
    Inv sh' ∧ ∀ u, Rely u sh sh' := by
  cases hstep with
  | @store q hsend =>
      have hheld : q.held = sh.queue.held ++ [msg] := MsgRing.send_none hsend
      refine ⟨⟨fun h m hm => ?_, hinv.pitches⟩, fun _ => .of_same rfl rfl rfl rfl rfl⟩
      have hm : m ∈ q.held := hm
      rw [hheld, List.mem_append, List.mem_singleton] at hm
      rcases hm with hm | rfl
      · exact hinv.held h m hm
      · exact hmsg h
  | refuse hsend he =>
      obtain ⟨_, rfl, _⟩ := MsgRing.send_error hsend he
      exact ⟨⟨hinv.held, hinv.pitches⟩, fun _ => .of_same rfl rfl rfl rfl rfl⟩
  | _ => exact ⟨⟨hinv.held, hinv.pitches⟩, fun _ => .of_same rfl rfl rfl rfl rfl⟩

theorem caller_step {i : Nat} {l l' : Caller} (hinv : Inv sh)
    (hstep : CallerStep i sh l sh' l') : Inv sh' ∧ ∀ u, Rely u sh sh' := by
  cases hstep with
  | send hsend => exact send_step hinv hsend fun _ => rfl
  | _ => exact ⟨hinv, fun u => .refl u sh⟩

/-- A step of `Audio_start`. -/
theorem start_step {pc pc' : ControlPc} (hinv : Inv sh) (hat : ControlAt pc sh)
    (hstep : StartStep sh pc sh' pc') :
    Inv sh' ∧ ControlAt pc' sh' ∧ ∀ u, Rely u sh sh' := by
  cases hstep with
  | store =>
      refine ⟨⟨hinv.held, hinv.pitches⟩, hat, fun u => ?_⟩
      cases u with
      | task g => exact fun _ h => ⟨h, fun _ => rfl, id⟩
      | control => exact ⟨rfl, rfl⟩
      | player g => exact id
      | caller i => trivial
  | _ => exact ⟨⟨hinv.held, hinv.pitches⟩, hat, fun _ => .of_same rfl rfl rfl rfl rfl⟩

/-- A step of `Audio_end`. -/
theorem end_step {pc pc' : ControlPc} (hinv : Inv sh) (hat : ControlAt pc sh)
    (hphase : Phase.ControlAt pc sh.phase) (hstep : EndStep sh pc sh' pc') :
    Inv sh' ∧ ControlAt pc' sh' ∧ ∀ u, u ≠ .control → Rely u sh sh' := by
  cases hstep with
  | store =>
      refine ⟨⟨fun h => absurd h (by simp), hinv.pitches⟩, trivial, fun u hu => ?_⟩
      cases u with
      | control => exact absurd rfl hu
      | task g => exact fun _ h => absurd h (by simp)
      | player g => exact id
      | caller i => trivial
  | send hsend =>
      have hend : sh.hist.endStored = true := hphase.2.2
      obtain ⟨hinv', hrely⟩ := send_step hinv hsend fun h => absurd (hend.symm.trans h) (by simp)
      exact ⟨hinv', trivial, fun u _ => hrely u⟩
  | sent => exact ⟨hinv, trivial, fun u _ => .refl u sh⟩
  | join _ =>
      refine ⟨⟨hinv.held, hinv.pitches⟩, fun _ => rfl, fun u hu => ?_⟩
      cases u with
      | control => exact absurd rfl hu
      | task g => exact fun _ h => ⟨h, id, id⟩
      | player g => exact id
      | caller i => trivial
  | clear =>
      refine ⟨⟨fun _ m hm => ?_, hinv.pitches⟩, hat,
        fun u _ => .of_same rfl rfl rfl rfl rfl⟩
      have hm : m ∈ sh.queue.clear.held := hm
      simp at hm
  | storeEnded =>
      refine ⟨⟨hinv.held, hinv.pitches⟩, hat, fun u hu => ?_⟩
      cases u with
      | control => exact absurd rfl hu
      | task g => exact fun _ h => ⟨h, fun hrunning => absurd hrunning hphase.2.1, id⟩
      | player g => exact id
      | caller i => trivial
  | _ =>
      exact ⟨⟨hinv.held, hinv.pitches⟩, hat, fun u _ => .of_same rfl rfl rfl rfl rfl⟩

/-- A step of the one `TaskLoop`. -/
theorem task_step {pc pc' : TaskPc} (hinv : Inv sh)
    (hat : sh.hist.endStored = false → TaskAt pc sh) (hstep : TaskStep 0 sh pc sh' pc') :
    Inv sh' ∧ (sh'.hist.endStored = false → TaskAt pc' sh') ∧
      ∀ u, u ≠ .task 0 → Rely u sh sh' := by
  have hmind : sh'.hist.endStored = sh.hist.endStored → sh'.hist.joined = sh.hist.joined →
      sh'.hist.started = sh.hist.started → ∀ u, u ≠ .task 0 → Rely u sh sh' := by
    intro hend hjoined hstarted u hu
    cases u with
    | control => exact ⟨hend, hjoined⟩
    | task g => exact fun hzero => absurd (by rw [hzero]) hu
    | player _ => exact hstarted.symm.trans
    | caller _ => trivial
  cases hstep with
  | running hstate => exact ⟨hinv, fun _ => hstate, hmind rfl rfl rfl⟩
  | notRunning hstate =>
      exact ⟨hinv, fun h => (hat h).resolve_right hstate, hmind rfl rfl rfl⟩
  | @got m q hget =>
      have hheld : sh.queue.held = m :: q.held := MsgRing.get_some hget
      refine ⟨⟨fun h m' hm' => ?_, hinv.pitches⟩, fun h => ⟨hat h, ?_⟩, hmind rfl rfl rfl⟩
      · refine hinv.held h m' ?_
        rw [hheld]
        exact List.mem_cons_of_mem _ hm'
      · refine hinv.held h m ?_
        rw [hheld]
        exact List.mem_cons_self
  | gotNone hget =>
      obtain ⟨_, rfl⟩ := MsgRing.get_none hget
      exact ⟨hinv, hat, hmind rfl rfl rfl⟩
  | processOk _ => exact ⟨⟨hinv.held, hinv.pitches⟩, fun h => (hat h).1, hmind rfl rfl rfl⟩
  | @processKill m id hkill =>
      refine ⟨⟨hinv.held, hinv.pitches⟩, fun h => ?_, hmind rfl rfl rfl⟩
      have hplay := (hat h).2
      simp [processMessage, hplay] at hkill
  | relock _ => exact ⟨⟨hinv.held, hinv.pitches⟩, fun h => .inr (hat h), hmind rfl rfl rfl⟩
  | relockKill _ => exact ⟨⟨hinv.held, hinv.pitches⟩, fun h => (hat h).elim, hmind rfl rfl rfl⟩
  | createPlayer =>
      exact ⟨⟨hinv.held, hinv.pitches⟩, fun h => .inl (hat h), hmind rfl rfl rfl⟩
  | _ => exact ⟨⟨hinv.held, hinv.pitches⟩, hat, hmind rfl rfl rfl⟩

/-- A step of a player. -/
theorem player_step {g : Nat} {l l' : Player} (hinv : Inv sh)
    (hat : sh.hist.started = [] → PlayerAt l) (hstep : PlayerStep g sh l sh' l') :
    Inv sh' ∧ (sh'.hist.started = [] → PlayerAt l') ∧
      ∀ u, Rely u sh sh' := by
  cases hstep with
  | @exchange v v' calls hiterate =>
      have hfirst : (sh.hist.pickUp sh.nextTrackID).started = [] →
          sh.nextTrackID = .maxTracks ∧ sh.hist.started = [] := by
        intro h
        by_cases hnext : sh.nextTrackID = .maxTracks
        · simpa [History.pickUp, hnext] using h
        · simp [History.pickUp, hnext] at h
      refine ⟨⟨hinv.held, fun h => hinv.pitches (hfirst h).2⟩, fun h => ?_, fun u => ?_⟩
      · obtain ⟨hnext, hstarted⟩ := hfirst h
        rw [hnext, PlayerVars.iterate_silent (hat hstarted).1] at hiterate
        obtain ⟨rfl, rfl⟩ := Prod.mk.inj (Option.some.inj hiterate)
        exact ⟨(hat hstarted).1, by simp [PlayerPc.calls]⟩
      · cases u with
        | control => exact ⟨rfl, rfl⟩
        | task g' =>
            intro _ h
            refine ⟨h, id, fun hsilent => ⟨rfl, ?_⟩⟩
            simp [History.pickUp, hsilent.1, hsilent.2]
        | player g' => exact fun h => (hfirst h).2
        | caller i => trivial
  | @pitch v f calls _ =>
      refine ⟨⟨hinv.held, fun h p hp => ?_⟩, fun h => ?_, fun u => ?_⟩
      · rcases List.mem_append.1 hp with hp | hp
        · exact hinv.pitches h p hp
        · rw [List.mem_singleton.1 hp]
          exact (hat h).2 f List.mem_cons_self
      · exact ⟨(hat h).1, fun p hp => (hat h).2 p (List.mem_cons_of_mem _ hp)⟩
      · exact .of_same rfl rfl rfl rfl rfl
  | @lastPitch v _ =>
      refine ⟨⟨hinv.held, fun h p hp => ?_⟩, hat, fun u => ?_⟩
      · rcases List.mem_append.1 hp with hp | hp
        · exact hinv.pitches h p hp
        · exact List.mem_singleton.1 hp
      · exact .of_same rfl rfl rfl rfl rfl
  | clear =>
      refine ⟨⟨hinv.held, hinv.pitches⟩, hat, fun u => ?_⟩
      cases u with
      | control => exact ⟨rfl, rfl⟩
      | task g' => exact fun _ h => ⟨h, id, fun hsilent => ⟨rfl, hsilent.2⟩⟩
      | player g' => exact id
      | caller i => trivial
  | running _ _ | notRunning _ _ | loop =>
      exact ⟨hinv, fun h => ⟨(hat h).1, by simp [PlayerPc.calls]⟩, fun u => .refl u sh⟩
  | pitched | lastPitched =>
      exact ⟨⟨hinv.held, hinv.pitches⟩, hat, fun u => .of_same rfl rfl rfl rfl rfl⟩

theorem task_stable {pc : TaskPc} {g : Nat} (hg : g = 0)
    (hat : sh.hist.endStored = false → TaskAt pc sh) (hrely : Rely (.task g) sh sh') :
    sh'.hist.endStored = false → TaskAt pc sh' := by
  intro h
  obtain ⟨hend, hrunning, hsilent⟩ := hrely hg h
  have hat := hat hend
  cases pc with
  | get | wait | asleep | relock => exact hrunning hat
  | release m | process m => exact ⟨hrunning hat.1, hat.2⟩
  | check => exact hat.imp hsilent hrunning
  | relockKill => exact hat
  | _ => exact hsilent hat

theorem control_stable {pc : ControlPc} (hat : ControlAt pc sh) (hrely : Rely .control sh sh') :
    ControlAt pc sh' := by
  obtain ⟨hend, hjoined⟩ := hrely
  have hkept : (sh.hist.endStored = true → sh.hist.joined = true) →
      sh'.hist.endStored = true → sh'.hist.joined = true := by
    intro h hend'
    exact hjoined.trans (h (hend.symm.trans hend'))
  cases pc with
  | endSend _ | endJoin => trivial
  | _ => exact hkept hat

end Startup

/-- What each thread claims before the first track. There is one `TaskLoop`, number 0. -/
def StartupAt : (t : Tid) → Local t → Shared → Prop
  | .control, pc, sh => Startup.ControlAt pc sh
  | .caller _, _, _ => True
  | .task g, pc, sh => g = 0 → sh.hist.endStored = false → Startup.TaskAt pc sh
  | .player _, l, sh => sh.hist.started = [] → Startup.PlayerAt l

/-- The outline. -/
def startupOutline : Outline Shared Local where
  Inv := Startup.Inv
  At := StartupAt

theorem SessionStart.startup {c : Service} (h : SessionStart c) : startupOutline.Holds c := by
  obtain ⟨session, hhist⟩ := h.hist
  refine ⟨⟨fun _ m hm => ?_, fun _ f hf => ?_⟩, fun t => ?_⟩
  · rw [h.queue] at hm
    cases hm
  · rw [hhist] at hf
    cases hf
  · cases t with
    | control =>
        show Startup.ControlAt (c.locals .control) c.shared
        rw [h.control]
        intro hend
        rw [hhist] at hend
        cases hend
    | caller i => trivial
    | task g =>
        show g = 0 → c.shared.hist.endStored = false → Startup.TaskAt (c.locals (.task g)) _
        rw [h.task]
        exact fun _ _ => ⟨h.nextTrackID, by rw [hhist]; rfl⟩
    | player g =>
        show c.shared.hist.started = [] → Startup.PlayerAt (c.locals (.player g))
        rw [h.player]
        exact fun _ => ⟨rfl, by simp [PlayerPc.calls]⟩

/-- Only the one `TaskLoop` takes steps. -/
theorem Phase.TaskAt.step_zero {g : Nat} {sh sh' : Shared} {pc pc' : TaskPc}
    (hinv : sh.phase.Inv) (hat : Phase.TaskAt g pc sh.phase) (hstep : TaskStep g sh pc sh' pc') :
    g = 0 := by
  refine (hinv.task_zero (g := g) ?_).1
  cases hstep with
  | lock hspawned _ => exact hspawned
  | setPlayer | unlock | stopPlayer | joinPlayer _ | playerEnded => exact hat.1
  | _ => exact hat.1.1

theorem startup_outline {c : Service} (h : InSession c) : startupOutline.Holds c := by
  refine h.outline startupOutline (fun t _ => Startup.Rely t) (fun _ h => h.startup) ?_ ?_
  · rintro c t sh l hreach ⟨hinv, hat⟩ hstep hallowed
    obtain ⟨hphase, hphaseAt⟩ := phase_outline hreach
    cases t with
    | control =>
        cases hstep with
        | init hstep =>
            exact (Phase.no_init (hphaseAt .control) hstep (by simpa using hallowed rfl)).elim
        | start hstep =>
            obtain ⟨hinv', hat', hrely⟩ := Startup.start_step hinv (hat .control) hstep
            exact ⟨hinv', hat', fun u _ => hrely u⟩
        | «end» hstep => exact Startup.end_step hinv (hat .control) (hphaseAt .control) hstep
    | caller i =>
        obtain ⟨hinv', hrely⟩ := Startup.caller_step hinv hstep
        exact ⟨hinv', trivial, fun u _ => hrely u⟩
    | task g =>
        obtain rfl := Phase.TaskAt.step_zero hphase (hphaseAt (.task g)) hstep
        obtain ⟨hinv', hat', hrely⟩ := Startup.task_step hinv (hat (.task 0) rfl) hstep
        exact ⟨hinv', fun _ => hat', hrely⟩
    | player g =>
        obtain ⟨hinv', hat', hrely⟩ := Startup.player_step hinv (hat (.player g)) hstep
        exact ⟨hinv', hat', fun u _ => hrely u⟩
  · intro t l sh sh' _ _ hat hrely
    cases t with
    | control => exact Startup.control_stable hat hrely
    | caller i => trivial
    | task g => exact fun hg => Startup.task_stable hg (hat hg) hrely
    | player g => exact fun h => hat (hrely h)

/-- The last pitch of the session that was passed to `Speaker_PlayPitch`, or 0. -/
def Shared.lastPitch (sh : Shared) : UInt16 :=
  sh.hist.pitches.getLast?.getD 0

theorem lastPitch_of_zero {sh : Shared} (h : ∀ f ∈ sh.hist.pitches, f = 0) :
    sh.lastPitch = 0 := by
  unfold Shared.lastPitch
  cases hlast : sh.hist.pitches.getLast? with
  | none => rfl
  | some f => exact h f (List.mem_of_getLast? hlast)

/-- When `Audio_end` comes to call `Speaker_DeInit`, the last pitch was 0. -/
theorem last_pitch_zero {c : Service} (h : InSession c) (hpc : c.locals .control = .endSpeaker) :
    c.shared.lastPitch = 0 := by
  obtain ⟨hphase, hphaseAt⟩ := phase_outline h
  obtain ⟨hinv, hat⟩ := startup_outline h
  have hcontrol : Startup.ControlAt (c.locals .control) c.shared := hat .control
  have hleft : Phase.ControlAt (c.locals .control) c.shared.phase := hphaseAt .control
  have htask : Phase.TaskAt 0 (c.locals (.task 0)) c.shared.phase := hphaseAt (.task 0)
  rw [hpc] at hcontrol hleft
  cases hend : c.shared.hist.endStored with
  | true =>
      -- the player has ended with its last pitch
      have hexited : Tid.task 0 ∈ c.shared.phase.exited := hphase.joined (hcontrol hend)
      have hplayer : Phase.PlayerAt 0 (c.locals (.player 0)).pc c.shared.phase :=
        hphaseAt (.player 0)
      have hgone : Tid.player 0 ∈ c.shared.phase.exited := by
        generalize c.locals (.task 0) = pc at htask
        cases pc with
        | done => exact htask.2.2.2
        | playerEnded => exact htask.2.2.2
        | lock => exact absurd hexited htask.2
        | setPlayer => exact absurd hexited htask.2.2
        | createPlayer => exact absurd hexited htask.1.2.2
        | unlock | stopPlayer | joinPlayer => exact absurd hexited htask.2.2.1
        | _ => exact absurd hexited htask.1.2.2
      have hlast : c.shared.phase.pitches.getLast? = some 0 := by
        generalize (c.locals (.player 0)).pc = pc at hplayer
        cases pc with
        | done => exact hplayer.2.2.2
        | inLastPitch => exact hplayer.2.2.2
        | check => exact absurd hgone hplayer
        | clear | lastPitch => exact absurd hgone hplayer.2.2
        | _ => exact absurd hgone hplayer.2
      have hlast : c.shared.hist.pitches.getLast? = some 0 := hlast
      rw [Shared.lastPitch, hlast]
      rfl
  | false =>
      -- `TaskLoop` has served nothing
      refine lastPitch_of_zero (hinv.pitches ?_)
      have hsilent : Startup.TaskAt (c.locals (.task 0)) c.shared := hat (.task 0) rfl hend
      have hnot : c.shared.phase.loopLeft = true ∨ Tid.task 0 ∉ c.shared.phase.spawned := by
        refine hleft.1.imp_right fun hzero hmem => ?_
        have hlt := (hphase.tasks 0).1 hmem
        omega
      have hlive (hlive : c.shared.phase.TaskLive 0) : False := by
        rcases hnot with hnot | hnot
        · exact absurd (hlive.2.1.symm.trans hnot) (by simp)
        · exact hnot hlive.1
      generalize c.locals (.task 0) = pc at htask hsilent
      cases pc with
      | get | wait | asleep | release _ | process _ | relock | check | relockKill =>
          exact (hlive htask.1).elim
      | _ => exact hsilent.2

/-! ## The service and the speaker -/

/-- The threads: those of the service, and any that call `Audio_SetVolume`. -/
inductive SoundTid where
  | service (t : Tid)
  | volume (i : Nat)
deriving DecidableEq

/-- The private state of each thread. -/
@[reducible] def SoundLocal : SoundTid → Type
  | .service t => Local t
  | .volume _ => Unit

/-- The statics of `Audio.c` and those of `Speaker.c`. -/
structure SoundShared where
  service : Shared
  device : Speaker.Device

/-- The next step of the thread is the body of a function of `Speaker.c`. -/
def CallsSpeaker : (t : Tid) → Local t → Prop
  | .control, .initSpeaker | .control, .endSpeaker => True
  | .player _, ⟨.pitch (_ :: _), _⟩ | .player _, ⟨.lastPitch, _⟩ => True
  | _, _ => False

/-- What a step of a thread of the service does to the speaker, over hardware that accepts every
write to the channel. -/
inductive SpeakerStep :
    (t : Tid) → Local t → Local t → Speaker.Device → Speaker.Device → Prop where
  | init {d d'} (o) : Speaker.init o d = (.errorNone, d') →
      SpeakerStep .control .initSpeaker .initStore d d'
  | initError {d d' e} (o) : Speaker.init o d = (e, d') → e ≠ .errorNone →
      SpeakerStep .control .initSpeaker (.initUnlock .errorHardwareInit) d d'
  | deInit {d} (o) :
      SpeakerStep .control .endSpeaker .endDestroyMutex d
        (Speaker.deInit Speaker.acceptAll o d).2
  | pitch {d g f calls v} :
      SpeakerStep (.player g) ⟨.pitch (f :: calls), v⟩ ⟨.inPitch calls, v⟩ d
        (Speaker.playPitch Speaker.acceptAll f d).2
  | lastPitch {d g v} :
      SpeakerStep (.player g) ⟨.lastPitch, v⟩ ⟨.inLastPitch, v⟩ d
        (Speaker.playPitch Speaker.acceptAll 0 d).2
  | none {t l l' d} : ¬ CallsSpeaker t l → SpeakerStep t l l' d d

/-- A step of a thread. -/
inductive SoundStep :
    (t : SoundTid) → SoundShared → SoundLocal t → SoundShared → SoundLocal t → Prop where
  | service {t s s' l l'} : service.Step t s.service l s'.service l' →
      SpeakerStep t l l' s.device s'.device → SoundStep (.service t) s l s' l'
  | setVolume {i s} (level o) :
      SoundStep (.volume i) s ()
        { s with device := (Speaker.setVolume level o s.device).2 } ()

/-- The service over its speaker. -/
def serviceWithSpeaker : System SoundShared SoundLocal where
  Step := SoundStep

/-- A configuration of the service with its speaker. -/
abbrev Sound := Config SoundShared SoundLocal

/-- The service alone. -/
def serviceOf (c : Sound) : Service :=
  ⟨c.shared.service, fun t => c.locals (.service t)⟩

theorem serviceOf_move (c : Sound) (t : Tid) (s : SoundShared) (l : Local t) :
    serviceOf (c.move (.service t) s l) = (serviceOf c).move t s.service l := by
  unfold serviceOf Config.move
  congr 1
  funext u
  by_cases hu : u = t
  · subst hu
    simp
  · show Function.update c.locals (.service t) l (.service u) =
      Function.update (fun t => c.locals (.service t)) t l u
    rw [Function.update_of_ne hu, Function.update_of_ne (by simpa using hu)]

theorem serviceOf_volume (c : Sound) (i : Nat) (d : Speaker.Device) (l : Unit) :
    serviceOf (c.move (.volume i) { c.shared with device := d } l) = serviceOf c := rfl

/-- The speaker is initialised and has its lines, it plays `frequency`, and remembers it. -/
structure Plays (d : Speaker.Device) (frequency : UInt16) : Prop where
  state : d.state = .inited
  currentFreq : d.currentFreq = frequency
  pwm : d.pwm.SetTo frequency
  pins : ∃ c, Speaker.PinsOpen d c

/-- The speaker is not initialised, the channel is switched off, the lines are given back, and
no pitch is remembered. -/
structure Rests (d : Speaker.Device) : Prop where
  state : d.state = .ended
  currentFreq : d.currentFreq = 0
  pwm : d.pwm.SetTo 0
  pins : Speaker.PinsClosed d

/-- A session begins over a speaker that was initialised and plays nothing. -/
structure SoundStart (c : Sound) : Prop where
  service : SessionStart (serviceOf c)
  device : Plays c.shared.device 0

/-- The configurations of a session with its speaker. -/
abbrev InSoundSession (c : Sound) : Prop :=
  serviceWithSpeaker.Reach SoundStart
    (fun _ t c' => t = .service .control → c'.locals (.service .control) ≠ .initLock) c

/-- The speaker plays the last pitch of the session until it is given back. -/
def InTune (sh : Shared) (d : Speaker.Device) : Prop :=
  Plays d sh.lastPitch ∨ Rests d

theorem Plays.of_same {d d' : Speaker.Device} {f : UInt16} (h : Plays d f)
    (hsound : Speaker.PinsOnly d d') (hpins : Speaker.SamePins d d') : Plays d' f := by
  obtain ⟨c, hopen⟩ := h.pins
  refine ⟨hsound.state.trans h.state, hsound.currentFreq.trans h.currentFreq, ?_,
    c, hopen.of_samePins hpins⟩
  rw [hsound.pwm]
  exact h.pwm

theorem InTune.setVolume {sh : Shared} {d : Speaker.Device} (h : InTune sh d) (level : UInt32)
    (o : Speaker.SetOutcomes) : InTune sh (Speaker.setVolume level o d).2 := by
  have hsound := Speaker.setVolume_pinsOnly level o d
  have hpins := Speaker.setVolume_samePins level o d
  refine h.imp (fun h => h.of_same hsound hpins) fun h => ?_
  refine ⟨hsound.state.trans h.state, hsound.currentFreq.trans h.currentFreq, ?_,
    h.pins.of_samePins hpins⟩
  rw [hsound.pwm]
  exact h.pwm

/-- Whether the pitch is a new one or the one that is remembered. -/
theorem Plays.playPitch {d : Speaker.Device} {f : UInt16} (h : Plays d f) (frequency : UInt16) :
    Plays (Speaker.playPitch Speaker.acceptAll frequency d).2 frequency := by
  by_cases hsame : frequency = d.currentFreq
  · rw [hsame, Speaker.playPitch_same _ h.state, h.currentFreq]
    exact h
  · rw [Speaker.playPitch_other _ h.state hsame]
    have hsound := Speaker.setPitch_soundOnly Speaker.acceptAll frequency d
    obtain ⟨c, hopen⟩ := h.pins
    exact ⟨hsound.state.trans h.state, rfl, Speaker.setPitch_setTo frequency d, c,
      hopen.of_samePins hsound.samePins⟩

theorem InTune.playPitch {sh sh' : Shared} {d : Speaker.Device} (h : InTune sh d)
    (frequency : UInt16) (hlast : sh'.lastPitch = frequency) :
    InTune sh' (Speaker.playPitch Speaker.acceptAll frequency d).2 := by
  rcases h with h | h
  · left
    rw [hlast]
    exact h.playPitch frequency
  · right
    rwa [Speaker.playPitch_of_ended _ _ (by simp [h.state])]

/-- `Speaker_DeInit` of a speaker that plays 0. -/
theorem InTune.deInit {sh : Shared} {d : Speaker.Device} (h : InTune sh d)
    (hlast : sh.lastPitch = 0) (o : Speaker.SetOutcomes) :
    Rests (Speaker.deInit Speaker.acceptAll o d).2 := by
  rcases h with h | h
  · obtain ⟨hpwm, hfreq, hstate⟩ := Speaker.deInit_acceptAll o h.state
    obtain ⟨c, hopen⟩ := h.pins
    refine ⟨hstate, hfreq.trans (h.currentFreq.trans hlast), ?_, ?_⟩
    · rw [hpwm]
      exact (Speaker.setTo_off _ _).2 rfl
    · cases (Speaker.Holds.inited c h.state hopen).deInit Speaker.acceptAll o with
      | inited _ hinited _ => exact absurd (hstate.symm.trans hinited) (by simp)
      | ended _ hclosed => exact hclosed
  · have hrefused : Speaker.deInit Speaker.acceptAll o d = (.errorState, d) := by
      simp [Speaker.deInit, h.state]
    rwa [hrefused]

/-- A `Speaker_Init` without error makes a resting speaker ready for the next session. -/
theorem Rests.init {d d' : Speaker.Device} (h : Rests d) {o : Speaker.InitOutcomes}
    (hinit : Speaker.init o d = (.errorNone, d')) : Plays d' 0 := by
  obtain ⟨hpwm, hfreq, _⟩ := Speaker.init_sound o d
  have hinited : d'.state = .inited := by
    rcases Speaker.init_cases o d with ⟨_, hfails⟩ | ⟨_, _, hfails⟩ | ⟨_, _, _, _, hfails⟩ |
      ⟨_, _, _, _, error, s', _, hdone⟩
    · cases hinit.symm.trans hfails
    · cases hinit.symm.trans hfails
    · cases hinit.symm.trans hfails
    · cases hinit.symm.trans hdone
      rfl
  rw [hinit] at hpwm hfreq
  have hpins : ∃ c, Speaker.PinsOpen d' c := by
    have hcases := Speaker.init_of_closed o h.state h.pins
    rw [hinit] at hcases
    rcases hcases with ⟨_, _, _, hopen⟩ | ⟨_, hended, _⟩ | ⟨_, hended, _⟩
    · exact hopen
    · cases hinited.symm.trans hended
    · cases hinited.symm.trans hended
  refine ⟨hinited, hfreq.trans h.currentFreq, ?_, hpins⟩
  rw [hpwm]
  exact h.pwm

/-! ## The steps of the threads -/

/-- Most steps leave the speaker alone. -/
theorem SpeakerStep.same {t : Tid} {l l' : Local t} {d d' : Speaker.Device}
    (h : SpeakerStep t l l' d d') (hnot : ¬ CallsSpeaker t l) : d' = d := by
  cases h with
  | none _ => rfl
  | _ => exact absurd trivial hnot

theorem InTune.of_lastPitch {sh sh' : Shared} {d : Speaker.Device} (h : InTune sh d)
    (hlast : sh'.lastPitch = sh.lastPitch) : InTune sh' d := by
  unfold InTune
  rwa [hlast]

variable {sh sh' : Shared} {d d' : Speaker.Device}

theorem InTune.control_step {pc pc' : ControlPc} (h : InTune sh d)
    (hphase : Phase.ControlAt pc sh.phase) (hlast : pc = .endSpeaker → sh.lastPitch = 0)
    (hstep : ControlStep sh pc sh' pc') (hinit : pc' ≠ .initLock)
    (hspeaker : SpeakerStep .control pc pc' d d') : InTune sh' d' := by
  have hsame : sh'.lastPitch = sh.lastPitch := by
    cases hstep with
    | init hstep => exact (Phase.no_init hphase hstep hinit).elim
    | start hstep => cases hstep <;> rfl
    | «end» hstep =>
        cases hstep with
        | send hsend => cases hsend <;> rfl
        | _ => rfl
  cases hspeaker with
  | init _ _ | initError _ _ _ => exact hphase.elim
  | deInit o => exact .inr (h.deInit (hlast rfl) o)
  | none _ => exact h.of_lastPitch hsame

theorem InTune.caller_step {i : Nat} {l l' : Caller} (h : InTune sh d)
    (hstep : CallerStep i sh l sh' l') (hspeaker : SpeakerStep (.caller i) l l' d d') :
    InTune sh' d' := by
  obtain rfl := hspeaker.same id
  refine h.of_lastPitch ?_
  cases hstep with
  | send hsend => cases hsend <;> rfl
  | _ => rfl

theorem InTune.task_step {g : Nat} {pc pc' : TaskPc} (h : InTune sh d)
    (hstep : TaskStep g sh pc sh' pc') (hspeaker : SpeakerStep (.task g) pc pc' d d') :
    InTune sh' d' := by
  obtain rfl := hspeaker.same id
  refine h.of_lastPitch ?_
  cases hstep <;> rfl

theorem InTune.player_step {g : Nat} {l l' : Player} (h : InTune sh d)
    (hstep : PlayerStep g sh l sh' l') (hspeaker : SpeakerStep (.player g) l l' d d') :
    InTune sh' d' := by
  cases hstep with
  | pitch _ =>
      cases hspeaker with
      | pitch => exact h.playPitch _ (by simp [Shared.lastPitch])
      | none hnot => exact absurd trivial hnot
  | lastPitch _ =>
      cases hspeaker with
      | lastPitch => exact h.playPitch _ (by simp [Shared.lastPitch])
      | none hnot => exact absurd trivial hnot
  | _ =>
      obtain rfl := hspeaker.same id
      exact h.of_lastPitch rfl

/-- The service goes through a session of its own, and the speaker follows it. -/
theorem in_session {c : Sound} (h : InSoundSession c) :
    InSession (serviceOf c) ∧ InTune c.shared.service c.shared.device := by
  refine h.invariant (P := fun c => InSession (serviceOf c) ∧
    InTune c.shared.service c.shared.device) ?_ ?_
  · intro c hc
    obtain ⟨session, hhist⟩ := hc.service.hist
    refine ⟨.start hc.service, .inl ?_⟩
    have hlast : (serviceOf c).shared.lastPitch = 0 := by
      rw [Shared.lastPitch, hhist]
      rfl
    rw [show c.shared.service.lastPitch = 0 from hlast]
    exact hc.device
  · rintro c t s l - ⟨hsession, htune⟩ hstep hallowed
    cases hstep with
    | setVolume level o =>
        rw [serviceOf_volume]
        exact ⟨hsession, htune.setVolume level o⟩
    | @service t _ _ _ l hstep hspeaker =>
        have hnoInit : t = .control →
            ((serviceOf c).move t s.service l).locals .control ≠ .initLock := by
          intro ht
          rw [← serviceOf_move]
          exact hallowed (by rw [ht])
        rw [serviceOf_move]
        refine ⟨.step hsession hstep hnoInit, ?_⟩
        cases t with
        | control =>
            refine htune.control_step ((phase_outline hsession).2 .control) ?_ hstep
              (by simpa using hnoInit rfl) hspeaker
            exact last_pitch_zero hsession
        | caller i => exact htune.caller_step hstep hspeaker
        | task g => exact htune.task_step hstep hspeaker
        | player g => exact htune.player_step hstep hspeaker

/-! ## The result -/

/-- In every interleaving of a session, an initialised speaker plays the last pitch that it was
told to play, and a speaker that `Audio_end` has given back is silent and remembers no pitch,
so that the next session can begin as this one did. -/
theorem session_sound {c : Sound} (h : InSoundSession c) :
    (c.shared.device.state = .inited → Plays c.shared.device c.shared.service.lastPitch) ∧
    (c.shared.device.state = .ended → Rests c.shared.device ∧
      ∀ o d, Speaker.init o c.shared.device = (.errorNone, d) → Plays d 0) := by
  obtain ⟨_, htune⟩ := in_session h
  rcases htune with hplays | hrests
  · refine ⟨fun _ => hplays, fun hended => ?_⟩
    exact absurd (hplays.state.symm.trans hended) (by simp)
  · refine ⟨fun hinited => absurd (hrests.state.symm.trans hinited) (by simp), fun _ => ?_⟩
    exact ⟨hrests, fun o d hinit => hrests.init hinit⟩

/-- A session as it begins, over a speaker that has just been initialised. -/
def freshSound : Sound where
  shared :=
    { service := freshSession.shared
      device := (Speaker.init Speaker.workingInit (.initial ⟨0, 0, 0⟩ .empty)).2 }
  locals
    | .service t => freshSession.locals t
    | .volume _ => ()

theorem freshSound_start : SoundStart freshSound := by
  refine ⟨freshSession_start, Rests.init (o := Speaker.workingInit)
    (d := .initial ⟨0, 0, 0⟩ .empty) ⟨rfl, rfl, by decide, rfl, rfl, rfl, ?_⟩ (Prod.ext ?_ rfl)⟩
  · exact fun l hl => absurd hl List.not_mem_nil
  · decide

/-- The thread enters `Audio_init`. -/
def EntersInit : (t : Tid) → Local t → Prop
  | .control, pc => pc = .initLock
  | _, _ => False

/-- One step of a thread of the service, with what it does to the speaker. -/
theorem InSoundSession.speaks {c : Sound} (h : InSoundSession c) (t : Tid) {sh : Shared}
    {l : Local t} {d : Speaker.Device}
    (hstep : service.Step t c.shared.service (c.locals (.service t)) sh l)
    (hspeaker : SpeakerStep t (c.locals (.service t)) l c.shared.device d)
    (hinit : ¬ EntersInit t l) : InSoundSession (c.move (.service t) ⟨sh, d⟩ l) := by
  refine h.step (t := SoundTid.service t) (.service hstep hspeaker) fun ht => ?_
  cases ht
  rw [Config.move_locals_self]
  exact hinit

/-- Some steps of a thread that does not come to the speaker. -/
theorem InSoundSession.quiet {c : Sound} (h : InSoundSession c) (t : Tid) {sh : Shared}
    {l : Local t} (hrun : ThreadRun (service.Step t)
      (fun l l' => ¬ CallsSpeaker t l ∧ ¬ EntersInit t l') c.shared.service
      (c.locals (.service t)) sh l) :
    InSoundSession (c.move (.service t) ⟨sh, c.shared.device⟩ l) := by
  generalize hsh : c.shared.service = sh₀ at hrun
  generalize hl : c.locals (.service t) = l₀ at hrun
  induction hrun generalizing c with
  | refl =>
      subst hsh hl
      have hc : c.move (.service t) ⟨c.shared.service, c.shared.device⟩ (c.locals (.service t)) =
          c := by
        simp [Config.move, Function.update_eq_self]
      rwa [hc]
  | head hs hok _ ih =>
      subst hsh hl
      have hnext := ih (InSoundSession.speaks h t hs (.none hok.1) hok.2) rfl
        (Config.move_locals_self ..)
      simpa [Config.move, Function.update_idem] using hnext

/-- A track is asked for and its first note played; then `Audio_end` ends the session. -/
theorem session_sound_played :
    ∃ c c', InSoundSession c ∧ InSoundSession c' ∧
      (c.shared.service.lastPitch = noteC4 ∧ Plays c.shared.device noteC4) ∧
      c'.shared.device.state = .ended ∧ Rests c'.shared.device := by
  have hfresh : InSoundSession freshSound := .start freshSound_start
  have hstarted := hfresh.quiet .control <|
    .head (.start .call) ⟨id, nofun⟩ <|
    .head (.start (.lock rfl)) ⟨id, nofun⟩ <|
    .head (.start (.inited rfl)) ⟨id, nofun⟩ <|
    .head (.start .create) ⟨id, nofun⟩ <|
    .head (.start .store) ⟨id, nofun⟩ <|
    .head (.start .unlock) ⟨id, nofun⟩ <| .refl _ _
  have hcalled := hstarted.quiet (.caller 0) <|
    .head (.call .scale) ⟨id, id⟩ <| .head (.running rfl) ⟨id, id⟩ <|
    .head (.send (.lock rfl)) ⟨id, id⟩ <|
    .head (.send (.store (Prod.ext ((MsgRing.held_send _ _).1 (by decide)).1 rfl))) ⟨id, id⟩ <|
    .head (.send (.wakeNone rfl)) ⟨id, id⟩ <| .head (.send .unlock) ⟨id, id⟩ <| .refl _ _
  have htaken := hcalled.quiet (.task 0) <|
    .head (.lock (by decide) (by decide)) ⟨id, id⟩ <| .head .setPlayer ⟨id, id⟩ <|
    .head .createPlayer ⟨id, id⟩ <| .head (.running rfl) ⟨id, id⟩ <|
    .head (.got rfl) ⟨id, id⟩ <| .head .release ⟨id, id⟩ <|
    .head (.processOk rfl) ⟨id, id⟩ <| .refl _ _
  have hpicked := htaken.quiet (.player 0) <|
    .head (.running (by decide) rfl) ⟨id, id⟩ <| .head (.exchange rfl) ⟨id, id⟩ <| .refl _ _
  have hplayed := hpicked.speaks (.player 0) (.pitch (by decide)) .pitch id
  have hcheck := hplayed.quiet (.player 0) <|
    .head .pitched ⟨id, id⟩ <| .head .loop ⟨id, id⟩ <| .refl _ _
  have hjoin := hcheck.quiet .control <|
    .head (.end .call) ⟨id, nofun⟩ <| .head (.end (.lock rfl)) ⟨id, nofun⟩ <|
    .head (.end (.notEnded (by decide))) ⟨id, nofun⟩ <|
    .head (.end (.running rfl)) ⟨id, nofun⟩ <| .head (.end .store) ⟨id, nofun⟩ <|
    .head (.end (.send (.lock rfl))) ⟨id, nofun⟩ <|
    .head (.end (.send (.store (Prod.ext ((MsgRing.held_send _ _).1 (by decide)).1 rfl))))
      ⟨id, nofun⟩ <|
    .head (.end (.send (.wakeNone rfl))) ⟨id, nofun⟩ <|
    .head (.end (.send .unlock)) ⟨id, nofun⟩ <| .head (.end .sent) ⟨id, nofun⟩ <| .refl _ _
  have hleft := hjoin.quiet (.task 0) <|
    .head (.relock (by decide)) ⟨id, id⟩ <| .head (.notRunning (by decide)) ⟨id, id⟩ <|
    .head .storeEnding ⟨id, id⟩ <| .head .unlock ⟨id, id⟩ <| .head .stopPlayer ⟨id, id⟩ <|
    .refl _ _
  have hcleared := hleft.quiet (.player 0) <|
    .head (.notRunning (by decide) (by decide)) ⟨id, id⟩ <| .head .clear ⟨id, id⟩ <| .refl _ _
  have hsilenced := hcleared.speaks (.player 0) (.lastPitch (by decide)) .lastPitch id
  have hgone := hsilenced.quiet (.player 0) <| .head .lastPitched ⟨id, id⟩ <| .refl _ _
  have htask := hgone.quiet (.task 0) <|
    .head (.joinPlayer (by decide)) ⟨id, id⟩ <| .head .playerEnded ⟨id, id⟩ <| .refl _ _
  have hlocked := htask.quiet .control <|
    .head (.end (.join (by decide))) ⟨id, nofun⟩ <|
    .head (.end (.ending (by decide))) ⟨id, nofun⟩ <|
    .head (.end (.speakerLock (by decide))) ⟨id, nofun⟩ <| .refl _ _
  have hended := hlocked.speaks .control (.end .speakerDeInit) (.deInit ⟨true, true⟩) nofun
  -- the state of the speaker after these calls
  have hplays : Plays _ noteC4 := freshSound_start.device.playPitch noteC4
  have hstops : Plays _ 0 := hplays.playPitch 0
  have hstate := (Speaker.deInit_acceptAll ⟨true, true⟩ hstops.state).2.2
  refine ⟨_, _, hplayed, hended, ⟨rfl, ?_⟩, hstate, ?_⟩
  · exact (session_sound hplayed).1 hplays.state
  · exact ((session_sound hended).2 hstate).1

end BatteryInfo.Audio
