import BatteryInfo.Fifo.Pipeline
import BatteryInfo.Audio.Session
import BatteryInfo.Audio.Calls

/-!
# The way of a track

A track asked for with `Audio_PlayTrack` goes through the queue, through the message that
`TaskLoop` has taken, and through `NextTrackID`, which holds one track, to the player. All this
is a pipeline (`Shared.tracks`): the player starts tracks in the order in which their messages
were accepted, each at most once, and while `TaskLoop` is in its loop the track accepted last is
still on its way or is the last one started (`track_pipeline`).
-/

namespace BatteryInfo.Audio

open Concurrent

/-- The track a message asks for. -/
def Message.track (m : Message) : Option AudioTrackID :=
  if m.msgID = .msgIdPlayTrack then some m.trackID else none

/-- The track in `NextTrackID`. -/
def mailbox (nextTrackID : AudioTrackID) : List AudioTrackID :=
  if nextTrackID = .maxTracks then [] else [nextTrackID]

/-- The part of the shared state that a track passes through. -/
structure Tracks where
  accepted : List Request
  held : List Message
  taken : Option AudioTrackID
  nextTrackID : AudioTrackID
  started : List AudioTrackID
  created : Nat
  spawned : Finset Tid
  loopLeft : Bool

/-- The tracks of a shared state. -/
def Shared.tracks (sh : Shared) : Tracks where
  accepted := sh.hist.accepted
  held := sh.queue.held
  taken := sh.hist.taken
  nextTrackID := sh.nextTrackID
  started := sh.hist.started
  created := sh.created
  spawned := sh.spawned
  loopLeft := sh.hist.loopLeft

/-- The track in the message that `TaskLoop` has taken and not yet processed. -/
def TaskPc.taken : TaskPc → Option AudioTrackID
  | .release m | .process m => m.track
  | _ => none

/-- A `TaskLoop` that does not exist yet has taken nothing. -/
theorem Phase.TaskAt.taken_none {g : Nat} {pc : TaskPc} {p : Phase} (h : Phase.TaskAt g pc p)
    (hspawned : .task g ∉ p.spawned) : pc.taken = none := by
  cases pc with
  | release m | process m => exact absurd h.1.1 hspawned
  | _ => rfl

namespace Tracks

/-- The tracks as a pipeline, from the player back to the queue. -/
def pipeline (s : Tracks) : Fifo.Pipeline AudioTrackID where
  accepted := s.accepted.map (·.trackID)
  carried := s.started ++ mailbox s.nextTrackID ++ (s.taken.toList ++ s.held.filterMap (·.track))

/-- What holds of the tracks throughout. -/
structure Inv (s : Tracks) : Prop where
  ordered : s.pipeline.Ordered
  fresh : s.loopLeft = false → s.pipeline.Fresh
  notStarted : s.created = 0 → s.accepted = [] ∧ s.taken = none
  validHeld : ∀ m ∈ s.held, m.track ≠ some .maxTracks
  validTaken : s.taken ≠ some .maxTracks

/-- What other threads may do to the tracks while `TaskLoop` number `g` is at one place. -/
def Rely (g : Nat) (pc : TaskPc) (s s' : Tracks) : Prop :=
  .task g ∈ s'.spawned → s'.taken = s.taken ∧ (.task g ∈ s.spawned ∨ s.taken = pc.taken)

/-- What `TaskLoop` number `g` claims: what it has taken is what its message asks for. -/
def TaskAt (g : Nat) (pc : TaskPc) (s : Tracks) : Prop :=
  .task g ∈ s.spawned → s.taken = pc.taken

theorem Rely.refl (g : Nat) (pc : TaskPc) (s : Tracks) : Rely g pc s s :=
  fun h => ⟨rfl, .inl h⟩

theorem task_stable {g : Nat} {pc : TaskPc} {s s' : Tracks} (hat : TaskAt g pc s)
    (hrely : Rely g pc s s') : TaskAt g pc s' := by
  intro hspawned
  obtain ⟨htaken, hold⟩ := hrely hspawned
  exact htaken.trans (hold.elim hat id)

/-- A move of the pipeline keeps what holds of it. -/
theorem Inv.move {s s' : Tracks} (hinv : s.Inv) (hmove : s.pipeline.Move s'.pipeline)
    (hleft : s'.loopLeft = s.loopLeft)
    (hstarted : s'.created = 0 → s'.accepted = [] ∧ s'.taken = none)
    (hheld : ∀ m ∈ s'.held, m.track ≠ some .maxTracks) (htaken : s'.taken ≠ some .maxTracks) :
    s'.Inv where
  ordered := hmove.ordered hinv.ordered
  fresh h := hmove.fresh (hinv.fresh (hleft ▸ h))
  notStarted := hstarted
  validHeld := hheld
  validTaken := htaken

/-! ## What each step does to the tracks -/

variable {sh sh' : Shared}

/-- `SendMessage` of the message that belongs to the request. -/
theorem send_step {t : Tid} {msg : Message} {request : Option Request} {pc pc' : SendPc}
    (hinv : sh.tracks.Inv) (hstep : SendStep t msg request sh pc sh' pc')
    (hcreated : sh.created ≠ 0) (hmsg : msg.track = request.map (·.trackID))
    (hvalid : msg.track ≠ some .maxTracks) :
    sh'.tracks.Inv ∧ ∀ g pc, Rely g pc sh.tracks sh'.tracks := by
  cases hstep with
  | @store q hsend =>
      have hheld : q.held = sh.queue.held ++ [msg] := MsgRing.send_none hsend
      refine ⟨hinv.move ?_ rfl (fun h => absurd h hcreated) ?_ hinv.validTaken,
        fun g pc h => ⟨rfl, .inl h⟩⟩
      · have hmove := Fifo.Pipeline.Move.offer sh.tracks.pipeline msg.track
        have hpipeline : pipeline (Shared.tracks { sh with
            queue := q, hist := sh.hist.store t request }) =
              ⟨sh.tracks.pipeline.accepted ++ msg.track.toList,
                sh.tracks.pipeline.carried ++ msg.track.toList⟩ := by
          cases request with
          | none => simp [pipeline, Shared.tracks, History.store, hheld, hmsg]
          | some r => simp [pipeline, Shared.tracks, History.store, hheld, hmsg]
        rw [hpipeline]
        exact hmove
      · intro m hm
        have hm : m ∈ q.held := hm
        rw [hheld, List.mem_append, List.mem_singleton] at hm
        rcases hm with hm | rfl
        · exact hinv.validHeld m hm
        · exact hvalid
  | refuse hsend he =>
      obtain ⟨_, rfl, _⟩ := MsgRing.send_error hsend he
      exact ⟨hinv, fun g pc => .refl g pc _⟩
  | _ => exact ⟨hinv, fun g pc => .refl g pc _⟩

/-- The controlling thread lets a thread begin when nothing is under way, and clears the queue
when no thread is in its loop. -/
theorem start_step {pc pc' : ControlPc} (hinv : sh.tracks.Inv)
    (hphase : Phase.ControlAt pc sh.phase) (hstep : StartStep sh pc sh' pc') :
    sh'.tracks.Inv ∧ ∀ g (pc : TaskPc), (.task g ∉ sh.spawned → pc.taken = none) →
      Rely g pc sh.tracks sh'.tracks := by
  cases hstep with
  | create =>
      obtain ⟨haccepted, htaken⟩ := hinv.notStarted hphase.1
      refine ⟨{ hinv with notStarted := fun h => absurd h (by simp [Shared.tracks]) }, ?_⟩
      intro g pc hpc _
      refine ⟨rfl, ?_⟩
      by_cases hold : Tid.task g ∈ sh.spawned
      · exact .inl hold
      · exact .inr (htaken.trans (hpc hold).symm)
  | _ => exact ⟨hinv, fun g pc _ => .refl g pc _⟩

theorem end_step {pc pc' : ControlPc} (hinv : sh.tracks.Inv)
    (hphase : Phase.ControlAt pc sh.phase) (hstep : EndStep sh pc sh' pc') :
    sh'.tracks.Inv ∧ ∀ g pc, Rely g pc sh.tracks sh'.tracks := by
  cases hstep with
  | send hsend =>
      refine send_step hinv hsend ?_ (by simp [Message.endTask, Message.track])
        (by simp [Message.endTask, Message.track])
      have hone : sh.created = 1 := hphase.1
      omega
  | clear =>
      have hsub : (pipeline (Shared.tracks { sh with queue := sh.queue.clear })).carried.Sublist
          sh.tracks.pipeline.carried := by
        simp [pipeline, Shared.tracks]
      refine ⟨{ hinv with ordered := ?_, fresh := ?_, validHeld := ?_ },
        fun g pc h => ⟨rfl, .inl h⟩⟩
      · exact hinv.ordered.lose hsub
      · intro hleft
        have hnone : sh.created = 0 :=
          hphase.1.resolve_left fun h => absurd (h.symm.trans hleft) (by simp)
        have hempty := (hinv.notStarted hnone).1
        have hordered : sh.tracks.pipeline.carried.Sublist (sh.hist.accepted.map (·.trackID)) :=
          hinv.ordered
        rw [show sh.hist.accepted = [] from hempty] at hordered
        have hcarried := List.sublist_nil.1 (hsub.trans hordered)
        show List.getLast? _ = (sh.hist.accepted.map (·.trackID)).getLast?
        rw [hcarried, show sh.hist.accepted = [] from hempty]
        rfl
      · intro m hm
        have hm : m ∈ sh.queue.clear.held := hm
        simp at hm
  | _ => exact ⟨hinv, fun g pc => .refl g pc _⟩

/-- `Audio_PlayTrack` of a valid ID. -/
theorem caller_step {i : Nat} {l l' : Caller} (hinv : sh.tracks.Inv)
    (hphase : Phase.CallerAt l.pc sh.phase) (hstep : CallerStep i sh l sh' l')
    (hvalid : ∀ id seen pc, l.pc = .send id seen pc → id ≠ .maxTracks) :
    sh'.tracks.Inv ∧ ∀ g pc, Rely g pc sh.tracks sh'.tracks := by
  cases hstep with
  | @send _ _ id seen _ _ hsend =>
      refine send_step hinv hsend ?_ (by simp [Message.playTrack, Message.track]) ?_
      · have hone : 1 ≤ sh.created := hphase.1
        omega
      · simpa [Message.playTrack, Message.track] using hvalid id seen _ rfl
  | _ => exact ⟨hinv, fun g pc => .refl g pc _⟩

/-- `TaskLoop` takes a message: its track moves from the queue to what is taken. -/
theorem got_step {g : Nat} {m : Message} {q : MsgRing} (hinv : sh.tracks.Inv)
    (htaken : sh.hist.taken = none) (hget : sh.queue.get = (some m, q))
    (hone : sh.created ≠ 0) :
    let sh' : Shared := { sh with queue := q, hist := sh.hist.take m }
    sh'.tracks.Inv ∧ TaskAt g (.release m) sh'.tracks := by
  intro sh'
  have hheld : sh.queue.held = m :: q.held := MsgRing.get_some hget
  have hpipeline : sh'.tracks.pipeline = sh.tracks.pipeline := by
    have hmap : (m :: q.held).filterMap (·.track) =
        m.track.toList ++ q.held.filterMap (·.track) := by
      rw [List.filterMap_cons]
      cases m.track <;> rfl
    show Fifo.Pipeline.mk _ (_ ++ (m.track.toList ++ q.held.filterMap (·.track))) =
      Fifo.Pipeline.mk _ (_ ++ (sh.hist.taken.toList ++ sh.queue.held.filterMap (·.track)))
    rw [htaken, hheld, hmap]
    rfl
  refine ⟨hinv.move (hpipeline ▸ .keep) rfl (fun h => absurd h hone) ?_ ?_, fun _ => rfl⟩
  · intro m' hm'
    refine hinv.validHeld m' (show m' ∈ sh.queue.held from ?_)
    rw [hheld]
    exact List.mem_cons_of_mem _ hm'
  · refine hinv.validHeld m (show m ∈ sh.queue.held from ?_)
    rw [hheld]
    exact List.mem_cons_self

/-- `TaskLoop` stores the track it has taken in `NextTrackID` and so may push out an older one. -/
theorem processOk_step {m : Message} {id : AudioTrackID} (hinv : sh.tracks.Inv)
    (htaken : sh.hist.taken = m.track) (hone : sh.created ≠ 0)
    (hok : processMessage m sh.nextTrackID = (.codeOk, id)) :
    let sh' : Shared := { sh with nextTrackID := id, hist := { sh.hist with taken := none } }
    sh'.tracks.Inv := by
  intro sh'
  have htrack : m.track = some id := by
    unfold processMessage at hok
    cases hid : m.msgID <;> simp_all [Message.track]
  have hvalid : id ≠ .maxTracks := by
    have h := hinv.validTaken
    simpa [Shared.tracks, htaken, htrack] using h
  refine hinv.move ?_ rfl (fun h => absurd h hone) hinv.validHeld (by simp [sh', Shared.tracks])
  have hmove : Fifo.Pipeline.Move sh.tracks.pipeline
      ⟨sh.hist.accepted.map (·.trackID),
        sh.hist.started ++ ([id] ++ sh.queue.held.filterMap (·.track))⟩ := by
    have hbefore : sh.tracks.pipeline =
        ⟨sh.hist.accepted.map (·.trackID), sh.hist.started ++ mailbox sh.nextTrackID ++
          ([id] ++ sh.queue.held.filterMap (·.track))⟩ := by
      simp [pipeline, Shared.tracks, htaken, htrack]
    rw [hbefore]
    exact .supersede (List.sublist_append_left _ _) (by simp)
  simpa [pipeline, Shared.tracks, sh', mailbox, hvalid] using hmove

/-- `TaskLoop` hands the tracks from the queue to `NextTrackID`, one by one. -/
theorem task_step {g : Nat} {pc pc' : TaskPc} (hinv : sh.tracks.Inv)
    (hat : TaskAt g pc sh.tracks) (hphase : Phase.TaskAt g pc sh.phase)
    (hphaseInv : sh.phase.Inv) (hstep : TaskStep g sh pc sh' pc') :
    sh'.tracks.Inv ∧ TaskAt g pc' sh'.tracks ∧
      ∀ u pc, u ≠ g → Rely u pc sh.tracks sh'.tracks := by
  have hother : Tid.task g ∈ sh.spawned → ∀ u, u ≠ g → Tid.task u ∉ sh.spawned :=
    fun hspawned u hu hmem => hu (hphaseInv.task_unique hmem hspawned)
  cases hstep with
  | createPlayer =>
      refine ⟨{ hinv with }, ?_, fun u pc _ h => ⟨rfl, .inl ?_⟩⟩
      · intro _
        exact hat hphase.1.1
      · exact Finset.mem_of_mem_insert_of_ne h (by simp)
  | got hget =>
      obtain ⟨⟨hspawned, _, _⟩, _⟩ := hphase
      have hone := (hphaseInv.task_zero hspawned).2
      have hone : sh.created = 1 := hone
      obtain ⟨hinv', hat'⟩ := got_step hinv (hat hspawned) hget (by omega)
      exact ⟨hinv', hat', fun u pc hu h => absurd h (hother hspawned u hu)⟩
  | gotNone hget =>
      obtain ⟨_, rfl⟩ := MsgRing.get_none hget
      exact ⟨hinv, hat, fun u pc _ => .refl u pc _⟩
  | processOk hok =>
      obtain ⟨⟨hspawned, _, _⟩, _⟩ := hphase
      have hone : sh.created = 1 := (hphaseInv.task_zero hspawned).2
      exact ⟨processOk_step hinv (hat hspawned) (by omega) hok, fun _ => rfl,
        fun u pc hu h => absurd h (hother hspawned u hu)⟩
  | @processKill m id hkill =>
      unfold processMessage at hkill
      cases hid : m.msgID with
      | msgIdPlayTrack => simp [hid] at hkill
      | msgIdEnd =>
          obtain rfl : sh.nextTrackID = id := by simpa [hid] using hkill
          refine ⟨hinv, fun h => (hat h).trans ?_, fun u pc _ => .refl u pc _⟩
          simp [TaskPc.taken, Message.track, hid]
  | storeEnding =>
      exact ⟨{ hinv with fresh := fun h => absurd h (by simp [Shared.tracks]) }, hat,
        fun u pc _ h => ⟨rfl, .inl h⟩⟩
  | _ => exact ⟨hinv, hat, fun u pc _ => .refl u pc _⟩

/-- The player takes the track from `NextTrackID`, and forgets the last one when it ends. -/
theorem player_step {g : Nat} {l l' : Player} (hinv : sh.tracks.Inv)
    (hphase : Phase.PlayerAt g l.pc sh.phase) (hstep : PlayerStep g sh l sh' l') :
    sh'.tracks.Inv ∧ ∀ g pc, Rely g pc sh.tracks sh'.tracks := by
  cases hstep with
  | exchange _ =>
      have hpipeline : pipeline (Shared.tracks { sh with
          nextTrackID := .maxTracks, hist := sh.hist.pickUp sh.nextTrackID }) =
            sh.tracks.pipeline := by
        by_cases hnext : sh.nextTrackID = .maxTracks <;>
          simp [pipeline, Shared.tracks, History.pickUp, mailbox, hnext]
      exact ⟨hinv.move (hpipeline ▸ .keep) rfl hinv.notStarted hinv.validHeld hinv.validTaken,
        fun g pc h => ⟨rfl, .inl h⟩⟩
  | clear =>
      refine ⟨{ hinv with ordered := ?_, fresh := ?_ }, fun g pc h => ⟨rfl, .inl h⟩⟩
      · refine hinv.ordered.lose ?_
        refine List.Sublist.append_right ?_ _
        simp [Shared.tracks, mailbox]
      · intro hleft
        exact absurd (hphase.2.1.symm.trans hleft) (by simp)
  | _ => exact ⟨hinv, fun g pc => .refl g pc _⟩

end Tracks

/-! ## The outline -/

/-- `Audio_init` is not called, and `Audio_PlayTrack` is called with valid IDs only. -/
def validCalls : StepCondition Shared Local := fun c t c' =>
  noInit c t c' ∧
    ∀ i id, t = .caller i → (c'.locals (.caller i)).pc = .check id → id ≠ .maxTracks

/-- The session in which `Audio_PlayTrack` is called with valid IDs only. -/
abbrev InValidSession (c : Service) : Prop := service.Reach SessionStart validCalls c

theorem InValidSession.inSession {c : Service} (h : InValidSession c) : InSession c :=
  h.mono fun _ _ _ hallowed => hallowed.1

section Runs

variable {c : Service} {sh : Shared}

/-- The controlling thread may do anything but call `Audio_init` here, too. -/
theorem InValidSession.control {pc : ControlPc} (h : InValidSession c)
    (hrun : ThreadRun ControlStep (fun _ pc => pc ≠ .initLock) c.shared (c.locals .control) sh pc) :
    InValidSession (c.move .control sh pc) := by
  refine h.thread (t := Tid.control) ?_ hrun
  intro c sh l hl
  refine ⟨fun _ => ?_, by simp⟩
  rwa [Config.move_locals_self]

/-- A caller may do anything but call `Audio_PlayTrack` with an invalid ID. -/
theorem InValidSession.caller {i : Nat} {l : Caller} (h : InValidSession c)
    (hrun : ThreadRun (CallerStep i) (fun _ l => l.pc ≠ .check .maxTracks)
      c.shared (c.locals (.caller i)) sh l) :
    InValidSession (c.move (.caller i) sh l) := by
  refine h.thread (t := Tid.caller i) ?_ hrun
  intro c sh l hl
  refine ⟨fun hcontrol => absurd hcontrol (by simp), ?_⟩
  intro j id hj hpc hid
  cases hj
  rw [Config.move_locals_self, hid] at hpc
  exact hl hpc

/-- A `TaskLoop` may do anything. -/
theorem InValidSession.task {g : Nat} {pc : TaskPc} (h : InValidSession c)
    (hrun : ThreadRun (TaskStep g) (fun _ _ => True) c.shared (c.locals (.task g)) sh pc) :
    InValidSession (c.move (.task g) sh pc) :=
  h.thread (t := Tid.task g)
    (fun _ _ _ _ => ⟨fun hcontrol => absurd hcontrol (by simp), by simp⟩) hrun

/-- A player may do anything. -/
theorem InValidSession.player {g : Nat} {l : Player} (h : InValidSession c)
    (hrun : ThreadRun (PlayerStep g) (fun _ _ => True) c.shared (c.locals (.player g)) sh l) :
    InValidSession (c.move (.player g) sh l) :=
  h.thread (t := Tid.player g)
    (fun _ _ _ _ => ⟨fun hcontrol => absurd hcontrol (by simp), by simp⟩) hrun

end Runs

/-- The ID that a call of `Audio_PlayTrack` was given. -/
def CallerPc.trackID : CallerPc → Option AudioTrackID
  | .idle => none
  | .check id | .send id _ _ => some id

/-- What each thread claims about the tracks. -/
def TracksAt : (t : Tid) → Local t → Shared → Prop
  | .caller _, l, _ => l.pc.trackID ≠ some .maxTracks
  | .task g, pc, sh => Tracks.TaskAt g pc sh.tracks
  | _, _, _ => True

/-- What each thread relies on. -/
def TracksRely : (t : Tid) → Local t → Shared → Shared → Prop
  | .task g, pc, sh, sh' => Tracks.Rely g pc sh.tracks sh'.tracks
  | _, _, _, _ => True

/-- The outline of the tracks. -/
def tracksOutline : Outline Shared Local where
  Inv sh := sh.tracks.Inv
  At := TracksAt

theorem SessionStart.tracks {c : Service} (h : SessionStart c) : tracksOutline.Holds c := by
  obtain ⟨session, hhist⟩ := h.hist
  refine ⟨?_, ?_⟩
  · show c.shared.tracks.Inv
    constructor <;>
      simp [Shared.tracks, Tracks.pipeline, Fifo.Pipeline.Ordered, Fifo.Pipeline.Fresh, mailbox,
        h.queue, h.nextTrackID, hhist, History.begin]
  · intro t
    cases t with
    | caller i =>
        show (c.locals (.caller i)).pc.trackID ≠ _
        rw [h.caller]
        simp [CallerPc.trackID]
    | task g =>
        show Tracks.TaskAt g (c.locals (.task g)) _
        rw [h.task]
        intro _
        simp [Shared.tracks, hhist, History.begin, TaskPc.taken]
    | _ => trivial

/-- A call goes on with the ID it was given. -/
theorem CallerStep.trackID {i : Nat} {sh sh' : Shared} {l l' : Caller}
    (hstep : CallerStep i sh l sh' l') (hvalid : l.pc.trackID ≠ some .maxTracks)
    (hcall : ∀ id, l'.pc = .check id → id ≠ .maxTracks) :
    l'.pc.trackID ≠ some .maxTracks := by
  cases hstep with
  | call id => simpa [CallerPc.trackID] using hcall id rfl
  | running _ => exact hvalid
  | send _ => exact hvalid
  | stopped _ => simp [CallerPc.trackID]
  | ret => simp [CallerPc.trackID]

/-- The outline of the tracks holds in every such session. -/
theorem tracks_outline {c : Service} (h : InValidSession c) : tracksOutline.Holds c := by
  refine h.outline tracksOutline TracksRely (fun _ h => h.tracks) ?_ ?_
  · rintro c t sh l hreach ⟨hinv, hat⟩ hstep ⟨hinit, hvalid⟩
    obtain ⟨hphase, hphaseAt⟩ := phase_outline (InValidSession.inSession hreach)
    -- a step that disturbs no TaskLoop disturbs nobody
    have hrely : (∀ g, .task g ≠ t →
          Tracks.Rely g (c.locals (.task g)) c.shared.tracks sh.tracks) →
        ∀ u, u ≠ t → TracksRely u (c.locals u) c.shared sh := by
      intro hrely u hu
      cases u with
      | task g => exact hrely g hu
      | _ => trivial
    cases t with
    | control =>
        cases hstep with
        | init hstep =>
            exact (Phase.no_init (hphaseAt .control) hstep (by simpa using hinit rfl)).elim
        | start hstep =>
            obtain ⟨hinv', hrely'⟩ := Tracks.start_step hinv (hphaseAt .control) hstep
            refine ⟨hinv', trivial, hrely fun g _ => hrely' g _ fun hnot => ?_⟩
            exact Phase.TaskAt.taken_none (hphaseAt (.task g)) hnot
        | «end» hstep =>
            obtain ⟨hinv', hrely'⟩ := Tracks.end_step hinv (hphaseAt .control) hstep
            exact ⟨hinv', trivial, hrely fun g _ => hrely' g _⟩
    | caller i =>
        have hcall : ∀ id, l.pc = .check id → id ≠ .maxTracks := by
          intro id hpc
          exact hvalid i id rfl (by simpa using hpc)
        have hnow : (c.locals (.caller i)).pc.trackID ≠ some .maxTracks := hat (.caller i)
        obtain ⟨hinv', hrely'⟩ := Tracks.caller_step hinv (hphaseAt (.caller i)) hstep
          fun id seen pc hpc => by simpa [hpc, CallerPc.trackID] using hnow
        exact ⟨hinv', CallerStep.trackID hstep hnow hcall, hrely fun g _ => hrely' g _⟩
    | task g =>
        obtain ⟨hinv', hat', hrely'⟩ :=
          Tracks.task_step hinv (hat (.task g)) (hphaseAt (.task g)) hphase hstep
        exact ⟨hinv', hat', hrely fun u hu => hrely' u _ fun h => hu (by rw [h])⟩
    | player g =>
        obtain ⟨hinv', hrely'⟩ := Tracks.player_step hinv (hphaseAt (.player g)) hstep
        exact ⟨hinv', trivial, hrely fun g _ => hrely' g _⟩
  · intro t l sh sh' _ _ hat hrely
    cases t with
    | task g => exact Tracks.task_stable hat hrely
    | caller i => exact hat
    | _ => trivial

/-! ## The result -/

/-- The newest track on its way, looked for in the queue, in the message that `TaskLoop` number
`g` has taken, in `NextTrackID` and at the player, in this order. -/
def newestTrack (g : Nat) (c : Service) : Option AudioTrackID :=
  (c.shared.queue.held.filterMap (·.track)).getLast?.or
    ((c.locals (.task g)).taken.or
      ((mailbox c.shared.nextTrackID).getLast?.or c.shared.hist.started.getLast?))

/-- While `TaskLoop` is in its loop, the track accepted last is the newest on its way. -/
theorem newest_accepted {c : Service} (h : InValidSession c) {g : Nat}
    (hspawned : .task g ∈ c.shared.spawned) (hloop : ¬ LeftLoop (c.locals (.task g))) :
    newestTrack g c = (c.shared.hist.accepted.map (·.trackID)).getLast? := by
  obtain ⟨hinv, hat⟩ := tracks_outline h
  have hinv : c.shared.tracks.Inv := hinv
  have htaken : c.shared.hist.taken = (c.locals (.task g)).taken := hat (.task g) hspawned
  have hphase : Phase.TaskAt g (c.locals (.task g)) c.shared.phase :=
    (phase_outline h.inSession).2 (.task g)
  have hleft : c.shared.phase.loopLeft = false := by
    generalize c.locals (.task g) = pc at hloop hphase
    cases pc with
    | lock => exact hphase.1 hspawned
    | setPlayer => exact hphase.2.1
    | createPlayer => exact hphase.1.2.1
    | relockKill | storeEnding | unlock | stopPlayer | joinPlayer | playerEnded | done =>
        exact absurd trivial hloop
    | _ => exact hphase.1.2.1
  have hfresh : c.shared.tracks.pipeline.carried.getLast? = _ := hinv.fresh hleft
  have htoList : c.shared.tracks.taken.toList.getLast? = c.shared.hist.taken := by
    show c.shared.hist.taken.toList.getLast? = _
    cases c.shared.hist.taken <;> rfl
  rw [newestTrack, ← htaken, ← htoList, ← Option.or_assoc]
  simp only [Tracks.pipeline, List.getLast?_append] at hfresh
  exact hfresh

/-- The way of the tracks within a session. The player starts the accepted tracks in their
order, each at most once. While `TaskLoop` is in its loop, the track accepted last is
the newest on its way or the last one started. What caller `i` contributes is what its calls that
returned `ERROR_NONE` asked for. -/
theorem track_pipeline {c : Service} (h : InValidSession c) :
    c.shared.hist.started.Sublist (c.shared.hist.accepted.map (·.trackID)) ∧
      (∀ g, .task g ∈ c.shared.spawned → ¬ LeftLoop (c.locals (.task g)) →
        newestTrack g c = (c.shared.hist.accepted.map (·.trackID)).getLast?) ∧
      ∀ i, Accounted i (c.locals (.caller i)) c.shared := by
  have hinv : c.shared.tracks.Inv := (tracks_outline h).1
  refine ⟨?_, fun g => newest_accepted h, ?_⟩
  · have hsub : c.shared.hist.started.Sublist c.shared.tracks.pipeline.carried := by
      show List.Sublist _ (c.shared.hist.started ++ _ ++ _)
      rw [List.append_assoc]
      exact List.sublist_append_left _ _
    exact hsub.trans hinv.ordered
  · refine calls_accounted ?_ ?_ h
    · intro c hstart i
      obtain ⟨session, hhist⟩ := hstart.hist
      simp [Accounted, hstart.caller, hhist, History.begin, CallerPc.stored]
    · intro c hreach i id seen hpc
      have hat : Phase.CallerAt (c.locals (.caller i)).pc c.shared.phase :=
        (phase_outline (InValidSession.inSession hreach)).2 (.caller i)
      rw [hpc] at hat
      exact hat.2

/-- One track from `Audio_PlayTrack` to the player. -/
theorem track_pipeline_once :
    ∃ c, InValidSession c ∧ c.shared.hist.started = [.scale] ∧
      c.shared.hist.started.Sublist (c.shared.hist.accepted.map (·.trackID)) ∧
      newestTrack 0 c = (c.shared.hist.accepted.map (·.trackID)).getLast? ∧
      Accounted 0 (c.locals (.caller 0)) c.shared := by
  have hfresh : InValidSession freshSession := .start freshSession_start
  have hstarted := hfresh.control (start_run (fun _ _ _ h => h) rfl rfl)
  have hcalled := hstarted.caller (i := 0) <|
    .head (.call .scale) (by simp) <| .head (.running rfl) (by simp) <|
    .head (.send (.lock rfl)) (by simp) <|
    .head (.send (.store (Prod.ext ((MsgRing.held_send _ _).1 (by decide)).1 rfl))) (by simp) <|
    .head (.send (.wakeNone rfl)) (by simp) <| .head (.send .unlock) (by simp) <|
    .head .ret (by simp) <| .refl _ _
  have htaken := hcalled.task (g := 0) <|
    .head (.lock (by decide) (by decide)) trivial <| .head .setPlayer trivial <|
    .head .createPlayer trivial <| .head (.running rfl) trivial <|
    .head (.got rfl) trivial <| .head .release trivial <|
    .head (.processOk rfl) trivial <| .head (.relock (by decide)) trivial <| .refl _ _
  have hplayed := htaken.player (g := 0) <|
    .head (.running (by decide) rfl) trivial <| .head (.exchange rfl) trivial <| .refl _ _
  obtain ⟨hsub, hnewest, haccount⟩ := track_pipeline hplayed
  exact ⟨_, hplayed, rfl, hsub, hnewest 0 (by decide) (by exact id), haccount 0⟩

end BatteryInfo.Audio
