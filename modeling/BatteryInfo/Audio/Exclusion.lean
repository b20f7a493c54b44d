import BatteryInfo.Audio.Session

/-!
# Who holds which mutex

Within a session every thread owns a mutex exactly while its code is in the section that the
mutex guards (`owner_iff_held`), and at most one thread at a time has a signal to give
(`signalDue_iff`).
-/

namespace BatteryInfo.Audio

open Concurrent

/-- The mutexes held at each place of `SendMessage`. -/
def SendPc.held : SendPc → List MutexId
  | .body | .signal | .unlock _ => [.msgMutex]
  | .lock | .ret _ => []

/-- The mutexes held at each place of `Audio_PlayTrack`. -/
def CallerPc.held : CallerPc → List MutexId
  | .send _ _ pc => pc.held
  | .idle | .check _ => []

/-- The mutexes held at each place of the controlling thread. -/
def ControlPc.held : ControlPc → List MutexId
  | .idle | .initLock | .startLock | .endLock => []
  | .initSpeaker | .endSpeaker => [.audioMutex, .speakerMutex]
  | .endSend pc => .audioMutex :: pc.held
  | _ => [.audioMutex]

/-- The mutexes held at each place of `TaskLoop`. -/
def TaskPc.held : TaskPc → List MutexId
  | .setPlayer | .createPlayer | .check | .get | .wait | .release _ | .storeEnding | .unlock =>
      [.msgMutex]
  | _ => []

/-- The mutexes held at each place of `PlayerTaskLoop`. -/
def PlayerPc.held : PlayerPc → List MutexId
  | .inPitch _ | .inLastPitch => [.speakerMutex]
  | _ => []

/-- The player never takes `MsgMutex`. -/
theorem PlayerPc.msgMutex_notMem_held (pc : PlayerPc) : .msgMutex ∉ pc.held := by
  cases pc <;> simp [PlayerPc.held]

/-- The mutexes a thread holds at its place. -/
def heldBy : (t : Tid) → Local t → List MutexId
  | .control, pc => pc.held
  | .caller _, l => l.pc.held
  | .task _, pc => pc.held
  | .player _, l => l.pc.held

section Steps

variable {sh sh' : Shared}

/-- `SendMessage` takes `MsgMutex` and gives it back, whatever else its caller holds. -/
theorem send_lockMove {t : Tid} {msg : Message} {request : Option Request} {pc pc' : SendPc}
    (rest : List MutexId) (hrest : .msgMutex ∉ rest)
    (hstep : SendStep t msg request sh pc sh' pc') (m : MutexId) :
    LockMove t (sh.owner m) (sh'.owner m) (m ∈ rest ++ pc.held) (m ∈ rest ++ pc'.held) := by
  cases hstep with
  | lock hfree => exact .of_acquire hfree (by simp [SendPc.held, or_comm]) m
  | unlock => exact .of_release (by simp [SendPc.held]) (by grind [SendPc.held]) m
  | lockError _ => exact .keep rfl Iff.rfl
  | store _ => exact .keep rfl Iff.rfl
  | refuse _ _ => exact .keep rfl Iff.rfl
  | wake _ => exact .keep rfl Iff.rfl
  | wakeNone _ => exact .keep rfl Iff.rfl

theorem caller_lockMove {i : Nat} {l l' : Caller} (hstep : CallerStep i sh l sh' l')
    (m : MutexId) :
    LockMove (.caller i) (sh.owner m) (sh'.owner m) (m ∈ l.pc.held) (m ∈ l'.pc.held) := by
  cases hstep with
  | send hsend => exact send_lockMove [] (by simp) hsend m
  | call _ => exact .keep rfl Iff.rfl
  | running _ => exact .keep rfl Iff.rfl
  | stopped _ => exact .keep rfl Iff.rfl
  | ret => exact .keep rfl Iff.rfl

/-- `Audio_init` makes `MsgMutex` anew; nothing is wrong with that while nobody holds it. -/
theorem init_lockMove {pc pc' : ControlPc} (hstep : InitStep sh pc sh' pc')
    (hunused : pc = .initMutex → sh.owner .msgMutex = none) (m : MutexId) :
    LockMove .control (sh.owner m) (sh'.owner m) (m ∈ pc.held) (m ∈ pc'.held) := by
  cases hstep with
  | lock hfree => exact .of_acquire hfree (by simp [ControlPc.held]) m
  | speakerLock hfree => exact .of_acquire hfree (by grind [ControlPc.held]) m
  | speakerError => exact .of_release (by simp [ControlPc.held]) (by grind [ControlPc.held]) m
  | speakerInit => exact .of_release (by simp [ControlPc.held]) (by grind [ControlPc.held]) m
  | unlock => exact .of_release (by simp [ControlPc.held]) (by grind [ControlPc.held]) m
  | mutexInit =>
      refine .keep ?_ Iff.rfl
      show Function.update sh.owner .msgMutex none m = sh.owner m
      rw [← hunused rfl, Function.update_eq_self]
  | _ => exact .keep rfl Iff.rfl

theorem start_lockMove {pc pc' : ControlPc} (hstep : StartStep sh pc sh' pc') (m : MutexId) :
    LockMove .control (sh.owner m) (sh'.owner m) (m ∈ pc.held) (m ∈ pc'.held) := by
  cases hstep with
  | lock hfree => exact .of_acquire hfree (by simp [ControlPc.held]) m
  | unlock => exact .of_release (by simp [ControlPc.held]) (by grind [ControlPc.held]) m
  | _ => exact .keep rfl Iff.rfl

theorem end_lockMove {pc pc' : ControlPc} (hstep : EndStep sh pc sh' pc') (m : MutexId) :
    LockMove .control (sh.owner m) (sh'.owner m) (m ∈ pc.held) (m ∈ pc'.held) := by
  cases hstep with
  | lock hfree => exact .of_acquire hfree (by simp [ControlPc.held]) m
  | send hsend => exact send_lockMove [.audioMutex] (by simp) hsend m
  | speakerLock hfree => exact .of_acquire hfree (by grind [ControlPc.held]) m
  | speakerDeInit => exact .of_release (by simp [ControlPc.held]) (by grind [ControlPc.held]) m
  | unlock => exact .of_release (by simp [ControlPc.held]) (by grind [ControlPc.held]) m
  | _ => exact .keep rfl Iff.rfl

theorem task_lockMove {g : Nat} {pc pc' : TaskPc} (hstep : TaskStep g sh pc sh' pc')
    (m : MutexId) :
    LockMove (.task g) (sh.owner m) (sh'.owner m) (m ∈ pc.held) (m ∈ pc'.held) := by
  cases hstep with
  | lock _ hfree => exact .of_acquire hfree (by simp [TaskPc.held]) m
  | wake _ hfree => exact .of_acquire hfree (by simp [TaskPc.held]) m
  | relock hfree => exact .of_acquire hfree (by simp [TaskPc.held]) m
  | relockKill hfree => exact .of_acquire hfree (by simp [TaskPc.held]) m
  | wait => exact .of_release (by simp [TaskPc.held]) (by grind [TaskPc.held]) m
  | release => exact .of_release (by simp [TaskPc.held]) (by grind [TaskPc.held]) m
  | unlock => exact .of_release (by simp [TaskPc.held]) (by grind [TaskPc.held]) m
  | _ => exact .keep rfl Iff.rfl

theorem player_lockMove {g : Nat} {l l' : Player} (hstep : PlayerStep g sh l sh' l')
    (m : MutexId) :
    LockMove (.player g) (sh.owner m) (sh'.owner m) (m ∈ l.pc.held) (m ∈ l'.pc.held) := by
  cases hstep with
  | pitch hfree => exact .of_acquire hfree (by simp [PlayerPc.held]) m
  | lastPitch hfree => exact .of_acquire hfree (by simp [PlayerPc.held]) m
  | pitched => exact .of_release (by simp [PlayerPc.held]) (by grind [PlayerPc.held]) m
  | lastPitched => exact .of_release (by simp [PlayerPc.held]) (by grind [PlayerPc.held]) m
  | _ => exact .keep rfl Iff.rfl

/-- The thread is about to initialise `MsgMutex`. -/
def AtInitMutex : (t : Tid) → Local t → Prop
  | .control, pc => pc = .initMutex
  | _, _ => False

/-- What any step does to any mutex. -/
theorem service_lockMove {t : Tid} {l l' : Local t} (hstep : service.Step t sh l sh' l')
    (hunused : AtInitMutex t l → sh.owner .msgMutex = none) (m : MutexId) :
    LockMove t (sh.owner m) (sh'.owner m) (m ∈ heldBy t l) (m ∈ heldBy t l') := by
  cases t with
  | control =>
      cases hstep with
      | init hstep => exact init_lockMove hstep hunused m
      | start hstep => exact start_lockMove hstep m
      | «end» hstep => exact end_lockMove hstep m
  | caller i => exact caller_lockMove hstep m
  | task g => exact task_lockMove hstep m
  | player g => exact player_lockMove hstep m

/-- Without anything known of the run, a step may also make a mutex anew. -/
theorem service_ownerMove {t : Tid} {l l' : Local t} (hstep : service.Step t sh l sh' l')
    (m : MutexId) :
    sh'.owner m = none ∨
      LockMove t (sh.owner m) (sh'.owner m) (m ∈ heldBy t l) (m ∈ heldBy t l') := by
  by_cases hinit : AtInitMutex t l
  · cases t with
    | control =>
        obtain rfl : l = .initMutex := hinit
        cases hstep with
        | init hstep =>
            cases hstep with
            | mutexError => exact .inr (.keep rfl Iff.rfl)
            | mutexInit =>
                by_cases hm : m = .msgMutex
                · subst hm
                  exact .inl (Function.update_self MutexId.msgMutex none sh.owner)
                · exact .inr (.keep (Function.update_of_ne hm none sh.owner) Iff.rfl)
        | start hstep => cases hstep
        | «end» hstep => cases hstep
    | _ => exact hinit.elim
  · exact .inr (service_lockMove hstep (fun h => absurd h hinit) m)

end Steps

/-- In any run a thread owns a mutex only while its code is in the section the mutex guards. -/
theorem held_of_owner {start : Service → Prop} {allowed : StepCondition Shared Local}
    (hstart : ∀ c, start c → ∀ m, c.shared.owner m = none) {c : Service}
    (h : service.Reach start allowed c) {t : Tid} {m : MutexId}
    (howner : c.shared.owner m = some t) : m ∈ heldBy t (c.locals t) := by
  refine h.owner_inside Shared.owner (fun t l m => m ∈ heldBy t l) ?_ ?_ t m howner
  · intro c hc t m howner
    simp [hstart c hc m] at howner
  · intro c t sh l hstep m
    exact service_ownerMove hstep m

/-! ## Within a session -/

/-- `Audio_init` does not run within a session. -/
theorem InSession.not_initMutex {c : Service} (h : InSession c) (t : Tid) :
    ¬ AtInitMutex t (c.locals t) := by
  intro hinit
  cases t with
  | control =>
      have hat := (phase_outline h).2 .control
      rw [show c.locals .control = .initMutex from hinit] at hat
      exact hat.elim
  | _ => exact hinit.elim

/-- A thread owns a mutex exactly while its code is in the section the mutex guards. -/
theorem owner_iff_held {c : Service} (h : InSession c) (t : Tid) (m : MutexId) :
    c.shared.owner m = some t ↔ m ∈ heldBy t (c.locals t) := by
  refine h.mutual_exclusion Shared.owner (fun t l m => m ∈ heldBy t l) ?_ ?_ t m
  · intro c hstart t m
    rw [hstart.owner m]
    cases t with
    | control => simp [heldBy, hstart.control, ControlPc.held]
    | caller i => simp [heldBy, hstart.caller, CallerPc.held]
    | task g => simp [heldBy, hstart.task, TaskPc.held]
    | player g => simp [heldBy, hstart.player, PlayerPc.held]
  · intro c t sh l hreach _ hstep _ m
    exact service_lockMove hstep (fun hinit => absurd hinit (InSession.not_initMutex hreach t)) m

/-- Two threads that hold the same mutex are one. -/
theorem held_unique {c : Service} (h : InSession c) {t u : Tid} {m : MutexId}
    (ht : m ∈ heldBy t (c.locals t)) (hu : m ∈ heldBy u (c.locals u)) : t = u := by
  rw [← owner_iff_held h] at ht hu
  exact Option.some.inj (ht.symm.trans hu)

/-- The thread has stored a message and is about to signal. -/
def AtSignal : (t : Tid) → Local t → Prop
  | .control, pc => pc = .endSend .signal
  | .caller _, l => ∃ id seen, l.pc = .send id seen .signal
  | _, _ => False

theorem AtSignal.held {t : Tid} {l : Local t} (h : AtSignal t l) : .msgMutex ∈ heldBy t l := by
  cases t with
  | control =>
      rw [show l = .endSend .signal from h]
      simp [heldBy, ControlPc.held, SendPc.held]
  | caller i =>
      obtain ⟨id, seen, hpc⟩ := h
      simp [heldBy, hpc, CallerPc.held, SendPc.held]
  | task g => exact h.elim
  | player g => exact h.elim

/-- Storing a message makes a signal due, giving it makes it no longer due. -/
theorem send_signalMove {sh sh' : Shared} {t : Tid} {msg : Message} {request : Option Request}
    {pc pc' : SendPc} (hstep : SendStep t msg request sh pc sh' pc')
    (hnone : pc = .body → sh.hist.signalDue = none) :
    LockMove t sh.hist.signalDue sh'.hist.signalDue (pc = .signal) (pc' = .signal) := by
  cases hstep with
  | store _ => exact .acquire (hnone rfl) rfl rfl
  | wake _ => exact .release rfl rfl (by simp)
  | wakeNone _ => exact .release rfl rfl (by simp)
  | _ => exact .keep rfl (by simp)

theorem service_signalMove {sh sh' : Shared} {t : Tid} {l l' : Local t}
    (hstep : service.Step t sh l sh' l')
    (hnone : .msgMutex ∈ heldBy t l → ¬ AtSignal t l → sh.hist.signalDue = none)
    (hinit : ¬ AtInitMutex t l) :
    LockMove t sh.hist.signalDue sh'.hist.signalDue (AtSignal t l) (AtSignal t l') := by
  cases t with
  | control =>
      cases hstep with
      | init hstep =>
          cases hstep with
          | mutexInit => exact absurd rfl hinit
          | _ => exact .keep rfl (by simp [AtSignal])
      | start hstep => cases hstep <;> exact .keep rfl (by simp [AtSignal])
      | «end» hstep =>
          cases hstep with
          | send hsend =>
              have hmove := send_signalMove hsend fun hpc =>
                hnone (by simp [heldBy, ControlPc.held, SendPc.held, hpc])
                  (by simp [AtSignal, hpc])
              simpa [AtSignal] using hmove
          | _ => exact .keep rfl (by simp [AtSignal])
  | caller i =>
      cases hstep with
      | send hsend =>
          have hmove := send_signalMove hsend fun hpc =>
            hnone (by simp [heldBy, CallerPc.held, SendPc.held, hpc]) (by simp [AtSignal, hpc])
          simpa [AtSignal] using hmove
      | _ => exact .keep rfl (by simp [AtSignal])
  | task g => cases hstep <;> exact .keep rfl Iff.rfl
  | player g => cases hstep <;> exact .keep rfl Iff.rfl

/-- A signal is due exactly from the thread that is about to give it. -/
theorem signalDue_iff {c : Service} (h : InSession c) (t : Tid) :
    c.shared.hist.signalDue = some t ↔ AtSignal t (c.locals t) := by
  refine h.mutual_exclusion (fun sh (_ : Unit) => sh.hist.signalDue) (fun t l _ => AtSignal t l)
    ?_ ?_ t ()
  · intro c hstart t _
    obtain ⟨session, hhist⟩ := hstart.hist
    have hnone : c.shared.hist.signalDue = none := by simp [hhist, History.begin]
    simp only [hnone, reduceCtorEq, false_iff]
    cases t with
    | control => simp [AtSignal, hstart.control]
    | caller i => simp [AtSignal, hstart.caller]
    | _ => exact id
  · intro c t sh l hreach hdue hstep _ _
    refine service_signalMove hstep ?_ (InSession.not_initMutex hreach t)
    intro hheld hnot
    cases hsome : c.shared.hist.signalDue with
    | none => rfl
    | some u =>
        have hsignal := (hdue u ()).1 hsome
        rw [held_unique hreach hheld hsignal.held] at hnot
        exact absurd hsignal hnot

end BatteryInfo.Audio
