import BatteryInfo.Audio.Mail

/-!
# Shutdown

`Audio_end` in a session where it finds `Running`. `TaskLoop` takes at most one more message and
does not sleep on, the threads do not wait for each other in a circle, and past the join both
threads have ended.

That nobody is blocked for good is not yet an end. From every configuration between the store of
`Ending` and the return of the join, `Audio_end` also gets to its return
(`audio_end_returns`), by steps of the threads that are there: no call of `Audio_PlayTrack` has
to come and no sleeper has to wake by itself. The run goes by stages, each with the number of
steps that a thread has left: whoever holds `MsgMutex` gives it back, `Audio_end` comes to its
join, `TaskLoop` comes to the join of its player, the player ends, and so on back.
-/

namespace BatteryInfo.Audio

open Concurrent

/-! ## Who waits for whom -/

/-- The mutex a thread has to get before it goes on. A sleeper that was woken has to get
`MsgMutex` back. -/
def wants : (t : Tid) → Local t → Shared → Option MutexId
  | .control, .initLock, _ | .control, .startLock, _ | .control, .endLock, _ => some .audioMutex
  | .control, .initSpeakerLock, _ | .control, .endSpeakerLock, _ => some .speakerMutex
  | .control, .endSend .lock, _ => some .msgMutex
  | .caller _, ⟨.send _ _ .lock, _⟩, _ => some .msgMutex
  | .task _, .lock, _ | .task _, .relock, _ | .task _, .relockKill, _ => some .msgMutex
  | .task g, .asleep, sh => if .task g ∈ sh.sleepers then none else some .msgMutex
  | .player _, ⟨.pitch (_ :: _), _⟩, _ | .player _, ⟨.lastPitch, _⟩, _ => some .speakerMutex
  | _, _, _ => none

/-- The thread whose end a thread has to wait for. -/
def joins : (t : Tid) → Local t → Shared → Option Tid
  | .control, .endJoin, sh => some (.task sh.audioThread)
  | .task g, .joinPlayer, _ => some (.player g)
  | _, _, _ => none

/-- How the threads of the service hold each other up. -/
def waiting : Waiting Shared Local MutexId where
  owner := Shared.owner
  wants := wants
  joins := joins
  ended t sh := t ∈ sh.exited

/-- How far a thread is from being able to go on. -/
def waitRank (c : Service) (t : Tid) : Nat :=
  match joins t (c.locals t) c.shared with
  | some (.task _) => 3
  | some _ => 2
  | none => if (wants t (c.locals t) c.shared).isSome then 1 else 0

/-- A thread that wants a mutex joins nobody, and only the controlling thread wants
`AudioMutex`, when it holds nothing. -/
theorem wants_some {t : Tid} {l : Local t} {sh : Shared} {m : MutexId}
    (h : wants t l sh = some m) :
    joins t l sh = none ∧ (m = .audioMutex → t = .control ∧ heldBy t l = []) := by
  cases t with
  | control =>
      cases l with
      | initLock | startLock | endLock => exact ⟨rfl, fun _ => ⟨rfl, rfl⟩⟩
      | initSpeakerLock | endSpeakerLock =>
          obtain rfl : MutexId.speakerMutex = m := Option.some.inj h
          exact ⟨rfl, nofun⟩
      | endSend pc =>
          cases pc with
          | lock =>
              obtain rfl : MutexId.msgMutex = m := Option.some.inj h
              exact ⟨rfl, nofun⟩
          | _ => exact nomatch (h : none = some m)
      | _ => exact nomatch (h : none = some m)
  | caller i =>
      obtain ⟨pc, rs⟩ := l
      cases pc with
      | send id seen pc =>
          cases pc with
          | lock =>
              obtain rfl : MutexId.msgMutex = m := Option.some.inj h
              exact ⟨rfl, nofun⟩
          | _ => exact nomatch (h : none = some m)
      | _ => exact nomatch (h : none = some m)
  | task g =>
      cases l with
      | lock | relock | relockKill =>
          obtain rfl : MutexId.msgMutex = m := Option.some.inj h
          exact ⟨rfl, nofun⟩
      | asleep =>
          have h : (if Tid.task g ∈ sh.sleepers then none else some .msgMutex) = some m := h
          split at h
          · exact nomatch h
          · obtain rfl : MutexId.msgMutex = m := Option.some.inj h
            exact ⟨rfl, nofun⟩
      | _ => exact nomatch (h : none = some m)
  | player g =>
      obtain ⟨pc, v⟩ := l
      cases pc with
      | pitch calls =>
          cases calls with
          | nil => exact nomatch (h : none = some m)
          | cons f calls =>
              obtain rfl : MutexId.speakerMutex = m := Option.some.inj h
              exact ⟨rfl, nofun⟩
      | lastPitch =>
          obtain rfl : MutexId.speakerMutex = m := Option.some.inj h
          exact ⟨rfl, nofun⟩
      | _ => exact nomatch (h : none = some m)

/-- A thread that holds `MsgMutex` or `SpeakerMutex` is not held up: at the places where a thread
wants a mutex or joins another, it holds `AudioMutex` at most. -/
theorem holder_goes_on {t : Tid} {l : Local t} (sh : Shared) {m : MutexId} (h : m ∈ heldBy t l)
    (hm : m ≠ .audioMutex) : wants t l sh = none ∧ joins t l sh = none := by
  have hnothing : m ∉ ([] : List MutexId) := List.not_mem_nil
  have haudio : m ∉ [MutexId.audioMutex] := mt List.mem_singleton.1 hm
  cases t with
  | control =>
      cases l with
      | initLock | startLock | endLock => exact absurd h hnothing
      | initSpeakerLock | endSpeakerLock | endJoin => exact absurd h haudio
      | endSend pc =>
          cases pc with
          | lock => exact absurd h haudio
          | _ => exact ⟨rfl, rfl⟩
      | _ => exact ⟨rfl, rfl⟩
  | caller i =>
      obtain ⟨pc, rs⟩ := l
      cases pc with
      | send id seen pc =>
          cases pc with
          | lock => exact absurd h hnothing
          | _ => exact ⟨rfl, rfl⟩
      | _ => exact ⟨rfl, rfl⟩
  | task g =>
      cases l with
      | lock | relock | relockKill | asleep | joinPlayer => exact absurd h hnothing
      | _ => exact ⟨rfl, rfl⟩
  | player g =>
      obtain ⟨pc, v⟩ := l
      cases pc with
      | pitch calls => exact absurd h hnothing
      | lastPitch => exact absurd h hnothing
      | _ => exact ⟨rfl, rfl⟩

/-- Only the controlling thread ever holds `AudioMutex`. -/
theorem audioMutex_holder {t : Tid} {l : Local t} (h : .audioMutex ∈ heldBy t l) :
    t = .control := by
  cases t with
  | control => rfl
  | caller i =>
      obtain ⟨pc, rs⟩ := l
      cases pc with
      | send id seen pc => cases pc <;> simp [heldBy, CallerPc.held, SendPc.held] at h
      | _ => simp [heldBy, CallerPc.held] at h
  | task g => cases l <;> simp [heldBy, TaskPc.held] at h
  | player g =>
      obtain ⟨pc, v⟩ := l
      cases pc <;> simp [heldBy, PlayerPc.held] at h

/-- Only the controlling thread and the players ever hold `SpeakerMutex`. -/
theorem speakerMutex_holder {t : Tid} {l : Local t} (h : .speakerMutex ∈ heldBy t l) :
    t = .control ∨ ∃ g, t = .player g := by
  cases t with
  | control => exact .inl rfl
  | player g => exact .inr ⟨g, rfl⟩
  | caller i =>
      obtain ⟨pc, rs⟩ := l
      cases pc with
      | send id seen pc => cases pc <;> simp [heldBy, CallerPc.held, SendPc.held] at h
      | _ => simp [heldBy, CallerPc.held] at h
  | task g => cases l <;> simp [heldBy, TaskPc.held] at h

/-- `Audio_end` joins a `TaskLoop`, and that joins its player. -/
theorem joins_some {t u : Tid} {l : Local t} {sh : Shared} (h : joins t l sh = some u) :
    (t = .control ∧ ∃ g, u = .task g) ∨ (∃ g, t = .task g ∧ u = .player g) := by
  cases t with
  | control =>
      cases l with
      | endJoin => exact .inl ⟨rfl, sh.audioThread, (Option.some.inj h).symm⟩
      | _ => exact nomatch (h : none = some u)
  | task g =>
      cases l with
      | joinPlayer => exact .inr ⟨g, rfl, (Option.some.inj h).symm⟩
      | _ => exact nomatch (h : none = some u)
  | caller i => exact nomatch (h : none = some u)
  | player g => exact nomatch (h : none = some u)

/-- Whoever a thread waits for is nearer to going on. -/
theorem waitRank_lt {c : Service} (h : InSession c) {t u : Tid} (hwait : WaitsFor waiting c t u) :
    waitRank c u < waitRank c t := by
  cases hwait with
  | @mutex m hwants howner =>
      have hwants : wants t (c.locals t) c.shared = some m := hwants
      have hheld := (owner_iff_held h u m).1 howner
      obtain ⟨hjoins, haudio⟩ := wants_some hwants
      by_cases hm : m = .audioMutex
      · obtain ⟨rfl, hnone⟩ := haudio hm
        rw [hm] at hheld
        obtain rfl := audioMutex_holder hheld
        simp [hnone] at hheld
      · obtain ⟨hwants', hjoins'⟩ := holder_goes_on c.shared hheld hm
        simp [waitRank, hjoins, hwants, hjoins', hwants']
  | join hjoins _ =>
      have hjoins : joins t (c.locals t) c.shared = some u := hjoins
      have hrank : ∀ g, waitRank c (.player g) ≤ 1 := by
        intro g
        simp only [waitRank, joins]
        split <;> decide
      have hrank' : ∀ g, waitRank c (.task g) ≤ 2 := by
        intro g
        unfold waitRank
        split
        next g' hjoins' => rcases joins_some hjoins' with ⟨h, _⟩ | ⟨_, _, h⟩ <;> cases h
        next => exact le_rfl
        next => split <;> decide
      rcases joins_some hjoins with ⟨rfl, g, rfl⟩ | ⟨g, rfl, rfl⟩
      · have hthree : waitRank c .control = 3 := by simp [waitRank, hjoins]
        exact hthree ▸ Nat.lt_succ_of_le (hrank' g)
      · have htwo : waitRank c (.task g) = 2 := by simp [waitRank, hjoins]
        exact htwo ▸ Nat.lt_succ_of_le (hrank g)

/-! ## Who sleeps -/

/-- A wake-up of thread `t` is pending: it is no longer asleep on `MsgCond`, or some thread is
about to signal. -/
def WakeUpPending (c : Service) (t : Tid) : Prop :=
  t ∉ c.shared.sleepers ∨ ∃ u, AtSignal u (c.locals u)

/-- While `Audio_end` is at its join, a `TaskLoop` that waits has a message and is woken. -/
theorem asleep_at_join {c : Service} (h : InSession c) {g : Nat}
    (hjoin : c.locals .control = .endJoin) (hasleep : c.locals (.task g) = .asleep) :
    c.shared.queue.held ≠ [] ∧ WakeUpPending c (.task g) := by
  obtain ⟨_, hat⟩ := mail_outline h
  have hsent : Mail.ControlAt (c.locals .control) c.shared.mail := hat .control
  have htask : Mail.TaskAt g (c.locals (.task g)) c.shared.mail := hat (.task g)
  rw [hjoin] at hsent
  rw [hasleep] at htask
  obtain ⟨_, hheld, hsleep⟩ := htask
  refine ⟨hheld hsent, ?_⟩
  by_cases hmem : Tid.task g ∈ c.shared.sleepers
  · obtain ⟨u, hu⟩ := Option.ne_none_iff_exists'.1 ((hsleep hmem).resolve_left (hheld hsent))
    exact .inr ⟨u, (signalDue_iff h u).1 hu⟩
  · exact .inl hmem

/-! ## What the threads can do by themselves -/

/-- Thread `t` goes on without help from outside: no call of `Audio_init` or `Audio_PlayTrack`
begins, and `TaskLoop` does not wake by itself. -/
def Unaided : (t : Tid) → Local t → Local t → Prop
  | .control, _, pc => pc ≠ .initLock
  | .caller _, l, _ => l.pc ≠ .idle
  | .task _, .asleep, pc => pc ≠ .asleep
  | _, _, _ => True

/-- The steps that need no help from outside. -/
def unaided : StepCondition Shared Local :=
  fun c t c' => Unaided t (c.locals t) (c'.locals t)

/-- The threads can come from `c` to `c'` by themselves. -/
abbrev ComesTo (c c' : Service) : Prop := service.Reach (· = c) unaided c'

variable {c c' : Service} {sh : Shared}

theorem ComesTo.inSession (h : InSession c) (hcomes : ComesTo c c') : InSession c' := by
  refine h.trans (hcomes.mono ?_)
  rintro c t c' hunaided rfl
  exact hunaided

/-- A run of one thread is such a way. -/
theorem ComesTo.of_thread {t : Tid} {l : Local t}
    (hrun : ThreadRun (service.Step t) (Unaided t) c.shared (c.locals t) sh l) :
    ComesTo c (c.move t sh l) := by
  refine System.Reach.thread (.start rfl) ?_ hrun
  intro c sh l hl
  show Unaided t (c.locals t) ((c.move t sh l).locals t)
  rwa [Config.move_locals_self]

/-- The steps of thread `t` in `SendMessage`, where the request that the history describes may
depend on the session. -/
abbrev Sends (t : Tid) (msg : Message) (request : Shared → Option Request) (sh : Shared)
    (pc : SendPc) (sh' : Shared) (pc' : SendPc) : Prop :=
  SendStep t msg (request sh) sh pc sh' pc'

/-- `SendMessage` with the mutex held comes to its return and has given the mutex back. -/
theorem send_returns (t : Tid) (msg : Message) (request : Shared → Option Request) {pc : SendPc}
    (sh : Shared) (hheld : .msgMutex ∈ pc.held) :
    ∃ sh' e, ThreadRun (Sends t msg request) (fun _ _ => True) sh pc sh' (.ret e) ∧
      sh'.owner .msgMutex = none := by
  have hunlock : ∀ sh e, ∃ sh' e',
      ThreadRun (Sends t msg request) (fun _ _ => True) sh (.unlock e) sh' (.ret e') ∧
        sh'.owner .msgMutex = none := by
    intro sh e
    exact ⟨_, e, .head .unlock trivial (.refl _ _), sh.release_owner .msgMutex⟩
  have hsignal : ∀ sh, ∃ sh' e,
      ThreadRun (Sends t msg request) (fun _ _ => True) sh .signal sh' (.ret e) ∧
        sh'.owner .msgMutex = none := by
    intro sh
    rcases sh.sleepers.eq_empty_or_nonempty with hnone | ⟨u, hu⟩
    · obtain ⟨sh', e, hrun, hfree⟩ := hunlock _ _
      exact ⟨sh', e, .head (.wakeNone hnone) trivial hrun, hfree⟩
    · obtain ⟨sh', e, hrun, hfree⟩ := hunlock _ _
      exact ⟨sh', e, .head (.wake hu) trivial hrun, hfree⟩
  cases pc with
  | lock => exact absurd hheld List.not_mem_nil
  | body =>
      by_cases he : (sh.queue.send msg).1 = .errorNone
      · obtain ⟨sh', e, hrun, hfree⟩ := hsignal _
        exact ⟨sh', e, .head (.store (Prod.ext he rfl)) trivial hrun, hfree⟩
      · obtain ⟨sh', e, hrun, hfree⟩ := hunlock _ _
        exact ⟨sh', e, .head (.refuse rfl he) trivial hrun, hfree⟩
  | signal => exact hsignal sh
  | unlock e => exact hunlock sh e
  | ret e => exact absurd hheld List.not_mem_nil

/-- Thread `t` comes to give `MsgMutex` back. -/
def GivesBack (t : Tid) (sh : Shared) (l : Local t) : Prop :=
  ∃ sh' l', ThreadRun (service.Step t) (Unaided t) sh l sh' l' ∧ sh'.owner .msgMutex = none

theorem GivesBack.head {t : Tid} {sh sh₁ : Shared} {l l₁ : Local t}
    (hstep : service.Step t sh l sh₁ l₁) (hunaided : Unaided t l l₁) (h : GivesBack t sh₁ l₁) :
    GivesBack t sh l := by
  obtain ⟨sh', l', hrun, hfree⟩ := h
  exact ⟨sh', l', .head hstep hunaided hrun, hfree⟩

/-- A call of `Audio_PlayTrack` gives `MsgMutex` back. -/
theorem caller_givesBack {i : Nat} {l : Caller} (sh : Shared) (hheld : .msgMutex ∈ l.pc.held) :
    GivesBack (.caller i) sh l := by
  obtain ⟨pc, rs⟩ := l
  cases pc with
  | idle => exact absurd hheld List.not_mem_nil
  | check id => exact absurd hheld List.not_mem_nil
  | send id seen pc =>
      obtain ⟨sh', e, hrun, hfree⟩ := send_returns (.caller i) (.playTrack id)
        (fun sh => some ⟨i, id, sh.hist.session⟩) sh hheld
      have hrun' : ThreadRun (CallerStep i) (fun l _ => l.pc ≠ .idle) sh ⟨.send id seen pc, rs⟩
          sh' ⟨.send id seen (.ret e), rs⟩ :=
        hrun.map (fun pc => (⟨.send id seen pc, rs⟩ : Caller)) (fun _ _ _ _ => .send)
          fun _ _ _ => nofun
      exact ⟨sh', _, hrun', hfree⟩

/-- `TaskLoop` gives `MsgMutex` back: it goes to sleep, processes a message or leaves its loop. -/
theorem task_givesBack {g : Nat} {pc : TaskPc} (sh : Shared) (hheld : .msgMutex ∈ pc.held) :
    GivesBack (.task g) sh pc := by
  have hrelease : ∀ sh m, GivesBack (.task g) sh (.release m) := fun sh m =>
    ⟨_, _, .head .release trivial (.refl _ _), sh.release_owner .msgMutex⟩
  have hwait : ∀ sh, GivesBack (.task g) sh .wait := fun sh =>
    ⟨_, _, .head .wait trivial (.refl _ _), sh.release_owner .msgMutex⟩
  have hunlock : ∀ sh, GivesBack (.task g) sh .unlock := fun sh =>
    ⟨_, _, .head .unlock trivial (.refl _ _), sh.release_owner .msgMutex⟩
  have hstoreEnding : ∀ sh, GivesBack (.task g) sh .storeEnding := fun sh =>
    .head .storeEnding trivial (hunlock _)
  have hget : ∀ sh, GivesBack (.task g) sh .get := by
    intro sh
    cases hmsg : sh.queue.get.1 with
    | none => exact .head (.gotNone (Prod.ext hmsg rfl)) trivial (hwait _)
    | some m => exact .head (.got (Prod.ext hmsg rfl)) trivial (hrelease _ m)
  have hcheck : ∀ sh, GivesBack (.task g) sh .check := by
    intro sh
    by_cases hstate : sh.myState = .running
    · exact .head (.running hstate) trivial (hget sh)
    · exact .head (.notRunning hstate) trivial (hstoreEnding sh)
  have hcreatePlayer : ∀ sh, GivesBack (.task g) sh .createPlayer := fun sh =>
    .head .createPlayer trivial (hcheck _)
  cases pc with
  | setPlayer => exact .head .setPlayer trivial (hcreatePlayer _)
  | createPlayer => exact hcreatePlayer sh
  | check => exact hcheck sh
  | get => exact hget sh
  | wait => exact hwait sh
  | release m => exact hrelease sh m
  | storeEnding => exact hstoreEnding sh
  | unlock => exact hunlock sh
  | _ => exact absurd hheld List.not_mem_nil

/-- Whoever holds `MsgMutex`, if not the controlling thread, gives it back while all others stand
still. -/
theorem msgMutex_freed (h : InSession c)
    (hcontrol : .msgMutex ∉ heldBy .control (c.locals .control)) :
    ∃ c', ComesTo c c' ∧ c'.shared.owner .msgMutex = none ∧
      ∀ t, .msgMutex ∉ heldBy t (c.locals t) → c'.locals t = c.locals t := by
  cases howner : c.shared.owner .msgMutex with
  | none => exact ⟨c, .start rfl, howner, fun _ _ => rfl⟩
  | some u =>
      have hheld := (owner_iff_held h u .msgMutex).1 howner
      have hgives : GivesBack u c.shared (c.locals u) := by
        cases u with
        | control => exact absurd hheld hcontrol
        | caller i => exact caller_givesBack _ hheld
        | task g => exact task_givesBack _ hheld
        | player g => exact absurd hheld (c.locals (.player g)).pc.msgMutex_notMem_held
      obtain ⟨sh, l, hrun, hfree⟩ := hgives
      refine ⟨c.move u sh l, .of_thread hrun, hfree, fun t ht => ?_⟩
      refine Config.move_locals_of_ne c sh l ?_
      rintro rfl
      exact ht hheld

/-- The places of `Audio_end` between its store of `Ending` and the return of its join. -/
def Closing : ControlPc → Prop
  | .endSend _ | .endJoin => True
  | _ => False

/-- `Audio_end` has stored `Ending` and not come past its join. -/
def Shared.Closing (sh : Shared) : Prop :=
  sh.hist.endStored = true ∧ sh.hist.joined = false

/-- No other thread stores whether `Audio_end` has stored `Ending` or has joined. -/
theorem closing_of_other {t : Tid} {sh sh' : Shared} {l l' : Local t} (ht : t ≠ .control)
    (hstep : service.Step t sh l sh' l') (hclosing : sh'.Closing) : sh.Closing := by
  cases t with
  | control => exact absurd rfl ht
  | caller i =>
      cases hstep with
      | send hsend => cases hsend <;> exact hclosing
      | _ => exact hclosing
  | task g => cases hstep <;> exact hclosing
  | player g => cases hstep <;> exact hclosing

/-- The store of `Ending` leads to these places, and only the join leads away from them. -/
theorem control_closing {sh sh' : Shared} {pc pc' : ControlPc}
    (hat : Phase.ControlAt pc sh.phase) (hstep : ControlStep sh pc sh' pc')
    (hinit : pc' ≠ .initLock) (hplace : sh.Closing → Closing pc) (hclosing : sh'.Closing) :
    Closing pc' := by
  cases hstep with
  | init hstep => exact (Phase.no_init hat hstep hinit).elim
  | start hstep => cases hstep <;> exact (hplace hclosing).elim
  | «end» hstep =>
      cases hstep with
      | store => trivial
      | send _ => trivial
      | sent => trivial
      | join _ => exact absurd hclosing.2 (by simp)
      | _ => exact (hplace hclosing).elim

/-- Between its store of `Ending` and the return of its join, `Audio_end` is where it says. -/
theorem closing_place (h : InSession c) :
    c.shared.Closing → Closing (c.locals .control) := by
  refine h.invariant (P := fun c => c.shared.Closing → Closing (c.locals .control)) ?_ ?_
  · intro c hstart hclosing
    obtain ⟨session, hhist⟩ := hstart.hist
    exact absurd hclosing.1 (by simp [hhist, History.begin])
  · intro c t sh l hreach ih hstep hallowed hclosing
    by_cases ht : t = .control
    · subst ht
      rw [Config.move_locals_self]
      have hat : Phase.ControlAt (c.locals .control) c.shared.phase :=
        (phase_outline hreach).2 .control
      have hinit : l ≠ .initLock := by simpa using hallowed rfl
      exact control_closing hat hstep hinit ih hclosing
    · rw [Config.move_locals_of_ne c sh l (Ne.symm ht)]
      exact ih (closing_of_other ht hstep hclosing)

/-- `Audio_end` comes to its join. -/
theorem comes_to_join {pc : SendPc} (h : InSession c) (hpc : c.locals .control = .endSend pc) :
    ∃ c', ComesTo c c' ∧ c'.locals .control = .endJoin := by
  -- once SendMessage returns, its result is ignored
  have hsent : ∀ {c : Service} {pc : SendPc} {sh e}, c.locals .control = .endSend pc →
      ThreadRun (Sends .control .endTask fun _ => none) (fun _ _ => True) c.shared pc sh (.ret e) →
        ∃ c', ComesTo c c' ∧ c'.locals .control = .endJoin := by
    intro c pc sh e hpc hrun
    have hrun' : ThreadRun ControlStep (fun _ pc => pc ≠ .initLock) c.shared (.endSend pc)
        sh (.endSend (.ret e)) :=
      hrun.map ControlPc.endSend (fun _ _ _ _ hs => .end (.send hs)) fun _ _ _ => nofun
    refine ⟨c.move .control sh .endJoin, .of_thread ?_, Config.move_locals_self ..⟩
    rw [hpc]
    exact hrun'.trans (.head (.end .sent) nofun (.refl _ _))
  have hcontrol : .msgMutex ∉ pc.held → .msgMutex ∉ heldBy .control (c.locals .control) := by
    intro hfree
    rw [hpc]
    simpa [heldBy, ControlPc.held] using hfree
  by_cases hheld : .msgMutex ∈ pc.held
  · obtain ⟨sh, e, hrun, _⟩ := send_returns .control .endTask (fun _ => none) c.shared hheld
    exact hsent hpc hrun
  · cases pc with
    | lock =>
        obtain ⟨c₁, hcomes, hfree, hsame⟩ := msgMutex_freed h (hcontrol hheld)
        have hpc₁ : c₁.locals .control = .endSend .lock := (hsame _ (hcontrol hheld)).trans hpc
        obtain ⟨sh, e, hrun, _⟩ := send_returns .control .endTask (fun _ => none)
          (c₁.shared.acquire .msgMutex .control)
          (show .msgMutex ∈ SendPc.body.held from List.mem_singleton_self _)
        obtain ⟨c₂, hcomes₂, hjoin⟩ := hsent hpc₁ (.head (.lock hfree) trivial hrun)
        exact ⟨c₂, hcomes.trans hcomes₂, hjoin⟩
    | ret e => exact hsent hpc (.refl _ _)
    | _ => exact absurd (List.mem_singleton_self _) hheld

/-! ## The player ends -/

/-- The player comes to its end. -/
def PlayerEnds (g : Nat) (sh : Shared) (l : Player) : Prop :=
  ∃ sh' l', ThreadRun (PlayerStep g) (fun _ _ => True) sh l sh' l' ∧ .player g ∈ sh'.exited

theorem PlayerEnds.head {g : Nat} {sh sh₁ : Shared} {l l₁ : Player}
    (hstep : PlayerStep g sh l sh₁ l₁) (h : PlayerEnds g sh₁ l₁) : PlayerEnds g sh l := by
  obtain ⟨sh', l', hrun, hexit⟩ := h
  exact ⟨sh', l', .head hstep trivial hrun, hexit⟩

/-- `TaskLoop` has told its player to end, and nobody is inside `Speaker_PlayPitch`. -/
structure Stopped (g : Nat) (sh : Shared) : Prop where
  spawned : .player g ∈ sh.spawned
  playerState : sh.playerState = .ending
  speaker : sh.owner .speakerMutex = none

/-- Once `PlayerState` is `Ending` the player plays what is left of its iteration, then a last
pitch 0, and ends. -/
theorem player_ends {g : Nat} {sh : Shared} {l : Player} (hspawned : .player g ∈ sh.spawned)
    (hstate : sh.playerState = .ending) (hfits : l.vars.Fits)
    (hspeaker : .speakerMutex ∉ l.pc.held → sh.owner .speakerMutex = none)
    (hdone : l.pc = .done → .player g ∈ sh.exited) : PlayerEnds g sh l := by
  have hlast : ∀ sh v, PlayerEnds g sh ⟨.inLastPitch, v⟩ := fun sh v =>
    ⟨_, _, .head .lastPitched trivial (.refl _ _), Finset.mem_insert_self _ _⟩
  have hlastPitch : ∀ sh v, Stopped g sh → PlayerEnds g sh ⟨.lastPitch, v⟩ := fun sh v h =>
    .head (.lastPitch h.speaker) (hlast _ v)
  have hclear : ∀ sh v, Stopped g sh → PlayerEnds g sh ⟨.clear, v⟩ := fun sh v h =>
    .head .clear (hlastPitch _ v ⟨h.spawned, h.playerState, h.speaker⟩)
  have hcheck : ∀ sh v, Stopped g sh → PlayerEnds g sh ⟨.check, v⟩ := fun sh v h =>
    .head (.notRunning h.spawned (by simp [h.playerState])) (hclear sh v h)
  have hreleased : ∀ sh : Shared, .player g ∈ sh.spawned → sh.playerState = .ending →
      Stopped g (sh.release .speakerMutex) := fun sh hspawned hstate =>
    ⟨hspawned, hstate, sh.release_owner .speakerMutex⟩
  have hpitch : ∀ calls v sh, Stopped g sh → PlayerEnds g sh ⟨.pitch calls, v⟩ := by
    intro calls v
    induction calls with
    | nil => exact fun sh h => .head .loop (hcheck sh v h)
    | cons f calls ih =>
        exact fun sh h => .head (.pitch h.speaker) <|
          .head .pitched (ih _ (hreleased _ h.spawned h.playerState))
  obtain ⟨pc, v⟩ := l
  cases pc with
  | check => exact hcheck sh v ⟨hspawned, hstate, hspeaker List.not_mem_nil⟩
  | exchange =>
      obtain ⟨v', calls, hiterate, _⟩ := PlayerVars.iterate_some hfits sh.nextTrackID
      exact .head (.exchange hiterate)
        (hpitch calls v' _ ⟨hspawned, hstate, hspeaker List.not_mem_nil⟩)
  | pitch calls => exact hpitch calls v sh ⟨hspawned, hstate, hspeaker List.not_mem_nil⟩
  | inPitch calls => exact .head .pitched (hpitch calls v _ (hreleased sh hspawned hstate))
  | clear => exact hclear sh v ⟨hspawned, hstate, hspeaker List.not_mem_nil⟩
  | lastPitch => exact hlastPitch sh v ⟨hspawned, hstate, hspeaker List.not_mem_nil⟩
  | inLastPitch => exact hlast sh v
  | done => exact ⟨sh, _, .refl _ _, hdone rfl⟩

/-- The tables that a player uses fit in every configuration of a session. -/
theorem player_fits (h : InSession c) (g : Nat) : (c.locals (.player g)).vars.Fits := by
  refine h.invariant (P := fun c => (c.locals (.player g)).vars.Fits) ?_ ?_
  · intro c hstart
    rw [hstart.player]
    exact PlayerVars.initial_fits
  · intro c t sh l _ hfits hstep _
    by_cases ht : t = .player g
    · subst ht
      rw [Config.move_locals_self]
      generalize c.locals (.player g) = l₀ at hfits hstep
      cases hstep with
      | exchange hiterate => exact PlayerVars.iterate_fits hfits hiterate
      | _ => exact hfits
    · rwa [Config.move_locals_of_ne c sh l (Ne.symm ht)]

/-! ## `TaskLoop` ends -/

/-- A `TaskLoop` that has ended is at its end, and so is its player. -/
theorem task_done (h : InSession c) {g : Nat} (hexit : .task g ∈ c.shared.exited) :
    c.locals (.task g) = .done ∧ .player g ∈ c.shared.exited := by
  have hat : Phase.TaskAt g (c.locals (.task g)) c.shared.phase := (phase_outline h).2 (.task g)
  generalize c.locals (.task g) = pc at hat
  cases pc with
  | done => exact ⟨rfl, hat.2.2.2⟩
  | lock => exact absurd hexit hat.2
  | setPlayer => exact absurd hexit hat.2.2
  | createPlayer => exact absurd hexit hat.1.2.2
  | unlock | stopPlayer | joinPlayer | playerEnded => exact absurd hexit hat.2.2.1
  | _ => exact absurd hexit hat.1.2.2

/-- A player that has ended is at its end, and its last pitch was 0. -/
theorem player_done (h : InSession c) {g : Nat} (hexit : .player g ∈ c.shared.exited) :
    (c.locals (.player g)).pc = .done ∧ c.shared.hist.pitches.getLast? = some 0 := by
  have hat : Phase.PlayerAt g (c.locals (.player g)).pc c.shared.phase :=
    (phase_outline h).2 (.player g)
  generalize (c.locals (.player g)).pc = pc at hat
  cases pc with
  | done => exact ⟨rfl, hat.2.2.2⟩
  | check => exact absurd hexit hat
  | clear | lastPitch => exact absurd hexit hat.2.2
  | inLastPitch => exact absurd hexit hat.2.2.1
  | _ => exact absurd hexit hat.2

/-- While `Audio_end` is at its join, only the player of the session can be inside
`Speaker_PlayPitch`, and then it has not ended. -/
theorem speaker_at_join (h : InSession c) (hjoin : c.locals .control = .endJoin) {u : Tid}
    (howner : c.shared.owner .speakerMutex = some u) :
    u = .player 0 ∧ .speakerMutex ∈ (c.locals (.player 0)).pc.held ∧
      .player 0 ∉ c.shared.exited := by
  have hheld := (owner_iff_held h u .speakerMutex).1 howner
  rcases speakerMutex_holder hheld with rfl | ⟨g, rfl⟩
  · rw [hjoin] at hheld
    exact absurd (List.mem_singleton.1 hheld) (by simp)
  · have hheld : .speakerMutex ∈ (c.locals (.player g)).pc.held := hheld
    have hat : Phase.PlayerAt g (c.locals (.player g)).pc c.shared.phase :=
      (phase_outline h).2 (.player g)
    have hlive : .player g ∈ c.shared.phase.spawned ∧ .player g ∉ c.shared.phase.exited := by
      generalize (c.locals (.player g)).pc = pc at hat hheld
      cases pc with
      | inPitch calls => exact hat
      | inLastPitch => exact ⟨hat.1, hat.2.2.1⟩
      | _ => exact absurd hheld List.not_mem_nil
    obtain ⟨rfl, _⟩ := (phase_outline h).1.player_zero hlive.1
    exact ⟨rfl, hheld, hlive.2⟩

/-- How many steps `TaskLoop` has left at most, once `MyState` is `Ending`. -/
def taskLeft : TaskPc → Nat
  | .wait => 12
  | .asleep => 11
  | .get => 10
  | .release _ | .lock => 9
  | .process _ | .setPlayer => 8
  | .relock | .createPlayer => 7
  | .relockKill | .check => 6
  | .storeEnding => 5
  | .unlock => 4
  | .stopPlayer => 3
  | .joinPlayer => 2
  | .playerEnded => 1
  | .done => 0

/-- `Audio_end` is at its join in a session. -/
def AtJoin (c : Service) : Prop := InSession c ∧ c.locals .control = .endJoin

/-- `TaskLoop` comes nearer to its end. -/
def Nearer (c : Service) : Prop :=
  ∃ c', ComesTo c c' ∧ AtJoin c' ∧ taskLeft (c'.locals (.task 0)) < taskLeft (c.locals (.task 0))

/-- It does so by a step, also if other threads have to go first. -/
theorem Nearer.of_step {c₁ : Service} {pc pc' : TaskPc} (h : AtJoin c)
    (hpc : c.locals (.task 0) = pc) (hcomes : ComesTo c c₁)
    (hjoin : c₁.locals .control = .endJoin) (hpc₁ : c₁.locals (.task 0) = pc)
    (hstep : TaskStep 0 c₁.shared pc sh pc') (hunaided : Unaided (.task 0) pc pc')
    (hlt : taskLeft pc' < taskLeft pc) : Nearer c := by
  have hcontrol : Tid.control ≠ .task 0 := nofun
  have hrun : ComesTo c₁ (c₁.move (.task 0) sh pc') := by
    refine .of_thread ?_
    rw [hpc₁]
    exact .head hstep hunaided (.refl _ _)
  refine ⟨c₁.move (.task 0) sh pc', hcomes.trans hrun, ⟨?_, ?_⟩, ?_⟩
  · exact ComesTo.inSession h.1 (hcomes.trans hrun)
  · exact (Config.move_locals_of_ne c₁ sh pc' hcontrol).trans hjoin
  · rwa [Config.move_locals_self, hpc]

/-- Where `TaskLoop` waits for `MsgMutex`, that comes to be free. -/
theorem free_at_join (h : AtJoin c) (htask : .msgMutex ∉ (c.locals (.task 0)).held) :
    ∃ c', ComesTo c c' ∧ AtJoin c' ∧ c'.locals (.task 0) = c.locals (.task 0) ∧
      c'.shared.owner .msgMutex = none := by
  obtain ⟨hsession, hjoin⟩ := h
  have hcontrol : .msgMutex ∉ heldBy .control (c.locals .control) := by
    rw [hjoin]
    simp [heldBy, ControlPc.held]
  obtain ⟨c', hcomes, hfree, hsame⟩ := msgMutex_freed hsession hcontrol
  exact ⟨c', hcomes, ⟨hcomes.inSession hsession, (hsame _ hcontrol).trans hjoin⟩,
    hsame (.task 0) htask, hfree⟩

/-- Where `TaskLoop` waits for its player, the player comes to its end. -/
theorem player_ended_at_join (h : AtJoin c) (htask : c.locals (.task 0) = .joinPlayer) :
    ∃ c', ComesTo c c' ∧ c'.locals .control = .endJoin ∧ c'.locals (.task 0) = .joinPlayer ∧
      .player 0 ∈ c'.shared.exited := by
  obtain ⟨hsession, hjoin⟩ := h
  have hat : Phase.TaskAt 0 (c.locals (.task 0)) c.shared.phase :=
    (phase_outline hsession).2 (.task 0)
  rw [htask] at hat
  obtain ⟨_, _, _, hspawned, hstate⟩ := hat
  have hspeaker : .speakerMutex ∉ (c.locals (.player 0)).pc.held →
      c.shared.owner .speakerMutex = none := by
    intro hnot
    cases howner : c.shared.owner .speakerMutex with
    | none => rfl
    | some u => exact absurd (speaker_at_join hsession hjoin howner).2.1 hnot
  have hdone : (c.locals (.player 0)).pc = .done → .player 0 ∈ c.shared.exited := by
    intro hpc
    have hplayer : Phase.PlayerAt 0 (c.locals (.player 0)).pc c.shared.phase :=
      (phase_outline hsession).2 (.player 0)
    rw [hpc] at hplayer
    exact hplayer.2.2.1
  obtain ⟨sh, l, hrun, hexit⟩ :=
    player_ends hspawned hstate (player_fits hsession 0) hspeaker hdone
  have hcontrol : Tid.control ≠ .player 0 := nofun
  have htask₀ : Tid.task 0 ≠ .player 0 := nofun
  refine ⟨c.move (.player 0) sh l, .of_thread hrun, ?_, ?_, hexit⟩
  · exact (Config.move_locals_of_ne c sh l hcontrol).trans hjoin
  · exact (Config.move_locals_of_ne c sh l htask₀).trans htask

/-- While `Audio_end` is at its join, `TaskLoop` comes nearer to its end until it is there. -/
theorem task_nearer (h : AtJoin c) : .task 0 ∈ c.shared.exited ∨ Nearer c := by
  obtain ⟨hsession, hjoin⟩ := id h
  obtain ⟨hinv, hat⟩ := phase_outline hsession
  have hinv : c.shared.phase.Inv := hinv
  have hcontrol : Phase.ControlAt (c.locals .control) c.shared.phase := hat .control
  have hsent : Mail.ControlAt (c.locals .control) c.shared.mail :=
    (mail_outline hsession).2 .control
  rw [hjoin] at hcontrol hsent
  obtain ⟨hcreated, _, hstored⟩ := hcontrol
  have hspawned : ∀ c₁, AtJoin c₁ → .task 0 ∈ c₁.shared.spawned := by
    intro c₁ h₁
    obtain ⟨hinv₁, hat₁⟩ := phase_outline h₁.1
    have hcontrol₁ : Phase.ControlAt (c₁.locals .control) c₁.shared.phase := hat₁ .control
    rw [h₁.2] at hcontrol₁
    exact (Phase.Inv.tasks hinv₁ 0).2 hcontrol₁.1.ge
  have hown : ∀ {pc pc' sh}, c.locals (.task 0) = pc → TaskStep 0 c.shared pc sh pc' →
      Unaided (.task 0) pc pc' → taskLeft pc' < taskLeft pc → Nearer c := fun hpc =>
    .of_step h hpc (.start rfl) hjoin hpc
  -- a step that needs MsgMutex comes after those of its holder
  have hlocked : ∀ {pc} pc', c.locals (.task 0) = pc → .msgMutex ∉ pc.held →
      (∀ c₁, AtJoin c₁ → c₁.locals (.task 0) = pc → c₁.shared.owner .msgMutex = none →
        TaskStep 0 c₁.shared pc (c₁.shared.acquire .msgMutex (.task 0)) pc') →
      Unaided (.task 0) pc pc' → taskLeft pc' < taskLeft pc → Nearer c := by
    intro pc pc' hpc hheld hstep hunaided hlt
    obtain ⟨c₁, hcomes, h₁, hsame, hfree⟩ := free_at_join h (hpc ▸ hheld)
    have hpc₁ := hsame.trans hpc
    exact .of_step h hpc hcomes h₁.2 hpc₁ (hstep c₁ h₁ hpc₁ hfree) hunaided hlt
  have hmail : Mail.TaskAt 0 (c.locals (.task 0)) c.shared.mail :=
    (mail_outline hsession).2 (.task 0)
  have htask : Phase.TaskAt 0 (c.locals (.task 0)) c.shared.phase := hat (.task 0)
  cases hpc : c.locals (.task 0) with
  | lock =>
      refine .inr (hlocked .setPlayer hpc List.not_mem_nil ?_ trivial (by decide))
      exact fun c₁ h₁ _ hfree => .lock (hspawned c₁ h₁) hfree
  | setPlayer => exact .inr (hown hpc .setPlayer trivial (by decide))
  | createPlayer => exact .inr (hown hpc .createPlayer trivial (by decide))
  | check =>
      have hstate : c.shared.myState ≠ .running := by
        intro hrunning
        exact absurd (hstored.symm.trans (hinv.running hrunning).2.1) (by simp)
      exact .inr (hown hpc (.notRunning hstate) trivial (by decide))
  | get =>
      rw [hpc] at hmail
      -- the queue that was offered the end message is not empty
      cases hmsg : c.shared.queue.get.1 with
      | none =>
          exact absurd (MsgRing.get_none (Prod.ext hmsg rfl)).1 (hmail.2 hsent)
      | some m => exact .inr (hown hpc (.got (Prod.ext hmsg rfl)) trivial (by simp [taskLeft]))
  | wait => exact .inr (hown hpc .wait trivial (by decide))
  | asleep =>
      refine .inr (hlocked .get hpc List.not_mem_nil ?_ nofun (by decide))
      intro c₁ h₁ hpc₁ hfree
      refine .wake ?_ hfree
      -- whoever is about to signal would hold the mutex
      rcases (asleep_at_join h₁.1 h₁.2 hpc₁).2 with hawake | ⟨u, hu⟩
      · exact hawake
      · have howner := (owner_iff_held h₁.1 u .msgMutex).2 hu.held
        exact absurd (hfree.symm.trans howner) nofun
  | release m => exact .inr (hown hpc .release trivial (by simp [taskLeft]))
  | process m =>
      cases hmsg : m.msgID with
      | msgIdPlayTrack =>
          have hok : processMessage m c.shared.nextTrackID = (.codeOk, m.trackID) := by
            simp [processMessage, hmsg]
          exact .inr (hown hpc (.processOk hok) trivial (by simp [taskLeft]))
      | msgIdEnd =>
          have hkill : processMessage m c.shared.nextTrackID =
              (.codeKill, c.shared.nextTrackID) := by
            simp [processMessage, hmsg]
          exact .inr (hown hpc (.processKill hkill) trivial (by simp [taskLeft]))
  | relock =>
      refine .inr (hlocked .check hpc List.not_mem_nil ?_ trivial (by decide))
      exact fun _ _ _ hfree => .relock hfree
  | relockKill =>
      refine .inr (hlocked .storeEnding hpc List.not_mem_nil ?_ trivial (by decide))
      exact fun _ _ _ hfree => .relockKill hfree
  | storeEnding => exact .inr (hown hpc .storeEnding trivial (by decide))
  | unlock => exact .inr (hown hpc .unlock trivial (by decide))
  | stopPlayer => exact .inr (hown hpc .stopPlayer trivial (by decide))
  | joinPlayer =>
      obtain ⟨c₁, hcomes, hjoin₁, hpc₁, hexit⟩ := player_ended_at_join h hpc
      exact .inr (.of_step h hpc hcomes hjoin₁ hpc₁ (.joinPlayer hexit) trivial (by decide))
  | playerEnded => exact .inr (hown hpc .playerEnded trivial (by decide))
  | done =>
      rw [hpc] at htask
      exact .inl htask.2.2.1

/-- While `Audio_end` is at its join, `TaskLoop` comes to its end. -/
theorem task_ends (h : AtJoin c) :
    ∃ c', ComesTo c c' ∧ AtJoin c' ∧ .task 0 ∈ c'.shared.exited := by
  refine System.Reach.exists_of_rank (fun c => taskLeft (c.locals (.task 0))) ?_ h
  intro c hc
  exact (task_nearer hc).imp_left fun hexit => ⟨hc, hexit⟩

/-! ## `Audio_end` returns -/

/-- `Audio_end` comes to its return, past its join. -/
def EndReturns (sh : Shared) (pc : ControlPc) : Prop :=
  ∃ sh', ThreadRun ControlStep (fun _ pc => pc ≠ .initLock) sh pc sh' .idle ∧
    sh'.hist.joined = true

theorem EndReturns.head {sh sh₁ : Shared} {pc pc₁ : ControlPc} (hstep : EndStep sh pc sh₁ pc₁)
    (hinit : pc₁ ≠ .initLock) (h : EndReturns sh₁ pc₁) : EndReturns sh pc := by
  obtain ⟨sh', hrun, hjoined⟩ := h
  exact ⟨sh', .head (.end hstep) hinit hrun, hjoined⟩

/-- Past a join that does not block, nothing keeps `Audio_end` from its return. -/
theorem end_returns (sh : Shared) (hexit : .task sh.audioThread ∈ sh.exited)
    (hspeaker : sh.owner .speakerMutex = none) : EndReturns sh .endJoin := by
  have hunlock : ∀ sh e, sh.hist.joined = true → EndReturns sh (.endUnlock e) := fun sh e h =>
    ⟨_, .head (.end .unlock) nofun (.refl _ _), h⟩
  have hdestroy : ∀ sh, sh.hist.joined = true → EndReturns sh .endDestroyMutex := fun sh h =>
    .head .destroyMutex nofun <| .head .destroyCond nofun <| .head .clear nofun <|
      .head .storeEnded nofun <| hunlock _ .errorNone h
  have hsilence : ∀ sh, sh.hist.joined = true → sh.owner .speakerMutex = none →
      EndReturns sh .endSpeakerLock := fun sh h hfree =>
    .head (.speakerLock hfree) nofun <| .head .speakerDeInit nofun <| hdestroy _ h
  refine .head (.join hexit) nofun ?_
  by_cases hending : sh.myState = .ending
  · exact .head (.ending hending) nofun (hsilence _ rfl hspeaker)
  · refine .head (.notEnding hending) nofun ?_
    by_cases hinited : sh.myState = .inited
    · exact .head (.inited hinited) nofun (hsilence _ rfl hspeaker)
    · exact .head (.notInited hinited) nofun (hunlock _ .errorTaskRunning rfl)

/-- Once `Audio_end` has stored `Ending`, the threads can by themselves bring it past its join and
to its return. -/
theorem audio_end_returns (h : InSession c) (hclosing : c.shared.Closing) :
    ∃ c', ComesTo c c' ∧ c'.shared.hist.joined = true ∧ c'.locals .control = .idle := by
  have hjoin : ∃ c₁, ComesTo c c₁ ∧ AtJoin c₁ := by
    have hplace := closing_place h hclosing
    cases hpc : c.locals .control with
    | endJoin => exact ⟨c, .start rfl, h, hpc⟩
    | endSend pc =>
        obtain ⟨c₁, hcomes, hjoin⟩ := comes_to_join h hpc
        exact ⟨c₁, hcomes, hcomes.inSession h, hjoin⟩
    | _ =>
        rw [hpc] at hplace
        exact hplace.elim
  obtain ⟨c₁, hcomes₁, h₁⟩ := hjoin
  obtain ⟨c₂, hcomes₂, h₂, hexit⟩ := task_ends h₁
  obtain ⟨hinv, hat⟩ := phase_outline h₂.1
  have hcontrol : Phase.ControlAt (c₂.locals .control) c₂.shared.phase := hat .control
  rw [h₂.2] at hcontrol
  have hthread : c₂.shared.audioThread = 0 := Phase.Inv.audioThread hinv hcontrol.1
  have hspeaker : c₂.shared.owner .speakerMutex = none := by
    cases howner : c₂.shared.owner .speakerMutex with
    | none => rfl
    | some u =>
        exact absurd (task_done h₂.1 hexit).2 (speaker_at_join h₂.1 h₂.2 howner).2.2
  obtain ⟨sh, hrun, hjoined⟩ := end_returns c₂.shared (hthread ▸ hexit) hspeaker
  refine ⟨c₂.move .control sh .idle, ?_, hjoined, Config.move_locals_self ..⟩
  refine (hcomes₁.trans hcomes₂).trans (ComesTo.of_thread ?_)
  rwa [h₂.2]

/-! ## The result -/

/-- Past the join of `Audio_end` both threads have ended, and the last pitch was 0. -/
theorem threads_ended (h : InSession c) (hjoined : c.shared.hist.joined = true) :
    c.locals (.task c.shared.audioThread) = .done ∧
      (c.locals (.player c.shared.audioThread)).pc = .done ∧
      c.shared.hist.pitches.getLast? = some 0 := by
  have hinv : c.shared.phase.Inv := (phase_outline h).1
  have hexit : .task 0 ∈ c.shared.exited := hinv.joined hjoined
  have hzero : c.shared.audioThread = 0 := hinv.audioThread (hinv.loopLeft (hinv.exited hexit)).1
  rw [hzero]
  obtain ⟨htask, hplayer⟩ := task_done h hexit
  exact ⟨htask, player_done h hplayer⟩

/-- `Audio_end` shuts the session down. After it has stored `Ending`, `TaskLoop` takes at most
one message; while it is at its join, `TaskLoop` does not sleep without a message and a pending
wake-up; the threads never wait for each other in a circle; wherever it is before the end of its
join, the threads can by themselves bring it past the join and to its return; and past the join
both threads have ended with the speaker silenced. -/
theorem audio_end_finishes {c : Service} (h : InSession c) :
    c.shared.hist.takenAfterEnd ≤ 1 ∧
      (∀ g, c.locals .control = .endJoin → c.locals (.task g) = .asleep →
        c.shared.queue.held ≠ [] ∧ WakeUpPending c (.task g)) ∧
      (∀ t, ¬ Relation.TransGen (WaitsFor waiting c) t t) ∧
      (c.shared.hist.endStored = true → c.shared.hist.joined = false →
        ∃ c', service.Reach (· = c) unaided c' ∧
          c'.shared.hist.joined = true ∧ c'.locals .control = .idle) ∧
      (c.shared.hist.joined = true →
        c.locals (.task c.shared.audioThread) = .done ∧
          (c.locals (.player c.shared.audioThread)).pc = .done ∧
          c.shared.hist.pitches.getLast? = some 0) := by
  have hmail : c.shared.mail.Inv := (mail_outline h).1
  exact ⟨hmail.taken, fun g => asleep_at_join h,
    WaitsFor.acyclic (waitRank c) fun _ _ => waitRank_lt h,
    fun hstored hjoined => audio_end_returns h ⟨hstored, hjoined⟩, threads_ended h⟩

/-- `Audio_end` waits for `MsgMutex`, which `TaskLoop` holds on its way to a track in the queue. -/
theorem audio_end_finishes_midway :
    ∃ c c', InSession c ∧ c.locals .control = .endSend .lock ∧ c.locals (.task 0) = .get ∧
      c.shared.queue.held = [.playTrack .scale] ∧
      service.Reach (· = c) unaided c' ∧ c'.locals .control = .idle ∧
      c'.shared.hist.joined = true ∧ c'.shared.hist.takenAfterEnd ≤ 1 ∧
      c'.locals (.task c'.shared.audioThread) = .done ∧
      (c'.locals (.player c'.shared.audioThread)).pc = .done ∧
      c'.shared.hist.pitches.getLast? = some 0 := by
  have hfresh : InSession freshSession := .start freshSession_start
  have hstarted := hfresh.control (start_run (fun _ _ _ h => h) rfl rfl)
  have hcalled := hstarted.caller (i := 0) <|
    .head (.call .scale) trivial <| .head (.running rfl) trivial <|
    .head (.send (.lock rfl)) trivial <|
    .head (.send (.store (Prod.ext ((MsgRing.held_send _ _).1 (by decide)).1 rfl))) trivial <|
    .head (.send (.wakeNone rfl)) trivial <| .head (.send .unlock) trivial <| .refl _ _
  have htask := hcalled.task (g := 0) <|
    .head (.lock (by decide) (by decide)) trivial <| .head .setPlayer trivial <|
    .head .createPlayer trivial <| .head (.running rfl) trivial <| .refl _ _
  have hwaits := htask.control <|
    .head (.end .call) nofun <| .head (.end (.lock rfl)) nofun <|
    .head (.end (.notEnded (by decide))) nofun <| .head (.end (.running rfl)) nofun <|
    .head (.end .store) nofun <| .refl _ _
  obtain ⟨_, _, _, hreturns, _⟩ := audio_end_finishes hwaits
  obtain ⟨c', hcomes, hjoined, hidle⟩ := hreturns rfl rfl
  obtain ⟨htaken, _, _, _, hended⟩ := audio_end_finishes (ComesTo.inSession hwaits hcomes)
  exact ⟨_, c', hwaits, rfl, rfl, rfl, hcomes, hidle, hjoined, htaken, hended hjoined⟩

end BatteryInfo.Audio
