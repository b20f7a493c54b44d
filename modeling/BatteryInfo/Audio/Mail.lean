import BatteryInfo.Audio.Exclusion

/-!
# The mail of a session

`Audio_end` stores `Ending`, offers an end message to the queue, ignores whether the queue took
it, and joins `TaskLoop`. The end message may be refused, so that `TaskLoop` ends rests on three
facts (`mail_outline`): a queue that was offered the end message is not empty while `TaskLoop`
may still wait for a message, `TaskLoop` takes no second message without looking at `MyState`
again, and it sleeps on a non-empty queue only while a signal is on its way.
-/

namespace BatteryInfo.Audio

open Concurrent

/-- The part of the shared state that decides whether `TaskLoop` gets a message. -/
structure Mail where
  held : List Message
  sleepers : Finset Tid
  signalDue : Option Tid
  endStored : Bool
  endSent : Bool
  takenAfterEnd : Nat

/-- The mail of a shared state. -/
def Shared.mail (sh : Shared) : Mail where
  held := sh.queue.held
  sleepers := sh.sleepers
  signalDue := sh.hist.signalDue
  endStored := sh.hist.endStored
  endSent := sh.hist.endSent
  takenAfterEnd := sh.hist.takenAfterEnd

namespace Mail

/-- What holds of the mail throughout a session. -/
structure Inv (m : Mail) : Prop where
  sleepers : ∀ t ∈ m.sleepers, t = .task 0
  endSent : m.endSent = true → m.endStored = true
  taken : m.takenAfterEnd ≤ 1
  takenNone : m.endStored = false → m.takenAfterEnd = 0

/-- What `TaskLoop` claims where it waits for a message. -/
def TaskAt (g : Nat) : TaskPc → Mail → Prop
  | .get, m => m.takenAfterEnd = 0 ∧ (m.endSent = true → m.held ≠ [])
  | .wait, m => m.takenAfterEnd = 0 ∧ m.endSent = false ∧ m.held = []
  | .asleep, m => m.takenAfterEnd = 0 ∧ (m.endSent = true → m.held ≠ []) ∧
      (.task g ∈ m.sleepers → m.held = [] ∨ m.signalDue ≠ none)
  | _, _ => True

/-- What `Audio_end` claims once it has offered its message. -/
def ControlAt : ControlPc → Mail → Prop
  | .endSend .signal, m | .endSend (.unlock _), m | .endSend (.ret _), m | .endJoin, m =>
      m.endSent = true
  | _, _ => True

/-- What another thread may do to the mail while `TaskLoop` waits for a message. -/
structure Change (m m' : Mail) : Prop where
  taken : m'.takenAfterEnd = m.takenAfterEnd
  endSent : m.endSent = true → m'.endSent = true
  offered : m'.endSent = true → m.endSent = true ∨ m'.held ≠ []
  held : m.held ≠ [] → m'.held ≠ []
  asleep : ∀ t ∈ m'.sleepers, t ∈ m.sleepers ∧ (m.signalDue ≠ none → m'.signalDue ≠ none) ∧
    (m'.held = m.held ∨ m'.signalDue ≠ none)

theorem Change.refl (m : Mail) : Change m m where
  taken := rfl
  endSent := id
  offered := .inl
  held := id
  asleep := fun _ h => ⟨h, id, .inl rfl⟩

/-- What each thread relies on at its place. After a failed `GetMessage`, `TaskLoop` relies on
nobody else coming to the queue. -/
def Rely : (t : Tid) → Local t → Mail → Mail → Prop
  | .control, _, m, m' => m.endSent = true → m'.endSent = true
  | .task _, .wait, m, m' =>
      m'.takenAfterEnd = m.takenAfterEnd ∧ m'.endSent = m.endSent ∧ m'.held = m.held
  | .task _, .get, m, m' | .task _, .asleep, m, m' => Change m m'
  | _, _, _, _ => True

theorem Rely.refl (t : Tid) (l : Local t) (m : Mail) : Rely t l m m := by
  cases t with
  | control => exact id
  | task g =>
      cases l with
      | wait => exact ⟨rfl, rfl, rfl⟩
      | get | asleep => exact Change.refl m
      | _ => trivial
  | _ => trivial

/-- A thread that does not hold `MsgMutex` can live with any such change. -/
theorem Change.rely {t : Tid} {l : Local t} {m m' : Mail} (h : Change m m')
    (hfree : .msgMutex ∉ heldBy t l) : Rely t l m m' := by
  cases t with
  | control => exact h.endSent
  | task g =>
      cases l with
      | wait => exact absurd (by simp [heldBy, TaskPc.held]) hfree
      | get | asleep => exact h
      | _ => trivial
  | _ => trivial

/-- `TaskLoop` is where it waits for a message. -/
def Waits : (t : Tid) → Local t → Prop
  | .task _, .get | .task _, .wait | .task _, .asleep => True
  | _, _ => False

/-- A thread that does not wait for a message minds only that `endSent` stays. -/
theorem Rely.of_not_waits {t : Tid} {l : Local t} {m m' : Mail} (h : ¬ Waits t l)
    (hsent : m.endSent = true → m'.endSent = true) : Rely t l m m' := by
  cases t with
  | control => exact hsent
  | task g =>
      cases l with
      | get | wait | asleep => exact absurd trivial h
      | _ => trivial
  | _ => trivial

/-- Only a `TaskLoop` that is in its loop waits for a message. -/
theorem Waits.live {c : Service} {t : Tid} (h : Waits t (c.locals t))
    (hphase : phaseOutline.Holds c) : ∃ g, t = .task g ∧ c.shared.phase.TaskLive g := by
  cases t with
  | task g =>
      have hat : Phase.TaskAt g (c.locals (.task g)) c.shared.phase := hphase.2 (.task g)
      refine ⟨g, rfl, ?_⟩
      generalize c.locals (.task g) = pc at h hat
      cases pc with
      | get | wait | asleep => exact hat.1
      | _ => exact h.elim
  | _ => exact h.elim

/-! ## What each step does to the mail -/

variable {sh sh' : Shared}

/-- `SendMessage`: a message enters the queue and makes a signal due, or the queue is full. -/
theorem send_step {t : Tid} {msg : Message} {request : Option Request} {pc pc' : SendPc}
    (hinv : sh.mail.Inv) (hstep : SendStep t msg request sh pc sh' pc')
    (hend : request = none → sh.hist.endStored = true) :
    sh'.mail.Inv ∧ Change sh.mail sh'.mail ∧ (.msgMutex ∉ pc.held → sh'.mail = sh.mail) := by
  have hsent : (sh.hist.endSent || request.isNone) = true → sh.hist.endStored = true := by
    simp only [Bool.or_eq_true, Option.isNone_iff_eq_none]
    exact fun h => h.elim hinv.endSent hend
  cases hstep with
  | lock _ => exact ⟨hinv, .refl _, fun _ => rfl⟩
  | lockError _ => exact ⟨hinv, .refl _, fun _ => rfl⟩
  | unlock => exact ⟨hinv, .refl _, fun _ => rfl⟩
  | @store q hsend =>
      have hheld : q.held ≠ [] := by simp [MsgRing.send_none hsend]
      refine ⟨{ hinv with endSent := hsent }, ?_, fun h => absurd (by simp [SendPc.held]) h⟩
      exact
        { taken := rfl
          endSent := fun h => by simp_all [Shared.mail, History.store]
          offered := fun _ => .inr hheld
          held := fun _ => hheld
          asleep := fun _ h => ⟨h, fun _ => Option.some_ne_none t, .inr (Option.some_ne_none t)⟩ }
  | refuse hsend he =>
      obtain ⟨_, rfl, hfull⟩ := MsgRing.send_error hsend he
      have hheld : sh.queue.held ≠ [] := by
        intro h
        simp [h, msgQLength] at hfull
      refine ⟨{ hinv with endSent := hsent }, ?_, fun h => absurd (by simp [SendPc.held]) h⟩
      exact { Change.refl sh.mail with
        endSent := fun h => by simp_all [Shared.mail, History.refuse]
        offered := fun _ => .inr hheld }
  | @wake v hv =>
      refine ⟨{ hinv with sleepers := fun t ht => hinv.sleepers t (Finset.mem_of_mem_erase ht) },
        { Change.refl sh.mail with asleep := fun t ht => ?_ },
        fun h => absurd (by simp [SendPc.held]) h⟩
      -- the one sleeper is the one that wakes
      obtain ⟨hne, ht⟩ := Finset.mem_erase.1 ht
      exact absurd ((hinv.sleepers t ht).trans (hinv.sleepers v hv).symm) hne
  | wakeNone hnone =>
      refine ⟨{ hinv with }, { Change.refl sh.mail with asleep := fun t ht => ?_ },
        fun h => absurd (by simp [SendPc.held]) h⟩
      have ht : t ∈ sh.sleepers := ht
      simp [hnone] at ht

/-- `SendMessage` disturbs nobody, as only one thread at a time comes to the queue. -/
theorem send_rely {t u : Tid} {l : Local u} {msg : Message} {request : Option Request}
    {pc pc' : SendPc} (hinv : sh.mail.Inv) (hstep : SendStep t msg request sh pc sh' pc')
    (hend : request = none → sh.hist.endStored = true)
    (hexcl : .msgMutex ∈ pc.held → .msgMutex ∉ heldBy u l) : Rely u l sh.mail sh'.mail := by
  obtain ⟨_, hchange, hsame⟩ := send_step hinv hstep hend
  by_cases hheld : .msgMutex ∈ pc.held
  · exact hchange.rely (hexcl hheld)
  · rw [hsame hheld]
    exact .refl u l _

/-- Storing `Ending` comes to no thread's notice here. -/
theorem Rely.endStored (t : Tid) (l : Local t) (m : Mail) (b : Bool) :
    Rely t l m { m with endStored := b } := by
  cases t with
  | control => exact id
  | task g =>
      cases l with
      | wait => exact ⟨rfl, rfl, rfl⟩
      | get | asleep => exact { Change.refl m with }
      | _ => trivial
  | _ => trivial

/-- The steps of `Audio_end`. It clears the queue when no `TaskLoop` waits any more. -/
theorem end_step {pc pc' : ControlPc} (hinv : sh.mail.Inv) (hat : ControlAt pc sh.mail)
    (hphase : Phase.ControlAt pc sh.phase) (hstep : EndStep sh pc sh' pc') :
    sh'.mail.Inv ∧ ControlAt pc' sh'.mail ∧
      ∀ u (l : Local u), (.msgMutex ∈ pc.held → .msgMutex ∉ heldBy u l) →
        (∀ e, pc = .endClear e → ¬ Waits u l) → Rely u l sh.mail sh'.mail := by
  cases hstep with
  | store =>
      refine ⟨{ hinv with endSent := fun _ => rfl, takenNone := ?_ }, trivial,
        fun u l _ _ => .endStored u l _ true⟩
      intro h
      exact absurd h (by simp [Shared.mail])
  | @send _ pc pc' hsend =>
      obtain ⟨_, hmutex, hend⟩ := hphase
      refine ⟨(send_step hinv hsend fun _ => hend).1, ?_, fun u l hexcl _ => ?_⟩
      · cases hsend with
        | lockError h => exact absurd (hmutex.symm.trans h) (by simp)
        | store _ => exact Bool.or_true _
        | refuse _ _ => exact Bool.or_true _
        | _ => exact hat
      · refine send_rely hinv hsend (fun _ => hend) fun hheld => hexcl ?_
        exact List.mem_cons_of_mem _ hheld
  | clear => exact ⟨{ hinv with }, trivial, fun u l _ hnobody => .of_not_waits (hnobody _ rfl) id⟩
  | sent => exact ⟨hinv, hat, fun u l _ _ => .refl u l _⟩
  | _ => exact ⟨hinv, trivial, fun u l _ _ => .refl u l _⟩

/-- The steps of the controlling thread. -/
theorem control_step {pc pc' : ControlPc} (hinv : sh.mail.Inv) (hat : ControlAt pc sh.mail)
    (hphase : Phase.ControlAt pc sh.phase) (hstep : ControlStep sh pc sh' pc')
    (hinit : pc' ≠ .initLock) :
    sh'.mail.Inv ∧ ControlAt pc' sh'.mail ∧
      ∀ u (l : Local u), (.msgMutex ∈ pc.held → .msgMutex ∉ heldBy u l) →
        (∀ e, pc = .endClear e → ¬ Waits u l) → Rely u l sh.mail sh'.mail := by
  cases hstep with
  | init hstep => exact (Phase.no_init hphase hstep hinit).elim
  | start hstep => cases hstep <;> exact ⟨hinv, trivial, fun u l _ _ => .refl u l _⟩
  | «end» hstep => exact end_step hinv hat hphase hstep

/-- The steps of `Audio_PlayTrack`. -/
theorem caller_step {i : Nat} {l l' : Caller} (hinv : sh.mail.Inv)
    (hstep : CallerStep i sh l sh' l') :
    sh'.mail.Inv ∧
      ∀ u (lu : Local u), (.msgMutex ∈ l.pc.held → .msgMutex ∉ heldBy u lu) →
        Rely u lu sh.mail sh'.mail := by
  cases hstep with
  | send hsend =>
      exact ⟨(send_step hinv hsend (by simp)).1,
        fun u lu hexcl => send_rely hinv hsend (by simp) hexcl⟩
  | _ => exact ⟨hinv, fun u lu _ => .refl u lu _⟩

/-- The player has nothing to do with the mail. -/
theorem player_step {g : Nat} {l l' : Player} (hstep : PlayerStep g sh l sh' l') :
    sh'.mail = sh.mail := by
  cases hstep <;> rfl

/-- The steps of `TaskLoop`. They leave `endSent` alone. -/
theorem task_step {g : Nat} {pc pc' : TaskPc} (hinv : sh.mail.Inv) (hat : TaskAt g pc sh.mail)
    (hphase : sh.phase.Inv) (hlive : Waits (.task g) pc → g = 0)
    (hstep : TaskStep g sh pc sh' pc') :
    sh'.mail.Inv ∧ TaskAt g pc' sh'.mail ∧ sh'.mail.endSent = sh.mail.endSent ∧
      (¬ Waits (.task g) pc → sh'.mail = sh.mail) := by
  cases hstep with
  | running hstate =>
      obtain ⟨_, hend, _⟩ := hphase.running hstate
      refine ⟨hinv, ⟨hinv.takenNone hend, fun hsent => ?_⟩, rfl, fun _ => rfl⟩
      exact absurd (hend.symm.trans (hinv.endSent hsent)) (by simp)
  | @got m q hget =>
      obtain ⟨hzero, _⟩ := hat
      have hzero : sh.hist.takenAfterEnd = 0 := hzero
      refine ⟨{ hinv with taken := ?_, takenNone := ?_ }, trivial, rfl,
        fun h => absurd trivial h⟩
      · show (if sh.hist.endStored then sh.hist.takenAfterEnd + 1 else _) ≤ 1
        rw [hzero]
        split <;> decide
      · intro hend
        have hend : sh.hist.endStored = false := hend
        show (if sh.hist.endStored then sh.hist.takenAfterEnd + 1 else _) = 0
        simp [hend, hzero]
  | gotNone hget =>
      obtain ⟨hempty, rfl⟩ := MsgRing.get_none hget
      obtain ⟨hzero, hsent⟩ := hat
      refine ⟨hinv, ⟨hzero, ?_, hempty⟩, rfl, fun _ => rfl⟩
      cases hsent' : sh.mail.endSent with
      | false => rfl
      | true => exact absurd hempty (hsent hsent')
  | wait =>
      obtain ⟨hzero, hsent, hempty⟩ := hat
      refine ⟨{ hinv with sleepers := ?_ }, ⟨hzero, ?_, fun _ => .inl hempty⟩, rfl,
        fun h => absurd trivial h⟩
      · intro t ht
        rcases Finset.mem_insert.1 ht with rfl | ht
        · rw [hlive trivial]
        · exact hinv.sleepers t ht
      · intro h
        exact absurd (hsent.symm.trans h) (by simp)
  | spurious _ =>
      obtain ⟨hzero, hsent, hsleep⟩ := hat
      refine ⟨{ hinv with sleepers := fun t ht => hinv.sleepers t (Finset.mem_of_mem_erase ht) },
        ⟨hzero, hsent, fun h => ?_⟩, rfl, fun h => absurd trivial h⟩
      exact absurd h (Finset.notMem_erase _ _)
  | wake _ _ => exact ⟨hinv, ⟨hat.1, hat.2.1⟩, rfl, fun _ => rfl⟩
  | _ => exact ⟨hinv, trivial, rfl, fun _ => rfl⟩

/-! ## The claims are stable -/

variable {m m' : Mail}

theorem task_stable {g : Nat} {pc : TaskPc} (hat : TaskAt g pc m) (hrely : Rely (.task g) pc m m') :
    TaskAt g pc m' := by
  cases pc with
  | get =>
      obtain ⟨hzero, hsent⟩ := hat
      have hrely : Change m m' := hrely
      exact ⟨hrely.taken.trans hzero, fun h => (hrely.offered h).elim (hrely.held ∘ hsent) id⟩
  | wait =>
      obtain ⟨hzero, hsent, hempty⟩ := hat
      obtain ⟨htaken, hsent', hheld⟩ := hrely
      exact ⟨htaken.trans hzero, hsent'.trans hsent, hheld.trans hempty⟩
  | asleep =>
      obtain ⟨hzero, hsent, hsleep⟩ := hat
      have hrely : Change m m' := hrely
      refine ⟨hrely.taken.trans hzero, fun h => (hrely.offered h).elim (hrely.held ∘ hsent) id,
        fun h => ?_⟩
      obtain ⟨hmem, hdue, hheld⟩ := hrely.asleep _ h
      rcases hsleep hmem with hempty | hsignal
      · exact hheld.imp_left fun h => h.trans hempty
      · exact .inr (hdue hsignal)
  | _ => trivial

theorem control_stable {pc : ControlPc} (hat : ControlAt pc m) (hrely : Rely .control pc m m') :
    ControlAt pc m' := by
  cases pc with
  | endSend pc =>
      cases pc with
      | signal | unlock _ | ret _ => exact hrely hat
      | _ => trivial
  | endJoin => exact hrely hat
  | _ => trivial

end Mail

/-! ## The outline -/

/-- What each thread claims about the mail. -/
def MailAt : (t : Tid) → Local t → Mail → Prop
  | .control, pc => Mail.ControlAt pc
  | .task g, pc => Mail.TaskAt g pc
  | _, _ => fun _ => True

/-- The outline of the mail. -/
def mailOutline : Outline Shared Local where
  Inv sh := sh.mail.Inv
  At t l sh := MailAt t l sh.mail

theorem SessionStart.mail {c : Service} (h : SessionStart c) : mailOutline.Holds c := by
  obtain ⟨session, hhist⟩ := h.hist
  refine ⟨?_, ?_⟩
  · show c.shared.mail.Inv
    constructor <;> simp [Shared.mail, h.sleepers, hhist, History.begin]
  · intro t
    cases t with
    | control =>
        show Mail.ControlAt (c.locals .control) _
        rw [h.control]
        trivial
    | task g =>
        show Mail.TaskAt g (c.locals (.task g)) _
        rw [h.task]
        trivial
    | _ => trivial

/-- The outline of the mail holds in every configuration of a session. -/
theorem mail_outline {c : Service} (h : InSession c) : mailOutline.Holds c := by
  refine h.outline mailOutline (fun t l sh sh' => Mail.Rely t l sh.mail sh'.mail)
    (fun _ h => h.mail) ?_ ?_
  · rintro c t sh l hreach ⟨hinv, hat⟩ hstep hallowed
    have hphase := phase_outline hreach
    -- who else comes to the queue while t holds its mutex
    have hexcl : ∀ u, u ≠ t → .msgMutex ∈ heldBy t (c.locals t) →
        .msgMutex ∉ heldBy u (c.locals u) :=
      fun u hut ht hu => hut (held_unique hreach hu ht)
    cases t with
    | control =>
        obtain ⟨hinv', hat', hrely⟩ :=
          Mail.control_step hinv (hat .control) (hphase.2 .control) hstep
            (by simpa using hallowed rfl)
        refine ⟨hinv', hat', fun u hu => hrely u _ (hexcl u hu) ?_⟩
        intro e hclear hwaits
        obtain ⟨g, rfl, hspawned, hleft, _⟩ := hwaits.live hphase
        have hgone : Phase.ControlAt (c.locals .control) c.shared.phase := hphase.2 .control
        rw [hclear] at hgone
        rcases hgone.1 with hgone | hgone
        · exact absurd (hleft.symm.trans hgone) (by simp)
        · exact absurd (hphase.1.task_zero hspawned).2 (by omega)
    | caller i =>
        obtain ⟨hinv', hrely⟩ := Mail.caller_step hinv hstep
        exact ⟨hinv', trivial, fun u hu => hrely u _ (hexcl u hu)⟩
    | task g =>
        have hlive : Mail.Waits (.task g) (c.locals (.task g)) → g = 0 := by
          intro hwaits
          obtain ⟨g', heq, hlive⟩ := hwaits.live hphase
          cases heq
          exact (hphase.1.task_zero hlive.1).1
        obtain ⟨hinv', hat', hsent, hsame⟩ :=
          Mail.task_step hinv (hat (.task g)) hphase.1 hlive hstep
        refine ⟨hinv', hat', fun u hu => ?_⟩
        by_cases hwaits : Mail.Waits (.task g) (c.locals (.task g))
        · refine .of_not_waits ?_ hsent.ge
          intro hwaits'
          obtain ⟨g', rfl, hlive'⟩ := hwaits'.live hphase
          rw [hlive hwaits, (hphase.1.task_zero hlive'.1).1] at hu
          exact hu rfl
        · rw [hsame hwaits]
          exact .refl u _ _
    | player g =>
        have hsame : sh.mail = c.shared.mail := Mail.player_step hstep
        refine ⟨?_, trivial, fun u _ => ?_⟩
        · show sh.mail.Inv
          rw [hsame]
          exact hinv
        · rw [hsame]
          exact .refl u _ _
  · intro t l sh sh' _ _ hat hrely
    cases t with
    | control => exact Mail.control_stable hat hrely
    | task g => exact Mail.task_stable hat hrely
    | _ => trivial

end BatteryInfo.Audio
