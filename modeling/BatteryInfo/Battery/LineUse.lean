import BatteryInfo.Battery.Threads

/-!
# Lines of closed chips

`CloseGPIOs` closes the two chips and clears the pointers to them, but keeps the pointers to
their lines, and those of `power_lines`. As long as no cleanup closes a chip, every pointer
denotes a line of an open chip, whatever the threads do; and the first chip that is closed leaves
a pointer to a line of it (`lines_stay_live`).
-/

namespace BatteryInfo.Battery

open Gpiod Concurrent

/-- Every pointer to a line is `NULL` or denotes a line of an open chip, and no other line was
used. -/
structure LinesLive (s : GpioStatics) : Prop where
  polled : ∀ id l, s.polledLine id = some l → l.chip ∈ s.bus.opened
  power : ∀ id l, s.powerLine id = some l → l.chip ∈ s.bus.opened
  used : s.misused = false

/-- No cleanup comes to close a chip. -/
def closesNoChip : StepCondition Shared Local := fun c t _ =>
  ∀ id, c.locals t = .cleanupClose id → c.shared.chip id = none

/-- The pointer to the line of a signal is to one of the open chip of the signal. -/
def GpioStatics.Paired (s : GpioStatics) (id : LineId) : Prop :=
  ∀ c, s.chip id = some c → ∃ l, s.polledLine id = some l ∧ l.chip = c

theorem GpioStatics.Paired.of_eq {s s' : GpioStatics} {id : LineId} (h : s.Paired id)
    (hchip : s'.chip id = s.chip id) (hpolled : s'.polledLine id = s.polledLine id) :
    s'.Paired id := by
  intro c hc
  rw [hpolled]
  exact h c (hchip ▸ hc)

/-- What holds of all pointers holds of them after a store of one that it holds of. -/
theorem forall_stored {α : Type} {f : LineId → Option α} {P : LineId → α → Prop} {id : LineId}
    {p : Option α} (hf : ∀ i a, f i = some a → P i a) (hp : ∀ a, p = some a → P id a) :
    ∀ i a, Function.update f id p i = some a → P i a :=
  (Function.forall_update_iff f fun i p => ∀ a, p = some a → P i a).2 ⟨hp, fun i _ => hf i⟩

/-! ## The outline -/

/-- What holds throughout. While the lock is free, each chip that is open has its line. -/
structure Inv (sh : Shared) : Prop where
  live : LinesLive sh.toGpioStatics
  chips : ∀ id c, sh.chip id = some c → c ∈ sh.bus.opened
  paired : sh.owner = none → ∀ id, sh.Paired id
  locked : sh.batteryLock = sh.owner.isSome

/-- What thread `t` claims at its place: a pointer that it has loaded is to something open, and
while it holds the lock, the signals that it is done with have their lines. -/
def At (t : Nat) : Pc → Shared → Prop
  | .initOpen id, sh | .initGetLine id, sh =>
      sh.owner = some t ∧ (id = .charging → sh.Paired .inBase)
  | .initRequest id, sh => sh.owner = some t ∧ sh.Paired id ∧ (id = .charging → sh.Paired .inBase)
  | .initUnlock, sh | .cleanupRelease _, sh | .cleanupClose _, sh | .cleanupClear _, sh
  | .cleanupUnlock, sh => sh.owner = some t ∧ ∀ id, sh.Paired id
  | .openGetLine _ c, sh => c ∈ sh.bus.opened
  | .openRequest l, sh | .closeRelease _ l, sh | .readValue l, sh | .pollValue l, sh =>
      l.chip ∈ sh.bus.opened
  | _, _ => True

/-- What other threads may do to a thread: they close nothing, and leave the lock and what it
guards to the thread that has it. -/
structure Rely (t : Nat) (sh sh' : Shared) : Prop where
  opened : ∀ c ∈ sh.bus.opened, c ∈ sh'.bus.opened
  held : sh.owner = some t →
    sh'.owner = some t ∧ sh'.chip = sh.chip ∧ sh'.polledLine = sh.polledLine

theorem Rely.refl (t : Nat) (sh : Shared) : Rely t sh sh :=
  ⟨fun _ h => h, fun h => ⟨h, rfl, rfl⟩⟩

/-- Whoever has the lock, or takes it while it is free, is alone with what it guards. -/
theorem Rely.of_lock {t u : Nat} {sh sh' : Shared} (hut : u ≠ t)
    (hlock : sh.owner = none ∨ sh.owner = some t)
    (hopened : ∀ c ∈ sh.bus.opened, c ∈ sh'.bus.opened) : Rely u sh sh' := by
  refine ⟨hopened, fun hu => ?_⟩
  rcases hlock with hfree | hheld
  · rw [hfree] at hu
    cases hu
  · rw [hheld] at hu
    exact absurd (Option.some.inj hu).symm hut

section Steps

variable {t : Nat} {sh : Shared}

/-- What a step establishes. -/
def Keeps (t : Nat) (sh sh' : Shared) (pc' : Pc) : Prop :=
  Inv sh' ∧ At t pc' sh' ∧ ∀ u, u ≠ t → Rely u sh sh'

/-- What a step leaves alone is still right, and nobody minds. -/
theorem Keeps.same {pc' : Pc} (hinv : Inv sh) (h : At t pc' sh) : Keeps t sh sh pc' :=
  ⟨hinv, h, fun u _ => .refl u sh⟩

/-- A step outside of the lock that leaves alone what it guards. -/
theorem Keeps.outside {pc' : Pc} {f : GpioStatics → GpioStatics} (hinv : Inv sh)
    (hchip : (f sh.toGpioStatics).chip = sh.chip)
    (hpolled : (f sh.toGpioStatics).polledLine = sh.polledLine)
    (hopened : (f sh.toGpioStatics).bus.opened = sh.bus.opened)
    (hlock : (f sh.toGpioStatics).batteryLock = sh.batteryLock)
    (hpower : ∀ id l, (f sh.toGpioStatics).powerLine id = some l → l.chip ∈ sh.bus.opened)
    (hused : (f sh.toGpioStatics).misused = false) (hat : At t pc' (sh.update f)) :
    Keeps t sh (sh.update f) pc' := by
  refine ⟨⟨⟨?_, ?_, hused⟩, ?_, ?_, ?_⟩, hat, fun u _ => ⟨?_, fun hu => ⟨hu, hchip, hpolled⟩⟩⟩
  · intro id l hl
    have hl : (f sh.toGpioStatics).polledLine id = some l := hl
    rw [hpolled] at hl
    show l.chip ∈ (f sh.toGpioStatics).bus.opened
    rw [hopened]
    exact hinv.live.polled id l hl
  · intro id l hl
    show l.chip ∈ (f sh.toGpioStatics).bus.opened
    rw [hopened]
    exact hpower id l hl
  · intro id c hc
    have hc : (f sh.toGpioStatics).chip id = some c := hc
    rw [hchip] at hc
    show c ∈ (f sh.toGpioStatics).bus.opened
    rw [hopened]
    exact hinv.chips id c hc
  · intro hfree id c hc
    have hc : (f sh.toGpioStatics).chip id = some c := hc
    rw [hchip] at hc
    show ∃ l, (f sh.toGpioStatics).polledLine id = some l ∧ l.chip = c
    rw [hpolled]
    exact hinv.paired hfree id c hc
  · exact hlock.trans hinv.locked
  · intro c hc
    show c ∈ (f sh.toGpioStatics).bus.opened
    rw [hopened]
    exact hc

/-- A step of the thread that has the lock, which leaves alone the table. -/
theorem Keeps.inside {pc' : Pc} {f : GpioStatics → GpioStatics} (hinv : Inv sh)
    (hown : sh.owner = some t)
    (hopened : ∀ c ∈ sh.bus.opened, c ∈ (f sh.toGpioStatics).bus.opened)
    (hchips : ∀ id c, (f sh.toGpioStatics).chip id = some c →
      c ∈ (f sh.toGpioStatics).bus.opened)
    (hpolled : ∀ id l, (f sh.toGpioStatics).polledLine id = some l →
      l.chip ∈ (f sh.toGpioStatics).bus.opened)
    (hlock : (f sh.toGpioStatics).batteryLock = sh.batteryLock)
    (hpower : (f sh.toGpioStatics).powerLine = sh.powerLine)
    (hused : (f sh.toGpioStatics).misused = false) (hat : At t pc' (sh.update f)) :
    Keeps t sh (sh.update f) pc' := by
  refine ⟨⟨⟨hpolled, ?_, hused⟩, hchips, ?_, ?_⟩, hat, fun u hut => ?_⟩
  · intro id l hl
    have hl : (f sh.toGpioStatics).powerLine id = some l := hl
    rw [hpower] at hl
    exact hopened _ (hinv.live.power id l hl)
  · intro hfree
    have hfree : sh.owner = none := hfree
    rw [hown] at hfree
    cases hfree
  · exact hlock.trans hinv.locked
  · exact .of_lock hut (.inr hown) hopened

theorem Inv.owner_none (hinv : Inv sh) (hfree : sh.batteryLock = false) : sh.owner = none := by
  rw [hinv.locked] at hfree
  simpa using hfree

theorem Keeps.acquire {pc' : Pc} (hinv : Inv sh) (hfree : sh.batteryLock = false)
    (hat : At t pc' (sh.acquire t)) : Keeps t sh (sh.acquire t) pc' := by
  refine ⟨⟨⟨hinv.live.polled, hinv.live.power, hinv.live.used⟩, hinv.chips, nofun, rfl⟩, hat,
    fun u hut => ?_⟩
  exact .of_lock hut (.inl (hinv.owner_none hfree)) fun _ h => h

theorem Keeps.giveBack (hinv : Inv sh) (hown : sh.owner = some t) (hpaired : ∀ id, sh.Paired id) :
    Keeps t sh sh.giveBack .idle :=
  ⟨⟨⟨hinv.live.polled, hinv.live.power, hinv.live.used⟩, hinv.chips, fun _ => hpaired, rfl⟩,
    trivial, fun _ hut => .of_lock hut (.inr hown) fun _ h => h⟩

/-- The chip of a signal is opened, and the pair of the other signal stays. -/
theorem Keeps.initOpened {id : LineId} (hinv : Inv sh) (hat : At t (.initOpen id) sh) :
    Keeps t sh (sh.update (.openChip id)) (.initGetLine id) := by
  have hopened : ∀ c ∈ sh.bus.opened, c ∈ (sh.bus.opening id.portName).opened :=
    fun _ hc => List.mem_cons_of_mem _ hc
  refine .inside hinv hat.1 ?_ ?_ ?_ ?_ ?_ ?_ ⟨hat.1, fun hid => ?_⟩
  · simpa using hopened
  · rw [GpioStatics.chip_openChip, GpioStatics.bus_openChip]
    refine forall_stored (fun i c hc => hopened c (hinv.chips i c hc)) ?_
    rintro c ⟨rfl⟩
    exact List.mem_cons_self
  · intro i l hl
    rw [GpioStatics.polledLine_openChip] at hl
    rw [GpioStatics.bus_openChip]
    exact hopened _ (hinv.live.polled i l hl)
  · simp
  · simp
  · simpa using hinv.live.used
  · subst hid
    exact (hat.2 rfl).of_eq rfl rfl

/-- A chip that is not there leaves its pointer `NULL`. -/
theorem Keeps.clearChip {id : LineId} {pc' : Pc} (hinv : Inv sh) (hown : sh.owner = some t)
    (hat : At t pc' (sh.update (.setChip id none))) :
    Keeps t sh (sh.update (.setChip id none)) pc' := by
  refine .inside hinv hown ?_ ?_ ?_ ?_ ?_ ?_ hat
  · simp
  · rw [GpioStatics.chip_setChip, GpioStatics.bus_setChip]
    exact forall_stored hinv.chips nofun
  · intro i l hl
    simpa using hinv.live.polled i l (by simpa using hl)
  · simp
  · simp
  · simpa using hinv.live.used

/-- A line is taken from a chip that is open. -/
theorem Keeps.setPolledLine {id : LineId} {pc' : Pc} {l : Option Line} (hinv : Inv sh)
    (hown : sh.owner = some t) (hl : ∀ m, l = some m → m.chip ∈ sh.bus.opened)
    (hat : At t pc' (sh.update (.setPolledLine id l))) :
    Keeps t sh (sh.update (.setPolledLine id l)) pc' := by
  refine .inside hinv hown ?_ ?_ ?_ ?_ ?_ ?_ hat
  · simp
  · intro i c hc
    simpa using hinv.chips i c (by simpa using hc)
  · rw [GpioStatics.polledLine_setPolledLine, GpioStatics.bus_setPolledLine]
    exact forall_stored hinv.live.polled hl
  · simp
  · simp
  · simpa using hinv.live.used

theorem Keeps.initFound {id : LineId} {c : Chip} (hinv : Inv sh) (hat : At t (.initGetLine id) sh)
    (hc : sh.chip id = some c) :
    Keeps t sh (sh.update (.setPolledLine id (some ⟨c, id.pin⟩))) (.initRequest id) := by
  refine .setPolledLine hinv hat.1 ?_ ⟨hat.1, fun c' hc' => ?_, fun hid => ?_⟩
  · rintro m ⟨rfl⟩
    exact hinv.chips id c hc
  · have hc' : sh.chip id = some c' := by simpa [Shared.update] using hc'
    rw [hc] at hc'
    cases hc'
    exact ⟨⟨c, id.pin⟩, by simp [Shared.update], rfl⟩
  · subst hid
    exact (hat.2 rfl).of_eq rfl rfl

/-- A line of an open chip is requested. -/
theorem Keeps.requestLine {l : Line} {ok : Bool} {pc' : Pc} (hinv : Inv sh)
    (hl : l.chip ∈ sh.bus.opened)
    (hat : At t pc' (sh.update fun s => (s.requestLine l ok).2)) :
    Keeps t sh (sh.update fun s => (s.requestLine l ok).2) pc' := by
  refine .outside hinv rfl rfl ?_ rfl ?_ ?_ hat
  · exact GpioStatics.opened_requestLine
  · exact hinv.live.power
  · exact (GpioStatics.misused_requestLine hl).trans hinv.live.used

/-- A line of an open chip is released. -/
theorem Keeps.release {l : Line} {pc' : Pc} (hinv : Inv sh) (hl : l.chip ∈ sh.bus.opened)
    (hat : At t pc' (sh.update (.release l))) : Keeps t sh (sh.update (.release l)) pc' :=
  .outside hinv rfl rfl rfl rfl hinv.live.power
    ((GpioStatics.misused_release hl).trans hinv.live.used) hat

/-- An entry of the table is cleared or set to a line of an open chip. -/
theorem Keeps.setPowerLine {id : LineId} {l : Option Line} {pc' : Pc} (hinv : Inv sh)
    (hl : ∀ m, l = some m → m.chip ∈ sh.bus.opened)
    (hat : At t pc' (sh.update (.setPowerLine id l))) :
    Keeps t sh (sh.update (.setPowerLine id l)) pc' := by
  refine .outside hinv rfl rfl rfl rfl ?_ hinv.live.used hat
  show ∀ i m, Function.update sh.powerLine id l i = some m → m.chip ∈ sh.bus.opened
  exact forall_stored hinv.live.power hl

theorem Keeps.using {l : Line} (hinv : Inv sh) (hl : l.chip ∈ sh.bus.opened) :
    Keeps t sh (sh.update (.using · l)) .idle := by
  have hsame : sh.update (.using · l) = sh := by
    show (⟨sh.toGpioStatics.using l, sh.owner⟩ : Shared) = sh
    rw [GpioStatics.using_eq hl]
  rw [hsame]
  exact .same hinv trivial

/-- What each step does if no cleanup closes a chip by it. -/
theorem step_keeps {pc pc' : Pc} {sh' : Shared} (hinv : Inv sh) (hat : At t pc sh)
    (hstep : Step t sh pc sh' pc') (hopen : ∀ id, pc = .cleanupClose id → sh.chip id = none) :
    Keeps t sh sh' pc' := by
  cases hstep with
  | initLock hfree => exact .acquire hinv hfree ⟨rfl, nofun⟩
  | initOpened => exact .initOpened hinv hat
  | initNotOpened => exact .clearChip hinv hat.1 trivial
  | initFound hc => exact .initFound hinv hat hc
  | initNotFound => exact .setPolledLine hinv hat.1 nofun trivial
  | @initRequested id l ok s hl hrequest =>
      obtain rfl : s = (sh.requestLine l ok).2 := by rw [hrequest]
      refine .requestLine hinv (hinv.live.polled id l hl) ?_
      cases id with
      | inBase => exact ⟨hat.1, fun _ => hat.2.1⟩
      | charging =>
          refine ⟨hat.1, fun i => ?_⟩
          cases i with
          | inBase => exact hat.2.2 rfl
          | charging => exact hat.2.1
  | @initNotRequested id l ok s hl hrequest =>
      obtain rfl : s = (sh.requestLine l ok).2 := by rw [hrequest]
      exact .requestLine hinv (hinv.live.polled id l hl) trivial
  | initUnlock => exact .giveBack hinv hat.1 hat.2
  | cleanupLock hfree =>
      exact .acquire hinv hfree ⟨rfl, hinv.paired (hinv.owner_none hfree)⟩
  | @cleanupRelease id =>
      cases hl : sh.polledLine id with
      | none =>
          have hsame : sh.update (.releasePolled id) = sh := by
            simp [Shared.update, GpioStatics.releasePolled, hl]
          rw [hsame]
          exact .same hinv hat
      | some l =>
          have hrelease : sh.update (.releasePolled id) = sh.update (.release l) := by
            simp [Shared.update, GpioStatics.releasePolled, hl]
          rw [hrelease]
          exact .release hinv (hinv.live.polled id l hl) hat
  | @cleanupNoChip id =>
      refine .same hinv ?_
      cases id with
      | inBase => exact hat
      | charging => exact hat
  | @cleanupClose id c hc =>
      rw [hopen id rfl] at hc
      cases hc
  | @cleanupClear id =>
      refine .clearChip hinv hat.1 ?_
      have hpaired : ∀ i, (sh.setChip id none).Paired i := by
        unfold GpioStatics.Paired
        rw [GpioStatics.chip_setChip, GpioStatics.polledLine_setChip]
        exact forall_stored hat.2 nofun
      cases id with
      | inBase => exact ⟨hat.1, hpaired⟩
      | charging => exact ⟨hat.1, hpaired⟩
  | cleanupUnlock => exact .giveBack hinv hat.1 hat.2
  | @openLoadChip _ c hc => exact .same hinv (hinv.chips .inBase c hc)
  | openFound =>
      refine .setPowerLine hinv ?_ trivial
      rintro m ⟨rfl⟩
      exact hat
  | openNotFound => exact .setPowerLine hinv nofun trivial
  | @openLoadLine id l hl => exact .same hinv (hinv.live.power id l hl)
  | openRequest => exact .requestLine hinv hat trivial
  | @closeLoad id l hl => exact .same hinv (hinv.live.power id l hl)
  | closeRelease => exact .release hinv hat trivial
  | closeStore => exact .setPowerLine hinv nofun trivial
  | callRead gpio =>
      refine .same hinv ?_
      unfold readPc
      split
      · trivial
      · split <;> trivial
  | @readLoad id l hl => exact .same hinv (hinv.live.power id l hl)
  | readValue => exact .using hinv hat
  | @pollLoad id l hl => exact .same hinv (hinv.live.polled id l hl)
  | pollValue => exact .using hinv hat
  | _ => exact .same hinv trivial

end Steps

/-- What a thread claims does not depend on the others. -/
theorem at_stable {t : Nat} {pc : Pc} {sh sh' : Shared} (hat : At t pc sh)
    (hrely : Rely t sh sh') : At t pc sh' := by
  have hpaired : ∀ id, sh.owner = some t → sh.Paired id → sh'.Paired id := by
    intro id hown h
    obtain ⟨_, hchip, hpolled⟩ := hrely.held hown
    exact h.of_eq (congrFun hchip id) (congrFun hpolled id)
  cases pc with
  | initOpen id | initGetLine id =>
      exact ⟨(hrely.held hat.1).1, fun hid => hpaired _ hat.1 (hat.2 hid)⟩
  | initRequest id =>
      exact ⟨(hrely.held hat.1).1, hpaired _ hat.1 hat.2.1,
        fun hid => hpaired _ hat.1 (hat.2.2 hid)⟩
  | initUnlock | cleanupRelease | cleanupClose | cleanupClear | cleanupUnlock =>
      exact ⟨(hrely.held hat.1).1, fun id => hpaired id hat.1 (hat.2 id)⟩
  | openGetLine id c => exact hrely.opened _ hat
  | openRequest l | closeRelease id l | readValue l | pollValue l => exact hrely.opened _ hat
  | _ => trivial

/-- The outline of the threads. -/
def lineUse : Outline Shared Local where
  Inv := Inv
  At := At

theorem lineUse_holds (bus : Bus) {c : Config Shared Local}
    (h : threads.Reach (· = started bus) closesNoChip c) : lineUse.Holds c := by
  refine h.outline lineUse (fun t _ => Rely t) ?_ ?_ ?_
  · rintro c rfl
    refine ⟨⟨⟨?_, nofun, rfl⟩, ?_, fun _ id => ?_, rfl⟩, fun t => trivial⟩
    · intro id l hl
      cases id <;> cases hl
    · intro id c hc
      cases id <;> cases hc
    · intro c hc
      cases id <;> cases hc
  · intro c t sh pc _ hholds hstep hallowed
    exact step_keeps hholds.1 (hholds.2 t) hstep hallowed
  · intro t pc sh sh' _ _ hat hrely
    exact at_stable hat hrely

/-- From the start of the program, and whatever libgpiod returns, every pointer to a line is to
one of an open chip as long as no cleanup closes a chip; and a further step keeps it so exactly
if it closes none. -/
theorem lines_stay_live (bus : Bus) {c : Config Shared Local}
    (h : threads.Reach (· = started bus) closesNoChip c) :
    LinesLive c.shared.toGpioStatics ∧
    ∀ t sh pc, threads.Step t c.shared (c.locals t) sh pc →
      (LinesLive sh.toGpioStatics ↔ closesNoChip c t (c.move t sh pc)) := by
  have hholds := lineUse_holds bus h
  refine ⟨hholds.1.live, fun t sh pc hstep => ⟨fun hlive id hclose => ?_, fun hallowed => ?_⟩⟩
  · have hat := hholds.2 t
    have hstep : Step t c.shared (c.locals t) sh pc := hstep
    rw [hclose] at hat hstep
    by_contra hopen
    obtain ⟨ch, hch⟩ := Option.ne_none_iff_exists'.1 hopen
    -- the line of the chip keeps its pointer
    obtain ⟨l, hl, hchip⟩ := hat.2 id ch hch
    cases hstep with
    | cleanupNoChip hnone => exact hopen hnone
    | cleanupClose hc =>
        rw [hch] at hc
        cases hc
        have hmem := hlive.polled id l hl
        rw [hchip] at hmem
        exact (Bus.mem_opened_chipClose.1 hmem).2 rfl
  · exact (lineUse_holds bus (.step h hstep hallowed)).1.live

/-- The statics as a `Battery_Init` in which everything works leaves them. -/
def lineUseInited : GpioStatics :=
  LineCall.step (.initial .empty) (.init gpiosWork)

theorem lines_stay_live_inited :
    ∃ c, threads.Reach (· = started .empty) closesNoChip c ∧
      c.shared.toGpioStatics = lineUseInited ∧ LinesLive c.shared.toGpioStatics := by
  have hstart : threads.Reach (· = started .empty) closesNoChip (started .empty) := .start rfl
  have hinit : (GpioStatics.initial .empty).batteryInit gpiosWork = some (0, lineUseInited) := rfl
  have hrun : ∃ owner, ThreadRun (threads.Step 0) (fun pc _ => ∀ id, pc ≠ Pc.cleanupClose id)
      (started .empty).shared .idle ⟨lineUseInited, owner⟩ .idle := init_run (fun _ _ h => h) hinit
  obtain ⟨owner, hrun⟩ := hrun
  have hreach := hstart.thread (fun c sh pc hok id hclose => absurd hclose (hok id)) hrun
  exact ⟨_, hreach, rfl, (lines_stay_live .empty hreach).1⟩

/-- After a `Battery_Init` and a cleanup the pointer to the dock line is to one of a closed chip,
and a second cleanup releases it. -/
theorem cleanup_leaves_line :
    (∃ c, threads.Reach (· = started .empty) anyStep c ∧ c.locals 0 = .idle ∧
      ¬ LinesLive c.shared.toGpioStatics) ∧
    ∃ c, threads.Reach (· = started .empty) anyStep c ∧ c.shared.misused = true := by
  constructor
  · obtain ⟨c, hreach, hidle, hstatics⟩ := calls_reached .empty [.init gpiosWork, .cleanup]
    refine ⟨c, hreach, hidle, fun hlive => ?_⟩
    rw [hstatics] at hlive
    have hopen := hlive.polled .inBase ⟨⟨0, inDockPortName⟩, inDockPin⟩ rfl
    revert hopen
    decide
  · obtain ⟨c, hreach, _, hstatics⟩ := calls_reached .empty [.init gpiosWork, .cleanup, .cleanup]
    refine ⟨c, hreach, ?_⟩
    rw [hstatics]
    rfl

end BatteryInfo.Battery
