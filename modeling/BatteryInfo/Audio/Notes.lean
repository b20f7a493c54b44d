import BatteryInfo.Audio.Lifetime
import BatteryInfo.Speaker.Period

/-!
# The pitches that are played

In every run of the program the player passes nothing to `Speaker_PlayPitch` but the notes of the
tables and silence. None of the notes is a frequency for which the computation of the period in
doubles is off, so that every pitch is played with its exact period (`played_periods_exact`).
-/

namespace BatteryInfo.Audio

open Concurrent

/-- Silence, or a note of a table. -/
def IsNote (f : UInt16) : Prop :=
  f = 0 ∨ ∃ id track, getTrack id = some track ∧ f ∈ track.melody

/-- No note of a table has a period that comes out too short. -/
theorem melody_notShort {id : AudioTrackID} {track : Track} (h : getTrack id = some track) :
    ∀ f ∈ track.melody, f.toNat ∉ Speaker.shortPeriods := by
  have hall : track.melody.all (fun f => ! Speaker.shortPeriods.contains f.toNat) = true := by
    cases id <;> cases h <;> rfl
  intro f hf hshort
  have hnot := List.all_eq_true.1 hall f hf
  rw [List.contains_iff_mem.2 hshort] at hnot
  cases hnot

theorem IsNote.period_exact {f : UInt16} (h : IsNote f) (hne : f ≠ 0) :
    Speaker.periodnsDouble f = Speaker.periodns f := by
  obtain ⟨id, track, htrack, hmem⟩ := h.resolve_left hne
  by_cases hdvd : f.toNat ∣ 10 ^ 9
  · rw [Speaker.periodnsDouble_of_dvd f hdvd, if_neg (melody_notShort htrack f hmem)]
  · exact Speaker.periodnsDouble_of_not_dvd f hne hdvd

namespace PlayerVars

/-- The melody in use is that of a table. -/
def FromTable (v : PlayerVars) : Prop :=
  ∀ melody, v.melody = some melody → ∃ id track, getTrack id = some track ∧ track.melody = melody

theorem FromTable.of_melody {v v' : PlayerVars} (h : v.FromTable)
    (hmelody : v'.melody = v.melody ∨ v'.melody = none) : v'.FromTable := by
  intro melody hsome
  rcases hmelody with heq | hnone
  · exact h melody (heq.symm.trans hsome)
  · cases hnone.symm.trans hsome

theorem countTick_notes {v : PlayerVars} (h : v.FromTable) (duration : UInt16) :
    (v.countTick duration).1.FromTable ∧ ∀ f ∈ (v.countTick duration).2, f = 0 := by
  have hfinish (v' : PlayerVars) (hsame : v'.melody = v.melody) : v'.finishTrack.FromTable := by
    refine h.of_melody ?_
    unfold finishTrack
    split
    · exact .inr rfl
    · exact .inl hsame
  unfold countTick
  split
  · exact ⟨hfinish _ rfl, by simp⟩
  · exact ⟨hfinish _ rfl, by simp⟩

/-- The part of an iteration at a note. -/
theorem playNote_notes {v v' : PlayerVars} {calls : List UInt16} (h : v.FromTable)
    (hplay : v.playNote = some (v', calls)) : v'.FromTable ∧ ∀ f ∈ calls, IsNote f := by
  have hsilent : some (({ v with currTrackID := .maxTracks } : PlayerVars), [(0 : UInt16)]) =
      some (v', calls) → v'.FromTable ∧ ∀ f ∈ calls, IsNote f := by
    intro heq
    obtain ⟨rfl, rfl⟩ := Prod.mk.inj (Option.some.inj heq)
    exact ⟨h.of_melody (.inl rfl), by simp [IsNote]⟩
  have hcounted (first : List UInt16) (duration : UInt16) (hfirst : ∀ f ∈ first, IsNote f)
      (heq : some ((v.countTick duration).1, first ++ (v.countTick duration).2) =
        some (v', calls)) : v'.FromTable ∧ ∀ f ∈ calls, IsNote f := by
    obtain ⟨hkept, hzero⟩ := countTick_notes h duration
    obtain ⟨rfl, rfl⟩ := Prod.mk.inj (Option.some.inj heq)
    refine ⟨hkept, fun f hf => ?_⟩
    rcases List.mem_append.1 hf with hf | hf
    · exact hfirst f hf
    · exact .inl (hzero f hf)
  unfold playNote at hplay
  split at hplay
  · rename_i melody rhythm hmelody _
    split at hplay
    · exact hsilent hplay
    · dsimp only at hplay
      split at hplay
      -- the first tick of a note starts it
      · obtain ⟨first, hfirst, hrest⟩ := Option.bind_eq_some_iff.1 hplay
        obtain ⟨duration, _, heq⟩ := Option.bind_eq_some_iff.1 hrest
        obtain ⟨pitch, hpitch, rfl⟩ := Option.map_eq_some_iff.1 hfirst
        obtain ⟨id, track, htrack, rfl⟩ := h melody hmelody
        refine hcounted [pitch] duration (fun f hf => ?_) heq
        rw [List.mem_singleton.1 hf]
        exact .inr ⟨id, track, htrack, List.mem_of_getElem? hpitch⟩
      · obtain ⟨first, hfirst, hrest⟩ := Option.bind_eq_some_iff.1 hplay
        obtain ⟨duration, _, heq⟩ := Option.bind_eq_some_iff.1 hrest
        cases hfirst
        exact hcounted [] duration (by simp) heq
  · exact hsilent hplay

/-- One iteration. -/
theorem iterate_notes {v v' : PlayerVars} {next : AudioTrackID} {calls : List UInt16}
    (h : v.FromTable) (hiterate : v.iterate next = some (v', calls)) :
    v'.FromTable ∧ ∀ f ∈ calls, IsNote f := by
  have hpicked : (v.pickUp next).FromTable := by
    refine h.of_melody ?_
    unfold pickUp
    split
    · exact .inr rfl
    · exact .inl rfl
  unfold iterate playTrack at hiterate
  split at hiterate
  · obtain ⟨rfl, rfl⟩ := Prod.mk.inj (Option.some.inj hiterate)
    exact ⟨hpicked, by simp [IsNote]⟩
  · split at hiterate
    · split at hiterate
      · obtain ⟨rfl, rfl⟩ := Prod.mk.inj (Option.some.inj hiterate)
        exact ⟨hpicked.of_melody (.inr rfl), by simp [IsNote]⟩
      · rename_i track htrack
        refine playNote_notes (fun melody hmelody => ?_) hiterate
        exact ⟨_, track, htrack, Option.some.inj hmelody⟩
    · exact playNote_notes hpicked hiterate

end PlayerVars

/-! ## The outline -/

/-- What a player claims: its melody is that of a table, and the pitches that it still plays are
notes. -/
def NotesAt : (t : Tid) → Local t → Shared → Prop
  | .player _, l, _ =>
      l.vars.FromTable ∧ ∀ calls, (l.pc = .pitch calls ∨ l.pc = .inPitch calls) →
        ∀ f ∈ calls, IsNote f
  | _, _, _ => True

/-- The outline. -/
def notesOutline : Outline Shared Local where
  Inv sh := ∀ f ∈ sh.hist.pitches, IsNote f
  At := NotesAt

variable {sh sh' : Shared}

/-- Only a player adds to the pitches. -/
theorem SendStep.pitches {t : Tid} {msg : Message} {request : Option Request} {pc pc' : SendPc}
    (hstep : SendStep t msg request sh pc sh' pc') : sh'.hist.pitches = sh.hist.pitches := by
  cases hstep <;> rfl

theorem ControlStep.pitches {pc pc' : ControlPc} (hstep : ControlStep sh pc sh' pc') :
    sh'.hist.pitches = sh.hist.pitches ∨ sh'.hist.pitches = [] := by
  cases hstep with
  | init hstep =>
      cases hstep with
      | mutexInit => exact .inr rfl
      | _ => exact .inl rfl
  | start hstep => cases hstep <;> exact .inl rfl
  | «end» hstep =>
      cases hstep with
      | send hsend => exact .inl hsend.pitches
      | _ => exact .inl rfl

theorem CallerStep.pitches {i : Nat} {l l' : Caller} (hstep : CallerStep i sh l sh' l') :
    sh'.hist.pitches = sh.hist.pitches := by
  cases hstep with
  | send hsend => exact hsend.pitches
  | _ => rfl

theorem TaskStep.pitches {g : Nat} {pc pc' : TaskPc} (hstep : TaskStep g sh pc sh' pc') :
    sh'.hist.pitches = sh.hist.pitches := by
  cases hstep <;> rfl

theorem player_notes {g : Nat} {l l' : Player} (hinv : ∀ f ∈ sh.hist.pitches, IsNote f)
    (hat : NotesAt (.player g) l sh) (hstep : PlayerStep g sh l sh' l') :
    (∀ f ∈ sh'.hist.pitches, IsNote f) ∧ NotesAt (.player g) l' sh' := by
  obtain ⟨htable, hcalls⟩ := hat
  cases hstep with
  | exchange hiterate =>
      obtain ⟨htable', hnotes⟩ := PlayerVars.iterate_notes htable hiterate
      refine ⟨hinv, htable', fun calls hpc => ?_⟩
      rcases hpc with hpc | hpc
      · cases hpc
        exact hnotes
      · cases hpc
  | @pitch v f calls _ =>
      have hnotes := hcalls (f :: calls) (.inl rfl)
      refine ⟨fun p hp => ?_, htable, fun calls' hpc => ?_⟩
      · rcases List.mem_append.1 hp with hp | hp
        · exact hinv p hp
        · rw [List.mem_singleton.1 hp]
          exact hnotes f List.mem_cons_self
      · rcases hpc with hpc | hpc
        · cases hpc
        · cases hpc
          exact fun p hp => hnotes p (List.mem_cons_of_mem _ hp)
  | @pitched v calls =>
      refine ⟨hinv, htable, fun calls' hpc => ?_⟩
      rcases hpc with hpc | hpc
      · cases hpc
        exact hcalls calls (.inr rfl)
      · cases hpc
  | lastPitch _ =>
      refine ⟨fun p hp => ?_, htable, fun calls hpc => by simp at hpc⟩
      rcases List.mem_append.1 hp with hp | hp
      · exact hinv p hp
      · exact .inl (List.mem_singleton.1 hp)
  | _ => exact ⟨hinv, htable, fun calls hpc => by simp at hpc⟩

theorem notes_outline {c : Service} (h : AnyProgram c) : notesOutline.Holds c := by
  refine h.outline notesOutline (fun _ _ _ _ => True) ?_ ?_ ?_
  · intro c hc
    refine ⟨fun f hf => ?_, fun t => ?_⟩
    · rw [hc.hist] at hf
      cases hf
    · cases t with
      | player g =>
          show NotesAt (.player g) (c.locals (.player g)) c.shared
          rw [hc.player]
          exact ⟨nofun, fun calls hpc => by simp at hpc⟩
      | _ => trivial
  · rintro c t sh l - ⟨hinv, hat⟩ hstep -
    cases t with
    | control =>
        refine ⟨fun f hf => ?_, trivial, fun _ _ => trivial⟩
        rcases ControlStep.pitches hstep with hsame | hnone
        · exact hinv f (hsame ▸ hf)
        · rw [hnone] at hf
          cases hf
    | caller i =>
        exact ⟨fun f hf => hinv f (CallerStep.pitches hstep ▸ hf), trivial, fun _ _ => trivial⟩
    | task g =>
        exact ⟨fun f hf => hinv f (TaskStep.pitches hstep ▸ hf), trivial, fun _ _ => trivial⟩
    | player g =>
        obtain ⟨hinv', hat'⟩ := player_notes hinv (hat (.player g)) hstep
        exact ⟨hinv', hat', fun _ _ => trivial⟩
  · intro t l sh sh' _ _ hat _
    cases t with
    | player g => exact hat
    | _ => trivial

/-- Whatever the threads do, every pitch that was passed to `Speaker_PlayPitch` in a session is
silence or a note of a table, and the period that is computed for it is exact. -/
theorem played_periods_exact {c : Service} (h : AnyProgram c) :
    ∀ f ∈ c.shared.hist.pitches, f = 0 ∨
      (∃ id track, getTrack id = some track ∧ f ∈ track.melody) ∧
        Speaker.periodnsDouble f = Speaker.periodns f := by
  intro f hf
  have hnote : IsNote f := (notes_outline h).1 f hf
  by_cases hzero : f = 0
  · exact .inl hzero
  · exact .inr ⟨hnote.resolve_left hzero, hnote.period_exact hzero⟩

/-- The first note of a track that is played. -/
theorem played_periods_exact_scale :
    ∃ c, AnyProgram c ∧ c.shared.hist.pitches = [noteC4] ∧
      ∀ f ∈ c.shared.hist.pitches, f = 0 ∨
        (∃ id track, getTrack id = some track ∧ f ∈ track.melody) ∧
          Speaker.periodnsDouble f = Speaker.periodns f := by
  have hfresh : AnyProgram freshProgram := .start freshProgram_start
  have hinited := hfresh.control (init_run (fun _ _ _ => trivial) rfl rfl rfl)
  have hstarted := hinited.control (start_run (fun _ _ _ _ => trivial) rfl rfl)
  have hcalled := hstarted.caller (i := 0) <|
    .head (.call .scale) trivial <| .head (.running rfl) trivial <|
    .head (.send (.lock rfl)) trivial <|
    .head (.send (.store (Prod.ext ((MsgRing.held_send _ _).1 (by decide)).1 rfl))) trivial <|
    .head (.send (.wakeNone rfl)) trivial <| .head (.send .unlock) trivial <|
    .head .ret trivial <| .refl _ _
  have htaken := hcalled.task (g := 0) <|
    .head (.lock (by decide) (by decide)) trivial <| .head .setPlayer trivial <|
    .head .createPlayer trivial <| .head (.running rfl) trivial <|
    .head (.got rfl) trivial <| .head .release trivial <|
    .head (.processOk rfl) trivial <| .head (.relock (by decide)) trivial <| .refl _ _
  have hplayed := htaken.player (g := 0) <|
    .head (.running (by decide) rfl) trivial <| .head (.exchange rfl) trivial <|
    .head (.pitch (by decide)) trivial <| .refl _ _
  exact ⟨_, hplayed, rfl, played_periods_exact hplayed⟩

end BatteryInfo.Audio
