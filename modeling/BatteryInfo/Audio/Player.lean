import BatteryInfo.Audio.Music

/-!
# The player

One iteration of `PlayerTaskLoop`, from the exchange of `NextTrackID` to the end of the loop
body, as a function of the player's local variables. It returns the pitches the iteration
passes to `Speaker_PlayPitch`, in order. An access outside a melody or a rhythm has no result;
`PlayerVars.iterate_some` says that none happens as long as the tables fit.
-/

namespace BatteryInfo.Audio

/-- The local variables of `PlayerTaskLoop`. `Melody` and `Rhythm` are `NULL` or point to a
table. -/
structure PlayerVars where
  tickCount : Nat
  noteIndex : Nat
  currTrackID : AudioTrackID
  melody : Option (List UInt16)
  rhythm : Option (List UInt16)
  len : Nat
  deriving DecidableEq

namespace PlayerVars

/-- The initial values. -/
def initial : PlayerVars :=
  ⟨0, 0, .maxTracks, none, none, 0⟩

/-- The first `if` of the body: a new ID makes the player start over. -/
def pickUp (v : PlayerVars) (next : AudioTrackID) : PlayerVars :=
  if next ≠ .maxTracks then
    { v with noteIndex := 0, tickCount := 0, melody := none, rhythm := none, currTrackID := next }
  else v

/-- The last `if` of the body: after the last note the player forgets the track. -/
def finishTrack (v : PlayerVars) : PlayerVars :=
  if v.len ≤ v.noteIndex then
    { v with noteIndex := 0, melody := none, rhythm := none, currTrackID := .maxTracks, len := 0 }
  else v

/-- The two `if`s that count ticks and notes, for a note of the given duration. -/
def countTick (v : PlayerVars) (duration : UInt16) : PlayerVars × List UInt16 :=
  if duration.toNat ≤ v.tickCount then
    (finishTrack { v with tickCount := 0, noteIndex := v.noteIndex + 1 }, [0])
  else (finishTrack { v with tickCount := v.tickCount + 1 }, [])

/-- The body from the check of `Melody`, `Rhythm` and `NoteIndex` on. -/
def playNote (v : PlayerVars) : Option (PlayerVars × List UInt16) :=
  match v.melody, v.rhythm with
  | some melody, some rhythm =>
      if v.len ≤ v.noteIndex then some ({ v with currTrackID := .maxTracks }, [0])
      else do
        let first ← if v.tickCount = 0 then melody[v.noteIndex]?.map fun pitch => [pitch]
          else some []
        let duration ← rhythm[v.noteIndex]?
        let (v, rest) := v.countTick duration
        pure (v, first ++ rest)
  | _, _ => some ({ v with currTrackID := .maxTracks }, [0])

/-- The body from the check of `CurrTrackID` on. -/
def playTrack (v : PlayerVars) : Option (PlayerVars × List UInt16) :=
  -- CurrTrackID >= MaxTracks: no enumerator is larger
  if v.currTrackID = .maxTracks then some (v, [0])
  else if v.noteIndex = 0 ∧ (v.melody = none ∨ v.rhythm = none) then
    match getTrack v.currTrackID with
    | none =>
        some ({ v with melody := none, rhythm := none, currTrackID := .maxTracks }, [0])
    | some track =>
        playNote { v with
          melody := some track.melody
          rhythm := some track.rhythm
          len := track.melody.length }
  else v.playNote

/-- One iteration with `next` taken from `NextTrackID`. -/
def iterate (v : PlayerVars) (next : AudioTrackID) : Option (PlayerVars × List UInt16) :=
  (v.pickUp next).playTrack

/-- The tables in use have the length in `Len`. -/
def Fits (v : PlayerVars) : Prop :=
  ∀ melody rhythm, v.melody = some melody → v.rhythm = some rhythm →
    melody.length = v.len ∧ rhythm.length = v.len

theorem initial_fits : initial.Fits := by
  intro melody rhythm hmelody
  simp [initial] at hmelody

theorem pickUp_fits {v : PlayerVars} (h : v.Fits) (next : AudioTrackID) :
    (v.pickUp next).Fits := by
  unfold pickUp
  split
  · intro melody rhythm hmelody
    simp at hmelody
  · exact h

theorem finishTrack_fits {v : PlayerVars} (h : v.Fits) : v.finishTrack.Fits := by
  unfold finishTrack
  split
  · intro melody rhythm hmelody
    simp at hmelody
  · exact h

theorem countTick_fits {v : PlayerVars} (h : v.Fits) (duration : UInt16) :
    (v.countTick duration).1.Fits := by
  unfold countTick
  split <;> exact finishTrack_fits h

/-- With tables that fit, no access is out of bounds, and the tables go on to fit. -/
theorem playNote_some {v : PlayerVars} (h : v.Fits) :
    ∃ v' pitches, v.playNote = some (v', pitches) ∧ v'.Fits := by
  unfold playNote
  split
  next melody rhythm hmelody hrhythm =>
      obtain ⟨hm, hr⟩ := h melody rhythm hmelody hrhythm
      split
      next => exact ⟨_, _, rfl, h⟩
      next hlt =>
          have hmelodyAt : melody[v.noteIndex]? = some melody[v.noteIndex] :=
            List.getElem?_eq_getElem (by omega)
          have hrhythmAt : rhythm[v.noteIndex]? = some rhythm[v.noteIndex] :=
            List.getElem?_eq_getElem (by omega)
          have hfits := countTick_fits h rhythm[v.noteIndex]
          by_cases htick : v.tickCount = 0
          · exact ⟨_, _, by simp [hmelodyAt, hrhythmAt, htick]; rfl, hfits⟩
          · exact ⟨_, _, by simp [hrhythmAt, htick]; rfl, hfits⟩
  next => exact ⟨_, _, rfl, h⟩

theorem playTrack_some {v : PlayerVars} (h : v.Fits) :
    ∃ v' pitches, v.playTrack = some (v', pitches) ∧ v'.Fits := by
  unfold playTrack
  split
  next => exact ⟨_, _, rfl, h⟩
  next =>
      split
      next =>
          split
          next =>
              refine ⟨_, _, rfl, ?_⟩
              intro melody rhythm hmelody
              simp at hmelody
          next track _ =>
              refine playNote_some ?_
              intro melody rhythm hmelody hrhythm
              obtain rfl := Option.some.inj hmelody
              obtain rfl := Option.some.inj hrhythm
              exact ⟨rfl, track.length_eq.symm⟩
      next => exact playNote_some h

/-- Every iteration of a player whose tables fit has a result, and the tables go on to fit. -/
theorem iterate_some {v : PlayerVars} (h : v.Fits) (next : AudioTrackID) :
    ∃ v' pitches, v.iterate next = some (v', pitches) ∧ v'.Fits :=
  playTrack_some (pickUp_fits h next)

/-- The tables go on to fit after an iteration. -/
theorem iterate_fits {v v' : PlayerVars} {next : AudioTrackID} {pitches : List UInt16}
    (h : v.Fits) (hiterate : v.iterate next = some (v', pitches)) : v'.Fits := by
  obtain ⟨w, _, hw, hfits⟩ := iterate_some h next
  cases hw.symm.trans hiterate
  exact hfits

end PlayerVars

end BatteryInfo.Audio
