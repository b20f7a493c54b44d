import Mathlib.Algebra.GroupWithZero.Nat
import Mathlib.Order.Monotone.Basic
import BatteryInfo.Audio.Player

/-!
# The score of a track

What the loop of `PlayerTaskLoop` plays, iteration by iteration, for any values that it takes
from `NextTrackID`. A track asks for its notes one after the other, each for as many iterations
as its rhythm says and one more (`Track.Asks`). From the iteration on that takes an ID the player
plays the score of that track and nothing else (`player_plays_score`).
-/

namespace BatteryInfo.Audio

/-- The number of iterations from the one that takes the track to the one that begins its note
number `i`. -/
def Track.noteStart (track : Track) (i : Nat) : Nat :=
  ((track.rhythm.take i).map fun duration => duration.toNat + 1).sum

/-- What the score asks of iteration `k`, counted from the one that takes the track: the pitch
of a note where it begins, silence where it ends, and silence always when the last note is over.
A note without duration ends in the iteration where it begins. -/
structure Track.Asks (track : Track) (k : Nat) (calls : List UInt16) : Prop where
  note : ∀ i pitch duration, track.melody[i]? = some pitch → track.rhythm[i]? = some duration →
    track.noteStart i ≤ k → k ≤ track.noteStart i + duration.toNat →
    calls = (if k = track.noteStart i then [pitch] else []) ++
      (if k = track.noteStart i + duration.toNat then [0] else [])
  silent : track.noteStart track.melody.length ≤ k → calls = [0]

namespace PlayerVars

/-- Iteration `n` when the iterations take the values `taken`: the local variables after it and
the pitches it passes to `Speaker_PlayPitch`. The loop ends when `PlayerState` is no longer
`Running`; until then it goes on like this. -/
def iteration (taken : Nat → AudioTrackID) : Nat → Option (PlayerVars × List UInt16)
  | 0 => initial.iterate (taken 0)
  | n + 1 => do
      let (v, _) ← iteration taken n
      v.iterate (taken (n + 1))

/-- Every iteration has a result, so that no read is outside a table. -/
theorem iteration_some (taken : Nat → AudioTrackID) (n : Nat) :
    ∃ v calls, iteration taken n = some (v, calls) ∧ v.Fits := by
  induction n with
  | zero => exact iterate_some initial_fits (taken 0)
  | succ n ih =>
      obtain ⟨v, calls, hiteration, hfits⟩ := ih
      obtain ⟨v', calls', hiterate, hfits'⟩ := iterate_some hfits (taken (n + 1))
      exact ⟨v', calls', by simp [iteration, hiteration, hiterate], hfits'⟩

/-- Iteration `n` runs the loop body on some local variables. -/
theorem iteration_eq (taken : Nat → AudioTrackID) (n : Nat) :
    ∃ v : PlayerVars, iteration taken n = v.iterate (taken n) := by
  cases n with
  | zero => exact ⟨initial, rfl⟩
  | succ n =>
      obtain ⟨v, calls, hiteration, _⟩ := iteration_some taken n
      exact ⟨v, by simp [iteration, hiteration]⟩

/-- The player at note `i` of a track, where it has been for `j` iterations. -/
def atNote (id : AudioTrackID) (track : Track) (i j : Nat) : PlayerVars :=
  ⟨j, i, id, some track.melody, some track.rhythm, track.melody.length⟩

/-- A valid ID makes the player start its track, whatever it was doing. -/
theorem iterate_takes {id : AudioTrackID} {track : Track} (hid : id ≠ .maxTracks)
    (htrack : getTrack id = some track) (v : PlayerVars) :
    v.iterate id = (atNote id track 0 0).playNote := by
  simp [iterate, pickUp, playTrack, hid, htrack, atNote]

/-- Without a new ID the player goes on with its note. -/
theorem iterate_goes_on {id : AudioTrackID} {track : Track} (hid : id ≠ .maxTracks) (i j : Nat) :
    (atNote id track i j).iterate .maxTracks = (atNote id track i j).playNote := by
  simp [iterate, pickUp, playTrack, hid, atNote]

/-- Without an ID there is silence. -/
theorem iterate_silent {v : PlayerVars} (hid : v.currTrackID = .maxTracks) :
    v.iterate .maxTracks = some (v, [0]) := by
  simp [iterate, pickUp, playTrack, hid]

/-- The end of an iteration at a note: silence if it is the last there. After the last note the
player has forgotten the track. -/
theorem countTick_atNote (id : AudioTrackID) {track : Track} {i j : Nat} {duration : UInt16}
    (hi : i < track.melody.length) (hj : j ≤ duration.toNat) :
    (atNote id track i j).countTick duration =
      (if j < duration.toNat then atNote id track i (j + 1)
        else if i + 1 < track.melody.length then atNote id track (i + 1) 0
        else initial,
      if j = duration.toNat then [0] else []) := by
  rcases Nat.lt_or_eq_of_le hj with hlt | rfl
  · have hopen : ¬ duration.toNat ≤ j := Nat.not_le.2 hlt
    have hsame : ¬ j = duration.toNat := Nat.ne_of_lt hlt
    simp [countTick, finishTrack, atNote, hopen, hlt, hsame, Nat.not_le.2 hi]
  · by_cases hend : i + 1 < track.melody.length
    · simp [countTick, finishTrack, atNote, hend, Nat.not_le.2 hend]
    · simp [countTick, finishTrack, atNote, hend, Nat.not_lt.1 hend, initial]

/-- The body of the loop at a note: the pitch if the iteration is the first there, silence if it
is the last, and where it takes the player. -/
theorem playNote_atNote (id : AudioTrackID) {track : Track} {i j : Nat} {pitch duration : UInt16}
    (hpitch : track.melody[i]? = some pitch) (hduration : track.rhythm[i]? = some duration)
    (hj : j ≤ duration.toNat) :
    (atNote id track i j).playNote = some
      (if j < duration.toNat then atNote id track i (j + 1)
        else if i + 1 < track.melody.length then atNote id track (i + 1) 0
        else initial,
      (if j = 0 then [pitch] else []) ++ (if j = duration.toNat then [0] else [])) := by
  have hi : i < track.melody.length := (List.getElem?_eq_some_iff.1 hpitch).1
  have hcount : (atNote id track i j).playNote = some
      (((atNote id track i j).countTick duration).1,
        (if j = 0 then [pitch] else []) ++ ((atNote id track i j).countTick duration).2) := by
    by_cases hzero : j = 0 <;>
      simp [playNote, atNote, hpitch, hduration, Nat.not_le.2 hi, hzero]
  rw [hcount, countTick_atNote id hi hj]

end PlayerVars

/-! ## From note to note -/

theorem Track.noteStart_succ {track : Track} {i : Nat} {duration : UInt16}
    (hduration : track.rhythm[i]? = some duration) :
    track.noteStart (i + 1) = track.noteStart i + duration.toNat + 1 := by
  unfold noteStart
  rw [List.take_add_one, hduration]
  simp [Nat.add_assoc]

theorem Track.noteStart_mono (track : Track) : Monotone track.noteStart := by
  refine monotone_nat_of_le_succ fun i => ?_
  unfold noteStart
  rw [List.take_add_one, List.map_append, List.sum_append]
  exact Nat.le_add_right _ _

/-- The result of an iteration `k` after the one that took the track: that of the loop body at a
note, or silence when the track is over. -/
inductive Playing (id : AudioTrackID) (track : Track) :
    Nat → Option (PlayerVars × List UInt16) → Prop where
  | note {i j pitch duration} : track.melody[i]? = some pitch →
      track.rhythm[i]? = some duration → j ≤ duration.toNat →
      Playing id track (track.noteStart i + j) (PlayerVars.atNote id track i j).playNote
  | silent {k v} : track.noteStart track.melody.length ≤ k → v.currTrackID = .maxTracks →
      Playing id track k (some (v, [0]))

namespace Playing

variable {id : AudioTrackID} {track : Track} {k : Nat} {v : PlayerVars} {calls : List UInt16}

/-- The iteration that takes the ID is at the first note. -/
theorem first (hid : id ≠ .maxTracks) (htrack : getTrack id = some track) (v : PlayerVars) :
    Playing id track 0 (v.iterate id) := by
  have hlength : 0 < track.melody.length := List.length_pos_iff.2 track.nonempty
  have hrhythm : 0 < track.rhythm.length := track.length_eq ▸ hlength
  rw [PlayerVars.iterate_takes hid htrack]
  exact .note (i := 0) (j := 0) (List.getElem?_eq_getElem hlength)
    (List.getElem?_eq_getElem hrhythm) (Nat.zero_le _)

/-- An iteration that takes no ID goes on where the one before left off. -/
theorem next (hid : id ≠ .maxTracks) {r : Option (PlayerVars × List UInt16)}
    (h : Playing id track k r) (hr : r = some (v, calls)) :
    Playing id track (k + 1) (v.iterate .maxTracks) := by
  cases h with
  | silent hover hsilent =>
      obtain ⟨rfl, rfl⟩ := Prod.mk.inj (Option.some.inj hr)
      rw [PlayerVars.iterate_silent hsilent]
      exact .silent (Nat.le_succ_of_le hover) hsilent
  | @note i j pitch duration hpitch hduration hj =>
      rw [PlayerVars.playNote_atNote id hpitch hduration hj] at hr
      obtain ⟨rfl, rfl⟩ := Prod.mk.inj (Option.some.inj hr)
      by_cases hlast : j < duration.toNat
      · rw [if_pos hlast, PlayerVars.iterate_goes_on hid]
        exact .note hpitch hduration hlast
      · have hnext : track.noteStart i + j + 1 = track.noteStart (i + 1) := by
          rw [track.noteStart_succ hduration]
          omega
        rw [if_neg hlast, hnext]
        by_cases hend : i + 1 < track.melody.length
        · rw [if_pos hend, PlayerVars.iterate_goes_on hid]
          exact .note (j := 0) (List.getElem?_eq_getElem hend)
            (List.getElem?_eq_getElem (track.length_eq ▸ hend)) (Nat.zero_le _)
        · rw [if_neg hend, PlayerVars.iterate_silent rfl]
          exact .silent (track.noteStart_mono (Nat.not_lt.1 hend)) rfl

/-- Such an iteration does what the score asks. -/
theorem asks {r : Option (PlayerVars × List UInt16)} (h : Playing id track k r)
    (hr : r = some (v, calls)) : track.Asks k calls := by
  cases h with
  | silent hover _ =>
      obtain ⟨_, rfl⟩ := Prod.mk.inj (Option.some.inj hr)
      refine ⟨fun i pitch duration hpitch hduration _ hend => ?_, fun _ => rfl⟩
      have hi : i + 1 ≤ track.melody.length := (List.getElem?_eq_some_iff.1 hpitch).1
      have hstart := track.noteStart_mono hi
      rw [track.noteStart_succ hduration] at hstart
      omega
  | @note i j pitch duration hpitch hduration hj =>
      rw [PlayerVars.playNote_atNote id hpitch hduration hj] at hr
      obtain ⟨_, rfl⟩ := Prod.mk.inj (Option.some.inj hr)
      have hnext := track.noteStart_succ hduration
      constructor
      · intro i' pitch' duration' hpitch' hduration' hfrom hto
        have hnext' := track.noteStart_succ hduration'
        -- the notes take turns, so an iteration is within one of them only
        obtain rfl : i' = i := by
          rcases Nat.lt_trichotomy i' i with hlt | heq | hlt
          · have hturn : track.noteStart (i' + 1) ≤ track.noteStart i := track.noteStart_mono hlt
            omega
          · exact heq
          · have hturn : track.noteStart (i + 1) ≤ track.noteStart i' := track.noteStart_mono hlt
            omega
        rw [hpitch] at hpitch'
        rw [hduration] at hduration'
        cases hpitch'
        cases hduration'
        simp
      · intro hover
        have hi : i + 1 ≤ track.melody.length := (List.getElem?_eq_some_iff.1 hpitch).1
        have hend := track.noteStart_mono hi
        omega

end Playing

/-- Whatever IDs the iterations take, each has a result. From an iteration on that takes a valid
ID, which makes the player forget what it was doing, and as long as no other ID is taken, the
player plays the score of that track. -/
theorem player_plays_score (taken : Nat → AudioTrackID) :
    (∀ n, ∃ v calls, PlayerVars.iteration taken n = some (v, calls)) ∧
    ∀ s, taken s ≠ .maxTracks →
      (∀ v w : PlayerVars, v.iterate (taken s) = w.iterate (taken s)) ∧
      ∃ track, getTrack (taken s) = some track ∧
        ∀ k, (∀ j, 0 < j → j ≤ k → taken (s + j) = .maxTracks) →
          ∃ v calls, PlayerVars.iteration taken (s + k) = some (v, calls) ∧
            track.Asks k calls := by
  refine ⟨fun n => ?_, fun s hid => ?_⟩
  · obtain ⟨v, calls, hiteration, _⟩ := PlayerVars.iteration_some taken n
    exact ⟨v, calls, hiteration⟩
  · obtain ⟨track, htrack⟩ := get_track_isSome hid
    refine ⟨fun v w => ?_, track, htrack, fun k hnone => ?_⟩
    · rw [PlayerVars.iterate_takes hid htrack, PlayerVars.iterate_takes hid htrack]
    · have hplaying : Playing (taken s) track k (PlayerVars.iteration taken (s + k)) := by
        induction k with
        | zero =>
            obtain ⟨v, hiteration⟩ := PlayerVars.iteration_eq taken s
            rw [Nat.add_zero, hiteration]
            exact .first hid htrack v
        | succ k ih =>
            have hbefore := ih fun j hpos hle => hnone j hpos (Nat.le_succ_of_le hle)
            obtain ⟨v, calls, hiteration, _⟩ := PlayerVars.iteration_some taken (s + k)
            have hnext := hbefore.next hid hiteration
            rw [← hnone (k + 1) (Nat.succ_pos k) le_rfl] at hnext
            simpa [← Nat.add_assoc, PlayerVars.iteration, hiteration] using hnext
      obtain ⟨v, calls, hiteration, _⟩ := PlayerVars.iteration_some taken (s + k)
      exact ⟨v, calls, hiteration, hplaying.asks hiteration⟩

end BatteryInfo.Audio
