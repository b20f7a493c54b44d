import BatteryInfo.Sequence.Calls
import BatteryInfo.Speaker.Interface

/-!
# The lines of the speaker and its state

Which of the chip and its two lines the module holds in each of its two states. Every function
keeps the two together but for a `Speaker_Init` that opens the chip and then fails: it leaves
the chip open, and perhaps a line requested, in the state `SPEAKER_ENDED`, where
`Speaker_DeInit` refuses to give them back (`speaker_resources_match`).
-/

namespace BatteryInfo.Speaker

open Gpiod Sequence

/-- What the module holds matches its state. -/
structure ResourcesMatch (s : Device) : Prop where
  inited : s.state = .inited → (∃ c ∈ s.bus.opened, s.chip = some c) ∧
    (∃ l ∈ s.bus.requested, s.en1Line = some l) ∧ ∃ l ∈ s.bus.requested, s.en2Line = some l
  ended : s.state = .ended → s.chip = none ∧ s.en1Line = none ∧ s.en2Line = none ∧
    ∀ l ∈ s.bus.requested, l.chip.name ≠ chipName

/-- The hardware works: the directory is there, the channel can be had, the lines too. -/
def InitOutcomes.Work (o : InitOutcomes) : Prop :=
  o.listing ≠ none ∧ o.exported ≠ .failed ∧ o.pins.Work

instance (o : InitOutcomes) : Decidable o.Work :=
  inferInstanceAs (Decidable (_ ∧ _ ∧ _))

/-- After the call the resources match the state, and if the speaker is not initialised then a
`Speaker_Init` on working hardware succeeds. -/
def KeepsResources (kernel : Kernel) (s : Device) (call : Call) : Prop :=
  ResourcesMatch (call.step kernel s) ∧ ((call.step kernel s).state = .ended →
    ∀ o : InitOutcomes, o.Work → (init o (call.step kernel s)).1 = .errorNone)

/-- The call is no `Speaker_Init` that fails with the chip open: if it gets as far as to open
the chip, the calls that acquire the lines succeed. -/
def AcquiresAllOrNothing (s : Device) (call : Call) : Prop :=
  ∀ o, call = .init o → s.state = .ended → o.listing ≠ none → o.exported ≠ .failed →
    o.pins.chipOpens → o.pins.Work

/-- The module holds all of its lines, or none. -/
inductive Holds (s : Device) : Prop where
  | inited (c : Chip) (hstate : s.state = .inited) (hopen : PinsOpen s c)
  | ended (hstate : s.state = .ended) (hclosed : PinsClosed s)

theorem Holds.resourcesMatch {s : Device} (h : Holds s) : ResourcesMatch s := by
  cases h with
  | inited c hstate hopen =>
      refine ⟨fun _ => ?_, fun hended => by simp [hstate] at hended⟩
      exact ⟨⟨c, hopen.opened, hopen.chip⟩, ⟨_, hopen.en1Requested, hopen.en1Line⟩,
        ⟨_, hopen.en2Requested, hopen.en2Line⟩⟩
  | ended hstate hclosed =>
      refine ⟨fun hinited => by simp [hstate] at hinited, fun _ => ?_⟩
      exact ⟨hclosed.chip, hclosed.en1Line, hclosed.en2Line, hclosed.released⟩

theorem exporting_samePins (listing : List (List Char)) (exported : ExportOutcome) (s : Device) :
    SamePins s (exporting listing exported s) :=
  ⟨rfl, rfl, rfl, rfl, rfl⟩

/-- From closed lines a `Speaker_Init` ends initialised, or with the lines still closed, or it
fails with the chip open. -/
theorem init_of_closed (o : InitOutcomes) {s : Device} (hstate : s.state = .ended)
    (hclosed : PinsClosed s) :
    (o.Work ∧ (init o s).1 = .errorNone ∧ (init o s).2.state = .inited ∧
      ∃ c, PinsOpen (init o s).2 c) ∨
    (¬ (o.listing ≠ none ∧ o.exported ≠ .failed ∧ o.pins.chipOpens) ∧
      (init o s).2.state = .ended ∧ PinsClosed (init o s).2) ∨
    ((o.listing ≠ none ∧ o.exported ≠ .failed ∧ o.pins.chipOpens ∧ ¬ o.pins.Work) ∧
      (init o s).2.state = .ended ∧ (init o s).2.chip ≠ none) := by
  rcases init_cases o s with ⟨hne, _⟩ | ⟨_, hlisting, hinit⟩ |
    ⟨listing, _, hlisting, hexport, hinit⟩ |
    ⟨listing, _, hlisting, hexport, error, s', hpins, hinit⟩
  · exact absurd hstate hne
  · rw [hinit]
    exact .inr (.inl ⟨fun h => h.1 hlisting, hstate, hclosed⟩)
  · rw [hinit]
    exact .inr (.inl ⟨fun h => h.2.1 hexport, hstate,
      hclosed.of_samePins (exporting_samePins listing _ s)⟩)
  · have hlisted : o.listing ≠ none := by simp [hlisting]
    have hsame := (openVolumePins_pinsOnly o.pins (exporting listing o.exported s)).state
    rw [hpins] at hsame
    rw [hinit]
    have hexported := hclosed.of_samePins (exporting_samePins listing o.exported s)
    rcases openVolumePins_cases o.pins hexported with
      ⟨hchip, hopen⟩ | ⟨hchip, hwork, s'', hopen, hheld⟩ | ⟨hwork, s'', c, hopen, hheld⟩
    · cases hpins.symm.trans hopen
      exact .inr (.inl ⟨fun h => by simp [hchip] at h, hstate, hexported⟩)
    · cases hpins.symm.trans hopen
      -- the state is still SPEAKER_ENDED, so Speaker_DeInit will not close the chip
      exact .inr (.inr ⟨⟨hlisted, hexport, hchip, hwork⟩, hsame.trans hstate, hheld⟩)
    · cases hpins.symm.trans hopen
      exact .inl ⟨⟨hlisted, hexport, hwork⟩, rfl, rfl, c,
        hheld.of_samePins ⟨rfl, rfl, rfl, rfl, rfl⟩⟩

/-- Closed lines are all that a `Speaker_Init` on working hardware needs. -/
theorem Holds.init_succeeds {s : Device} (h : Holds s) (hstate : s.state = .ended)
    (o : InitOutcomes) (hwork : o.Work) : (init o s).1 = .errorNone := by
  cases h with
  | inited c hinited _ => simp [hstate] at hinited
  | ended _ hclosed =>
      rcases init_of_closed o hstate hclosed with ⟨_, hnone, _⟩ | ⟨hfails, _⟩ | ⟨hfails, _⟩
      · exact hnone
      · exact absurd ⟨hwork.1, hwork.2.1, hwork.2.2.1⟩ hfails
      · exact absurd hwork.2.2 hfails.2.2.2

theorem Holds.of_same {s s' : Device} (h : Holds s) (hstate : s'.state = s.state)
    (hsame : SamePins s s') : Holds s' := by
  cases h with
  | inited c hinited hopen => exact .inited c (hstate.trans hinited) (hopen.of_samePins hsame)
  | ended hended hclosed => exact .ended (hstate.trans hended) (hclosed.of_samePins hsame)

/-- `Speaker_DeInit` gives everything back. -/
theorem Holds.deInit {s : Device} (h : Holds s) (kernel : Kernel) (o : SetOutcomes) :
    Holds (deInit kernel o s).2 := by
  unfold Speaker.deInit
  cases h with
  | inited c hstate hopen =>
      rw [if_neg (not_not.2 hstate)]
      have hsound := (pwmWrite_soundOnly kernel .dutyCycle 0 s).trans
        (pwmWrite_soundOnly kernel .enable 0 _)
      have hclosed := closeVolumePins_closed o (hopen.of_samePins hsound.samePins)
      exact .ended rfl (hclosed.of_samePins ⟨rfl, rfl, rfl, rfl, rfl⟩)
  | ended hstate hclosed =>
      rw [if_pos (by simp [hstate])]
      exact .ended hstate hclosed

/-- A `Speaker_Init` acquires all or nothing and then the module holds all or nothing, or it
leaves the chip open in the state `SPEAKER_ENDED`. -/
theorem Holds.init {s : Device} (h : Holds s) (o : InitOutcomes) :
    (AcquiresAllOrNothing s (.init o) ∧ Holds (init o s).2) ∨
    (¬ AcquiresAllOrNothing s (.init o) ∧ (init o s).2.state = .ended ∧
      (init o s).2.chip ≠ none) := by
  cases h with
  | inited c hstate hopen =>
      have hrefused : Speaker.init o s = (.errorState, s) := by simp [Speaker.init, hstate]
      rw [hrefused]
      exact .inl ⟨fun _ _ hended => by simp [hstate] at hended, .inited c hstate hopen⟩
  | ended hstate hclosed =>
      rcases init_of_closed o hstate hclosed with ⟨hwork, _, hinited, c, hopen⟩ |
        ⟨hfails, hended, hclosed'⟩ | ⟨⟨hlisted, hexport, hchip, hfails⟩, hended, hheld⟩
      · refine .inl ⟨fun o' ho' _ _ _ _ => ?_, .inited c hinited hopen⟩
        cases ho'
        exact hwork.2.2
      · refine .inl ⟨fun o' ho' _ hlisted hexport hchip => ?_, .ended hended hclosed'⟩
        cases ho'
        exact absurd ⟨hlisted, hexport, hchip⟩ hfails
      · exact .inr ⟨fun hall => hfails (hall o rfl hstate hlisted hexport hchip), hended, hheld⟩

/-- On working hardware a `Speaker_Init` leaves the speaker initialised. -/
theorem Holds.init_inited {s : Device} (h : Holds s) {o : InitOutcomes} (hwork : o.Work) :
    Holds (Speaker.init o s).2 ∧ (Speaker.init o s).2.state = .inited := by
  cases h with
  | inited c hstate hopen =>
      have hrefused : Speaker.init o s = (.errorState, s) := by simp [Speaker.init, hstate]
      rw [hrefused]
      exact ⟨.inited c hstate hopen, hstate⟩
  | ended hstate hclosed =>
      rcases init_of_closed o hstate hclosed with ⟨_, _, hinited, c, hopen⟩ | ⟨hfails, _⟩ |
        ⟨hfails, _⟩
      · exact ⟨.inited c hinited hopen, hinited⟩
      · exact absurd ⟨hwork.1, hwork.2.1, hwork.2.2.1⟩ hfails
      · exact absurd hwork.2.2 hfails.2.2.2

/-- What one call does to a module that holds all or nothing. -/
theorem Holds.call {s : Device} (h : Holds s) (kernel : Kernel) (call : Call) :
    (AcquiresAllOrNothing s call ∧ Holds (call.step kernel s)) ∨
    (¬ AcquiresAllOrNothing s call ∧ (call.step kernel s).state = .ended ∧
      (call.step kernel s).chip ≠ none) := by
  cases call with
  | init o => exact h.init o
  | playPitch frequency =>
      have hsound := playPitch_soundOnly kernel frequency s
      exact .inl ⟨nofun, h.of_same hsound.state hsound.samePins⟩
  | setVolume level o =>
      exact .inl ⟨nofun, h.of_same (setVolume_pinsOnly level o s).state
        (setVolume_samePins level o s)⟩
  | deInit o => exact .inl ⟨nofun, h.deInit kernel o⟩

/-- From the start of the program and whatever the system calls return, the resources match
the state after every call, and a `Speaker_Init` on working hardware then succeeds, exactly if
every call acquires all or nothing. -/
theorem speaker_resources_match (kernel : Kernel) (pwm : Pwm) (bus : Bus)
    (hfree : ∀ l ∈ bus.requested, l.chip.name ≠ chipName) (calls : List Call) :
    EveryCall (Call.step kernel) (KeepsResources kernel) (.initial pwm bus) calls ↔
      EveryCall (Call.step kernel) AcquiresAllOrNothing (.initial pwm bus) calls := by
  refine EveryCall.iff_of_invariant (I := Holds) ?_ ?_ (.ended rfl ⟨rfl, rfl, rfl, hfree⟩) calls
  · intro s call hholds
    rcases hholds.call kernel call with ⟨hall, hkept⟩ | ⟨hfails, hended, hheld⟩
    · exact iff_of_true ⟨hkept.resourcesMatch, hkept.init_succeeds⟩ hall
    · exact iff_of_false (fun hkeeps => hheld (hkeeps.1.ended hended).1) hfails
  · intro s call hholds hall
    rcases hholds.call kernel call with ⟨_, hkept⟩ | ⟨hfails, _⟩
    · exact hkept
    · exact absurd hall hfails

/-- A `Speaker_Init` in which all calls succeed. -/
def workingInit : InitOutcomes where
  listing := some ["pwmchip0".toList]
  exported := .written
  pins := ⟨true, true, true, true, true⟩

/-- The second line cannot be had once. -/
def en2Missing : InitOutcomes :=
  { workingInit with pins := ⟨true, true, true, false, true⟩ }

theorem speaker_resources_match_reopened :
    EveryCall (Call.step acceptAll) (KeepsResources acceptAll)
      (.initial ⟨0, 0, 0⟩ .empty)
      [.init workingInit, .playPitch 440, .deInit ⟨true, false⟩, .init workingInit] := by
  refine (speaker_resources_match _ _ _ (by simp [Bus.empty]) _).2 ⟨?_, nofun, nofun, ?_, trivial⟩
  all_goals
    intro o ho _ _ _ _
    cases ho
    decide

/-- A `Speaker_Init` that fails at the second line leaves the chip open and the first line
requested in the state `SPEAKER_ENDED`, and the next one fails on working hardware. -/
theorem failed_init_keeps_line :
    ¬ EveryCall (Call.step acceptAll) (KeepsResources acceptAll)
        (.initial ⟨0, 0, 0⟩ .empty) [.init en2Missing] ∧
      (Speaker.init workingInit (Speaker.init en2Missing (.initial ⟨0, 0, 0⟩ .empty)).2).1 =
        .gpioErrorGetLine := by
  refine ⟨fun h => ?_, by decide⟩
  have hretry := h.1.2 (by decide) workingInit (by decide)
  revert hretry
  decide

end BatteryInfo.Speaker
