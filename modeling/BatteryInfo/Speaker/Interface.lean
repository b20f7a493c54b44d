import BatteryInfo.Speaker.Device

/-!
# What the functions of the speaker do

One lemma a function: the outcomes it can have and the state each leaves. The functions that
deal with the lines leave the sound alone (`PinsOnly`), and a `Speaker_Init` adds to it at most
the write to `export` (`init_cases`).
-/

namespace BatteryInfo.Speaker

open Gpiod

/-- Two states that differ at most in the chip, its lines and the bus. -/
structure PinsOnly (s s' : Device) : Prop where
  state : s'.state = s.state
  speakerDir : s'.speakerDir = s.speakerDir
  currentFreq : s'.currentFreq = s.currentFreq
  pwm : s'.pwm = s.pwm
  writes : s'.writes = s.writes

theorem PinsOnly.refl (s : Device) : PinsOnly s s :=
  ⟨rfl, rfl, rfl, rfl, rfl⟩

theorem openChip_pinsOnly (chipOpens : Bool) (s : Device) :
    PinsOnly s (openChip chipOpens s) := by
  unfold openChip
  split
  · exact .refl s
  · exact ⟨rfl, rfl, rfl, rfl, rfl⟩

theorem openVolumePins_pinsOnly (o : PinOutcomes) (s : Device) :
    PinsOnly s (openVolumePins o s).2 := by
  obtain ⟨hstate, hdir, hfreq, hpwm, hwrites⟩ := openChip_pinsOnly o.chipOpens s
  unfold openVolumePins
  dsimp only
  split
  · exact ⟨hstate, hdir, hfreq, hpwm, hwrites⟩
  · split
    · exact ⟨hstate, hdir, hfreq, hpwm, hwrites⟩
    · split <;> exact ⟨hstate, hdir, hfreq, hpwm, hwrites⟩

theorem setVolume_pinsOnly (level : UInt32) (o : SetOutcomes) (s : Device) :
    PinsOnly s (setVolume level o s).2 := by
  unfold setVolume
  split
  · split
    · exact .refl s
    · exact ⟨rfl, rfl, rfl, rfl, rfl⟩
  · exact .refl s

/-- Two states that differ at most in the sound: the cached frequency, the PWM channel and the
writes to it. -/
structure SoundOnly (s s' : Device) : Prop where
  state : s'.state = s.state
  speakerDir : s'.speakerDir = s.speakerDir
  chip : s'.chip = s.chip
  en1Line : s'.en1Line = s.en1Line
  en2Line : s'.en2Line = s.en2Line
  bus : s'.bus = s.bus

theorem SoundOnly.refl (s : Device) : SoundOnly s s :=
  ⟨rfl, rfl, rfl, rfl, rfl, rfl⟩

theorem SoundOnly.trans {s s' s'' : Device} (h : SoundOnly s s') (h' : SoundOnly s' s'') :
    SoundOnly s s'' where
  state := h'.state.trans h.state
  speakerDir := h'.speakerDir.trans h.speakerDir
  chip := h'.chip.trans h.chip
  en1Line := h'.en1Line.trans h.en1Line
  en2Line := h'.en2Line.trans h.en2Line
  bus := h'.bus.trans h.bus

theorem pwmWrite_soundOnly (kernel : Kernel) (file : PwmFile) (value : Nat) (s : Device) :
    SoundOnly s (pwmWrite kernel file value s).2 := by
  unfold pwmWrite
  cases kernel s.writes.length file value s.pwm <;> exact ⟨rfl, rfl, rfl, rfl, rfl, rfl⟩

theorem pwmWrite_writes (kernel : Kernel) (file : PwmFile) (value : Nat) (s : Device) :
    (pwmWrite kernel file value s).2.writes =
      s.writes ++
        [⟨s.speakerDir, .pwm0 file, value, kernel s.writes.length file value s.pwm⟩] := by
  unfold pwmWrite
  cases kernel s.writes.length file value s.pwm <;> rfl

theorem setPitch_soundOnly (kernel : Kernel) (frequency : UInt16) (s : Device) :
    SoundOnly s (setPitch kernel frequency s) := by
  have hperiod : SoundOnly s
      (if frequency = 0 then s else (pwmWrite kernel .period (periodns frequency) s).2) := by
    split
    · exact .refl s
    · exact pwmWrite_soundOnly _ _ _ _
  have hduty := hperiod.trans (pwmWrite_soundOnly kernel .dutyCycle (dutyCyclens frequency) _)
  have hwrites :=
    hduty.trans (pwmWrite_soundOnly kernel .enable (if frequency = 0 then 0 else 1) _)
  exact ⟨hwrites.state, hwrites.speakerDir, hwrites.chip, hwrites.en1Line, hwrites.en2Line,
    hwrites.bus⟩

theorem playPitch_soundOnly (kernel : Kernel) (frequency : UInt16) (s : Device) :
    SoundOnly s (playPitch kernel frequency s).2 := by
  unfold playPitch
  split
  · exact .refl s
  · split
    · exact .refl s
    · exact setPitch_soundOnly kernel frequency s

theorem playPitch_of_ended (kernel : Kernel) (frequency : UInt16) {s : Device}
    (hstate : s.state ≠ .inited) : playPitch kernel frequency s = (.errorState, s) :=
  if_pos hstate

theorem playPitch_same (kernel : Kernel) {s : Device} (hstate : s.state = .inited) :
    playPitch kernel s.currentFreq s = (.errorNone, s) := by
  simp [playPitch, hstate]

theorem playPitch_other (kernel : Kernel) {frequency : UInt16} {s : Device}
    (hstate : s.state = .inited) (hne : frequency ≠ s.currentFreq) :
    playPitch kernel frequency s = (.errorNone, setPitch kernel frequency s) := by
  simp [playPitch, hstate, hne]

/-! ## Opening and closing the lines -/

/-- The lines of the module, requested on an open chip, which has all the requests for pins of
that name. -/
structure PinsOpen (s : Device) (c : Chip) : Prop where
  chip : s.chip = some c
  opened : c ∈ s.bus.opened
  en1Line : s.en1Line = some ⟨c, gpioOffsetSpkrEn1⟩
  en1Requested : ⟨c, gpioOffsetSpkrEn1⟩ ∈ s.bus.requested
  en2Line : s.en2Line = some ⟨c, gpioOffsetSpkrEn2⟩
  en2Requested : ⟨c, gpioOffsetSpkrEn2⟩ ∈ s.bus.requested
  owned : ∀ l ∈ s.bus.requested, l.chip.name = chipName → l.chip = c

/-- Nothing is left of the lines of the module. -/
structure PinsClosed (s : Device) : Prop where
  chip : s.chip = none
  en1Line : s.en1Line = none
  en2Line : s.en2Line = none
  released : ∀ l ∈ s.bus.requested, l.chip.name ≠ chipName

/-- Two states that hold the same lines. -/
structure SamePins (s s' : Device) : Prop where
  chip : s'.chip = s.chip
  en1Line : s'.en1Line = s.en1Line
  en2Line : s'.en2Line = s.en2Line
  opened : s'.bus.opened = s.bus.opened
  requested : s'.bus.requested = s.bus.requested

theorem SoundOnly.samePins {s s' : Device} (h : SoundOnly s s') : SamePins s s' :=
  ⟨h.chip, h.en1Line, h.en2Line, congrArg Bus.opened h.bus, congrArg Bus.requested h.bus⟩

theorem PinsOpen.of_samePins {s s' : Device} {c : Chip} (h : PinsOpen s c)
    (hsame : SamePins s s') : PinsOpen s' c := by
  obtain ⟨hchip, hen1, hen2, hopened, hrequested⟩ := hsame
  refine ⟨?_, ?_, ?_, ?_, ?_, ?_, ?_⟩
  · rw [hchip, h.chip]
  · rw [hopened]
    exact h.opened
  · rw [hen1, h.en1Line]
  · rw [hrequested]
    exact h.en1Requested
  · rw [hen2, h.en2Line]
  · rw [hrequested]
    exact h.en2Requested
  · rw [hrequested]
    exact h.owned

theorem PinsClosed.of_samePins {s s' : Device} (h : PinsClosed s) (hsame : SamePins s s') :
    PinsClosed s' := by
  obtain ⟨hchip, hen1, hen2, _, hrequested⟩ := hsame
  refine ⟨?_, ?_, ?_, ?_⟩
  · rw [hchip, h.chip]
  · rw [hen1, h.en1Line]
  · rw [hen2, h.en2Line]
  · rw [hrequested]
    exact h.released

/-- All the calls that acquire the lines succeed. -/
def PinOutcomes.Work (o : PinOutcomes) : Prop :=
  o.chipOpens ∧ o.en1Line ∧ o.en1Request ∧ o.en2Line ∧ o.en2Request

instance (o : PinOutcomes) : Decidable o.Work :=
  inferInstanceAs (Decidable (_ ∧ _))

/-- From closed lines, `OpenVolumePins` acquires everything exactly if every call succeeds. If
the chip opens and a later call fails, the chip stays open. -/
theorem openVolumePins_cases (o : PinOutcomes) {s : Device} (hclosed : PinsClosed s) :
    (o.chipOpens = false ∧ openVolumePins o s = (.gpioErrorOpenChip, s)) ∨
    (o.chipOpens ∧ ¬ o.Work ∧ ∃ s', openVolumePins o s = (.gpioErrorGetLine, s') ∧
      s'.chip ≠ none) ∨
    (o.Work ∧ ∃ s' c, openVolumePins o s = (.errorNone, s') ∧ PinsOpen s' c) := by
  have hfree : ∀ offset, (chipName, offset) ∉ s.bus.requested.map Line.pin := by
    intro offset hmem
    obtain ⟨l, hl, hpin⟩ := List.mem_map.1 hmem
    exact hclosed.released l hl (congrArg Prod.fst hpin)
  cases hopen : o.chipOpens with
  | false =>
      refine .inl ⟨rfl, ?_⟩
      have hchip : openChip false s = s := by
        cases s
        cases hclosed.chip
        rfl
      simp only [openVolumePins, hopen, hchip, hclosed.chip]
  | true =>
      let c : Chip := ⟨s.bus.nextHandle, chipName⟩
      have hchip : openChip true s = { s with chip := some c, bus := s.bus.opening chipName } := by
        simp only [openChip, hclosed.chip]
        rfl
      have h1 := Bus.grants_opening (hfree gpioOffsetSpkrEn1)
      let taken := (s.bus.opening chipName).requesting ⟨c, gpioOffsetSpkrEn1⟩ (some 0) h1
      have h2 : taken.Grants ⟨c, gpioOffsetSpkrEn2⟩ :=
        (Bus.grants_opening (hfree gpioOffsetSpkrEn2)).requesting h1
          (by simp [Line.pin, gpioOffsetSpkrEn1, gpioOffsetSpkrEn2])
      rcases Bus.takeLine_cases (s.bus.opening chipName) c gpioOffsetSpkrEn1 (some 0) o.en1Line
        o.en1Request with ⟨_, hget1, hreq1, htake1⟩ | ⟨hfails, l, htake1⟩
      · rcases Bus.takeLine_cases taken c gpioOffsetSpkrEn2 (some 0) o.en2Line o.en2Request with
          ⟨_, hget2, hreq2, htake2⟩ | ⟨hfails, l, htake2⟩
        · refine .inr (.inr ⟨⟨hopen, hget1, hreq1, hget2, hreq2⟩,
            { s with
              chip := some c
              en1Line := some ⟨c, gpioOffsetSpkrEn1⟩
              en2Line := some ⟨c, gpioOffsetSpkrEn2⟩
              bus := taken.requesting ⟨c, gpioOffsetSpkrEn2⟩ (some 0) h2 }, c, ?_, ?_⟩)
          · simp only [openVolumePins, hopen, hchip, htake1, not_true_eq_false, if_false]
            rw [htake2]
            rfl
          · refine ⟨rfl, by simp [taken, c], rfl, by simp [taken], rfl, by simp, ?_⟩
            intro l hl hname
            simp only [Bus.requested_requesting, taken, Bus.requested_opening, List.mem_cons] at hl
            rcases hl with rfl | rfl | hl
            · rfl
            · rfl
            · exact absurd hname (hclosed.released l hl)
        · refine .inr (.inl ⟨rfl, fun hwork => hfails ⟨hwork.2.2.2.1, hwork.2.2.2.2, h2⟩, ?_⟩)
          simp only [openVolumePins, hopen, hchip, htake1, not_true_eq_false, if_false]
          rw [htake2]
          exact ⟨_, rfl, by simp⟩
      · refine .inr (.inl ⟨rfl, fun hwork => hfails ⟨hwork.2.1, hwork.2.2.1, h1⟩, ?_⟩)
        simp only [openVolumePins, hopen, hchip, htake1]
        exact ⟨_, rfl, by simp⟩

theorem mem_requested_closeLine {line : Option Line} {setOk : Bool} {b : Bus} {l : Line}
    (hl : l ∈ (closeLine line setOk b).2.requested) : l ∈ b.requested := by
  cases line with
  | none => exact hl
  | some m =>
      rw [closeLine, Bus.mem_requested_lineRelease, Bus.requested_lineSetValue] at hl
      exact hl.1

/-- `CloseVolumePins` gives back all that the module holds. -/
theorem closeVolumePins_closed (o : SetOutcomes) {s : Device} {c : Chip} (hopen : PinsOpen s c) :
    PinsClosed (closeVolumePins o s).2 := by
  refine ⟨rfl, rfl, rfl, ?_⟩
  intro l hl hname
  simp only [closeVolumePins, hopen.chip, Bus.mem_requested_chipClose] at hl
  have hmem := mem_requested_closeLine (mem_requested_closeLine hl.1)
  exact hl.2 (hopen.owned l hmem hname)

/-- `Speaker_SetVolume` requests and releases nothing. -/
theorem setVolume_samePins (level : UInt32) (o : SetOutcomes) (s : Device) :
    SamePins s (setVolume level o s).2 := by
  unfold setVolume
  split
  · split
    · exact ⟨rfl, rfl, rfl, rfl, rfl⟩
    · exact ⟨rfl, rfl, rfl, by simp, by simp⟩
  · exact ⟨rfl, rfl, rfl, rfl, rfl⟩

/-! ## Initialisation -/

/-- `Speaker_Init` once it has written to `export`. -/
def exporting (listing : List (List Char)) (exported : ExportOutcome) (s : Device) : Device :=
  { s with
    speakerDir := readListing listing s.speakerDir
    writes := s.writes ++
      [⟨readListing listing s.speakerDir, .exportFile, 0, exported = .written⟩] }

theorem exportChannel_eq (outcome : ExportOutcome) (s : Device) :
    exportChannel outcome s = (if outcome = .failed then .errorSysfs else .errorNone,
      { s with writes := s.writes ++ [⟨s.speakerDir, .exportFile, 0, outcome = .written⟩] }) := by
  cases outcome <;> rfl

/-- Where a `Speaker_Init` ends: in a wrong state, without the directory, without the channel,
or with what `OpenVolumePins` leaves. -/
theorem init_cases (o : InitOutcomes) (s : Device) :
    (s.state ≠ .ended ∧ init o s = (.errorState, s)) ∨
    (s.state = .ended ∧ o.listing = none ∧ init o s = (.errorSysfs, s)) ∨
    (∃ listing, s.state = .ended ∧ o.listing = some listing ∧ o.exported = .failed ∧
      init o s = (.errorSysfs, exporting listing o.exported s)) ∨
    ∃ listing, s.state = .ended ∧ o.listing = some listing ∧ o.exported ≠ .failed ∧
      ∃ error s', openVolumePins o.pins (exporting listing o.exported s) = (error, s') ∧
        init o s = (error, if error = .errorNone then { s' with state := .inited } else s') := by
  by_cases hstate : s.state = .ended
  · cases hlisting : o.listing with
    | none => exact .inr (.inl ⟨hstate, rfl, by simp [init, hstate, hlisting]⟩)
    | some listing =>
        by_cases hexport : o.exported = .failed
        · refine .inr (.inr (.inl ⟨listing, hstate, rfl, hexport, ?_⟩))
          simp [init, hstate, hlisting, exportChannel_eq, hexport, exporting]
        · rcases hpins : openVolumePins o.pins (exporting listing o.exported s) with ⟨error, s'⟩
          refine .inr (.inr (.inr ⟨listing, hstate, rfl, hexport, error, s', hpins, ?_⟩))
          unfold exporting at hpins
          unfold init
          rw [if_neg (not_not.2 hstate)]
          simp only [hlisting, exportChannel_eq, hexport, ne_eq, not_true_eq_false, if_false,
            hpins]
          by_cases herror : error = .errorNone <;> simp [herror]
  · exact .inl ⟨hstate, by simp [init, hstate]⟩

/-- A `Speaker_Init` leaves the sound as it is but for a write to `export`. -/
theorem init_sound (o : InitOutcomes) (s : Device) :
    (init o s).2.pwm = s.pwm ∧ (init o s).2.currentFreq = s.currentFreq ∧
      ∃ exports, (init o s).2.writes = s.writes ++ exports ∧
        ∀ w ∈ exports, w.subDir = .exportFile := by
  rcases init_cases o s with ⟨_, hinit⟩ | ⟨_, _, hinit⟩ | ⟨listing, _, _, _, hinit⟩ |
    ⟨listing, _, _, _, error, s', hpins, hinit⟩
  · rw [hinit]
    exact ⟨rfl, rfl, [], by simp, by simp⟩
  · rw [hinit]
    exact ⟨rfl, rfl, [], by simp, by simp⟩
  · rw [hinit]
    exact ⟨rfl, rfl, _, rfl, by simp⟩
  · have hsame := openVolumePins_pinsOnly o.pins (exporting listing o.exported s)
    rw [hpins] at hsame
    rw [hinit]
    dsimp only
    split <;> exact ⟨hsame.pwm, hsame.currentFreq, _, hsame.writes, by simp⟩

end BatteryInfo.Speaker
