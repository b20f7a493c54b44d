import BatteryInfo.Speaker.Pins

/-!
# The volume

The two amplifier lines as the digits of a number, and the amplifier that they stand for: off, or
on at one of four levels. As long as `Speaker_Init` acquires all of its lines or none, the module
does to the lines what the amplifier is asked for, and answers as it would, exactly if no
`gpiod_line_set_value` fails that a call depends on (`amplifier_followed`). `Speaker_SetVolume`
reports such a failure and `Speaker_DeInit` does not, which leaves the amplifier on.
-/

namespace BatteryInfo.Speaker

open Gpiod Sequence

/-- The pin of the first line. -/
def en1Pin : String × Nat := (chipName, gpioOffsetSpkrEn1)

/-- The pin of the second line. -/
def en2Pin : String × Nat := (chipName, gpioOffsetSpkrEn2)

/-- The number that the two lines show: what they were last driven to, also after a release. -/
def Device.volume (s : Device) : Nat :=
  2 * s.bus.level en1Pin + s.bus.level en2Pin

/-- A level that `Speaker_SetVolume` accepts. -/
structure Level where
  value : UInt32
  le_max : value ≤ maxVolumeLevel

/-- What the lines are for. An amplifier that is off has them at whatever they were left. -/
inductive Amplifier where
  | off (left : Nat)
  | on (level : Level)

namespace Amplifier

/-- What the lines show. -/
def volume : Amplifier → Nat
  | off left => left
  | on level => level.value.toNat

theorem zero_le_max : 0 ≤ maxVolumeLevel := by
  decide

/-- The amplifier after a call. -/
def next : Amplifier → Call → Amplifier
  | off left, .init o => if o.Work then on ⟨0, zero_le_max⟩ else off left
  | on old, .setVolume value _ => if h : value ≤ maxVolumeLevel then on ⟨value, h⟩ else on old
  | on _, .deInit _ => off 0
  | a, _ => a

/-- What `Speaker_SetVolume` returns. -/
def reply : Amplifier → UInt32 → ErrorCode
  | off _, _ => .errorSysfs
  | on _, value => if value ≤ maxVolumeLevel then .errorNone else .errorOutOfBounds

end Amplifier

/-- A state of the module and the amplifier after the same calls. -/
abbrev Amplified := Device × Amplifier

/-- A call to both. -/
def Amplified.step (kernel : Kernel) (p : Amplified) (call : Call) : Amplified :=
  (call.step kernel p.1, p.2.next call)

/-- After the call the lines show what they should, and a `Speaker_SetVolume` returns what it
should. -/
def FollowsAmplifier (kernel : Kernel) (p : Amplified) (call : Call) : Prop :=
  (p.step kernel call).1.volume = (p.step kernel call).2.volume ∧
    ∀ value o, call = .setVolume value o → (setVolume value o p.1).1 = p.2.reply value

/-- The calls that set a line succeed, or find it as they would leave it where nobody asks. -/
def SetsTakeEffect (s : Device) : Call → Prop
  | .setVolume value o => s.state = .inited → value ≤ maxVolumeLevel → o.en1Set ∧ o.en2Set
  | .deInit o => s.state = .inited →
      (o.en1Set ∨ s.bus.level en1Pin = 0) ∧ (o.en2Set ∨ s.bus.level en2Pin = 0)
  | _ => True

/-! ## One call -/

/-- The lines are the binary digits of a level. -/
theorem digits_of_le {value : UInt32} (hle : value ≤ maxVolumeLevel) :
    2 * (if value &&& spkrEn1Bit = spkrEn1Bit then 1 else 0) +
      (if value &&& spkrEn2Bit = spkrEn2Bit then 1 else 0) = value.toNat := by
  have hle : value.toNat ≤ 3 := UInt32.le_iff_toNat_le.1 hle
  have hcases : value = 0 ∨ value = 1 ∨ value = 2 ∨ value = 3 := by
    simp only [← UInt32.toNat_inj]
    show value.toNat = 0 ∨ value.toNat = 1 ∨ value.toNat = 2 ∨ value.toNat = 3
    omega
  rcases hcases with rfl | rfl | rfl | rfl <;> rfl

theorem en1Pin_ne_en2Pin : en1Pin ≠ en2Pin := by
  decide

section Open

variable {s : Device} {c : Chip} (hopen : PinsOpen s c) (hname : c.name = chipName)

include hname in
theorem pin_en1 : Line.pin ⟨c, gpioOffsetSpkrEn1⟩ = en1Pin := by
  rw [Line.pin, hname]
  rfl

include hname in
theorem pin_en2 : Line.pin ⟨c, gpioOffsetSpkrEn2⟩ = en2Pin := by
  rw [Line.pin, hname]
  rfl

include hopen in
theorem setVolume_of_large {value : UInt32} (hlarge : ¬ value ≤ maxVolumeLevel)
    (o : SetOutcomes) : setVolume value o s = (.errorOutOfBounds, s) := by
  have hgt : value > maxVolumeLevel := UInt32.not_le.1 hlarge
  simp only [setVolume, hopen.en1Line, hopen.en2Line, hgt, if_true]

include hopen hname in
/-- What `Speaker_SetVolume` leaves on the lines. -/
theorem setVolume_levels (level : Level) (o : SetOutcomes) :
    (setVolume level.value o s).2.bus.level en1Pin =
        (if o.en1Set then if level.value &&& spkrEn1Bit = spkrEn1Bit then 1 else 0
          else s.bus.level en1Pin) ∧
      (setVolume level.value o s).2.bus.level en2Pin =
        (if o.en2Set then if level.value &&& spkrEn2Bit = spkrEn2Bit then 1 else 0
          else s.bus.level en2Pin) := by
  have hle : ¬ level.value > maxVolumeLevel := UInt32.not_lt.2 level.le_max
  have hen1 : ∀ v ok, ⟨c, gpioOffsetSpkrEn1⟩ ∈
      (s.bus.lineSetValue ⟨c, gpioOffsetSpkrEn2⟩ v ok).2.requested := by
    intro v ok
    rw [Bus.requested_lineSetValue]
    exact hopen.en1Requested
  simp only [setVolume, hopen.en1Line, hopen.en2Line, hle, if_false,
    Bus.level_lineSetValue (hen1 _ _), Bus.level_lineSetValue hopen.en2Requested, pin_en1 hname,
    pin_en2 hname, en1Pin_ne_en2Pin, en1Pin_ne_en2Pin.symm, and_false, and_true, and_self]

include hopen hname in
/-- A level is shown exactly if `Speaker_SetVolume` returns no error, which it does exactly if
both lines are set. -/
theorem setVolume_of_open (level : Level) (o : SetOutcomes) :
    ((setVolume level.value o s).1 = .errorNone ↔ o.en1Set ∧ o.en2Set) ∧
      (o.en1Set → o.en2Set → (setVolume level.value o s).2.volume = level.value.toNat) := by
  have hle : ¬ level.value > maxVolumeLevel := UInt32.not_lt.2 level.le_max
  have hen1 : ∀ v, ⟨c, gpioOffsetSpkrEn1⟩ ∈
      (s.bus.lineSetValue ⟨c, gpioOffsetSpkrEn2⟩ v o.en2Set).2.requested := by
    intro v
    rw [Bus.requested_lineSetValue]
    exact hopen.en1Requested
  constructor
  · simp only [setVolume, hopen.en1Line, hopen.en2Line, hle, if_false]
    rw [Bus.lineSetValue_fst hopen.en2Requested, Bus.lineSetValue_fst (hen1 _)]
    cases o.en1Set <;> cases o.en2Set <;> simp
  · intro hset1 hset2
    obtain ⟨h1, h2⟩ := setVolume_levels hopen hname level o
    rw [Device.volume, h1, h2, if_pos hset1, if_pos hset2]
    exact digits_of_le level.le_max

include hopen hname in
/-- What `CloseVolumePins` leaves on the lines. -/
theorem closeVolumePins_volume (o : SetOutcomes) :
    (closeVolumePins o s).2.volume = 2 * (if o.en1Set then 0 else s.bus.level en1Pin) +
      (if o.en2Set then 0 else s.bus.level en2Pin) := by
  have hne : (⟨c, gpioOffsetSpkrEn1⟩ : Line) ≠ ⟨c, gpioOffsetSpkrEn2⟩ := by
    simp [gpioOffsetSpkrEn1, gpioOffsetSpkrEn2]
  have hen1 : ⟨c, gpioOffsetSpkrEn1⟩ ∈
      ((s.bus.lineSetValue ⟨c, gpioOffsetSpkrEn2⟩ 0 o.en2Set).2.lineRelease
        ⟨c, gpioOffsetSpkrEn2⟩).requested := by
    rw [Bus.mem_requested_lineRelease, Bus.requested_lineSetValue]
    exact ⟨hopen.en1Requested, hne⟩
  simp only [closeVolumePins, closeLine, hopen.chip, hopen.en1Line, hopen.en2Line, Device.volume,
    Bus.level_chipClose, Bus.level_lineRelease, Bus.level_lineSetValue hen1,
    Bus.level_lineSetValue hopen.en2Requested, pin_en1 hname, pin_en2 hname, en1Pin_ne_en2Pin,
    en1Pin_ne_en2Pin.symm, and_false, and_true, if_false]

include hopen hname in
/-- `Speaker_DeInit` turns the amplifier off, unless a line that is on cannot be set. -/
theorem deInit_volume (kernel : Kernel) (o : SetOutcomes) (hstate : s.state = .inited) :
    (deInit kernel o s).2.volume = 0 ↔
      (o.en1Set ∨ s.bus.level en1Pin = 0) ∧ (o.en2Set ∨ s.bus.level en2Pin = 0) := by
  have hsound := (pwmWrite_soundOnly kernel .dutyCycle 0 s).trans
    (pwmWrite_soundOnly kernel .enable 0 _)
  have hclose := closeVolumePins_volume (hopen.of_samePins hsound.samePins) hname o
  rw [hsound.bus] at hclose
  have hvolume : (deInit kernel o s).2.volume = 2 * (if o.en1Set then 0 else s.bus.level en1Pin) +
      (if o.en2Set then 0 else s.bus.level en2Pin) := by
    unfold deInit
    rw [if_neg (not_not.2 hstate)]
    exact hclose
  rw [hvolume]
  split_ifs <;> grind

end Open

/-- A `Speaker_Init` that succeeds from closed lines has them both at 0, on the chip of the
module. -/
theorem openVolumePins_volume {o : PinOutcomes} {s : Device} (hclosed : PinsClosed s)
    (hnone : (openVolumePins o s).1 = .errorNone) :
    (openVolumePins o s).2.volume = 0 ∧
      ∀ c, (openVolumePins o s).2.chip = some c → c.name = chipName := by
  have hchip : openChip true s =
      { s with chip := some ⟨s.bus.nextHandle, chipName⟩, bus := s.bus.opening chipName } := by
    simp only [openChip, hclosed.chip]
    rfl
  cases hopens : o.chipOpens with
  | false =>
      have hfails : (openVolumePins o s).1 = .gpioErrorOpenChip := by
        rcases openVolumePins_cases o hclosed with ⟨_, heq⟩ | ⟨htrue, _⟩ | ⟨hwork, _⟩
        · rw [heq]
        · simp [hopens] at htrue
        · simp [PinOutcomes.Work, hopens] at hwork
      rw [hfails] at hnone
      cases hnone
  | true =>
      revert hnone
      simp only [openVolumePins, hopens, hchip]
      rcases Bus.takeLine_cases (s.bus.opening chipName) ⟨s.bus.nextHandle, chipName⟩
        gpioOffsetSpkrEn1 (some 0) o.en1Line o.en1Request with
        ⟨hgrant1, _, _, htake1⟩ | ⟨_, l, htake1⟩
      · simp only [htake1, not_true_eq_false, if_false]
        rcases Bus.takeLine_cases ((s.bus.opening chipName).requesting
          ⟨⟨s.bus.nextHandle, chipName⟩, gpioOffsetSpkrEn1⟩ (some 0) hgrant1)
          ⟨s.bus.nextHandle, chipName⟩ gpioOffsetSpkrEn2 (some 0) o.en2Line o.en2Request with
          ⟨hgrant2, _, _, htake2⟩ | ⟨_, l, htake2⟩
        · simp only [htake2, not_true_eq_false, if_false]
          intro _
          refine ⟨?_, fun c hc => ?_⟩
          · simp [Device.volume, Bus.level_requesting, pin_en1, pin_en2]
          · cases hc
            rfl
        · simp [htake2]
      · simp [htake1]

/-- A `Speaker_Init` that acquires all or nothing starts the amplifier with both lines at 0, or it
leaves the chip and the lines as they are. -/
theorem init_volume {o : InitOutcomes} {s : Device} (h : Holds s)
    (hall : AcquiresAllOrNothing s (.init o)) :
    (s.state = .ended ∧ o.Work ∧ (init o s).2.state = .inited ∧ (init o s).2.volume = 0 ∧
      ∀ c, (init o s).2.chip = some c → c.name = chipName) ∨
    (¬ (s.state = .ended ∧ o.Work) ∧ (init o s).2.state = s.state ∧
      (init o s).2.bus = s.bus ∧ (init o s).2.chip = s.chip) := by
  rcases init_cases o s with ⟨hne, hinit⟩ | ⟨_, hlisting, hinit⟩ |
    ⟨listing, _, _, hexport, hinit⟩ | ⟨listing, hstate, hlisting, hexport, error, s', hpins, hinit⟩
  · rw [hinit]
    exact .inr ⟨fun hended => hne hended.1, rfl, rfl, rfl⟩
  · rw [hinit]
    exact .inr ⟨fun hended => hended.2.1 hlisting, rfl, rfl, rfl⟩
  · rw [hinit]
    exact .inr ⟨fun hended => hended.2.2.1 hexport, rfl, rfl, rfl⟩
  · have hclosed : PinsClosed (exporting listing o.exported s) := by
      cases h with
      | inited c hinited _ => simp [hstate] at hinited
      | ended _ hclosed => exact hclosed.of_samePins (exporting_samePins listing o.exported s)
    have hlisted : o.listing ≠ none := by simp [hlisting]
    have hvolume := openVolumePins_volume (o := o.pins) hclosed
    rw [hinit]
    rw [hpins] at hvolume
    rcases openVolumePins_cases o.pins hclosed with
      ⟨hchip, hopen⟩ | ⟨hchip, hwork, _⟩ | ⟨hwork, s'', c, hopen, _⟩
    · cases hpins.symm.trans hopen
      exact .inr ⟨fun hended => by simp [hended.2.2.2.1] at hchip, rfl, rfl, rfl⟩
    · exact absurd (hall o rfl hstate hlisted hexport hchip) hwork
    · cases hpins.symm.trans hopen
      obtain ⟨hzero, hname⟩ := hvolume rfl
      exact .inl ⟨hstate, ⟨hlisted, hexport, hwork⟩, rfl, hzero, hname⟩

/-! ## Runs -/

/-- The module and the amplifier agree. -/
structure Amplified.Agree (p : Amplified) : Prop where
  holds : Holds p.1
  named : ∀ c, p.1.chip = some c → c.name = chipName
  on : p.1.state = .inited ↔ ∃ level, p.2 = .on level
  volume : p.1.volume = p.2.volume

namespace Amplified

variable {s : Device} {a : Amplifier}

/-- A call that changes neither the lines nor the amplifier. -/
theorem Agree.of_same {s' : Device} (h : Agree (s, a)) (hstate : s'.state = s.state)
    (hpins : SamePins s s') (hvolume : s'.volume = s.volume) : Agree (s', a) where
  holds := h.holds.of_same hstate hpins
  named c hc := h.named c (hpins.chip ▸ hc)
  on := by
    show s'.state = .inited ↔ _
    rw [hstate]
    exact h.on
  volume := hvolume.trans h.volume

/-- A module that is initialised drives an amplifier that is on. -/
theorem Agree.cases (h : Agree (s, a)) :
    (∃ level c, a = .on level ∧ s.state = .inited ∧ PinsOpen s c ∧ c.name = chipName) ∨
    (∃ left, a = .off left ∧ s.state = .ended ∧ PinsClosed s) := by
  obtain ⟨hholds, hnamed, hon, _⟩ := h
  cases hholds with
  | inited c hstate hopen =>
      obtain ⟨level, hlevel⟩ := hon.1 hstate
      exact .inl ⟨level, c, hlevel, hstate, hopen, hnamed c hopen.chip⟩
  | ended hstate hclosed =>
      cases a with
      | on level =>
          have hinited := hon.2 ⟨level, rfl⟩
          cases hstate.symm.trans hinited
      | off left => exact .inr ⟨left, rfl, hstate, hclosed⟩

/-- What the agreement after a call means for it. -/
theorem Agree.follows {kernel : Kernel} {call : Call} (h : Agree (step kernel (s, a) call))
    (hreply : ∀ value o, call = .setVolume value o → (setVolume value o s).1 = a.reply value) :
    FollowsAmplifier kernel (s, a) call :=
  ⟨h.volume, hreply⟩

theorem Agree.init (h : Agree (s, a)) {o : InitOutcomes}
    (hall : AcquiresAllOrNothing s (.init o)) (kernel : Kernel) :
    Agree (step kernel (s, a) (.init o)) := by
  have hholds : Holds (Speaker.init o s).2 := by
    rcases h.holds.init o with ⟨_, hkept⟩ | ⟨hfails, _⟩
    · exact hkept
    · exact absurd hall hfails
  show Agree ((Speaker.init o s).2, a.next (.init o))
  rcases init_volume h.holds hall with
    ⟨hended, hwork, hinited, hzero, hname⟩ | ⟨hrefused, hstate, hbus, hchip⟩
  · rcases h.cases with ⟨level, c, rfl, hon, _⟩ | ⟨left, rfl, _, _⟩
    · cases hended.symm.trans hon
    · have hnext : (Amplifier.off left).next (.init o) = .on ⟨0, Amplifier.zero_le_max⟩ :=
        if_pos hwork
      rw [hnext]
      exact ⟨hholds, hname, iff_of_true hinited ⟨_, rfl⟩, hzero⟩
  · have hnext : a.next (.init o) = a := by
      rcases h.cases with ⟨level, c, rfl, _⟩ | ⟨left, rfl, hended, _⟩
      · rfl
      · exact if_neg fun hwork => hrefused ⟨hended, hwork⟩
    rw [hnext]
    refine ⟨hholds, fun c hc => h.named c (hchip ▸ hc), ?_, ?_⟩
    · show (Speaker.init o s).2.state = .inited ↔ _
      rw [hstate]
      exact h.on
    · show (Speaker.init o s).2.volume = _
      rw [Device.volume, hbus]
      exact h.volume

theorem Agree.setVolume (h : Agree (s, a)) (kernel : Kernel) (value : UInt32) (o : SetOutcomes) :
    (SetsTakeEffect s (.setVolume value o) ∧ Agree (step kernel (s, a) (.setVolume value o)) ∧
      (Speaker.setVolume value o s).1 = a.reply value) ∨
    (¬ SetsTakeEffect s (.setVolume value o) ∧
      (Speaker.setVolume value o s).1 ≠ a.reply value) := by
  have hpins := setVolume_pinsOnly value o s
  have hsame := setVolume_samePins value o s
  rcases h.cases with ⟨old, c, rfl, hstate, hopen, hname⟩ | ⟨left, rfl, hended, hclosed⟩
  · by_cases hle : value ≤ maxVolumeLevel
    · obtain ⟨herror, hshown⟩ := setVolume_of_open hopen hname ⟨value, hle⟩ o
      have hreply : (Amplifier.on old).reply value = .errorNone := if_pos hle
      have hnext : (Amplifier.on old).next (.setVolume value o) = .on ⟨value, hle⟩ := dif_pos hle
      rw [hreply]
      by_cases hset : o.en1Set ∧ o.en2Set
      · refine .inl ⟨fun _ _ => hset, ?_, herror.2 hset⟩
        show Agree ((Speaker.setVolume value o s).2, (Amplifier.on old).next (.setVolume value o))
        rw [hnext]
        exact ⟨h.holds.of_same hpins.state hsame, fun c hc => h.named c (hsame.chip ▸ hc),
          iff_of_true (hpins.state.trans hstate) ⟨_, rfl⟩, hshown hset.1 hset.2⟩
      · exact .inr ⟨fun htake => hset (htake hstate hle), fun hnone => hset (herror.1 hnone)⟩
    · have hreply : (Amplifier.on old).reply value = .errorOutOfBounds := if_neg hle
      have hnext : (Amplifier.on old).next (.setVolume value o) = .on old := dif_neg hle
      have hrefused := setVolume_of_large hopen hle o
      refine .inl ⟨fun _ hle' => absurd hle' hle, ?_, by rw [hrefused, hreply]⟩
      show Agree ((Speaker.setVolume value o s).2, (Amplifier.on old).next (.setVolume value o))
      rw [hnext, hrefused]
      exact h
  · have hrefused : Speaker.setVolume value o s = (.errorSysfs, s) := by
      simp only [Speaker.setVolume, hclosed.en1Line]
    refine .inl ⟨fun hinited => by simp [hended] at hinited, ?_, by rw [hrefused]; rfl⟩
    show Agree ((Speaker.setVolume value o s).2, Amplifier.off left)
    rw [hrefused]
    exact h

theorem Agree.deInit (h : Agree (s, a)) (kernel : Kernel) (o : SetOutcomes) :
    (SetsTakeEffect s (.deInit o) ∧ Agree (step kernel (s, a) (.deInit o))) ∨
    (¬ SetsTakeEffect s (.deInit o) ∧
      (step kernel (s, a) (.deInit o)).1.volume ≠ (step kernel (s, a) (.deInit o)).2.volume) := by
  have hholds := h.holds.deInit kernel o
  rcases h.cases with ⟨level, c, rfl, hstate, hopen, hname⟩ | ⟨left, rfl, hended, hclosed⟩
  · have hvolume := deInit_volume hopen hname kernel o hstate
    have hafter : (Speaker.deInit kernel o s).2.state = .ended ∧
        (Speaker.deInit kernel o s).2.chip = none := by
      unfold Speaker.deInit
      rw [if_neg (not_not.2 hstate)]
      exact ⟨rfl, rfl⟩
    by_cases hset : (o.en1Set ∨ s.bus.level en1Pin = 0) ∧ (o.en2Set ∨ s.bus.level en2Pin = 0)
    · refine .inl ⟨fun _ => hset, hholds, ?_, ?_, ?_⟩
      · intro c hc
        cases hc.symm.trans hafter.2
      · refine iff_of_false (fun hinited => ?_) nofun
        cases hinited.symm.trans hafter.1
      · show (Speaker.deInit kernel o s).2.volume = 0
        exact hvolume.2 hset
    · exact .inr ⟨fun htake => hset (htake hstate), fun hzero => hset (hvolume.1 hzero)⟩
  · have hrefused : (Speaker.deInit kernel o s).2 = s := by
      simp [Speaker.deInit, hended]
    refine .inl ⟨fun hinited => by simp [hended] at hinited, ?_⟩
    show Agree ((Speaker.deInit kernel o s).2, Amplifier.off left)
    rw [hrefused]
    exact h

/-- One call. -/
theorem Agree.call (h : Agree (s, a)) {call : Call} (hall : AcquiresAllOrNothing s call)
    (kernel : Kernel) :
    (SetsTakeEffect s call ∧ Agree (step kernel (s, a) call) ∧
      FollowsAmplifier kernel (s, a) call) ∨
    (¬ SetsTakeEffect s call ∧ ¬ FollowsAmplifier kernel (s, a) call) := by
  cases call with
  | init o =>
      have hnext := h.init hall kernel
      exact .inl ⟨trivial, hnext, hnext.follows nofun⟩
  | playPitch frequency =>
      have hsound := playPitch_soundOnly kernel frequency s
      have hnext : Agree (step kernel (s, a) (.playPitch frequency)) := by
        have hsame : a.next (.playPitch frequency) = a := by
          cases a <;> rfl
        show Agree ((playPitch kernel frequency s).2, a.next (.playPitch frequency))
        rw [hsame]
        refine h.of_same hsound.state hsound.samePins ?_
        rw [Device.volume, hsound.bus]
        rfl
      exact .inl ⟨trivial, hnext, hnext.follows nofun⟩
  | setVolume value o =>
      rcases h.setVolume kernel value o with ⟨htake, hnext, hreply⟩ | ⟨hfails, hreply⟩
      · refine .inl ⟨htake, hnext, hnext.follows fun value' o' heq => ?_⟩
        cases heq
        exact hreply
      · exact .inr ⟨hfails, fun hfollows => hreply (hfollows.2 value o rfl)⟩
  | deInit o =>
      rcases h.deInit kernel o with ⟨htake, hnext⟩ | ⟨hfails, hvolume⟩
      · exact .inl ⟨htake, hnext, hnext.follows nofun⟩
      · exact .inr ⟨hfails, fun hfollows => hvolume hfollows.1⟩

end Amplified

/-- As long as every `Speaker_Init` acquires all of its lines or none, and from whatever the lines
are left at when the program starts, the module drives the two lines as the amplifier is asked for
and answers as it would after every call, exactly if no call fails to set a line that it depends
on. -/
theorem amplifier_followed (kernel : Kernel) (pwm : Pwm) (bus : Bus)
    (hfree : ∀ l ∈ bus.requested, l.chip.name ≠ chipName) (calls : List Call)
    (hall : EveryCall (Call.step kernel) AcquiresAllOrNothing (.initial pwm bus) calls) :
    EveryCall (Amplified.step kernel) (FollowsAmplifier kernel)
        (.initial pwm bus, .off (Device.initial pwm bus).volume) calls ↔
      EveryCall (Call.step kernel) SetsTakeEffect (.initial pwm bus) calls := by
  have hstart : Amplified.Agree (.initial pwm bus, .off (Device.initial pwm bus).volume) :=
    ⟨.ended rfl ⟨rfl, rfl, rfl, hfree⟩, nofun, iff_of_false nofun nofun, rfl⟩
  symm
  refine EveryCall.iff_of_related_of (R := fun s p => p.1 = s ∧ p.Agree) ?_ ?_ ⟨rfl, hstart⟩ hall
  · rintro s ⟨_, a⟩ call ⟨rfl, hagree⟩ hacquires
    rcases hagree.call hacquires kernel with ⟨htake, _, hfollows⟩ | ⟨hfails, hlost⟩
    · exact iff_of_true htake hfollows
    · exact iff_of_false hfails hlost
  · rintro s ⟨_, a⟩ call ⟨rfl, hagree⟩ hacquires hfollows
    rcases hagree.call hacquires kernel with ⟨_, hnext, _⟩ | ⟨_, hlost⟩
    · exact ⟨rfl, hnext⟩
    · exact absurd hfollows hlost

/-- A session at full volume. If the first line cannot be set when it ends, nothing reports it, and
the line stays on. -/
theorem amplifier_followed_session :
    EveryCall (Amplified.step acceptAll) (FollowsAmplifier acceptAll)
        (.initial ⟨0, 0, 0⟩ .empty, .off (Device.initial ⟨0, 0, 0⟩ .empty).volume)
        [.init workingInit, .setVolume 3 ⟨true, true⟩, .deInit ⟨true, true⟩] ∧
      ¬ EveryCall (Amplified.step acceptAll) (FollowsAmplifier acceptAll)
        (.initial ⟨0, 0, 0⟩ .empty, .off (Device.initial ⟨0, 0, 0⟩ .empty).volume)
        [.init workingInit, .setVolume 3 ⟨true, true⟩, .deInit ⟨false, true⟩] := by
  have hall (o : SetOutcomes) :
      EveryCall (Call.step acceptAll) AcquiresAllOrNothing (.initial ⟨0, 0, 0⟩ .empty)
        [.init workingInit, .setVolume 3 ⟨true, true⟩, .deInit o] := by
    refine ⟨?_, nofun, nofun, trivial⟩
    intro o ho _ _ _ _
    cases ho
    decide
  constructor
  · rw [amplifier_followed _ _ _ (by simp [Bus.empty]) _ (hall _)]
    exact ⟨trivial, fun _ _ => ⟨rfl, rfl⟩, fun _ => ⟨.inl rfl, .inl rfl⟩, trivial⟩
  · rw [amplifier_followed _ _ _ (by simp [Bus.empty]) _ (hall _)]
    intro htake
    have hset := (htake.2.2.1 (by decide)).1
    revert hset
    decide

end BatteryInfo.Speaker
