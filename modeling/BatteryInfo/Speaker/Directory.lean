import BatteryInfo.Speaker.Pins

/-!
# The directory of the speaker

`SpeakerDir` has room for `PWM_DIR` and nine characters, a longer name is cut off, and it keeps
its value when the directory has no entry to show. So `Export` opens the file of the chip that
was found exactly if there is one and its name is no longer than that (`drives_found_chip`).
Nothing else goes wrong with the paths: the buffer that `PWMFileWriteInt` allocates is long
enough for every path of a run (`paths_complete`).
-/

namespace BatteryInfo.Speaker

open Gpiod

/-- The path that `PWMFileWriteInt` prints into its buffer of `len` characters. -/
def subdirFile (speakerDir subDir : List Char) : List Char :=
  let subdirStrlen := min subDir.length 255
  let len := min speakerDir.length speakerPwmDirLen + subdirStrlen + 2
  (speakerDir ++ '/' :: subDir).take (len - 1)

/-- The path that `PWMFileWriteInt` passes to `fopen`. -/
def Write.opened (w : Write) : List Char :=
  subdirFile w.speakerDir w.subDir.name.toList

/-- The paths that a `Speaker_Init` passes to `fopen`. -/
def openedBy (o : InitOutcomes) (s : Device) : List (List Char) :=
  ((init o s).2.writes.drop s.writes.length).map Write.opened

/-- The last name that is not hidden. -/
def lastVisible (listing : List (List Char)) : Option (List Char) :=
  (listing.filter fun name => name.head? ≠ some '.').getLast?

/-- `Export` opens the file of the last chip that is listed, and if there is none `Speaker_Init`
returns an error and opens nothing. -/
def DrivesFoundChip (listing : List (List Char)) (o : InitOutcomes) (s : Device) : Prop :=
  match lastVisible listing with
  | some name => openedBy o s = [pwmDir ++ name ++ "/export".toList]
  | none => (init o s).1 ≠ .errorNone ∧ openedBy o s = []

/-- There is a chip, and its path and the terminator fit into `SpeakerDir`: the name has at most
nine characters. -/
def FoundChipFits (listing : List (List Char)) : Prop :=
  ∃ name, lastVisible listing = some name ∧ pwmDir.length + name.length < speakerPwmDirLen

/-- Nothing is cut off from the path of a file below a directory that fits into `SpeakerDir`. -/
theorem subdirFile_of_fits {speakerDir subDir : List Char}
    (hdir : speakerDir.length < speakerPwmDirLen) (hsub : subDir.length ≤ 255) :
    subdirFile speakerDir subDir = speakerDir ++ '/' :: subDir := by
  unfold subdirFile
  dsimp only
  rw [Nat.min_eq_left hdir.le, Nat.min_eq_left hsub]
  refine List.take_of_length_le ?_
  rw [List.length_append, List.length_cons]
  omega

theorem subDir_name_length (subDir : SubDir) : subDir.name.toList.length ≤ 255 := by
  cases subDir with
  | exportFile => decide
  | pwm0 file => cases file <;> decide

theorem Write.opened_of_fits {w : Write} (hfits : w.speakerDir.length < speakerPwmDirLen) :
    w.opened = w.path :=
  subdirFile_of_fits hfits (subDir_name_length w.subDir)

/-! ## The loop over the directory -/

/-- One more round of the loop. -/
theorem readListing_concat (before : List (List Char)) (name speakerDir : List Char) :
    readListing (before ++ [name]) speakerDir =
      if name.head? = some '.' then readListing before speakerDir
      else (pwmDir ++ name).take (speakerPwmDirLen - 1) := by
  simp [readListing, List.foldl_append]

/-- The loop keeps the last name it prints, as far as there is room for it. -/
theorem readListing_eq (listing : List (List Char)) (speakerDir : List Char) :
    readListing listing speakerDir =
      ((lastVisible listing).map fun name => (pwmDir ++ name).take (speakerPwmDirLen - 1)).getD
        speakerDir := by
  unfold lastVisible
  induction listing using List.reverseRecOn with
  | nil => rfl
  | append_singleton before name ih =>
      rw [readListing_concat, ih, List.filter_append]
      by_cases hhidden : name.head? = some '.'
      · simp [hhidden]
      · simp [hhidden]

theorem readListing_of_visible {listing : List (List Char)} {name : List Char}
    (hlast : lastVisible listing = some name) (speakerDir : List Char) :
    readListing listing speakerDir = (pwmDir ++ name).take (speakerPwmDirLen - 1) := by
  rw [readListing_eq, hlast]
  rfl

/-- What the loop leaves in `SpeakerDir` has room for its terminator. -/
theorem readListing_fits {speakerDir : List Char} (hfits : speakerDir.length < speakerPwmDirLen)
    (listing : List (List Char)) :
    (readListing listing speakerDir).length < speakerPwmDirLen := by
  cases hlast : lastVisible listing with
  | none =>
      rw [readListing_eq, hlast]
      exact hfits
  | some name =>
      rw [readListing_of_visible hlast, List.length_take]
      have hroom : 0 < speakerPwmDirLen := Nat.zero_lt_of_lt hfits
      omega

/-- After a `Speaker_Init` that lists the directory, `SpeakerDir` and the writes are as the export
leaves them. -/
theorem init_listed {o : InitOutcomes} {s : Device} {listing : List (List Char)}
    (hstate : s.state = .ended) (hlisting : o.listing = some listing) :
    (init o s).2.speakerDir = readListing listing s.speakerDir ∧
      (init o s).2.writes = (exporting listing o.exported s).writes := by
  rcases init_cases o s with ⟨hne, _⟩ | ⟨_, hnone, _⟩ | ⟨listing', _, hlisting', _, hinit⟩ |
    ⟨listing', _, hlisting', _, error, s', hpins, hinit⟩
  · exact absurd hstate hne
  · simp [hlisting] at hnone
  · cases hlisting.symm.trans hlisting'
    rw [hinit]
    exact ⟨rfl, rfl⟩
  · cases hlisting.symm.trans hlisting'
    have hsame := openVolumePins_pinsOnly o.pins (exporting listing o.exported s)
    rw [hpins] at hsame
    rw [hinit]
    dsimp only
    split <;> exact ⟨hsame.speakerDir, hsame.writes⟩

/-- A `Speaker_Init` that lists the directory opens the file `export` below `SpeakerDir`, whatever
the loop has left there. -/
theorem openedBy_of_listing {o : InitOutcomes} {s : Device} {listing : List (List Char)}
    (hstate : s.state = .ended) (hlisting : o.listing = some listing) :
    openedBy o s = [subdirFile (readListing listing s.speakerDir) "export".toList] := by
  rw [openedBy, (init_listed hstate hlisting).2, exporting, List.drop_left]
  rfl

/-! ## The paths of a run -/

/-- What is written between two states goes below the directory of the first. -/
structure WritesThere (s s' : Device) : Prop where
  speakerDir : s'.speakerDir = s.speakerDir
  writes : ∃ new, s'.writes = s.writes ++ new ∧ ∀ w ∈ new, w.speakerDir = s.speakerDir

theorem WritesThere.trans {s s' s'' : Device} (h : WritesThere s s') (h' : WritesThere s' s'') :
    WritesThere s s'' := by
  obtain ⟨new, hnew, hdirs⟩ := h.writes
  obtain ⟨new', hnew', hdirs'⟩ := h'.writes
  refine ⟨h'.speakerDir.trans h.speakerDir, new ++ new', ?_, ?_⟩
  · rw [hnew', hnew, List.append_assoc]
  · intro w hw
    rcases List.mem_append.1 hw with hw | hw
    · exact hdirs w hw
    · exact (hdirs' w hw).trans h.speakerDir

theorem PinsOnly.writesThere {s s' : Device} (h : PinsOnly s s') : WritesThere s s' :=
  ⟨h.speakerDir, [], by rw [h.writes, List.append_nil], by simp⟩

theorem pwmWrite_writesThere (kernel : Kernel) (file : PwmFile) (value : Nat) (s : Device) :
    WritesThere s (pwmWrite kernel file value s).2 :=
  ⟨(pwmWrite_soundOnly kernel file value s).speakerDir, _, pwmWrite_writes kernel file value s,
    by simp⟩

theorem setPitch_writesThere (kernel : Kernel) (frequency : UInt16) (s : Device) :
    WritesThere s (setPitch kernel frequency s) := by
  have hperiod : WritesThere s
      (if frequency = 0 then s else (pwmWrite kernel .period (periodns frequency) s).2) := by
    split
    · exact (PinsOnly.refl s).writesThere
    · exact pwmWrite_writesThere _ _ _ _
  have hduty := hperiod.trans
    (pwmWrite_writesThere kernel .dutyCycle (dutyCyclens frequency) _)
  have henable := hduty.trans
    (pwmWrite_writesThere kernel .enable (if frequency = 0 then 0 else 1) _)
  exact ⟨henable.speakerDir, henable.writes⟩

theorem deInit_writesThere (kernel : Kernel) (o : SetOutcomes) (s : Device) :
    WritesThere s (deInit kernel o s).2 := by
  unfold deInit
  split
  · exact (PinsOnly.refl s).writesThere
  · have hwrites := (pwmWrite_writesThere kernel .dutyCycle 0 s).trans
      (pwmWrite_writesThere kernel .enable 0 _)
    exact ⟨hwrites.speakerDir, hwrites.writes⟩

/-- Only a `Speaker_Init` changes where the module writes to. -/
theorem call_writesThere (kernel : Kernel) (s : Device) {call : Call}
    (hcall : ∀ o, call ≠ .init o) : WritesThere s (call.step kernel s) := by
  cases call with
  | init o => exact absurd rfl (hcall o)
  | playPitch frequency =>
      show WritesThere s (playPitch kernel frequency s).2
      unfold playPitch
      split
      · exact (PinsOnly.refl s).writesThere
      · split
        · exact (PinsOnly.refl s).writesThere
        · exact setPitch_writesThere kernel frequency s
  | setVolume level o => exact (setVolume_pinsOnly level o s).writesThere
  | deInit o => exact deInit_writesThere kernel o s

/-- `SpeakerDir` and the directories that were written to have room for their terminators. -/
structure DirsFit (s : Device) : Prop where
  speakerDir : s.speakerDir.length < speakerPwmDirLen
  writes : ∀ w ∈ s.writes, w.speakerDir.length < speakerPwmDirLen

theorem DirsFit.writesThere {s s' : Device} (h : DirsFit s) (hwrites : WritesThere s s') :
    DirsFit s' := by
  obtain ⟨hdir, new, hnew, hdirs⟩ := hwrites
  refine ⟨hdir ▸ h.speakerDir, ?_⟩
  intro w hw
  rw [hnew] at hw
  rcases List.mem_append.1 hw with hw | hw
  · exact h.writes w hw
  · exact hdirs w hw ▸ h.speakerDir

theorem DirsFit.exporting {s : Device} (h : DirsFit s) (listing : List (List Char))
    (exported : ExportOutcome) : DirsFit (exporting listing exported s) := by
  have hdir := readListing_fits h.speakerDir listing
  refine ⟨hdir, ?_⟩
  intro w hw
  rcases List.mem_append.1 hw with hw | hw
  · exact h.writes w hw
  · cases List.mem_singleton.1 hw
    exact hdir

theorem DirsFit.init {s : Device} (h : DirsFit s) (o : InitOutcomes) : DirsFit (init o s).2 := by
  have hlisted (listing : List (List Char)) (hstate : s.state = .ended)
      (hlisting : o.listing = some listing) : DirsFit (Speaker.init o s).2 := by
    obtain ⟨hdir, hwrites⟩ := init_listed hstate hlisting
    have hexporting := h.exporting listing o.exported
    exact ⟨hdir ▸ hexporting.speakerDir, hwrites ▸ hexporting.writes⟩
  rcases init_cases o s with ⟨_, hinit⟩ | ⟨_, _, hinit⟩ | ⟨listing, hstate, hlisting, _⟩ |
    ⟨listing, hstate, hlisting, _⟩
  · rw [hinit]
    exact h
  · rw [hinit]
    exact h
  · exact hlisted listing hstate hlisting
  · exact hlisted listing hstate hlisting

/-- What one call does to the directories. -/
theorem DirsFit.call {s : Device} (h : DirsFit s) (kernel : Kernel) (call : Call) :
    DirsFit (call.step kernel s) := by
  cases call with
  | init o => exact h.init o
  | playPitch frequency => exact h.writesThere (call_writesThere kernel s (by simp))
  | setVolume level o => exact h.writesThere (call_writesThere kernel s (by simp))
  | deInit o => exact h.writesThere (call_writesThere kernel s (by simp))

theorem DirsFit.calls {s : Device} (h : DirsFit s) (kernel : Kernel) (calls : List Call) :
    DirsFit (calls.foldl (Call.step kernel) s) := by
  induction calls generalizing s with
  | nil => exact h
  | cons call rest ih => exact ih (h.call kernel call)

/-- In a run from the start of the program no path is cut off by `PWMFileWriteInt`. -/
theorem paths_complete (kernel : Kernel) (pwm : Pwm) (bus : Bus) (calls : List Call) (w : Write)
    (hw : w ∈ (calls.foldl (Call.step kernel) (.initial pwm bus)).writes) :
    w.opened = w.path := by
  have hinitial : DirsFit (.initial pwm bus) := ⟨by simp [Device.initial, speakerPwmDirLen], nofun⟩
  exact Write.opened_of_fits ((hinitial.calls kernel calls).writes w hw)

theorem writesThere_calls (kernel : Kernel) (s : Device) (calls : List Call)
    (hcalls : ∀ call ∈ calls, ∀ o, call ≠ .init o) :
    WritesThere s (calls.foldl (Call.step kernel) s) := by
  induction calls generalizing s with
  | nil => exact (PinsOnly.refl s).writesThere
  | cons call rest ih =>
      have hcall := call_writesThere kernel s (hcalls call List.mem_cons_self)
      exact hcall.trans (ih _ fun c hc => hcalls c (List.mem_cons_of_mem call hc))

/-- From a `Speaker_Init` that finds a chip with a short name to the next one, everything is
written below the directory of that chip. -/
theorem writes_below_chip (kernel : Kernel) (o : InitOutcomes) (s : Device)
    (listing : List (List Char)) (name : List Char) (hstate : s.state = .ended)
    (hlisting : o.listing = some listing) (hlast : lastVisible listing = some name)
    (hfits : pwmDir.length + name.length < speakerPwmDirLen) (calls : List Call)
    (hcalls : ∀ call ∈ calls, ∀ o, call ≠ .init o) (w : Write)
    (hw : w ∈ (calls.foldl (Call.step kernel) (init o s).2).writes.drop s.writes.length) :
    w.opened = pwmDir ++ name ++ '/' :: w.subDir.name.toList := by
  obtain ⟨hdir, hwrites⟩ := init_listed hstate hlisting
  have hname : readListing listing s.speakerDir = pwmDir ++ name := by
    rw [readListing_of_visible hlast]
    refine List.take_of_length_le ?_
    rw [List.length_append]
    omega
  obtain ⟨_, new, hnew, hdirs⟩ := writesThere_calls kernel (init o s).2 calls hcalls
  rw [hnew, hwrites, exporting, List.append_assoc, List.drop_left] at hw
  have hchip : w.speakerDir = pwmDir ++ name := by
    rcases List.mem_append.1 hw with hw | hw
    · cases List.mem_singleton.1 hw
      exact hname
    · rw [hdirs w hw, hdir]
      exact hname
  have hroom : w.speakerDir.length < speakerPwmDirLen := by
    rw [hchip, List.length_append]
    exact hfits
  rw [Write.opened_of_fits hroom, Write.path, hchip]

/-- A `Speaker_Init` that lists the directory opens the right path exactly if there is a chip in
the list and the name of the last one has at most nine characters. -/
theorem drives_found_chip (o : InitOutcomes) (s : Device) (listing : List (List Char))
    (hstate : s.state = .ended) (hlisting : o.listing = some listing) :
    DrivesFoundChip listing o s ↔ FoundChipFits listing := by
  have hopened := openedBy_of_listing hstate hlisting
  unfold DrivesFoundChip FoundChipFits
  cases hlast : lastVisible listing with
  | none =>
      -- SpeakerDir keeps what it held, and the file below that is opened
      refine iff_of_false (fun h => ?_) (by simp)
      have hnone : openedBy o s = [] := h.2
      simp [hopened] at hnone
  | some name =>
      have hdir := readListing_of_visible hlast s.speakerDir
      have hfits : (readListing listing s.speakerDir).length < speakerPwmDirLen := by
        rw [hdir, List.length_take]
        exact Nat.lt_of_le_of_lt (Nat.min_le_left _ _) (by decide)
      have hpath : openedBy o s =
          [(pwmDir ++ name).take (speakerPwmDirLen - 1) ++ "/export".toList] := by
        rw [hopened, subdirFile_of_fits hfits (by decide), hdir]
        rfl
      show openedBy o s = [pwmDir ++ name ++ "/export".toList] ↔ _
      rw [hpath, List.cons.injEq, List.append_left_inj, List.take_eq_self_iff, List.length_append]
      simp only [Option.some.injEq, exists_eq_left', and_true]
      unfold speakerPwmDirLen
      omega

theorem drives_found_chip_first :
    DrivesFoundChip [".".toList, "..".toList, "pwmchip0".toList]
      { workingInit with listing := some [".".toList, "..".toList, "pwmchip0".toList] }
      (.initial ⟨0, 0, 0⟩ .empty) :=
  (drives_found_chip _ _ _ rfl rfl).2 ⟨"pwmchip0".toList, by decide, by decide⟩

/-- `pwmchip100` is listed, and `pwmchip10` is driven. Nothing is listed, and the file `export` of
the root directory is opened, without an error. -/
theorem other_chip_driven :
    ¬ DrivesFoundChip ["pwmchip100".toList]
      { workingInit with listing := some ["pwmchip100".toList] } (.initial ⟨0, 0, 0⟩ .empty) ∧
    ¬ DrivesFoundChip [".".toList, "..".toList]
      { workingInit with listing := some [".".toList, "..".toList] }
      (.initial ⟨0, 0, 0⟩ .empty) := by
  constructor
  · intro h
    have hpath : openedBy _ _ = ["/sys/class/pwm/pwmchip100/export".toList] := h
    revert hpath
    decide
  · intro h
    have hnone : (init _ _).1 ≠ .errorNone := h.1
    revert hnone
    decide

end BatteryInfo.Speaker
