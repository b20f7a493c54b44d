import BatteryInfo.Core.Monitors
import BatteryInfo.Sequence.Calls

/-!
# The brightness buttons

The two callbacks count `brightness` up and down and write its numeral to the backlight, which
accepts a number up to its maximum and otherwise keeps its level. Neither callback has a bound of
its own, so that the variable is the level of the backlight as long as the clicks do not lead out
of its range (`brightness_follows_backlight`).
-/

namespace BatteryInfo.Core

open Battery Decimal Sequence

/-- The events that LVGL passes to a callback. -/
inductive LvEvent where
  | clicked
  | other
deriving DecidableEq, Repr

/-- The backlight device. -/
structure Backlight where
  max : Nat
  level : Nat
  level_le : level ≤ max

/-- A backlight with levels up to 100 can be at 0. -/
theorem zero_le_hundred : 0 ≤ 100 := by
  omega

/-- A text is written to the device. -/
def Backlight.write (text : List Char) (b : Backlight) : Backlight :=
  match scanInt text with
  | .number n =>
      if h : 0 ≤ n ∧ n ≤ b.max then ⟨b.max, n.toNat, by omega⟩ else b
  | _ => b

/-- The variables `brightness` and `brightness_string`, and the device. Whether `brightness` has
overflowed is kept beside it. -/
structure Screen where
  brightness : Int
  overflowed : Bool
  brightnessString : List Char
  backlight : Backlight

/-- `SetScreenBrightness`. The text that `echo` writes ends with a new line. What becomes of it
is ignored. -/
def setScreenBrightness (brightness : Int) (s : Screen) : Screen :=
  let brightnessString := ofInt brightness
  { s with
    brightnessString
    backlight := s.backlight.write (brightnessString ++ ['\n']) }

/-- `brightness++` or `brightness--`. -/
def Screen.count (change : Int) (s : Screen) : Screen :=
  { s with
    brightness := wrapInt (s.brightness + change)
    overflowed := s.overflowed || decide (¬ InInt (s.brightness + change)) }

/-- `decrease_brightness_btn_callback`. -/
def decreaseBrightnessBtnCallback (event : LvEvent) (s : Screen) : Screen :=
  if event = .clicked then
    let s := s.count (-1)
    setScreenBrightness s.brightness s
  else s

/-- `increase_brightness_btn_callback`. -/
def increaseBrightnessBtnCallback (event : LvEvent) (s : Screen) : Screen :=
  if event = .clicked then
    let s := s.count 1
    setScreenBrightness s.brightness s
  else s

/-- The two buttons. -/
inductive Button where
  | decrease
  | increase
deriving DecidableEq, Repr

/-- A call of the callback of a button. -/
structure ButtonEvent where
  button : Button
  event : LvEvent
deriving DecidableEq, Repr

/-- The callback of the button is called. -/
def buttonCallback (s : Screen) (e : ButtonEvent) : Screen :=
  match e.button with
  | .decrease => decreaseBrightnessBtnCallback e.event s
  | .increase => increaseBrightnessBtnCallback e.event s

/-- The start of `main`. -/
def Screen.started (backlight : Backlight) : Screen :=
  setScreenBrightness 60 ⟨60, false, [], backlight⟩

/-- The text that `brightness_monitor` derives. -/
def Screen.monitorText (s : Screen) : List Char :=
  ofInt s.brightness

/-- The variable, the device and the text agree. -/
structure Screen.Together (s : Screen) : Prop where
  nonneg : 0 ≤ s.brightness
  le_max : s.brightness ≤ s.backlight.max
  notOverflowed : s.overflowed = false
  level : s.brightness = s.backlight.level
  text : s.monitorText = ofInt s.backlight.level

/-- By how much a call changes `brightness`. -/
def ButtonEvent.change (e : ButtonEvent) : Int :=
  match e.event, e.button with
  | .other, _ => 0
  | .clicked, .decrease => -1
  | .clicked, .increase => 1

theorem ButtonEvent.change_other {e : ButtonEvent} (h : e.event ≠ .clicked) : e.change = 0 := by
  unfold change
  cases hevent : e.event with
  | clicked => exact absurd hevent h
  | other => rfl

/-- The clicks on the one button less those on the other. -/
def balance (events : List ButtonEvent) : Int :=
  events.count ⟨.increase, .clicked⟩ - events.count ⟨.decrease, .clicked⟩

/-- Both the device and an `int` can hold `n`. -/
def Backlight.InRange (b : Backlight) (n : Int) : Prop :=
  0 ≤ n ∧ n ≤ b.max ∧ n < 2 ^ 31

theorem Backlight.InRange.inInt {b : Backlight} {n : Int} (h : b.InRange n) : InInt n := by
  obtain ⟨hnonneg, _, hint⟩ := h
  unfold InInt
  omega

instance (b : Backlight) (n : Int) : Decidable (b.InRange n) :=
  inferInstanceAs (Decidable (_ ∧ _ ∧ _))

theorem balance_cons (e : ButtonEvent) (events : List ButtonEvent) :
    balance (e :: events) = e.change + balance events := by
  obtain ⟨button, event⟩ := e
  cases button <;> cases event <;>
    simp [balance, ButtonEvent.change] <;> omega

theorem foldl_change (n : Int) (events : List ButtonEvent) :
    events.foldl (fun n e => n + e.change) n = n + balance events := by
  induction events generalizing n with
  | nil => simp [balance]
  | cons e rest ih => rw [List.foldl_cons, ih, balance_cons, Int.add_assoc]

/-- A number that is written is accepted exactly if it is in the range of the device. -/
theorem write_ofInt (n : Int) (b : Backlight) :
    (b.write (ofInt n ++ ['\n'])).level = if 0 ≤ n ∧ n ≤ b.max then n.toNat else b.level := by
  unfold Backlight.write
  rw [scanInt_ofInt n (by simp)]
  by_cases hrange : 0 ≤ n ∧ n ≤ b.max
  · simp [hrange]
  · simp [hrange]

@[simp] theorem write_max (text : List Char) (b : Backlight) : (b.write text).max = b.max := by
  unfold Backlight.write
  split
  · split <;> rfl
  · rfl

theorem setScreenBrightness_level (n : Int) (s : Screen) :
    (setScreenBrightness n s).backlight.level =
      if 0 ≤ n ∧ n ≤ s.backlight.max then n.toNat else s.backlight.level :=
  write_ofInt n s.backlight

@[simp] theorem setScreenBrightness_max (n : Int) (s : Screen) :
    (setScreenBrightness n s).backlight.max = s.backlight.max :=
  write_max _ _

/-- A click counts and writes, and any other event does nothing. -/
theorem buttonCallback_eq (s : Screen) (e : ButtonEvent) :
    buttonCallback s e =
      if e.event = .clicked then
        setScreenBrightness (wrapInt (s.brightness + e.change)) (s.count e.change)
      else s := by
  obtain ⟨button, event⟩ := e
  cases button <;> cases event <;> rfl

theorem wrapInt_of_inInt {n : Int} (hn : InInt n) : wrapInt n = n := by
  unfold InInt at hn
  unfold wrapInt
  omega

@[simp] theorem buttonCallback_max (s : Screen) (e : ButtonEvent) :
    (buttonCallback s e).backlight.max = s.backlight.max := by
  rw [buttonCallback_eq]
  split
  · rw [setScreenBrightness_max]
    rfl
  · rfl

/-- The new number is kept if it is an `int`. -/
theorem buttonCallback_brightness {s : Screen} {e : ButtonEvent}
    (hin : InInt (s.brightness + e.change)) :
    (buttonCallback s e).brightness = s.brightness + e.change := by
  rw [buttonCallback_eq]
  split
  · exact wrapInt_of_inInt hin
  · rename_i hother
    have hchange : e.change = 0 := ButtonEvent.change_other hother
    omega

/-- A callback keeps the three together exactly if the new number is in range. -/
theorem together_buttonCallback_iff {s : Screen} (h : s.Together) (hint : s.brightness < 2 ^ 31)
    (e : ButtonEvent) :
    (buttonCallback s e).Together ↔ s.backlight.InRange (s.brightness + e.change) := by
  obtain ⟨hnonneg, hmax, hoverflowed, hlevel, htext⟩ := h
  rw [buttonCallback_eq]
  by_cases hclick : e.event = .clicked
  · rw [if_pos hclick]
    have hchange : e.change = -1 ∨ e.change = 1 := by
      unfold ButtonEvent.change
      rw [hclick]
      cases e.button <;> simp
    constructor
    · rintro ⟨hnonneg', hmax', hoverflowed', _, _⟩
      have hin : InInt (s.brightness + e.change) := by
        simpa [setScreenBrightness, Screen.count, hoverflowed] using hoverflowed'
      simp only [setScreenBrightness, Screen.count, wrapInt_of_inInt hin,
        write_max] at hnonneg' hmax'
      unfold InInt at hin
      exact ⟨hnonneg', hmax', hin.2⟩
    · rintro ⟨hnonneg', hmax', hint'⟩
      have hin : InInt (s.brightness + e.change) := by
        unfold InInt
        omega
      rw [wrapInt_of_inInt hin]
      have hwritten : (s.brightness + e.change : Int) =
          (setScreenBrightness (s.brightness + e.change) (s.count e.change)).backlight.level := by
        rw [setScreenBrightness_level, if_pos ⟨hnonneg', hmax'⟩]
        omega
      have hbrightness : (setScreenBrightness (s.brightness + e.change)
          (s.count e.change)).brightness = s.brightness + e.change := wrapInt_of_inInt hin
      refine ⟨?_, ?_, ?_, ?_, ?_⟩
      · rw [hbrightness]
        exact hnonneg'
      · rw [hbrightness, setScreenBrightness_max]
        exact hmax'
      · simp [setScreenBrightness, Screen.count, hoverflowed, hin]
      · rw [hbrightness]
        exact hwritten
      · rw [Screen.monitorText, hbrightness, ← hwritten]
  · rw [if_neg hclick]
    rw [ButtonEvent.change_other hclick, Int.add_zero]
    exact iff_of_true ⟨hnonneg, hmax, hoverflowed, hlevel, htext⟩ ⟨hnonneg, hmax, hint⟩

theorem together_started {b : Backlight} (hmax : 60 ≤ b.max) : (Screen.started b).Together := by
  have hlevel : (Screen.started b).backlight.level = 60 := by
    rw [Screen.started, setScreenBrightness_level, if_pos (by simp; omega)]
    rfl
  refine ⟨?_, ?_, rfl, ?_, ?_⟩
  · show (0 : Int) ≤ 60
    omega
  · rw [Screen.started, setScreenBrightness_max]
    show (60 : Int) ≤ b.max
    omega
  · rw [hlevel]
    rfl
  · rw [hlevel]
    rfl

/-- After each callback of any sequence the variable, the backlight and the text agree exactly if
at each point of the sequence the clicks so far lead to a number that the device and an `int` can
hold. -/
theorem brightness_follows_backlight (b : Backlight) (hmax : 60 ≤ b.max)
    (events : List ButtonEvent) :
    EveryCall buttonCallback (fun s e => (buttonCallback s e).Together) (.started b) events ↔
      AtEveryPoint (fun before => b.InRange (60 + balance before)) events := by
  have hstart : b.InRange 60 := ⟨by omega, by omega, by omega⟩
  have hcounted : EveryCall buttonCallback (fun s e => (buttonCallback s e).Together) (.started b)
      events ↔ EveryCall (fun n e => n + e.change) (fun n e => b.InRange (n + e.change)) 60
        events := by
    -- as long as they are together, the variable is the number that the clicks lead to
    refine EveryCall.iff_of_related
      (R := fun s n => s.Together ∧ s.brightness = n ∧ s.backlight.max = b.max ∧ b.InRange n)
      ?_ ?_ ⟨together_started hmax, rfl, setScreenBrightness_max _ _, hstart⟩ events
    · rintro s n e ⟨htogether, rfl, hsame, _, _, hint⟩
      rw [together_buttonCallback_iff htogether hint e]
      simp only [Backlight.InRange, hsame]
    · rintro s n e ⟨htogether, rfl, hsame, _, _, hint⟩ hnext
      have hkept : (buttonCallback s e).Together := by
        rw [together_buttonCallback_iff htogether hint e]
        simpa only [Backlight.InRange, hsame] using hnext
      refine ⟨hkept, ?_, ?_, hnext⟩
      · exact buttonCallback_brightness hnext.inInt
      · rw [buttonCallback_max, hsame]
  rw [hcounted, everyCall_iff_atEveryPoint hstart events]
  simp only [foldl_change]

theorem brightness_follows_backlight_once :
    EveryCall buttonCallback (fun s e => (buttonCallback s e).Together)
      (.started ⟨100, 0, by omega⟩) [⟨.increase, .clicked⟩] :=
  (brightness_follows_backlight ⟨100, 0, by omega⟩ (by decide) [⟨.increase, .clicked⟩]).2 (by
    rw [atEveryPoint_cons, atEveryPoint_nil]
    decide)

/-- The user clicks 61 times to make the screen darker: the variable is -1, and the backlight
still at 0. -/
theorem brightness_below_zero :
    ¬ EveryCall buttonCallback (fun s e => (buttonCallback s e).Together)
      (.started ⟨100, 0, by omega⟩) (List.replicate 61 ⟨.decrease, .clicked⟩) := by
  intro h
  have hpoints := (everyCall_iff_atEveryPoint (together_started (by decide)) _).1 h
  have hnonneg := (hpoints _ List.prefix_rfl).nonneg
  revert hnonneg
  decide +kernel

end BatteryInfo.Core
