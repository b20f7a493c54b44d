import Mathlib.Data.List.Nodup
import Mathlib.Logic.Function.Basic

/-!
# GPIO chips and lines

The part of libgpiod (version 1) that a program holds resources through. Opening a chip by
name gives a handle of its own each time, a line belongs to the handle it was taken from,
closing a handle releases its lines, and the kernel gives a pin to one request at a time: a
request for a pin that is requested already fails, through whichever handle it comes. The last
argument of each call says whether the call succeeds where nothing else stands against it.
-/

namespace Gpiod

/-- A `struct gpiod_chip`: a handle on the chip of that name. -/
structure Chip where
  handle : Nat
  name : String
deriving DecidableEq

/-- A `struct gpiod_line`: the line at an offset, as seen from one handle on its chip. -/
structure Line where
  chip : Chip
  offset : Nat
deriving DecidableEq

/-- The pin behind a line, which lines of different handles may share. -/
def Line.pin (l : Line) : String × Nat :=
  (l.chip.name, l.offset)

/-- The open chips, the requested lines and the output levels of the pins. -/
structure Bus where
  opened : List Chip
  requested : List Line
  /-- The level that each pin was last driven to. What a pin is at after its line was released is
  undefined in libgpiod; this stays what it was. -/
  level : String × Nat → Nat
  nextHandle : Nat
  /-- A handle to come is not in use. -/
  fresh : ∀ c ∈ opened, c.handle < nextHandle
  /-- Only lines of open chips are requested. -/
  live : ∀ l ∈ requested, l.chip ∈ opened
  /-- A pin is requested once. -/
  exclusive : (requested.map Line.pin).Nodup

namespace Bus

/-- Nothing is open. -/
def empty : Bus where
  opened := []
  requested := []
  level := fun _ => 0
  nextHandle := 0
  fresh := by simp
  live := by simp
  exclusive := by simp

/-- A successful `gpiod_chip_open_by_name`. -/
def opening (b : Bus) (name : String) : Bus where
  opened := ⟨b.nextHandle, name⟩ :: b.opened
  requested := b.requested
  level := b.level
  nextHandle := b.nextHandle + 1
  fresh := by
    intro c hc
    rcases List.mem_cons.1 hc with rfl | hc
    · exact Nat.lt_succ_self _
    · exact Nat.lt_succ_of_lt (b.fresh c hc)
  live := fun l hl => List.mem_cons_of_mem _ (b.live l hl)
  exclusive := b.exclusive

/-- `gpiod_chip_open_by_name`. -/
def chipOpenByName (b : Bus) (name : String) (ok : Bool) : Option Chip × Bus :=
  if ok then (some ⟨b.nextHandle, name⟩, b.opening name) else (none, b)

/-- A request can be granted for a line of an open chip whose pin nobody holds. -/
def Grants (b : Bus) (l : Line) : Prop :=
  l.chip ∈ b.opened ∧ l.pin ∉ b.requested.map Line.pin

instance (b : Bus) (l : Line) : Decidable (b.Grants l) :=
  inferInstanceAs (Decidable (_ ∧ _))

/-- A granted request. A request for output sets the pin to its default value. -/
def requesting (b : Bus) (l : Line) (default : Option Nat) (h : b.Grants l) : Bus where
  opened := b.opened
  requested := l :: b.requested
  level := match default with
    | some v => Function.update b.level l.pin v
    | none => b.level
  nextHandle := b.nextHandle
  fresh := b.fresh
  live := by
    intro m hm
    rcases List.mem_cons.1 hm with rfl | hm
    · exact h.1
    · exact b.live m hm
  exclusive := by
    rw [List.map_cons, List.nodup_cons]
    exact ⟨h.2, b.exclusive⟩

/-- `gpiod_line_request`, and whether it succeeds. -/
def lineRequest (b : Bus) (l : Line) (default : Option Nat) (ok : Bool) : Bool × Bus :=
  if h : ok ∧ b.Grants l then (true, b.requesting l default h.2) else (false, b)

/-- `gpiod_line_set_value`, and whether it succeeds. -/
def lineSetValue (b : Bus) (l : Line) (value : Nat) (ok : Bool) : Bool × Bus :=
  if ok ∧ l ∈ b.requested then
    (true, { b with level := Function.update b.level l.pin value })
  else (false, b)

/-- `gpiod_line_release`. -/
def lineRelease (b : Bus) (l : Line) : Bus where
  opened := b.opened
  requested := b.requested.filter (· ≠ l)
  level := b.level
  nextHandle := b.nextHandle
  fresh := b.fresh
  live := fun m hm => b.live m (List.mem_of_mem_filter hm)
  exclusive := b.exclusive.sublist (List.filter_sublist.map _)

/-- `gpiod_chip_close`, which releases the lines of the handle. -/
def chipClose (b : Bus) (c : Chip) : Bus where
  opened := b.opened.filter (· ≠ c)
  requested := b.requested.filter (·.chip ≠ c)
  level := b.level
  nextHandle := b.nextHandle
  fresh := fun d hd => b.fresh d (List.mem_of_mem_filter hd)
  live := by
    intro l hl
    rw [List.mem_filter] at hl ⊢
    exact ⟨b.live l hl.1, hl.2⟩
  exclusive := b.exclusive.sublist (List.filter_sublist.map _)

/-- `gpiod_chip_get_line`. -/
def chipGetLine (c : Chip) (offset : Nat) (ok : Bool) : Option Line :=
  if ok then some ⟨c, offset⟩ else none

/-- A line is taken from its chip and requested: the pointer this leaves, whether both calls
succeed, and the bus. -/
def takeLine (b : Bus) (c : Chip) (offset : Nat) (default : Option Nat) (getOk requestOk : Bool) :
    Option Line × Bool × Bus :=
  match chipGetLine c offset getOk with
  | none => (none, false, b)
  | some l => (some l, b.lineRequest l default requestOk)

section Laws

variable {b : Bus} {c : Chip} {l m : Line} {name : String} {default : Option Nat}
  {value : Nat} {ok : Bool}

@[simp] theorem opened_opening : (b.opening name).opened = ⟨b.nextHandle, name⟩ :: b.opened :=
  rfl

@[simp] theorem requested_opening : (b.opening name).requested = b.requested := rfl

@[simp] theorem opened_requesting {h : b.Grants l} :
    (b.requesting l default h).opened = b.opened := rfl

@[simp] theorem requested_requesting {h : b.Grants l} :
    (b.requesting l default h).requested = l :: b.requested := rfl

@[simp] theorem opened_lineRequest : (b.lineRequest l default ok).2.opened = b.opened := by
  unfold lineRequest
  split <;> rfl

/-- A request adds its line, if it is granted. -/
theorem mem_requested_lineRequest :
    m ∈ (b.lineRequest l default ok).2.requested ↔ m ∈ b.requested ∨ ok ∧ b.Grants l ∧ m = l := by
  unfold lineRequest
  split
  · rename_i hgranted
    rw [requested_requesting, List.mem_cons]
    exact ⟨fun hm => hm.elim (fun heq => .inr ⟨hgranted.1, hgranted.2, heq⟩) .inl,
      fun hm => hm.elim .inr fun hm => .inl hm.2.2⟩
  · rename_i hrefused
    exact ⟨.inl, fun hm => hm.elim id fun hm => absurd ⟨hm.1, hm.2.1⟩ hrefused⟩

@[simp] theorem opened_lineSetValue : (b.lineSetValue l value ok).2.opened = b.opened := by
  unfold lineSetValue
  split <;> rfl

@[simp] theorem requested_lineSetValue :
    (b.lineSetValue l value ok).2.requested = b.requested := by
  unfold lineSetValue
  split <;> rfl

@[simp] theorem mem_requested_lineRelease :
    m ∈ (b.lineRelease l).requested ↔ m ∈ b.requested ∧ m ≠ l := by
  simp [lineRelease]

@[simp] theorem mem_opened_chipClose {d : Chip} :
    d ∈ (b.chipClose c).opened ↔ d ∈ b.opened ∧ d ≠ c := by
  simp [chipClose]

@[simp] theorem mem_requested_chipClose :
    l ∈ (b.chipClose c).requested ↔ l ∈ b.requested ∧ l.chip ≠ c := by
  simp [chipClose]

@[simp] theorem level_opening : (b.opening name).level = b.level := rfl

@[simp] theorem level_lineRelease : (b.lineRelease l).level = b.level := rfl

@[simp] theorem level_chipClose : (b.chipClose c).level = b.level := rfl

/-- A request for output sets its own pin. -/
theorem level_requesting {h : b.Grants l} (p : String × Nat) :
    (b.requesting l (some value) h).level p = if p = l.pin then value else b.level p :=
  Function.update_apply ..

/-- Setting a line that is requested sets its own pin, if the call succeeds. -/
theorem level_lineSetValue (hmem : l ∈ b.requested) (p : String × Nat) :
    (b.lineSetValue l value ok).2.level p = if ok ∧ p = l.pin then value else b.level p := by
  cases ok with
  | false => simp [lineSetValue]
  | true =>
      simp only [lineSetValue, hmem, and_self, if_true, true_and]
      exact Function.update_apply ..

theorem lineSetValue_fst (hmem : l ∈ b.requested) : (b.lineSetValue l value ok).1 = ok := by
  cases ok <;> simp [lineSetValue, hmem]

/-- On a chip just opened every line whose pin nobody holds can be requested. -/
theorem grants_opening {offset : Nat} (h : (name, offset) ∉ b.requested.map Line.pin) :
    (b.opening name).Grants ⟨⟨b.nextHandle, name⟩, offset⟩ :=
  ⟨List.mem_cons_self, h⟩

/-- A request takes one pin only. -/
theorem Grants.requesting (hm : b.Grants m) (h : b.Grants l) (hne : m.pin ≠ l.pin) :
    (b.requesting l default h).Grants m := by
  refine ⟨hm.1, ?_⟩
  rw [requested_requesting, List.map_cons, List.mem_cons]
  exact not_or.2 ⟨hne, hm.2⟩

/-- A line taken from an open chip is requested, or nothing is. -/
theorem takeLine_cases (b : Bus) (c : Chip) (offset : Nat) (default : Option Nat)
    (getOk requestOk : Bool) :
    (∃ h : b.Grants ⟨c, offset⟩, getOk ∧ requestOk ∧
      b.takeLine c offset default getOk requestOk =
        (some ⟨c, offset⟩, true, b.requesting ⟨c, offset⟩ default h)) ∨
    (¬ (getOk ∧ requestOk ∧ b.Grants ⟨c, offset⟩) ∧
      ∃ l, b.takeLine c offset default getOk requestOk = (l, false, b)) := by
  cases getOk with
  | false => exact .inr ⟨by simp, none, rfl⟩
  | true =>
      -- the line exists, so all depends on the request
      by_cases h : requestOk ∧ b.Grants ⟨c, offset⟩
      · exact .inl ⟨h.2, rfl, h.1, by simp [takeLine, chipGetLine, lineRequest, h]⟩
      · exact .inr ⟨by simpa using h, _, by simp [takeLine, chipGetLine, lineRequest, h]; rfl⟩

end Laws

end Bus

end Gpiod
