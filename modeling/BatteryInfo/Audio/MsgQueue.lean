import Mathlib.Tactic.Linarith
import BatteryInfo.Fifo.Ring
import BatteryInfo.Audio.Types

/-!
# The message queue of the audio service

`InitMessaging`, `GetMessage` and `SendMessage` of `Audio.c` on the statics `MsgQ`,
`TopMsgIndex` and `MsgQLen`, with C integers as indices: an access outside the array has no
result. `MsgQueue.InRange` is the invariant of the three statics, `MsgRing` a queue that
carries it, and `MsgRing.held` the list of waiting messages. Each operation on a ring is the
operation of a FIFO of capacity `MSG_Q_LENGTH` on that list (`MsgRing.held_send`,
`MsgRing.held_get`).

The locking around these operations is in `BatteryInfo.Audio.Threads`.
-/

namespace BatteryInfo.Audio

/-- `MSG_Q_LENGTH`. -/
def msgQLength : Nat := 10

/-- The statics of the queue. -/
structure MsgQueue where
  msgQ : Vector Message msgQLength
  topMsgIndex : Int
  msgQLen : Int

namespace MsgQueue

/-- `MsgQ[i]`, which is undefined outside the array. -/
def read (q : MsgQueue) (i : Int) : Option Message :=
  if h : 0 ≤ i ∧ i < msgQLength then some q.msgQ[i.toNat] else none

/-- `MsgQ[i] = m`, which is undefined outside the array. -/
def write (q : MsgQueue) (i : Int) (m : Message) : Option MsgQueue :=
  if h : 0 ≤ i ∧ i < msgQLength then
    some { q with msgQ := q.msgQ.set i.toNat m (by omega) }
  else none

/-- `InitMessaging`. The first two arguments are what `pthread_mutex_init` and
`pthread_cond_init` return. -/
def initMessaging (mutexInit condInit : Int) (q : MsgQueue) : ErrorCode × MsgQueue :=
  if mutexInit ≠ 0 then (.errorMutexCreate, q)
  else if condInit ≠ 0 then (.errorCondCreate, q)
  else (.errorNone, { q with msgQLen := 0, topMsgIndex := 0 })

/-- `GetMessage`: the result and what it writes to `*Message`. -/
def getMessage (q : MsgQueue) : Option (Int × Option Message × MsgQueue) :=
  if q.msgQLen < 1 then some (-1, none, q)
  else do
    let m ← q.read q.topMsgIndex
    let q := { q with topMsgIndex := (q.topMsgIndex + 1).tmod msgQLength }
    let q := if q.msgQLen > 0 then { q with msgQLen := q.msgQLen - 1 } else q
    pure (0, some m, q)

/-- `SendMessage`, between `pthread_mutex_lock` and `pthread_mutex_unlock`. -/
def sendMessage (m : Message) (q : MsgQueue) : Option (ErrorCode × MsgQueue) :=
  if q.msgQLen < msgQLength then do
    let writeIndex := (q.topMsgIndex + q.msgQLen).tmod msgQLength
    let q ← q.write writeIndex m
    pure (.errorNone, { q with msgQLen := q.msgQLen + 1 })
  else some (.errorMsgqFull, q)

/-- `MsgQLen = 0` in `Audio_end`. -/
def clear (q : MsgQueue) : MsgQueue :=
  { q with msgQLen := 0 }

/-- Both indices are in range. -/
def InRange (q : MsgQueue) : Prop :=
  (0 ≤ q.topMsgIndex ∧ q.topMsgIndex < msgQLength) ∧ (0 ≤ q.msgQLen ∧ q.msgQLen ≤ msgQLength)

instance (q : MsgQueue) : Decidable q.InRange :=
  inferInstanceAs (Decidable (_ ∧ _))

/-- The array as a function on all cells. -/
def cell (q : MsgQueue) (i : Nat) : Message :=
  if h : i < msgQLength then q.msgQ[i] else .endTask

/-- The messages that wait in the queue, oldest first. -/
def held (q : MsgQueue) : List Message :=
  Fifo.contents q.cell msgQLength q.topMsgIndex.toNat q.msgQLen.toNat

variable {q : MsgQueue}

theorem held_length (q : MsgQueue) : q.held.length = q.msgQLen.toNat := by
  simp [held]

/-- Reading in range gives the cell. -/
theorem read_cell {i : Int} (h0 : 0 ≤ i) (hi : i < msgQLength) :
    q.read i = some (q.cell i.toNat) := by
  have hlt : i.toNat < msgQLength := by omega
  simp [read, cell, h0, hi, hlt]

/-- Writing in range succeeds and changes that cell only. -/
theorem write_cell {i : Int} (m : Message) (h0 : 0 ≤ i) (hi : i < msgQLength) :
    ∃ q', q.write i m = some q' ∧ q'.cell = Function.update q.cell i.toNat m ∧
      q'.topMsgIndex = q.topMsgIndex ∧ q'.msgQLen = q.msgQLen := by
  have hlt : i.toNat < msgQLength := by omega
  refine ⟨{ q with msgQ := q.msgQ.set i.toNat m hlt }, by simp [write, h0, hi], ?_, rfl, rfl⟩
  funext j
  by_cases hj : j < msgQLength
  · by_cases hij : j = i.toNat
    · subst hij
      simp [cell, hlt]
    · simp [cell, hj, Function.update_of_ne hij, Vector.getElem_set_ne _ _ (Ne.symm hij)]
  · have hij : j ≠ i.toNat := by omega
    simp [cell, hj, Function.update_of_ne hij]

/-- With room left, `SendMessage` appends the message. -/
theorem sendMessage_room (h : q.InRange) (hroom : q.held.length < msgQLength) (m : Message) :
    ∃ q', q.sendMessage m = some (.errorNone, q') ∧ q'.InRange ∧ q'.held = q.held ++ [m] := by
  obtain ⟨⟨htop0, htop⟩, hlen0, hlen⟩ := h
  rw [held_length] at hroom
  have hlt : q.msgQLen < msgQLength := by omega
  have hmod : (q.topMsgIndex + q.msgQLen).tmod msgQLength =
      (Fifo.slot msgQLength q.topMsgIndex.toNat q.msgQLen.toNat : Nat) := by
    rw [Int.tmod_eq_emod_of_nonneg (by omega), Fifo.slot]
    push_cast
    rw [Int.toNat_of_nonneg htop0, Int.toNat_of_nonneg hlen0]
  have hslot := Fifo.slot_lt (show 0 < msgQLength by decide) q.topMsgIndex.toNat q.msgQLen.toNat
  obtain ⟨q', hwrite, hcell, htop', hlen'⟩ :=
    q.write_cell (i := Fifo.slot msgQLength q.topMsgIndex.toNat q.msgQLen.toNat) m
      (by omega) (by omega)
  refine ⟨{ q' with msgQLen := q'.msgQLen + 1 }, ?_, ?_, ?_⟩
  · simp [sendMessage, hlt, hmod, hwrite]
  · simp only [InRange, htop', hlen']
    omega
  · have hsucc : (q.msgQLen + 1).toNat = q.msgQLen.toNat + 1 := by omega
    have hheld : held { q' with msgQLen := q'.msgQLen + 1 } =
        Fifo.contents q'.cell msgQLength q'.topMsgIndex.toNat (q'.msgQLen + 1).toNat := rfl
    rw [hheld, hcell, htop', hlen', hsucc, Int.toNat_natCast]
    exact Fifo.contents_write q.cell _ m hroom

/-- A full queue refuses the message and is left as it was. -/
theorem sendMessage_full (hfull : msgQLength ≤ q.held.length) (m : Message) :
    q.sendMessage m = some (.errorMsgqFull, q) := by
  have hcap : msgQLength = 10 := rfl
  rw [held_length] at hfull
  have hge : ¬ q.msgQLen < msgQLength := by omega
  simp [sendMessage, hge]

/-- `GetMessage` on an empty queue returns -1 and leaves it as it was. -/
theorem getMessage_empty (hempty : q.held = []) : q.getMessage = some (-1, none, q) := by
  have hlen : q.msgQLen.toNat = 0 := by rw [← held_length, hempty, List.length_nil]
  have hlt : q.msgQLen < 1 := by omega
  simp [getMessage, hlt]

/-- `GetMessage` removes and returns the oldest message. -/
theorem getMessage_cons (h : q.InRange) {m : Message} {rest : List Message}
    (hheld : q.held = m :: rest) :
    ∃ q', q.getMessage = some (0, some m, q') ∧ q'.InRange ∧ q'.held = rest := by
  obtain ⟨⟨htop0, htop⟩, hlen0, hlen⟩ := h
  obtain ⟨n, hn⟩ : ∃ n, q.msgQLen.toNat = n + 1 := by
    rw [← held_length, hheld]
    exact ⟨rest.length, rfl⟩
  have hpos : ¬ q.msgQLen < 1 := by omega
  have hpos' : 0 < q.msgQLen := by omega
  have htopNat : q.topMsgIndex.toNat < msgQLength := by omega
  have hmod : (q.topMsgIndex + 1).tmod msgQLength =
      ((q.topMsgIndex.toNat + 1) % msgQLength : Nat) := by
    rw [Int.tmod_eq_emod_of_nonneg (by omega)]
    push_cast
    rw [Int.toNat_of_nonneg htop0]
  have hslot := Nat.mod_lt (q.topMsgIndex.toNat + 1) (show 0 < msgQLength by decide)
  have hsplit : Fifo.contents q.cell msgQLength q.topMsgIndex.toNat (n + 1) = _ :=
    Fifo.contents_advance q.cell htopNat
  rw [held, hn, hsplit, List.cons.injEq] at hheld
  refine ⟨{ q with
    topMsgIndex := ((q.topMsgIndex.toNat + 1) % msgQLength : Nat)
    msgQLen := q.msgQLen - 1 }, ?_, ?_, ?_⟩
  · simp [getMessage, hpos, hpos', read_cell htop0 htop, hmod, hheld.1]
  · simp only [InRange]
    omega
  · have hpred : (q.msgQLen - 1).toNat = n := by omega
    rw [← hheld.2, held]
    simp only [hpred, Int.toNat_natCast]
    rfl

/-- `InitMessaging` empties the queue when both initialisations succeed. -/
theorem initMessaging_held (q : MsgQueue) :
    (q.initMessaging 0 0).2.InRange ∧ (q.initMessaging 0 0).2.held = [] := by
  simp [initMessaging, InRange, held, msgQLength]

/-- The reset of `Audio_end` empties the queue wherever its head is. -/
theorem clear_held (h : q.InRange) : q.clear.InRange ∧ q.clear.held = [] := by
  refine ⟨⟨h.1, ?_⟩, ?_⟩
  · simp [clear]
  · simp [clear, held]

/-- In range, `SendMessage` touches no cell outside the array and stays in range. -/
theorem sendMessage_inRange (h : q.InRange) (m : Message) :
    ∃ e q', q.sendMessage m = some (e, q') ∧ q'.InRange := by
  by_cases hroom : q.held.length < msgQLength
  · obtain ⟨q', hsend, hq', _⟩ := sendMessage_room h hroom m
    exact ⟨_, q', hsend, hq'⟩
  · exact ⟨_, q, sendMessage_full (by omega) m, h⟩

/-- In range, `GetMessage` touches no cell outside the array and stays in range. -/
theorem getMessage_inRange (h : q.InRange) :
    ∃ result m q', q.getMessage = some (result, m, q') ∧ q'.InRange := by
  cases hheld : q.held with
  | nil => exact ⟨_, _, q, getMessage_empty hheld, h⟩
  | cons m rest =>
      obtain ⟨q', hget, hq', _⟩ := getMessage_cons h hheld
      exact ⟨_, _, q', hget, hq'⟩

end MsgQueue

/-! ## The queue with its invariant -/

/-- A message queue whose indices are in range. On it every operation has a result. -/
@[ext]
structure MsgRing where
  queue : MsgQueue
  inRange : queue.InRange

namespace MsgRing

/-- The messages that wait in the ring, oldest first. -/
def held (r : MsgRing) : List Message :=
  r.queue.held

/-- The ring after `InitMessaging` on any statics. -/
def init (q : MsgQueue) : MsgRing :=
  ⟨(q.initMessaging 0 0).2, q.initMessaging_held.1⟩

/-- `SendMessage` on a ring. -/
def send (m : Message) (r : MsgRing) : ErrorCode × MsgRing :=
  match h : r.queue.sendMessage m with
  | some (e, q) => (e, ⟨q, by
      obtain ⟨_, _, hsend, hq⟩ := MsgQueue.sendMessage_inRange r.inRange m
      simp_all⟩)
  | none => absurd h (by
      obtain ⟨_, _, hsend, _⟩ := MsgQueue.sendMessage_inRange r.inRange m
      simp [hsend])

/-- `GetMessage` on a ring: the message it takes, if it returns 0. -/
def get (r : MsgRing) : Option Message × MsgRing :=
  match h : r.queue.getMessage with
  | some (_, m, q) => (m, ⟨q, by
      obtain ⟨_, _, _, hget, hq⟩ := MsgQueue.getMessage_inRange r.inRange
      simp_all⟩)
  | none => absurd h (by
      obtain ⟨_, _, _, hget, _⟩ := MsgQueue.getMessage_inRange r.inRange
      simp [hget])

/-- The reset of `Audio_end` on a ring. -/
def clear (r : MsgRing) : MsgRing :=
  ⟨r.queue.clear, (MsgQueue.clear_held r.inRange).1⟩

@[simp] theorem held_init (q : MsgQueue) : (init q).held = [] :=
  q.initMessaging_held.2

@[simp] theorem held_clear (r : MsgRing) : r.clear.held = [] :=
  (MsgQueue.clear_held r.inRange).2

theorem send_eq {m : Message} {r : MsgRing} {e : ErrorCode} {q : MsgQueue}
    (h : r.queue.sendMessage m = some (e, q)) :
    (r.send m).1 = e ∧ (r.send m).2.queue = q := by
  unfold send
  split <;> simp_all

theorem get_eq {r : MsgRing} {result : Int} {m : Option Message} {q : MsgQueue}
    (h : r.queue.getMessage = some (result, m, q)) : r.get.1 = m ∧ r.get.2.queue = q := by
  unfold get
  split <;> simp_all

/-- Sending appends when there is room, and otherwise is refused without effect. -/
theorem held_send (m : Message) (r : MsgRing) :
    (r.held.length < msgQLength → (r.send m).1 = .errorNone ∧ (r.send m).2.held = r.held ++ [m]) ∧
      (msgQLength ≤ r.held.length → r.send m = (.errorMsgqFull, r)) := by
  constructor
  · intro hroom
    obtain ⟨q, hsend, _, hheld⟩ := MsgQueue.sendMessage_room r.inRange hroom m
    obtain ⟨hcode, hqueue⟩ := send_eq hsend
    exact ⟨hcode, by rw [held, hqueue, hheld]; rfl⟩
  · intro hfull
    obtain ⟨hcode, hqueue⟩ := send_eq (MsgQueue.sendMessage_full hfull m)
    exact Prod.ext hcode (MsgRing.ext hqueue)

/-- A send that reports no error appended the message. -/
theorem send_none {m : Message} {r r' : MsgRing} (h : r.send m = (.errorNone, r')) :
    r'.held = r.held ++ [m] := by
  by_cases hroom : r.held.length < msgQLength
  · obtain ⟨_, hheld⟩ := (held_send m r).1 hroom
    rwa [h] at hheld
  · have hfull := (held_send m r).2 (by omega)
    simp [h] at hfull

/-- A send that reports an error reports a full ring and changed nothing. -/
theorem send_error {m : Message} {r r' : MsgRing} {e : ErrorCode} (h : r.send m = (e, r'))
    (he : e ≠ .errorNone) : e = .errorMsgqFull ∧ r' = r ∧ r.held.length = msgQLength := by
  by_cases hroom : r.held.length < msgQLength
  · obtain ⟨hcode, _⟩ := (held_send m r).1 hroom
    rw [h] at hcode
    exact absurd hcode he
  · have hfull := (held_send m r).2 (by omega)
    rw [h] at hfull
    obtain ⟨rfl, rfl⟩ := Prod.mk.inj hfull
    have hle : r'.held.length ≤ msgQLength := by
      rw [held, MsgQueue.held_length]
      have := r'.inRange.2
      omega
    exact ⟨rfl, rfl, by omega⟩

/-- Getting from a ring takes its oldest message. -/
theorem get_some {r r' : MsgRing} {m : Message} (h : r.get = (some m, r')) :
    r.held = m :: r'.held := by
  cases hheld : r.held with
  | nil =>
      have := (get_eq (MsgQueue.getMessage_empty hheld)).1
      simp [h] at this
  | cons m' rest =>
      obtain ⟨q, hget, _, hrest⟩ := MsgQueue.getMessage_cons r.inRange hheld
      obtain ⟨hm, hqueue⟩ := get_eq hget
      rw [h] at hm hqueue
      obtain rfl : m = m' := by simpa using hm
      rw [held, hqueue, hrest]

/-- Nothing is got from a ring only when it is empty, and then it is left as it was. -/
theorem get_none {r r' : MsgRing} (h : r.get = (none, r')) : r.held = [] ∧ r' = r := by
  cases hheld : r.held with
  | nil =>
      have hqueue := (get_eq (MsgQueue.getMessage_empty hheld)).2
      rw [h] at hqueue
      exact ⟨rfl, MsgRing.ext hqueue⟩
  | cons m rest =>
      obtain ⟨q, hget, _, _⟩ := MsgQueue.getMessage_cons r.inRange hheld
      have := (get_eq hget).1
      simp [h] at this

end MsgRing

end BatteryInfo.Audio
