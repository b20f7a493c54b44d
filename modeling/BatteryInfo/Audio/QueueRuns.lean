import BatteryInfo.Audio.MsgQueue

/-!
# The message queue refines a bounded FIFO

Runs of queue operations in any order. `message_queue_refines_fifo` compares a run on the
statics of `Audio.c` with the same run on a list (`QueueOp.spec`), which knows neither slots
nor wrap-around, and states the FIFO law for what the run accepted and delivered.
-/

namespace BatteryInfo.Audio

/-- An operation on the queue, with what the two initialisation calls of `InitMessaging`
return. -/
inductive QueueOp where
  | initMessaging (mutexInit condInit : Int)
  | sendMessage (m : Message)
  | getMessage
  | clear

/-- What an operation returns to its caller. -/
inductive QueueResult where
  | code (e : ErrorCode)
  | got (result : Int) (m : Option Message)
  | unit
  deriving DecidableEq

namespace QueueOp

/-- The operation on the statics. -/
def exec : QueueOp → MsgQueue → Option (QueueResult × MsgQueue)
  | .initMessaging mutexInit condInit, q =>
      let (e, q') := q.initMessaging mutexInit condInit
      some (.code e, q')
  | .sendMessage m, q => do
      let (e, q') ← q.sendMessage m
      pure (.code e, q')
  | .getMessage, q => do
      let (result, m, q') ← q.getMessage
      pure (.got result m, q')
  | .clear, q => some (.unit, q.clear)

/-- The operation on a FIFO list of capacity `MSG_Q_LENGTH`. -/
def spec : QueueOp → List Message → QueueResult × List Message
  | .initMessaging mutexInit condInit, held =>
      if mutexInit ≠ 0 then (.code .errorMutexCreate, held)
      else if condInit ≠ 0 then (.code .errorCondCreate, held)
      else (.code .errorNone, [])
  | .sendMessage m, held =>
      match Fifo.push msgQLength m held with
      | (true, held') => (.code .errorNone, held')
      | (false, held') => (.code .errorMsgqFull, held')
  | .getMessage, held =>
      match Fifo.pop held with
      | (some m, held') => (.got 0 (some m), held')
      | (none, held') => (.got (-1) none, held')
  | .clear, _ => (.unit, [])

/-- What an operation with its result does to the messages in transit. -/
def event : QueueOp → QueueResult → Option (Fifo.Event Message)
  | .initMessaging _ _, .code .errorNone => some .clear
  | .sendMessage m, .code .errorNone => some (.accept m)
  | .getMessage, .got 0 (some m) => some (.deliver m)
  | .clear, .unit => some .clear
  | _, _ => none

/-- A run on the statics. It has no result when an operation leaves the array. -/
def run : List QueueOp → MsgQueue → Option (List QueueResult × MsgQueue)
  | [], q => some ([], q)
  | op :: ops, q => do
      let (result, q') ← op.exec q
      let (results, last) ← run ops q'
      pure (result :: results, last)

/-- The same run on a list. -/
def specRun : List QueueOp → List Message → List QueueResult × List Message
  | [], held => ([], held)
  | op :: ops, held =>
      let (result, held') := op.spec held
      let (results, last) := specRun ops held'
      (result :: results, last)

/-- The events of a run. -/
def events : List QueueOp → List QueueResult → List (Fifo.Event Message)
  | op :: ops, result :: results => (op.event result).toList ++ events ops results
  | _, _ => []

/-- One operation on a queue in range: it stays inside the array and in range, it does to the
list of waiting messages what the FIFO does, and the FIFO law goes on to hold. -/
theorem exec_refines (op : QueueOp) {q : MsgQueue} (h : q.InRange)
    {past : List (Fifo.Event Message)} (hlaw : Fifo.Explains past q.held) :
    ∃ result q', op.exec q = some (result, q') ∧ q'.InRange ∧
      op.spec q.held = (result, q'.held) ∧
      Fifo.Explains (past ++ (op.event result).toList) q'.held := by
  cases op with
  | initMessaging mutexInit condInit =>
      by_cases hmutex : mutexInit = 0
      · by_cases hcond : condInit = 0
        · subst hmutex hcond
          obtain ⟨hrange, hheld⟩ := q.initMessaging_held
          refine ⟨.code .errorNone, (q.initMessaging 0 0).2, rfl, hrange, ?_, ?_⟩
          · rw [hheld]
            rfl
          · rw [hheld]
            exact .clear past
        · refine ⟨.code .errorCondCreate, q, ?_, h, ?_, by simpa [event] using hlaw⟩
          · simp [exec, MsgQueue.initMessaging, hmutex, hcond]
          · simp [spec, hmutex, hcond]
      · refine ⟨.code .errorMutexCreate, q, ?_, h, ?_, by simpa [event] using hlaw⟩
        · simp [exec, MsgQueue.initMessaging, hmutex]
        · simp [spec, hmutex]
  | sendMessage m =>
      by_cases hroom : q.held.length < msgQLength
      · obtain ⟨q', hsend, hrange, hheld⟩ := MsgQueue.sendMessage_room h hroom m
        refine ⟨.code .errorNone, q', by simp [exec, hsend], hrange, ?_, ?_⟩
        · simp [spec, Fifo.push, hroom, hheld]
        · rw [hheld]
          exact hlaw.accept m
      · refine ⟨.code .errorMsgqFull, q, ?_, h, ?_, by simpa [event] using hlaw⟩
        · simp [exec, MsgQueue.sendMessage_full (Nat.le_of_not_lt hroom)]
        · simp [spec, Fifo.push, hroom]
  | getMessage =>
      cases hheld : q.held with
      | nil =>
          refine ⟨.got (-1) none, q, ?_, h, ?_, ?_⟩
          · simp [exec, MsgQueue.getMessage_empty hheld]
          · simp [spec, Fifo.pop, hheld]
          · simpa [event] using hlaw
      | cons m rest =>
          obtain ⟨q', hget, hrange, hrest⟩ := MsgQueue.getMessage_cons h hheld
          refine ⟨.got 0 (some m), q', by simp [exec, hget], hrange, ?_, ?_⟩
          · simp [spec, Fifo.pop, hrest]
          · rw [hheld] at hlaw
            rw [hrest]
            exact hlaw.deliver
  | clear =>
      obtain ⟨hrange, hheld⟩ := MsgQueue.clear_held h
      refine ⟨.unit, q.clear, rfl, hrange, ?_, ?_⟩
      · rw [hheld]
        rfl
      · rw [hheld]
        exact .clear past

/-- A run from a queue in range. -/
theorem run_refines (ops : List QueueOp) {q : MsgQueue} (h : q.InRange)
    {past : List (Fifo.Event Message)} (hlaw : Fifo.Explains past q.held) :
    ∃ results q', run ops q = some (results, q') ∧ q'.InRange ∧
      specRun ops q.held = (results, q'.held) ∧
      Fifo.Explains (past ++ events ops results) q'.held := by
  induction ops generalizing q past with
  | nil => exact ⟨[], q, rfl, h, rfl, by simpa [events] using hlaw⟩
  | cons op ops ih =>
      obtain ⟨result, q₁, hexec, hrange₁, hspec, hlaw₁⟩ := exec_refines op h hlaw
      obtain ⟨results, q₂, hrun, hrange₂, hspecRun, hlaw₂⟩ := ih hrange₁ hlaw₁
      refine ⟨result :: results, q₂, by simp [run, hexec, hrun], hrange₂, ?_, ?_⟩
      · simp [specRun, hspec, hspecRun]
      · simpa [events, List.append_assoc] using hlaw₂

end QueueOp

/-- The message queue is a FIFO of capacity `MSG_Q_LENGTH`. From any statics, every run that
begins with `InitMessaging` stays inside the array and ends with both indices in range, with
the results and the waiting messages of the same run on a list. Since the last clearing every
accepted message was delivered once and in order, or still waits. In the state reached,
`SendMessage` appends exactly when there is room and otherwise changes nothing, and
`GetMessage` takes the oldest message, or returns -1 and changes nothing. -/
theorem message_queue_refines_fifo (q₀ : MsgQueue) (ops : List QueueOp) :
    ∃ results q, QueueOp.run (.initMessaging 0 0 :: ops) q₀ = some (results, q) ∧
      q.InRange ∧
      QueueOp.specRun (.initMessaging 0 0 :: ops) q₀.held = (results, q.held) ∧
      Fifo.Explains (QueueOp.events (.initMessaging 0 0 :: ops) results) q.held ∧
      (∀ m, q.held.length < msgQLength →
        ∃ q', q.sendMessage m = some (.errorNone, q') ∧ q'.held = q.held ++ [m]) ∧
      (∀ m, msgQLength ≤ q.held.length → q.sendMessage m = some (.errorMsgqFull, q)) ∧
      (∀ m rest, q.held = m :: rest →
        ∃ q', q.getMessage = some (0, some m, q') ∧ q'.held = rest) ∧
      (q.held = [] → q.getMessage = some (-1, none, q)) := by
  obtain ⟨hinit, hheld⟩ := q₀.initMessaging_held
  have hlaw : Fifo.Explains [.clear] (q₀.initMessaging 0 0).2.held := by
    rw [hheld]
    exact .clear []
  obtain ⟨results, q, hrun, hrange, hspec, hlaw'⟩ := QueueOp.run_refines ops hinit hlaw
  have hcode : (q₀.initMessaging 0 0).1 = .errorNone := rfl
  refine ⟨.code .errorNone :: results, q, ?_, hrange, ?_, ?_, ?_, ?_, ?_, ?_⟩
  · simp [QueueOp.run, QueueOp.exec, hcode, hrun]
  · rw [hheld] at hspec
    simp [QueueOp.specRun, QueueOp.spec, hspec]
  · simpa [QueueOp.events, QueueOp.event] using hlaw'
  · intro m hroom
    obtain ⟨q', hsend, _, hq'⟩ := MsgQueue.sendMessage_room hrange hroom m
    exact ⟨q', hsend, hq'⟩
  · intro m hfull
    exact MsgQueue.sendMessage_full hfull m
  · intro m rest hcons
    obtain ⟨q', hget, _, hq'⟩ := MsgQueue.getMessage_cons hrange hcons
    exact ⟨q', hget, hq'⟩
  · intro hempty
    exact MsgQueue.getMessage_empty hempty

end BatteryInfo.Audio
