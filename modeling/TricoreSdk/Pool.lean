import TricoreSdk.Call

/-! A bounded pool of connections (`pool.rs`). What happens under its lock is a
function of what the lock protects; everything else a borrow does happens on
the connection it was lent. -/

namespace TricoreSdk
open Effects

structure Lease where
  id : Nat
  client : Client

structure PoolState where
  idle : List Lease
  lent : Nat
  closed : Bool

/-- How many blocks a closure may leave open before the pool stops rolling
them back one at a time and retires the connection instead. -/
def maxOpenBlocks : Nat := 64

def poolClosed : Error := Error.new .pool "this pool is closed"

def noneFree : Error := Error.new .pool "no pooled connection became free within the timeout"

def leftOpenText : String :=
  "the closure returned with a transaction still open on the pooled connection; it has been " ++
  "rolled back rather than handed to the next borrower. Commit or roll back inside the closure, " ++
  "or use Client::with_transaction"

def noRoom : Error := Error.invalid "a pool needs room for at least one connection"

/-- What one pass of `acquire` under the lock leads to: it ends, it lends, it has
counted a slot for a connection to open, or it waits. -/
inductive Acquired where
  | failed (e : Error)
  | lent (lease : Lease)
  | reserved
  | waits

namespace PoolState

def new : PoolState := ⟨[], 0, false⟩

/-- `Pool::new`. -/
def build (size : Nat) : Except Error PoolState := if size = 0 then .error noRoom else .ok new

/-- The loop of `acquire` from its top to the unlock or the wait; a deadline is an instant. -/
def acquire (size : Nat) (deadline : Option Nat) (now : Nat) (s : PoolState) :
    Acquired × PoolState :=
  if s.closed then (.failed poolClosed, s)
  else
    match s.idle with
    | lease :: rest => (.lent lease, { s with idle := rest, lent := s.lent + 1 })
    | [] =>
      -- Count the slot before connecting, so two threads cannot both decide there is room.
      if s.lent < size then (.reserved, { s with lent := s.lent + 1 })
      else
        match deadline with
        | none => (.waits, s)
        | some deadline => if deadline < now then (.failed noneFree, s) else (.waits, s)

/-- The loop from the end of a wait on. -/
def resume (size : Nat) (timedOut : Bool) (deadline : Option Nat) (now : Nat) (s : PoolState) :
    Acquired × PoolState :=
  if timedOut && s.idle.isEmpty && decide (size ≤ s.lent) then (.failed noneFree, s)
  else s.acquire size deadline now

/-- A failed connect gives its slot back. -/
def forfeit (s : PoolState) : PoolState := { s with lent := s.lent - 1 }

/-- `release` under the lock, and whether the connection is to be closed after it. -/
def release (lease : Lease) (broken : Bool) (s : PoolState) : PoolState × Bool :=
  if broken || s.closed then ({ s with lent := s.lent - 1 }, true)
  else ({ s with idle := lease :: s.idle, lent := s.lent - 1 }, false)

/-- `close` under the lock; the idle connections are closed after it. -/
def close (s : PoolState) : PoolState := { s with idle := [], closed := true }

/-- How a pass under the lock can go, after a wait that timed out or not. -/
inductive Passed (size : Nat) (timedOut : Bool) (deadline : Option Nat) (now : Nat)
    (s : PoolState) : Acquired × PoolState → Prop
  | shut (h : s.closed = true) : Passed size timedOut deadline now s (.failed poolClosed, s)
  | lent (isOpen : s.closed = false) (lease : Lease) (rest : List Lease) (h : s.idle = lease :: rest) :
    Passed size timedOut deadline now s (.lent lease, { s with idle := rest, lent := s.lent + 1 })
  | reserved (isOpen : s.closed = false) (h : s.idle = []) (room : s.lent < size) :
    Passed size timedOut deadline now s (.reserved, { s with lent := s.lent + 1 })
  | late (h : s.idle = []) (full : size ≤ s.lent)
    (passed : timedOut = true ∨ ∃ d, deadline = some d ∧ d < now) :
    Passed size timedOut deadline now s (.failed noneFree, s)
  | waits (isOpen : s.closed = false) (h : s.idle = []) (full : size ≤ s.lent) :
    Passed size timedOut deadline now s (.waits, s)

theorem acquire_passed (size : Nat) (timedOut : Bool) (deadline : Option Nat) (now : Nat)
    (s : PoolState) : Passed size timedOut deadline now s (s.acquire size deadline now) := by
  obtain ⟨idle, lent, closed⟩ := s
  cases closed with
  | true => exact .shut rfl
  | false =>
    cases idle with
    | cons lease rest => exact .lent rfl lease rest rfl
    | nil =>
      by_cases room : lent < size
      · simpa [acquire, room] using
          (Passed.reserved rfl rfl room : Passed size timedOut deadline now ⟨[], lent, false⟩ _)
      · have full : size ≤ lent := Nat.not_lt.mp room
        have waits : Passed size timedOut deadline now ⟨[], lent, false⟩ _ := .waits rfl rfl full
        cases deadline with
        | none => simpa [acquire, room] using waits
        | some d =>
          by_cases late : d < now
          · simpa [acquire, room, late] using
              (Passed.late rfl full (.inr ⟨d, rfl, late⟩) :
                Passed size timedOut (some d) now ⟨[], lent, false⟩ _)
          · simpa [acquire, room, late] using waits

theorem resume_passed (size : Nat) (timedOut : Bool) (deadline : Option Nat) (now : Nat)
    (s : PoolState) : Passed size timedOut deadline now s (s.resume size timedOut deadline now) := by
  unfold resume
  split
  · rename_i h
    simp only [Bool.and_eq_true, List.isEmpty_iff, decide_eq_true_eq] at h
    exact .late h.1.2 h.2 (.inl h.1.1)
  · exact acquire_passed size timedOut deadline now s

end PoolState

section

variable {ω α : Type} (H : Host ω)

/-- Roll back until the transaction itself is gone, or a rollback fails. -/
def rollbackOpen : Nat → Method ω Unit
  | 0 => pure ()
  | blocks + 1 => do
    let c ← Method.self
    if !c.inTransaction then pure ()
    else
      match ← Action.attempt (rollback H) with
      | .error _ => pure ()
      | .ok _ => rollbackOpen blocks

/-- Whether a connection cannot be lent again, by how the closure on it ended. -/
def brokenBy (outcome : Except Error α) (c : Client) : Bool :=
  c.isPoisoned || match outcome with
    | .error e => e.isConnectionFatal
    | .ok _ => false

/-- What `run` does to the connection once its closure has returned: whether it is
broken, and whether the closure had left a transaction open. -/
def settle (outcome : Except Error α) : Method ω (Bool × Bool) := do
  let c ← Method.self
  if !brokenBy outcome c && c.inTransaction then
    rollbackOpen H maxOpenBlocks
    let c ← Method.self
    pure (c.inTransaction || c.isPoisoned, true)
  else pure (brokenBy outcome c, false)

/-- What `run` returns. -/
def verdict (outcome : Except Error α) (leftOpen : Bool) : Except Error α :=
  match outcome with
  | .error e => .error e
  | .ok value => if leftOpen then .error (Error.invalid leftOpenText) else .ok value

/-- `run` on the connection it was lent, up to its release. -/
def lend (work : Proc α) : Method ω α := do
  let outcome ← Action.attempt (work.run H)
  let (_, leftOpen) ← settle H outcome
  Action.ofExcept (verdict outcome leftOpen)

/-- The client and the process in which a rollback of the clean-up fails, if one does. -/
def failingRollback : Nat → Client × Process ω → Option (Client × Process ω)
  | 0, _ => none
  | blocks + 1, s =>
    if !s.1.inTransaction then none
    else
      match (rollback H s).outcome with
      | .returned _ => failingRollback blocks (rollback H s).state
      | _ => some s

def failedCleanUp (outcome : Except Error α) (s : Client × Process ω) :
    Option (Client × Process ω) :=
  if !brokenBy outcome s.1 && s.1.inTransaction then failingRollback H maxOpenBlocks s else none

/-! ## The clean-up -/

variable {H}

theorem sendLoop_ne_panicked {c : Client} (h : c.txnOpen = true) (envelope : Value)
    (left retried : Nat) (pause : Duration) (p : Process ω) :
    (sendLoop H envelope left retried pause (c, p)).outcome ≠ .panicked := by
  obtain ⟨o, ends, run⟩ := sendLoop_stays (H := H) envelope retried pause p
    (.inr (.inl h))
  rw [run]
  exact ends

theorem transactionControl_ne_panicked {c : Client} (h : c.txnOpen = true) (keyword : String)
    (p : Process ω) : (transactionControl H keyword (c, p)).outcome ≠ .panicked := by
  have sent : execute H keyword (c, p) =
      sendIn H (sqlOp "Exec" (Value.ofFields [("sql", .string keyword)])) c.requestTxn (c, p) := by
    simp [execute, executeParams, sqlBody, send]
  have loop : (execute H keyword (c, p)).outcome ≠ .panicked := by
    rw [sent, sendIn_apply]
    exact sendLoop_ne_panicked (c := c.numbered) h _ _ _ _ p
  unfold transactionControl
  rw [Action.bind_apply]
  rcases run : execute H keyword (c, p) with ⟨o, s, es⟩
  rw [run] at loop
  cases o with
  | panicked => exact absurd rfl loop
  | returned r =>
    rw [Action.attempt_of_returned (by rw [run])]
    cases hd : decodeResult H r keyword <;> simp [hd]
  | failed e =>
    rw [Action.attempt_of_failed (by rw [run])]
    cases hk : (keyword != "BEGIN" && !e.wasRefusedLocally) <;> simp [hk]

theorem txnOpen_of_inTransaction {c : Client} (h : c.inTransaction = true) : c.txnOpen = true := by
  simp only [Client.inTransaction, Bool.and_eq_true] at h
  exact h.1.1

theorem rollback_ne_panicked {s : Client × Process ω} (inside : s.1.inTransaction = true) :
    (rollback H s).outcome ≠ .panicked :=
  transactionControl_ne_panicked (txnOpen_of_inTransaction inside) "ROLLBACK" s.2

theorem live_of_inTransaction {c : Client} (h : c.inTransaction = true) : c.Live := by
  simp only [Client.inTransaction, Bool.and_eq_true, Option.isNone_iff_eq_none,
    Bool.not_eq_true'] at h
  exact ⟨h.1.2, h.2⟩

theorem rollbackOpen_outside {s : Client × Process ω} (outside : s.1.inTransaction = false) (fuel : Nat) :
    rollbackOpen H fuel s = ⟨.returned (), s, []⟩ := by
  cases fuel with
  | zero => rfl
  | succ fuel =>
    rw [rollbackOpen, Action.bind_apply, Method.self_apply]
    simp [outside]

theorem rollbackOpen_returned {s s' : Client × Process ω} (inside : s.1.inTransaction = true)
    {result : TransactionResult} {es : List Event}
    (run : rollback H s = ⟨.returned result, s', es⟩) (fuel : Nat) :
    rollbackOpen H (fuel + 1) s = (rollbackOpen H fuel s').after es := by
  rw [rollbackOpen, Action.bind_apply, Method.self_apply]
  simp [inside, Action.attempt, run]

theorem rollbackOpen_failed {s s' : Client × Process ω} (inside : s.1.inTransaction = true)
    {e : Error} {es : List Event} (run : rollback H s = ⟨.failed e, s', es⟩) (fuel : Nat) :
    rollbackOpen H (fuel + 1) s = ⟨.returned (), s', es⟩ := by
  rw [rollbackOpen, Action.bind_apply, Method.self_apply]
  simp [inside, Action.attempt, run, Execution.after]

theorem rollbackOpen_returns (blocks : Nat) (s : Client × Process ω) :
    (rollbackOpen H blocks s).outcome = .returned () := by
  induction blocks generalizing s with
  | zero => rfl
  | succ blocks ih =>
    cases inside : s.1.inTransaction with
    | false => rw [rollbackOpen_outside inside]
    | true =>
      rcases run : rollback H s with ⟨o, s', es⟩
      cases o with
      | panicked => exact absurd (by rw [run]) (rollback_ne_panicked inside)
      | returned r =>
        rw [rollbackOpen_returned inside run]
        exact ih s'
      | failed e => rw [rollbackOpen_failed inside run]

theorem settle_apply (outcome : Except Error α) (s : Client × Process ω) :
    settle H outcome s =
      if !brokenBy outcome s.1 && s.1.inTransaction then
        ⟨.returned ((rollbackOpen H maxOpenBlocks s).state.1.inTransaction ||
            (rollbackOpen H maxOpenBlocks s).state.1.isPoisoned, true),
          (rollbackOpen H maxOpenBlocks s).state, (rollbackOpen H maxOpenBlocks s).events⟩
      else ⟨.returned (brokenBy outcome s.1, false), s, []⟩ := by
  unfold settle
  rw [Action.bind_apply, Method.self_apply, Execution.follow_returned, Execution.after_nil]
  split
  · have returns := rollbackOpen_returns (H := H) maxOpenBlocks s
    rcases run : rollbackOpen H maxOpenBlocks s with ⟨o, s', es⟩
    rw [run] at returns
    obtain rfl : o = .returned () := returns
    simp [run, Execution.after]
  · rfl

end

end TricoreSdk
