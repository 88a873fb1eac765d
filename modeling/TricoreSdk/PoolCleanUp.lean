import TricoreSdk.PoolInvariant
import TricoreSdk.ControlReply

/-! Connections on which the pool's own rollback failed: which of them are closed,
and which go back to the idle ones. -/

namespace TricoreSdk
open Effects Path

section

variable {ω α : Type} {H : Host ω} {options : Options} {size : Nat}

/-! ## A rollback that fails -/

def rollbackOp : Value := sqlOp "Exec" (Value.ofFields [("sql", .string "ROLLBACK")])

variable (H) in
/-- A rollback that leaves its connection alone: its frame is too large to be written,
or it is answered by an `ERROR` frame or by a response that does not say ok. -/
def RollbackRefused (s : Client × Process ω) : Prop :=
  (∃ e, encode .request (H.body (some (s.1.envelope rollbackOp s.1.requestTxn))) = .error e) ∨
    ∃ frame e, finalAnswer (rollback H s).events = some frame ∧ replyOf H frame = some (.error e)

theorem rollback_apply (c : Client) (p : Process ω) :
    rollback H (c, p) = concluded (sendIn H rollbackOp c.requestTxn (c, p)) (controlled H "ROLLBACK")
      (decodeResult H · "ROLLBACK") :=
  transactionControl_request (by simp [sqlRequest, sqlBody, rollbackOp]) p

/-- What the flags say after a failed rollback: the connection is dropped, or the
transaction still counts as open, exactly when the rollback was not refused. -/
theorem rollback_failed {s : Client × Process ω} (isOpen : s.1.inTransaction = true)
    (failed : ∀ r, (rollback H s).outcome ≠ .returned r) :
    ((rollback H s).state.1.inTransaction || (rollback H s).state.1.isPoisoned) = true ↔
      ¬RollbackRefused H s := by
  obtain ⟨c, p⟩ := s
  have live : c.Live := live_of_inTransaction isOpen
  have panics := rollback_ne_panicked (H := H) (s := (c, p)) isOpen
  unfold RollbackRefused
  simp only
  rw [rollback_apply] at failed panics ⊢
  -- A refusal that is no refusal of this client's own clears the flag.
  have cleared {c' : Client} {e : Error} (hf : c'.fault = none) (he : e.wasRefusedLocally = false) :
      ((controlled H "ROLLBACK" c' (.failed e)).inTransaction ||
        (controlled H "ROLLBACK" c' (.failed e)).isPoisoned) = false := by
    simp [controlled, he, Client.inTransaction, Client.isPoisoned, Client.withTxnOpen, hf]
  cases fits : encode .request (H.body (some (c.envelope rollbackOp c.requestTxn))) with
  | error e =>
    have stops : Stops H .request (some (c.envelope rollbackOp c.requestTxn)) c e :=
      .large live e fits
    rw [sendIn_stops stops p]
    refine iff_of_false ?_ fun h => h (.inl ⟨e, rfl⟩)
    simp only [concluded]
    have intact : c.numbered.fault = none := live.fault
    rw [cleared intact (encode_error fits).2.wasRefusedLocally]
    exact Bool.false_ne_true
  | ok bytes =>
    have flag := wirePath_flagging.sendIn (H := H) rollbackOp c.requestTxn (c, p)
    have fated := sendIn_fated live fits p
    generalize sendIn H rollbackOp c.requestTxn (c, p) = x at failed panics flag fated ⊢
    cases fated with
    | overflowed s es ends => exact absurd rfl panics
    | dropped e s es frame he fault ends unread =>
      refine iff_of_true ?_ fun h => ?_
      · have gone := (controlled_same (H := H) "ROLLBACK" s.1 (.failed e)).fault.trans fault
        simp [concluded, Client.isPoisoned, gone]
      · rcases h with ⟨_, h⟩ | ⟨f, e', answer, refused⟩
        · cases h
        · rw [unread f (ends.finalAnswer.symm.trans answer)] at refused
          cases refused
    | replied o s es frame reply hl ends read relayed =>
      cases reply with
      | error e =>
        obtain ⟨e', rfl, hk⟩ := relayed
        have abroad : e'.wasRefusedLocally = false := by
          have := replyOf_refused read
          unfold Error.wasRefusedLocally at this ⊢
          rwa [hk]
        refine iff_of_false ?_ fun h => h (.inr ⟨frame, e, ends.finalAnswer, read⟩)
        simp only [concluded]
        rw [cleared hl abroad]
        exact Bool.false_ne_true
      | ok r =>
        cases relayed
        obtain ⟨-, txnOpen, closed⟩ := flag hl
        refine iff_of_true ?_ fun h => ?_
        · have undecoded : ∃ e, decodeResult H r "ROLLBACK" = .error e := by
            cases hd : decodeResult H r "ROLLBACK" with
            | error e => exact ⟨e, rfl⟩
            | ok result => exact absurd (by simp [concluded, Outcome.andThen, hd]) (failed result)
          obtain ⟨e, hd⟩ := undecoded
          have still : s.1.inTransaction = c.inTransaction := by
            unfold Client.inTransaction
            rw [hl, live.fault, show s.1.txnOpen = c.txnOpen from txnOpen,
              show s.1.closed = c.closed from closed]
          simp [concluded, controlled, hd, still, show c.inTransaction = true from isOpen]
        · rcases h with ⟨_, h⟩ | ⟨f, e, answer, refused⟩
          · cases h
          · cases ends.finalAnswer.symm.trans answer
            rw [read] at refused
            cases refused

theorem failingRollback_some {blocks : Nat} {s t : Client × Process ω}
    (h : failingRollback H blocks s = some t) :
    t.1.inTransaction = true ∧ (∀ r, (rollback H t).outcome ≠ .returned r) ∧
      (rollbackOpen H blocks s).state = (rollback H t).state := by
  induction blocks generalizing s with
  | zero => cases h
  | succ blocks ih =>
    rw [failingRollback] at h
    cases inside : s.1.inTransaction with
    | false => simp [inside] at h
    | true =>
      rcases run : rollback H s with ⟨o, s', es⟩
      simp only [inside, Bool.not_true, Bool.false_eq_true, if_false, run] at h
      cases o with
      | returned r =>
        rw [rollbackOpen_returned inside run]
        exact ih h
      | failed e =>
        cases h
        exact ⟨inside, by simp [run], by rw [rollbackOpen_failed inside run, run]⟩
      | panicked => exact absurd (by rw [run]) (rollback_ne_panicked inside)

theorem broken_iff_of_failed {outcome : Except Error α} {s t : Client × Process ω}
    (h : failedCleanUp H outcome s = some t) {broken leftOpen : Bool}
    (run : (settle H outcome s).outcome = .returned (broken, leftOpen)) :
    broken = true ↔ ¬RollbackRefused H t := by
  unfold failedCleanUp at h
  split at h
  · rename_i cleans
    obtain ⟨isOpen, failed, same⟩ := failingRollback_some h
    rw [settle_apply, if_pos cleans] at run
    simp only [Outcome.returned.injEq, Prod.mk.injEq] at run
    rw [← run.1, same]
    exact rollback_failed isOpen failed
  · cases h

/-! ## Where its connection goes -/

/-- The connections of a thread that are on their way out, because they are broken. -/
def Phase.discards : Phase α → List Nat
  | releasing lease true _ | retiring lease _ => [lease.id]
  | _ => []

theorem Phase.discards_of_unoccupied {a : Phase α} (h : a.occupied = none) : a.discards = [] := by
  unfold occupied at h
  split at h
  all_goals first | rfl | cases h

def Phase.keeps : Phase α → List Nat
  | working lease _ | releasing lease false _ => [lease.id]
  | closingIdle leases => leases.map Lease.id
  | _ => []

/-- The connections that are closed, or on their way there from a borrow. -/
def System.discarded (sys : System ω α) : List Nat :=
  sys.threads.flatMap Phase.discards ++ sys.shared.gone

/-- The connections that are idle or lent, or were idle when the pool was closed. -/
def System.kept (sys : System ω α) : List Nat :=
  sys.shared.pool.idle.map Lease.id ++ sys.threads.flatMap Phase.keeps

theorem count_places (sys : System ω α) (id : Nat) :
    sys.places.count id = sys.kept.count id + sys.discarded.count id := by
  have split (threads : List (Phase α)) : (threads.flatMap Phase.ids).count id =
      (threads.flatMap Phase.keeps).count id + (threads.flatMap Phase.discards).count id := by
    induction threads with
    | nil => rfl
    | cons a threads ih =>
      have here : a.ids = a.keeps ++ a.discards := by
        cases a with
        | releasing lease broken result => cases broken <;> rfl
        | closingIdle leases => simp [Phase.ids, Phase.leases, Phase.keeps, Phase.discards]
        | _ => rfl
      simp only [List.flatMap_cons, List.count_append, here, ih]
      omega
  simp only [System.places, System.kept, System.discarded, List.count_append, split]
  omega

theorem Placed.not_kept {sys : System ω α} (h : Placed sys) {id : Nat} (gone : id ∈ sys.discarded) :
    id ∉ sys.kept := by
  intro kept
  have once := h id
  have := count_places sys id
  have := List.count_pos_iff.mpr gone
  have := List.count_pos_iff.mpr kept
  unfold due at once
  split at once <;> omega

/-- A connection that a thread is discarding, or that is closed. -/
def Leaving (sh : Shared ω) (a : Phase α) (id : Nat) : Prop := id ∈ a.discards ∨ id ∈ sh.gone

/-- What is on its way out goes on, and a clean-up that failed without a refusal puts its
connection there. -/
theorem Moves.leaving {sh sh' : Shared ω} {a b : Phase α} (h : Moves H options size sh a b sh') :
    (∀ id, Leaving sh a id → Leaving sh' b id) ∧ (∀ id ∈ sh.gone, id ∈ sh'.gone) ∧
      ∀ e ∈ sh'.botched, e ∈ sh.botched ∨ (¬RollbackRefused H e.2 → Leaving sh' b e.1) := by
  have passes (x : Acquired) (deadline : Option Nat) (work : Proc α) (id : Nat) (sh : Shared ω)
      {a : Phase α} (none : a.discards = []) (h : Leaving sh a id) :
      Leaving sh (x.phase deadline work) id := by
    rcases h with h | h
    · rw [none] at h
      cases h
    · exact .inr h
  cases h with
  | acquire deadline work =>
    exact ⟨fun id => passes _ _ _ id sh rfl, fun _ => id, fun _ => .inl⟩
  | resume timedOut deadline work =>
    exact ⟨fun id => passes _ _ _ id sh rfl, fun _ => id, fun _ => .inl⟩
  | finish lease outcome broken leftOpen run =>
    refine ⟨fun id h => ?_, fun _ => id, fun e he => ?_⟩
    · rcases h with h | h
      · cases h
      · exact .inr h
    · rcases List.mem_append.mp he with he | he
      · right
        intro kept
        obtain ⟨t, failed, rfl⟩ := Option.mem_toList.mp he |> Option.map_eq_some_iff.mp
        obtain rfl : broken = true := (broken_iff_of_failed failed run).mpr kept
        exact .inl (List.mem_singleton.mpr rfl)
      · exact .inl he
  | release lease broken result =>
    refine ⟨fun id h => ?_, fun _ => id, fun _ => .inl⟩
    rcases h with h | h
    · cases broken with
      | false => cases h
      | true => exact .inl h
    · exact .inr h
  | retire lease result =>
    refine ⟨fun id h => ?_, fun _ h => .tail _ h, fun _ => .inl⟩
    rcases h with h | h
    · obtain rfl := List.mem_singleton.mp h
      exact .inr (.head _)
    · exact .inr (.tail _ h)
  | unwind lease | closeIdle lease rest =>
    refine ⟨fun id h => ?_, fun _ h => .tail _ h, fun _ => .inl⟩
    rcases h with h | h
    · cases h
    · exact .inr (.tail _ h)
  | _ =>
    refine ⟨fun id h => ?_, fun _ => id, fun _ => .inl⟩
    rcases h with h | h
    · cases h
    · exact .inr h

/-- Every connection whose clean-up failed without a refusal is discarded. -/
def Discards (H : Host ω) (sys : System ω α) : Prop :=
  ∀ e ∈ sys.shared.botched, ¬RollbackRefused H e.2 → e.1 ∈ sys.discarded

theorem Discards.step {a b : System ω α} (h : Discards H a) (hs : Step H options size a b) :
    Discards H b := by
  unfold Discards System.discarded at h ⊢
  rcases hs.moves_or_beside with ⟨before, after, x, y, sh, sh', hm, rfl, rfl⟩ | beside
  · obtain ⟨goesOn, gone, fresh⟩ := hm.leaving
    simp only [List.flatMap_append, List.flatMap_cons, List.mem_append] at h ⊢
    intro e he kept
    have arrives (leaving : Leaving sh' y e.1) : (e.1 ∈ before.flatMap Phase.discards ∨
        e.1 ∈ y.discards ∨ e.1 ∈ after.flatMap Phase.discards) ∨ e.1 ∈ sh'.gone :=
      leaving.elim (fun h => .inl (.inr (.inl h))) .inr
    rcases fresh e he with he | leaving
    · rcases h e he kept with (here | here | here) | here
      · exact .inl (.inl here)
      · exact arrives (goesOn _ (.inl here))
      · exact .inl (.inr (.inr here))
      · exact .inr (gone _ here)
    · exact arrives (leaving kept)
  · rwa [beside.flatMap _ fun _ => Phase.discards_of_unoccupied, beside.gone, beside.botched]

theorem Reachable.discards {sys : System ω α} (h : Reachable H options size sys) : Discards H sys :=
  h.invariant (fun _ _ _ he => absurd he List.not_mem_nil) fun _ _ _ => Discards.step

/-- A closure that begins a transaction and leaves it open. -/
def leavesOpen : Proc Unit := .call .begin fun _ => .done (.ok ())

/-- Where its `BEGIN` leaves the client, with an answer to the rollback ahead. -/
def begun (answer : Except WireError Frame) :
    Execution (Client × Process (List (Except WireError Frame))) Error Event Reply :=
  Call.begin.run scripted (session, ⟨1, 1, [replies .response began, answer]⟩)

def tidied (answer : Except WireError Frame) :
    Execution (Client × Process (List (Except WireError Frame))) Error Event (Bool × Bool) :=
  settle scripted (.ok () : Except Error Unit) (begun answer).state

/-- A pool of one after such a borrow, when its connection is about to be given back. -/
def cleaned (answer : Except WireError Frame) (broken : Bool) :
    System (List (Except WireError Frame)) Unit :=
  ⟨⟨⟨[], 1, false⟩, (tidied answer).state.2, 0,
      sessionLog ++ (begun answer).events ++ (tidied answer).events, 1, [], 0,
      ((failedCleanUp scripted (.ok () : Except Error Unit) (begun answer).state).map
        fun t => (0, t)).toList ++ []⟩,
    [.releasing ⟨0, (tidied answer).state.1⟩ broken (verdict (.ok ()) true)]⟩

theorem reachable_cleaned {answer : Except WireError Frame} {broken : Bool}
    (run : (tidied answer).outcome = .returned (broken, true)) :
    Reachable scripted Options.default 1 (cleaned answer broken) := by
  have working := reachable_working leavesOpen [replies .response began, answer] 0
  have called := working.step (.moves [] _ _ _ _ _ (.call ⟨0, session⟩ .begin _))
  exact called.step (.moves [] _ _ _ _ _ (.finish ⟨0, (begun answer).state.1⟩ (.ok ()) broken true run))

/-- In every state of every run a connection whose clean-up rollback failed is closed, or on
its way there, and neither idle nor lent, unless that rollback was refused; and what is
decided when a closure ends is just that. -/
theorem cleanUp_discards {sys : System ω α} (h : Reachable H options size sys) :
    (∀ e ∈ sys.shared.botched, ¬RollbackRefused H e.2 →
      e.1 ∈ sys.discarded ∧ e.1 ∉ sys.kept) ∧
    ∀ (lease : Lease) (outcome : Except Error α), .working lease (.done outcome) ∈ sys.threads →
      ∀ t, failedCleanUp H outcome (lease.client, sys.shared.process) = some t →
        ∀ broken leftOpen, (settle H outcome (lease.client, sys.shared.process)).outcome =
            .returned (broken, leftOpen) →
          (broken = true ↔ ¬RollbackRefused H t) :=
  ⟨fun e he kept => ⟨h.discards e he kept, h.placed.not_kept (h.discards e he kept)⟩,
    fun _ _ _ _ failed _ _ run => broken_iff_of_failed failed run⟩

theorem cleanUp_discards_undecoded :
    (∀ e ∈ (cleaned (replies .response done) true).shared.botched, ¬RollbackRefused scripted e.2 →
      e.1 ∈ (cleaned (replies .response done) true).discarded ∧
        e.1 ∉ (cleaned (replies .response done) true).kept) ∧
    ∀ (lease : Lease) (outcome : Except Error Unit),
      .working lease (.done outcome) ∈ (cleaned (replies .response done) true).threads →
      ∀ t, failedCleanUp scripted outcome
          (lease.client, (cleaned (replies .response done) true).shared.process) = some t →
        ∀ broken leftOpen, (settle scripted outcome
            (lease.client, (cleaned (replies .response done) true).shared.process)).outcome =
            .returned (broken, leftOpen) →
          (broken = true ↔ ¬RollbackRefused scripted t) :=
  cleanUp_discards (reachable_cleaned (by decide +kernel))

/-- The rollback is answered with an error, and the connection goes to the next borrower. -/
theorem not_discards :
    ¬∀ sys : System (List (Except WireError Frame)) Unit, Reachable scripted Options.default 1 sys →
      ∀ e ∈ sys.shared.botched, e.1 ∈ sys.discarded ∧ e.1 ∉ sys.kept := by
  intro discards
  have back := (show Reachable scripted Options.default 1 (cleaned (replies .response refusedBody) false) from
    reachable_cleaned (by decide +kernel)).step (.moves [] _ _ _ _ _ (.release _ _ _))
  have failed : (failedCleanUp scripted (.ok () : Except Error Unit)
      (begun (replies .response refusedBody)).state).isSome = true := by
    decide +kernel
  obtain ⟨t, ht⟩ := Option.isSome_iff_exists.mp failed
  have botched : (0, t) ∈ (cleaned (replies .response refusedBody) false).shared.botched := by
    simp [cleaned, ht]
  have gone := (discards _ back (0, t) botched).1
  exact absurd (show 0 ∈ ([] : List Nat) from gone) List.not_mem_nil

end

end TricoreSdk
