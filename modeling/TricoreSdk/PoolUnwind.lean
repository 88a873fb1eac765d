import TricoreSdk.AtMostOnce
import TricoreSdk.PoolCleanUp
import TricoreSdk.WithTransaction

/-! The blocks a closure left open on a connection of the pool: which of them the pool
rolls back, and where the connection goes after that. -/

namespace TricoreSdk
open Effects Path SessionServer

/-- The `ROLLBACK` a client sends after `i` others. -/
def Client.nthRollback (c : Client) (i : Nat) : Value :=
  (Client.numbered^[i] c).envelope rollbackOp c.requestTxn

theorem Client.nthRollback_succ (c : Client) (isOpen : Bool) (i : Nat) :
    (c.numbered.withTxnOpen isOpen).nthRollback i = c.nthRollback (i + 1) := by
  have commute : Function.Commute Client.numbered (Client.withTxnOpen isOpen) := fun _ => rfl
  unfold nthRollback
  rw [Function.iterate_succ_apply, commute.iterate_left i c.numbered]
  rfl

section

variable {ω α : Type} {H : Host ω} {S : SessionServer H} {c : Client} {p : Process ω}

variable (H) in
/-- The first `k` of them fit. -/
def RollbacksFit (c : Client) (k : Nat) : Prop :=
  ∀ i < k, ∃ bytes, encode .request (H.body (some (c.nthRollback i))) = .ok bytes

theorem rollbacksFit_succ (isOpen : Bool) (k : Nat) :
    RollbacksFit H c (k + 1) ↔ (∃ bytes, encode .request (H.body (some (c.nthRollback 0))) = .ok bytes) ∧
      RollbacksFit H (c.numbered.withTxnOpen isOpen) k := by
  unfold RollbacksFit
  simp only [Client.nthRollback_succ]
  constructor
  · exact fun h => ⟨h 0 (Nat.succ_pos k), fun i hi => h (i + 1) (Nat.succ_lt_succ hi)⟩
  · rintro ⟨first, rest⟩ i hi
    cases i with
    | zero => exact first
    | succ i => exact rest i (Nat.lt_of_succ_lt_succ hi)

variable (H) in
/-- Every request among the events was answered with ok. -/
def AllSucceed (es : List Event) : Prop := ∀ x ∈ copies es, ∃ r, x.Succeeded H r

theorem allSucceed_iff {es : List Event} : AllSucceed H es ↔
    ((copies es).all fun x => (x.answer.bind (replyOf H)).any Except.isOk) = true := by
  have one (x : Copy) : (∃ r, x.Succeeded H r) ↔ (x.answer.bind (replyOf H)).any Except.isOk = true := by
    unfold Copy.Succeeded
    cases x.answer with
    | none => simp
    | some frame =>
      rw [Option.bind_some]
      rcases reads : replyOf H frame with _ | e | r <;> simp [reads, Except.isOk, Except.toBool]
  simp only [AllSucceed, List.all_eq_true, one]

theorem AllSucceed.answered {t : Transport} {payload : Option Value} {frame : Frame} {es : List Event}
    (h : AllSucceed H (.wrote t .request payload :: .answered t frame :: es)) :
    ∃ r, replyOf H frame = some (.ok r) := by
  obtain ⟨r, frame', answer, reads⟩ := h _ List.mem_cons_self
  simp only [answerTo, if_true, Option.some.injEq] at answer
  exact ⟨r, answer ▸ reads⟩

/-! ## One rollback -/

theorem control_nthRollback (S : SessionServer H) (c : Client) (i : Nat) :
    S.control (c.nthRollback i) = some .rollback := S.control_op .rollback _ _ _

/-- A rollback that is too large is not written, and the client takes it for carried out. -/
theorem rollback_large (inside : c.inTransaction = true) {e : Error}
    (large : encode .request (H.body (some (c.nthRollback 0))) = .error e) :
    rollback H (c, p) = ⟨.failed e, (c.numbered.withTxnOpen false, p), []⟩ := by
  rw [rollback_apply, sendIn_stops (.large (live_of_inTransaction inside) e large)]
  have abroad := (encode_error large).2.wasRefusedLocally
  simp [concluded, controlled, abroad, Outcome.andThen]

/-- A rollback that succeeds ends the innermost block, and the client remembers whether
there are others. -/
theorem rollback_succeeds (inside : c.inTransaction = true) {b : Nat} {rest : List Nat}
    (isOpen : (S.own (c, p)).blocks = b :: rest) {bytes : List UInt8}
    (fits : encode .request (H.body (some (c.nthRollback 0))) = .ok bytes)
    {es : List Event} (succeeds : AllSucceed H ((rollback H (c, p)).events ++ es)) :
    ∃ result frame w, (S.session w c.transport.socket).blocks = rest ∧
      rollback H (c, p) = ⟨.returned result,
        (c.numbered.withTxnOpen (decide (rest ≠ [])), { p with world := w }),
        [.wrote c.transport .request (some (c.nthRollback 0)), .answered c.transport frame]⟩ := by
  have live := live_of_inTransaction inside
  have loop (o : Outcome Error Response) (s : Client × Process ω) (fs : List Event)
      (once : sendOnce H (c.nthRollback 0) (c.numbered, p) = ⟨o, s, fs⟩) :
      (rollback H (c, p)).events = fs := by
    obtain ⟨o', -, run⟩ := sendLoop_stays (H := H) (c.nthRollback 0) 0 c.options.leaderRetryDelay p
      (.inr (.inl (txnOpen_of_inTransaction (c := c.numbered) inside)))
    rw [rollback_apply]
    change (sendLoop H (c.nthRollback 0) c.options.leaderRetries.toNat 0 c.options.leaderRetryDelay
      (c.numbered, p)).events = fs
    rw [run, once]
  have sent := sentOnce H (c.nthRollback 0) c.numbered p
  rcases once : sendOnce H (c.nthRollback 0) (c.numbered, p) with ⟨o, s, fs⟩
  rw [loop o s fs once] at succeeds
  rw [once] at sent
  cases sent with
  | dead e he =>
    rcases he with ⟨fault, hf, -⟩ | ⟨-, hc, -⟩
    · cases live.fault.symm.trans hf
    · cases live.open_.symm.trans hc
  | tooLarge _ e he => cases fits.symm.trans he
  | broken _ _ _ e w hw =>
    obtain ⟨r, frame, answer, -⟩ := succeeds _ List.mem_cons_self
    cases answer
  | misanswered _ _ _ frame w w' hw hr hf e hk =>
    obtain ⟨r, reads⟩ := succeeds.answered
    cases hf.symm.trans reads
  | replied _ _ _ frame w w' hw hr reply hf =>
    obtain ⟨r, reads⟩ := succeeds.answered
    cases hf.symm.trans reads
    have serves := S.serves hw hr hf
    rw [control_nthRollback] at serves
    change Serves H S.mayRefuse _ _ (S.own (c, p)) (S.session w' c.transport.socket) at serves
    have closed : ∃ result, decodeResult H r "ROLLBACK" = .ok result ∧
        result.nestedDepth.isSome = decide (rest ≠ []) ∧ (S.session w' c.transport.socket).blocks = rest := by
      generalize S.own (c, p) = before at serves isOpen
      generalize S.session w' c.transport.socket = after at serves ⊢
      cases serves with
      | closed _ ending hk b' rest' ended _ result read depth =>
        cases isOpen
        refine ⟨result, read, ?_, rfl⟩
        rw [depth, Bool.eq_iff_iff, Session.closeDepth_isSome, decide_eq_true_iff]
    obtain ⟨result, read, flag, left⟩ := closed
    refine ⟨result, frame, w', left, ?_⟩
    rw [rollback_apply, sendIn_apply]
    rw [show c.envelope rollbackOp c.requestTxn = c.nthRollback 0 from rfl, sendLoop_returned once]
    simp [concluded, controlled, read, Outcome.andThen, flag]
    rfl

/-! ## All of them -/

theorem rollbackOpen_events {s : Client × Process ω} (inside : s.1.inTransaction = true) (fuel : Nat) :
    ∃ es, (rollbackOpen H (fuel + 1) s).events = (rollback H s).events ++ es := by
  rcases run : rollback H s with ⟨o, s', es⟩
  cases o with
  | returned result => exact ⟨_, by rw [rollbackOpen_returned inside run]; rfl⟩
  | failed e => exact ⟨[], by rw [rollbackOpen_failed inside run, List.append_nil]⟩
  | panicked => exact absurd (by rw [run]) (rollback_ne_panicked inside)

variable (S) in
/-- One round of the clean-up while a block is open: the rollback does not fit and is the
last, or it ends that block and the clean-up goes on. -/
inductive UnwindRound (c : Client) (p : Process ω) (rest : List Nat) (fuel : Nat) :
    Execution (Client × Process ω) Error Event Unit → Prop
  | stops (large : ¬RollbacksFit H c 1) (s : Client × Process ω) :
    UnwindRound c p rest fuel ⟨.returned (), s, []⟩
  | goesOn (frame : Frame) (isOpen : Bool) (w : ω)
    (first : ∀ k, RollbacksFit H c (k + 1) ↔ RollbacksFit H (c.numbered.withTxnOpen isOpen) k)
    (left : (S.own (c.numbered.withTxnOpen isOpen, { p with world := w })).blocks = rest)
    (agrees : S.Agrees (c.numbered.withTxnOpen isOpen, { p with world := w }))
    (succeeds : AllSucceed H
      (rollbackOpen H fuel (c.numbered.withTxnOpen isOpen, { p with world := w })).events) :
    UnwindRound c p rest fuel
      ((rollbackOpen H fuel (c.numbered.withTxnOpen isOpen, { p with world := w })).after
        [.wrote c.transport .request (some (c.nthRollback 0)), .answered c.transport frame])

theorem unwindRound {fuel : Nat} (live : c.Live) (agrees : S.Agrees (c, p)) {b : Nat} {rest : List Nat}
    (isOpen : (S.own (c, p)).blocks = b :: rest)
    (succeeds : AllSucceed H (rollbackOpen H (fuel + 1) (c, p)).events) :
    UnwindRound S c p rest fuel (rollbackOpen H (fuel + 1) (c, p)) := by
  have inside : c.inTransaction = true := agrees.mpr (by simp [isOpen])
  cases fits : encode .request (H.body (some (c.nthRollback 0))) with
  | error e =>
    rw [rollbackOpen_failed inside (rollback_large inside fits)]
    refine .stops (fun all => ?_) _
    obtain ⟨bytes, first⟩ := all 0 Nat.one_pos
    cases fits.symm.trans first
  | ok bytes =>
    obtain ⟨es, events⟩ := rollbackOpen_events (H := H) (s := (c, p)) inside fuel
    have here := succeeds
    rw [events] at here
    obtain ⟨result, frame, w, left, run⟩ := rollback_succeeds inside isOpen fits here
    rw [rollbackOpen_returned inside run] at succeeds ⊢
    refine .goesOn frame _ w (fun k => ?_) left ?_ fun x hx => succeeds x (.tail _ hx)
    · rw [rollbacksFit_succ (decide (rest ≠ [])), and_iff_right ⟨bytes, fits⟩]
    · have live' : (c.numbered.withTxnOpen (decide (rest ≠ []))).Live := ⟨live.fault, live.open_⟩
      refine (agrees_live live').mpr ?_
      change _ ↔ (S.session w c.transport.socket).blocks ≠ []
      rw [left]
      exact decide_eq_true_iff

variable (S) in
/-- What a clean-up of `k` rollbacks comes to. -/
structure Unwinding (c : Client) (p : Process ω) (k : Nat)
    (r : Execution (Client × Process ω) Error Event Unit) : Prop where
  written : (copies r.events).map (fun x => (x.transport, x.payload)) =
    (List.range k).map fun i => (c.transport, some (c.nthRollback i))
  transport : r.state.1.transport = c.transport
  live : r.state.1.Live
  blocks : (S.own r.state).blocks = (S.own (c, p)).blocks.drop k
  agrees : S.Agrees r.state

theorem rollbackOpen_unwinds (fuel : Nat) (live : c.Live) (agrees : S.Agrees (c, p))
    (fit : RollbacksFit H c (min (S.own (c, p)).blocks.length fuel))
    (succeeds : AllSucceed H (rollbackOpen H fuel (c, p)).events) :
    Unwinding S c p (min (S.own (c, p)).blocks.length fuel) (rollbackOpen H fuel (c, p)) := by
  induction fuel generalizing c p with
  | zero => exact ⟨by simp [rollbackOpen], rfl, live, by simp [rollbackOpen], agrees⟩
  | succ fuel ih =>
    cases isOpen : (S.own (c, p)).blocks with
    | nil =>
      rw [rollbackOpen_outside (inTransaction_outside agrees isOpen)]
      exact ⟨by simp, rfl, live, by simp, agrees⟩
    | cons b rest =>
      rw [isOpen] at fit
      rw [List.length_cons, Nat.add_min_add_right] at fit ⊢
      have round := unwindRound live agrees isOpen succeeds
      generalize rollbackOpen H (fuel + 1) (c, p) = r at round ⊢
      cases round with
      | stops large s =>
        exact absurd (fun i hi => fit i (Nat.lt_of_lt_of_le hi (Nat.le_add_left 1 _))) large
      | goesOn frame isOpen' w first left agrees' succeeds' =>
        rw [first, ← left] at fit
        have live' : (c.numbered.withTxnOpen isOpen').Live := ⟨live.fault, live.open_⟩
        have later := ih live' agrees' fit succeeds'
        rw [left] at later
        refine ⟨?_, later.transport, later.live, later.blocks.trans ?_, later.agrees⟩
        · have written := later.written
          simp only [Client.nthRollback_succ] at written
          simp only [Execution.after, List.cons_append, List.nil_append, copies_wrote_request,
            copies_answered, List.map_cons, written, List.range_succ_eq_map, List.map_map]
          rfl
        · rw [left, isOpen, List.drop_succ_cons]

theorem rollbackOpen_short (fuel : Nat) (live : c.Live) (agrees : S.Agrees (c, p))
    (unfit : ¬RollbacksFit H c (min (S.own (c, p)).blocks.length fuel))
    (succeeds : AllSucceed H (rollbackOpen H fuel (c, p)).events) :
    (copies (rollbackOpen H fuel (c, p)).events).length < min (S.own (c, p)).blocks.length fuel := by
  induction fuel generalizing c p with
  | zero => exact absurd (fun i hi => absurd hi (by simp)) unfit
  | succ fuel ih =>
    cases isOpen : (S.own (c, p)).blocks with
    | nil => exact absurd (fun i hi => absurd hi (by simp [isOpen])) unfit
    | cons b rest =>
      rw [isOpen] at unfit
      rw [List.length_cons, Nat.add_min_add_right] at unfit ⊢
      have round := unwindRound live agrees isOpen succeeds
      generalize rollbackOpen H (fuel + 1) (c, p) = r at round ⊢
      cases round with
      | stops large s => exact Nat.succ_pos _
      | goesOn frame isOpen' w first left agrees' succeeds' =>
        rw [first, ← left] at unfit
        have live' : (c.numbered.withTxnOpen isOpen').Live := ⟨live.fault, live.open_⟩
        have later := ih live' agrees' unfit succeeds'
        rw [left] at later
        exact Nat.succ_lt_succ later

/-! ## Where the connection goes -/

variable (S) in
/-- What the pool makes of the blocks a closure left open on its connection, which is
`lease` before the clean-up and `lease'` after it. -/
structure Unwound (outcome : Except Error α) (lease lease' : Lease) (sh sh' : Shared ω) (broken : Bool)
    (result : Except Error α) : Prop where
  written : ∃ es, sh'.log = sh.log ++ es ∧
    (copies es).length = min (S.own (lease.client, sh.process)).blocks.length maxOpenBlocks ∧
    ∀ x ∈ copies es, x.transport = lease.client.transport ∧
      ∃ envelope, x.payload = some envelope ∧ S.control envelope = some .rollback
  same : lease'.id = lease.id ∧ lease'.client.transport = lease.client.transport
  idle : (S.own (lease.client, sh.process)).blocks.length ≤ maxOpenBlocks →
    (S.own (lease'.client, sh'.process)).blocks = [] ∧ ∀ pool : PoolState, pool.closed = false →
      pool.release lease' broken = ({ pool with idle := lease' :: pool.idle, lent := pool.lent - 1 }, false)
  retired : maxOpenBlocks < (S.own (lease.client, sh.process)).blocks.length → ∀ pool : PoolState,
    pool.release lease' broken = ({ pool with lent := pool.lent - 1 }, true)
  told : ∃ e, result = .error e ∧ ∀ e', outcome = .error e' → e = e'

variable {outcome : Except Error α} {s : Client × Process ω}

theorem settle_inside (usable : brokenBy outcome s.1 = false) (inside : s.1.inTransaction = true) :
    settle H outcome s =
      ⟨.returned ((rollbackOpen H maxOpenBlocks s).state.1.inTransaction ||
          (rollbackOpen H maxOpenBlocks s).state.1.isPoisoned, true),
        (rollbackOpen H maxOpenBlocks s).state, (rollbackOpen H maxOpenBlocks s).events⟩ := by
  rw [settle_apply, usable, inside]
  rfl

theorem settle_outside (usable : brokenBy outcome s.1 = false) (outside : s.1.inTransaction = false) :
    settle H outcome s = ⟨.returned (false, false), s, []⟩ := by
  rw [settle_apply, usable, outside]
  rfl

theorem verdict_leftOpen (outcome : Except Error α) :
    ∃ e, verdict outcome true = .error e ∧ ∀ e', outcome = .error e' → e = e' := by
  cases outcome with
  | ok value => exact ⟨_, rfl, nofun⟩
  | error e => exact ⟨e, rfl, fun e' h => by cases h; rfl⟩

theorem not_unwound_outside (options : Options) (size : Nat) {sh : Shared ω} {lease : Lease}
    (usable : brokenBy outcome lease.client = false) (outside : lease.client.inTransaction = false)
    (isOpen : (S.own (lease.client, sh.process)).blocks ≠ []) :
    ¬∀ lease' broken result sh', Moves H options size sh (.working lease (.done outcome))
      (.releasing lease' broken result) sh' → Unwound S outcome lease lease' sh sh' broken result := by
  intro all
  have settled := settle_outside (H := H) (s := (lease.client, sh.process)) usable outside
  have unwound := all _ _ _ _ (.finish lease outcome false false (by rw [settled]))
  obtain ⟨es, log, count, -⟩ := unwound.written
  rw [settled] at log
  obtain rfl : [] = es := List.append_cancel_left log
  have some_open : 0 < min (S.own (lease.client, sh.process)).blocks.length maxOpenBlocks :=
    Nat.lt_min.mpr ⟨List.length_pos_iff.mpr isOpen, by decide⟩
  exact absurd count (Nat.ne_of_lt some_open)

/-- The blocks a closure left open are unwound as promised if and only if its client
remembers a transaction, and the rollbacks fit. -/
theorem unwound_iff (options : Options) (size : Nat) {sh : Shared ω} {lease : Lease}
    (usable : brokenBy outcome lease.client = false)
    (isOpen : (S.own (lease.client, sh.process)).blocks ≠ [])
    (succeeds : AllSucceed H (settle H outcome (lease.client, sh.process)).events) :
    (∀ lease' broken result sh', Moves H options size sh (.working lease (.done outcome))
        (.releasing lease' broken result) sh' → Unwound S outcome lease lease' sh sh' broken result) ↔
      lease.client.inTransaction = true ∧ RollbacksFit H lease.client
        (min (S.own (lease.client, sh.process)).blocks.length maxOpenBlocks) := by
  cases inside : lease.client.inTransaction with
  | false =>
    exact iff_of_false (not_unwound_outside options size usable inside isOpen) (fun h => nomatch h.1)
  | true =>
    have settled := settle_inside (H := H) (s := (lease.client, sh.process)) usable inside
    rw [settled] at succeeds
    have live := live_of_inTransaction inside
    have agrees : S.Agrees (lease.client, sh.process) := iff_of_true inside isOpen
    rw [and_iff_right rfl]
    constructor
    · intro all
      have unwound := all _ _ _ _ (.finish lease outcome _ _ (by rw [settled]))
      obtain ⟨es, log, count, -⟩ := unwound.written
      rw [settled] at log
      obtain rfl := List.append_cancel_left log
      by_contra unfit
      exact absurd count (Nat.ne_of_lt (rollbackOpen_short maxOpenBlocks live agrees unfit succeeds))
    · intro fit lease' broken result sh' moves
      have unwinding := rollbackOpen_unwinds maxOpenBlocks live agrees fit succeeds
      cases moves with
      | finish _ _ _ leftOpen run =>
        rw [settled] at run ⊢
        generalize rollbackOpen H maxOpenBlocks (lease.client, sh.process) = r at unwinding run ⊢
        cases run
        have whole : r.state.1.isPoisoned = false := by
          simp [Client.isPoisoned, unwinding.live.fault]
        refine ⟨⟨r.events, rfl, ?_, fun x hx => ?_⟩, ⟨rfl, unwinding.transport⟩, fun few => ?_,
          fun many => ?_, verdict_leftOpen outcome⟩
        · have count := congrArg List.length unwinding.written
          rwa [List.length_map, List.length_map, List.length_range] at count
        · have mem := List.mem_map_of_mem (f := fun x => (x.transport, x.payload)) hx
          rw [unwinding.written] at mem
          obtain ⟨i, -, same⟩ := List.mem_map.mp mem
          simp only [Prod.mk.injEq] at same
          exact ⟨same.1.symm, _, same.2.symm, control_nthRollback S lease.client i⟩
        · have left : (S.own r.state).blocks = [] := by
            rw [unwinding.blocks, Nat.min_eq_left few, List.drop_length]
          refine ⟨left, fun pool still => ?_⟩
          rw [inTransaction_outside unwinding.agrees left, whole]
          simp [PoolState.release, still]
        · have left : (S.own r.state).blocks ≠ [] := by
            rw [unwinding.blocks, Nat.min_eq_right (Nat.le_of_lt many)]
            simpa using many
          rw [unwinding.agrees.mpr left]
          exact fun pool => rfl

end

/-! ## Closures on a pool of the desk -/

def nested : Client × Process Desk := ((Proc.ofCalls [.begin, .begin]).run deskHost deskSession).state

def nestedShared : Shared Desk := ⟨⟨[], 1, false⟩, nested.2, 0, [], 1, [], 0, []⟩

theorem unwound_iff_nested :
    (∀ lease' broken (result : Except Error Unit) sh',
      Moves deskHost Options.default 1 nestedShared (.working ⟨0, nested.1⟩ (.done (.ok ())))
        (.releasing lease' broken result) sh' →
      Unwound desk (.ok ()) ⟨0, nested.1⟩ lease' nestedShared sh' broken result) ↔
    nested.1.inTransaction = true ∧
      RollbacksFit deskHost nested.1 (min (desk.own nested).blocks.length maxOpenBlocks) :=
  unwound_iff Options.default 1 (by decide +kernel) (by decide +kernel)
    (allSucceed_iff.mpr (by decide +kernel))

theorem commit_forgotten {c : Client} {p : Process Desk} (placed : desk.Placed (c, p)) (live : c.Live)
    (granted : c.sessionTxnGranted = true) (none_open : (desk.own (c, p)).blocks = [])
    (agrees : desk.Agrees (c, p)) {bytes : List UInt8}
    (fits : encode .request (deskHost.body (some (c.envelope Control.begin.op c.requestTxn))) = .ok bytes)
    {e : Error} (large : encode .request (deskHost.body
      (some ((c.numbered.withTxnOpen true).envelope Control.commit.op c.requestTxn))) = .error e) :
    ∃ s es, (Proc.ofCalls [.begin, .commit]).run deskHost (c, p) = ⟨.returned (), s, es⟩ ∧
      brokenBy (.ok () : Except Error Unit) s.1 = false ∧ s.1.inTransaction = false ∧
      (desk.own s).blocks ≠ [] := by
  obtain ⟨w, begun⟩ := desk_begin live granted p none_open fits
  have agrees' := (begin_agrees placed agrees).2
  rw [begun] at agrees'
  have live' : (c.numbered.withTxnOpen true).Live := ⟨live.fault, live.open_⟩
  have flag := controlled_large (H := deskHost) (c := (c.numbered.withTxnOpen true).numbered)
    (k := .commit) (by decide) (encode_error large).2.wasRefusedLocally
  have same := controlled_same (H := deskHost) Control.commit.keyword
    (c.numbered.withTxnOpen true).numbered (.failed e)
  have run : ∃ es, (Proc.ofCalls [.begin, .commit]).run deskHost (c, p) = ⟨.returned (),
      (controlled deskHost Control.commit.keyword (c.numbered.withTxnOpen true).numbered (.failed e),
        { p with world := w }), es⟩ := by
    have committed := request_large (p := { p with world := w })
      (rfl : Call.commit.request? (c.numbered.withTxnOpen true) = _) live' large
    rw [← begun, settle_control (k := .commit) rfl] at committed
    simp [Proc.ofCalls, Proc.run, Action.observe, committed, Execution.after]
  obtain ⟨es, run⟩ := run
  refine ⟨_, es, run, ?_, by rw [Client.inTransaction, flag, Bool.false_and, Bool.false_and], ?_⟩
  · simp [brokenBy, Client.isPoisoned, (same.live ⟨live.fault, live.open_⟩).fault]
  · rw [own_same same]
    exact (agrees_live live').mp agrees' |>.mp rfl

/-- A closure whose `COMMIT` is one byte too long: nothing is rolled back, and the connection
goes back with the transaction open. -/
theorem not_unwound_wide :
    ∃ (sys : System Desk Unit) (lease : Lease), Reachable deskHost (Options.ofDatabase wideDatabase) 1 sys ∧
      sys.threads = [.working lease (.done (.ok ()))] ∧
      brokenBy (.ok () : Except Error Unit) lease.client = false ∧
      (desk.own (lease.client, sys.shared.process)).blocks ≠ [] ∧
      AllSucceed deskHost
        (settle deskHost (.ok () : Except Error Unit) (lease.client, sys.shared.process)).events ∧
      ¬∀ lease' broken result sh', Moves deskHost (Options.ofDatabase wideDatabase) 1 sys.shared
        (.working lease (.done (.ok ()))) (.releasing lease' broken result) sh' →
        Unwound desk (.ok ()) lease lease' sys.shared sh' broken result := by
  obtain ⟨p, es, run⟩ := desk_connect wideDatabase
  obtain ⟨placed, none_open, -⟩ := (connect_placed run desk_unused).2 _ rfl
  have agrees : desk.Agrees (databaseClient wideDatabase, p) := by
    have flag : (databaseClient wideDatabase).txnOpen = false := rfl
    simp [Agrees, none_open, Client.inTransaction, flag]
  obtain ⟨bytes, fits⟩ := begin_fits
  obtain ⟨e, large⟩ := commit_large
  have granted : (databaseClient wideDatabase).sessionTxnGranted = true := rfl
  have live : (databaseClient wideDatabase).Live := ⟨rfl, rfl⟩
  have txn : (databaseClient wideDatabase).requestTxn = none := rfl
  generalize Options.ofDatabase wideDatabase = options at run ⊢
  generalize databaseClient wideDatabase = c at *
  rw [← txn] at fits large
  obtain ⟨s, fs, worked, usable, outside, isOpen⟩ :=
    commit_forgotten placed live granted none_open agrees fits large
  have lent : Reachable deskHost options 1 _ := reachable_lent run (Proc.ofCalls [.begin, .commit]) 0
  have settled := settle_outside (H := deskHost) (s := s) usable outside
  refine ⟨_, ⟨0, s.1⟩, Reachable.worked [] _ lent worked, rfl, usable, isOpen, ?_,
    not_unwound_outside options 1 usable outside isOpen⟩
  change AllSucceed deskHost (settle deskHost (.ok () : Except Error Unit) s).events
  rw [settled]
  exact fun x hx => absurd hx List.not_mem_nil

end TricoreSdk
