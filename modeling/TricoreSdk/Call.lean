import TricoreSdk.RequestTxn
import TricoreSdk.SetUp
import TricoreSdk.Sql

/-! Programs over a connection: the calls a caller can make on it, runs of
calls, and the closures a transaction or a pool runs. -/

namespace TricoreSdk
open Effects

/-- The calls on `&mut Client`. `request` is what every remaining typed method
sends before it decodes the answer. -/
inductive Call where
  | request (op : Value)
  | execute (sql : String)
  | executeParams (sql : String) (params : List Param)
  | query (sql : String)
  | queryParams (sql : String) (params : List Param)
  | transaction (statements : List Statement)
  | begin
  | commit
  | rollback
  | ping
  | cancel (requestId : String)
  | setReadTimeout (timeout : Option Duration)
  | setRequestTimeout (timeout : Option Duration)
  | setRequestTxn (txn : Option String)
  | documentBegin (serializable : Bool)
  | documentCommit (txn : String)
  | documentRollback (txn : String)
  | graphBegin (graph : String)
  | graphCommit (graph txn : String)
  | graphRollback (graph txn : String)

inductive Reply where
  | unit
  | response (r : Response)
  | rows (r : Rows)
  | result (r : TransactionResult)
  | count (n : UInt64)
  | txn (id : String)
  | landed (c : DocumentCommit)
  | summary (s : GraphWriteSummary)
  | discarded (n : Int)

section

variable {ω α : Type} (H : Host ω)

def Call.run : Call → Method ω Reply
  | request op => do return .response (← send H op)
  | execute sql => do return .response (← TricoreSdk.execute H sql)
  | executeParams sql params => do return .response (← TricoreSdk.executeParams H sql params)
  | query sql => do return .rows (← TricoreSdk.query H sql)
  | queryParams sql params => do return .rows (← TricoreSdk.queryParams H sql params)
  | transaction statements => do return .result (← TricoreSdk.transaction H statements)
  | begin => do return .result (← TricoreSdk.begin H)
  | commit => do return .result (← TricoreSdk.commit H)
  | rollback => do return .result (← TricoreSdk.rollback H)
  | ping => do
    TricoreSdk.ping H
    return .unit
  | cancel requestId => do return .count (← TricoreSdk.cancel H requestId)
  | setReadTimeout timeout => do
    TricoreSdk.setReadTimeout H timeout
    return .unit
  | setRequestTimeout timeout => do
    Method.update (Client.withRequestTimeout timeout)
    return .unit
  | setRequestTxn txn => do
    Method.update (Client.withRequestTxn txn)
    return .unit
  | documentBegin serializable => do return .txn (← documentBeginTransaction H serializable)
  | documentCommit txn => do return .landed (← documentCommitTransaction H txn)
  | documentRollback txn => do
    documentRollbackTransaction H txn
    return .unit
  | graphBegin graph => do return .txn (← graphBeginTransaction H graph)
  | graphCommit graph txn => do return .summary (← graphCommitTransaction H graph txn)
  | graphRollback graph txn => do return .discarded (← graphRollbackTransaction H graph txn)

/-- A closure over a client: it ends, unwinds, reads the client, or makes a call
and goes on by how that ended. -/
inductive Proc (α : Type) where
  | done (result : Except Error α)
  | panic
  | look (next : Client → Proc α)
  | call (c : Call) (next : Outcome Error Reply → Proc α)

def Proc.run : Proc α → Method ω α
  | done result => Action.ofExcept result
  | panic => Action.panic
  | look next => do
    let c ← Method.self
    (next c).run
  | call c next => do
    let outcome ← Action.observe (c.run H)
    (next outcome).run

/-- One call after the other, whatever becomes of each. -/
def Proc.ofCalls : List Call → Proc Unit
  | [] => done (.ok ())
  | c :: calls => call c fun _ => ofCalls calls

/-- Go on by how a closure ended; a panic is not handed on. -/
def Proc.andThen {β : Type} : Proc α → (Except Error α → Proc β) → Proc β
  | done result, next => next result
  | panic, _ => panic
  | look f, next => look fun c => (f c).andThen next
  | call c f, next => call c fun o => (f o).andThen next

def Proc.attempt (c : Call) (next : Except Error Reply → Proc α) : Proc α :=
  call c fun
    | .returned reply => next (.ok reply)
    | .failed e => next (.error e)
    | .panicked => panic

/-- The end of `with_transaction`, by how its closure ended. -/
def Proc.endTransaction : Except Error α → Proc α
  | .ok value => attempt .commit fun
    | .error e => done (.error e)
    | .ok _ => done (.ok value)
  | .error e => look fun c =>
    if c.inTransaction then attempt .rollback fun _ => done (.error e) else done (.error e)

/-- `with_transaction` as a closure. -/
def Proc.withTransaction (work : Proc α) : Proc α :=
  attempt .begin fun
    | .error e => done (.error e)
    | .ok _ => work.andThen endTransaction

/-- Every call of a run, with the log ahead of it and the state it finds, satisfies `φ`. -/
def AlongRun (φ : List Event → Client × Process ω → Call → Prop) :
    List Event → Client × Process ω → Proc α → Prop
  | _, _, .done _ => True
  | _, _, .panic => True
  | log, s, .look next => AlongRun φ log s (next s.1)
  | log, s, .call c next =>
    φ log s c ∧ AlongRun φ (log ++ (c.run H s).events) (c.run H s).state (next (c.run H s).outcome)

/-- A property of states that every call keeps, and under which a call that
satisfies `φ` satisfies `ψ`, carries a run from `φ` to `ψ`. -/
theorem AlongRun.imp {H : Host ω} {I : List Event → Client × Process ω → Prop}
    {φ ψ : List Event → Client × Process ω → Call → Prop}
    (step : ∀ log s call, I log s → φ log s call →
      ψ log s call ∧ I (log ++ (call.run H s).events) (call.run H s).state)
    {log : List Event} {s : Client × Process ω} {work : Proc α} (h : I log s)
    (run : AlongRun H φ log s work) : AlongRun H ψ log s work := by
  induction work generalizing log s with
  | done result => trivial
  | panic => trivial
  | look next ih => exact ih s.1 h run
  | call c next ih =>
    obtain ⟨hψ, h'⟩ := step log s c h run.1
    exact ⟨hψ, ih _ h' run.2⟩

theorem alongRun_of_invariant {H : Host ω} {I : List Event → Client × Process ω → Prop}
    {ψ : List Event → Client × Process ω → Call → Prop}
    (step : ∀ log s call, I log s →
      ψ log s call ∧ I (log ++ (call.run H s).events) (call.run H s).state)
    {log : List Event} {s : Client × Process ω} (h : I log s) (work : Proc α) :
    AlongRun H ψ log s work := by
  induction work generalizing log s with
  | done result => trivial
  | panic => trivial
  | look next ih => exact ih s.1 h
  | call c next ih =>
    obtain ⟨hψ, h'⟩ := step log s c h
    exact ⟨hψ, ih _ h'⟩

/-! ## Closures as computations -/

theorem Proc.run_andThen {β : Type} (work : Proc α) (next : Except Error α → Proc β) :
    (work.andThen next).run H =
      (Action.attempt (work.run H) >>= fun r => (next r).run H : Method ω β) := by
  induction work with
  | done result => cases result <;> rfl
  | panic => rfl
  | look f ih =>
    funext s
    simpa [andThen, run, Action.attempt] using congrFun (ih s.1) s
  | call c f ih =>
    funext s
    have step := congrFun (ih (c.run H s).outcome) (c.run H s).state
    simp only [andThen, run, Action.bind_apply, Action.observe_apply, Execution.follow_returned]
    rw [step]
    simp only [Action.attempt, Action.bind_apply, Action.observe_apply, Execution.follow_returned]
    rcases (f (c.run H s).outcome).run H (c.run H s).state with ⟨o, s', es⟩
    cases o <;> simp [Execution.after]

theorem Proc.run_attempt (c : Call) (next : Except Error Reply → Proc α) :
    (attempt c next).run H =
      (Action.attempt (c.run H) >>= fun r => (next r).run H : Method ω α) := by
  funext s
  simp only [attempt, run, Action.bind_apply, Action.observe_apply, Execution.follow_returned,
    Action.attempt]
  rcases c.run H s with ⟨o, s', es⟩
  cases o <;> simp [run, Execution.after]

theorem Proc.run_withTransaction (work : Proc α) :
    work.withTransaction.run H = TricoreSdk.withTransaction H (work.run H) := by
  funext s
  rcases hb : TricoreSdk.begin H s with ⟨o, s₁, es₁⟩
  cases o with
  | failed e =>
    simp [withTransaction, run_attempt, Call.run, TricoreSdk.withTransaction, Action.attempt, hb, run,
      Execution.after]
  | panicked =>
    simp [withTransaction, run_attempt, Call.run, TricoreSdk.withTransaction, Action.attempt, hb]
  | returned _ =>
    rcases hw : work.run H s₁ with ⟨o, s₂, es₂⟩
    cases o with
    | panicked =>
      simp [withTransaction, run_attempt, run_andThen, Call.run, TricoreSdk.withTransaction,
        Action.attempt, hb, hw, Execution.after]
    | returned value =>
      rcases hc : TricoreSdk.commit H s₂ with ⟨o, s₃, es₃⟩
      cases o <;> simp [withTransaction, endTransaction, run_attempt, run_andThen, Call.run,
        TricoreSdk.withTransaction, Action.attempt, hb, hw, hc, run, Execution.after]
    | failed e =>
      rcases hr : TricoreSdk.rollback H s₂ with ⟨o, s₃, es₃⟩
      cases hi : s₂.1.inTransaction with
      | false =>
        simp [withTransaction, endTransaction, run_attempt, run_andThen, Call.run,
          TricoreSdk.withTransaction, Action.attempt, hb, hw, hi, run, Execution.after]
      | true =>
        cases o <;> simp [withTransaction, endTransaction, run_attempt, run_andThen, Call.run,
          TricoreSdk.withTransaction, Action.attempt, hb, hw, hi, hr, run, Execution.after]

end

/-! ## Rules for paths -/

section

variable {ω α β : Type} {H : Host ω} {P : Path (Client × Process ω) Event}

open Path

theorem respects_map {m : Method ω α} (f : α → β) (hm : P.Respects m) :
    P.Respects (do return f (← m) : Method ω β) := hm.bind fun _ => respects_pure _

theorem respects_unexpected (hp : ∀ error, P.Respects (poison H error)) (wanted : String) (tag : Tag) :
    P.Respects (unexpected H wanted tag : Method ω α) :=
  (hp _).bind fun _ => respects_fail _

theorem respects_followHint (hm : ∀ address, P.Respects (moveTo H address)) (hint : Option String) :
    P.Respects (followHint H hint) := by
  cases hint with
  | none => exact respects_pure false
  | some address =>
    refine respects_self.bind fun c => ?_
    split
    · exact hm address
    · exact respects_pure false

theorem respects_ping (hx : P.Respects (exchange H .ping none))
    (hp : ∀ error, P.Respects (poison H error)) : P.Respects (ping H) := by
  refine hx.bind fun frame => ?_
  split
  · exact respects_pure ()
  · exact respects_unexpected hp _ _

theorem respects_cancel (hx : ∀ payload, P.Respects (exchange H .cancel payload))
    (hp : ∀ error, P.Respects (poison H error)) (requestId : String) :
    P.Respects (cancel H requestId) := by
  unfold cancel
  split
  · exact respects_fail _
  · refine (hx _).bind fun frame => ?_
    split
    · exact respects_ofExcept _
    · exact respects_fail _
    · exact respects_unexpected hp _ _

theorem respects_sendOnce {envelope : Value} (hx : P.Respects (exchange H .request (some envelope)))
    (hp : ∀ error, P.Respects (poison H error)) : P.Respects (sendOnce H envelope) := by
  refine hx.bind fun frame => ?_
  split
  · exact respects_ofExcept _
  · exact respects_fail _
  · exact respects_unexpected hp _ _

theorem respects_sendLoop {envelope : Value} (once : P.Respects (sendOnce H envelope))
    (hm : ∀ address, P.Respects (moveTo H address))
    (paused : ∀ delay, P.Respects (Action.emit (.paused delay) : Method ω Unit))
    (left retried : Nat) (pause : Duration) :
    P.Respects (sendLoop H envelope left retried pause) := by
  induction left generalizing retried pause with
  | zero =>
    unfold sendLoop
    refine once.attempt.bind fun r => ?_
    cases r with
    | ok response => exact respects_pure _
    | error e =>
      dsimp only
      split
      · exact respects_fail _
      · refine respects_self.bind fun c => ?_
        split <;> exact respects_fail _
  | succ left ih =>
    unfold sendLoop
    refine once.attempt.bind fun r => ?_
    cases r with
    | ok response => exact respects_pure _
    | error e =>
      dsimp only
      split
      · exact respects_fail _
      · refine respects_self.bind fun c => ?_
        split
        · exact respects_fail _
        · refine (respects_followHint hm _).bind fun moved => ?_
          split
          · exact ih _ _
          · refine (paused pause).bind fun _ => ?_
            split
            · exact respects_panic
            · exact ih _ _

theorem respects_proc (run : ∀ c : Call, P.Respects (c.run H)) (work : Proc α) :
    P.Respects (work.run H) := by
  induction work with
  | done result => exact respects_ofExcept result
  | panic => exact respects_panic
  | look next ih => exact respects_self.bind fun c => ih c
  | call c next ih => exact (run c).observe.bind fun o => ih o

/-- The changes a call makes to the client without touching its connection. -/
inductive Bookkeeping : (Client → Client) → Prop
  | counted : Bookkeeping Client.counted
  | remembering (id : String) : Bookkeeping (Client.remembering id)
  | withRequestTimeout (timeout : Option Duration) : Bookkeeping (Client.withRequestTimeout timeout)
  | withRequestTxn (txn : Option String) : Bookkeeping (Client.withRequestTxn txn)
  | forgetTxn (txn : String) : Bookkeeping (Client.forgetTxn txn)

/-- What such a change leaves as it is. -/
structure Bookkept (c c' : Client) : Prop where
  transport : c'.transport = c.transport
  database : c'.database = c.database
  grantedFeatures : c'.grantedFeatures = c.grantedFeatures
  txnOpen : c'.txnOpen = c.txnOpen
  fault : c'.fault = c.fault
  closed : c'.closed = c.closed
  options : c'.options = c.options

theorem Bookkeeping.kept {f : Client → Client} (hf : Bookkeeping f) (c : Client) : Bookkept c (f c) := by
  cases hf with
  | forgetTxn txn =>
    unfold Client.forgetTxn
    split <;> exact ⟨rfl, rfl, rfl, rfl, rfl, rfl, rfl⟩
  | _ => exact ⟨rfl, rfl, rfl, rfl, rfl, rfl, rfl⟩

/-- What a path must respect for every request to respect it. -/
structure SendPath (H : Host ω) (P : Path (Client × Process ω) Event) : Prop where
  exchange : ∀ tag payload, P.Respects (TricoreSdk.exchange H tag payload)
  poison : ∀ error, P.Respects (TricoreSdk.poison H error)
  moveTo : ∀ address, P.Respects (TricoreSdk.moveTo H address)
  paused : ∀ delay, P.Respects (Action.emit (.paused delay) : Method ω Unit)
  update : ∀ {f}, Bookkeeping f → P.Respects (Method.update f)

/-- And for a deadline to respect it. -/
structure WirePath (H : Host ω) (P : Path (Client × Process ω) Event) : Prop
    extends SendPath H P where
  setReadTimeout : ∀ timeout, P.Respects (TricoreSdk.setReadTimeout H timeout)

/-- What a path must respect for every call to respect it. -/
structure CallPath (H : Host ω) (P : Path (Client × Process ω) Event) : Prop
    extends WirePath H P where
  withTxnOpen : ∀ isOpen, P.Respects (Method.update (Client.withTxnOpen isOpen))

/-- What calls are made of, but for the read deadline. -/
structure RequestPath (H : Host ω) (P : Path (Client × Process ω) Event) : Prop where
  sendIn : ∀ op txn, P.Respects (TricoreSdk.sendIn H op txn)
  ping : P.Respects (TricoreSdk.ping H)
  cancel : ∀ requestId, P.Respects (TricoreSdk.cancel H requestId)
  update : ∀ {f}, Bookkeeping f → P.Respects (Method.update f)
  withTxnOpen : ∀ isOpen, P.Respects (Method.update (Client.withTxnOpen isOpen))

namespace SendPath

variable (h : SendPath H P)

include h

theorem sendOnce (envelope : Value) : P.Respects (TricoreSdk.sendOnce H envelope) :=
  respects_sendOnce (h.exchange _ _) h.poison

theorem followHint (hint : Option String) : P.Respects (TricoreSdk.followHint H hint) :=
  respects_followHint h.moveTo hint

theorem sendIn (op : Value) (txn : Option String) : P.Respects (TricoreSdk.sendIn H op txn) :=
  (h.update .counted).bind fun _ => respects_self.bind fun _ => (h.update (.remembering _)).bind fun _ =>
    respects_sendLoop (h.sendOnce _) h.moveTo h.paused _ _ _

theorem requestPath (txn : ∀ isOpen, P.Respects (Method.update (Client.withTxnOpen isOpen))) :
    RequestPath H P where
  sendIn := h.sendIn
  ping := respects_ping (h.exchange _ _) h.poison
  cancel := respects_cancel (fun _ => h.exchange _ _) h.poison
  update := h.update
  withTxnOpen := txn

end SendPath

namespace RequestPath

variable (h : RequestPath H P)

include h

theorem send (op : Value) : P.Respects (TricoreSdk.send H op) :=
  respects_self.bind fun _ => h.sendIn op _

theorem executeParams (sql : String) (params : List Param) :
    P.Respects (TricoreSdk.executeParams H sql params) :=
  respects_self.bind fun _ => (respects_ofOutcome _).bind fun _ => h.send _

theorem queryParams (sql : String) (params : List Param) :
    P.Respects (TricoreSdk.queryParams H sql params) :=
  respects_self.bind fun _ =>
    (respects_ofOutcome _).bind fun _ => (h.send _).bind fun _ => respects_ofExcept _

theorem transaction (statements : List Statement) :
    P.Respects (TricoreSdk.transaction H statements) :=
  (respects_ofExcept _).bind fun _ =>
    (h.executeParams _ _).bind fun _ => respects_ofExcept _

theorem endRequestTxn (op : Value) (txn : String) :
    P.Respects (TricoreSdk.endRequestTxn H op txn) :=
  (h.sendIn op _).attempt.bind fun _ => (h.update (.forgetTxn txn)).bind fun _ => respects_ofExcept _

theorem beginRequestTxn (op : Value) (key : String) :
    P.Respects (TricoreSdk.beginRequestTxn H op key) :=
  (h.sendIn op none).bind fun _ => respects_ofExcept _

theorem transactionControl (keyword : String) :
    P.Respects (TricoreSdk.transactionControl H keyword) := by
  refine (h.executeParams keyword []).attempt.bind fun outcome => ?_
  cases outcome with
  | ok response =>
    exact (respects_ofExcept _).bind fun _ => (h.withTxnOpen _).bind fun _ => respects_pure _
  | error error =>
    exact ((h.withTxnOpen false).when _).bind fun _ => respects_fail _

theorem begin : P.Respects (TricoreSdk.begin H) := by
  refine respects_self.bind fun c => ?_
  split
  · exact respects_fail _
  · exact h.transactionControl _

theorem run_of {c : Call} (set : ∀ t, c = .setReadTimeout t → P.Respects (TricoreSdk.setReadTimeout H t)) :
    P.Respects (c.run H) := by
  cases c with
  | request op => exact respects_map _ (h.send op)
  | execute sql => exact respects_map _ (h.executeParams sql [])
  | executeParams sql params => exact respects_map _ (h.executeParams sql params)
  | query sql => exact respects_map _ (h.queryParams sql [])
  | queryParams sql params => exact respects_map _ (h.queryParams sql params)
  | transaction statements => exact respects_map _ (h.transaction statements)
  | begin => exact respects_map _ h.begin
  | commit => exact respects_map _ (h.transactionControl "COMMIT")
  | rollback => exact respects_map _ (h.transactionControl "ROLLBACK")
  | ping => exact h.ping.bind fun _ => respects_pure _
  | cancel requestId => exact respects_map _ (h.cancel requestId)
  | setReadTimeout timeout => exact (set timeout rfl).bind fun _ => respects_pure _
  | setRequestTimeout timeout =>
    exact (h.update (.withRequestTimeout timeout)).bind fun _ => respects_pure _
  | setRequestTxn txn => exact (h.update (.withRequestTxn txn)).bind fun _ => respects_pure _
  | documentBegin serializable => exact respects_map _ (h.beginRequestTxn _ _)
  | documentCommit txn =>
    exact respects_map _ ((h.endRequestTxn _ txn).bind fun _ => respects_ofExcept _)
  | documentRollback txn =>
    exact ((h.endRequestTxn _ txn).bind fun _ => respects_pure _).bind fun _ => respects_pure _
  | graphBegin graph => exact respects_map _ (h.beginRequestTxn _ _)
  | graphCommit graph txn =>
    exact respects_map _ ((h.endRequestTxn _ txn).bind fun _ => respects_ofExcept _)
  | graphRollback graph txn =>
    exact respects_map _ ((h.endRequestTxn _ txn).bind fun _ => respects_ofExcept _)

end RequestPath

namespace CallPath

variable (h : CallPath H P)

include h

theorem run (c : Call) : P.Respects (c.run H) :=
  (h.toSendPath.requestPath h.withTxnOpen).run_of fun _ _ => h.setReadTimeout _

theorem proc (work : Proc α) : P.Respects (work.run H) := respects_proc h.run work

end CallPath

/-! ## What no exchange changes -/

section

variable {γ : Type} {g : Client → γ}

def keeping (g : Client → γ) : Path (Client × Process ω) Event where
  rel a _ b := g b.1 = g a.1
  refl _ := rfl
  trans h h' := h'.trans h

/-- What neither the loss of a connection nor a move to another changes. -/
structure Intrinsic (g : Client → γ) : Prop where
  poisoned : ∀ e c, g (Client.poisoned e c) = g c
  adopting : ∀ fresh address c, g (Client.adopting fresh address c) = g c

namespace Intrinsic

variable (h : Intrinsic g)

include h

theorem exchange (tag : Tag) (payload : Option Value) :
    (keeping g).Respects (TricoreSdk.exchange H tag payload) := by
  rintro ⟨c, p⟩
  have hx := exchanged H tag payload c p
  generalize TricoreSdk.exchange H tag payload (c, p) = r at hx ⊢
  cases hx with
  | writeFailed _ _ _ _ _ _ | readFailed _ _ _ _ _ _ _ _ => exact h.poisoned _ c
  | _ => rfl

theorem poison (error : Error) : (keeping g).Respects (TricoreSdk.poison H error) := by
  rintro ⟨c, p⟩
  cases hf : c.fault with
  | some fault =>
    rw [poison_faulted H hf]
    rfl
  | none =>
    rw [poison_live H hf]
    exact h.poisoned error c

theorem moveTo (address : String) : (keeping g).Respects (TricoreSdk.moveTo H address) := by
  rintro ⟨c, p⟩
  have hm := moving (H := H) address c p
  generalize TricoreSdk.moveTo H address (c, p) = r at hm ⊢
  cases hm with
  | moved host port _ fresh p' es run => exact h.adopting fresh address c
  | _ => rfl

end Intrinsic

end

end

end TricoreSdk
