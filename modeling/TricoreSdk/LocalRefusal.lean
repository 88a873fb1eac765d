import TricoreSdk.PoolInvariant
import TricoreSdk.ControlReply

/-! Refusals of this crate's own, which say that nothing was sent: which calls can
end with one, and what they did until then. -/

namespace TricoreSdk
open Effects Path

/-- A failure that is not a refusal of this crate's own. -/
def Foreign (e : Error) : Prop := e.wasRefusedLocally = false

section

variable {ω α β : Type} {H : Host ω}

/-! ## Failures of what is sent -/

theorem exchange_foreign (tag : Tag) (payload : Option Value) :
    Fails (exchange H tag payload) Foreign := by
  intro s e he
  have hx := exchanged H tag payload s.1 s.2
  generalize exchange H tag payload (s.1, s.2) = r at hx he
  cases hx with
  | faulted _ _ | closed _ _ =>
    cases he
    rfl
  | tooLarge _ e' large =>
    cases he
    exact (encode_error large).2.wasRefusedLocally
  | writeFailed _ _ _ e' _ _ | readFailed _ _ _ e' _ _ _ _ =>
    cases he
    exact e'.property.wasRefusedLocally
  | answered _ _ _ _ _ _ _ _ => cases he

theorem unexpected_foreign (wanted : String) (tag : Tag) :
    Fails (unexpected H wanted tag : Method ω α) Foreign := by
  intro s e he
  obtain ⟨c, p⟩ := s
  cases hf : c.fault with
  | none =>
    rw [unexpected_live H hf] at he
    cases he
    rfl
  | some fault =>
    simp only [unexpected, Action.bind_apply, poison_faulted H hf, Execution.follow_returned] at he
    cases he
    rfl

theorem parseBody_foreign {parsed : Except String α} {what : String} {e : Error}
    (h : parseBody parsed what = .error e) : Foreign e := by
  cases parsed with
  | ok a => cases h
  | error text =>
    cases h
    rfl

theorem sendOnce_foreign (envelope : Value) : Fails (sendOnce H envelope) Foreign := by
  refine (exchange_foreign _ _).bind fun frame => ?_
  split
  · rename_i hf
    have read : replyOf H frame = some (readResponse H frame.payload) := by simp only [replyOf, hf]
    exact .ofExcept fun e h => replyOf_refused (read.trans (congrArg some h))
  · exact .fail rfl
  · exact unexpected_foreign _ _

theorem followHint_fails (hint : Option String) (s : Client × Process ω) (e : Error) :
    (followHint H hint s).outcome ≠ .failed e := by
  obtain ⟨moved, s', es, run⟩ := followHint_returns (H := H) hint s.1 s.2
  intro he
  rw [show followHint H hint s = _ from run] at he
  cases he

theorem sendLoop_foreign (envelope : Value) (left retried : Nat) (pause : Duration) :
    Fails (sendLoop H envelope left retried pause) Foreign := by
  induction left generalizing retried pause with
  | zero =>
    unfold sendLoop
    refine (sendOnce_foreign envelope).attempt_bind (fun r => .of_returns fun s e => ?_) fun e he => ?_
    · simp
    · dsimp only
      split
      · exact .fail he
      · refine (Fails.of_returns fun s e => by simp).bind fun c => ?_
        split <;> exact .fail (retriedError_refused he retried)
  | succ left ih =>
    unfold sendLoop
    refine (sendOnce_foreign envelope).attempt_bind (fun r => .of_returns fun s e => ?_) fun e he => ?_
    · simp
    · dsimp only
      split
      · exact .fail he
      · refine (Fails.of_returns fun s e => by simp).bind fun c => ?_
        split
        · exact .fail (retriedError_refused he retried)
        · refine (Fails.of_returns (followHint_fails _)).bind fun moved => ?_
          split
          · exact ih _ _
          · refine (Fails.of_returns fun s e => by simp).bind fun _ => ?_
            split
            · exact .of_returns fun s e => by simp
            · exact ih _ _

theorem sendIn_foreign (op : Value) (txn : Option String) : Fails (sendIn H op txn) Foreign := by
  intro s e he
  rw [show s = (s.1, s.2) from rfl, sendIn_apply] at he
  exact sendLoop_foreign _ _ _ _ _ e he

theorem ping_foreign : Fails (ping H) Foreign := by
  refine (exchange_foreign _ _).bind fun frame => ?_
  split
  · exact .of_returns fun s e => by simp
  · exact unexpected_foreign _ _

theorem cancel_foreign {requestId : String} (named : requestId.isEmpty = false) :
    Fails (cancel H requestId) Foreign := by
  unfold cancel
  rw [named]
  refine (exchange_foreign _ _).bind fun frame => ?_
  split
  · exact .ofExcept fun e h => parseBody_foreign h
  · exact .fail rfl
  · exact unexpected_foreign _ _

theorem ofIo_foreign (f : ω → Option IoError × ω) : Fails (Job.ofIo f) Foreign := by
  refine (Fails.of_returns fun s e => by simp [Job.onWorld]).bind fun r => ?_
  cases r with
  | none => exact .of_returns fun s e => by simp
  | some e => exact .fail (Error.onWire_fromIo e).wasRefusedLocally

theorem deadline_foreign (f : ω → Option IoError × ω) (event : Event) :
    Fails (do Job.ofIo f; Action.emit event : Job ω Unit) Foreign :=
  (ofIo_foreign f).bind fun _ => .of_returns fun s e => by simp

theorem setReadTimeout_foreign (timeout : Option Duration) :
    Fails (setReadTimeout H timeout) Foreign := by
  refine (Fails.of_returns fun s e => by simp).bind fun _ => ?_
  exact (Fails.of_returns fun s e => by simp).bind fun c => (deadline_foreign _ _).onRight

theorem handshake_foreign (options : Options) : Fails (handshake H options) Foreign := by
  have quiet {m : Method ω Unit} (h : ∀ s, (m s).outcome = .returned ()) : Fails m Foreign :=
    .of_returns fun s e he => by
      rw [h s] at he
      cases he
  have read (t : Option Duration) : Fails (transportReadTimeout H t) Foreign :=
    (Fails.of_returns fun s e => by simp).bind fun c => (deadline_foreign _ _).onRight
  have write (t : Option Duration) : Fails (transportWriteTimeout H t) Foreign :=
    (Fails.of_returns fun s e => by simp).bind fun c => (deadline_foreign _ _).onRight
  have hello : Fails (hello H options.clientName options.announcedFeatures) Foreign := by
    refine (exchange_foreign _ _).bind fun frame => ?_
    split
    · refine (Fails.ofExcept fun e h => parseBody_foreign h).bind fun body => ?_
      split
      · exact .fail rfl
      · exact quiet fun s => by simp [recordGrant]
    · exact .fail rfl
    · exact unexpected_foreign _ _
  have authenticate : Fails (authenticate H options) Foreign := by
    unfold TricoreSdk.authenticate
    split
    · refine (exchange_foreign _ _).bind fun frame => ?_
      split
      · refine (Fails.ofExcept fun e h => parseBody_foreign h).bind fun body => ?_
        split
        · exact .fail rfl
        · exact quiet fun s => by simp
      · exact .fail rfl
      · exact unexpected_foreign _ _
    · exact quiet fun s => rfl
  exact (read _).bind fun _ => (write _).bind fun _ => hello.bind fun _ => authenticate.bind fun _ =>
    (write _).bind fun _ => setReadTimeout_foreign _

/-! ## Refused calls -/

theorem call_foreign {call : Call} {c : Client} (h : call.frame? c ≠ none ∨ call.Configures)
    (p : Process ω) {e : Error} (failed : (call.run H (c, p)).outcome = .failed e) : Foreign e := by
  rcases h with h | h
  · obtain ⟨⟨tag, payload⟩, hf⟩ := Option.ne_none_iff_exists'.mp h
    rcases frame?_cases hf with ⟨rfl, -, -⟩ | ⟨id, rfl, named, -, -⟩ | ⟨op, txn, hr, -, -⟩
    · exact (ping_foreign.bind fun _ => .of_returns fun s e => by simp) _ e failed
    · exact ((cancel_foreign named).bind fun _ => .of_returns fun s e => by simp) _ e failed
    · rw [run_request hr] at failed
      have sent := sendIn_foreign (H := H) op txn (c, p)
      generalize sendIn H op txn (c, p) = r at sent failed
      rcases r with ⟨o, s, es⟩
      cases o with
      | returned response =>
        simp only [concluded, Outcome.andThen] at failed
        cases hd : call.decode H response with
        | ok reply => simp [hd] at failed
        | error e' =>
          obtain ⟨message, rfl⟩ := Call.decode_misread hd
          rw [hd] at failed
          cases failed
          rfl
      | failed e' =>
        cases failed
        exact sent e rfl
      | panicked => cases failed
  · cases call with
    | setReadTimeout t =>
      exact ((setReadTimeout_foreign t).bind fun _ => .of_returns fun s e => by simp) _ e failed
    | setRequestTimeout t | setRequestTxn t => cases failed
    | _ => cases h

theorem call_refusedAtOnce {call : Call} {c : Client} {p : Process ω} {e : Error}
    (failed : (call.run H (c, p)).outcome = .failed e) (own : e.wasRefusedLocally = true) :
    RefusedAtOnce (c, p) (call.run H (c, p)) := by
  by_cases h : call.frame? c ≠ none ∨ call.Configures
  · exact absurd own (by rw [call_foreign h p failed]; decide)
  · rw [not_or, not_not] at h
    exact call_refused h.1 h.2 p

theorem typed_refusedAtOnce {m : TypedMethod α} {c : Client} {p : Process ω} {e : Error}
    (failed : (m.run H (c, p)).outcome = .failed e) (own : e.wasRefusedLocally = true) :
    RefusedAtOnce (c, p) (m.run H (c, p)) := by
  cases hop : m.op with
  | error e' => exact typed_refused (by simp [PublicCall.frame?, hop]) p
  | ok op =>
    have foreign : Fails (m.run H) Foreign := by
      unfold TypedMethod.run
      rw [hop]
      refine (Fails.of_returns fun s e => by simp).bind fun op => ?_
      refine (Fails.bind (Fails.of_returns fun s e => by simp) fun c => sendIn_foreign _ _).bind
        fun response => .ofExcept fun e h => ?_
      obtain ⟨message, rfl⟩ := m.misread _ _ h
      rfl
    exact absurd own (by rw [foreign _ e failed]; decide)

/-! ## Frames -/

def Event.isFrame : Event → Bool
  | .wrote _ _ _ => true
  | _ => false

def Silent (es : List Event) : Prop := ∀ e ∈ es, e.isFrame = false

theorem silent_append {es fs : List Event} : Silent (es ++ fs) ↔ Silent es ∧ Silent fs :=
  List.forall_mem_append

theorem connect_silent {options : Options} {p : Process ω} {e : Error}
    (failed : (connect H options p).outcome = .failed e) (own : e.wasRefusedLocally = true) :
    Silent (connect H options p).events := by
  have hc := connecting (H := H) options p
  generalize connect H options p = r at hc failed
  cases hc with
  | gaveUp e' p' es path =>
    intro ev hev
    have := path.2.2 ev hev
    cases ev with
    | wrote _ _ _ => cases this
    | _ => rfl
  | handedOver t pre p₁ es path low high =>
    have foreign := handshake_foreign (H := H) options (newClient t pre options, p₁)
    rcases run : handshake H options (newClient t pre options, p₁) with ⟨o, s, fs⟩
    rw [run] at foreign
    cases o with
    | returned u =>
      rw [owning_returned H run] at failed
      cases failed
    | failed e' =>
      rw [owning_failed H run] at failed
      cases failed
      exact absurd own (by rw [foreign e rfl]; decide)
    | panicked =>
      rw [owning_panicked H run] at failed
      cases failed

/-- The path along which no transaction comes up unless a frame goes out. -/
def frameless : Path (Client × Process ω) Event where
  rel s es s' := Silent es → s'.1.inTransaction = true → s.1.inTransaction = true
  refl _ _ := id
  trans h h' silent := by
    obtain ⟨first, second⟩ := silent_append.mp silent
    exact h first ∘ h' second

theorem frameless_of_flagging {s s' : Client × Process ω} {es : List Event}
    (h : flagging.rel s es s') : frameless.rel s es s' := by
  intro _ isOpen
  simp only [Client.inTransaction, Bool.and_eq_true, Option.isNone_iff_eq_none,
    Bool.not_eq_true'] at isOpen ⊢
  obtain ⟨live, txn, closed⟩ := h isOpen.1.2
  exact ⟨⟨txn.symm.trans isOpen.1.1, live⟩, closed.symm.trans isOpen.2⟩

theorem settle_inTransaction {call : Call} {c : Client} {o : Outcome Error Response}
    (unanswered : ∀ r, o ≠ .returned r) (h : (call.settle H c o).inTransaction = true) :
    c.inTransaction = true := by
  have control {keyword : String} (h : (controlled H keyword c o).inTransaction = true) :
      c.inTransaction = true := by
    cases o with
    | returned r => exact absurd rfl (unanswered r)
    | failed e =>
      simp only [controlled] at h
      split at h
      · simp [Client.inTransaction, Client.withTxnOpen] at h
      · exact h
    | panicked => exact h
  have named {txn : String} (h : (forgotten txn c o).inTransaction = true) :
      c.inTransaction = true := (forgotten_kept txn c o).inTransaction.symm.trans h
  cases call with
  | begin | commit | rollback => exact control h
  | documentCommit txn | documentRollback txn | graphCommit _ txn | graphRollback _ txn =>
    exact named h
  | _ => exact h

theorem sendIn_frame {op : Value} {txn : Option String} {c : Client} {p : Process ω} {r : Response}
    (h : (sendIn H op txn (c, p)).outcome = .returned r) : ¬Silent (sendIn H op txn (c, p)).events := by
  rw [sendIn_apply] at h ⊢
  have hc := sendLoop_concludes (H := H) (c.envelope op txn) c.options.leaderRetries.toNat 0
    c.options.leaderRetryDelay c.numbered p
  generalize sendLoop H (c.envelope op txn) c.options.leaderRetries.toNat 0
    c.options.leaderRetryDelay (c.numbered, p) = x at h hc
  cases hc with
  | unwritten _ _ _ _ | unanswered _ _ _ _ _ | overflowed _ _ => cases h
  | answered o s fs tail tag payload frame _ _ =>
    intro silent
    have := silent (.wrote s.1.transport tag payload) (by simp)
    cases this

theorem frameless_run (call : Call) : frameless.Respects (call.run H) := by
  intro s
  obtain ⟨c, p⟩ := s
  by_cases conf : call.Configures
  · refine frameless_of_flagging ?_
    cases call with
    | setReadTimeout t =>
      exact ((wirePath_flagging (H := H)).setReadTimeout t).bind (fun _ => respects_pure _) (c, p)
    | setRequestTimeout t | setRequestTxn t => exact fun live => ⟨live, rfl, rfl⟩
    | _ => cases conf
  cases hf : call.frame? c with
  | none =>
    have refused := call_refused (H := H) hf conf p
    generalize call.run H (c, p) = r at refused ⊢
    cases refused <;> exact fun _ => id
  | some frame =>
    obtain ⟨tag, payload⟩ := frame
    rcases frame?_cases hf with ⟨rfl, -, -⟩ | ⟨id, rfl, -, -, -⟩ | ⟨op, txn, hr, -, -⟩
    · exact frameless_of_flagging
        ((respects_ping (wirePath_flagging.exchange _ _) wirePath_flagging.poison).bind
          (fun _ => respects_pure _) (c, p))
    · exact frameless_of_flagging (respects_map Reply.count
        (respects_cancel (fun _ => wirePath_flagging.exchange _ _) wirePath_flagging.poison id) (c, p))
    · have sent := frameless_of_flagging ((wirePath_flagging (H := H)).sendIn op txn (c, p))
      have answered (r : Response) (hr : (sendIn H op txn (c, p)).outcome = .returned r) :=
        sendIn_frame hr
      rw [run_request hr]
      intro silent isOpen
      exact sent silent (settle_inTransaction (fun r hr => answered r hr silent) isOpen)

theorem proc_frame {work : Proc α} {s : Client × Process ω} (settled : s.1.inTransaction = false)
    (isOpen : (work.run H s).state.1.inTransaction = true) : ¬Silent (work.run H s).events := by
  intro silent
  have := respects_proc frameless_run work s silent isOpen
  rw [settled] at this
  cases this

end

/-! ## Every public call -/

/-- The public calls of a client and a pool that can fail. A borrow is seen from the pass
of `acquire` that ends its wait, at a pool whose idle connections are as a pool keeps them. -/
inductive ApiCall (α : Type) where
  | connect (options : Options)
  | call (c : Client) (call : PublicCall α)
  | close (c : Client)
  | withTransaction (c : Client) (work : Proc α)
  | newPool (size : Nat)
  | borrow (options : Options) (size : Nat) (timedOut : Bool) (deadline : Option Nat) (now : Nat)
    (pool : PoolState) (kept : ∀ lease ∈ pool.idle, lease.client.Lendable) (work : Proc α)

/-- What a call shows: the failure it ended with, if this crate produced it, what happened
until then, and the client it was made on, before and after. -/
structure Shown where
  error : Option Error
  events : List Event
  client : Option (Client × Client)

/-- What stays of a session whose call is refused. -/
structure SameSession (c c' : Client) : Prop where
  txnOpen : c'.txnOpen = c.txnOpen
  requestCounter : c'.requestCounter = c.requestCounter
  requestTxn : c'.requestTxn = c.requestTxn
  transport : c'.transport = c.transport
  fault : c'.fault = c.fault

theorem SameSession.refl (c : Client) : SameSession c c := ⟨rfl, rfl, rfl, rfl, rfl⟩

/-- A refusal of this crate's own says the truth: nothing was sent, and the session is as it was. -/
def Shown.Honest (r : Shown) : Prop :=
  ∀ e, r.error = some e → e.wasRefusedLocally = true →
    Silent r.events ∧ ∀ c c', r.client = some (c, c') → SameSession c c'

section

variable {ω α β : Type} (H : Host ω)

/-- The failure a computation ended with, unless the closure it ran had failed itself. -/
def ownError (closure : Outcome Error α) (o : Outcome Error β) : Option Error :=
  match closure with
  | .failed _ => none
  | _ => o.error?

/-- The connection that a pass of `acquire` leads to, when it does not wait on. -/
def Acquired.connection (options : Options) (p : Process ω) :
    Acquired → Option (Execution (Process ω) Error Event Client)
  | failed e => some ⟨.failed e, p, []⟩
  | lent lease => some ⟨.returned lease.client, p, []⟩
  | reserved => some (TricoreSdk.connect H options p)
  | waits => none

def ApiCall.connection (p : Process ω) :
    ApiCall α → Option (Execution (Process ω) Error Event Client)
  | borrow options size timedOut deadline now pool _ _ =>
    (pool.resume size timedOut deadline now).1.connection H options p
  | _ => none

/-- What a borrow shows of its closure on the connection it got. -/
def lendShown (work : Proc α) (s : Client × Process ω) : Shown :=
  ⟨ownError (work.run H s).outcome (lend H work s).outcome, (lend H work s).events,
    some (s.1, (lend H work s).state.1)⟩

def ApiCall.shown (p : Process ω) (call : ApiCall α) : Shown :=
  match call with
  | .connect options =>
    ⟨(TricoreSdk.connect H options p).outcome.error?, (TricoreSdk.connect H options p).events, none⟩
  | .call c k =>
    ⟨(k.run H (c, p)).outcome.error?, (k.run H (c, p)).events, some (c, (k.run H (c, p)).state.1)⟩
  | .close c =>
    ⟨(closeInner H (c, p)).outcome.error?, (closeInner H (c, p)).events,
      some (c, (closeInner H (c, p)).state.1)⟩
  | .withTransaction c work =>
    let opened := begin H (c, p)
    let whole := TricoreSdk.withTransaction H (work.run H) (c, p)
    ⟨match opened.outcome with
      | .returned _ => ownError (work.run H opened.state).outcome whole.outcome
      | _ => whole.outcome.error?, whole.events, some (c, whole.state.1)⟩
  | .newPool size =>
    ⟨match PoolState.build size with
      | .error e => some e
      | .ok _ => none, [], none⟩
  | .borrow _ _ _ _ _ _ _ work =>
    match call.connection H p with
    | none => ⟨none, [], none⟩
    | some r =>
      match r.outcome with
      | .failed e => ⟨some e, r.events, none⟩
      | .panicked => ⟨none, r.events, none⟩
      | .returned c =>
        let lent := lendShown H work (c, r.state)
        { lent with events := r.events ++ lent.events }

/-- A borrow whose closure returns with a transaction still open. -/
def ApiCall.LeavesOpen (p : Process ω) (call : ApiCall α) : Prop :=
  match call with
  | .borrow _ _ _ _ _ _ _ work => ∃ r c value, call.connection H p = some r ∧
      r.outcome = .returned c ∧ (work.run H (c, r.state)).outcome = .returned value ∧
      (work.run H (c, r.state)).state.1.inTransaction = true
  | _ => False

variable {H}

theorem Shown.honest_of_foreign {r : Shown} (h : ∀ e, r.error = some e → Foreign e) : r.Honest :=
  fun e he own => absurd own (by rw [h e he]; decide)

theorem honest_of_refused {c : Client} {p : Process ω}
    {r : Execution (Client × Process ω) Error Event β}
    (h : ∀ e, r.outcome = .failed e → e.wasRefusedLocally = true → RefusedAtOnce (c, p) r) :
    (⟨r.outcome.error?, r.events, some (c, r.state.1)⟩ : Shown).Honest := by
  intro e he own
  have refused := h e (Outcome.error?_eq_some.mp he) own
  cases refused with
  | failed e' _ =>
    refine ⟨fun _ hx => absurd hx List.not_mem_nil, fun c₁ c₂ hc => ?_⟩
    cases hc
    exact .refl c
  | panicked => cases he

/-! ### Clients -/

theorem failed_of_map {m : Method ω α} {f : α → β} {s : Client × Process ω} {e : Error}
    (h : ((do return f (← m) : Method ω β) s).outcome = .failed e) : (m s).outcome = .failed e := by
  rw [Action.bind_apply] at h
  rcases run : m s with ⟨o, s', es⟩
  rw [run] at h
  cases o with
  | returned a => cases h
  | failed e' =>
    cases h
    rfl
  | panicked => cases h

theorem refusedAtOnce_of_map {m : Method ω α} {f : α → β} {s : Client × Process ω}
    (h : RefusedAtOnce s ((do return f (← m) : Method ω β) s)) : RefusedAtOnce s (m s) := by
  rw [Action.bind_apply] at h
  generalize m s = r at h
  rcases r with ⟨o, s', es⟩
  cases o with
  | returned a => cases h
  | failed e =>
    cases h with
    | failed _ he => exact .failed e he
  | panicked =>
    cases h
    exact .panicked

theorem publicCall_refusedAtOnce {call : PublicCall α} {c : Client} {p : Process ω} {e : Error}
    (failed : (call.run H (c, p)).outcome = .failed e) (own : e.wasRefusedLocally = true) :
    RefusedAtOnce (c, p) (call.run H (c, p)) := by
  cases call with
  | call k => exact (call_refusedAtOnce (failed_of_map failed) own).bind _
  | typed m => exact (typed_refusedAtOnce (failed_of_map failed) own).bind _

theorem begin_refusedAtOnce {c : Client} {p : Process ω} {e : Error}
    (failed : (begin H (c, p)).outcome = .failed e) (own : e.wasRefusedLocally = true) :
    RefusedAtOnce (c, p) (begin H (c, p)) := by
  have called : (Call.begin.run H (c, p)).outcome = .failed e := by
    simp [Call.run, failed, Execution.follow]
  exact refusedAtOnce_of_map (f := Reply.result) (call_refusedAtOnce called own)

theorem commit_foreign : Fails (commit H) Foreign := by
  intro s e failed
  obtain ⟨c, p⟩ := s
  have first : Call.commit.frame? c ≠ none ∨ Call.commit.Configures := by
    simp [Call.frame?, Call.request?, sqlRequest, sqlBody]
  refine call_foreign (H := H) first p (e := e) ?_
  simp [Call.run, failed, Execution.follow]

theorem withTransaction_honest (c : Client) (work : Proc α) (p : Process ω) :
    (ApiCall.shown H p (.withTransaction c work)).Honest := by
  have refused := fun e => begin_refusedAtOnce (H := H) (c := c) (p := p) (e := e)
  simp only [ApiCall.shown, TricoreSdk.withTransaction, Action.bind_apply]
  rcases run : begin H (c, p) with ⟨o, s, es⟩
  rw [run] at refused
  cases o with
  | failed e =>
    refine honest_of_refused (r := (⟨.failed e, s, es⟩ : Execution _ Error Event α)) (p := p)
      fun e' he own => ?_
    cases he
    have once := refused e rfl own
    cases once
    exact .failed e own
  | panicked =>
    refine Shown.honest_of_foreign fun e he => ?_
    cases he
  | returned _ =>
    refine Shown.honest_of_foreign fun e he => ?_
    simp only [Execution.follow_returned, Execution.after_outcome] at he
    rcases hw : work.run H s with ⟨o, s₂, es₂⟩
    cases o with
    | failed e' => simp [ownError, hw] at he
    | panicked => simp [ownError, hw, Action.attempt, Outcome.error?] at he
    | returned value =>
      have foreign := commit_foreign (H := H) s₂
      rcases hc : commit H s₂ with ⟨o, s₃, es₃⟩
      rw [hc] at foreign
      cases o with
      | failed e' =>
        simp [ownError, hw, hc, Action.attempt, Outcome.error?, Execution.after] at he
        rw [← he]
        exact foreign e' rfl
      | returned _ | panicked => simp [ownError, hw, hc, Action.attempt, Outcome.error?, Execution.after] at he

/-! ### Borrows -/

theorem settle_ok (value : α) (s : Client × Process ω) :
    ∃ broken, (settle H (.ok value : Except Error α) s).outcome =
      .returned (broken, s.1.inTransaction) := by
  rw [settle_apply]
  cases isOpen : s.1.inTransaction with
  | false => exact ⟨brokenBy (.ok value : Except Error α) s.1, by simp⟩
  | true =>
    have whole : brokenBy (.ok value : Except Error α) s.1 = false := by
      simp only [Client.inTransaction, Bool.and_eq_true, Option.isNone_iff_eq_none] at isOpen
      simp [brokenBy, Client.isPoisoned, isOpen.1.2]
    refine ⟨(rollbackOpen H maxOpenBlocks s).state.1.inTransaction ||
      (rollbackOpen H maxOpenBlocks s).state.1.isPoisoned, ?_⟩
    rw [if_pos (by simp [whole])]

theorem lend_of_returned {work : Proc α} {s : Client × Process ω} {value : α}
    (h : (work.run H s).outcome = .returned value) :
    (lend H work s).outcome = Outcome.ofExcept
        (verdict (.ok value) (work.run H s).state.1.inTransaction) ∧
      ∃ es, (lend H work s).events = (work.run H s).events ++ es := by
  obtain ⟨broken, settled⟩ := settle_ok (H := H) value (work.run H s).state
  unfold lend
  rw [Action.bind_apply, Action.attempt_of_returned h, Execution.follow_returned, Action.bind_apply]
  rcases run : settle H (.ok value : Except Error α) (work.run H s).state with ⟨o, s', es⟩
  rw [run] at settled
  obtain rfl : o = _ := settled
  rw [Execution.follow_returned]
  dsimp only
  cases verdict (.ok value) (work.run H s).state.1.inTransaction <;>
    exact ⟨rfl, es ++ [], rfl⟩

theorem lendShown_error (work : Proc α) (s : Client × Process ω) :
    (lendShown H work s).error = none ∨
      (∃ value, (work.run H s).outcome = .returned value) ∧
        (work.run H s).state.1.inTransaction = true := by
  unfold lendShown
  simp only
  cases h : (work.run H s).outcome with
  | failed e => exact .inl rfl
  | panicked =>
    left
    simp [ownError, lend, Action.attempt_of_panicked h, Outcome.error?]
  | returned value =>
    cases isOpen : (work.run H s).state.1.inTransaction with
    | true => exact .inr ⟨⟨value, rfl⟩, rfl⟩
    | false =>
      left
      rw [(lend_of_returned h).1, isOpen]
      rfl

/-- The connection a borrow gets is in no transaction; and it gets none, with a refusal of
this crate's own, only before anything is sent. -/
theorem resume_connection {size : Nat} {timedOut : Bool} {deadline : Option Nat} {now : Nat}
    {pool : PoolState} (kept : ∀ lease ∈ pool.idle, lease.client.Lendable) {options : Options}
    {p : Process ω} {r : Execution (Process ω) Error Event Client}
    (hr : (pool.resume size timedOut deadline now).1.connection H options p = some r) :
    (∀ c, r.outcome = .returned c → c.inTransaction = false) ∧
      ∀ e, r.outcome = .failed e → e.wasRefusedLocally = true → Silent r.events := by
  have passed := PoolState.resume_passed size timedOut deadline now pool
  generalize pool.resume size timedOut deadline now = x at passed hr
  cases passed with
  | shut _ | late _ _ _ =>
    cases hr
    refine ⟨fun c hc => ?_, fun e _ _ _ hx => absurd hx List.not_mem_nil⟩
    cases hc
  | waits _ _ _ => cases hr
  | lent _ lease rest hi =>
    cases hr
    refine ⟨fun c hc => ?_, fun e _ _ _ hx => absurd hx List.not_mem_nil⟩
    cases hc
    exact (kept lease (hi ▸ List.mem_cons_self)).settled
  | reserved _ _ _ =>
    cases hr
    refine ⟨fun c hc => ?_, fun e => connect_silent⟩
    have run : connect H options p =
        ⟨.returned c, (connect H options p).state, (connect H options p).events⟩ := by
      rw [← hc]
    simp [Client.inTransaction, connect_txnOpen run]

theorem lendShown_open {work : Proc α} {s : Client × Process ω} {value : α}
    (settled : s.1.inTransaction = false) (h : (work.run H s).outcome = .returned value)
    (isOpen : (work.run H s).state.1.inTransaction = true) :
    (lendShown H work s).error = some (Error.invalid leftOpenText) ∧
      ¬Silent (lendShown H work s).events := by
  obtain ⟨outcome, es, events⟩ := lend_of_returned h
  rw [isOpen] at outcome
  refine ⟨?_, fun silent => ?_⟩
  · simp only [lendShown, h, outcome]
    rfl
  · simp only [lendShown, events] at silent
    exact proc_frame settled isOpen (silent_append.mp silent).1

theorem borrow_honest_iff (p : Process ω) (options : Options) (size : Nat) (timedOut : Bool)
    (deadline : Option Nat) (now : Nat) (pool : PoolState)
    (kept : ∀ lease ∈ pool.idle, lease.client.Lendable) (work : Proc α) :
    (ApiCall.shown H p (.borrow options size timedOut deadline now pool kept work)).Honest ↔
      ¬ApiCall.LeavesOpen H p (.borrow options size timedOut deadline now pool kept work) := by
  have got := fun r (hr : (pool.resume size timedOut deadline now).1.connection H options p = some r) =>
    resume_connection kept hr
  simp only [ApiCall.shown, ApiCall.LeavesOpen, ApiCall.connection]
  generalize (pool.resume size timedOut deadline now).1.connection H options p = x at got ⊢
  cases x with
  | none =>
    refine iff_of_true (Shown.honest_of_foreign fun e he => ?_) fun h => ?_
    · cases he
    · obtain ⟨r, -, -, hr, -⟩ := h
      cases hr
  | some r =>
    obtain ⟨settled, silent⟩ := got r rfl
    rcases r with ⟨o, p', es⟩
    cases o with
    | failed e =>
      refine iff_of_true (fun e' he own => ?_) fun h => ?_
      · cases he
        refine ⟨silent e rfl own, fun c c' hc => ?_⟩
        cases hc
      · obtain ⟨r, c, -, hr, hc, -⟩ := h
        cases hr
        cases hc
    | panicked =>
      refine iff_of_true (Shown.honest_of_foreign fun e he => ?_) fun h => ?_
      · cases he
      · obtain ⟨r, c, -, hr, hc, -⟩ := h
        cases hr
        cases hc
    | returned c =>
      rcases lendShown_error (H := H) work (c, p') with none | ⟨⟨value, returned⟩, isOpen⟩
      · refine iff_of_true (Shown.honest_of_foreign fun e he => ?_) fun h => ?_
        · cases none.symm.trans he
        · obtain ⟨r, c, value, hr, hc, returned, isOpen⟩ := h
          cases hr
          cases hc
          rw [(lendShown_open (settled c rfl) returned isOpen).1] at none
          cases none
      · obtain ⟨error, frames⟩ := lendShown_open (settled c rfl) returned isOpen
        refine iff_of_false (fun honest => ?_) fun closed => ?_
        · exact frames (silent_append.mp (honest _ error rfl).1).2
        · exact closed ⟨_, c, value, rfl, rfl, returned, isOpen⟩

/-- Every refusal of this crate's own says the truth, except of a borrow whose closure
leaves a transaction open. -/
theorem honest_iff (H : Host ω) (p : Process ω) (call : ApiCall α) :
    (call.shown H p).Honest ↔ ¬call.LeavesOpen H p := by
  cases call with
  | connect options =>
    refine iff_of_true (fun e he own => ?_) not_false
    refine ⟨connect_silent (Outcome.error?_eq_some.mp he) own, fun c c' hc => ?_⟩
    cases hc
  | call c k =>
    exact iff_of_true (honest_of_refused fun e => publicCall_refusedAtOnce) not_false
  | close c =>
    refine iff_of_true (Shown.honest_of_foreign fun e he => ?_) not_false
    have closes := closing (H := H) c p
    simp only [ApiCall.shown] at he
    generalize closeInner H (c, p) = r at closes he
    cases closes <;> cases he
  | withTransaction c work => exact iff_of_true (withTransaction_honest c work p) not_false
  | newPool size =>
    refine iff_of_true (fun e he own => ⟨fun _ hx => absurd hx List.not_mem_nil, ?_⟩) not_false
    intro c c' hc
    cases hc
  | borrow options size timedOut deadline now pool kept work =>
    exact borrow_honest_iff p options size timedOut deadline now pool kept work

def openBorrow : ApiCall Unit :=
  .borrow Options.default 1 false none 0 .new (fun _ h => absurd h List.not_mem_nil)
    (.call .begin fun _ => .done (.ok ()))

/-- The pool says that nothing was sent, after a `BEGIN` and a `ROLLBACK`. -/
theorem not_honest :
    ¬∀ (p : Process (List (Except WireError Frame))) (call : ApiCall Unit),
      (call.shown scripted p).Honest := by
  intro honest
  let p := playing [replies .helloOk helloAll, replies .response began, replies .response rolledBack]
  have refused : (openBorrow.shown scripted p).error = some (Error.invalid leftOpenText) := by
    decide +kernel
  have frames : (openBorrow.shown scripted p).events.any Event.isFrame = true := by decide +kernel
  obtain ⟨e, he, frame⟩ := List.any_eq_true.mp frames
  have silent := (honest p openBorrow _ refused rfl).1 e he
  rw [frame] at silent
  cases silent

end

end TricoreSdk
