import TricoreSdk.Call

/-! Calls as requests: nearly every call sends one operation, reads its result
off the answer, and adjusts what the client remembers by how that went. -/

namespace TricoreSdk
open Effects

def sqlRequest (c : Client) (verb sql : String) (params : List Param) :
    Option (Value × Option String) :=
  match sqlBody c sql params with
  | .returned body => some (sqlOp verb body, c.requestTxn)
  | _ => none

/-- The operation a call sends and the transaction it names, when it gets that far. -/
def Call.request? (c : Client) : Call → Option (Value × Option String)
  | request op => some (op, c.requestTxn)
  | execute sql => sqlRequest c "Exec" sql []
  | executeParams sql params => sqlRequest c "Exec" sql params
  | query sql => sqlRequest c "Query" sql []
  | queryParams sql params => sqlRequest c "Query" sql params
  | transaction statements =>
    match buildTransactionScript statements with
    | .ok (script, params) => sqlRequest c "Exec" script params
    | .error _ => none
  | begin => if c.sessionTxnGranted then sqlRequest c "Exec" "BEGIN" [] else none
  | commit => sqlRequest c "Exec" "COMMIT" []
  | rollback => sqlRequest c "Exec" "ROLLBACK" []
  | documentBegin serializable => some (documentBeginOp serializable, none)
  | documentCommit txn => some (documentOp (.string "CommitTransaction"), some txn)
  | documentRollback txn => some (documentOp (.string "RollbackTransaction"), some txn)
  | graphBegin graph => some (graphTxnOp "BeginTransaction" graph, none)
  | graphCommit graph txn => some (graphTxnOp "CommitTransaction" graph, some txn)
  | graphRollback graph txn => some (graphTxnOp "RollbackTransaction" graph, some txn)
  | ping | cancel _ | setReadTimeout _ | setRequestTimeout _ | setRequestTxn _ => none

section

variable {ω α β : Type} (H : Host ω)

def Call.decode : Call → Response → Except Error Reply
  | query _, r | queryParams _ _, r => (rowsOf H r "query").map .rows
  | transaction _, r => (decodeResult H r "transaction").map .result
  | begin, r => (decodeResult H r "BEGIN").map .result
  | commit, r => (decodeResult H r "COMMIT").map .result
  | rollback, r => (decodeResult H r "ROLLBACK").map .result
  | documentBegin _, r => (begunTxn H "txn" r).map .txn
  | documentCommit _, r => (documentCommitted H r).map .landed
  | documentRollback _, _ => .ok .unit
  | graphBegin _, r => (begunTxn H "transaction" r).map .txn
  | graphCommit _ _, r => (graphCommitted H r).map .summary
  | graphRollback _ _, r => (graphRolledBack H r).map .discarded
  | _, r => .ok (.response r)

def controlled (keyword : String) (c : Client) : Outcome Error Response → Client
  | .returned r =>
    match decodeResult H r keyword with
    | .ok result => c.withTxnOpen (keyword == "BEGIN" || result.nestedDepth.isSome)
    | .error _ => c
  | .failed e => if keyword != "BEGIN" && !e.wasRefusedLocally then c.withTxnOpen false else c
  | .panicked => c

def forgotten (txn : String) (c : Client) : Outcome Error Response → Client
  | .panicked => c
  | _ => c.forgetTxn txn

def Call.settle : Call → Client → Outcome Error Response → Client
  | begin => controlled H "BEGIN"
  | commit => controlled H "COMMIT"
  | rollback => controlled H "ROLLBACK"
  | documentCommit txn | documentRollback txn | graphCommit _ txn | graphRollback _ txn =>
    forgotten txn
  | _ => fun c _ => c

/-- A request made, its answer read, and the client adjusted. -/
def concluded (r : Execution (Client × Process ω) Error Event α) (settle : Client → Outcome Error α → Client)
    (read : α → Except Error β) : Execution (Client × Process ω) Error Event β :=
  ⟨r.outcome.andThen read, (settle r.state.1 r.outcome, r.state.2), r.events⟩

variable {H}

theorem bind_concluded (m : Method ω α) (f : α → Except Error β) (s : Client × Process ω) :
    (m >>= fun a => Action.ofExcept (f a) : Method ω β) s = concluded (m s) (fun c _ => c) f := by
  rw [Action.bind_apply]
  rcases m s with ⟨o, s', es⟩
  cases o with
  | returned a => cases h : f a <;> simp [concluded, Outcome.andThen, h, Execution.after]
  | failed e => rfl
  | panicked => rfl

theorem sqlRequest_some {c : Client} {verb sql : String} {params : List Param} {op : Value}
    {txn : Option String} (h : sqlRequest c verb sql params = some (op, txn)) :
    ∃ body, sqlBody c sql params = .returned body ∧ op = sqlOp verb body ∧ txn = c.requestTxn := by
  unfold sqlRequest at h
  split at h
  · cases h
    exact ⟨_, by assumption, rfl, rfl⟩
  · cases h

theorem executeParams_request {c : Client} {sql : String} {params : List Param} {op : Value}
    {txn : Option String} (h : sqlRequest c "Exec" sql params = some (op, txn)) (p : Process ω) :
    executeParams H sql params (c, p) = sendIn H op txn (c, p) := by
  obtain ⟨body, hb, rfl, rfl⟩ := sqlRequest_some h
  simp only [executeParams, Action.bind_apply, Method.self_apply, Execution.follow_returned,
    Execution.after_nil, hb, Action.ofOutcome_returned, Action.pure_apply]
  exact send_apply ..

theorem queryParams_request {c : Client} {sql : String} {params : List Param} {op : Value}
    {txn : Option String} (h : sqlRequest c "Query" sql params = some (op, txn)) (p : Process ω) :
    queryParams H sql params (c, p) =
      concluded (sendIn H op txn (c, p)) (fun c _ => c) (rowsOf H · "query") := by
  obtain ⟨body, hb, rfl, rfl⟩ := sqlRequest_some h
  rw [← send_apply, ← bind_concluded]
  simp [queryParams, hb]

theorem transactionControl_request {c : Client} {keyword : String} {op : Value}
    {txn : Option String} (h : sqlRequest c "Exec" keyword [] = some (op, txn)) (p : Process ω) :
    transactionControl H keyword (c, p) =
      concluded (sendIn H op txn (c, p)) (controlled H keyword) (decodeResult H · keyword) := by
  have sent : execute H keyword (c, p) = sendIn H op txn (c, p) := executeParams_request h p
  unfold transactionControl
  rw [Action.bind_apply]
  rcases hr : sendIn H op txn (c, p) with ⟨o, s, es⟩
  rw [hr] at sent
  cases o with
  | returned r =>
    cases hd : decodeResult H r keyword <;>
      simp [Action.attempt, sent, hd, concluded, controlled, Outcome.andThen, Execution.after]
  | failed e =>
    simp only [Action.attempt, sent, Execution.follow_returned, concluded, controlled]
    cases (keyword != "BEGIN" && !e.wasRefusedLocally) <;> simp [Outcome.andThen, Execution.after]
  | panicked => simp [Action.attempt, sent, concluded, controlled, Outcome.andThen]

theorem endRequestTxn_concluded (op : Value) (txn : String) (s : Client × Process ω) :
    endRequestTxn H op txn s = concluded (sendIn H op (some txn) s) (forgotten txn) .ok := by
  unfold endRequestTxn
  rw [Action.bind_apply]
  rcases hr : sendIn H op (some txn) s with ⟨o, s', es⟩
  cases o <;> simp [Action.attempt, hr, concluded, forgotten, Outcome.andThen, Execution.after]

section

variable {m : Method ω β} {s : Client × Process ω} {r : Execution (Client × Process ω) Error Event α}
  {settle : Client → Outcome Error α → Client} {read : α → Except Error β}

theorem bind_of_concluded (h : m s = concluded r settle read) {γ : Type} (f : β → Except Error γ) :
    (m >>= fun b => Action.ofExcept (f b) : Method ω γ) s =
      concluded r settle fun a => (read a).bind f := by
  rw [Action.bind_apply, h]
  rcases r with ⟨o, s', es⟩
  cases o with
  | returned a =>
    cases hr : read a with
    | error e => simp [concluded, Outcome.andThen, hr, Except.bind]
    | ok b => cases hf : f b <;> simp [concluded, Outcome.andThen, hr, hf, Except.bind, Execution.after]
  | failed e => rfl
  | panicked => rfl

theorem map_of_concluded (h : m s = concluded r settle read) {γ : Type} (f : β → γ) :
    (m >>= fun b => pure (f b) : Method ω γ) s = concluded r settle fun a => (read a).map f := by
  rw [Action.bind_apply, h]
  rcases r with ⟨o, s', es⟩
  cases o with
  | returned a =>
    cases hr : read a <;> simp [concluded, Outcome.andThen, hr, Except.map, Execution.after]
  | failed e => rfl
  | panicked => rfl

end

theorem run_request {call : Call} {c : Client} {op : Value} {txn : Option String}
    (h : call.request? c = some (op, txn)) (p : Process ω) :
    call.run H (c, p) = concluded (sendIn H op txn (c, p)) (call.settle H) (call.decode H) := by
  have plain {m : Method ω Response} (hm : m (c, p) = sendIn H op txn (c, p)) :
      (m >>= fun r => pure (Reply.response r) : Method ω Reply) (c, p) =
        concluded (sendIn H op txn (c, p)) (fun c _ => c) fun r => .ok (.response r) := by
    rw [← hm]
    exact bind_concluded m (fun r => .ok (Reply.response r)) (c, p)
  have statement {sql : String} {params : List Param}
      (h : sqlRequest c "Exec" sql params = some (op, txn)) :=
    plain (executeParams_request h p)
  have selected {sql : String} {params : List Param}
      (h : sqlRequest c "Query" sql params = some (op, txn)) :=
    map_of_concluded (queryParams_request (H := H) h p) Reply.rows
  have control {keyword : String} (h : sqlRequest c "Exec" keyword [] = some (op, txn)) :=
    map_of_concluded (transactionControl_request (H := H) h p) Reply.result
  cases call with
  | request op' =>
    cases h
    exact plain rfl
  | execute sql => exact statement h
  | executeParams sql params => exact statement h
  | query sql => exact selected h
  | queryParams sql params => exact selected h
  | transaction statements =>
    simp only [Call.request?] at h
    split at h
    · rename_i script params hb
      have run : TricoreSdk.transaction H statements (c, p) =
          concluded (sendIn H op txn (c, p)) (fun c _ => c) (decodeResult H · "transaction") := by
        rw [← executeParams_request h, ← bind_concluded]
        simp [TricoreSdk.transaction, hb]
      exact map_of_concluded run Reply.result
    · cases h
  | begin =>
    simp only [Call.request?] at h
    split at h
    · rename_i granted
      have run : TricoreSdk.begin H (c, p) = transactionControl H "BEGIN" (c, p) := by
        simp [TricoreSdk.begin, granted]
      exact map_of_concluded (run.trans (transactionControl_request h p)) Reply.result
    · cases h
  | commit => exact control h
  | rollback => exact control h
  | documentBegin serializable =>
    cases h
    exact map_of_concluded (bind_concluded _ _ _) _
  | documentCommit txn =>
    cases h
    exact map_of_concluded (bind_of_concluded (endRequestTxn_concluded _ _ _) _) _
  | documentRollback txn =>
    cases h
    have run := map_of_concluded (endRequestTxn_concluded (H := H)
      (documentOp (.string "RollbackTransaction")) txn (c, p)) fun _ => ()
    exact map_of_concluded run fun _ => Reply.unit
  | graphBegin graph =>
    cases h
    exact map_of_concluded (bind_concluded _ _ _) _
  | graphCommit graph txn =>
    cases h
    exact map_of_concluded (bind_of_concluded (endRequestTxn_concluded _ _ _) _) _
  | graphRollback graph txn =>
    cases h
    exact map_of_concluded (bind_of_concluded (endRequestTxn_concluded _ _ _) _) _
  | _ => cases h

/-! ## What a call writes and reads -/

def Call.frame? (c : Client) : Call → Option (Tag × Option Value)
  | ping => some (.ping, none)
  | cancel requestId =>
    if requestId.isEmpty then none
    else some (.cancel, some (Value.ofFields [("request_id", .string requestId)]))
  | call => (call.request? c).map fun r => (.request, some (c.envelope r.1 r.2))

variable (H) in
/-- How a request ends that is answered with a frame; a loop that gave up
following the leader rewords the refusal. -/
def Responds (frame : Frame) (o : Outcome Error Response) : Prop :=
  match replyOf H frame with
  | some (.ok r) => o = .returned r
  | some (.error e) => ∃ retried, o = .failed (if e.isRedirect then retriedError e retried else e)
  | none => o = .failed (Error.protocol ("expected RESPONSE, got " ++ frame.tag.debug))

variable (H) in
/-- How a call ends whose last frame is answered with a frame. -/
def Call.Reads : Call → Frame → Outcome Error Reply → Prop
  | ping, frame, o =>
    o = match frame.tag with
      | .pong => .returned .unit
      | other => .failed (Error.protocol ("expected PONG, got " ++ other.debug))
  | cancel _, frame, o =>
    o = match frame.tag with
      | .cancelOk =>
        .ofExcept ((parseBody (H.serde.cancelOk frame.payload) "CANCEL_OK").map .count)
      | .error => .failed (refusal H .server frame.payload)
      | other => .failed (Error.protocol ("expected CANCEL_OK, got " ++ other.debug))
  | call, frame, o => ∃ response, Responds H frame response ∧ o = response.andThen (call.decode H)

/-- Why an exchange fails before it writes anything: the connection was dropped
after a failure, or the frame does not fit. -/
inductive Stops (H : Host ω) (tag : Tag) (payload : Option Value) (c : Client) : Error → Prop
  | fault (fault : Error) (h : c.fault = some fault) : Stops H tag payload c (droppedError fault)
  | large (live : c.Live) (e : Error) (h : encode tag (H.body payload) = .error e) :
    Stops H tag payload c e

theorem Stops.exchange {tag : Tag} {payload : Option Value} {c : Client} {e : Error}
    (h : Stops H tag payload c e) (p : Process ω) :
    TricoreSdk.exchange H tag payload (c, p) = ⟨.failed e, (c, p), []⟩ := by
  cases h with
  | fault fault h => simp [TricoreSdk.exchange, h, droppedError]
  | large live e h => simp [TricoreSdk.exchange, live.fault, live.open_, h]

theorem Stops.isRedirect {tag : Tag} {payload : Option Value} {c : Client} {e : Error}
    (h : Stops H tag payload c e) : e.isRedirect = false := by
  cases h with
  | fault fault h => rfl
  | large live e h => exact (encode_error h).2.isRedirect

theorem Stops.numbered {tag : Tag} {payload : Option Value} {c : Client} {e : Error}
    (h : Stops H tag payload c e) : Stops H tag payload c.numbered e := by
  cases h with
  | fault fault h => exact .fault fault h
  | large live e h => exact .large (c := c.numbered) ⟨live.fault, live.open_⟩ e h

theorem sendIn_stops {c : Client} {op : Value} {txn : Option String} {e : Error}
    (h : Stops H .request (some (c.envelope op txn)) c e) (p : Process ω) :
    sendIn H op txn (c, p) = ⟨.failed e, (c.numbered, p), []⟩ := by
  rw [sendIn_apply]
  refine sendLoop_failed h.isRedirect ?_
  simp [sendOnce, h.numbered.exchange p]

/-- What a client remembers of a request does not concern its connection. -/
structure SameConnection (c c' : Client) : Prop where
  transport : c'.transport = c.transport
  fault : c'.fault = c.fault
  closed : c'.closed = c.closed

theorem SameConnection.trans {c c' c'' : Client} (h : SameConnection c c') (h' : SameConnection c' c'') :
    SameConnection c c'' :=
  ⟨h'.transport.trans h.transport, h'.fault.trans h.fault, h'.closed.trans h.closed⟩

theorem SameConnection.live {c c' : Client} (h : SameConnection c c') (live : c.Live) : c'.Live :=
  ⟨h.fault.trans live.fault, h.closed.trans live.open_⟩

theorem Bookkept.sameConnection {c c' : Client} (h : Bookkept c c') : SameConnection c c' :=
  ⟨h.transport, h.fault, h.closed⟩

theorem Bookkept.inTransaction {c c' : Client} (h : Bookkept c c') :
    c'.inTransaction = c.inTransaction := by
  rw [Client.inTransaction, Client.inTransaction, h.txnOpen, h.fault, h.closed]

/-- The path along which a client that was dropped stays so. -/
def faulting : Path (Client × Process ω) Event where
  rel s _ s' := s'.1.fault = none → s.1.fault = none
  refl _ := id
  trans h h' := h ∘ h'

theorem faulting_same {f : Client → Client} (h : ∀ c, SameConnection c (f c)) :
    faulting.Respects (Method.update f : Method ω Unit) := fun s live => (h s.1).fault ▸ live

theorem callPath_faulting : CallPath H faulting where
  exchange tag payload := by
    rintro ⟨c, p⟩ live
    have hx := exchanged H tag payload c p
    generalize exchange H tag payload (c, p) = r at hx live
    cases hx with
    | faulted _ _ | closed _ _ => exact live
    | tooLarge usable _ _ => exact usable.fault
    | writeFailed usable _ _ _ _ _ => exact usable.fault
    | readFailed usable _ _ _ _ _ _ _ => exact usable.fault
    | answered usable _ _ _ _ _ _ _ => exact usable.fault
  poison e := by
    rintro ⟨c, p⟩ live
    cases hf : c.fault with
    | none => rfl
    | some fault =>
      rw [poison_faulted H hf] at live
      exact hf.symm.trans live
  moveTo address := by
    rintro ⟨c, p⟩ live
    have hm := moving (H := H) address c p
    generalize moveTo H address (c, p) = r at hm live
    cases hm <;> exact live
  setReadTimeout t := fun _ => id
  paused _ := fun _ => id
  update hf := faulting_same fun c => (hf.kept c).sameConnection
  withTxnOpen isOpen := faulting_same (f := Client.withTxnOpen isOpen) fun _ => ⟨rfl, rfl, rfl⟩

theorem controlled_eq (keyword : String) (c : Client) (o : Outcome Error Response) :
    ∃ isOpen, controlled H keyword c o = c.withTxnOpen isOpen := by
  unfold controlled
  split
  · split
    · exact ⟨_, rfl⟩
    · exact ⟨c.txnOpen, rfl⟩
  · split
    · exact ⟨_, rfl⟩
    · exact ⟨c.txnOpen, rfl⟩
  · exact ⟨c.txnOpen, rfl⟩

theorem controlled_same (keyword : String) (c : Client) (o : Outcome Error Response) :
    SameConnection c (controlled H keyword c o) := by
  obtain ⟨isOpen, h⟩ := controlled_eq (H := H) keyword c o
  rw [h]
  exact ⟨rfl, rfl, rfl⟩

theorem forgotten_kept (txn : String) (c : Client) (o : Outcome Error Response) :
    Bookkept c (forgotten txn c o) := by
  cases o with
  | panicked => exact ⟨rfl, rfl, rfl, rfl, rfl, rfl, rfl⟩
  | returned _ | failed _ => exact (Bookkeeping.forgetTxn txn).kept c

theorem settle_same (call : Call) (c : Client) (o : Outcome Error Response) :
    SameConnection c (call.settle H c o) := by
  cases call with
  | begin | commit | rollback => exact controlled_same _ c o
  | documentCommit txn | documentRollback txn | graphCommit _ txn | graphRollback _ txn =>
    exact (forgotten_kept txn c o).sameConnection
  | _ => exact ⟨rfl, rfl, rfl⟩

theorem frame?_request {call : Call} {c : Client} {r : Value × Option String}
    (hr : call.request? c = some r) :
    call.frame? c = some (.request, some (c.envelope r.1 r.2)) := by
  cases call with
  | ping | cancel _ => cases hr
  | _ => simp [Call.frame?, hr]

theorem frame?_cases {call : Call} {c : Client} {tag : Tag} {payload : Option Value}
    (h : call.frame? c = some (tag, payload)) :
    (call = .ping ∧ tag = .ping ∧ payload = none) ∨
    (∃ id, call = .cancel id ∧ id.isEmpty = false ∧ tag = .cancel ∧
      payload = some (Value.ofFields [("request_id", .string id)])) ∨
    ∃ op txn, call.request? c = some (op, txn) ∧ tag = .request ∧
      payload = some (c.envelope op txn) := by
  have request (h : (call.request? c).map (fun r => (Tag.request, some (c.envelope r.1 r.2))) =
      some (tag, payload)) :
      ∃ op txn, call.request? c = some (op, txn) ∧ tag = .request ∧ payload = some (c.envelope op txn) := by
    obtain ⟨⟨op, txn⟩, hr, heq⟩ := Option.map_eq_some_iff.mp h
    cases heq
    exact ⟨op, txn, hr, rfl, rfl⟩
  cases call with
  | ping =>
    cases h
    exact .inl ⟨rfl, rfl, rfl⟩
  | cancel id =>
    simp only [Call.frame?] at h
    split at h
    · cases h
    · rename_i hid
      cases h
      exact .inr (.inl ⟨id, rfl, eq_false_of_ne_true hid, rfl, rfl⟩)
  | _ => exact .inr (.inr (request h))

theorem run_stops {call : Call} {c : Client} {tag : Tag} {payload : Option Value} {e : Error}
    (hf : call.frame? c = some (tag, payload)) (h : Stops H tag payload c e) (p : Process ω) :
    ∃ c', call.run H (c, p) = ⟨.failed e, (c', p), []⟩ ∧ SameConnection c c' := by
  rcases frame?_cases hf with ⟨rfl, rfl, rfl⟩ | ⟨id, rfl, hid, rfl, rfl⟩ | ⟨op, txn, hr, rfl, rfl⟩
  · exact ⟨c, by simp [Call.run, TricoreSdk.ping, h.exchange p], ⟨rfl, rfl, rfl⟩⟩
  · exact ⟨c, by simp [Call.run, TricoreSdk.cancel, hid, h.exchange p], ⟨rfl, rfl, rfl⟩⟩
  · have same : SameConnection c c.numbered := ⟨rfl, rfl, rfl⟩
    refine ⟨call.settle H c.numbered (.failed e), ?_, same.trans (settle_same call _ _)⟩
    rw [run_request hr, sendIn_stops h]
    rfl

variable (H) in
/-- The failures of an exchange that wrote nothing. -/
inductive Unwritten : Error → Prop
  | dropped (fault : Error) : Unwritten (droppedError fault)
  | closed : Unwritten closedError
  | tooLarge (tag : Tag) (payload : Option Value) (e : Error)
    (h : encode tag (H.body payload) = .error e) : Unwritten e

variable (H) in
/-- What the end of a run was computed from. A frame that was read and decides
how it ends is the last one read, right after the last one written, on the
connection the client then has. -/
inductive Concludes (reads : Frame → Outcome Error α → Prop) :
    Execution (Client × Process ω) Error Event α → Prop
  | unwritten (e : Error) (h : Unwritten H e) (s : Client × Process ω) (es : List Event) :
    Concludes reads ⟨.failed e, s, es⟩
  | unanswered (e : Error) (s : Client × Process ω) (fs : List Event) (tag : Tag)
    (payload : Option Value) :
    Concludes reads ⟨.failed e, s,
      fs ++ [.wrote s.1.transport tag payload, .shutdown s.1.transport.socket]⟩
  | answered (o : Outcome Error α) (s : Client × Process ω) (fs tail : List Event) (tag : Tag)
    (payload : Option Value) (frame : Frame) (h : reads frame o)
    (ends : tail = [] ∨ tail = [.shutdown s.1.transport.socket]) :
    Concludes reads ⟨o, s,
      fs ++ .wrote s.1.transport tag payload :: .answered s.1.transport frame :: tail⟩
  | overflowed (s : Client × Process ω) (es : List Event) : Concludes reads ⟨.panicked, s, es⟩

theorem Concludes.after {reads : Frame → Outcome Error α → Prop}
    {r : Execution (Client × Process ω) Error Event α} (h : Concludes H reads r)
    (before : List Event) : Concludes H reads (r.after before) := by
  cases h with
  | unwritten e h s es => exact .unwritten e h s _
  | unanswered e s fs tag payload =>
    have longer : Concludes H reads _ := .unanswered e s (before ++ fs) tag payload
    rwa [List.append_assoc] at longer
  | answered o s fs tail tag payload frame h ends =>
    have := answered (H := H) o s (before ++ fs) tail tag payload frame h ends
    rwa [List.append_assoc] at this
  | overflowed s es => exact .overflowed s _

theorem Concludes.settled {reads : Frame → Outcome Error α → Prop}
    {r : Execution (Client × Process ω) Error Event α} (h : Concludes H reads r)
    {settle : Client → Outcome Error α → Client} (hs : ∀ c o, (settle c o).transport = c.transport)
    (f : α → Except Error β) :
    Concludes H (fun frame o => ∃ o', reads frame o' ∧ o = o'.andThen f)
      (concluded r settle f) := by
  cases h with
  | unwritten e h s es => exact .unwritten e h _ es
  | unanswered e s fs tag payload =>
    rw [← hs s.1 (.failed e)]
    exact .unanswered e (settle s.1 (.failed e), s.2) fs tag payload
  | answered o s fs tail tag payload frame h ends =>
    rw [← hs s.1 o] at ends ⊢
    exact .answered _ (settle s.1 o, s.2) fs tail tag payload frame ⟨o, h, rfl⟩ ends
  | overflowed s es => exact .overflowed _ es

theorem sendOnce_concludes (envelope : Value) (c : Client) (p : Process ω) :
    Concludes H (Responds H) (sendOnce H envelope (c, p)) := by
  have hs := sentOnce H envelope c p
  generalize sendOnce H envelope (c, p) = x at hs ⊢
  cases hs with
  | dead e he =>
    rcases he with ⟨fault, -, rfl⟩ | ⟨-, -, rfl⟩
    · exact .unwritten _ (.dropped fault) _ []
    · exact .unwritten _ .closed _ []
  | tooLarge live e he => exact .unwritten _ (.tooLarge _ _ e he) _ []
  | broken live bytes he e w hw => exact .unanswered e.val (c.poisoned e.val, _) [] _ _
  | misanswered live bytes he frame w w' hw hr hf e hk =>
    refine .answered _ (c.poisoned e, _) [] [.shutdown c.transport.socket] _ _ frame ?_ (.inr rfl)
    simp [Responds, hf, hk]
  | replied live bytes he frame w w' hw hr reply hf =>
    refine .answered _ (c, _) [] [] _ _ frame ?_ (.inl rfl)
    cases reply with
    | ok r => simp [Responds, hf]
    | error e =>
      simp only [Responds, hf]
      exact ⟨0, by simp [retriedError]⟩

theorem LoopEnds.concludes {retried : Nat} {o o' : Outcome Error Response}
    (ends : LoopEnds retried o o') {s : Client × Process ω} {es : List Event}
    (h : Concludes H (Responds H) ⟨o, s, es⟩)
    (redirected : ∀ e, o = .failed e → e.isRedirect = true →
      ∃ frame, replyOf H frame = some (.error e) ∧ ∃ fs tag payload,
        es = fs ++ [.wrote s.1.transport tag payload, .answered s.1.transport frame]) :
    Concludes H (Responds H) ⟨o', s, es⟩ := by
  cases ends with
  | kept _ he => exact h
  | gaveUp e he =>
    obtain ⟨frame, reply, fs, tag, payload, rfl⟩ := redirected e rfl he
    refine .answered _ s fs [] tag payload frame ?_ (.inl rfl)
    simp [Responds, reply, he]

theorem sendLoop_concludes (envelope : Value) (left retried : Nat) (pause : Duration) (c : Client)
    (p : Process ω) :
    Concludes H (Responds H) (sendLoop H envelope left retried pause (c, p)) := by
  induction left using Nat.strong_induction_on generalizing retried pause c p with
  | _ left ih =>
    have hround := sendLoop_round (H := H) envelope left retried pause c p
    generalize sendLoop H envelope left retried pause (c, p) = x at hround ⊢
    cases hround with
    | last o o' s es run ends =>
      have once := sendOnce_concludes (H := H) envelope c p
      rw [run] at once
      refine ends.concludes once fun e ho redirect => ?_
      subst ho
      obtain ⟨frame, w, reply, rfl, rfl⟩ := sendOnce_redirected run redirect
      exact ⟨frame, reply, [], _, _, rfl⟩
    | again left' hl follow txn e redirect frame w reply run moved s fs hint =>
      subst hl
      have rest := ih left' (Nat.lt_succ_self _) (retried + 1)
      refine Concludes.after ?_ _
      unfold sendAgain
      cases moved with
      | true => exact rest pause s.1 s.2
      | false =>
        cases hp : nextPause pause with
        | none => exact .overflowed s _
        | some next => exact (rest next s.1 s.2).after _

theorem reads_request {call : Call} {c : Client} {x : Value × Option String}
    (h : call.request? c = some x) :
    call.Reads H =
      fun frame o => ∃ response, Responds H frame response ∧ o = response.andThen (call.decode H) := by
  cases call with
  | ping | cancel _ => cases h
  | _ => rfl

theorem ping_concludes (c : Client) (p : Process ω) :
    Concludes H (Call.ping.Reads H) (Call.ping.run H (c, p)) := by
  have hx := exchanged H .ping none c p
  simp only [Call.run, TricoreSdk.ping, Action.bind_apply]
  generalize exchange H .ping none (c, p) = x at hx ⊢
  cases hx with
  | faulted fault hf => exact .unwritten _ (.dropped fault) _ []
  | closed hf hc => exact .unwritten _ .closed _ []
  | tooLarge live e he => exact .unwritten _ (.tooLarge _ _ e he) _ []
  | writeFailed live bytes he e w hw | readFailed live bytes he e w w' hw hr =>
    exact .unanswered e.val (c.poisoned e.val, _) [] _ _
  | answered live bytes he frame w w' hw hr =>
    rcases frame with ⟨tag, body⟩
    cases tag
    case pong => exact .answered _ (c, _) [] [] _ _ ⟨.pong, body⟩ rfl (.inl rfl)
    all_goals
      simp only [Execution.follow_returned, unexpected_live H live.fault]
      exact .answered _ (c.poisoned _, _) [] [.shutdown c.transport.socket] _ _ ⟨_, body⟩ rfl
        (.inr rfl)

theorem cancel_concludes {id : String} (hid : id.isEmpty = false) (c : Client) (p : Process ω) :
    Concludes H ((Call.cancel id).Reads H) ((Call.cancel id).run H (c, p)) := by
  have hx := exchanged H .cancel (some (Value.ofFields [("request_id", .string id)])) c p
  simp only [Call.run, TricoreSdk.cancel, hid, Bool.false_eq_true, if_false, Action.bind_apply]
  generalize exchange H .cancel (some (Value.ofFields [("request_id", .string id)])) (c, p) = x
    at hx ⊢
  cases hx with
  | faulted fault hf => exact .unwritten _ (.dropped fault) _ []
  | closed hf hc => exact .unwritten _ .closed _ []
  | tooLarge live e he => exact .unwritten _ (.tooLarge _ _ e he) _ []
  | writeFailed live bytes he e w hw | readFailed live bytes he e w w' hw hr =>
    exact .unanswered e.val (c.poisoned e.val, _) [] _ _
  | answered live bytes he frame w w' hw hr =>
    rcases frame with ⟨tag, body⟩
    cases tag
    case cancelOk =>
      cases hp : H.serde.cancelOk body <;>
        simpa [parseBody, hp, Execution.after] using
          (.answered _ (c, _) [] [] _ _ ⟨.cancelOk, body⟩
            (by simp [Call.Reads, parseBody, hp, Except.map]) (.inl rfl) :
              Concludes H ((Call.cancel id).Reads H) _)
    case error => exact .answered _ (c, _) [] [] _ _ ⟨.error, body⟩ rfl (.inl rfl)
    all_goals
      simp only [Execution.follow_returned, unexpected_live H live.fault]
      exact .answered _ (c.poisoned _, _) [] [.shutdown c.transport.socket] _ _ ⟨_, body⟩ rfl
        (.inr rfl)

/-- A call that gets as far as a frame ends by the answer to the frame it wrote
last, if a frame decides how it ends. -/
theorem run_concludes {call : Call} {c : Client} {frame : Tag × Option Value}
    (hf : call.frame? c = some frame) (p : Process ω) :
    Concludes H (call.Reads H) (call.run H (c, p)) := by
  rcases frame?_cases hf with ⟨rfl, -⟩ | ⟨id, rfl, hid, -⟩ | ⟨op, txn, hr, -⟩
  · exact ping_concludes c p
  · exact cancel_concludes hid c p
  · rw [run_request hr, reads_request hr, sendIn_apply]
    exact (sendLoop_concludes ..).settled (fun c o => (settle_same call c o).transport) _

structure Idles (c : Client) (p : Process ω)
    (r : Execution (Client × Process ω) Error Event α) : Prop where
  same : SameConnection c r.state.1
  txnOpen : r.state.1.txnOpen = c.txnOpen
  path : (opening H (· = c.transport.socket)).rel p r.events r.state.2

variable (H) in
theorem Idles.refl (o : Outcome Error α) (c : Client) (p : Process ω) :
    Idles (H := H) c p ⟨o, (c, p), []⟩ :=
  ⟨⟨rfl, rfl, rfl⟩, rfl, (opening H _).refl p⟩

theorem Idles.bind {c : Client} {p : Process ω} {m : Method ω α} (h : Idles (H := H) c p (m (c, p)))
    (f : α → Except Error β) : Idles (H := H) c p ((m >>= fun a => Action.ofExcept (f a) : Method ω β) (c, p)) := by
  rw [bind_concluded]
  exact ⟨h.same, h.txnOpen, h.path⟩

theorem idles_executeParams {c : Client} {verb sql : String} {params : List Param}
    (h : sqlRequest c verb sql params = none) (p : Process ω) :
    Idles (H := H) c p (executeParams H sql params (c, p)) := by
  unfold sqlRequest at h
  cases hb : sqlBody c sql params with
  | returned body => simp [hb] at h
  | failed e => simpa [executeParams, hb] using Idles.refl H (.failed e) c p
  | panicked => simpa [executeParams, hb] using Idles.refl H .panicked c p

theorem idles_queryParams {c : Client} {verb sql : String} {params : List Param}
    (h : sqlRequest c verb sql params = none) (p : Process ω) :
    Idles (H := H) c p (queryParams H sql params (c, p)) := by
  unfold sqlRequest at h
  cases hb : sqlBody c sql params with
  | returned body => simp [hb] at h
  | failed e => simpa [queryParams, hb] using Idles.refl H (.failed e) c p
  | panicked => simpa [queryParams, hb] using Idles.refl H .panicked c p

theorem idles_begin {c : Client}
    (h : (if c.sessionTxnGranted then sqlRequest c "Exec" "BEGIN" [] else none) = none) (p : Process ω) :
    Idles (H := H) c p (TricoreSdk.begin H (c, p)) := by
  cases granted : c.sessionTxnGranted with
  | false => simpa [TricoreSdk.begin, granted] using Idles.refl H _ c p
  | true => simp [granted, sqlRequest, sqlBody] at h

theorem idles_transaction {c : Client} {statements : List Statement}
    (h : (Call.transaction statements).frame? c = none) (p : Process ω) :
    Idles (H := H) c p (TricoreSdk.transaction H statements (c, p)) := by
  cases hb : buildTransactionScript statements with
  | error e => simpa [TricoreSdk.transaction, hb] using Idles.refl H (.failed e) c p
  | ok script =>
    obtain ⟨sql, params⟩ := script
    have none : sqlRequest c "Exec" sql params = none := by
      simpa [Call.frame?, Call.request?, hb] using h
    have := (idles_executeParams (H := H) none p).bind (decodeResult H · "transaction")
    simpa [TricoreSdk.transaction, hb] using this

theorem run_idles {call : Call} {c : Client} (h : call.frame? c = none) (p : Process ω) :
    Idles (H := H) c p (call.run H (c, p)) := by
  cases call with
  | executeParams sql params =>
    exact (idles_executeParams (by simpa [Call.frame?, Call.request?] using h) p).bind
      fun r => .ok (Reply.response r)
  | queryParams sql params =>
    exact (idles_queryParams (by simpa [Call.frame?, Call.request?] using h) p).bind
      fun r => .ok (Reply.rows r)
  | transaction statements =>
    exact (idles_transaction h p).bind fun r => .ok (Reply.result r)
  | begin =>
    exact (idles_begin (by simpa [Call.frame?, Call.request?] using h) p).bind
      fun r => .ok (Reply.result r)
  | cancel id =>
    have empty : id.isEmpty = true := by
      by_contra hid
      simp [Call.frame?, hid] at h
    simpa [Call.run, TricoreSdk.cancel, empty] using Idles.refl H _ c p
  | setReadTimeout t =>
    have idle : Idles (H := H) c p (TricoreSdk.setReadTimeout H t (c, p)) :=
      ⟨⟨rfl, rfl, rfl⟩, rfl, readDeadline_own c.transport.socket (Duration.nonZero t) p⟩
    exact idle.bind fun _ => .ok Reply.unit
  | setRequestTimeout t => exact ⟨⟨rfl, rfl, rfl⟩, rfl, (opening H _).refl p⟩
  | setRequestTxn t => exact ⟨⟨rfl, rfl, rfl⟩, rfl, (opening H _).refl p⟩
  | _ => simp [Call.frame?, Call.request?, sqlRequest, sqlBody] at h

end

end TricoreSdk
