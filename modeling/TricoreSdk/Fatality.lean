import TricoreSdk.PublicCall
import TricoreSdk.Scripted

/-! Whether an error tells what became of its connection: `is_connection_fatal`
goes by the error's kind, and the connection is dropped at other places. -/

namespace TricoreSdk
open Effects

/-! ## The answer a run ended with -/

/-- The answer to the last frame written, as the events are read one by one; a
pause leads to another frame. -/
def answering (last : Option Frame) : Event → Option Frame
  | .wrote _ _ _ | .paused _ => none
  | .answered _ frame => some frame
  | _ => last

/-- The answer to the last frame written, if it got one. -/
def finalAnswer (es : List Event) : Option Frame := es.foldl answering none

/-- The final answer is this one, whatever happened before. -/
def EndsOn (es : List Event) (frame : Option Frame) : Prop := ∀ last, es.foldl answering last = frame

theorem EndsOn.finalAnswer {es : List Event} {frame : Option Frame} (h : EndsOn es frame) :
    finalAnswer es = frame := h none

theorem EndsOn.after {es : List Event} {frame : Option Frame} (h : EndsOn es frame)
    (before : List Event) : EndsOn (before ++ es) frame := by
  intro last
  rw [List.foldl_append]
  exact h _

/-! ## What the errors say -/

theorem Error.OnWire.fatal {e : Error} (h : e.OnWire) : e.isConnectionFatal = true := by
  unfold Error.isConnectionFatal
  rcases h.kind with hk | hk | hk <;> rw [hk]

theorem isConnectionFatal_eq_of_kind {e e' : Error} (h : e'.kind = e.kind) :
    e'.isConnectionFatal = e.isConnectionFatal := by
  unfold Error.isConnectionFatal
  rw [h]

theorem retriedError_kind (e : Error) (retried : Nat) : (retriedError e retried).kind = e.kind := by
  unfold retriedError
  split <;> rfl

section

variable {ω α β : Type} {H : Host ω}

/-- A response is read exactly when its body parses and its status is `ok`, and
is otherwise a protocol error or the server's own. -/
theorem readResponse_error {payload : List UInt8} {e : Error}
    (h : readResponse H payload = .error e) :
    (e.kind = .protocol ∧ ∀ wire, H.serde.wireResponse payload ≠ .ok wire) ∨
      (e.kind = .server ∧ ∃ wire, H.serde.wireResponse payload = .ok wire) := by
  unfold readResponse at h
  cases hp : H.serde.wireResponse payload with
  | error text =>
    simp only [hp, parseBody] at h
    cases h
    refine .inl ⟨rfl, fun wire hw => ?_⟩
    cases hw
  | ok wire =>
    simp only [hp, parseBody, bind, Except.bind] at h
    split at h
    · cases h
      exact .inr ⟨rfl, wire, rfl⟩
    · cases h

theorem fatal_iff_not_readable {frame : Frame} {e : Error} (h : replyOf H frame = some (.error e))
    (decode : Response → Except Error α) :
    e.isConnectionFatal = false ↔ Readable H decode frame := by
  obtain ⟨tag, payload⟩ := frame
  cases tag
  case response =>
    have read : readResponse H payload = .error e := Option.some.inj h
    rcases readResponse_error read with ⟨hk, unparsed⟩ | ⟨hk, wire, hw⟩
    · constructor
      · intro hf
        simp [Error.isConnectionFatal, hk] at hf
      · intro readable
        obtain ⟨⟨wire, hw⟩, -⟩ := readable.2 rfl
        exact absurd hw (unparsed wire)
    · refine iff_of_true (by simp [Error.isConnectionFatal, hk]) ⟨by simp, fun _ => ⟨⟨wire, hw⟩, ?_⟩⟩
      intro r hr
      rw [show readResponse H payload = .error e from read] at hr
      cases hr
  case error =>
    cases h
    exact iff_of_false (by simp [refusal, Error.isConnectionFatal, Error.withCodeOpt, Error.new])
      fun readable => readable.1 rfl
  all_goals cases h

/-! ## Requests -/

/-- The reply to a request, as the retry loop hands it on. -/
def Relayed (reply : Except Error Response) (o : Outcome Error Response) : Prop :=
  match reply with
  | .ok r => o = .returned r
  | .error e => ∃ e', o = .failed e' ∧ e'.kind = e.kind

variable (H) in
/-- How a request ends that could be written: by an answer that leaves the
connection, or by dropping it. -/
inductive Fated : Execution (Client × Process ω) Error Event Response → Prop
  | dropped (e : Error) (s : Client × Process ω) (es : List Event) (frame : Option Frame)
    (he : e.OnWire) (fault : s.1.fault = some e) (ends : EndsOn es frame)
    (unread : ∀ f, frame = some f → replyOf H f = none) : Fated ⟨.failed e, s, es⟩
  | replied (o : Outcome Error Response) (s : Client × Process ω) (es : List Event) (frame : Frame)
    (reply : Except Error Response) (live : s.1.fault = none) (ends : EndsOn es (some frame))
    (read : replyOf H frame = some reply) (relayed : Relayed reply o) : Fated ⟨o, s, es⟩
  | overflowed (s : Client × Process ω) (es : List Event) (ends : EndsOn es none) :
    Fated ⟨.panicked, s, es⟩

theorem Fated.after {r : Execution (Client × Process ω) Error Event Response} (h : Fated H r)
    (before : List Event) : Fated H (r.after before) := by
  cases h with
  | dropped e s es frame he fault ends unread =>
    exact .dropped e s _ frame he fault (ends.after before) unread
  | replied o s es frame reply live ends read relayed =>
    exact .replied o s _ frame reply live (ends.after before) read relayed
  | overflowed s es ends => exact .overflowed s _ (ends.after before)

theorem sendOnce_fated {envelope : Value} {c : Client} (live : c.Live) {bytes : List UInt8}
    (fits : encode .request (H.body (some envelope)) = .ok bytes) (p : Process ω) :
    Fated H (sendOnce H envelope (c, p)) := by
  have hs := sentOnce H envelope c p
  generalize sendOnce H envelope (c, p) = x at hs ⊢
  cases hs with
  | dead e he =>
    rcases he with ⟨fault, hf, -⟩ | ⟨-, hc, -⟩
    · simp [live.fault] at hf
    · simp [live.open_] at hc
  | tooLarge live' e he => simp [fits] at he
  | broken live' bytes he e w hw =>
    refine .dropped e.val (c.poisoned e.val, _) _ none e.property rfl (fun _ => rfl) fun f h => ?_
    cases h
  | misanswered live' bytes he frame w w' hw hr hf e hk =>
    refine .dropped e (c.poisoned e, _) _ (some frame) (hk ▸ Error.onWire_protocol _) rfl
      (fun _ => rfl) fun f h => ?_
    rwa [← Option.some.inj h]
  | replied live' bytes he frame w w' hw hr reply hf =>
    refine .replied _ (c, _) _ frame reply live.fault (fun _ => rfl) hf ?_
    cases reply with
    | ok r => rfl
    | error e => exact ⟨e, rfl, rfl⟩

theorem followHint_live {hint : Option String} {c : Client} (live : c.Live) {p : Process ω}
    {moved : Bool} {s : Client × Process ω} {es : List Event}
    (h : followHint H hint (c, p) = ⟨.returned moved, s, es⟩) : s.1.Live := by
  have hf := hintFollowed (H := H) hint c p
  rw [h] at hf
  cases hf with
  | stayed p' es set => exact live
  | moved options address fresh p' es set run => exact ⟨live.fault, live.open_⟩

theorem sendLoop_fated {envelope : Value} {bytes : List UInt8}
    (fits : encode .request (H.body (some envelope)) = .ok bytes) (left retried : Nat)
    (pause : Duration) {c : Client} (live : c.Live) (p : Process ω) :
    Fated H (sendLoop H envelope left retried pause (c, p)) := by
  induction left using Nat.strong_induction_on generalizing retried pause c p with
  | _ left ih =>
    have hround := sendLoop_round (H := H) envelope left retried pause c p
    generalize sendLoop H envelope left retried pause (c, p) = x at hround ⊢
    cases hround with
    | last o o' s es run ends =>
      have once := sendOnce_fated live fits p
      rw [run] at once
      cases ends with
      | kept _ he => exact once
      | gaveUp e he =>
        cases once with
        | dropped _ _ _ frame hw => simp [hw.isRedirect] at he
        | replied _ _ _ frame reply hl ends read relayed =>
          refine .replied _ s es frame reply hl ends read ?_
          cases reply with
          | ok r => cases relayed
          | error e' =>
            obtain ⟨_, heq, hk⟩ := relayed
            cases heq
            exact ⟨_, rfl, (retriedError_kind e retried).trans hk⟩
    | again left' hl follow txn e redirect frame w reply run moved s fs hint =>
      subst hl
      have rest := ih left' (Nat.lt_succ_self _) (retried + 1)
      have live' : s.1.Live := followHint_live live hint
      refine Fated.after ?_ _
      unfold sendAgain
      cases moved with
      | true => exact rest pause live' s.2
      | false =>
        cases hp : nextPause pause with
        | none => exact .overflowed s _ fun _ => rfl
        | some next => exact (rest next live' s.2).after _

theorem Fated.fatal_iff {r : Execution (Client × Process ω) Error Event Response} (h : Fated H r)
    {settle : Client → Outcome Error Response → Client}
    (hs : ∀ c o, (settle c o).fault = c.fault) {read : Response → Except Error β}
    (misread : ∀ r e, read r = .error e → ∃ message, e = Error.protocol message) {e : Error}
    (he : (concluded r settle read).outcome = .failed e) :
    (e.isConnectionFatal = true ↔ (concluded r settle read).state.1.isPoisoned = true) ↔
      ∀ frame, finalAnswer (concluded r settle read).events = some frame → Readable H read frame := by
  have fault : (concluded r settle read).state.1.fault = r.state.1.fault := hs _ _
  unfold Client.isPoisoned
  rw [fault]
  simp only [concluded] at he ⊢
  cases h with
  | overflowed s es ends => cases he
  | dropped e' s es frame onWire gone ends unread =>
    cases he
    refine iff_of_true (by simp [gone, onWire.fatal]) fun f hf => ?_
    have none := unread f (ends.finalAnswer.symm.trans hf)
    obtain ⟨tag, payload⟩ := f
    cases tag
    case response => cases none
    case error => cases none
    all_goals
      refine ⟨fun h => ?_, fun h => ?_⟩ <;> cases h
  | replied o s es frame reply live ends answered relayed =>
    simp only [live, Option.isSome_none, Bool.false_eq_true, iff_false, Bool.not_eq_true,
      ends.finalAnswer, Option.some.injEq, forall_eq']
    cases reply with
    | error e' =>
      obtain ⟨e'', rfl, hk⟩ := relayed
      cases he
      rw [isConnectionFatal_eq_of_kind hk]
      exact fatal_iff_not_readable answered read
    | ok r =>
      cases relayed
      have failed : read r = .error e := by
        cases hr : read r with
        | error e' =>
          simp only [Outcome.andThen, hr, Outcome.ofExcept_error, Outcome.failed.injEq] at he
          rw [he]
        | ok a => simp [Outcome.andThen, hr] at he
      obtain ⟨message, rfl⟩ := misread r e failed
      refine iff_of_false (by simp [Error.protocol, Error.isConnectionFatal, Error.new])
        fun readable => ?_
      obtain ⟨tag, payload⟩ := frame
      cases tag
      case response =>
        obtain ⟨a, ha⟩ := (readable.2 rfl).2 r (Option.some.inj answered)
        rw [failed] at ha
        cases ha
      all_goals cases answered

theorem sendIn_fated {c : Client} (live : c.Live) {op : Value} {txn : Option String}
    {bytes : List UInt8} (fits : encode .request (H.body (some (c.envelope op txn))) = .ok bytes)
    (p : Process ω) : Fated H (sendIn H op txn (c, p)) := by
  rw [sendIn_apply]
  exact sendLoop_fated (c := c.numbered) fits _ _ _ ⟨live.fault, live.open_⟩ p

/-! ## Calls -/

theorem rowsOf_misread {r : Response} {what : String} {e : Error}
    (h : rowsOf H r what = .error e) : ∃ message, e = Error.protocol message := by
  unfold rowsOf at h
  split at h
  · rename_i he
    cases h
    exact Response.expect_error he
  · split at h
    · cases h
    · cases h
      exact ⟨_, rfl⟩

theorem begunTxn_misread {key : String} {r : Response} {e : Error}
    (h : begunTxn H key r = .error e) : ∃ message, e = Error.protocol message := by
  unfold begunTxn at h
  split at h
  · rename_i he
    cases h
    exact Response.decode_misread he
  · split at h
    · cases h
      exact ⟨_, rfl⟩
    · cases h

theorem error_of_map {x : Except Error α} {f : α → β} {e : Error} (h : x.map f = .error e) :
    x = .error e := by
  cases x with
  | error e' =>
    cases h
    rfl
  | ok a => cases h

theorem Call.decode_misread {call : Call} {r : Response} {e : Error}
    (h : call.decode H r = .error e) : ∃ message, e = Error.protocol message := by
  cases call with
  | query _ | queryParams _ _ => exact rowsOf_misread (error_of_map h)
  | transaction _ | begin | commit | rollback => exact Response.decode_misread (error_of_map h)
  | documentBegin _ | graphBegin _ => exact begunTxn_misread (error_of_map h)
  | documentCommit _ | graphCommit _ _ | graphRollback _ _ =>
    exact Response.decode_misread (error_of_map h)
  | _ => cases h

/-- The frame a call starts with is one that can be sent. -/
def PublicCall.Fits (H : Host ω) (call : PublicCall α) (c : Client) : Prop :=
  ∀ tag payload, call.frame? c = some (tag, payload) → (H.body payload).length ≤ tag.maxPayload

/-- An execution's error says that its connection is gone exactly when it is. -/
def TellsFate (r : Execution (Client × Process ω) Error Event α) : Prop :=
  ∀ e, r.outcome = .failed e → (e.isConnectionFatal = true ↔ r.state.1.isPoisoned = true)

theorem tellsFate_of_refused {c : Client} (live : c.Live) {p : Process ω}
    {r : Execution (Client × Process ω) Error Event α} (h : RefusedAtOnce (c, p) r) :
    TellsFate r ∧ finalAnswer r.events = none := by
  cases h with
  | panicked =>
    refine ⟨fun e h => ?_, rfl⟩
    cases h
  | failed e he =>
    refine ⟨?_, rfl⟩
    intro e' h
    cases h
    refine iff_of_false (fun fatal => ?_) (by simp [Client.isPoisoned, live.fault])
    unfold Error.wasRefusedLocally at he
    unfold Error.isConnectionFatal at fatal
    split at he <;> simp_all

/-- A frame that is too large is refused as fatal, on a connection that is untouched. -/
theorem not_tellsFate_of_large {r : Execution (Client × Process ω) Error Event α} {tag : Tag}
    {payload : Option Value} {e : Error} (he : encode tag (H.body payload) = .error e)
    (h : r.outcome = .failed e) (live : r.state.1.fault = none) : ¬TellsFate r := by
  intro tells
  have fatal := (tells e h).mp (encode_error he).2.fatal
  simp [Client.isPoisoned, live] at fatal

theorem TellsFate.iff_of_failed {r : Execution (Client × Process ω) Error Event α} {e : Error}
    (h : r.outcome = .failed e) :
    TellsFate r ↔ (e.isConnectionFatal = true ↔ r.state.1.isPoisoned = true) := by
  refine ⟨fun tells => tells e h, fun tells e' h' => ?_⟩
  cases h.symm.trans h'
  exact tells

theorem tellsFate_map {m : Method ω α} {s : Client × Process ω} (f : α → β) :
    TellsFate ((m >>= fun a => pure (f a) : Method ω β) s) ↔ TellsFate (m s) := by
  rw [show (m >>= fun a => pure (f a) : Method ω β) s = concluded (m s) (fun c _ => c) fun a => .ok (f a)
    from bind_concluded m (fun a => .ok (f a)) s]
  unfold TellsFate concluded
  cases (m s).outcome <;> simp [Outcome.andThen]

theorem ping_tellsFate {c : Client} (live : c.Live) {bytes : List UInt8}
    (fits : encode .ping (H.body none) = .ok bytes) (p : Process ω) :
    TellsFate (TricoreSdk.ping H (c, p)) := by
  have hx := exchanged H .ping none c p
  simp only [TricoreSdk.ping, Action.bind_apply]
  generalize exchange H .ping none (c, p) = x at hx ⊢
  cases hx with
  | faulted fault hf => simp [live.fault] at hf
  | closed hf hc => simp [live.open_] at hc
  | tooLarge live' e he => simp [fits] at he
  | writeFailed live' bytes he e w hw | readFailed live' bytes he e w w' hw hr =>
    intro e' h
    cases h
    exact iff_of_true e.property.fatal rfl
  | answered live' bytes he frame w w' hw hr =>
    rcases frame with ⟨tag, body⟩
    cases tag
    case pong =>
      intro e h
      cases h
    all_goals
      simp only [Execution.follow_returned, unexpected_live H live.fault]
      intro e h
      cases h
      exact iff_of_true rfl rfl

theorem cancel_tellsFate_iff {id : String} (hid : id.isEmpty = false) {c : Client} (live : c.Live)
    {bytes : List UInt8}
    (fits : encode .cancel (H.body (some (Value.ofFields [("request_id", .string id)]))) = .ok bytes)
    (p : Process ω) {e : Error} (h : (TricoreSdk.cancel H id (c, p)).outcome = .failed e) :
    TellsFate (TricoreSdk.cancel H id (c, p)) ↔
      ∀ frame, finalAnswer (TricoreSdk.cancel H id (c, p)).events = some frame →
        (PublicCall.call (α := Unit) (.cancel id)).Understands H frame := by
  have hx := exchanged H .cancel (some (Value.ofFields [("request_id", .string id)])) c p
  simp only [TricoreSdk.cancel, hid, Bool.false_eq_true, if_false, Action.bind_apply] at h ⊢
  generalize exchange H .cancel (some (Value.ofFields [("request_id", .string id)])) (c, p) = x
    at hx h ⊢
  cases hx with
  | faulted fault hf => simp [live.fault] at hf
  | closed hf hc => simp [live.open_] at hc
  | tooLarge live' e he => simp [fits] at he
  | writeFailed live' bytes he e' w hw | readFailed live' bytes he e' w w' hw hr =>
    refine iff_of_true ?_ fun frame hf => ?_
    · intro e'' h'
      cases h'
      exact iff_of_true e'.property.fatal rfl
    · cases hf
  | answered live' bytes he frame w w' hw hr =>
    rcases frame with ⟨tag, body⟩
    cases tag
    case cancelOk =>
      cases hp : H.serde.cancelOk body with
      | ok n => simp [parseBody, hp] at h
      | error text =>
        rw [TellsFate.iff_of_failed h]
        refine iff_of_false (fun tells => ?_) fun understood => ?_
        · simp only [parseBody, hp, Execution.follow_returned, Action.ofExcept_error,
            Action.fail_apply, Execution.after] at h tells
          cases h
          simp [Client.isPoisoned, live.fault, Error.protocol, Error.new,
            Error.isConnectionFatal] at tells
        · obtain ⟨n, hn⟩ := understood ⟨.cancelOk, body⟩ (by simp [parseBody, hp, finalAnswer, answering]) rfl
          rw [hp] at hn
          cases hn
    case error =>
      refine iff_of_true ?_ fun frame hf tag => ?_
      · intro e' h'
        cases h'
        refine iff_of_false ?_ ?_
        · simp [refusal, Error.isConnectionFatal, Error.withCodeOpt, Error.new]
        · simp [Client.isPoisoned, live.fault]
      · cases hf
        cases tag
    all_goals
      simp only [Execution.follow_returned, unexpected_live H live.fault] at h ⊢
      refine iff_of_true ?_ fun frame hf tag => ?_
      · intro e' h'
        cases h'
        exact iff_of_true rfl rfl
      · cases hf
        cases tag

/-- A request that could be written tells its connection's fate exactly when its
last answer could be read. -/
theorem request_tellsFate_iff {c : Client} (live : c.Live) {op : Value} {txn : Option String}
    {bytes : List UInt8} (fits : encode .request (H.body (some (c.envelope op txn))) = .ok bytes)
    {p : Process ω} {r : Execution (Client × Process ω) Error Event β}
    {settle : Client → Outcome Error Response → Client} {read : Response → Except Error β}
    (run : r = concluded (sendIn H op txn (c, p)) settle read)
    (hs : ∀ c o, (settle c o).fault = c.fault)
    (misread : ∀ r e, read r = .error e → ∃ message, e = Error.protocol message) {e : Error}
    (h : r.outcome = .failed e) :
    TellsFate r ↔ ∀ frame, finalAnswer r.events = some frame → Readable H read frame := by
  subst run
  rw [TellsFate.iff_of_failed h]
  exact (sendIn_fated live fits p).fatal_iff hs misread h

theorem call_tellsFate_iff {call : Call} (sends : (PublicCall.call (α := α) call).Sends) {c : Client}
    (live : c.Live) {p : Process ω} {e : Error} (h : (call.run H (c, p)).outcome = .failed e) :
    TellsFate (call.run H (c, p)) ↔
      (PublicCall.call (α := α) call).Fits H c ∧
        ∀ frame, finalAnswer (call.run H (c, p)).events = some frame →
          (PublicCall.call (α := α) call).Understands H frame := by
  cases hf : call.frame? c with
  | none =>
    have unsent : (PublicCall.call (α := α) call).Fits H c := fun tag payload h => by
      simp [PublicCall.frame?, hf] at h
    by_cases hc : call.Configures
    · cases call with
      | setReadTimeout t => exact sends.elim
      | setRequestTimeout t | setRequestTxn t => cases h
      | _ => exact hc.elim
    · obtain ⟨tells, silent⟩ := tellsFate_of_refused live (call_refused (H := H) hf hc p)
      exact iff_of_true tells ⟨unsent, fun frame hf => by rw [silent] at hf; cases hf⟩
  | some first =>
    obtain ⟨tag, payload⟩ := first
    cases he : encode tag (H.body payload) with
    | error e' =>
      obtain ⟨c', run, same⟩ := run_stops hf (.large live e' he) p
      refine iff_of_false ?_ fun both => ?_
      · rw [run] at h ⊢
        exact not_tellsFate_of_large he rfl (same.fault.trans live.fault)
      · have := both.1 tag payload hf
        have := (encode_error he).1
        omega
    | ok bytes =>
      have fits : (PublicCall.call (α := α) call).Fits H c := by
        intro tag' payload' h'
        cases hf.symm.trans h'
        exact (encode_ok he).1
      rw [and_iff_right fits]
      rcases frame?_cases hf with ⟨rfl, rfl, rfl⟩ | ⟨id, rfl, hid, rfl, rfl⟩ |
        ⟨op, txn, hr, rfl, rfl⟩
      · refine iff_of_true ?_ fun _ _ => trivial
        exact (tellsFate_map fun _ => Reply.unit).mpr (ping_tellsFate live he p)
      · have run : (Call.cancel id).run H (c, p) =
            concluded (TricoreSdk.cancel H id (c, p)) (fun c _ => c) fun n => .ok (.count n) :=
          bind_concluded _ (fun n => .ok (Reply.count n)) _
        have failed : (TricoreSdk.cancel H id (c, p)).outcome = .failed e := by
          rw [run] at h
          cases ho : (TricoreSdk.cancel H id (c, p)).outcome with
          | returned n => simp [concluded, ho, Outcome.andThen] at h
          | failed e' => simpa [concluded, ho, Outcome.andThen] using h
          | panicked => simp [concluded, ho, Outcome.andThen] at h
        rw [show TellsFate ((Call.cancel id).run H (c, p)) ↔ TellsFate (TricoreSdk.cancel H id (c, p))
          from tellsFate_map Reply.count, run]
        exact cancel_tellsFate_iff hid live he p failed
      · have understands : (PublicCall.call (α := α) call).Understands H =
            Readable H (call.decode H) := by
          cases call with
          | ping | cancel _ => cases hr
          | _ => rfl
        rw [understands]
        exact request_tellsFate_iff live he (run_request hr p) (fun c o => (settle_same call c o).fault)
          (fun _ _ => Call.decode_misread) h

theorem TypedMethod.run_concluded {m : TypedMethod α} {op : Value} (asked : m.op = .ok op)
    (c : Client) (p : Process ω) :
    m.run H (c, p) = concluded (sendIn H op c.requestTxn (c, p)) (fun c _ => c) m.decode := by
  rw [← send_apply, ← bind_concluded]
  simp [TypedMethod.run, asked]

theorem typed_tellsFate_iff {m : TypedMethod α} {c : Client} (live : c.Live) {p : Process ω}
    {e : Error} (h : (m.run H (c, p)).outcome = .failed e) :
    TellsFate (m.run H (c, p)) ↔
      (PublicCall.typed m).Fits H c ∧
        ∀ frame, finalAnswer (m.run H (c, p)).events = some frame → Readable H m.decode frame := by
  cases hop : m.op with
  | error e' =>
    have unsent : (PublicCall.typed m).frame? c = none := by simp [PublicCall.frame?, hop]
    obtain ⟨tells, silent⟩ := tellsFate_of_refused live (typed_refused (H := H) unsent p)
    refine iff_of_true tells ⟨fun tag payload h => ?_, fun frame hf => ?_⟩
    · rw [unsent] at h
      cases h
    · rw [silent] at hf
      cases hf
  | ok op =>
    have first : (PublicCall.typed m).frame? c =
        some (.request, some (c.envelope op c.requestTxn)) := by simp [PublicCall.frame?, hop]
    have run := TypedMethod.run_concluded (H := H) hop c p
    cases he : encode .request (H.body (some (c.envelope op c.requestTxn))) with
    | error e' =>
      refine iff_of_false ?_ fun both => ?_
      · rw [run, sendIn_stops (.large live e' he)]
        exact not_tellsFate_of_large he rfl live.fault
      · have := both.1 _ _ first
        have := (encode_error he).1
        omega
    | ok bytes =>
      have fits : (PublicCall.typed m).Fits H c := by
        intro tag payload h'
        cases first.symm.trans h'
        exact (encode_ok he).1
      rw [and_iff_right fits]
      exact request_tellsFate_iff live he run (fun _ _ => rfl) m.misread h

/-- A call that fails on a connection in use tells that connection's fate
exactly when its first frame could be sent and its last answer, if there was
one, could be read. -/
theorem tellsFate_iff {call : PublicCall α} (sends : call.Sends) {c : Client} (live : c.Live)
    {p : Process ω} {e : Error} (h : (call.run H (c, p)).outcome = .failed e) :
    TellsFate (call.run H (c, p)) ↔
      call.Fits H c ∧
        ∀ frame, finalAnswer (call.run H (c, p)).events = some frame → call.Understands H frame := by
  have failed {β : Type} {m : Method ω β} {f : β → Reply ⊕ α}
      (h : ((m >>= fun b => pure (f b) : Method ω (Reply ⊕ α)) (c, p)).outcome = .failed e) :
      (m (c, p)).outcome = .failed e := by
    rw [Action.bind_apply] at h
    cases ho : (m (c, p)).outcome with
    | returned b => simp [Execution.follow, ho] at h
    | failed e' => simpa [Execution.follow, ho] using h
    | panicked => simp [Execution.follow, ho] at h
  have events {β : Type} (m : Method ω β) (f : β → Reply ⊕ α) :
      ((m >>= fun b => pure (f b) : Method ω (Reply ⊕ α)) (c, p)).events = (m (c, p)).events :=
    Action.bind_events_of_silent (fun _ _ => rfl) _
  cases call with
  | call k =>
    rw [show TellsFate ((PublicCall.call k).run H (c, p)) ↔ TellsFate (k.run H (c, p)) from
      tellsFate_map Sum.inl, show ((PublicCall.call k).run H (c, p)).events = _ from events (k.run H) Sum.inl]
    exact call_tellsFate_iff sends live (failed h)
  | typed m =>
    rw [show TellsFate ((PublicCall.typed m).run H (c, p)) ↔ TellsFate (m.run H (c, p)) from
      tellsFate_map Sum.inr, show ((PublicCall.typed m).run H (c, p)).events = _ from events (m.run H) Sum.inr]
    exact typed_tellsFate_iff live (failed h)

theorem run_of_poisoned {call : Call} {c : Client} {fault : Error} (h : c.fault = some fault)
    {first : Tag × Option Value} (hf : call.frame? c = some first) (p : Process ω) :
    ∃ c', call.run H (c, p) = ⟨.failed (droppedError fault), (c', p), []⟩ ∧
      c'.fault = some fault := by
  obtain ⟨c', run, same⟩ := run_stops hf (.fault fault h) p
  exact ⟨c', run, same.fault.trans h⟩

end

/-- A query whose answer carries no rows. -/
def emptyHanded : PublicCall Unit := .call (.query "SELECT 1")

def noRows : Error := Error.protocol "expected Rows from query, got Empty"

theorem emptyHanded_fails :
    (emptyHanded.run scripted (session, playing [replies .response done])).outcome =
      .failed noRows :=
  Outcome.error?_eq_some.mp (by decide +kernel)

theorem tellsFate_emptyHanded :
    TellsFate (emptyHanded.run scripted (session, playing [replies .response done])) ↔
      emptyHanded.Fits scripted session ∧
        ∀ frame, finalAnswer
          (emptyHanded.run scripted (session, playing [replies .response done])).events = some frame →
          emptyHanded.Understands scripted frame :=
  tellsFate_iff (show emptyHanded.Sends from trivial) ⟨rfl, rfl⟩ emptyHanded_fails

theorem not_tellsFate_emptyHanded :
    ¬∀ (call : PublicCall Unit) (c : Client) (p : Process (List (Except WireError Frame))),
      call.Sends → c.Live → TellsFate (call.run scripted (c, p)) := by
  intro h
  have tells := h emptyHanded session (playing [replies .response done]) trivial ⟨rfl, rfl⟩
  have poisoned := (tells noRows emptyHanded_fails).mp rfl
  revert poisoned
  decide +kernel

end TricoreSdk
