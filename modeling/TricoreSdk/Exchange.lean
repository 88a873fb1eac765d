import TricoreSdk.Client

/-! What one exchange of frames can do, stated once: every later result about
the wire goes by the cases here. -/

namespace TricoreSdk
open Effects

/-- Neither dropped after a failure nor closed. -/
structure Client.Live (c : Client) : Prop where
  fault : c.fault = none
  open_ : c.closed = false

section

variable {ω : Type} (H : Host ω)

/-- The world after the client's socket was shut down. -/
def Host.dropped (c : Client) (p : Process ω) (w : ω) : Process ω :=
  { p with world := H.shutdown c.transport.socket w }

/-- The error of a call on a connection that was dropped. -/
def droppedError (fault : Error) : Error :=
  Error.new .closed
    ("this connection was dropped after an earlier failure and cannot be reused: " ++
      fault.message)

def closedError : Error := Error.new .closed "this connection is closed"

@[simp] theorem shutdownSocket_apply (socket : Socket) (p : Process ω) :
    H.shutdownSocket socket p =
      ⟨.returned (), { p with world := H.shutdown socket p.world }, [.shutdown socket]⟩ := rfl

theorem poison_live {c : Client} (h : c.fault = none) (e : Error) (p : Process ω) :
    poison H e (c, p) =
      ⟨.returned e, (c.poisoned e, H.dropped c p p.world), [.shutdown c.transport.socket]⟩ := by
  simp [poison, h, Host.dropped, Execution.after, transportShutdown]

theorem unexpected_live {α : Type} {c : Client} (h : c.fault = none) (wanted : String) (tag : Tag)
    (p : Process ω) :
    (unexpected H wanted tag : Method ω α) (c, p) =
      ⟨.failed (Error.protocol ("expected " ++ wanted ++ ", got " ++ tag.debug)),
        (c.poisoned (Error.protocol ("expected " ++ wanted ++ ", got " ++ tag.debug)),
          H.dropped c p p.world),
        [.shutdown c.transport.socket]⟩ := by
  simp [unexpected, poison_live H h, Execution.after]

theorem poison_faulted {c : Client} {fault : Error} (h : c.fault = some fault) (e : Error)
    (p : Process ω) : poison H e (c, p) = ⟨.returned e, (c, p), []⟩ := by
  simp [poison, h]

/-- How an exchange can go from a client `c` in the process `p`. -/
inductive Exchanged (tag : Tag) (payload : Option Value) (c : Client) (p : Process ω) :
    Execution (Client × Process ω) Error Event Frame → Prop
  | faulted (fault : Error) (hf : c.fault = some fault) :
    Exchanged tag payload c p ⟨.failed (droppedError fault), (c, p), []⟩
  | closed (hf : c.fault = none) (hc : c.closed = true) :
    Exchanged tag payload c p ⟨.failed closedError, (c, p), []⟩
  | tooLarge (live : c.Live) (e : Error) (he : encode tag (H.body payload) = .error e) :
    Exchanged tag payload c p ⟨.failed e, (c, p), []⟩
  | writeFailed (live : c.Live) (bytes : List UInt8)
    (he : encode tag (H.body payload) = .ok bytes) (e : WireError) (w : ω)
    (hw : H.send c.transport tag payload p.world = (.error e, w)) :
    Exchanged tag payload c p
      ⟨.failed e.val, (c.poisoned e.val, H.dropped c p w),
        [.wrote c.transport tag payload, .shutdown c.transport.socket]⟩
  | readFailed (live : c.Live) (bytes : List UInt8)
    (he : encode tag (H.body payload) = .ok bytes) (e : WireError) (w w' : ω)
    (hw : H.send c.transport tag payload p.world = (.ok (), w))
    (hr : H.recv c.transport w = (.error e, w')) :
    Exchanged tag payload c p
      ⟨.failed e.val, (c.poisoned e.val, H.dropped c p w'),
        [.wrote c.transport tag payload, .shutdown c.transport.socket]⟩
  | answered (live : c.Live) (bytes : List UInt8)
    (he : encode tag (H.body payload) = .ok bytes) (frame : Frame) (w w' : ω)
    (hw : H.send c.transport tag payload p.world = (.ok (), w))
    (hr : H.recv c.transport w = (.ok frame, w')) :
    Exchanged tag payload c p
      ⟨.returned frame, (c, { p with world := w' }),
        [.wrote c.transport tag payload, .answered c.transport frame]⟩

theorem exchanged (tag : Tag) (payload : Option Value) (c : Client) (p : Process ω) :
    Exchanged H tag payload c p (exchange H tag payload (c, p)) := by
  cases hf : c.fault with
  | some fault =>
    have : exchange H tag payload (c, p) = ⟨.failed (droppedError fault), (c, p), []⟩ := by
      simp [exchange, hf, droppedError]
    exact this ▸ .faulted fault hf
  | none =>
    cases hc : c.closed with
    | true =>
      have : exchange H tag payload (c, p) = ⟨.failed closedError, (c, p), []⟩ := by
        simp [exchange, hf, hc, closedError]
      exact this ▸ .closed hf hc
    | false =>
      have live : c.Live := ⟨hf, hc⟩
      cases he : encode tag (H.body payload) with
      | error e =>
        have : exchange H tag payload (c, p) = ⟨.failed e, (c, p), []⟩ := by
          simp [exchange, hf, hc, he]
        exact this ▸ .tooLarge live e he
      | ok bytes =>
        rcases hw : H.send c.transport tag payload p.world with ⟨_ | _, w⟩
        · rename_i e
          have : exchange H tag payload (c, p) =
              ⟨.failed e.val, (c.poisoned e.val, H.dropped c p w),
                [.wrote c.transport tag payload, .shutdown c.transport.socket]⟩ := by
            simp [exchange, hf, hc, he, hw, Host.writeOn, poison_live, Execution.after,
              Host.dropped]
          exact this ▸ .writeFailed live bytes he e w hw
        · rcases hr : H.recv c.transport w with ⟨_ | frame, w'⟩
          · rename_i e
            have : exchange H tag payload (c, p) =
                ⟨.failed e.val, (c.poisoned e.val, H.dropped c p w'),
                  [.wrote c.transport tag payload, .shutdown c.transport.socket]⟩ := by
              simp [exchange, hf, hc, he, hw, hr, Host.writeOn, Host.readOn, poison_live,
                Execution.after, Host.dropped]
            exact this ▸ .readFailed live bytes he e w w' hw hr
          · have : exchange H tag payload (c, p) =
                ⟨.returned frame, (c, { p with world := w' }),
                  [.wrote c.transport tag payload, .answered c.transport frame]⟩ := by
              simp [exchange, hf, hc, he, hw, hr, Host.writeOn, Host.readOn, Execution.after]
            exact this ▸ .answered live bytes he frame w w' hw hr

theorem goodbye_apply (c : Client) (p : Process ω) :
    ∃ es, (es = [] ∨ ∃ frame, es = [Event.answered c.transport frame] ∧
      (H.recv c.transport (H.send c.transport .close none p.world).2).1 = .ok frame) ∧
      goodbye H (c, p) =
        ⟨.returned (),
          (c, H.dropped c p (H.recv c.transport (H.send c.transport .close none p.world).2).2),
          .wrote c.transport .close none :: (es ++ [.shutdown c.transport.socket])⟩ := by
  rcases hw : H.send c.transport .close none p.world with ⟨x, w⟩
  rcases hr : H.recv c.transport w with ⟨_ | frame, w'⟩
  · refine ⟨[], .inl rfl, ?_⟩
    simp [goodbye, Host.writeOn, Host.readOn, transportShutdown, Execution.after, hw, hr,
      Host.dropped]
  · refine ⟨_, .inr ⟨frame, rfl, rfl⟩, ?_⟩
    simp [goodbye, Host.writeOn, Host.readOn, transportShutdown, Execution.after, hw, hr,
      Host.dropped]

theorem exchange_returned {tag : Tag} {payload : Option Value} {c : Client} {p : Process ω}
    {frame : Frame} (h : (exchange H tag payload (c, p)).outcome = .returned frame) :
    c.Live ∧ (exchange H tag payload (c, p)).state.1 = c := by
  have hx := exchanged H tag payload c p
  generalize exchange H tag payload (c, p) = r at h hx ⊢
  cases hx with
  | answered live => exact ⟨live, rfl⟩
  | _ => cases h

theorem exchange_yields (tag : Tag) (payload : Option Value) :
    Yields (exchange H tag payload) fun _ => True := by
  rintro ⟨c, p⟩
  have hx := exchanged H tag payload c p
  generalize exchange H tag payload (c, p) = r at hx ⊢
  cases hx <;> trivial

theorem poison_yields (e : Error) : Yields (poison H e) fun e' => e' = e := by
  rintro ⟨c, p⟩
  cases h : c.fault with
  | none => rw [poison_live H h]
  | some fault => rw [poison_faulted H h]

theorem unexpected_yields {α : Type} (wanted : String) (tag : Tag) :
    Yields (unexpected H wanted tag : Method ω α) fun _ => True :=
  (poison_yields H _).bind fun _ _ => .fail _

theorem sendOnce_yields (envelope : Value) : Yields (sendOnce H envelope) fun _ => True := by
  refine (exchange_yields H _ _).bind fun frame _ => ?_
  split
  · exact .ofExcept _
  · exact .fail _
  · exact unexpected_yields H _ _

theorem unexpected_failed {α : Type} (wanted : String) (tag : Tag) (s : Client × Process ω) :
    ∃ e, ((unexpected H wanted tag : Method ω α) s).outcome = .failed e := by
  rcases s with ⟨c, p⟩
  cases h : c.fault with
  | none => exact ⟨_, by rw [unexpected_live H h]⟩
  | some fault => exact ⟨_, by simp [unexpected, poison_faulted H h]; rfl⟩

/-- How the answer to a request reads, when its tag is one that answers a request. -/
def replyOf (frame : Frame) : Option (Except Error Response) :=
  match frame.tag with
  | .response => some (readResponse H frame.payload)
  | .error => some (.error (refusal H .refused frame.payload))
  | _ => none

/-- A request that got no answer: the frame could not be written, or nothing came back. -/
def Unanswered (payload : Option Value) (c : Client) (w : ω) (e : WireError) (w' : ω) : Prop :=
  H.send c.transport .request payload w = (.error e, w') ∨
    ∃ v, H.send c.transport .request payload w = (.ok (), v) ∧
      H.recv c.transport v = (.error e, w')

inductive SentOnce (envelope : Value) (c : Client) (p : Process ω) :
    Execution (Client × Process ω) Error Event Response → Prop
  | dead (e : Error) (he : (∃ fault, c.fault = some fault ∧ e = droppedError fault) ∨
      c.fault = none ∧ c.closed = true ∧ e = closedError) :
    SentOnce envelope c p ⟨.failed e, (c, p), []⟩
  | tooLarge (live : c.Live) (e : Error) (he : encode .request (H.body (some envelope)) = .error e) :
    SentOnce envelope c p ⟨.failed e, (c, p), []⟩
  | broken (live : c.Live) (bytes : List UInt8)
    (he : encode .request (H.body (some envelope)) = .ok bytes) (e : WireError) (w : ω)
    (hw : Unanswered H (some envelope) c p.world e w) :
    SentOnce envelope c p
      ⟨.failed e.val, (c.poisoned e.val, H.dropped c p w),
        [.wrote c.transport .request (some envelope), .shutdown c.transport.socket]⟩
  | misanswered (live : c.Live) (bytes : List UInt8)
    (he : encode .request (H.body (some envelope)) = .ok bytes) (frame : Frame) (w w' : ω)
    (hw : H.send c.transport .request (some envelope) p.world = (.ok (), w))
    (hr : H.recv c.transport w = (.ok frame, w')) (hf : replyOf H frame = none) (e : Error)
    (hk : e = Error.protocol ("expected RESPONSE, got " ++ frame.tag.debug)) :
    SentOnce envelope c p
      ⟨.failed e, (c.poisoned e, H.dropped c p w'),
        [.wrote c.transport .request (some envelope), .answered c.transport frame,
          .shutdown c.transport.socket]⟩
  | replied (live : c.Live) (bytes : List UInt8)
    (he : encode .request (H.body (some envelope)) = .ok bytes) (frame : Frame) (w w' : ω)
    (hw : H.send c.transport .request (some envelope) p.world = (.ok (), w))
    (hr : H.recv c.transport w = (.ok frame, w')) (reply : Except Error Response)
    (hf : replyOf H frame = some reply) :
    SentOnce envelope c p
      ⟨Outcome.ofExcept reply, (c, { p with world := w' }),
        [.wrote c.transport .request (some envelope), .answered c.transport frame]⟩

theorem sentOnce (envelope : Value) (c : Client) (p : Process ω) :
    SentOnce H envelope c p (sendOnce H envelope (c, p)) := by
  have h := exchanged H .request (some envelope) c p
  unfold sendOnce
  rw [Action.bind_apply]
  generalize exchange H .request (some envelope) (c, p) = r at h ⊢
  cases h with
  | faulted fault hf => exact .dead _ (.inl ⟨fault, hf, rfl⟩)
  | closed hf hc => exact .dead _ (.inr ⟨hf, hc, rfl⟩)
  | tooLarge live e he => exact .tooLarge live e he
  | writeFailed live bytes he e w hw => exact .broken live bytes he e w (.inl hw)
  | readFailed live bytes he e w w' hw hr => exact .broken live bytes he e w' (.inr ⟨w, hw, hr⟩)
  | answered live bytes he frame w w' hw hr =>
    have misanswered := SentOnce.misanswered (H := H) live bytes he frame w w' hw hr
    have replied := SentOnce.replied (H := H) live bytes he frame w w' hw hr
    rcases frame with ⟨tag, payload⟩
    cases tag
    case response =>
      have := replied (readResponse H payload) rfl
      cases h : readResponse H payload <;> simpa [h, Execution.after] using this
    case error =>
      simpa [Execution.after] using replied (.error (refusal H .refused payload)) rfl
    all_goals
      have := misanswered rfl _ rfl
      simpa [unexpected_live H live.fault, Execution.after, Host.dropped] using this

/-! ## The retry loop, one round at a time -/

variable {H}

theorem replyOf_refused {frame : Frame} {e : Error} (h : replyOf H frame = some (.error e)) :
    e.wasRefusedLocally = false := by
  unfold replyOf at h
  split at h
  · have read : readResponse H frame.payload = .error e := Option.some.inj h
    unfold readResponse at read
    cases hp : H.serde.wireResponse frame.payload with
    | error text =>
      simp only [hp, parseBody] at read
      cases read
      rfl
    | ok wire =>
      simp only [hp, parseBody, bind, Except.bind] at read
      split at read
      · cases read
        rfl
      · cases read
  · cases h
    rfl
  · cases h

theorem retriedError_refused {e : Error} (h : e.wasRefusedLocally = false) (retried : Nat) :
    (retriedError e retried).wasRefusedLocally = false := by
  unfold retriedError
  split
  · exact h
  · exact h

theorem sendLoop_returned {envelope : Value} {left retried : Nat} {pause : Duration}
    {s s' : Client × Process ω} {r : Response} {es : List Event}
    (h : sendOnce H envelope s = ⟨.returned r, s', es⟩) :
    sendLoop H envelope left retried pause s = ⟨.returned r, s', es⟩ := by
  rw [sendLoop]
  simp [Action.attempt, h, Execution.after]

theorem sendLoop_failed {envelope : Value} {left retried : Nat} {pause : Duration}
    {s s' : Client × Process ω} {e : Error} {es : List Event} (he : e.isRedirect = false)
    (h : sendOnce H envelope s = ⟨.failed e, s', es⟩) :
    sendLoop H envelope left retried pause s = ⟨.failed e, s', es⟩ := by
  rw [sendLoop]
  simp [Action.attempt, h, Execution.after, he]

theorem sendLoop_kept {envelope : Value} {left retried : Nat} {pause : Duration}
    {s s' : Client × Process ω} {e : Error} {es : List Event} (he : e.isRedirect = true)
    (h : sendOnce H envelope s = ⟨.failed e, s', es⟩)
    (stay : s'.1.options.followLeader = false ∨ s'.1.txnOpen = true ∨ left = 0) :
    sendLoop H envelope left retried pause s =
      ⟨.failed (retriedError e retried), s', es⟩ := by
  rw [sendLoop]
  rcases stay with hs | hs | rfl
  · simp [Action.attempt, h, Execution.after, he, hs]
  · simp [Action.attempt, h, Execution.after, he, hs]
  · simp [Action.attempt, h, Execution.after, he]

theorem sendLoop_again {envelope : Value} {left retried : Nat} {pause : Duration}
    {s s' s'' : Client × Process ω} {e : Error} {es fs : List Event} {moved : Bool}
    (he : e.isRedirect = true) (h : sendOnce H envelope s = ⟨.failed e, s', es⟩)
    (follow : s'.1.options.followLeader = true) (txn : s'.1.txnOpen = false)
    (hm : followHint H e.leaderHint s' = ⟨.returned moved, s'', fs⟩) :
    sendLoop H envelope (left + 1) retried pause s =
      if moved then (sendLoop H envelope left (retried + 1) pause s'').after (es ++ fs)
      else
        match nextPause pause with
        | none => ⟨.panicked, s'', es ++ fs ++ [.paused pause]⟩
        | some next =>
          (sendLoop H envelope left (retried + 1) next s'').after (es ++ fs ++ [.paused pause]) := by
  rw [sendLoop]
  cases moved with
  | true => simp [Action.attempt, h, Execution.after, he, follow, txn, hm]
  | false =>
    cases nextPause pause <;> simp [Action.attempt, h, Execution.after, he, follow, txn, hm]

theorem sendOnce_redirected {envelope : Value} {c : Client} {p : Process ω} {e : Error}
    {s : Client × Process ω} {es : List Event}
    (h : sendOnce H envelope (c, p) = ⟨.failed e, s, es⟩) (he : e.isRedirect = true) :
    ∃ frame w, replyOf H frame = some (.error e) ∧ s = (c, { p with world := w }) ∧
      es = [.wrote c.transport .request (some envelope), .answered c.transport frame] := by
  have hs := sentOnce H envelope c p
  generalize sendOnce H envelope (c, p) = r at hs h
  cases hs with
  | dead e' hd =>
    cases h
    rcases hd with ⟨fault, -, rfl⟩ | ⟨-, -, rfl⟩ <;>
      simp [droppedError, closedError, Error.new, Error.isRedirect] at he
  | tooLarge live e' hl =>
    cases h
    rw [(encode_error hl).2.isRedirect] at he
    cases he
  | broken live bytes hb e' w hw =>
    cases h
    rw [e'.property.isRedirect] at he
    cases he
  | misanswered live bytes hb frame w w' hw hr hf e' hk =>
    cases h
    rw [hk, (Error.onWire_protocol _).isRedirect] at he
    cases he
  | replied live bytes hb frame w w' hw hr reply hf =>
    cases reply with
    | ok a => cases h
    | error e' =>
      cases h
      exact ⟨frame, w', hf, rfl, rfl⟩

def Client.numbered (c : Client) : Client := Client.remembering c.counted.requestId c.counted

def Client.envelope (c : Client) (op : Value) (txn : Option String) : Value :=
  envelopeOf c.counted.requestId c.database op (requestOptions c.requestTimeoutMs txn)

theorem sendIn_apply (op : Value) (txn : Option String) (c : Client) (p : Process ω) :
    sendIn H op txn (c, p) =
      sendLoop H (c.envelope op txn) c.options.leaderRetries.toNat 0 c.options.leaderRetryDelay
        (c.numbered, p) := rfl

theorem send_apply (op : Value) (c : Client) (p : Process ω) :
    send H op (c, p) = sendIn H op c.requestTxn (c, p) := rfl

theorem envelopeOf_op (requestId database : String) (op : Value)
    (options : List (String × Value)) :
    (envelopeOf requestId database op options).get "op" = some op := by
  simp only [envelopeOf, Value.get]
  split <;> simp [Map.lookup_insert]

theorem envelopeOf_database (requestId database : String) (op : Value)
    (options : List (String × Value)) :
    (envelopeOf requestId database op options).get "database" = some (.string database) := by
  simp only [envelopeOf, Value.get]
  split <;> simp [Map.lookup_insert]

theorem envelopeOf_requestId (requestId database : String) (op : Value)
    (options : List (String × Value)) :
    (envelopeOf requestId database op options).get "request_id" = some (.string requestId) := by
  simp only [envelopeOf, Value.get]
  split <;> simp [Map.lookup_insert]

end

end TricoreSdk
