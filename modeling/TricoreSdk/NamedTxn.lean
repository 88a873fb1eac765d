import TricoreSdk.AtMostOnce
import TricoreSdk.Settings

/-! Which document or graph transaction a request names (`Client::set_request_txn`, `forget_txn`,
and the calls of `document.rs` and `graph.rs` that begin and end one). -/

namespace TricoreSdk
open Effects Path

def Value.option? (key : String) (envelope : Value) : Option Value :=
  (envelope.get "options").bind fun options => options.get key

/-- What a `REQUEST` frame carries under an option, `none` when the event is no such frame. -/
def Event.option? (key : String) : Event → Option (Option Value)
  | .wrote _ .request payload => some (payload.bind (Value.option? key))
  | _ => none

/-- The transaction a `REQUEST` frame names. -/
def Event.names? : Event → Option (Option Value) := Event.option? "txn"

@[simp] theorem Event.option?_shutdown (key : String) (socket : Socket) :
    (shutdown socket).option? key = none := rfl

@[simp] theorem Event.option?_answered (key : String) (transport : Transport) (frame : Frame) :
    (answered transport frame).option? key = none := rfl

theorem Event.option?_of_request? {e : Event} (h : e.request? = none) (key : String) :
    e.option? key = none := by
  unfold request? at h
  split at h
  · cases h
  · rename_i other
    unfold option?
    split
    · exact absurd rfl (other _ _)
    · rfl

theorem requestOptions_txn (timeoutMs : Option UInt64) (txn : Option String) :
    (Value.object (requestOptions timeoutMs txn)).get "txn" = txn.map .string := by
  cases timeoutMs <;> cases txn <;> simp [requestOptions, Value.get, Map.lookup_insert]

theorem requestOptions_timeout (timeoutMs : Option UInt64) (txn : Option String) :
    (Value.object (requestOptions timeoutMs txn)).get "timeout_ms" = timeoutMs.map .ofU64 := by
  cases timeoutMs <;> cases txn <;> simp [requestOptions, Value.get, Map.lookup_insert]

/-- An envelope without an `options` object has no options to leave out. -/
theorem envelope_option? (c : Client) (op : Value) (txn : Option String) (key : String) :
    (c.envelope op txn).option? key =
      (Value.object (requestOptions c.requestTimeoutMs txn)).get key := by
  rw [Value.option?, Client.envelope, envelopeOf_options]
  cases h : requestOptions c.requestTimeoutMs txn with
  | nil => rfl
  | cons option options => rfl

section

variable {ω : Type} {H : Host ω}

/-! ## What a call writes -/

/-- The path along which every `REQUEST` frame carries this under an option. -/
def stating (key : String) (value : Option Value) : Path (Client × Process ω) Event :=
  ofEvents fun e => ∀ stated, e.option? key = some stated → stated = value

theorem stating_of_no_request {α : Type} {key : String} {value : Option Value} {m : Method ω α}
    (h : ∀ s, ∀ e ∈ (m s).events, e.request? = none) : (stating key value).Respects m := by
  intro s e he stated hs
  rw [Event.option?_of_request? (h s e he)] at hs
  cases hs

theorem moveTo_no_request (address : String) (s : Client × Process ω) :
    ∀ e ∈ (moveTo H address s).events, e.request? = none := by
  intro e he
  have quiet := moveTo_unawaited (H := H) address s e he
  unfold Event.request?
  split
  · cases quiet
  · rfl

theorem poison_no_request (error : Error) (s : Client × Process ω) :
    ∀ e ∈ (poison H error s).events, e.request? = none := by
  intro e he
  have quiet := poison_unawaited (H := H) error s e he
  unfold Event.request?
  split
  · cases quiet
  · rfl

theorem stating_exchange {key : String} {value : Option Value} {tag : Tag}
    {payload : Option Value}
    (h : ∀ transport stated, (Event.wrote transport tag payload).option? key = some stated →
      stated = value) :
    (stating key value).Respects (exchange H tag payload) := by
  rintro ⟨c, p⟩
  have hx := exchanged H tag payload c p
  generalize exchange H tag payload (c, p) = r at hx ⊢
  cases hx <;> simp [stating, ofEvents] <;> exact fun stated => h c.transport stated

theorem sendIn_states (key : String) (op : Value) (txn : Option String)
    (s : Client × Process ω) :
    (stating key ((s.1.envelope op txn).option? key)).rel s (sendIn H op txn s).events
      (sendIn H op txn s).state := by
  obtain ⟨c, p⟩ := s
  rw [sendIn_apply]
  have own (transport : Transport) (stated : Option Value)
      (h : (Event.wrote transport .request (some (c.envelope op txn))).option? key = some stated) :
      stated = (c.envelope op txn).option? key := (Option.some.inj h).symm
  exact respects_sendLoop
    (respects_sendOnce (stating_exchange own) fun e =>
      stating_of_no_request (poison_no_request e))
    (fun address => stating_of_no_request (moveTo_no_request address))
    (fun delay => stating_of_no_request fun s => by simp [Event.request?]) _ _ _ (c.numbered, p)

theorem run_states (key : String) (call : Call) (s : Client × Process ω) :
    ∀ e ∈ (call.run H s).events, ∀ stated, e.option? key = some stated →
      stated = (Value.object
        (requestOptions s.1.requestTimeoutMs (call.names s.1.requestTxn))).get key := by
  obtain ⟨c, p⟩ := s
  cases hf : call.frame? c with
  | none =>
    by_cases configures : call.Configures
    · have quiet : ∀ e ∈ (call.run H (c, p)).events, e.request? = none := by
        cases call with
        | setReadTimeout t =>
          rcases setReadTimeout_apply (H := H) t c p with ⟨w, -, run⟩ | ⟨e, w, -, run⟩ <;>
            simp [Call.run, run, Execution.after, Event.request?]
        | setRequestTimeout t | setRequestTxn t => simp [Call.run, Execution.after]
        | _ => cases configures
      intro e he stated hs
      rw [Event.option?_of_request? (quiet e he)] at hs
      cases hs
    · have refused := call_refused (H := H) hf configures p
      generalize call.run H (c, p) = r at refused ⊢
      cases refused <;> simp
  | some frame =>
    obtain ⟨tag, payload⟩ := frame
    rcases frame?_cases hf with ⟨rfl, -, -⟩ | ⟨id, rfl, -, -, -⟩ | ⟨op, txn, hr, -, -⟩
    · exact (respects_ping (stating_exchange fun _ _ h => by cases h) fun e =>
        stating_of_no_request (poison_no_request e)).bind (fun _ => respects_pure _) (c, p)
    · exact respects_map _ (respects_cancel (fun _ => stating_exchange fun _ _ h => by cases h) (fun e =>
        stating_of_no_request (poison_no_request e)) id) (c, p)
    · rw [run_request hr, ← request?_names hr, ← envelope_option? c op txn key]
      exact sendIn_states key op txn (c, p)

/-! ## What a client names afterwards -/

variable (H) in
/-- A call that names the right transaction, and leaves the right one to be named. -/
structure NamesTxn (s : Client × Process ω) (call : Call) : Prop where
  frames : ∀ e ∈ (call.run H s).events, ∀ named, e.names? = some named →
    named = (call.names s.1.requestTxn).map .string
  ended : ∀ txn, call.ends = some txn → (call.run H s).outcome ≠ .panicked →
    (call.run H s).state.1.requestTxn ≠ some txn
  kept : ∀ txn, s.1.requestTxn = some txn → call.ends ≠ some txn →
    (∀ t, call ≠ .setRequestTxn t) → (call.run H s).state.1.requestTxn = some txn
  unnamed : s.1.requestTxn = none → (∀ t, call ≠ .setRequestTxn t) →
    (call.run H s).state.1.requestTxn = none
  set : ∀ t, call = .setRequestTxn t →
    (call.run H s).state.1.requestTxn = t.filter fun t => !t.isEmpty

theorem shape_ne_panicked {α : Type} {o : Outcome Error α} (h : o ≠ .panicked) :
    o.shape ≠ .panicked := by
  cases o with
  | panicked => exact absurd rfl h
  | _ => exact nofun

theorem run_leaves {call : Call} (other : ∀ t, call ≠ .setRequestTxn t)
    (s : Client × Process ω) :
    (call.run H s).state.1.requestTxn =
      call.leaves (call.run H s).outcome.shape s.1.requestTxn := by
  by_cases configures : call.Configures
  · obtain ⟨c, p⟩ := s
    cases call with
    | setReadTimeout t =>
      rw [Call.leaves_eq rfl]
      rcases setReadTimeout_apply (H := H) t c p with ⟨w, -, run⟩ | ⟨e, w, -, run⟩ <;>
        simp [Call.run, run, Execution.after, Client.withReadTimeout]
    | setRequestTimeout t =>
      rw [Call.leaves_eq rfl]
      simp [Call.run, Execution.after, Client.withRequestTimeout]
    | setRequestTxn t => exact absurd rfl (other t)
    | _ => cases configures
  · exact (run_names configures s).2

theorem namesTxn (call : Call) (s : Client × Process ω) : NamesTxn H s call where
  frames e he named hn := by
    rw [run_states "txn" call s e he named hn, requestOptions_txn]
  ended txn ends returned := by
    have other (t : Option String) : call ≠ .setRequestTxn t := by
      rintro rfl
      cases ends
    rw [run_leaves other, Call.leaves, ends]
    split
    · intro named
      cases named
    · rename_i h
      intro named
      exact h ⟨shape_ne_panicked returned, named⟩
  kept txn named ends other := by
    rw [run_leaves other, Call.leaves, named, if_neg]
    exact fun h => ends h.2.symm
  unnamed named other := by
    rw [run_leaves other, Call.leaves, named]
    split <;> rfl
  set t is := by
    subst is
    simp [Call.run, Execution.after, Client.withRequestTxn]

/-- In every run of calls, whatever becomes of each, every request names the right transaction. -/
theorem alongRun_namesTxn {α : Type} (H : Host ω) (work : Proc α) (log : List Event)
    (s : Client × Process ω) : AlongRun H (fun _ s call => NamesTxn H s call) log s work :=
  alongRun_of_invariant (I := fun _ _ => True) (fun _ s call _ => ⟨namesTxn call s, trivial⟩)
    trivial work

end

end TricoreSdk
