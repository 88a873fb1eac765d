import TricoreSdk.Footprint
import TricoreSdk.Lib.Codec
import TricoreSdk.RequestCalls
import TricoreSdk.Typed

/-! Every public call that talks to the server, and the ones this client
refuses by itself: those write nothing and leave the client as it was. -/

namespace TricoreSdk
open Effects Codec

/-- A public call of a client: one of `Call`, or a typed method. -/
inductive PublicCall (α : Type) where
  | call (c : Call)
  | typed (m : TypedMethod α)

/-- The answer to a request can be read when it is no `ERROR` frame, its body
parses, and a successful response decodes. -/
def Readable {ω α : Type} (H : Host ω) (decode : Response → Except Error α) (frame : Frame) : Prop :=
  frame.tag ≠ .error ∧
    (frame.tag = .response →
      (∃ wire, H.serde.wireResponse frame.payload = .ok wire) ∧
        ∀ r, readResponse H frame.payload = .ok r → ∃ a, decode r = .ok a)

section

variable {ω α : Type} (H : Host ω)

namespace PublicCall

def run : PublicCall α → Method ω (Reply ⊕ α)
  | call c => do return .inl (← c.run H)
  | typed m => do return .inr (← m.run H)

/-- The frame a call writes first, when it gets that far. -/
def frame? (c : Client) : PublicCall α → Option (Tag × Option Value)
  | call k => k.frame? c
  | typed m =>
    match m.op with
    | .ok op => some (.request, some (c.envelope op c.requestTxn))
    | .error _ => none

/-- The calls on the connection's own deadlines send nothing. -/
def Sends : PublicCall α → Prop
  | call (.setReadTimeout _) => False
  | _ => True

def Understands : PublicCall α → Frame → Prop
  | call .ping, _ => True
  | call (.cancel _), frame =>
    frame.tag = .cancelOk → ∃ n, H.serde.cancelOk frame.payload = .ok n
  | call c, frame => Readable H (c.decode H) frame
  | typed m, frame => Readable H m.decode frame

end PublicCall

/-! ## Refusals of this client's own -/

variable {H}

theorem validateDecimal_error {text : String} {e : Error} (h : validateDecimal text = .error e) :
    e.wasRefusedLocally = true := by
  unfold validateDecimal at h
  cases hs : splitOnce '.' (stripSign text.toList) <;>
    · simp only [hs] at h
      split at h
      · cases h
      · cases h
        rfl

theorem Param.validate_error {p : Param} {index : Nat} {e : Error}
    (h : p.validate index = .error e) : e.wasRefusedLocally = true := by
  cases p with
  | float f =>
    simp only [Param.validate] at h
    split at h
    · cases h
    · cases h
      rfl
  | decimal d => exact validateDecimal_error h
  | _ => cases h

theorem validateParams_error {params : List Param} {index : Nat} {e : Error}
    (h : validateParams index params = .error e) : e.wasRefusedLocally = true := by
  induction params generalizing index with
  | nil => cases h
  | cons p rest ih =>
    simp only [validateParams] at h
    split at h
    · rename_i hp
      cases h
      exact Param.validate_error hp
    · exact ih h

theorem sqlBody_failed {c : Client} {sql : String} {params : List Param} {e : Error}
    (h : sqlBody c sql params = .failed e) : e.wasRefusedLocally = true := by
  unfold sqlBody at h
  split at h
  · cases h
  · split at h
    · cases h
      rfl
    · split at h
      · rename_i hv
        cases h
        exact validateParams_error hv
      · split at h <;> cases h

theorem scriptPart_error {s : Statement} {e : Error} (h : scriptPart s = .error e) :
    ∃ message, e = Error.invalid message := by
  unfold scriptPart at h
  dsimp only at h
  split at h
  · cases h
    exact ⟨_, rfl⟩
  · split at h
    · cases h
      exact ⟨_, rfl⟩
    · cases h

theorem buildTransactionScript_error {statements : List Statement} {e : Error}
    (h : buildTransactionScript statements = .error e) : ∃ message, e = Error.invalid message := by
  unfold buildTransactionScript at h
  cases he : statements.isEmpty with
  | true =>
    rw [he] at h
    cases h
    exact ⟨_, rfl⟩
  | false =>
    rw [he] at h
    cases hm : statements.mapM scriptPart with
    | error e' =>
      simp only [hm] at h
      cases h
      obtain ⟨s, -, hs⟩ := mapM_error hm
      exact scriptPart_error hs
    | ok parts =>
      simp only [hm] at h
      cases h

/-- A run that ends where it started, having done nothing but refuse. -/
inductive RefusedAtOnce {β : Type} (s : Client × Process ω) :
    Execution (Client × Process ω) Error Event β → Prop
  | failed (e : Error) (h : e.wasRefusedLocally = true) : RefusedAtOnce s ⟨.failed e, s, []⟩
  | panicked : RefusedAtOnce s ⟨.panicked, s, []⟩

theorem RefusedAtOnce.bind {β γ : Type} {s : Client × Process ω} {m : Method ω β}
    (h : RefusedAtOnce s (m s)) (f : β → Method ω γ) :
    RefusedAtOnce s ((m >>= f : Method ω γ) s) := by
  rw [Action.bind_apply]
  generalize m s = r at h ⊢
  cases h with
  | failed e he => exact .failed e he
  | panicked => exact .panicked

theorem executeParams_refused {c : Client} {verb sql : String} {params : List Param}
    (h : sqlRequest c verb sql params = none) (p : Process ω) :
    RefusedAtOnce (c, p) (executeParams H sql params (c, p)) := by
  unfold sqlRequest at h
  cases hb : sqlBody c sql params with
  | returned body => simp [hb] at h
  | failed e => simpa [executeParams, hb] using RefusedAtOnce.failed e (sqlBody_failed hb)
  | panicked => simpa [executeParams, hb] using RefusedAtOnce.panicked

theorem queryParams_refused {c : Client} {verb sql : String} {params : List Param}
    (h : sqlRequest c verb sql params = none) (p : Process ω) :
    RefusedAtOnce (c, p) (queryParams H sql params (c, p)) := by
  unfold sqlRequest at h
  cases hb : sqlBody c sql params with
  | returned body => simp [hb] at h
  | failed e => simpa [queryParams, hb] using RefusedAtOnce.failed e (sqlBody_failed hb)
  | panicked => simpa [queryParams, hb] using RefusedAtOnce.panicked

theorem transaction_refused {c : Client} {statements : List Statement}
    (h : (Call.transaction statements).request? c = none) (p : Process ω) :
    RefusedAtOnce (c, p) (TricoreSdk.transaction H statements (c, p)) := by
  cases hb : buildTransactionScript statements with
  | error e =>
    obtain ⟨message, rfl⟩ := buildTransactionScript_error hb
    simpa [TricoreSdk.transaction, hb] using RefusedAtOnce.failed (Error.invalid message) rfl
  | ok script =>
    obtain ⟨sql, params⟩ := script
    have none : sqlRequest c "Exec" sql params = none := by simpa [Call.request?, hb] using h
    have sent := (executeParams_refused (H := H) none p).bind
      fun r => Action.ofExcept (decodeResult H r "transaction")
    simpa [TricoreSdk.transaction, hb] using sent

theorem begin_refused {c : Client} (h : Call.begin.request? c = none) (p : Process ω) :
    RefusedAtOnce (c, p) (TricoreSdk.begin H (c, p)) := by
  cases granted : c.sessionTxnGranted with
  | false =>
    simpa [TricoreSdk.begin, granted] using
      RefusedAtOnce.failed (Error.featureRefusal noSessionTxn) rfl
  | true => simp [Call.request?, granted, sqlRequest, sqlBody] at h

/-- The calls that change only what the client remembers, or a deadline. -/
def Call.Configures : Call → Prop
  | setReadTimeout _ | setRequestTimeout _ | setRequestTxn _ => True
  | _ => False

theorem call_refused {call : Call} {c : Client} (h : call.frame? c = none)
    (hc : ¬call.Configures) (p : Process ω) : RefusedAtOnce (c, p) (call.run H (c, p)) := by
  cases call with
  | setReadTimeout t | setRequestTimeout t | setRequestTxn t => exact absurd trivial hc
  | executeParams sql params =>
    exact (executeParams_refused (by simpa [Call.frame?, Call.request?] using h) p).bind _
  | queryParams sql params =>
    exact (queryParams_refused (by simpa [Call.frame?, Call.request?] using h) p).bind _
  | transaction statements =>
    exact (transaction_refused (by simpa [Call.frame?] using h) p).bind _
  | begin => exact (begin_refused (by simpa [Call.frame?] using h) p).bind _
  | cancel id =>
    have empty : id.isEmpty = true := by
      by_contra hid
      simp [Call.frame?, hid] at h
    simpa [Call.run, TricoreSdk.cancel, empty] using
      RefusedAtOnce.failed (Error.invalid "a request id to cancel must not be empty") rfl
  | _ => simp [Call.frame?, Call.request?, sqlRequest, sqlBody] at h

theorem run_unrequested {P : Path (Client × Process ω) Event}
    (exchanges : ∀ tag payload, P.Respects (exchange H tag payload))
    (poisons : ∀ error, P.Respects (poison H error))
    (sets : ∀ timeout, P.Respects (setReadTimeout H timeout))
    (times : ∀ timeout, P.Respects (Method.update (Client.withRequestTimeout timeout)))
    (names : ∀ txn, P.Respects (Method.update (Client.withRequestTxn txn))) {call : Call} {c : Client}
    (h : call.request? c = none) (p : Process ω) :
    P.rel (c, p) (call.run H (c, p)).events (call.run H (c, p)).state := by
  cases hf : call.frame? c with
  | none =>
    by_cases configures : call.Configures
    · cases call with
      | setReadTimeout t => exact ((sets t).bind fun _ => Path.respects_pure _) (c, p)
      | setRequestTimeout t => exact ((times t).bind fun _ => Path.respects_pure _) (c, p)
      | setRequestTxn t => exact ((names t).bind fun _ => Path.respects_pure _) (c, p)
      | _ => cases configures
    · have refused := call_refused (H := H) hf configures p
      generalize call.run H (c, p) = r at refused
      cases refused <;> exact P.refl _
  | some frame =>
    obtain ⟨tag, payload⟩ := frame
    rcases frame?_cases hf with ⟨rfl, -⟩ | ⟨id, rfl, -⟩ | ⟨op, txn, hr, -⟩
    · exact ((respects_ping (exchanges _ _) poisons).bind fun _ => Path.respects_pure _) (c, p)
    · exact respects_map _ (respects_cancel (exchanges _) poisons id) (c, p)
    · cases h.symm.trans hr

theorem Unseen.unrequested {β γ : Type} {f : Client → β} {g : Process ω → γ} (h : Unseen H g)
    (fixed : Fixed f) {call : Call} {c : Client} (unrequested : call.request? c = none)
    (p : Process ω) :
    (unmoved f g).rel (c, p) (call.run H (c, p)).events (call.run H (c, p)).state :=
  run_unrequested (h.exchange fixed) (h.poison fixed) (h.setReadTimeout_unmoved fixed)
    (fun t => update_unmoved (fixed.withRequestTimeout t))
    (fun txn => update_unmoved (fixed.withRequestTxn txn)) unrequested p

theorem Fixed.settle {β : Type} {f : Client → β} (fixed : Fixed f) (call : Call) (c : Client)
    (o : Outcome Error Response) : f (call.settle H c o) = f c := by
  have control (keyword : String) : f (controlled H keyword c o) = f c := by
    obtain ⟨isOpen, h⟩ := controlled_eq (H := H) keyword c o
    rw [h]
    exact fixed.withTxnOpen isOpen c
  have forgot (txn : String) : f (forgotten txn c o) = f c := by
    cases o with
    | panicked => rfl
    | returned _ | failed _ => exact fixed.forgetTxn txn c
  cases call with
  | begin | commit | rollback => exact control _
  | documentCommit txn | documentRollback txn | graphCommit _ txn | graphRollback _ txn =>
    exact forgot txn
  | _ => rfl

theorem typed_refused {m : TypedMethod α} {c : Client}
    (h : (PublicCall.typed m).frame? c = none) (p : Process ω) :
    RefusedAtOnce (c, p) (m.run H (c, p)) := by
  cases hop : m.op with
  | ok op => simp [PublicCall.frame?, hop] at h
  | error e =>
    obtain ⟨message, rfl⟩ := m.refused e hop
    simpa [TypedMethod.run, hop] using RefusedAtOnce.failed (Error.invalid message) rfl

end

end TricoreSdk
