import TricoreSdk.Fatality
import TricoreSdk.WithTransaction

/-! What a successful answer to `BEGIN`, `COMMIT` or `ROLLBACK` does to the
transaction flag, whatever the answer carries. -/

namespace TricoreSdk
open Effects Path

/-- The payload names a nested block: as the result it decodes to, or else as a field. -/
def Response.CarriesDepth (r : Response) : Prop :=
  match TransactionResult.fromValue r.data with
  | some result => result.nestedDepth.isSome = true
  | none => ∃ v, r.data.get "nested_depth" = some v ∧ v ≠ .null

/-- The flag after a successful answer: `BEGIN` opened a transaction, the others
ended one unless the answer names a nested block. -/
def FlagRight (k : Control) (r : Response) (after : Client) : Prop :=
  match k with
  | .begin => after.inTransaction = true ∨ after.isPoisoned = true
  | _ => after.inTransaction = true → r.CarriesDepth

/-- The flag was already what a successful answer makes it. -/
def FlagSettled (k : Control) (r : Response) (before : Client) : Prop :=
  match k with
  | .begin => before.inTransaction = true
  | _ => before.inTransaction = false ∨ r.CarriesDepth

/-- A client that was dropped stays so, and while it lives its flag stays as it was. -/
def flagging {ω : Type} : Path (Client × Process ω) Event where
  rel s _ s' := s'.1.fault = none →
    s.1.fault = none ∧ s'.1.txnOpen = s.1.txnOpen ∧ s'.1.closed = s.1.closed
  refl _ live := ⟨live, rfl, rfl⟩
  trans h h' live := by
    obtain ⟨mid, txn', closed'⟩ := h' live
    obtain ⟨start, txn, closed⟩ := h mid
    exact ⟨start, txn'.trans txn, closed'.trans closed⟩

section

variable {ω : Type} {H : Host ω}

theorem wirePath_flagging : WirePath H flagging where
  exchange tag payload := by
    rintro ⟨c, p⟩
    have hx := exchanged H tag payload c p
    generalize exchange H tag payload (c, p) = r at hx ⊢
    cases hx with
    | writeFailed _ _ _ _ _ _ | readFailed _ _ _ _ _ _ _ _ =>
      intro live
      cases live
    | _ => exact fun live => ⟨live, rfl, rfl⟩
  poison e := by
    rintro ⟨c, p⟩
    cases hf : c.fault with
    | none =>
      rw [poison_live H hf]
      intro live
      cases live
    | some fault =>
      rw [poison_faulted H hf]
      exact fun live => ⟨live, rfl, rfl⟩
  moveTo address := by
    rintro ⟨c, p⟩
    have hm := moving (H := H) address c p
    generalize moveTo H address (c, p) = r at hm ⊢
    cases hm <;> exact fun live => ⟨live, rfl, rfl⟩
  setReadTimeout t := fun _ live => ⟨live, rfl, rfl⟩
  paused _ := fun _ live => ⟨live, rfl, rfl⟩
  update hf s live :=
    have kept := hf.kept s.1
    ⟨kept.fault.symm.trans live, kept.txnOpen, kept.closed⟩

theorem sendIn_answered {op : Value} {txn : Option String} {c : Client} {p : Process ω}
    {frame : Frame} (h : finalAnswer (sendIn H op txn (c, p)).events = some frame) :
    c.Live ∧ ∃ bytes, encode .request (H.body (some (c.envelope op txn))) = .ok bytes := by
  have silent {e : Error} (he : e.isRedirect = false)
      (hs : sendOnce H (c.envelope op txn) (c.numbered, p) = ⟨.failed e, (c.numbered, p), []⟩) :
      False := by
    rw [sendIn_apply, sendLoop_failed he hs] at h
    cases h
  have once := sentOnce H (c.envelope op txn) c.numbered p
  generalize hr : sendOnce H (c.envelope op txn) (c.numbered, p) = x at once
  cases once with
  | dead e he =>
    rcases he with ⟨fault, -, rfl⟩ | ⟨-, -, rfl⟩ <;> exact (silent rfl hr).elim
  | tooLarge live e he => exact (silent (encode_error he).2.isRedirect hr).elim
  | broken live bytes he _ _ _ | misanswered live bytes he _ _ _ _ _ _ _ _
  | replied live bytes he _ _ _ _ _ _ _ => exact ⟨⟨live.fault, live.open_⟩, bytes, he⟩

/-- A request whose last answer is a successful response returns it, on a
connection that lives, with the flag as it was. -/
theorem sendIn_ok {op : Value} {txn : Option String} {c : Client} {p : Process ω}
    {payload : List UInt8} {r : Response}
    (h : finalAnswer (sendIn H op txn (c, p)).events = some ⟨.response, payload⟩)
    (hr : readResponse H payload = .ok r) :
    (sendIn H op txn (c, p)).outcome = .returned r ∧
      (sendIn H op txn (c, p)).state.1.Live ∧
      (sendIn H op txn (c, p)).state.1.inTransaction = c.inTransaction := by
  obtain ⟨live, bytes, fits⟩ := sendIn_answered h
  have flag := wirePath_flagging.sendIn (H := H) op txn (c, p)
  have fated := sendIn_fated live fits p
  generalize sendIn H op txn (c, p) = x at h flag fated ⊢
  have answered : replyOf H ⟨.response, payload⟩ = some (.ok r) := congrArg some hr
  cases fated with
  | overflowed s es ends =>
    rw [ends.finalAnswer] at h
    cases h
  | dropped e s es frame he fault ends unread =>
    rw [ends.finalAnswer] at h
    rw [unread _ h] at answered
    cases answered
  | replied o s es frame reply live' ends read relayed =>
    cases ends.finalAnswer.symm.trans h
    cases read.symm.trans answered
    obtain ⟨-, txnOpen, closed⟩ := flag live'
    refine ⟨relayed, ⟨live', closed.trans live.open_⟩, ?_⟩
    show s.1.inTransaction = c.inTransaction
    unfold Client.inTransaction
    rw [live', live.fault, show s.1.txnOpen = c.txnOpen from txnOpen,
      show s.1.closed = c.closed from closed]

theorem sendIn_refused {op : Value} {txn : Option String} {c : Client} {p : Process ω}
    {payload : List UInt8} {e : Error}
    (h : finalAnswer (sendIn H op txn (c, p)).events = some ⟨.response, payload⟩)
    (hr : readResponse H payload = .error e) :
    ∃ e', (sendIn H op txn (c, p)).outcome = .failed e' := by
  obtain ⟨live, bytes, fits⟩ := sendIn_answered h
  have fated := sendIn_fated live fits p
  generalize sendIn H op txn (c, p) = x at h fated ⊢
  have answered : replyOf H ⟨.response, payload⟩ = some (.error e) := congrArg some hr
  cases fated with
  | overflowed s es ends =>
    rw [ends.finalAnswer] at h
    cases h
  | dropped e' s es frame he fault ends unread => exact ⟨e', rfl⟩
  | replied o s es frame reply live' ends read relayed =>
    cases ends.finalAnswer.symm.trans h
    cases read.symm.trans answered
    obtain ⟨e', failed, -⟩ := relayed
    exact ⟨e', failed⟩

theorem control_answered {call : Call} {k : Control} (hk : call.control? = some k) {c : Client}
    {p : Process ω} {payload : List UInt8} {r : Response}
    (answer : finalAnswer (call.run H (c, p)).events = some ⟨.response, payload⟩)
    (hr : readResponse H payload = .ok r) :
    ∃ c', c'.Live ∧ c'.inTransaction = c.inTransaction ∧
      (call.run H (c, p)).state.1 = controlled H k.keyword c' (.returned r) := by
  cases hreq : call.request? c with
  | none =>
    have first : call.frame? c = none := by
      cases call with
      | begin | commit | rollback => simp [Call.frame?, hreq]
      | _ => cases hk
    have refused := call_refused (H := H) first (by cases call <;> first | exact id | cases hk) p
    generalize call.run H (c, p) = x at refused answer
    cases refused <;> cases answer
  | some request =>
    obtain ⟨op, txn⟩ := request
    rw [run_request hreq, settle_control hk] at answer ⊢
    obtain ⟨returned, live, flag⟩ := sendIn_ok answer hr
    exact ⟨_, live, flag, by simp only [concluded, returned]⟩

theorem nestedDepth_of_decodes {r : Response} {keyword : String} {result : TransactionResult}
    (h : decodeResult H r keyword = .ok result) :
    r.CarriesDepth ↔ result.nestedDepth.isSome = true := by
  obtain ⟨-, read⟩ := Response.decode_eq_ok_iff.mp h
  simp only [Response.CarriesDepth, read]

theorem inTransaction_withTxnOpen {c : Client} (live : c.Live) (isOpen : Bool) :
    (c.withTxnOpen isOpen).inTransaction = isOpen := by
  simp [Client.inTransaction, Client.withTxnOpen, live.fault, live.open_]

/-- After a successful answer to a control statement the flag is right exactly
when the answer could be decoded, or the flag was right already. -/
theorem flagRight_iff {call : Call} {k : Control} (hk : call.control? = some k) {c : Client}
    {p : Process ω} {payload : List UInt8} {r : Response}
    (answer : finalAnswer (call.run H (c, p)).events = some ⟨.response, payload⟩)
    (hr : readResponse H payload = .ok r) :
    FlagRight k r (call.run H (c, p)).state.1 ↔
      (∃ result, decodeResult H r k.keyword = .ok result) ∨ FlagSettled k r c := by
  obtain ⟨c', live, flag, run⟩ := control_answered hk answer hr
  rw [run]
  cases hd : decodeResult H r k.keyword with
  | ok result =>
    refine iff_of_true ?_ (.inl ⟨result, rfl⟩)
    have after : controlled H k.keyword c' (.returned r) =
        c'.withTxnOpen (k.keyword == "BEGIN" || result.nestedDepth.isSome) := by
      simp only [controlled, hd]
    rw [after]
    cases k with
    | begin => exact .inl (inTransaction_withTxnOpen live _)
    | commit | rollback =>
      intro still
      rw [inTransaction_withTxnOpen live] at still
      exact (nestedDepth_of_decodes hd).mpr still
  | error e =>
    have same : controlled H k.keyword c' (.returned r) = c' := by simp only [controlled, hd]
    rw [same]
    have undecoded : ¬∃ result, (.error e : Except Error TransactionResult) = .ok result := by
      intro h
      obtain ⟨result, hr⟩ := h
      cases hr
    rw [or_iff_right undecoded]
    cases k with
    | begin => simp [FlagRight, FlagSettled, flag, Client.isPoisoned, live.fault]
    | commit | rollback =>
      simp only [FlagRight, FlagSettled, flag]
      cases c.inTransaction <;> simp

end

def inBlock : Client := session.withTxnOpen true

/-- A successful answer that carries nothing. -/
def emptyAnswer : Response := ⟨"", "ok", "Empty", .null, none, none, [], none, none⟩

theorem readResponse_done : readResponse scripted done = .ok emptyAnswer := by
  with_unfolding_all rfl

theorem commit_answered :
    finalAnswer (Call.commit.run scripted (inBlock, playing [replies .response done])).events =
      some ⟨.response, done⟩ := by
  decide +kernel

theorem flagRight_iff_emptyAnswer :
    FlagRight .commit emptyAnswer
        (Call.commit.run scripted (inBlock, playing [replies .response done])).state.1 ↔
      (∃ result, decodeResult scripted emptyAnswer "COMMIT" = .ok result) ∨
        FlagSettled .commit emptyAnswer inBlock :=
  flagRight_iff rfl commit_answered readResponse_done

/-- `COMMIT` is answered ok without a result: the transaction is over, and the flag stays up. -/
theorem not_flagRight_emptyAnswer :
    ¬∀ (call : Call) (k : Control) (c : Client) (p : Process (List (Except WireError Frame)))
      (payload : List UInt8) (r : Response), call.control? = some k →
      finalAnswer (call.run scripted (c, p)).events = some ⟨.response, payload⟩ →
      readResponse scripted payload = .ok r → FlagRight k r (call.run scripted (c, p)).state.1 := by
  intro h
  have right := h _ _ _ _ _ _ (rfl : Call.commit.control? = _) commit_answered readResponse_done
  have carries : emptyAnswer.CarriesDepth := right (by decide +kernel)
  have undecoded : TransactionResult.fromValue emptyAnswer.data = none := by decide +kernel
  simp only [Response.CarriesDepth, undecoded] at carries
  obtain ⟨v, hv, -⟩ := carries
  cases hv

end TricoreSdk
