import TricoreSdk.TxnView

/-! `with_transaction` against the server's sessions: which block its closing
statement ends, and when that is the block its `BEGIN` opened. -/

namespace TricoreSdk
open Effects Path

/-- How `with_transaction` goes, unless something in it panics. -/
inductive TransactionRun {ω α : Type} (H : Host ω) (work : Method ω α) (s : Client × Process ω) :
    Execution (Client × Process ω) Error Event α → Prop
  | panicked (s' : Client × Process ω) (es : List Event) :
    TransactionRun H work s ⟨.panicked, s', es⟩
  | notBegun (e : Error) (s₁ : Client × Process ω) (es : List Event)
    (begun : Call.begin.run H s = ⟨.failed e, s₁, es⟩) :
    TransactionRun H work s ⟨.failed e, s₁, es⟩
  | finished (reply : Reply) (s₁ s₂ s₃ : Client × Process ω) (es₁ es₂ es₃ : List Event)
    (begun : Call.begin.run H s = ⟨.returned reply, s₁, es₁⟩) (v : α)
    (worked : work s₁ = ⟨.returned v, s₂, es₂⟩) (o : Outcome Error Reply)
    (closed : Call.commit.run H s₂ = ⟨o, s₃, es₃⟩) (es : List Event) :
    TransactionRun H work s ⟨o.andThen fun _ => .ok v, s₃, es⟩
  | gaveUp (reply : Reply) (s₁ s₂ s₃ : Client × Process ω) (es₁ es₂ es₃ : List Event)
    (begun : Call.begin.run H s = ⟨.returned reply, s₁, es₁⟩) (e : Error)
    (worked : work s₁ = ⟨.failed e, s₂, es₂⟩) (inTransaction : s₂.1.inTransaction = true)
    (o : Outcome Error Reply) (closed : Call.rollback.run H s₂ = ⟨o, s₃, es₃⟩) (es : List Event) :
    TransactionRun H work s ⟨.failed e, s₃, es⟩
  | abandoned (reply : Reply) (s₁ s₂ : Client × Process ω) (es₁ es₂ : List Event)
    (begun : Call.begin.run H s = ⟨.returned reply, s₁, es₁⟩) (e : Error)
    (worked : work s₁ = ⟨.failed e, s₂, es₂⟩) (outside : s₂.1.inTransaction = false)
    (es : List Event) : TransactionRun H work s ⟨.failed e, s₂, es⟩

section

variable {ω α : Type} {H : Host ω} {S : SessionServer H}

theorem map_run {β : Type} {m : Method ω α} {f : α → β} {s s' : Client × Process ω}
    {o : Outcome Error α} {es : List Event} (h : m s = ⟨o, s', es⟩) :
    (m >>= fun a => pure (f a) : Method ω β) s = ⟨o.andThen fun a => .ok (f a), s', es⟩ := by
  rw [Action.bind_apply, h]
  cases o <;> simp [Outcome.andThen, Execution.after]

theorem transactionRun (work : Method ω α) (s : Client × Process ω) :
    TransactionRun H work s (withTransaction H work s) := by
  rcases hb : TricoreSdk.begin H s with ⟨o, s₁, es₁⟩
  have begun : Call.begin.run H s = ⟨o.andThen fun r => .ok (.result r), s₁, es₁⟩ := map_run hb
  cases o with
  | panicked =>
    have : withTransaction H work s = ⟨.panicked, s₁, es₁⟩ := by simp [withTransaction, hb]
    exact this ▸ .panicked _ _
  | failed e =>
    have : withTransaction H work s = ⟨.failed e, s₁, es₁⟩ := by simp [withTransaction, hb]
    exact this ▸ .notBegun e s₁ es₁ begun
  | returned result =>
    rcases hw : work s₁ with ⟨o, s₂, es₂⟩
    cases o with
    | panicked =>
      have : withTransaction H work s = ⟨.panicked, s₂, es₁ ++ es₂⟩ := by
        simp [withTransaction, hb, Action.attempt, hw, Execution.after]
      exact this ▸ .panicked _ _
    | returned v =>
      rcases hc : commit H s₂ with ⟨o, s₃, es₃⟩
      have closed : Call.commit.run H s₂ = ⟨o.andThen fun r => .ok (.result r), s₃, es₃⟩ := map_run hc
      have : withTransaction H work s =
          ⟨(o.andThen fun r => .ok (Reply.result r)).andThen fun _ => .ok v, s₃, es₁ ++ es₂ ++ es₃⟩ := by
        cases o <;>
          simp [withTransaction, hb, Action.attempt, hw, hc, Execution.after, Outcome.andThen]
      exact this ▸ .finished _ s₁ s₂ s₃ es₁ es₂ es₃ begun v hw _ closed _
    | failed e =>
      cases hi : s₂.1.inTransaction with
      | false =>
        have : withTransaction H work s = ⟨.failed e, s₂, es₁ ++ es₂⟩ := by
          simp [withTransaction, hb, Action.attempt, hw, hi, Execution.after]
        exact this ▸ .abandoned _ s₁ s₂ es₁ es₂ begun e hw hi _
      | true =>
        rcases hr : rollback H s₂ with ⟨o, s₃, es₃⟩
        have closed : Call.rollback.run H s₂ = ⟨o.andThen fun r => .ok (.result r), s₃, es₃⟩ :=
          map_run hr
        have run : o ≠ .panicked → withTransaction H work s = ⟨.failed e, s₃, es₁ ++ es₂ ++ es₃⟩ := by
          cases o <;> simp [withTransaction, hb, Action.attempt, hw, hi, hr, Execution.after]
        cases o with
        | panicked =>
          have : withTransaction H work s = ⟨.panicked, s₃, es₁ ++ es₂ ++ es₃⟩ := by
            simp [withTransaction, hb, Action.attempt, hw, hi, hr, Execution.after]
          exact this ▸ .panicked _ _
        | returned _ | failed _ =>
          rw [run (by simp)]
          exact .gaveUp _ s₁ s₂ s₃ es₁ es₂ es₃ begun e hw hi _ closed _

theorem Serves.reads {mayRefuse : Control → Session → Prop} {k : Control} {r : Response}
    {s s' : Session} (h : Serves H mayRefuse (some k) (.ok r) s s') :
    ∃ result, decodeResult H r k.keyword = .ok result := by
  cases h with
  | began s b open_ ended r result read depth => exact ⟨result, read⟩
  | closed k ending hk b rest ended r result read depth => exact ⟨result, read⟩

namespace SessionServer

/-- The server carries out every closing statement while a block is open. -/
def Obeys (S : SessionServer H) : Prop :=
  ∀ k s, k ≠ .begin → s.blocks ≠ [] → ¬S.mayRefuse k s

/-! ## A control statement -/

theorem decode_control {call : Call} {k : Control} (hk : call.control? = some k) (r : Response) :
    call.decode H r = (decodeResult H r k.keyword).map .result := by
  cases call with
  | begin | commit | rollback =>
    cases hk
    rfl
  | _ => cases hk

inductive Controlled (S : SessionServer H) (k : Control) (s : Client × Process ω) :
    Execution (Client × Process ω) Error Event Reply → Prop
  | lost (o : Outcome Error Reply) (s' : Client × Process ω) (es : List Event)
    (fault : s'.1.fault ≠ none) : Controlled S k s ⟨o, s', es⟩
  | overflowed (s' : Client × Process ω) (es : List Event) (before : (S.own s).blocks = []) :
    Controlled S k s ⟨.panicked, s', es⟩
  | refused (e e' : Error) (s' : Client × Process ω) (es : List Event) (session : Session)
    (same : session.blocks = (S.own s).blocks)
    (serves : Serves H S.mayRefuse (some k) (.error e') session (S.own s')) :
    Controlled S k s ⟨.failed e, s', es⟩
  | done (reply : Reply) (s' : Client × Process ω) (es : List Event) (r : Response)
    (session : Session) (same : session.blocks = (S.own s).blocks)
    (serves : Serves H S.mayRefuse (some k) (.ok r) session (S.own s')) (live : s'.1.Live)
    (placed : S.Placed s') (agrees : S.Agrees s') : Controlled S k s ⟨.returned reply, s', es⟩

theorem control_run {call : Call} {k : Control} (hk : call.control? = some k) {c : Client}
    {p : Process ω} {op : Value} {txn : Option String} (hr : call.request? c = some (op, txn))
    (placed : S.Placed (c, p)) (live : c.Live) {bytes : List UInt8}
    (fits : encode .request (H.body (some (c.envelope op txn))) = .ok bytes)
    (stays : c.txnOpen = false → (S.own (c, p)).blocks = [] ∨
      ∀ e session after, session.blocks = (S.own (c, p)).blocks →
        ¬Serves H S.mayRefuse (some k) (.error e) session after) :
    S.Controlled k (c, p) (call.run H (c, p)) := by
  have numbered : SameConnection c c.numbered := ⟨rfl, rfl, rfl⟩
  have control : S.control (c.envelope op txn) = some k := by
    rw [control_request hk hr, Client.envelope, S.control_op]
  have requested := sendLoop_requested (S := S) (c.envelope op txn) c.options.leaderRetries.toNat 0
    c.options.leaderRetryDelay (placed_kept numbered (Nat.le_refl p.opened) rfl placed)
    (numbered.live live) fits (by rwa [control])
  rw [run_request hr, sendIn_apply, settle_control hk]
  rw [control] at requested
  generalize sendLoop H (c.envelope op txn) c.options.leaderRetries.toNat 0
    c.options.leaderRetryDelay (c.numbered, p) = r at requested
  cases requested with
  | lost e s es fault placed' =>
    have same := controlled_same (H := H) k.keyword s.1 (.failed e)
    exact .lost _ _ es fun h => fault (same.fault.symm.trans h)
  | overflowed s es live' placed' flag before after => exact .overflowed _ es before
  | served o s es reply yielded live' placed' flag session same' serves =>
    have same := controlled_same (H := H) k.keyword s.1 o
    have settled : S.own (controlled H k.keyword s.1 o, s.2) = S.own s := own_same same s.2
    cases reply with
    | error e =>
      obtain ⟨e', rfl, -⟩ := yielded
      exact .refused e' e _ es session same' (settled ▸ serves)
    | ok r =>
      cases yielded
      obtain ⟨result, read⟩ := serves.reads
      have returns : (Outcome.returned r : Outcome Error Response).andThen (call.decode H) =
          .returned (.result result) := by
        simp [Outcome.andThen, decode_control hk, read, Except.map]
      rw [concluded, returns]
      exact .done _ _ es r session same' (settled ▸ serves) (same.live live')
        (placed_kept same (Nat.le_refl s.2.opened) rfl placed') (accepted_agrees live' serves)

/-! ## What a closure cannot undo -/

/-- The path along which a client stays on a connection of its process. -/
def placing (S : SessionServer H) : Path (Client × Process ω) Event where
  rel s _ s' := S.Placed s → S.Placed s'
  refl _ := id
  trans h h' := h' ∘ h

theorem placing_same {f : Client → Client} (h : ∀ c, SameConnection c (f c)) :
    (placing S).Respects (Method.update f : Method ω Unit) := fun s =>
  placed_kept (h s.1) (Nat.le_refl s.2.opened) rfl

theorem placing_exchange (tag : Tag) (payload : Option Value) :
    (placing S).Respects (exchange H tag payload) := by
  rintro ⟨c, p⟩ placed
  have hx := exchanged H tag payload c p
  generalize exchange H tag payload (c, p) = r at hx
  cases hx with
  | faulted _ _ | closed _ _ | tooLarge _ _ _ => exact placed
  | writeFailed live bytes he e w hw =>
    exact placed_dropped placed e.val fun s hs => others_sent hw hs
  | readFailed live bytes he e w w' hw hr =>
    exact placed_dropped placed e.val fun s hs => (others_received hr hs).trans (others_sent hw hs)
  | answered live bytes he frame w w' hw hr =>
    refine ⟨unused_of_own placed.unused placed.opened fun s hs => ?_, placed.opened, placed.open_,
      fun hf => absurd live.fault hf⟩
    exact (others_received hr hs).trans (others_sent hw hs)

theorem placing_poison (e : Error) : (placing S).Respects (poison H e) := by
  rintro ⟨c, p⟩ placed
  have kept := poison_kept (S := S) e c p
  generalize (poison H e (c, p)).state = s at kept
  cases kept with
  | same w sessions =>
    exact placed_kept (p := p) ⟨rfl, rfl, rfl⟩ (Nat.le_refl p.opened) (funext sessions) placed
  | dropped e w others => exact placed_dropped placed e others

theorem placing_moveTo (address : String) : (placing S).Respects (moveTo H address) := by
  rintro ⟨c, p⟩ placed
  have hm := moving (H := H) address c p
  generalize moveTo H address (c, p) = r at hm
  cases hm with
  | unreadable _ => exact placed
  | stayed host port _ e p' es run => exact placed_stayed placed run
  | moved host port _ fresh p' es run => exact (placed_moved address placed run).1

theorem callPath_placing : CallPath H (placing S) where
  exchange := placing_exchange
  poison := placing_poison
  moveTo := placing_moveTo
  setReadTimeout t := (placing_same (f := Client.withReadTimeout t) fun _ => ⟨rfl, rfl, rfl⟩).bind
    fun _ s placed => by
      obtain ⟨ho, quiet, -⟩ := readDeadline_own (H := H) s.1.transport.socket (Duration.nonZero t) s.2
      exact placed_kept (p := s.2) ⟨rfl, rfl, rfl⟩ ho (S.perSocket.quiet quiet) placed
  paused _ := fun _ => id
  update hf := placing_same fun c => (hf.kept c).sameConnection
  withTxnOpen isOpen := placing_same (f := Client.withTxnOpen isOpen) fun _ => ⟨rfl, rfl, rfl⟩

/-- The path along which a connection that the client leaves loses its transaction. -/
def departing (S : SessionServer H) (k : Socket) : Path (Client × Process ω) Event where
  rel s es s' := (sparing S.session k).rel s es s' ∧
    (k < s.2.opened → s.1.transport.socket = k → s'.1.transport.socket ≠ k →
      (S.session s'.2.world k).blocks = [])
  refl s := ⟨(sparing S.session k).refl s, fun _ h h' => absurd h h'⟩
  trans := by
    rintro s s' s'' es fs ⟨spares, leaves⟩ ⟨spares', leaves'⟩
    refine ⟨(sparing S.session k).trans spares spares', fun hk here gone => ?_⟩
    have hk' : k < s'.2.opened := Nat.lt_of_lt_of_le hk spares.1
    by_cases still : s'.1.transport.socket = k
    · exact leaves' hk' still gone
    · rw [(spares'.2 hk' still).2.2]
      exact leaves hk here still

theorem departing_stays {k : Socket} {m : Method ω α} (h : (sparing S.session k).Respects m)
    (stays : ∀ s, (m s).state.1.transport = s.1.transport) : (departing S k).Respects m := fun s =>
  ⟨h s, fun _ here gone => absurd (congrArg Transport.socket (stays s) ▸ here) gone⟩

theorem exchange_transport (tag : Tag) (payload : Option Value) (s : Client × Process ω) :
    (exchange H tag payload s).state.1.transport = s.1.transport := by
  rcases s with ⟨c, p⟩
  have hx := exchanged H tag payload c p
  generalize exchange H tag payload (c, p) = r at hx ⊢
  cases hx <;> rfl

theorem poison_transport (e : Error) (s : Client × Process ω) :
    (poison H e s).state.1.transport = s.1.transport := by
  rcases s with ⟨c, p⟩
  cases hf : c.fault with
  | none =>
    rw [poison_live H hf]
    rfl
  | some fault => rw [poison_faulted H hf]

theorem departing_moveTo (k : Socket) (address : String) :
    (departing S k).Respects (moveTo H address) := by
  rintro ⟨c, p⟩
  refine ⟨sparing_moveTo S.perSocket address (c, p), ?_⟩
  have hm := moving (H := H) address c p
  generalize moveTo H address (c, p) = r at hm
  intro hk here gone
  cases hm with
  | unreadable _ => exact absurd here gone
  | stayed host port _ e p' es run => exact absurd here gone
  | moved host port _ fresh p' es run => exact here ▸ own_dropped c p' p'.world

theorem callPath_departing (k : Socket) : CallPath H (departing S k) where
  exchange tag payload :=
    departing_stays (sparing_exchange S.perSocket tag payload) (exchange_transport tag payload)
  poison e := departing_stays (sparing_poison S.perSocket e) (poison_transport e)
  moveTo := departing_moveTo k
  setReadTimeout t :=
    departing_stays ((callPath_sparing S.perSocket).setReadTimeout t) fun _ => rfl
  paused delay := departing_stays ((callPath_sparing S.perSocket).paused delay) fun _ => rfl
  update hf := departing_stays ((callPath_sparing S.perSocket).update hf) fun s =>
    (hf.kept s.1).transport
  withTxnOpen isOpen :=
    departing_stays ((callPath_sparing S.perSocket).withTxnOpen isOpen) fun _ => rfl

theorem own_after {s : Client × Process ω} (placed : S.Placed s) (work : Proc α)
    (isOpen : (S.session (work.run H s).state.2.world s.1.transport.socket).blocks ≠ []) :
    S.own (work.run H s).state = S.session (work.run H s).state.2.world s.1.transport.socket := by
  have path := ((callPath_departing (S := S) s.1.transport.socket).proc work s).2 placed.opened rfl
  by_contra left
  refine isOpen (path fun here => left ?_)
  rw [own, here]

/-! ## The block of `with_transaction` -/

theorem closing_request {call : Call} {k : Control} (hk : call.control? = some k) (closing : k ≠ .begin)
    (c : Client) : call.request? c = some (k.op, c.requestTxn) := by
  cases call with
  | commit | rollback =>
    cases hk
    rfl
  | begin =>
    cases hk
    exact absurd rfl closing
  | _ => cases hk

theorem fits_request {call : Call} {c : Client} {op : Value} {txn : Option String}
    (hr : call.request? c = some (op, txn)) :
    call.Fits H c ↔ ∃ bytes, encode .request (H.body (some (c.envelope op txn))) = .ok bytes := by
  unfold Call.Fits
  rw [frame?_request hr]
  constructor
  · exact fun h => h _ _ rfl
  · rintro h tag payload ⟨⟩
    exact h

theorem begin_run {c : Client} {p : Process ω} {o : Outcome Error Reply} {s' : Client × Process ω}
    {es : List Event} (placed : S.Placed (c, p)) (agrees : S.Agrees (c, p))
    (run : Call.begin.run H (c, p) = ⟨o, s', es⟩) (live : s'.1.fault = none) :
    (∀ reply, o = .returned reply → s'.1.Live ∧ S.Placed s' ∧
      ∃ b, (S.own s').blocks = b :: (S.own (c, p)).blocks) ∧
    (∀ e, o = .failed e → (S.own s').blocks = (S.own (c, p)).blocks) := by
  have still : c.fault = none := callPath_faulting.run .begin (c, p) (by rwa [run])
  have usable : c.Live := ⟨still, placed.open_⟩
  cases hr : Call.begin.request? c with
  | none =>
    have hf : Call.begin.frame? c = none := by simp [Call.frame?, hr]
    have idle := run_idles (H := H) hf p
    rw [run] at idle
    refine ⟨fun reply ho => ?_, fun e _ => congrArg Session.blocks
      (own_kept (S := S) idle.same (S.perSocket.quiet idle.path.2.1))⟩
    have denied : c.sessionTxnGranted = false := by
      by_contra granted
      simp [Call.request?, eq_true_of_ne_false granted, sqlRequest, sqlBody] at hr
    have : (Call.begin.run H (c, p)).outcome = .failed (Error.featureRefusal noSessionTxn) := by
      simp [Call.run, TricoreSdk.begin, denied]
    rw [run, ho] at this
    cases this
  | some request =>
    obtain ⟨op, txn⟩ := request
    cases he : encode .request (H.body (some (c.envelope op txn))) with
    | error e =>
      rw [request_large hr usable he] at run
      cases run
      refine ⟨fun reply ho => (by cases ho), fun e _ => congrArg Session.blocks ?_⟩
      exact own_same (controlled_same "BEGIN" c.numbered _) p
    | ok bytes =>
      have flag := (agrees_live usable).mp agrees
      have controlled := control_run (S := S) (rfl : Call.begin.control? = _) hr placed usable he fun closed =>
        .inl (by
          by_contra hb
          exact absurd (flag.mpr hb) (by simp [closed]))
      rw [run] at controlled
      cases controlled with
      | lost _ _ _ fault => exact absurd live fault
      | overflowed _ _ before => exact ⟨fun reply ho => (by cases ho), fun e ho => by cases ho⟩
      | refused e e' _ _ session same serves =>
        refine ⟨fun reply ho => (by cases ho), fun _ _ => ?_⟩
        generalize S.own s' = after at serves
        cases serves with
        | refusedBegin _ may _ => exact same
        | refusedClose _ hk _ _ _ => exact absurd rfl hk
      | done reply _ _ r session same serves live' placed' agrees' =>
        refine ⟨fun _ _ => ⟨live', placed', ?_⟩, fun e ho => by cases ho⟩
        generalize S.own s' = after at serves
        cases serves with
        | began _ b open_ ended r result read depth => exact ⟨b, congrArg _ same⟩
        | closed _ ending hk _ _ _ _ _ _ _ => cases hk

/-- A closing statement while a block is open: the innermost one ends, or the
statement was too large and nothing did. -/
theorem closing_run (obeys : S.Obeys) {call : Call} {k : Control} {ending : Ending}
    (hk : call.control? = some k) (hend : k.ending = some ending) {c : Client} {p : Process ω}
    (placed : S.Placed (c, p)) {b : Nat} {rest : List Nat} (isOpen : (S.own (c, p)).blocks = b :: rest)
    {o : Outcome Error Reply} {s' : Client × Process ω} {es : List Event}
    (run : call.run H (c, p) = ⟨o, s', es⟩) (live : s'.1.fault = none) :
    (call.Fits H c ∧ (∃ reply, o = .returned reply) ∧ (S.own s').blocks = rest ∧
      (b, ending) ∈ (S.own s').ended ∧ S.Agrees s') ∨
    (¬call.Fits H c ∧ (∃ e, o = .failed e) ∧ (S.own s').blocks = b :: rest) := by
  have closing := ending_not_begin hend
  have hr := closing_request hk closing c
  have still : c.fault = none := callPath_faulting.run call (c, p) (by rwa [run])
  have usable : c.Live := ⟨still, placed.open_⟩
  rw [fits_request hr]
  cases he : encode .request (H.body (some (c.envelope k.op c.requestTxn))) with
  | error e =>
    rw [request_large hr usable he] at run
    cases run
    refine .inr ⟨by simp, ⟨e, rfl⟩, ?_⟩
    rw [← isOpen]
    exact congrArg Session.blocks (own_same ((SameConnection.mk rfl rfl rfl :
      SameConnection c c.numbered).trans (settle_same call c.numbered (.failed e))) p)
  | ok bytes =>
    have controlled := control_run hk hr placed usable he fun _ => .inr fun e session after same serves => by
      have nonempty : session.blocks ≠ [] := by simp [same, isOpen]
      cases serves with
      | refusedBegin _ may _ => exact closing rfl
      | refusedClose _ _ _ may _ => exact obeys k session closing nonempty may
    rw [run] at controlled
    cases controlled with
    | lost _ _ _ fault => exact absurd live fault
    | overflowed _ _ before => exact absurd (isOpen.symm.trans before) (by simp)
    | refused e e' _ _ session same serves =>
      have nonempty : session.blocks ≠ [] := by simp [same, isOpen]
      generalize S.own s' = after at serves
      cases serves with
      | refusedBegin _ may _ => exact absurd rfl closing
      | refusedClose _ _ _ may _ => exact absurd may (obeys k session closing nonempty)
    | done reply _ _ r session same serves live' placed' agrees' =>
      generalize hs : S.own s' = after at serves
      cases serves with
      | began _ b open_ ended r result read depth => exact absurd rfl closing
      | closed _ ending' hk' x xs ended r result read depth =>
        obtain ⟨rfl, rfl⟩ : x = b ∧ xs = rest := by simpa [isOpen] using same
        cases hk'.symm.trans hend
        exact .inl ⟨⟨bytes, rfl⟩, ⟨reply, rfl⟩, rfl, by simp, agrees'⟩

/-- What `with_transaction` promises of its run: the depth is what it was, and the
block its `BEGIN` opened was committed if it returns and rolled back if its closure
failed. -/
structure EndsItsBlock (S : SessionServer H) (work : Method ω α) (s : Client × Process ω)
    (r : Execution (Client × Process ω) Error Event α) : Prop where
  depth : (S.own r.state).blocks.length = (S.own s).blocks.length
  outside : (S.own s).blocks = [] → r.state.1.inTransaction = false
  ends : ∀ reply s₁ es₁, Call.begin.run H s = ⟨.returned reply, s₁, es₁⟩ →
    ∃ b, (S.own s₁).blocks.head? = some b ∧
      ((∃ v, r.outcome = .returned v) → (b, .committed) ∈ (S.own r.state).ended) ∧
      ((∃ e, (work s₁).outcome = .failed e) → (b, .rolledBack) ∈ (S.own r.state).ended)

/-- The statement that follows a closure's outcome can be sent: `COMMIT` if it fits,
`ROLLBACK` if `in_transaction` still holds and it fits. -/
def CanClose (H : Host ω) (o : Outcome Error α) (c : Client) : Prop :=
  match o with
  | .returned _ => Call.commit.Fits H c
  | .failed _ => c.inTransaction = true ∧ Call.rollback.Fits H c
  | .panicked => True

/-- The closure left no block of its own open, and the statement that closes the
one around it can be sent. -/
def ClosesCleanly (S : SessionServer H) (work : Method ω α) (s : Client × Process ω) : Prop :=
  ∀ reply s₁ es₁, Call.begin.run H s = ⟨.returned reply, s₁, es₁⟩ →
    (S.own (work s₁).state).blocks = (S.own s₁).blocks ∧
      CanClose H (work s₁).outcome (work s₁).state.1

theorem closed_depth {mine base rest : List Nat} {b x : Nat} (h : mine ++ b :: base = x :: rest) :
    rest.length = base.length ↔ x :: rest = b :: base := by
  have length := congrArg List.length h
  simp only [List.length_append, List.length_cons] at length
  constructor
  · intro same
    have none_left : mine = [] := List.eq_nil_of_length_eq_zero (by omega)
    rw [← h, none_left, List.nil_append]
  · intro same
    exact congrArg List.length (List.cons.inj same).2

theorem inTransaction_outside {s : Client × Process ω} (agrees : S.Agrees s)
    (none_open : (S.own s).blocks = []) : s.1.inTransaction = false := by
  by_contra h
  exact agrees.mp (eq_true_of_ne_false h) none_open

theorem worked_blocks {s₁ s₂ : Client × Process ω} (placed : S.Placed s₁) {work : Proc α}
    {o : Outcome Error α} {es : List Event} (worked : work.run H s₁ = ⟨o, s₂, es⟩)
    (keeps : (S.own s₁).blocks <:+
      (S.session (work.run H s₁).state.2.world s₁.1.transport.socket).blocks)
    {b : Nat} {base : List Nat} (opened : (S.own s₁).blocks = b :: base) :
    S.Placed s₂ ∧ ∃ mine, (S.own s₂).blocks = mine ++ b :: base := by
  have placed₂ := callPath_placing.proc work s₁ placed
  obtain ⟨mine, split⟩ := keeps
  rw [opened] at split
  have stays := own_after placed work (by simp [← split])
  rw [worked] at placed₂ stays split
  exact ⟨placed₂, mine, by rw [stays, split]⟩

section

variable {work : Method ω α} {s s₁ s₂ : Client × Process ω} {reply : Reply} {es₁ es₂ : List Event}
  {o : Outcome Error α} (begun : Call.begin.run H s = ⟨.returned reply, s₁, es₁⟩)
  (worked : work s₁ = ⟨o, s₂, es₂⟩)

include begun worked

theorem endsItsBlock_begun {b : Nat} (opened : (S.own s₁).blocks = b :: (S.own s).blocks)
    {r : Execution (Client × Process ω) Error Event α} :
    S.EndsItsBlock work s r ↔
      (S.own r.state).blocks.length = (S.own s).blocks.length ∧
      ((S.own s).blocks = [] → r.state.1.inTransaction = false) ∧
      ((∃ v, r.outcome = .returned v) → (b, .committed) ∈ (S.own r.state).ended) ∧
      ((∃ e, o = .failed e) → (b, .rolledBack) ∈ (S.own r.state).ended) := by
  constructor
  · rintro ⟨depth, outside, ends⟩
    obtain ⟨b', head, ends⟩ := ends reply s₁ es₁ begun
    rw [opened] at head
    cases head
    rw [worked] at ends
    exact ⟨depth, outside, ends⟩
  · rintro ⟨depth, outside, ends⟩
    refine ⟨depth, outside, fun reply' s₁' es₁' begun' => ⟨b, ?_⟩⟩
    cases begun.symm.trans begun'
    rw [opened, worked]
    exact ⟨rfl, ends⟩

theorem closesCleanly_begun :
    S.ClosesCleanly work s ↔ (S.own s₂).blocks = (S.own s₁).blocks ∧ CanClose H o s₂.1 := by
  constructor
  · intro clean
    have := clean reply s₁ es₁ begun
    rwa [worked] at this
  · intro clean reply' s₁' es₁' begun'
    cases begun.symm.trans begun'
    rwa [worked]

end

end SessionServer

open SessionServer

theorem depth_ne {mine base blocks : List Nat} {b : Nat} (h : blocks = mine ++ b :: base) :
    blocks.length ≠ base.length := by
  have longer := congrArg List.length h
  simp only [List.length_append, List.length_cons] at longer
  omega

theorem top_exists {mine base blocks : List Nat} {b : Nat} (h : blocks = mine ++ b :: base) :
    ∃ x rest, blocks = x :: rest := by
  rw [h]
  cases mine with
  | nil => exact ⟨b, base, rfl⟩
  | cons x mine => exact ⟨x, mine ++ b :: base, rfl⟩

/-- `with_transaction` ends exactly the block it opened if and only if its `BEGIN`
failed, or its closure left no block of its own open and the closing statement can
be sent: it fits, and after a failure `in_transaction` still holds. -/
theorem endsItsBlock_iff (obeys : S.Obeys) {s : Client × Process ω} (placed : S.Placed s)
    (agrees : S.Agrees s) (work : Proc α)
    (keeps : ∀ reply s₁ es₁, Call.begin.run H s = ⟨.returned reply, s₁, es₁⟩ → (S.own s₁).blocks <:+
      (S.session (work.run H s₁).state.2.world s₁.1.transport.socket).blocks)
    (returns : (withTransaction H (work.run H) s).outcome ≠ .panicked)
    (unpoisoned : (withTransaction H (work.run H) s).state.1.isPoisoned = false) :
    S.EndsItsBlock (work.run H) s (withTransaction H (work.run H) s) ↔
      S.ClosesCleanly (work.run H) s := by
  have unfaulted : (withTransaction H (work.run H) s).state.1.fault = none := by
    simpa [Client.isPoisoned] using unpoisoned
  have run := transactionRun (H := H) (work.run H) s
  generalize withTransaction H (work.run H) s = r at returns unfaulted run
  have path := callPath_faulting (H := H)
  -- What holds once BEGIN and the closure are over.
  have start {reply : Reply} {s₁ s₂ : Client × Process ω} {es₁ es₂ : List Event} {o : Outcome Error α}
      (begun : Call.begin.run H s = ⟨.returned reply, s₁, es₁⟩)
      (worked : work.run H s₁ = ⟨o, s₂, es₂⟩) (live₂ : s₂.1.fault = none) :
      S.Placed s₂ ∧ ∃ b mine, (S.own s₁).blocks = b :: (S.own s).blocks ∧
        (S.own s₂).blocks = mine ++ b :: (S.own s).blocks := by
    have live₁ : s₁.1.fault = none := path.proc work s₁ (by rwa [worked])
    obtain ⟨-, placed₁, b, opened⟩ := (begin_run placed agrees begun live₁).1 reply rfl
    obtain ⟨placed₂, mine, split⟩ := worked_blocks placed₁ worked (keeps reply s₁ es₁ begun) opened
    exact ⟨placed₂, b, mine, opened, split⟩
  cases run with
  | panicked s' es => exact absurd rfl returns
  | notBegun e s₁ es begun =>
    have clean : S.ClosesCleanly (work.run H) s := by
      intro reply s₁' es₁ begun'
      cases begun.symm.trans begun'
    have same := (begin_run placed agrees begun unfaulted).2 e rfl
    refine ⟨fun _ => clean, fun _ => ⟨congrArg List.length same, fun none_open => ?_, ?_⟩⟩
    · have agrees' := (begin_agrees placed agrees).2
      rw [begun] at agrees'
      exact inTransaction_outside agrees' (same.trans none_open)
    · intro reply s₁' es₁ begun'
      cases begun.symm.trans begun'
  | finished reply s₁ s₂ s₃ es₁ es₂ es₃ begun v worked o closed es =>
    obtain ⟨placed₂, b, mine, opened, split⟩ :=
      start begun worked (path.run .commit s₂ (by rwa [closed]))
    rw [endsItsBlock_begun begun worked opened, closesCleanly_begun begun worked, opened]
    obtain ⟨x, rest, top⟩ := top_exists split
    have depth := closed_depth (split.symm.trans top)
    rw [top]
    rcases closing_run obeys (rfl : Call.commit.control? = _) rfl placed₂ top closed unfaulted with
      ⟨fits, ⟨reply, rfl⟩, left, ended, agrees₃⟩ | ⟨large, ⟨e, rfl⟩, left⟩
    · rw [left, depth]
      refine ⟨fun h => ⟨h.1, fits⟩, fun h => ⟨h.1, fun none_open => ?_, fun _ => ?_, ?_⟩⟩
      · obtain ⟨-, rfl⟩ := List.cons.inj h.1
        exact inTransaction_outside agrees₃ (left.trans none_open)
      · obtain ⟨rfl, -⟩ := List.cons.inj h.1
        exact ended
      · rintro ⟨e, he⟩
        cases he
    · constructor
      · rintro ⟨same, -⟩
        exact absurd same (depth_ne (left.trans (top.symm.trans split)))
      · rintro ⟨-, fits⟩
        exact absurd fits large
  | gaveUp reply s₁ s₂ s₃ es₁ es₂ es₃ begun e worked inTransaction o closed es =>
    obtain ⟨placed₂, b, mine, opened, split⟩ :=
      start begun worked (path.run .rollback s₂ (by rwa [closed]))
    rw [endsItsBlock_begun begun worked opened, closesCleanly_begun begun worked, opened]
    obtain ⟨x, rest, top⟩ := top_exists split
    have depth := closed_depth (split.symm.trans top)
    rw [top]
    rcases closing_run obeys (rfl : Call.rollback.control? = _) rfl placed₂ top closed unfaulted with
      ⟨fits, ⟨reply, rfl⟩, left, ended, agrees₃⟩ | ⟨large, ⟨e, rfl⟩, left⟩
    · rw [left, depth]
      refine ⟨fun h => ⟨h.1, inTransaction, fits⟩,
        fun h => ⟨h.1, fun none_open => ?_, ?_, fun _ => ?_⟩⟩
      · obtain ⟨-, rfl⟩ := List.cons.inj h.1
        exact inTransaction_outside agrees₃ (left.trans none_open)
      · rintro ⟨v, hv⟩
        cases hv
      · obtain ⟨rfl, -⟩ := List.cons.inj h.1
        exact ended
    · constructor
      · rintro ⟨same, -⟩
        exact absurd same (depth_ne (left.trans (top.symm.trans split)))
      · rintro ⟨-, -, fits⟩
        exact absurd fits large
  | abandoned reply s₁ s₂ es₁ es₂ begun e worked outside es =>
    obtain ⟨placed₂, b, mine, opened, split⟩ := start begun worked unfaulted
    rw [endsItsBlock_begun begun worked opened, closesCleanly_begun begun worked]
    constructor
    · rintro ⟨same, -⟩
      exact absurd same (depth_ne split)
    · rintro ⟨-, inTransaction, -⟩
      exact absurd inTransaction (by simp [outside])

end

/-! ## Closures on a connection to the desk -/

def deskSession : Client × Process Desk :=
  (session, (connect deskHost Options.default deskStart).state)

theorem desk_obeys : desk.Obeys := by
  intro k s closing nonempty may
  have none_open : s.blocks = [] := by simpa [desk, Desk.mayRefuse, closing] using may
  exact nonempty none_open

theorem deskSession_ready : desk.Placed deskSession ∧ desk.Agrees deskSession := by
  have run : connect deskHost Options.default deskStart =
      ⟨.returned session, deskSession.2, sessionLog⟩ := by with_unfolding_all rfl
  obtain ⟨placed, none_open, flag⟩ := (SessionServer.connect_placed run desk_unused).2 session rfl
  have none_open : (desk.own deskSession).blocks = [] := none_open
  have flag : deskSession.1.txnOpen = false := flag
  exact ⟨placed, by simp [SessionServer.Agrees, none_open, Client.inTransaction, flag]⟩

def closesItsOwn : Proc Unit :=
  Proc.attempt .begin fun _ => Proc.attempt .commit fun _ => .done (.ok ())

def leavesItsOwn : Proc Unit := Proc.attempt .begin fun _ => .done (.ok ())

theorem endsItsBlock_closesItsOwn :
    desk.EndsItsBlock (closesItsOwn.run deskHost) deskSession
        (withTransaction deskHost (closesItsOwn.run deskHost) deskSession) ↔
      desk.ClosesCleanly (closesItsOwn.run deskHost) deskSession := by
  refine endsItsBlock_iff desk_obeys deskSession_ready.1 deskSession_ready.2 closesItsOwn ?_
    (by decide +kernel) (by decide +kernel)
  intro reply s₁ es₁ begun
  obtain rfl : (Call.begin.run deskHost deskSession).state = s₁ := by rw [begun]
  decide +kernel

theorem not_endsItsBlock_leavesItsOwn :
    (∀ reply s₁ es₁, Call.begin.run deskHost deskSession = ⟨.returned reply, s₁, es₁⟩ →
      (desk.own s₁).blocks <:+ (desk.session (leavesItsOwn.run deskHost s₁).state.2.world
        s₁.1.transport.socket).blocks) ∧
    (withTransaction deskHost (leavesItsOwn.run deskHost) deskSession).outcome = .returned () ∧
    (withTransaction deskHost (leavesItsOwn.run deskHost) deskSession).state.1.isPoisoned = false ∧
    ¬desk.EndsItsBlock (leavesItsOwn.run deskHost) deskSession
      (withTransaction deskHost (leavesItsOwn.run deskHost) deskSession) := by
  refine ⟨?_, by decide +kernel, by decide +kernel, fun ends => ?_⟩
  · intro reply s₁ es₁ begun
    obtain rfl : (Call.begin.run deskHost deskSession).state = s₁ := by rw [begun]
    decide +kernel
  · exact absurd ends.depth (by decide +kernel)

end TricoreSdk
