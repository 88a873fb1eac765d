import TricoreSdk.TxnServer

/-! The client's view of its session transaction: `in_transaction` after each
call, against what the server has open on the connection. -/

namespace TricoreSdk
open Effects JsonText Path

def Call.control? : Call → Option Control
  | begin => some .begin
  | commit => some .commit
  | rollback => some .rollback
  | _ => none

section

variable {ω α : Type} (H : Host ω)

def Call.Fits (c : Client) (call : Call) : Prop :=
  ∀ tag payload, call.frame? c = some (tag, payload) → ∃ bytes, encode tag (H.body payload) = .ok bytes

/-- A `commit` or `rollback` of an open transaction fits in a frame. -/
def ClosingFits (s : Client × Process ω) (call : Call) : Prop :=
  ∀ k, call.control? = some k → k ≠ .begin → s.1.inTransaction = true → call.Fits H s.1

variable {H}

/-- A call that is no transaction control sends no control statement. -/
def SessionServer.Plain (S : SessionServer H) (s : Client × Process ω) (call : Call) : Prop :=
  call.control? = none → ∀ op txn, call.request? s.1 = some (op, txn) →
    S.control (s.1.envelope op txn) = none

theorem control_request {call : Call} {k : Control} (hk : call.control? = some k) {c : Client}
    {op : Value} {txn : Option String} (hr : call.request? c = some (op, txn)) : op = k.op := by
  have keyword {k : Control} (h : sqlRequest c "Exec" k.keyword [] = some (op, txn)) : op = k.op := by
    cases h
    rfl
  cases call with
  | begin =>
    cases hk
    simp only [Call.request?] at hr
    split at hr
    · exact keyword hr
    · cases hr
  | commit | rollback =>
    cases hk
    exact keyword hr
  | _ => cases hk

theorem settle_control {call : Call} {k : Control} (hk : call.control? = some k) :
    call.settle H = controlled H k.keyword := by
  cases call with
  | begin | commit | rollback =>
    cases hk
    rfl
  | _ => cases hk

theorem settle_plain {call : Call} (hk : call.control? = none) (c : Client)
    (o : Outcome Error Response) : (call.settle H c o).txnOpen = c.txnOpen := by
  cases call with
  | begin | commit | rollback => cases hk
  | documentCommit txn | documentRollback txn | graphCommit _ txn | graphRollback _ txn =>
    exact (forgotten_kept txn c o).txnOpen
  | _ => rfl

namespace SessionServer

variable {S : SessionServer H}

theorem own_same {c c' : Client} (h : SameConnection c c') (p : Process ω) :
    S.own (c', p) = S.own (c, p) :=
  congrArg (fun t : Transport => S.session p.world t.socket) h.transport

theorem own_kept {c c' : Client} {p p' : Process ω} (same : SameConnection c c')
    (sessions : S.session p'.world = S.session p.world) : S.own (c', p') = S.own (c, p) := by
  simp only [own, sessions, same.transport]

theorem placed_kept {c c' : Client} {p p' : Process ω} (same : SameConnection c c')
    (ho : p.opened ≤ p'.opened) (sessions : S.session p'.world = S.session p.world)
    (placed : S.Placed (c, p)) : S.Placed (c', p') where
  unused s hs := by
    rw [sessions]
    exact placed.unused s (Nat.le_trans ho hs)
  opened := same.transport ▸ Nat.lt_of_lt_of_le placed.opened ho
  open_ := same.closed.trans placed.open_
  dropped hf := own_kept same sessions ▸ placed.dropped (same.fault ▸ hf)

theorem agrees_dropped {s : Client × Process ω} (placed : S.Placed s) (hf : s.1.fault ≠ none) :
    S.Agrees s := by
  obtain ⟨fault, hf'⟩ := Option.ne_none_iff_exists'.mp hf
  simp [Agrees, placed.dropped hf, Client.inTransaction, hf']

theorem agrees_live {s : Client × Process ω} (live : s.1.Live) :
    S.Agrees s ↔ (s.1.txnOpen = true ↔ (S.own s).blocks ≠ []) := by
  simp [Agrees, Client.inTransaction, live.fault, live.open_]

theorem closing_keyword {k : Control} (hk : k ≠ .begin) :
    (k.keyword == "BEGIN") = false ∧ (k.keyword != "BEGIN") = true := by
  cases k with
  | begin => exact absurd rfl hk
  | commit | rollback => exact ⟨rfl, rfl⟩

theorem ending_not_begin {k : Control} {ending : Ending} (hk : k.ending = some ending) :
    k ≠ .begin := by
  rintro rfl
  cases hk

theorem accepted_agrees {k : Control} {c : Client} {p : Process ω} {r : Response} (live : c.Live)
    {session : Session} (serves : Serves H S.mayRefuse (some k) (.ok r) session (S.own (c, p))) :
    S.Agrees (controlled H k.keyword c (.returned r), p) := by
  have same := controlled_same (H := H) k.keyword c (.returned r)
  rw [agrees_live (same.live live), own_same same]
  generalize S.own (c, p) = after at serves
  cases serves with
  | began s b open_ ended r result read depth =>
    have flag : (controlled H "BEGIN" c (.returned r)).txnOpen = true := by
      simp [controlled, read, Client.withTxnOpen]
    simp [Control.keyword, flag]
  | closed k ending hk b rest ended r result read depth =>
    have flag : (controlled H k.keyword c (.returned r)).txnOpen = result.nestedDepth.isSome := by
      simp [controlled, read, Client.withTxnOpen, (closing_keyword (ending_not_begin hk)).1]
    rw [flag, depth]
    exact Session.closeDepth_isSome rest

theorem controlled_agrees {k : Control} {c : Client} {p : Process ω} {reply : Except Error Response}
    {o : Outcome Error Response} (yielded : Yielded reply o) (live : c.Live) {session : Session}
    (serves : Serves H S.mayRefuse (some k) reply session (S.own (c, p)))
    (flag : c.txnOpen = true ↔ session.blocks ≠ []) :
    S.Agrees (controlled H k.keyword c o, p) := by
  cases reply with
  | ok r =>
    cases yielded
    exact accepted_agrees live serves
  | error e =>
    obtain ⟨e', rfl, refused⟩ := yielded
    have same := controlled_same (H := H) k.keyword c (.failed e')
    rw [agrees_live (same.live live), own_same same]
    generalize S.own (c, p) = after at serves
    cases serves with
    | refusedBegin s may e => simpa [controlled, Control.keyword] using flag
    | refusedClose k hk s may e =>
      simp [controlled, (closing_keyword hk).2, refused, Client.withTxnOpen]

theorem request_agrees {call : Call} {c : Client} {p : Process ω} {op : Value} {txn : Option String}
    (hr : call.request? c = some (op, txn)) (placed : S.Placed (c, p)) (agrees : S.Agrees (c, p))
    (plain : S.Plain (c, p) call) (live : c.Live) {bytes : List UInt8}
    (fits : encode .request (H.body (some (c.envelope op txn))) = .ok bytes) :
    S.Placed (call.run H (c, p)).state ∧ S.Agrees (call.run H (c, p)).state := by
  have numbered : SameConnection c c.numbered := ⟨rfl, rfl, rfl⟩
  have flag : c.txnOpen = true ↔ (S.own (c, p)).blocks ≠ [] := (agrees_live live).mp agrees
  have closed_view : c.txnOpen = false → (S.own (c, p)).blocks = [] := fun h => by
    by_contra hb
    simp [flag.mpr hb] at h
  have requested := sendLoop_requested (c.envelope op txn) c.options.leaderRetries.toNat 0
    c.options.leaderRetryDelay (placed_kept numbered (Nat.le_refl p.opened) rfl placed) (numbered.live live) fits
    fun h => .inl (closed_view h)
  rw [run_request hr, sendIn_apply]
  generalize sendLoop H (c.envelope op txn) c.options.leaderRetries.toNat 0
    c.options.leaderRetryDelay (c.numbered, p) = r at requested
  cases requested with
  | lost e s es fault placed' =>
    have same := settle_same (H := H) call s.1 (.failed e)
    have placed'' := placed_kept same (Nat.le_refl s.2.opened) rfl placed'
    exact ⟨placed'', agrees_dropped placed'' fun h => fault (same.fault.symm.trans h)⟩
  | served o s es reply yielded live' placed' flag' session same' serves =>
    have same := settle_same (H := H) call s.1 o
    refine ⟨placed_kept same (Nat.le_refl s.2.opened) rfl placed', ?_⟩
    have view : s.1.txnOpen = true ↔ session.blocks ≠ [] := by
      rw [same', flag']
      exact flag
    cases hk : call.control? with
    | some k =>
      rw [control_request hk hr, Client.envelope, S.control_op] at serves
      change S.Agrees (call.settle H s.1 o, s.2)
      rw [settle_control hk]
      exact controlled_agrees yielded live' serves view
    | none =>
      rw [plain hk op txn hr] at serves
      generalize ho : S.own s = after at serves
      cases serves
      change S.Agrees (call.settle H s.1 o, s.2)
      rw [agrees_live (same.live live'), own_same same, ho, settle_plain hk]
      exact view
  | overflowed s es live' placed' flag' before after =>
    have same := settle_same (H := H) call s.1 .panicked
    refine ⟨placed_kept same (Nat.le_refl s.2.opened) rfl placed', ?_⟩
    have closed : c.numbered.txnOpen = false := by
      by_contra h
      exact flag.mp (eq_true_of_ne_false h) before
    have kept : (call.settle H s.1 .panicked).txnOpen = s.1.txnOpen := by
      cases call <;> rfl
    change S.Agrees (call.settle H s.1 .panicked, s.2)
    rw [agrees_live (same.live live'), own_same same, kept, flag']
    simpa [after] using closed

theorem agrees_kept {c c' : Client} {p p' : Process ω} (same : SameConnection c c')
    (flag : c'.txnOpen = c.txnOpen) (ho : p.opened ≤ p'.opened)
    (sessions : S.session p'.world = S.session p.world) (placed : S.Placed (c, p))
    (agrees : S.Agrees (c, p)) : S.Placed (c', p') ∧ S.Agrees (c', p') := by
  refine ⟨placed_kept same ho sessions placed, ?_⟩
  have view : c'.inTransaction = c.inTransaction := by
    simp [Client.inTransaction, flag, same.fault, same.closed]
  rw [Agrees, own_kept same sessions]
  exact view ▸ agrees

def agreeing (S : SessionServer H) : Path (Client × Process ω) Event where
  rel s _ s' := S.Placed s ∧ S.Agrees s → S.Placed s' ∧ S.Agrees s'
  refl _ := id
  trans h h' := h' ∘ h

theorem agreeing_kept {c : Client} {p : Process ω} {s : Client × Process ω} (h : S.Kept c p s)
    (es : List Event) : (agreeing S).rel (c, p) es s := by
  rintro ⟨placed, agrees⟩
  cases h with
  | same w sessions =>
    exact agrees_kept (p := p) ⟨rfl, rfl, rfl⟩ rfl (Nat.le_refl _) (funext sessions) placed agrees
  | dropped e w others =>
    have dropped := placed_dropped placed e others
    exact ⟨dropped, agrees_dropped dropped (by simp [Client.poisoned])⟩

theorem agreeing_exchange {tag : Tag} (ht : tag ≠ .request) (payload : Option Value) :
    (agreeing S).Respects (exchange H tag payload) := fun s =>
  agreeing_kept (exchange_kept ht payload s.1 s.2) _

theorem agreeing_poison (e : Error) : (agreeing S).Respects (poison H e) := fun s =>
  agreeing_kept (poison_kept e s.1 s.2) _

theorem request_large {call : Call} {c : Client} {p : Process ω} {op : Value} {txn : Option String}
    (hr : call.request? c = some (op, txn)) (live : c.Live) {e : Error}
    (large : encode .request (H.body (some (c.envelope op txn))) = .error e) :
    call.run H (c, p) = ⟨.failed e, (call.settle H c.numbered (.failed e), p), []⟩ := by
  rw [run_request hr, sendIn_stops (.large live e large)]
  rfl

theorem controlled_large {k : Control} {c : Client} {e : Error} (hk : k ≠ .begin)
    (refused : e.wasRefusedLocally = false) :
    (controlled H k.keyword c (.failed e)).txnOpen = false := by
  simp [controlled, (closing_keyword hk).2, refused, Client.withTxnOpen]

theorem run_agrees {call : Call} {s : Client × Process ω} (placed : S.Placed s)
    (agrees : S.Agrees s) (plain : S.Plain s call) (fits : ClosingFits H s call) :
    S.Placed (call.run H s).state ∧ S.Agrees (call.run H s).state := by
  rcases s with ⟨c, p⟩
  cases hf : call.frame? c with
  | none =>
    have idle := run_idles (H := H) hf p
    exact agrees_kept idle.same idle.txnOpen idle.path.1 (S.perSocket.quiet idle.path.2.1) placed agrees
  | some frame =>
    obtain ⟨tag, payload⟩ := frame
    rcases frame?_cases hf with ⟨rfl, -⟩ | ⟨id, rfl, -⟩ | ⟨op, txn, hr, ht, hp⟩
    · have path := respects_ping (agreeing_exchange (S := S) (by decide) none) agreeing_poison
      exact (path.bind fun _ => respects_pure _) (c, p) ⟨placed, agrees⟩
    · have path := respects_cancel (fun payload => agreeing_exchange (S := S) (by decide) payload)
        agreeing_poison id
      exact (respects_map _ path) (c, p) ⟨placed, agrees⟩
    · cases hd : c.fault with
      | some fault =>
        obtain ⟨c', run, same⟩ := run_stops (H := H) hf (.fault fault hd) p
        have placed' := placed_kept same (Nat.le_refl p.opened) rfl placed
        rw [run]
        exact ⟨placed', agrees_dropped placed' (by simp [same.fault, hd])⟩
      | none =>
        have live : c.Live := ⟨hd, placed.open_⟩
        cases he : encode .request (H.body (some (c.envelope op txn))) with
        | ok bytes => exact request_agrees hr placed agrees plain live he
        | error e =>
          rw [request_large hr live he]
          have same := (SameConnection.mk rfl rfl rfl : SameConnection c c.numbered).trans
            (settle_same (H := H) call c.numbered (.failed e))
          have kept (flag : (call.settle H c.numbered (.failed e)).txnOpen = c.txnOpen) :=
            agrees_kept same flag (Nat.le_refl p.opened) rfl placed agrees
          cases hk : call.control? with
          | none => exact kept (settle_plain hk _ _)
          | some k =>
            have refused := (encode_error he).2.wasRefusedLocally
            rw [settle_control hk] at kept ⊢
            cases hb : decide (k = .begin) with
            | true =>
              cases of_decide_eq_true hb
              exact kept rfl
            | false =>
              have closing := of_decide_eq_false hb
              refine kept ((controlled_large closing refused).trans ?_)
              -- An open transaction would have had its closing statement fit.
              by_contra isOpen
              have inTransaction : c.inTransaction = true := by
                simp [Client.inTransaction, live.fault, live.open_, eq_true_of_ne_false (Ne.symm isOpen)]
              obtain ⟨bytes, hb⟩ := fits k hk closing inTransaction tag payload hf
              rw [ht, hp, he] at hb
              cases hb

theorem begin_agrees {s : Client × Process ω} (placed : S.Placed s) (agrees : S.Agrees s) :
    S.Placed (Call.begin.run H s).state ∧ S.Agrees (Call.begin.run H s).state := by
  refine run_agrees placed agrees (fun hk => by cases hk) fun k hk closing => ?_
  cases hk
  exact absurd rfl closing

theorem closingFits_of_agrees {call : Call} {s : Client × Process ω} (placed : S.Placed s)
    (agrees : S.Agrees s) (after : S.Agrees (call.run H s).state) : ClosingFits H s call := by
  rcases s with ⟨c, p⟩
  intro k hk closing inTransaction tag payload hf
  rcases frame?_cases hf with ⟨rfl, -⟩ | ⟨id, rfl, -⟩ | ⟨op, txn, hr, rfl, rfl⟩
  · cases hk
  · cases hk
  · cases he : encode .request (H.body (some (c.envelope op txn))) with
    | ok bytes => exact ⟨bytes, rfl⟩
    | error e =>
      have live : c.Live := by
        refine ⟨?_, placed.open_⟩
        by_contra hf
        exact (agrees.mp inTransaction) (placed.dropped hf)
      rw [request_large hr live he, settle_control hk] at after
      have flag := controlled_large (H := H) (c := c.numbered) closing
        (encode_error he).2.wasRefusedLocally
      have same := (SameConnection.mk rfl rfl rfl : SameConnection c c.numbered).trans
        (controlled_same (H := H) k.keyword c.numbered (.failed e))
      have isOpen : (S.own (controlled H k.keyword c.numbered (.failed e), p)).blocks ≠ [] := by
        rw [own_same same]
        exact agrees.mp inTransaction
      have inTransaction' := after.mpr isOpen
      simp [Client.inTransaction, flag] at inTransaction'

end SessionServer

/-! ## Runs -/

theorem alongRun_iff {I : Client × Process ω → Prop}
    {ρ φ ψ : List Event → Client × Process ω → Call → Prop}
    (step : ∀ log s call, I s → ρ log s call →
      (φ log s call ↔ ψ log s call) ∧ (φ log s call → I (call.run H s).state))
    {log : List Event} {s : Client × Process ω} {work : Proc α} (h : I s)
    (along : AlongRun H ρ log s work) : AlongRun H φ log s work ↔ AlongRun H ψ log s work := by
  induction work generalizing log s with
  | done result => exact Iff.rfl
  | panic => exact Iff.rfl
  | look next ih => exact ih s.1 h along
  | call c next ih =>
    obtain ⟨same, keeps⟩ := step log s c h along.1
    constructor
    · rintro ⟨hφ, rest⟩
      exact ⟨same.mp hφ, (ih _ (keeps hφ) along.2).mp rest⟩
    · rintro ⟨hψ, rest⟩
      have hφ := same.mpr hψ
      exact ⟨hφ, (ih _ (keeps hφ) along.2).mpr rest⟩

/-- From connecting on, `in_transaction` is the server's view after every call,
exactly when no `commit` or `rollback` of an open transaction is too large to send. -/
theorem inTransaction_iff_open (S : SessionServer H) {options : Options} {p p' : Process ω}
    {c : Client} {es : List Event} (unused : S.Unused p)
    (run : connect H options p = ⟨.returned c, p', es⟩) (work : Proc α)
    (plain : AlongRun H (fun _ s call => S.Plain s call) es (c, p') work) :
    S.Agrees (c, p') ∧
      (AlongRun H (fun _ s call => S.Agrees (call.run H s).state) es (c, p') work ↔
        AlongRun H (fun _ s call => ClosingFits H s call) es (c, p') work) := by
  obtain ⟨placed, none_open, flag⟩ := (SessionServer.connect_placed run unused).2 c rfl
  have agrees : S.Agrees (c, p') := by
    simp [SessionServer.Agrees, Client.inTransaction, none_open, flag]
  refine ⟨agrees, alongRun_iff (I := fun s => S.Placed s ∧ S.Agrees s) ?_ ⟨placed, agrees⟩ plain⟩
  rintro log s call ⟨placed, agrees⟩ plain
  refine ⟨⟨fun after => SessionServer.closingFits_of_agrees placed agrees after,
    fun fits => (SessionServer.run_agrees placed agrees plain fits).2⟩, fun after => ?_⟩
  exact SessionServer.run_agrees placed agrees plain
    (SessionServer.closingFits_of_agrees placed agrees after)

end

theorem desk_unused : desk.Unused deskStart := fun _ _ => rfl

theorem inTransaction_iff_open_nested :
    ∃ p es, connect deskHost (Options.ofDatabase "main") deskStart =
        ⟨.returned (databaseClient "main"), p, es⟩ ∧
      (AlongRun deskHost (fun _ s call => desk.Agrees (call.run deskHost s).state) es
          (databaseClient "main", p) (Proc.ofCalls [.begin, .begin, .rollback, .commit]) ↔
        AlongRun deskHost (fun _ s call => ClosingFits deskHost s call) es
          (databaseClient "main", p) (Proc.ofCalls [.begin, .begin, .rollback, .commit])) := by
  obtain ⟨p, es, run⟩ := desk_connect "main"
  have plain : AlongRun deskHost (fun _ s call => desk.Plain s call) es (databaseClient "main", p)
      (Proc.ofCalls [.begin, .begin, .rollback, .commit]) := by
    simp [Proc.ofCalls, AlongRun, SessionServer.Plain, Call.control?]
  exact ⟨p, es, run, (inTransaction_iff_open desk desk_unused run _ plain).2⟩

/-! ## A closing statement that does not fit -/

/-- What follows the database in the text of an envelope. -/
def envelopeTail (F : FloatFormat) (op : Value) (requestId : String) : List Char :=
  membersText [("op", op.doc F), ("request_id", .str requestId)]

theorem envelope_text (F : FloatFormat) (requestId database : String) (op : Value) :
    (envelopeOf requestId database op []).toText F =
      '\x7b' :: ((quote "database" ++ ':' :: quote database) ++ envelopeTail F op requestId) := rfl

theorem quote_replicate (n : Nat) :
    ((quote (String.ofList (List.replicate n 'a'))).flatMap String.utf8EncodeChar).length =
      n + 2 := by
  have chars : ∀ n, (List.replicate n 'a').flatMap escapeChar = List.replicate n 'a' := by
    intro n
    induction n with
    | zero => rfl
    | succ n ih =>
      rw [List.replicate_succ, List.flatMap_cons, ih]
      rfl
  have bytes : ∀ n, ((List.replicate n 'a').flatMap String.utf8EncodeChar).length = n := by
    intro n
    induction n with
    | zero => rfl
    | succ n ih =>
      have one : (String.utf8EncodeChar 'a').length = 1 := by with_unfolding_all rfl
      rw [List.replicate_succ, List.flatMap_cons, List.length_append, ih, one, Nat.add_comm]
  have mark : (String.utf8EncodeChar '\x22').length = 1 := by with_unfolding_all rfl
  rw [quote, String.toList_ofList, chars]
  simp only [List.flatMap_cons, List.flatMap_append, List.length_append, bytes, mark,
    List.flatMap_nil, List.length_nil]
  omega

theorem envelope_length (F : FloatFormat) (requestId : String) (op : Value) (n : Nat) :
    ((envelopeOf requestId (String.ofList (List.replicate n 'a')) op []).toVec F).length =
      n + 14 + ((envelopeTail F op requestId).flatMap String.utf8EncodeChar).length := by
  have name : ((quote "database").flatMap String.utf8EncodeChar).length = 10 := by
    with_unfolding_all rfl
  have brace : (String.utf8EncodeChar '\x7b').length = 1 := by with_unfolding_all rfl
  have colon : (String.utf8EncodeChar ':').length = 1 := by with_unfolding_all rfl
  rw [Value.toVec, envelope_text]
  simp only [List.flatMap_cons, List.flatMap_append, List.length_append, name, quote_replicate]
  omega

/-- A database name with which `BEGIN` just fits in a frame and `COMMIT` does not. -/
def wideDatabase : String := String.ofList (List.replicate 16777139 'a')

theorem begin_fits : ∃ bytes, encode .request (deskHost.body (some
    ((databaseClient wideDatabase).envelope Control.begin.op none))) = .ok bytes := by
  have tail : ((envelopeTail scriptSerde.floats Control.begin.op "rs-100-1").flatMap
      String.utf8EncodeChar).length = 63 := by with_unfolding_all rfl
  have length := envelope_length scriptSerde.floats "rs-100-1" Control.begin.op 16777139
  rw [tail] at length
  refine ⟨_, if_neg ?_⟩
  exact Nat.not_lt.mpr (Nat.le_of_eq length)

theorem commit_large : ∃ e, encode .request (deskHost.body (some
    ((Client.withTxnOpen true (databaseClient wideDatabase).numbered).envelope Control.commit.op
      none))) = .error e := by
  have tail : ((envelopeTail scriptSerde.floats Control.commit.op "rs-100-2").flatMap
      String.utf8EncodeChar).length = 64 := by with_unfolding_all rfl
  have length := envelope_length scriptSerde.floats "rs-100-2" Control.commit.op 16777139
  rw [tail] at length
  refine ⟨_, if_pos ?_⟩
  exact Nat.lt_of_lt_of_eq (by decide) length.symm

theorem not_agrees_wide :
    ∃ p es, connect deskHost (Options.ofDatabase wideDatabase) deskStart =
        ⟨.returned (databaseClient wideDatabase), p, es⟩ ∧
      AlongRun deskHost (fun _ s call => desk.Plain s call) es (databaseClient wideDatabase, p)
        (Proc.ofCalls [.begin, .commit]) ∧
      ¬AlongRun deskHost (fun _ s call => desk.Agrees (call.run deskHost s).state) es
        (databaseClient wideDatabase, p) (Proc.ofCalls [.begin, .commit]) := by
  obtain ⟨p, es, run⟩ := desk_connect wideDatabase
  refine ⟨p, es, run, by simp [Proc.ofCalls, AlongRun, SessionServer.Plain, Call.control?], ?_⟩
  rintro ⟨begun, committed, -⟩
  obtain ⟨placed, none_open, -⟩ := (SessionServer.connect_placed run desk_unused).2 _ rfl
  have agrees : desk.Agrees (databaseClient wideDatabase, p) := by
    have flag : (databaseClient wideDatabase).txnOpen = false := rfl
    simp [SessionServer.Agrees, none_open, Client.inTransaction, flag]
  obtain ⟨bytes, fits⟩ := begin_fits
  obtain ⟨w, state⟩ := desk_begin (c := databaseClient wideDatabase) ⟨rfl, rfl⟩ rfl p none_open fits
  have placed' := (SessionServer.begin_agrees placed agrees).1
  rw [state] at begun placed' committed
  -- So COMMIT would fit, and it is one byte too long.
  have commit_fits := SessionServer.closingFits_of_agrees placed' begun committed
  obtain ⟨e, large⟩ := commit_large
  obtain ⟨bytes, fits⟩ := commit_fits .commit rfl (by decide) rfl .request _ rfl
  cases large.symm.trans fits

end TricoreSdk
