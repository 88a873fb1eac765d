import TricoreSdk.Footprint
import TricoreSdk.RequestCalls

/-! Session transactions as a server keeps them: each connection has a stack of
blocks, which `BEGIN` opens, `COMMIT` and `ROLLBACK` close one at a time, and the
loss of the connection ends. -/

namespace TricoreSdk
open Effects Path

inductive Control where
  | begin
  | commit
  | rollback
  deriving DecidableEq

def Control.keyword : Control → String
  | begin => "BEGIN"
  | commit => "COMMIT"
  | rollback => "ROLLBACK"

def Control.op (k : Control) : Value := sqlOp "Exec" (Value.ofFields [("sql", .string k.keyword)])

inductive Ending where
  | committed
  | rolledBack
  deriving DecidableEq

/-- How a control statement ends the block it closes. -/
def Control.ending : Control → Option Ending
  | begin => none
  | commit => some .committed
  | rollback => some .rolledBack

/-- The session transaction of one connection: the blocks that are open, innermost
first, and how those before them ended. The outermost one is the transaction. -/
structure Session where
  blocks : List Nat
  ended : List (Nat × Ending)

namespace Session

def new : Session := ⟨[], []⟩

/-- The transaction ends with everything in it. -/
def abandoned (s : Session) : Session := ⟨[], s.blocks.map (·, .rolledBack) ++ s.ended⟩

@[simp] theorem abandoned_blocks (s : Session) : s.abandoned.blocks = [] := rfl

/-- The depth a `BEGIN` reports: how many nested blocks are then open, if it nests. -/
def beginDepth (blocks : List Nat) : Option Int :=
  if blocks = [] then none else some blocks.length

/-- The depth a closing statement reports, if it closed a nested block. -/
def closeDepth (rest : List Nat) : Option Int :=
  if rest = [] then none else some (rest.length - 1)

theorem closeDepth_isSome (rest : List Nat) : (closeDepth rest).isSome = true ↔ rest ≠ [] := by
  unfold closeDepth
  split <;> simp_all

end Session

section

variable {ω α : Type}

/-- What answering a request does to a session. A refused `BEGIN` leaves it, any
other refused control statement ends the transaction. -/
inductive Serves (H : Host ω) (mayRefuse : Control → Session → Prop) :
    Option Control → Except Error Response → Session → Session → Prop
  | began (s : Session) (b : Nat) (open_ : b ∉ s.blocks) (ended : ∀ x ∈ s.ended, x.1 ≠ b)
    (r : Response) (result : TransactionResult) (read : decodeResult H r "BEGIN" = .ok result)
    (depth : result.nestedDepth = Session.beginDepth s.blocks) :
    Serves H mayRefuse (some .begin) (.ok r) s ⟨b :: s.blocks, s.ended⟩
  | closed (k : Control) (ending : Ending) (hk : k.ending = some ending) (b : Nat) (rest : List Nat)
    (ended : List (Nat × Ending)) (r : Response) (result : TransactionResult)
    (read : decodeResult H r k.keyword = .ok result)
    (depth : result.nestedDepth = Session.closeDepth rest) :
    Serves H mayRefuse (some k) (.ok r) ⟨b :: rest, ended⟩ ⟨rest, (b, ending) :: ended⟩
  | refusedBegin (s : Session) (may : mayRefuse .begin s) (e : Error) :
    Serves H mayRefuse (some .begin) (.error e) s s
  | refusedClose (k : Control) (hk : k ≠ .begin) (s : Session) (may : mayRefuse k s) (e : Error) :
    Serves H mayRefuse (some k) (.error e) s s.abandoned
  | other (reply : Except Error Response) (s : Session) : Serves H mayRefuse none reply s s

theorem Serves.none_open {H : Host ω} {mayRefuse : Control → Session → Prop} {k : Option Control}
    {e : Error} {s s' : Session} (h : Serves H mayRefuse k (.error e) s s')
    (none_open : s.blocks = []) : s'.blocks = [] := by
  cases h with
  | refusedBegin _ _ _ => exact none_open
  | refusedClose k hk _ may _ => rfl
  | other reply _ => exact none_open

/-- A server that keeps session transactions: which requests it takes for control
statements, which of those it may refuse, and what becomes of its sessions. -/
structure SessionServer (H : Host ω) where
  control : Value → Option Control
  mayRefuse : Control → Session → Prop
  session : ω → Socket → Session
  control_op : ∀ k requestId database options,
    control (envelopeOf requestId database (Control.op k) options) = some k
  perSocket : PerSocket H session
  shutdown : ∀ socket w, session (H.shutdown socket w) socket = (session w socket).abandoned
  frames : ∀ {t : Transport} {tag : Tag} {payload : Option Value} {w w' w'' : ω} {frame : Frame},
    tag ≠ .request → H.send t tag payload w = (.ok (), w') → H.recv t w' = (.ok frame, w'') →
      session w'' t.socket = session w t.socket
  serves : ∀ {t : Transport} {envelope : Value} {w w' w'' : ω} {frame : Frame}
    {reply : Except Error Response}, H.send t .request (some envelope) w = (.ok (), w') →
      H.recv t w' = (.ok frame, w'') → replyOf H frame = some reply →
        Serves H mayRefuse (control envelope) reply (session w t.socket) (session w'' t.socket)

namespace SessionServer

variable {H : Host ω} (S : SessionServer H)

def own (s : Client × Process ω) : Session := S.session s.2.world s.1.transport.socket

/-- Connections that were not opened yet have no transaction. -/
def Unused (p : Process ω) : Prop :=
  ∀ socket, p.opened ≤ socket → (S.session p.world socket).blocks = []

/-- A client on a connection of its process, which has no transaction once it was
dropped after a failure. -/
structure Placed (s : Client × Process ω) : Prop where
  unused : S.Unused s.2
  opened : s.1.transport.socket < s.2.opened
  open_ : s.1.closed = false
  dropped : s.1.fault ≠ none → (S.own s).blocks = []

/-- The client's view of its transaction is the server's. -/
def Agrees (s : Client × Process ω) : Prop :=
  s.1.inTransaction = true ↔ (S.own s).blocks ≠ []

variable {S}

theorem unused_of_quiet {p p' : Process ω} (h : S.Unused p) (ho : p.opened ≤ p'.opened)
    (quiet : Quiet H p.world p'.world) : S.Unused p' := by
  intro socket hs
  rw [S.perSocket.quiet quiet]
  exact h socket (Nat.le_trans ho hs)

theorem own_dropped (c : Client) (p : Process ω) (w : ω) :
    (S.session (H.dropped c p w).world c.transport.socket).blocks = [] :=
  congrArg Session.blocks (S.shutdown c.transport.socket w)

theorem unused_of_own {p : Process ω} {w : ω} {socket : Socket} (h : S.Unused p)
    (hs : socket < p.opened)
    (others : ∀ s, socket ≠ s → S.session w s = S.session p.world s) :
    S.Unused { p with world := w } := by
  intro s ho
  rw [others s (Nat.ne_of_lt (Nat.lt_of_lt_of_le hs ho))]
  exact h s ho

theorem others_dropped {c : Client} {p : Process ω} {w : ω} {s : Socket}
    (hs : c.transport.socket ≠ s) : S.session (H.dropped c p w).world s = S.session w s :=
  S.perSocket.shutdown hs w

theorem placed_dropped {c : Client} {p : Process ω} (placed : S.Placed (c, p)) (e : Error) {w : ω}
    (others : ∀ s, c.transport.socket ≠ s → S.session w s = S.session p.world s) :
    S.Placed (c.poisoned e, H.dropped c p w) where
  unused := unused_of_own placed.unused placed.opened fun s hs =>
    (others_dropped (c := c) (p := p) hs).trans (others s hs)
  opened := placed.opened
  open_ := placed.open_
  dropped _ := own_dropped c p w

theorem others_sent {t : Transport} {tag : Tag} {payload : Option Value} {w w' : ω}
    {x : Except WireError Unit} (hw : H.send t tag payload w = (x, w')) {s : Socket}
    (hs : t.socket ≠ s) : S.session w' s = S.session w s := by
  have := S.perSocket.send hs tag payload w
  rwa [hw] at this

theorem others_received {t : Transport} {w w' : ω} {x : Except WireError Frame}
    (hr : H.recv t w = (x, w')) {s : Socket} (hs : t.socket ≠ s) :
    S.session w' s = S.session w s := by
  have := S.perSocket.recv hs w
  rwa [hr] at this

/-! ## Steps that are no requests -/

variable (S) in
/-- What a frame that is no request leaves of the sessions: all of them, or the
connection was dropped. -/
inductive Kept (c : Client) (p : Process ω) : Client × Process ω → Prop
  | same (w : ω) (sessions : ∀ s, S.session w s = S.session p.world s) :
    Kept c p (c, { p with world := w })
  | dropped (e : Error) (w : ω)
    (others : ∀ s, c.transport.socket ≠ s → S.session w s = S.session p.world s) :
    Kept c p (c.poisoned e, H.dropped c p w)

theorem exchange_kept {tag : Tag} (ht : tag ≠ .request) (payload : Option Value) (c : Client)
    (p : Process ω) : S.Kept c p (exchange H tag payload (c, p)).state := by
  have hx := exchanged H tag payload c p
  generalize exchange H tag payload (c, p) = r at hx
  cases hx with
  | faulted _ _ | closed _ _ | tooLarge _ _ _ => exact .same p.world fun _ => rfl
  | writeFailed live bytes he e w hw =>
    exact .dropped e.val w fun s hs => others_sent hw hs
  | readFailed live bytes he e w w' hw hr =>
    exact .dropped e.val w' fun s hs => (others_received hr hs).trans (others_sent hw hs)
  | answered live bytes he frame w w' hw hr =>
    refine .same w' fun s => ?_
    by_cases hs : c.transport.socket = s
    · exact hs ▸ S.frames ht hw hr
    · exact (others_received hr hs).trans (others_sent hw hs)

theorem poison_kept (e : Error) (c : Client) (p : Process ω) :
    S.Kept c p (poison H e (c, p)).state := by
  cases hf : c.fault with
  | none =>
    rw [poison_live H hf]
    exact .dropped e p.world fun _ _ => rfl
  | some fault =>
    rw [poison_faulted H hf]
    exact .same p.world fun _ => rfl

variable (S) in
/-- The path of a connection that is set up, on which no transaction begins. -/
def settingUp : Path (Client × Process ω) Event where
  rel s _ s' := s'.1.transport = s.1.transport ∧ s.2.opened ≤ s'.2.opened ∧
    (s.1.transport.socket < s.2.opened → S.Unused s.2 →
      S.Unused s'.2 ∧ ((S.own s).blocks = [] → (S.own s').blocks = []))
  refl s := ⟨rfl, Nat.le_refl _, fun _ h => ⟨h, id⟩⟩
  trans := by
    rintro s s' s'' _ _ ⟨ht, ho, h⟩ ⟨ht', ho', h'⟩
    refine ⟨ht'.trans ht, Nat.le_trans ho ho', fun high unused => ?_⟩
    obtain ⟨unused', none_open⟩ := h high unused
    obtain ⟨unused'', none_open'⟩ := h' (ht ▸ Nat.lt_of_lt_of_le high ho) unused'
    exact ⟨unused'', none_open' ∘ none_open⟩

theorem settingUp_kept {c : Client} {p : Process ω} {s : Client × Process ω} (h : S.Kept c p s)
    (es : List Event) : (settingUp S).rel (c, p) es s := by
  cases h with
  | same w sessions =>
    refine ⟨rfl, Nat.le_refl _, fun high unused => ⟨fun s hs => ?_, fun none_open => ?_⟩⟩
    · rw [sessions]
      exact unused s hs
    · simpa [own, sessions] using none_open
  | dropped e w others =>
    refine ⟨rfl, Nat.le_refl _, fun high unused => ⟨?_, fun _ => own_dropped c p w⟩⟩
    exact unused_of_own unused high fun s hs =>
      (others_dropped (c := c) (p := p) hs).trans (others s hs)

theorem settingUp_opening {c : Client} {p p' : Process ω} {es : List Event}
    (path : (opening H (· = c.transport.socket)).rel p es p') :
    (settingUp S).rel (c, p) es (c, p') := by
  refine ⟨rfl, path.1, fun _ unused => ⟨unused_of_quiet unused path.1 path.2.1, ?_⟩⟩
  intro none_open
  rwa [own, S.perSocket.quiet path.2.1]

theorem settingUp_update {f : Client → Client} (ht : ∀ c, (f c).transport = c.transport) :
    (settingUp S).Respects (Method.update f : Method ω Unit) := fun s =>
  ⟨ht s.1, Nat.le_refl _, fun _ unused => ⟨unused, fun none_open => by
    rw [← none_open]
    exact congrArg (fun t : Transport => (S.session s.2.world t.socket).blocks) (ht s.1)⟩⟩

theorem settingUp_shutdown : (settingUp S).Respects (transportShutdown H) := fun s =>
  ⟨rfl, Nat.le_refl _, fun high unused =>
    ⟨unused_of_own unused high fun _ hs => others_dropped (c := s.1) (p := s.2) hs,
      fun _ => own_dropped s.1 s.2 s.2.world⟩⟩

theorem settingUp_goodbye : (settingUp S).Respects (goodbye H) := by
  rintro ⟨c, p⟩
  obtain ⟨es, -, run⟩ := goodbye_apply H c p
  rw [run]
  refine ⟨rfl, Nat.le_refl _, fun high unused => ⟨unused_of_own unused high fun s hs => ?_,
    fun _ => own_dropped c p _⟩⟩
  exact (others_dropped (c := c) (p := p) hs).trans
    ((S.perSocket.recv hs _).trans (S.perSocket.send hs _ _ _))

theorem setUpPath_settingUp : SetUpPath H (settingUp S) where
  hello payload := fun s => settingUp_kept (exchange_kept (by decide) payload s.1 s.2) _
  auth payload := fun s => settingUp_kept (exchange_kept (by decide) payload s.1 s.2) _
  poison e := fun s => settingUp_kept (poison_kept e s.1 s.2) _
  readTimeout t := fun s => settingUp_opening (readDeadline_own s.1.transport.socket t s.2)
  writeTimeout t := fun s => settingUp_opening (writeDeadline_own s.1.transport.socket t s.2)
  recordGrant features := fun s => ⟨rfl, Nat.le_refl _, fun _ unused => ⟨unused, id⟩⟩
  identified id := settingUp_update (f := Client.identified id) fun _ => rfl
  withReadTimeout t := settingUp_update (f := Client.withReadTimeout t) fun _ => rfl
  closeInner := respects_closeInner
    (fun t s => settingUp_opening (readDeadline_own s.1.transport.socket t s.2))
    (fun t s => settingUp_opening (writeDeadline_own s.1.transport.socket t s.2))
    (settingUp_update (f := Client.closing) fun _ => rfl) settingUp_shutdown settingUp_goodbye

theorem connect_placed {options : Options} {p : Process ω}
    {r : Execution (Process ω) Error Event Client} (run : connect H options p = r)
    (unused : S.Unused p) :
    S.Unused r.state ∧ ∀ fresh, r.outcome = .returned fresh →
      S.Placed (fresh, r.state) ∧ (S.own (fresh, r.state)).blocks = [] ∧ fresh.txnOpen = false := by
  have hc := connected (H := H) (setUpPath_settingUp (S := S)) options p
  rw [run] at hc
  have opens {p₁ : Process ω} {es : List Event}
      (path : (opening H (p.opened ≤ ·)).rel p es p₁) : S.Unused p₁ :=
    unused_of_quiet unused path.1 path.2.1
  cases hc with
  | gaveUp e p' es path => exact ⟨opens path, fun f hf => by cases hf⟩
  | refused e t pre p₁ p' es es' c path low high rel =>
    exact ⟨(rel.2.2 high (opens path)).1, fun f hf => by cases hf⟩
  | shookHands t pre p₁ p' es es' fresh path low high rel shaken =>
    obtain ⟨unused', none_open⟩ := rel.2.2 high (opens path)
    have new : (S.own (newClient t pre options, p₁)).blocks = [] := by
      rw [own, S.perSocket.quiet path.2.1]
      exact unused _ low
    refine ⟨unused', ?_⟩
    rintro f ⟨⟩
    obtain ⟨_, _, _, rfl⟩ := shaken
    exact ⟨⟨unused', Nat.lt_of_lt_of_le high rel.2.1, rfl, fun hf => absurd rfl hf⟩,
      none_open new, rfl⟩

/-! ## Following a hint -/

variable (S) in
/-- The path along which a client with no transaction may change connections. -/
def hinted : Path (Client × Process ω) Event where
  rel s _ s' := S.Placed s → s.1.Live → (S.own s).blocks = [] →
    S.Placed s' ∧ s'.1.Live ∧ (S.own s').blocks = [] ∧ s'.1.txnOpen = s.1.txnOpen
  refl s := fun placed live none_open => ⟨placed, live, none_open, rfl⟩
  trans h h' := fun placed live none_open => by
    obtain ⟨placed', live', none_open', flag⟩ := h placed live none_open
    obtain ⟨placed'', live'', none_open'', flag'⟩ := h' placed' live' none_open'
    exact ⟨placed'', live'', none_open'', flag'.trans flag⟩

theorem placed_stayed {c : Client} {p p' : Process ω} {options : Options} {e : Error}
    {es : List Event} (placed : S.Placed (c, p)) (run : connect H options p = ⟨.failed e, p', es⟩) :
    S.Placed (c, p') := by
  obtain ⟨ho, same⟩ := connect_sparing S.perSocket c.transport.socket _ p run
  have own_same : S.own (c, p') = S.own (c, p) := (same placed.opened).2
  refine ⟨(connect_placed run placed.unused).1, Nat.lt_of_lt_of_le placed.opened ho,
    placed.open_, fun hf => ?_⟩
  rw [own_same]
  exact placed.dropped hf

theorem placed_moved (address : String) {c fresh : Client} {p p' : Process ω} {options : Options}
    {es : List Event} (placed : S.Placed (c, p))
    (run : connect H options p = ⟨.returned fresh, p', es⟩) :
    S.Placed (Client.adopting fresh address c, H.dropped c p' p'.world) ∧
      (S.own (Client.adopting fresh address c, H.dropped c p' p'.world)).blocks = [] := by
  obtain ⟨unused, fresh_placed⟩ := connect_placed run placed.unused
  obtain ⟨-, new, -⟩ := fresh_placed fresh rfl
  obtain ⟨low, high⟩ := connect_socket run
  have other : c.transport.socket ≠ fresh.transport.socket :=
    Nat.ne_of_lt (Nat.lt_of_lt_of_le placed.opened low)
  have own_new :
      (S.own (Client.adopting fresh address c, H.dropped c p' p'.world)).blocks = [] := by
    refine Eq.trans (congrArg Session.blocks ?_) new
    exact others_dropped (c := c) (p := p') other
  have ho := (connect_sparing S.perSocket 0 _ p run).1
  refine ⟨⟨?_, high, placed.open_, fun _ => own_new⟩, own_new⟩
  exact unused_of_own unused (Nat.lt_of_lt_of_le placed.opened ho) fun s hs =>
    others_dropped (c := c) (p := p') hs

theorem hinted_moveTo (address : String) : (hinted S).Respects (moveTo H address) := by
  rintro ⟨c, p⟩ placed live none_open
  have hm := moving (H := H) address c p
  generalize moveTo H address (c, p) = r at hm
  cases hm with
  | unreadable _ => exact ⟨placed, live, none_open, rfl⟩
  | stayed host port _ e p' es run =>
    have own_same : S.own (c, p') = S.own (c, p) :=
      ((connect_sparing S.perSocket c.transport.socket _ p run).2 placed.opened).2
    exact ⟨placed_stayed placed run, live, own_same ▸ none_open, rfl⟩
  | moved host port _ fresh p' es run =>
    obtain ⟨placed', own_new⟩ := placed_moved address placed run
    exact ⟨placed', ⟨live.fault, live.open_⟩, own_new, rfl⟩

/-! ## Requests -/

/-- The reply to a request, as the loop returns it. -/
def Yielded (reply : Except Error Response) (o : Outcome Error Response) : Prop :=
  match reply with
  | .ok r => o = .returned r
  | .error _ => ∃ e, o = .failed e ∧ e.wasRefusedLocally = false

variable (S) in
/-- What a request comes to: the connection is dropped, or a server with this
transaction serves it, or the pauses between attempts overflow. -/
inductive Requested (k : Option Control) (s : Client × Process ω) :
    Execution (Client × Process ω) Error Event Response → Prop
  | lost (e : Error) (s' : Client × Process ω) (es : List Event) (fault : s'.1.fault ≠ none)
    (placed : S.Placed s') : Requested k s ⟨.failed e, s', es⟩
  | served (o : Outcome Error Response) (s' : Client × Process ω) (es : List Event)
    (reply : Except Error Response) (yielded : Yielded reply o) (live : s'.1.Live)
    (placed : S.Placed s') (flag : s'.1.txnOpen = s.1.txnOpen) (session : Session)
    (same : session.blocks = (S.own s).blocks)
    (serves : Serves H S.mayRefuse k reply session (S.own s')) : Requested k s ⟨o, s', es⟩
  | overflowed (s' : Client × Process ω) (es : List Event) (live : s'.1.Live)
    (placed : S.Placed s') (flag : s'.1.txnOpen = s.1.txnOpen) (before : (S.own s).blocks = [])
    (after : (S.own s').blocks = []) : Requested k s ⟨.panicked, s', es⟩

theorem Requested.after {k : Option Control} {s s₁ : Client × Process ω}
    {r : Execution (Client × Process ω) Error Event Response} (h : S.Requested k s₁ r)
    (same : (S.own s₁).blocks = (S.own s).blocks) (flag : s₁.1.txnOpen = s.1.txnOpen)
    (before : List Event) : S.Requested k s (r.after before) := by
  cases h with
  | lost e s' es fault placed => exact .lost e s' _ fault placed
  | served o s' es reply yielded live placed flag' session same' serves =>
    exact .served o s' _ reply yielded live placed (flag'.trans flag) session (same'.trans same) serves
  | overflowed s' es live placed flag' start ends =>
    exact .overflowed s' _ live placed (flag'.trans flag) (same ▸ start) ends

theorem sendOnce_requested (envelope : Value) {c : Client} {p : Process ω} (placed : S.Placed (c, p))
    (live : c.Live) {bytes : List UInt8}
    (fits : encode .request (H.body (some envelope)) = .ok bytes) :
    S.Requested (S.control envelope) (c, p) (sendOnce H envelope (c, p)) := by
  have hs := sentOnce H envelope c p
  generalize sendOnce H envelope (c, p) = r at hs
  cases hs with
  | dead e he =>
    rcases he with ⟨fault, hf, -⟩ | ⟨-, hc, -⟩
    · exact absurd (live.fault.symm.trans hf) (by simp)
    · exact absurd (live.open_.symm.trans hc) (by simp)
  | tooLarge _ e he => exact absurd (fits.symm.trans he) (by simp)
  | broken _ bytes he e w hw =>
    refine .lost e.val _ _ (by simp [Client.poisoned]) (placed_dropped placed e.val fun s hs => ?_)
    rcases hw with hw | ⟨v, hw, hr⟩
    · exact others_sent hw hs
    · exact (others_received hr hs).trans (others_sent hw hs)
  | misanswered _ bytes he frame w w' hw hr hf e hk =>
    exact .lost e _ _ (by simp [Client.poisoned]) (placed_dropped placed e fun s hs =>
      (others_received hr hs).trans (others_sent hw hs))
  | replied _ bytes he frame w w' hw hr reply hf =>
    refine .served _ (c, { p with world := w' }) _ reply ?_ live ⟨?_, placed.opened, placed.open_,
      fun hf => absurd live.fault hf⟩ rfl (S.own (c, p)) rfl (S.serves hw hr hf)
    · cases reply with
      | ok r => rfl
      | error e => exact ⟨e, rfl, replyOf_refused hf⟩
    · exact unused_of_own placed.unused placed.opened fun s hs =>
        (others_received hr hs).trans (others_sent hw hs)

/-- The loop follows a hint only while no transaction is open, so what a server
makes of the request is what it makes of it on a connection like the first. -/
theorem sendLoop_requested (envelope : Value) (left retried : Nat) (pause : Duration) {c : Client}
    {p : Process ω} (placed : S.Placed (c, p)) (live : c.Live) {bytes : List UInt8}
    (fits : encode .request (H.body (some envelope)) = .ok bytes)
    (stays : c.txnOpen = false → (S.own (c, p)).blocks = [] ∨
      ∀ e session after, session.blocks = (S.own (c, p)).blocks →
        ¬Serves H S.mayRefuse (S.control envelope) (.error e) session after) :
    S.Requested (S.control envelope) (c, p)
      (sendLoop H envelope left retried pause (c, p)) := by
  induction left using Nat.strong_induction_on generalizing retried pause c p with
  | _ left ih =>
    have hround := sendLoop_round (H := H) envelope left retried pause c p
    have once := sendOnce_requested envelope placed live fits
    generalize sendLoop H envelope left retried pause (c, p) = x at hround ⊢
    cases hround with
    | last o o' s es run ends =>
      rw [run] at once
      cases ends with
      | kept _ _ => exact once
      | gaveUp e he =>
        obtain ⟨frame, w, reply, rfl, rfl⟩ := sendOnce_redirected run he
        cases once with
        | lost _ _ _ fault _ => exact absurd live.fault fault
        | served _ _ _ reply' yielded live' placed' flag session same serves =>
          refine .served _ _ _ reply' ?_ live' placed' flag session same serves
          cases reply' with
          | ok r => cases yielded
          | error e' => exact ⟨_, rfl, retriedError_refused (replyOf_refused reply) retried⟩
    | again left' hl follow txn e redirect frame w reply run moved s fs hint =>
      subst hl
      rw [run] at once
      cases once with
      | lost _ _ _ fault _ => exact absurd live.fault fault
      | served _ _ _ reply' yielded live' placed' flag session same serves =>
        cases reply' with
        | ok r => cases yielded
        | error e' =>
          have none_open : (S.own (c, p)).blocks = [] := by
            rcases stays txn with none_open | never
            · exact none_open
            · exact absurd serves (never e' session _ same)
          have still : (S.own (c, { p with world := w })).blocks = [] :=
            serves.none_open (same.trans none_open)
          have path := respects_followHint (P := hinted S) hinted_moveTo e.leaderHint
            (c, { p with world := w })
          rw [hint] at path
          obtain ⟨placed₁, live₁, none_open₁, flag₁⟩ := path placed' live still
          have rest (pause : Duration) := ih left' (Nat.lt_succ_self _) (retried + 1) pause placed₁
            live₁ fun _ => .inl none_open₁
          have same₁ := none_open₁.trans none_open.symm
          suffices again : S.Requested (S.control envelope) s
              (sendAgain H envelope left' retried pause moved s) from again.after same₁ flag₁ _
          unfold sendAgain
          cases moved with
          | true => exact rest pause
          | false =>
            cases hp : nextPause pause with
            | none => exact .overflowed s _ live₁ placed₁ rfl none_open₁ none_open₁
            | some next => exact (rest next).after rfl rfl _

end SessionServer

end

end TricoreSdk
