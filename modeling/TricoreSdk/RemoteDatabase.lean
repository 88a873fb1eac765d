import TricoreSdk.Backdrop
import TricoreSdk.Lib.Remote
import TricoreSdk.Requests
import TricoreSdk.TypedCalls

/-! The database behind the wire. A server that reads requests as they were written holds a database
which each of them is done at, once; closures over the typed methods then are programs at that
database. -/

namespace TricoreSdk
open Effects Path
open Remote (Site Drifts Called Faults)

/-- What an errand is answered: the answer of its operation, or that it is refused. -/
abbrev Answered (q : Errand) : Type := Except Error q.request.of.Answer

/-- A database: what each operation may answer and change, and what other clients may change. -/
abbrev Database (σ : Type) := Remote.Object Errand Answered σ

section

variable {ω σ α β : Type} {H : Host ω} {ops : List AnyOperation}

/-- What a server does at a request, by the reply it gives. One that is sent elsewhere is done
nowhere, and a reply that is none leaves the request open. -/
inductive Treated (D : Database σ) (q : Errand) :
    Option (Except Error Response) → Site Errand σ → Site Errand σ → Prop
  | answered {w w' : Site Errand σ} {s s' : σ} {adrift : List Errand} {r : Response}
    {answer : q.request.of.Answer} (before : Drifts D w ⟨s, adrift⟩) (done : D.does q s (.ok answer) s')
    (after : Drifts D ⟨s', adrift⟩ w')
    (said : q.request.of.operation.means q.request.args r.kind r.data answer) :
    Treated D q (some (.ok r)) w w'
  | refused {w w' : Site Errand σ} {s s' : σ} {adrift : List Errand} {e : Error}
    (here : e.isRedirect = false) (before : Drifts D w ⟨s, adrift⟩) (done : D.does q s (.error e) s')
    (after : Drifts D ⟨s', adrift⟩ w') : Treated D q (some (.error e)) w w'
  | redirected {w w' : Site Errand σ} {e : Error} (elsewhere : e.isRedirect = true)
    (drifts : Drifts D w w') : Treated D q (some (.error e)) w w'
  | garbled {w w' : Site Errand σ} (drifts : Drifts D ⟨w.state, q :: w.adrift⟩ w') :
    Treated D q none w w'

/-- A server, or a cluster of them, with a database. Only requests do anything to it for their
caller. One that gets no reply is left adrift. -/
structure DatabaseServer (H : Host ω) (ops : List AnyOperation) (σ : Type) where
  database : Database σ
  site : ω → Site Errand σ
  distinct : (ops.map AnyOperation.tag).Nodup
  quiet : ∀ {w w'}, Quiet H w w' → Drifts database (site w) (site w')
  shutdown : ∀ socket w, Drifts database (site w) (site (H.shutdown socket w))
  sends : ∀ {tag}, tag ≠ .request → ∀ t payload w,
    Drifts database (site w) (site (H.send t tag payload w).2)
  receives : ∀ {tag}, tag ≠ .request → ∀ t payload w,
    Drifts database (site (H.send t tag payload w).2) (site (H.recv t (H.send t tag payload w).2).2)
  unsent : ∀ {t envelope w w' e q}, readEnvelope ops envelope = some q →
    H.send t .request (some envelope) w = (.error e, w') →
      Drifts database ⟨(site w).state, q.toErrand :: (site w).adrift⟩ (site w')
  unanswered : ∀ {t envelope w w₁ w' e q}, readEnvelope ops envelope = some q →
    H.send t .request (some envelope) w = (.ok (), w₁) → H.recv t w₁ = (.error e, w') →
      Drifts database ⟨(site w).state, q.toErrand :: (site w).adrift⟩ (site w')
  treats : ∀ {t envelope w w₁ w' frame q}, readEnvelope ops envelope = some q →
    H.send t .request (some envelope) w = (.ok (), w₁) → H.recv t w₁ = (.ok frame, w') →
      Treated database q.toErrand (replyOf H frame) (site w) (site w')

def Client.up (c : Client) : Bool := c.fault.isNone && !c.closed

theorem Client.up_iff {c : Client} : c.up = true ↔ c.Live := by
  refine ⟨fun h => ?_, fun live => ?_⟩
  · have both := Bool.and_eq_true_iff.mp h
    exact ⟨Option.isNone_iff_eq_none.mp both.1, by simpa using both.2⟩
  · simp [up, live.fault, live.open_]

theorem DatabaseServer.backdrop (S : DatabaseServer H ops σ) :
    Backdrop H fun w w' => Drifts S.database (S.site w) (S.site w') where
  refl _ := .refl
  trans := .trans
  quiet := S.quiet
  shutdown := S.shutdown
  sends := S.sends
  receives := S.receives

theorem moveTo_up (address : String) : (keeping Client.up).Respects (moveTo H address) := by
  rintro ⟨c, p⟩
  have hm := moving (H := H) address c p
  generalize moveTo H address (c, p) = r at hm ⊢
  cases hm <;> rfl

/-! ## One call -/

/-- The failures that tell a request was not done: no server would take it, it was too large to be
sent, or the pauses between its attempts overflowed. -/
inductive Spared : Option Error → Prop
  | redirected (refusal : Error) (elsewhere : refusal.isRedirect = true) (retried : Nat) :
    Spared (some (retriedError refusal retried))
  | tooLarge {payload : List UInt8} {e : Error} (unfit : encode .request payload = .error e) :
    Spared (some e)
  | overflowed : Spared none

/-- What a failed call tells of its request; `none` is a panic. -/
def faults : Faults Errand (Option Error) where
  spared _ := Spared
  doubtful fault := ∃ e, fault = some e ∧ e.OnWire
  dead fault := ∃ e, fault = some e ∧ e.kind = .closed

/-- What a client is told of a request that came out like this. -/
inductive Tells (q : Errand) : Option Error ⊕ Answered q → Outcome Error Response → Prop
  | overflowed : Tells q (.inl none) .panicked
  | failed (e : Error) : Tells q (.inl (some e)) (.failed e)
  | refused (e : Error) : Tells q (.inr (.error e)) (.failed e)
  | answered {r : Response} {answer : q.request.of.Answer}
    (said : q.request.of.operation.means q.request.args r.kind r.data answer) :
    Tells q (.inr (.ok answer)) (.returned r)

variable (S : DatabaseServer H ops σ)

/-- A request that came out as a call at the database can. -/
def Comes (q : Errand) (x : Bool × Site Errand σ)
    (r : Execution (Client × Process ω) Error Event Response) : Prop :=
  ∃ told answers adrift,
    Called S.database faults q x told answers adrift (r.state.1.up, S.site r.state.2.world) ∧
      Tells q told r.outcome

/-- An attempt at a request: it comes out, or it was sent elsewhere. -/
inductive Attempted (q : Errand) (c : Client) (p : Process ω) :
    Execution (Client × Process ω) Error Event Response → Prop
  | comes {r : Execution (Client × Process ω) Error Event Response}
    (comes : Comes S q (true, S.site p.world) r)
    (here : ∀ e, r.outcome = .failed e → e.isRedirect = false) : Attempted q c p r
  | redirected (e : Error) (elsewhere : e.isRedirect = true) (w : ω)
    (drifts : Drifts S.database (S.site p.world) (S.site w)) (es : List Event) :
    Attempted q c p ⟨.failed e, (c, { p with world := w }), es⟩

variable {S}

theorem Comes.after {q : Errand} {x : Bool × Site Errand σ}
    {r : Execution (Client × Process ω) Error Event Response} (h : Comes S q x r)
    (before : List Event) : Comes S q x (r.after before) := h

theorem Comes.before {q : Errand} {w w₁ : Site Errand σ}
    {r : Execution (Client × Process ω) Error Event Response} (drifts : Drifts S.database w w₁)
    (h : Comes S q (true, w₁) r) : Comes S q (true, w) r := by
  obtain ⟨told, answers, adrift, called, tells⟩ := h
  exact ⟨told, answers, adrift, called.before drifts, tells⟩

theorem comes_parted {q : Errand} {c : Client} {p : Process ω} {w : ω} {e : Error} (wire : e.OnWire)
    (drifts : Drifts S.database ⟨(S.site p.world).state, q :: (S.site p.world).adrift⟩ (S.site w))
    (es : List Event) :
    Comes S q (true, S.site p.world) ⟨.failed e, (c.poisoned e, H.dropped c p w), es⟩ :=
  ⟨_, _, _, .parted ⟨e, rfl, wire⟩ (drifts.trans (S.shutdown c.transport.socket w)), .failed e⟩

theorem comes_done {q : Errand} {c : Client} (live : c.Live) {p : Process ω} {w : ω} {s s' : σ}
    {adrift : List Errand} {x : Answered q} (before : Drifts S.database (S.site p.world) ⟨s, adrift⟩)
    (done : S.database.does q s x s') (after : Drifts S.database ⟨s', adrift⟩ (S.site w))
    {o : Outcome Error Response} (tells : Tells q (.inr x) o) (es : List Event) :
    Comes S q (true, S.site p.world) ⟨o, (c, { p with world := w }), es⟩ := by
  refine ⟨.inr x, [⟨q, x⟩], [], ?_, tells⟩
  rw [Client.up_iff.mpr live]
  exact .answered before done after

theorem comes_spared {q : Errand} {s : Client × Process ω} (up : s.1.up = true) {w : Site Errand σ}
    (drifts : Drifts S.database w (S.site s.2.world)) {fault : Option Error} (told : Spared fault)
    {o : Outcome Error Response} (tells : Tells q (.inl fault) o) (es : List Event) :
    Comes S q (true, w) ⟨o, s, es⟩ := by
  refine ⟨.inl fault, [], [], ?_, tells⟩
  rw [up]
  exact .spared told drifts

theorem sendOnce_attempted {envelope : Value} {q : Envelope}
    (reads : readEnvelope ops envelope = some q) {c : Client} (live : c.Live) (p : Process ω) :
    Attempted S q.toErrand c p (sendOnce H envelope (c, p)) := by
  have hs := sentOnce H envelope c p
  generalize sendOnce H envelope (c, p) = r at hs ⊢
  cases hs with
  | dead e he =>
    rcases he with ⟨fault, hf, -⟩ | ⟨-, hc, -⟩
    · exact absurd (live.fault.symm.trans hf) nofun
    · exact absurd (live.open_.symm.trans hc) nofun
  | tooLarge _ e he =>
    have unsent : Comes S q.toErrand (true, S.site p.world) ⟨.failed e, (c, p), []⟩ :=
      comes_spared (s := (c, p)) (Client.up_iff.mpr live) .refl (.tooLarge he) (.failed e) []
    refine .comes unsent ?_
    rintro _ ⟨⟩
    exact (encode_error he).2.isRedirect
  | broken _ bytes he e w hw =>
    refine .comes (comes_parted e.property ?_ _) ?_
    · rcases hw with hw | ⟨v, hw, hr⟩
      · exact S.unsent reads hw
      · exact S.unanswered reads hw hr
    · rintro _ ⟨⟩
      exact e.property.isRedirect
  | misanswered _ bytes he frame w w' hw hr hf e hk =>
    have treated := S.treats reads hw hr
    have wire : e.OnWire := hk ▸ Error.onWire_protocol _
    rw [hf] at treated
    cases treated with
    | garbled drifts =>
      refine .comes (comes_parted wire drifts _) ?_
      rintro _ ⟨⟩
      exact wire.isRedirect
  | replied _ bytes he frame w w' hw hr reply hf =>
    have treated := S.treats reads hw hr
    rw [hf] at treated
    cases treated with
    | answered before done after said =>
      exact .comes (comes_done live before done after (.answered said) _) nofun
    | refused here before done after =>
      refine .comes (comes_done live before done after (.refused _) _) ?_
      rintro _ ⟨⟩
      exact here
    | redirected elsewhere drifts => exact .redirected _ elsewhere w' drifts _

theorem sendLoop_comes {envelope : Value} {q : Envelope}
    (reads : readEnvelope ops envelope = some q) (left retried : Nat) (pause : Duration) {c : Client}
    (live : c.Live) (p : Process ω) :
    Comes S q.toErrand (true, S.site p.world) (sendLoop H envelope left retried pause (c, p)) := by
  induction left using Nat.strong_induction_on generalizing retried pause c p with
  | _ left ih =>
    have hround := sendLoop_round (H := H) envelope left retried pause c p
    have once := sendOnce_attempted (S := S) reads live p
    generalize sendLoop H envelope left retried pause (c, p) = x at hround ⊢
    cases hround with
    | last o o' s es run ends =>
      rw [run] at once
      cases ends with
      | kept _ other =>
        cases once with
        | comes comes here => exact comes
        | redirected e elsewhere w drifts _ => exact absurd elsewhere (by simp [other e rfl])
      | gaveUp e elsewhere =>
        cases once with
        | comes comes here => exact absurd elsewhere (by simp [here e rfl])
        | redirected _ _ w drifts _ =>
          exact comes_spared (Client.up_iff.mpr live) drifts (.redirected e elsewhere retried)
            (.failed _) _
    | again left' hl follow txn e elsewhere frame w reply run moved s fs hint =>
      subst hl
      rw [run] at once
      have drifts : Drifts S.database (S.site p.world) (S.site w) := by
        cases once with
        | comes comes here => exact absurd elsewhere (by simp [here e rfl])
        | redirected _ _ _ drifts _ => exact drifts
      have led := respects_followHint S.backdrop.moveTo e.leaderHint (c, { p with world := w })
      have still := respects_followHint (moveTo_up (H := H)) e.leaderHint (c, { p with world := w })
      rw [hint] at led still
      have up : s.1.up = true := still.trans (Client.up_iff.mpr live)
      have rest (pause : Duration) := ih left' (Nat.lt_succ_self _) (retried + 1) pause
        (Client.up_iff.mp up) s.2
      suffices again : Comes S q.toErrand (true, S.site s.2.world)
          (sendAgain H envelope left' retried pause moved s) from again.before (drifts.trans led.1)
      unfold sendAgain
      cases moved with
      | true => exact rest pause
      | false =>
        cases hp : nextPause pause with
        | none => exact comes_spared up .refl .overflowed .overflowed _
        | some next => exact (rest next).after _

/-! ## Closures as programs -/

def Stub.told (m : Stub α) : Option Error ⊕ Except Error m.Answer → Outcome Error α
  | .inl none => .panicked
  | .inl (some e) => .failed e
  | .inr (.error e) => .failed e
  | .inr (.ok answer) => .ofExcept (m.result answer)

/-- The transaction the client names after a request. -/
def Scope.leaves (txn : Option String) : Scope → Option Error ⊕ β → Option String
  | .ending _, .inl none => txn
  | .ending own, _ => if txn = some own then none else txn
  | _, _ => txn

/-- A closure as a program at the database, while `txn` is the transaction that is named. -/
def TypedProc.program (database : String) :
    Option String → TypedProc β → Remote.Prog Answered (Option Error) (Outcome Error β)
  | _, .done result => .done (.ofExcept result)
  | _, .panic => .done .panicked
  | _, .setRequestTxn txn next => next.program database (txn.filter fun t => !t.isEmpty)
  | txn, .ask scope m next =>
    match m.args with
    | .error e => (next (.failed e)).program database txn
    | .ok a =>
      .call ⟨database, scope.names txn, ⟨⟨m.operation⟩, a⟩⟩ fun x =>
        (next (m.told x)).program database (scope.leaves txn x)

theorem sendIn_down {c : Client} (down : c.up = false) (op : Value) (txn : Option String)
    (p : Process ω) :
    ∃ e, e.kind = .closed ∧ sendIn H op txn (c, p) = ⟨.failed e, (c.numbered, p), []⟩ := by
  have hs := sentOnce H (c.envelope op txn) c.numbered p
  have dead : ¬c.numbered.Live := fun live => by
    have up : c.up = true := Client.up_iff.mpr ⟨live.fault, live.open_⟩
    rw [down] at up
    cases up
  rcases run : sendOnce H (c.envelope op txn) (c.numbered, p) with ⟨o, s, es⟩
  rw [run] at hs
  rw [sendIn_apply]
  cases hs with
  | dead e he =>
    rcases he with ⟨fault, -, rfl⟩ | ⟨-, -, rfl⟩
    · exact ⟨_, rfl, sendLoop_failed rfl run⟩
    · exact ⟨_, rfl, sendLoop_failed rfl run⟩
  | tooLarge live | broken live | misanswered live | replied live => exact absurd live dead

variable (S) in
theorem sendIn_comes {o : AnyOperation} (among : o ∈ ops) (a : o.Args) (txn : Option String)
    (c : Client) (p : Process ω) :
    Comes S (c.errand txn ⟨o, a⟩) (c.up, S.site p.world) (sendIn H (o.operation.value a) txn (c, p)) := by
  cases up : c.up with
  | true =>
    have live : c.numbered.Live :=
      ⟨(Client.up_iff.mp up).fault, (Client.up_iff.mp up).open_⟩
    rw [sendIn_apply]
    exact sendLoop_comes (readEnvelope_envelope S.distinct among a c txn) _ _ _ live p
  | false =>
    obtain ⟨e, closed, run⟩ := sendIn_down (H := H) up (o.operation.value a) txn p
    rw [run]
    refine ⟨.inl (some e), [], [], ?_, .failed e⟩
    rw [show c.numbered.up = false from up]
    exact .gone (S.site p.world) ⟨e, rfl, closed⟩

theorem sendIn_keeps (op : Value) (txn : Option String) (s : Client × Process ω) :
    (sendIn H op txn s).state.1.database = s.1.database ∧
      (sendIn H op txn s).state.1.requestTxn = s.1.requestTxn := by
  obtain ⟨c, p⟩ := s
  have intrinsic : Intrinsic fun c => (c.database, c.requestTxn) :=
    ⟨fun _ _ => rfl, fun _ _ _ => rfl⟩
  rw [sendIn_apply]
  have once := respects_sendOnce (intrinsic.exchange (H := H) .request (some (c.envelope op txn)))
    intrinsic.poison
  exact Prod.mk.inj
    (respects_sendLoop once intrinsic.moveTo (fun _ _ => rfl) _ _ _ (c.numbered, p))

theorem settle_leaves (scope : Scope) (c : Client) {q : Errand} {told : Option Error ⊕ Answered q}
    {o : Outcome Error Response} (tells : Tells q told o) :
    (scope.settle c o).database = c.database ∧ (scope.settle c o).up = c.up ∧
      (scope.settle c o).requestTxn = scope.leaves c.requestTxn told := by
  cases scope with
  | current | outside => exact ⟨rfl, rfl, rfl⟩
  | ending own =>
    have forgotten_ : (c.forgetTxn own).database = c.database ∧ (c.forgetTxn own).up = c.up ∧
        (c.forgetTxn own).requestTxn = if c.requestTxn = some own then none else c.requestTxn := by
      unfold Client.forgetTxn
      split <;> exact ⟨rfl, rfl, rfl⟩
    cases tells with
    | overflowed => exact ⟨rfl, rfl, rfl⟩
    | _ => exact forgotten_

theorem told_eq {m : Stub α} {a : m.Args} (asked : m.args = .ok a) {database : String}
    {txn : Option String}
    {told : Option Error ⊕ Answered ⟨database, txn, ⟨⟨m.operation⟩, a⟩⟩} {o : Outcome Error Response}
    (tells : Tells ⟨database, txn, ⟨⟨m.operation⟩, a⟩⟩ told o) : o.andThen m.decode = m.told told := by
  cases tells with
  | answered said => exact congrArg Outcome.ofExcept (m.hears asked said)
  | _ => rfl

variable (S) in
theorem TypedProc.run_program {work : TypedProc β} (known : work.Known ops) (c : Client)
    (p : Process ω) :
    ∃ answers adrift,
      Remote.Runs S.database faults (work.program c.database c.requestTxn) (c.up, S.site p.world)
        answers adrift (work.run H (c, p)).outcome
        ((work.run H (c, p)).state.1.up, S.site (work.run H (c, p)).state.2.world) := by
  induction known generalizing c p with
  | done result =>
    cases result <;> exact ⟨[], [], .done _ _⟩
  | panic => exact ⟨[], [], .done _ _⟩
  | setRequestTxn txn rest ih =>
    simp only [run, program, Action.bind_apply, Method.update_apply, Execution.follow_returned,
      Execution.after_nil]
    exact ih (c.withRequestTxn txn) p
  | @ask α scope m among next rest ih =>
    cases args : m.args with
    | error e =>
      have ran := ih (.failed e) c p
      simpa [run, program, args, Stub.runIn_refused args] using ran
    | ok a =>
      have keeps := sendIn_keeps (H := H) (m.operation.value a) (scope.names c.requestTxn) (c, p)
      obtain ⟨told, answers, adrift, called, tells⟩ :=
        sendIn_comes S among a (scope.names c.requestTxn) c p
      have asked := Stub.runIn_asked (H := H) args scope c p
      rcases sent : sendIn H (m.operation.value a) (scope.names c.requestTxn) (c, p) with ⟨o, s, es⟩
      rw [sent] at keeps called tells asked
      obtain ⟨sameDatabase, sameUp, leaves⟩ := settle_leaves scope s.1 tells
      obtain ⟨answers', adrift', ran⟩ := ih (m.told told) (scope.settle s.1 o) s.2
      rw [sameDatabase, sameUp, leaves, keeps.1, keeps.2] at ran
      refine ⟨answers ++ answers', adrift ++ adrift', ?_⟩
      simp only [program, args, run, Action.bind_apply, Action.observe_apply, asked, concluded,
        told_eq args tells, Execution.follow_returned]
      exact .call called ran

/-! ## What closures do to the database -/

/-- Whatever becomes of its requests, a closure does to the database what was answered, each call
once, in order and with the answers it went on from. Only the call that cost it its connection is in
doubt, and that is done at most once, after them. -/
theorem typed_history (S : DatabaseServer H ops σ) {work : TypedProc β} (known : work.Known ops)
    {c : Client} (live : c.Live) {p : Process ω} (settled : (S.site p.world).adrift = []) :
    ∃ answers adrift marks,
      Remote.Runs S.database faults (work.program c.database c.requestTxn) (true, S.site p.world)
        answers adrift (work.run H (c, p)).outcome
        ((work.run H (c, p)).state.1.up, S.site (work.run H (c, p)).state.2.world) ∧
      Remote.History S.database marks (S.site p.world).state
        (S.site (work.run H (c, p)).state.2.world).state ∧
      ((work.run H (c, p)).state.1.up = true ∧ adrift = [] ∧
          (S.site (work.run H (c, p)).state.2.world).adrift = [] ∧ Remote.calls marks = answers ∨
        ∃ q, (work.run H (c, p)).state.1.up = false ∧ adrift = [q] ∧
          (Remote.calls marks = answers ∨
            (S.site (work.run H (c, p)).state.2.world).adrift = [] ∧
              ∃ a, Remote.calls marks = answers ++ [⟨q, a⟩])) := by
  obtain ⟨answers, adrift, ran⟩ := TypedProc.run_program S known c p
  rw [Client.up_iff.mpr live] at ran
  obtain ⟨marks, history, ends⟩ := ran.history settled
  exact ⟨answers, adrift, marks, ran, history, ends⟩

/-- A closure that keeps its connection has done what it does at a database at hand, where a call may
be refused before it is done. -/
theorem typed_local (S : DatabaseServer H ops σ) {work : TypedProc β} (known : work.Known ops)
    {c : Client} (live : c.Live) {p : Process ω} (settled : (S.site p.world).adrift = [])
    (up : (work.run H (c, p)).state.1.up = true) :
    Remote.Local S.database faults (work.program c.database c.requestTxn) (S.site p.world).state
      (work.run H (c, p)).outcome (S.site (work.run H (c, p)).state.2.world).state := by
  obtain ⟨answers, adrift, ran⟩ := TypedProc.run_program S known c p
  rw [Client.up_iff.mpr live, up] at ran
  exact ran.local_of_up settled

end

/-! ## A server that keeps the keys of a cache -/

/-- The keys of the cache, how many replies still arrive, and the one that is not read yet. -/
structure Shelf where
  keys : List (String × String)
  replies : Nat
  answer : Option Frame

namespace Shelf

def deletedFlag (there : Bool) : Value := Value.ofFields [("deleted", .bool there)]

def body (there : Bool) : List UInt8 := (deletedFlag there).toVec scriptSerde.floats

def deletes (envelope : Value) : Option (String × String) := do
  let (tag, fields) ← (← envelope.get "op").asked
  if tag = ("Cache", "Delete") then Cache.delete.fields.read fields else none

def take (w : Shelf) : Tag → Option Value → Shelf
  | .request, some envelope =>
    match deletes envelope with
    | some key =>
      { w with keys := w.keys.erase key, answer := some ⟨.response, body (decide (key ∈ w.keys))⟩ }
    | none => { w with answer := none }
  | _, _ => { w with answer := none }

end Shelf

/-- `serde_json` as far as this server's answers go. -/
def shelfSerde : Serde where
  floats := scriptSerde.floats
  mismatch := scriptSerde.mismatch
  value _ := none
  helloOk _ := .error "expected value"
  authOk _ := .error "expected value"
  wireResponse bytes :=
    let answer (there : Bool) : WireResponse :=
      ⟨"", "ok", Value.ofFields [("Json", Shelf.deletedFlag there)], none⟩
    if bytes = Shelf.body true then .ok (answer true)
    else if bytes = Shelf.body false then .ok (answer false)
    else .error "expected value"
  cancelOk _ := .error "expected value"

def shelfHost : Host Shelf where
  serde := shelfSerde
  processId := 1
  clock w := (0, w)
  resolve host port w := (.ok [joinAddress host port], w)
  connect _ _ _ w := (.ok (), w)
  setReadTimeout _ _ w := (none, w)
  setWriteTimeout _ _ w := (none, w)
  loadRoots _ w := (.ok (), w)
  loadIdentity _ _ w := (.ok (), w)
  tlsHandshake _ _ _ w := (.ok (), w)
  send _ tag payload w := (.ok (), w.take tag payload)
  recv _ w :=
    match w.replies, w.answer with
    | n + 1, some frame => (.ok frame, { w with replies := n, answer := none })
    | _, _ => (.error timedOut, { w with answer := none })
  shutdown _ w := w

def shelfOperations : List AnyOperation := [⟨Cache.delete.operation⟩]

/-- A key is deleted, and the answer says whether it was there. -/
inductive Deleted : (q : Errand) → List (String × String) → Answered q → List (String × String) → Prop
  | mk (database : String) (txn : Option String) (key : String × String)
    (keys : List (String × String)) :
    Deleted ⟨database, txn, ⟨⟨Cache.delete.operation⟩, key⟩⟩ keys (.ok (decide (key ∈ keys)))
      (keys.erase key)

theorem deletes_of_read {envelope : Value} {q : Envelope}
    (h : readEnvelope shelfOperations envelope = some q) :
    ∃ key, Shelf.deletes envelope = some key ∧ q.request = ⟨⟨Cache.delete.operation⟩, key⟩ := by
  obtain ⟨database, -, h⟩ := Option.bind_eq_some_iff.mp h
  obtain ⟨id, -, h⟩ := Option.bind_eq_some_iff.mp h
  obtain ⟨request, read, rfl⟩ := Option.map_eq_some_iff.mp h
  obtain ⟨op, found, h⟩ := Option.bind_eq_some_iff.mp read
  unfold readRequest at h
  split at h
  · cases h
  · rename_i tag fields asked
    by_cases known : tag = ("Cache", "Delete")
    · subst known
      obtain ⟨key, args, rfl⟩ := Option.map_eq_some_iff.mp h
      refine ⟨key, ?_, rfl⟩
      simp only [Shelf.deletes, found, Option.bind_eq_bind, Option.bind_some, asked]
      exact args
    · have other : shelfOperations.find? (fun o => o.tag == tag) = none := by
        simpa [shelfOperations] using fun same => known same.symm
      rw [other] at h
      cases h

theorem take_keys {tag : Tag} (other : tag ≠ .request) (payload : Option Value) (w : Shelf) :
    (w.take tag payload).keys = w.keys := by
  unfold Shelf.take
  split
  · exact absurd rfl other
  · rfl

theorem recv_keys (t : Transport) (w : Shelf) : (shelfHost.recv t w).2.keys = w.keys := by
  simp only [shelfHost]
  split <;> rfl

theorem shelf_quiet {w w' : Shelf} (h : Quiet shelfHost w w') : w' = w := by
  induction h with
  | refl w => rfl
  | trans h h' ih ih' => exact ih'.trans ih
  | _ => rfl

theorem body_apart : Shelf.body false ≠ Shelf.body true := by decide +kernel

theorem shelf_replies (there : Bool) :
    ∃ r, replyOf shelfHost ⟨.response, Shelf.body there⟩ = some (.ok r) ∧ r.kind = "Json" ∧
      r.data = Shelf.deletedFlag there := by
  cases there with
  | true => exact ⟨_, by simp [replyOf, readResponse, shelfHost, shelfSerde, parseBody]; rfl, rfl, rfl⟩
  | false =>
    exact ⟨_, by simp [replyOf, readResponse, shelfHost, shelfSerde, parseBody, body_apart]; rfl, rfl,
      rfl⟩

def shelf : DatabaseServer shelfHost shelfOperations (List (String × String)) where
  database := ⟨Deleted, fun _ _ => False⟩
  site w := ⟨w.keys, []⟩
  distinct := by decide
  quiet h := by
    rw [shelf_quiet h]
  shutdown _ _ := .refl
  sends other t payload w := by
    change Remote.Drifts _ ⟨w.keys, []⟩ ⟨(w.take _ payload).keys, []⟩
    rw [take_keys other]
  receives other t payload w := by
    rw [recv_keys]
  unsent _ h := by cases h
  unanswered := by
    rintro t envelope w w₁ w' e q read ⟨⟩ lost
    obtain ⟨key, deletes, request⟩ := deletes_of_read read
    have kept := recv_keys t (w.take .request (some envelope))
    rw [show shelfHost.recv t (w.take .request (some envelope)) = _ from lost] at kept
    have taken : (w.take .request (some envelope)).keys = w.keys.erase key := by
      simp [Shelf.take, deletes]
    rw [kept.trans taken]
    obtain ⟨⟨database, txn, _⟩, id, timeout⟩ := q
    cases request
    exact .single (.late (Deleted.mk database txn key w.keys) [] [])
  treats := by
    rintro t envelope w w₁ w' frame q read ⟨⟩ answered
    obtain ⟨key, deletes, request⟩ := deletes_of_read read
    have kept := recv_keys t (w.take .request (some envelope))
    rw [show shelfHost.recv t (w.take .request (some envelope)) = _ from answered] at kept
    have taken : (w.take .request (some envelope)).keys = w.keys.erase key := by
      simp [Shelf.take, deletes]
    have reply : frame = ⟨.response, Shelf.body (decide (key ∈ w.keys))⟩ := by
      simp only [shelfHost, Shelf.take, deletes] at answered
      split at answered <;> simp_all
    obtain ⟨r, replies, kind, data⟩ := shelf_replies (decide (key ∈ w.keys))
    rw [reply, replies, kept.trans taken]
    obtain ⟨⟨database, txn, _⟩, id, timeout⟩ := q
    cases request
    refine .answered .refl (Deleted.mk database txn key w.keys) .refl ⟨kind, ?_⟩
    rw [data]
    exact ⟨_, rfl, .inl ⟨_, rfl, rfl⟩⟩

/-! ## Closures over its keys -/

def evictTwice (space key : String) : TypedProc (Bool × Bool) :=
  .ask .current (cacheDelete shelfHost space key) fun
    | .returned first => .ask .current (cacheDelete shelfHost space key) fun
      | .returned second => .done (.ok (first, second))
      | .failed e => .done (.error e)
      | .panicked => .panic
    | .failed e => .done (.error e)
    | .panicked => .panic

theorem evictTwice_known (space key : String) : (evictTwice space key).Known shelfOperations := by
  have known : (⟨(cacheDelete shelfHost space key).operation⟩ : AnyOperation) ∈ shelfOperations :=
    List.mem_singleton.mpr rfl
  refine .ask _ known fun o => ?_
  cases o with
  | returned first =>
    refine .ask _ known fun o => ?_
    cases o with
    | returned second => exact .done _
    | failed e => exact .done _
    | panicked => exact .panic
  | failed e => exact .done _
  | panicked => exact .panic

def stocked (replies : Nat) : Process Shelf := ⟨0, 1, ⟨[("sessions", "k1")], replies, none⟩⟩

/-- The second reply is lost. -/
theorem typed_history_evict :
    let s := ((evictTwice "sessions" "k1").run shelfHost (session, stocked 1))
    ∃ answers adrift marks,
      Remote.Runs shelf.database faults ((evictTwice "sessions" "k1").program "main" none)
        (true, shelf.site (stocked 1).world) answers adrift s.outcome
        (s.state.1.up, shelf.site s.state.2.world) ∧
      Remote.History shelf.database marks [("sessions", "k1")] (shelf.site s.state.2.world).state ∧
      (s.state.1.up = true ∧ adrift = [] ∧ (shelf.site s.state.2.world).adrift = [] ∧
          Remote.calls marks = answers ∨
        ∃ q, s.state.1.up = false ∧ adrift = [q] ∧
          (Remote.calls marks = answers ∨ (shelf.site s.state.2.world).adrift = [] ∧
            ∃ a, Remote.calls marks = answers ++ [⟨q, a⟩])) :=
  typed_history shelf (evictTwice_known "sessions" "k1") (c := session) ⟨rfl, rfl⟩ (p := stocked 1) rfl

theorem typed_local_evict :
    let s := ((evictTwice "sessions" "k1").run shelfHost (session, stocked 2))
    Remote.Local shelf.database faults ((evictTwice "sessions" "k1").program "main" none)
      [("sessions", "k1")] s.outcome s.state.2.world.keys :=
  typed_local shelf (evictTwice_known "sessions" "k1") (c := session) ⟨rfl, rfl⟩ (p := stocked 2) rfl
    (by decide +kernel)

end TricoreSdk
