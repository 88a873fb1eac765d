import TricoreSdk.AtMostOnce
import TricoreSdk.Footprint
import TricoreSdk.Scripted

/-! Capabilities over redirects: a call checks what its connection granted once,
before the request is built, and the request may end up on another connection. -/

namespace TricoreSdk
open Effects Path

def Event.grant? : Event → Option (Socket × UInt64)
  | .granted transport features => some (transport.socket, features)
  | _ => none

/-- What is known of a socket's grant after an event. -/
def regrant (socket : Socket) (features : UInt64) (e : Event) : UInt64 :=
  match e.grant? with
  | some (socket', features') => if socket' = socket then features' else features
  | none => features

/-- What a connection's own `HELLO_OK` granted, as far as the log knows. -/
def grantOn (socket : Socket) (log : List Event) : UInt64 := log.foldl (regrant socket) 0

theorem regrant_other {socket : Socket} {e : Event} (h : ∀ f, e.grant? ≠ some (socket, f))
    (features : UInt64) : regrant socket features e = features := by
  unfold regrant
  split
  · rename_i socket' features' hg
    have : socket' ≠ socket := fun hs => h features' (hs ▸ hg)
    exact if_neg this
  · rfl

theorem grantOn_append_of_no_grant {socket : Socket} (log : List Event) {es : List Event}
    (h : ∀ e ∈ es, ∀ f, e.grant? ≠ some (socket, f)) :
    grantOn socket (log ++ es) = grantOn socket log := by
  unfold grantOn
  rw [List.foldl_append]
  generalize log.foldl (regrant socket) 0 = features
  induction es with
  | nil => rfl
  | cons e es ih =>
    rw [List.foldl_cons, regrant_other (h e List.mem_cons_self)]
    exact ih fun x hx => h x (.tail _ hx)

theorem grantOn_append_of_quiet {socket : Socket} (log : List Event) {es : List Event}
    (h : ∀ e ∈ es, e.grant? = none) : grantOn socket (log ++ es) = grantOn socket log :=
  grantOn_append_of_no_grant log fun e he f hf => by simp [h e he] at hf

theorem grantOn_granted (transport : Transport) (features : UInt64) (log : List Event) :
    grantOn transport.socket (log ++ [.granted transport features]) = features := by
  simp [grantOn, regrant, Event.grant?]

section

variable {ω α : Type} {H : Host ω}

/-- The client knows what its connection granted, and every grant is of a
connection the process has opened. -/
structure Tracks (log : List Event) (s : Client × Process ω) : Prop where
  opened : s.1.transport.socket < s.2.opened
  known : ∀ e ∈ log, ∀ socket features, e.grant? = some (socket, features) → socket < s.2.opened
  granted : grantOn s.1.transport.socket log = s.1.grantedFeatures

/-- The path along which clients know what their connections granted. -/
def tracking : Path (Client × Process ω) Event where
  rel s es s' := s.2.opened ≤ s'.2.opened ∧ ∀ log, Tracks log s → Tracks (log ++ es) s'
  refl s := ⟨Nat.le_refl _, fun log h => by rwa [List.append_nil]⟩
  trans h h' := ⟨Nat.le_trans h.1 h'.1, fun log ht => by
    rw [← List.append_assoc]
    exact h'.2 _ (h.2 log ht)⟩

theorem tracking_of_quiet {s s' : Client × Process ω} {es : List Event}
    (quiet : ∀ e ∈ es, e.grant? = none) (ht : s'.1.transport = s.1.transport)
    (hg : s'.1.grantedFeatures = s.1.grantedFeatures) (ho : s.2.opened ≤ s'.2.opened) :
    tracking.rel s es s' := by
  refine ⟨ho, fun log h => ?_⟩
  constructor
  · rw [ht]
    exact Nat.lt_of_lt_of_le h.opened ho
  · intro e he socket features hf
    rcases List.mem_append.mp he with he | he
    · exact Nat.lt_of_lt_of_le (h.known e he socket features hf) ho
    · rw [quiet e he] at hf
      cases hf
  · rw [ht, hg, grantOn_append_of_quiet log quiet]
    exact h.granted

theorem tracking_exchange (tag : Tag) (payload : Option Value) :
    tracking.Respects (exchange H tag payload) := by
  rintro ⟨c, p⟩
  have hx := exchanged H tag payload c p
  generalize exchange H tag payload (c, p) = r at hx
  cases hx <;> exact tracking_of_quiet (by simp [Event.grant?]) rfl rfl (Nat.le_refl _)

theorem tracking_update {f : Client → Client} (ht : ∀ c, (f c).transport = c.transport)
    (hg : ∀ c, (f c).grantedFeatures = c.grantedFeatures) :
    tracking.Respects (Method.update f : Method ω Unit) := fun s =>
  tracking_of_quiet (by simp) (ht s.1) (hg s.1) (Nat.le_refl _)

theorem tracking_opening {own : Socket → Prop} {m : Job ω α} (h : (opening H own).Respects m) :
    tracking.Respects (Action.onRight m : Method ω α) := by
  intro s
  obtain ⟨ho, -, he⟩ := h s.2
  refine tracking_of_quiet (fun e hm => ?_) rfl rfl ho
  have := he e hm
  cases e <;> trivial

theorem tracking_shutdown (socket : Socket) :
    tracking.Respects (Action.onRight (H.shutdownSocket socket) : Method ω Unit) := fun _ =>
  tracking_of_quiet (by simp [Event.grant?]) rfl rfl (Nat.le_refl _)

theorem tracking_transportShutdown : tracking.Respects (transportShutdown H) :=
  respects_self.bind fun _ => tracking_shutdown _

theorem tracking_poison (error : Error) : tracking.Respects (poison H error) :=
  respects_poison tracking_transportShutdown
    (tracking_update (f := Client.poisoned error) (fun _ => rfl) fun _ => rfl)

theorem tracking_readTimeout (timeout : Option Duration) :
    tracking.Respects (transportReadTimeout H timeout) :=
  respects_self.bind fun _ => tracking_opening (readDeadline_own _ _)

theorem tracking_writeTimeout (timeout : Option Duration) :
    tracking.Respects (transportWriteTimeout H timeout) :=
  respects_self.bind fun _ => tracking_opening (writeDeadline_own _ _)

theorem tracking_recordGrant (features : UInt64) :
    tracking.Respects (recordGrant features : Method ω Unit) := by
  rintro ⟨c, p⟩
  refine ⟨Nat.le_refl _, fun log h => ⟨h.opened, fun e he socket f hf => ?_, grantOn_granted _ _ _⟩⟩
  rcases List.mem_append.mp he with he | he
  · exact h.known e he socket f hf
  · obtain rfl : e = .granted c.transport features := List.mem_singleton.mp he
    cases hf
    exact h.opened

theorem tracking_goodbye : tracking.Respects (goodbye H) := by
  rintro ⟨c, p⟩
  obtain ⟨es, hes, run⟩ := goodbye_apply H c p
  rw [run]
  refine tracking_of_quiet ?_ rfl rfl (Nat.le_refl _)
  rcases hes with rfl | ⟨frame, rfl, -⟩ <;> simp [Event.grant?]

theorem setUpPath_tracking : SetUpPath H tracking where
  hello := tracking_exchange .hello
  auth := tracking_exchange .auth
  poison := tracking_poison
  readTimeout := tracking_readTimeout
  writeTimeout := tracking_writeTimeout
  recordGrant := tracking_recordGrant
  identified id := tracking_update (f := Client.identified id) (fun _ => rfl) fun _ => rfl
  withReadTimeout t := tracking_update (f := Client.withReadTimeout t) (fun _ => rfl) fun _ => rfl
  closeInner := respects_closeInner tracking_readTimeout tracking_writeTimeout
    (tracking_update (f := Client.closing) (fun _ => rfl) fun _ => rfl) tracking_transportShutdown
    tracking_goodbye

/-- What the log of a process knows is of connections it has opened. -/
def Known (log : List Event) (p : Process ω) : Prop :=
  ∀ e ∈ log, ∀ socket features, e.grant? = some (socket, features) → socket < p.opened

theorem tracks_newClient {log es : List Event} {p p₁ : Process ω} {transport : Transport}
    (known : Known log p) (path : (opening H (p.opened ≤ ·)).rel p es p₁)
    (low : p.opened ≤ transport.socket) (high : transport.socket < p₁.opened)
    (pre : String) (options : Options) :
    Tracks (log ++ es) (newClient transport pre options, p₁) := by
  have quiet : ∀ e ∈ es, e.grant? = none := by
    intro e he
    have := path.2.2 e he
    cases e <;> trivial
  refine ⟨high, fun e he socket features hf => ?_, ?_⟩
  · rcases List.mem_append.mp he with he | he
    · exact Nat.lt_of_lt_of_le (known e he socket features hf) path.1
    · rw [quiet e he] at hf
      cases hf
  · have none_yet : ∀ e ∈ log ++ es, ∀ f, e.grant? ≠ some (transport.socket, f) := by
      intro e he f hf
      rcases List.mem_append.mp he with he | he
      · exact Nat.not_lt.mpr low (known e he _ f hf)
      · rw [quiet e he] at hf
        cases hf
    exact grantOn_append_of_no_grant [] none_yet

theorem known_opening {log es : List Event} {p p' : Process ω} (known : Known log p)
    (path : (opening H (p.opened ≤ ·)).rel p es p') : Known (log ++ es) p' := by
  intro e he socket features hf
  rcases List.mem_append.mp he with he | he
  · exact Nat.lt_of_lt_of_le (known e he socket features hf) path.1
  · have := path.2.2 e he
    cases e <;> first | exact absurd this not_false | cases hf

theorem connect_tracks {log : List Event} {p : Process ω} (known : Known log p)
    (options : Options) {r : Execution (Process ω) Error Event Client}
    (run : connect H options p = r) :
    p.opened ≤ r.state.opened ∧ Known (log ++ r.events) r.state ∧
      ∀ fresh, r.outcome = .returned fresh → Tracks (log ++ r.events) (fresh, r.state) := by
  have hc := connected (H := H) setUpPath_tracking options p
  rw [run] at hc
  cases hc with
  | gaveUp e p' es path => exact ⟨path.1, known_opening known path, fun f hf => by cases hf⟩
  | refused e t pre p₁ p' es es' c path low high rel =>
    have t := rel.2 _ (tracks_newClient known path low high pre options)
    rw [List.append_assoc] at t
    exact ⟨Nat.le_trans path.1 rel.1, t.known, fun f hf => by cases hf⟩
  | shookHands t pre p₁ p' es es' fresh path low high rel shaken =>
    have t := rel.2 _ (tracks_newClient known path low high pre options)
    rw [List.append_assoc] at t
    refine ⟨Nat.le_trans path.1 rel.1, t.known, ?_⟩
    rintro f ⟨⟩
    exact t

theorem tracking_moveTo (address : String) : tracking.Respects (moveTo H address) := by
  rintro ⟨c, p⟩
  have hm := moving (H := H) address c p
  generalize moveTo H address (c, p) = r at hm
  have mono {options : Options} {r} (run : connect H options p = r) : p.opened ≤ r.state.opened :=
    (connect_tracks (p := p) (fun e he => absurd he List.not_mem_nil) _ run).1
  cases hm with
  | unreadable _ => exact tracking.refl _
  | stayed host port _ e p' es run =>
    refine ⟨mono run, fun log h => ?_⟩
    obtain ⟨ho, hk, -⟩ := connect_tracks h.known _ run
    refine ⟨Nat.lt_of_lt_of_le h.opened ho, hk, ?_⟩
    -- The failed attempt granted nothing on the old connection.
    have elsewhere := ((connect_sparing perSocket_unit c.transport.socket _ p run).2 h.opened).1
    rw [grantOn_append_of_no_grant log fun e he f hg => elsewhere e he (by
      cases e <;> simp_all [Event.grant?, Event.socket?])]
    exact h.granted
  | moved host port _ fresh p' es run =>
    refine ⟨mono run, fun log h => ?_⟩
    obtain ⟨ho, hk, hf⟩ := connect_tracks h.known _ run
    have t := hf fresh rfl
    have quiet : ∀ e ∈ [Event.moved fresh.transport, .shutdown c.transport.socket],
        e.grant? = none := by simp [Event.grant?]
    rw [← List.append_assoc]
    refine ⟨t.opened, fun e he socket features hf => ?_, ?_⟩
    · rcases List.mem_append.mp he with he | he
      · exact hk e he socket features hf
      · rw [quiet e he] at hf
        cases hf
    · rw [grantOn_append_of_quiet _ quiet]
      exact t.granted

theorem callPath_tracking : CallPath H tracking where
  exchange := tracking_exchange
  poison := tracking_poison
  moveTo := tracking_moveTo
  setReadTimeout t := (tracking_update (f := Client.withReadTimeout t) (fun _ => rfl)
    fun _ => rfl).bind fun _ => tracking_readTimeout _
  paused _ := fun _ => tracking_of_quiet (by simp [Event.grant?]) rfl rfl (Nat.le_refl _)
  update hf := tracking_update (fun c => (hf.kept c).transport) fun c => (hf.kept c).grantedFeatures
  withTxnOpen isOpen :=
    tracking_update (f := Client.withTxnOpen isOpen) (fun _ => rfl) fun _ => rfl

/-! ## What a request needs -/

/-- The capability that the request of a call uses, when it gets as far as one. -/
def Call.needs : Call → UInt64
  | begin => featureSessionTxn
  | executeParams _ params | queryParams _ params =>
    if params.isEmpty then 0 else featureServerParams
  | transaction statements =>
    match buildTransactionScript statements with
    | .ok (_, params) => if params.isEmpty then 0 else featureServerParams
    | .error _ => 0
  | _ => 0

def Allows (features need : UInt64) : Prop := need ≠ 0 → features &&& need ≠ 0

/-- Every request frame is on a connection whose own handshake granted what it needs. -/
def RequestsCovered (need : UInt64) : List Event → List Event → Prop :=
  Throughout fun log e =>
    ∀ transport payload, e.request? = some (transport, payload) →
      Allows (grantOn transport.socket log) need

/-- Every connection the client moves to granted what the call in progress needs. -/
def MovesCovered (need : UInt64) : List Event → List Event → Prop :=
  Throughout fun log e =>
    ∀ transport, e = .moved transport → Allows (grantOn transport.socket log) need

theorem requestsCovered_append {need : UInt64} (log es fs : List Event) :
    RequestsCovered need log (es ++ fs) ↔
      RequestsCovered need log es ∧ RequestsCovered need (log ++ es) fs := throughout_append ..

theorem movesCovered_append {need : UInt64} (log es fs : List Event) :
    MovesCovered need log (es ++ fs) ↔
      MovesCovered need log es ∧ MovesCovered need (log ++ es) fs := throughout_append ..

theorem requestsCovered_of_no_request {need : UInt64} {es : List Event}
    (h : ∀ e ∈ es, e.request? = none) (log : List Event) : RequestsCovered need log es :=
  throughout_of_forall (fun e he log t payload hr => by rw [h e he] at hr; cases hr) log

theorem movesCovered_of_no_move {need : UInt64} {es : List Event}
    (h : ∀ e ∈ es, ∀ transport, e ≠ .moved transport) (log : List Event) : MovesCovered need log es :=
  throughout_of_forall (fun e he _ t ht => absurd ht (h e he t)) log

theorem sendOnce_covered {need : UInt64} {log : List Event} {c : Client} {p : Process ω}
    (tracks : Tracks log (c, p)) (allows : Allows c.grantedFeatures need) (envelope : Value) :
    RequestsCovered need log (sendOnce H envelope (c, p)).events := by
  have hs := sentOnce H envelope c p
  generalize sendOnce H envelope (c, p) = r at hs
  have own {payload : Option Value} {es : List Event} (quiet : ∀ e ∈ es, e.request? = none) :
      RequestsCovered need log (.wrote c.transport .request payload :: es) := by
    refine ⟨?_, requestsCovered_of_no_request quiet _⟩
    rintro t payload ⟨⟩
    rw [tracks.granted]
    exact allows
  cases hs with
  | dead e he => trivial
  | tooLarge live e he => trivial
  | broken live bytes he e w hw => exact own (by simp [Event.request?])
  | misanswered live bytes he frame w w' hw hr hf e hk => exact own (by simp [Event.request?])
  | replied live bytes he frame w w' hw hr reply hf => exact own (by simp [Event.request?])

theorem sendOnce_no_move (envelope : Value) (c : Client) (p : Process ω) :
    ∀ e ∈ (sendOnce H envelope (c, p)).events, ∀ transport, e ≠ .moved transport := by
  have hs := sentOnce H envelope c p
  generalize sendOnce H envelope (c, p) = r at hs
  cases hs <;> simp

theorem Event.IsSetUp.ne_moved {e : Event} (h : e.IsSetUp) (transport : Transport) :
    e ≠ .moved transport := fun he => by
  rw [he] at h
  exact h

theorem live_of_sendOnce {envelope : Value} {c : Client} {p : Process ω}
    (h : (sendOnce H envelope (c, p)).events ≠ []) :
    c.Live ∧ ∃ bytes, encode .request (H.body (some envelope)) = .ok bytes := by
  have hs := sentOnce H envelope c p
  generalize sendOnce H envelope (c, p) = r at hs h
  cases hs with
  | dead e he => exact absurd rfl h
  | tooLarge live e he => exact absurd rfl h
  | broken live bytes he e w hw => exact ⟨live, bytes, he⟩
  | misanswered live bytes he frame w w' hw hr hf e hk => exact ⟨live, bytes, he⟩
  | replied live bytes he frame w w' hw hr reply hf => exact ⟨live, bytes, he⟩

theorem movesCovered_move {need : UInt64} {log es : List Event} {socket : Socket} {c : Client}
    {p : Process ω} (h : ∀ e ∈ es, e.IsSetUp)
    (tracks : Tracks (log ++ (es ++ [.moved c.transport, .shutdown socket])) (c, p)) :
    MovesCovered need log (es ++ [.moved c.transport, .shutdown socket]) ↔
      Allows c.grantedFeatures need := by
  have granted := tracks.granted
  rw [← List.append_assoc, grantOn_append_of_quiet _ (by simp [Event.grant?])] at granted
  rw [movesCovered_append, and_iff_right (movesCovered_of_no_move (fun x hx => (h x hx).ne_moved) _),
    ← granted]
  exact ⟨fun h => h.1 _ rfl, fun h => ⟨fun t ht => by cases ht; exact h, nofun, trivial⟩⟩

theorem sendLoop_begins {envelope : Value} {bytes : List UInt8} {c : Client} (live : c.Live)
    (he : encode .request (H.body (some envelope)) = .ok bytes) (left retried : Nat)
    (pause : Duration) (p : Process ω) :
    ∃ es, (sendLoop H envelope left retried pause (c, p)).events =
      .wrote c.transport .request (some envelope) :: es := by
  have hround := sendLoop_round (H := H) envelope left retried pause c p
  generalize sendLoop H envelope left retried pause (c, p) = r at hround
  cases hround with
  | again left' hl follow txn e redirect frame w reply run moved s fs hint => exact ⟨_, rfl⟩
  | last o o' s es run ends =>
    have hs := sentOnce H envelope c p
    rw [run] at hs
    cases hs with
    | dead e hd =>
      rcases hd with ⟨fault, hf, -⟩ | ⟨-, hc, -⟩
      · exact absurd (live.fault.symm.trans hf) nofun
      · exact absurd (live.open_.symm.trans hc) nofun
    | tooLarge live e hl => exact absurd (he.symm.trans hl) nofun
    | _ => exact ⟨_, rfl⟩

theorem sendLoop_covered {need : UInt64} (envelope : Value) (left retried : Nat)
    (pause : Duration) {log : List Event} {c : Client} {p : Process ω}
    (tracks : Tracks log (c, p)) (allows : Allows c.grantedFeatures need) :
    RequestsCovered need log (sendLoop H envelope left retried pause (c, p)).events ↔
      MovesCovered need log (sendLoop H envelope left retried pause (c, p)).events := by
  induction left using Nat.strong_induction_on generalizing retried pause log c p with
  | _ left ih =>
    have hround := sendLoop_round (H := H) envelope left retried pause c p
    have first := sendOnce_covered (H := H) tracks allows envelope
    have still : MovesCovered need log _ :=
      movesCovered_of_no_move (sendOnce_no_move (H := H) envelope c p) log
    have kept := (callPath_tracking (H := H)).sendOnce envelope (c, p)
    generalize sendLoop H envelope left retried pause (c, p) = r at hround ⊢
    cases hround with
    | last o o' s es run ends =>
      rw [run] at first still
      exact iff_of_true first still
    | again left' hl follow txn e redirect frame w reply run moved s fs hint =>
      subst hl
      have wrote : (sendOnce H envelope (c, p)).events ≠ [] := by rw [run]; simp
      obtain ⟨live, bytes, he⟩ := live_of_sendOnce wrote
      rw [run] at first still kept
      have tracks' := kept.2 log tracks
      have hf := hintFollowed (H := H) e.leaderHint c { p with world := w }
      have followed := (callPath_tracking (H := H)).followHint e.leaderHint (c, { p with world := w })
      rw [hint] at hf followed
      have tracks'' := followed.2 _ tracks'
      have rest := ih left' (Nat.lt_succ_self _) (retried + 1)
      rw [Execution.after_events, List.append_assoc, requestsCovered_append, movesCovered_append,
        requestsCovered_append, movesCovered_append, and_iff_right first, and_iff_right still]
      cases hf with
      | stayed p' fs set =>
        rw [and_iff_right (requestsCovered_of_no_request (fun x hx => (set x hx).request?) _),
          and_iff_right (movesCovered_of_no_move (fun x hx => (set x hx).ne_moved) _)]
        unfold sendAgain
        cases hp : nextPause pause with
        | none =>
          exact iff_of_true (requestsCovered_of_no_request (by simp [Event.request?]) _)
            (movesCovered_of_no_move (by simp) _)
        | some next =>
          have paused := (callPath_tracking (H := H)).paused pause (c, p')
          simp only [Bool.false_eq_true, if_false, Execution.after_events]
          rw [requestsCovered_append, movesCovered_append, and_iff_right (requestsCovered_of_no_request (by simp [Event.request?]) _),
            and_iff_right (movesCovered_of_no_move (by simp) _)]
          exact rest next (paused.2 _ tracks'') allows
      | moved options address fresh p' es set run' =>
        have quiet : ∀ x ∈ es ++ [.moved fresh.transport, .shutdown c.transport.socket],
            x.request? = none := by
          intro x hx
          rcases List.mem_append.mp hx with hx | hx
          · exact (set x hx).request?
          · rcases List.mem_pair.mp hx with rfl | rfl <;> rfl
        have at_move : MovesCovered need
            (log ++ [.wrote c.transport .request (some envelope), .answered c.transport frame])
            (es ++ [.moved fresh.transport, .shutdown c.transport.socket]) ↔
              Allows fresh.grantedFeatures need :=
          movesCovered_move (c := Client.adopting fresh address c) set tracks''
        rw [and_iff_right (requestsCovered_of_no_request quiet _), at_move]
        refine ⟨fun h => ?_, fun ⟨allows', h⟩ => (rest pause tracks'' allows').mpr h⟩
        -- The new connection works, so the next thing on it is the request.
        have allows' : Allows fresh.grantedFeatures need := by
          obtain ⟨gs, begins⟩ := sendLoop_begins (c := Client.adopting fresh address c)
            ⟨live.fault, live.open_⟩ he left' (retried + 1) pause (H.dropped c p' p'.world)
          have begins : (sendAgain H envelope left' retried pause true
            (Client.adopting fresh address c, H.dropped c p' p'.world)).events = _ := begins
          rw [begins] at h
          exact tracks''.granted ▸ h.1 _ _ rfl
        exact ⟨allows', (rest pause tracks'' allows').mp h⟩

/-! ## Calls -/

theorem Tracks.numbered {log : List Event} {c : Client} {p : Process ω} (h : Tracks log (c, p)) :
    Tracks log (c.numbered, p) := ⟨h.opened, h.known, h.granted⟩

theorem send_covered {need : UInt64} {log : List Event} {c : Client} {p : Process ω}
    (tracks : Tracks log (c, p)) (allows : Allows c.grantedFeatures need) (op : Value) :
    RequestsCovered need log (send H op (c, p)).events ↔
      MovesCovered need log (send H op (c, p)).events :=
  sendLoop_covered _ _ _ _ tracks.numbered allows

variable (H) in
/-- A call that checks a grant before it sends: without the grant it fails and
does nothing, and all it ever does is send one operation. -/
structure Gated (need : UInt64) (s : Client × Process ω)
    (r : Execution (Client × Process ω) Error Event α) : Prop where
  refused : need ≠ 0 → s.1.grantedFeatures &&& need = 0 →
    r.events = [] ∧ ∃ e, r.outcome = .failed e ∧ e.kind = .featureNotGranted
  sent : r.events = [] ∨ ∃ op, r.events = (send H op s).events

theorem Gated.bind {β : Type} {need : UInt64} {s : Client × Process ω} {m : Method ω α}
    {f : α → Method ω β} (h : Gated H need s (m s)) (hf : ∀ a s', (f a s').events = []) :
    Gated H need s ((m >>= f) s) := by
  have events := Action.bind_events_of_silent (m := m) hf s
  refine ⟨fun hn hg => ?_, events ▸ h.sent⟩
  obtain ⟨quiet, e, he, hk⟩ := h.refused hn hg
  exact ⟨events ▸ quiet, e, by rw [Action.bind_of_failed he], hk⟩

theorem events_ofExcept (x : Except Error α) (s : Client × Process ω) :
    (Action.ofExcept x s : Execution _ Error Event α).events = [] := by
  cases x <;> rfl

theorem gated_sql (sql : String) (params : List Param) {send' : Value → Method ω α}
    {op : Value → Value} (hs : ∀ body s, (send' body s).events = (send H (op body) s).events)
    (s : Client × Process ω) :
    Gated H (if params.isEmpty then 0 else featureServerParams) s
      ((do
        let c ← Method.self
        let body ← Action.ofOutcome (sqlBody c sql params)
        send' body : Method ω α) s) := by
  have sent (body : Value) : Gated H 0 s (send' body s) :=
    ⟨fun h => absurd rfl h, .inr ⟨op body, hs body s⟩⟩
  unfold sqlBody
  by_cases none : params.isEmpty
  · simpa [none] using sent _
  · by_cases granted : s.1.serverParamsGranted
    · have refused : s.1.grantedFeatures &&& featureServerParams ≠ 0 := by
        simpa [Client.serverParamsGranted] using granted
      constructor
      · exact fun _ h => absurd h (by simpa [none] using refused)
      · simp only [Action.bind_apply, Method.self_apply, Execution.follow_returned, none, granted]
        simp only [Bool.false_eq_true, Bool.not_true, if_false, Execution.after_nil]
        split
        · exact .inl rfl
        · split
          · exact .inl rfl
          · exact (sent _).sent
    · simp only [Bool.not_eq_true] at granted none
      simp only [Action.bind_apply, Method.self_apply, Execution.follow_returned, none, granted]
      exact ⟨fun _ _ => ⟨rfl, _, rfl, rfl⟩, .inl rfl⟩

theorem gated_executeParams (sql : String) (params : List Param) (s : Client × Process ω) :
    Gated H (if params.isEmpty then 0 else featureServerParams) s (executeParams H sql params s) :=
  gated_sql sql params (fun _ _ => rfl) s

theorem transactionControl_events (keyword : String) (s : Client × Process ω) :
    (transactionControl H keyword s).events = (execute H keyword s).events := by
  unfold transactionControl
  rw [Action.bind_apply]
  rcases h : execute H keyword s with ⟨o, s', es⟩
  cases o with
  | returned response =>
    cases hd : decodeResult H response keyword <;> simp [Action.attempt, h, hd]
  | failed e =>
    simp only [Action.attempt, h, Execution.follow_returned]
    cases (keyword != "BEGIN" && !e.wasRefusedLocally) <;> simp
  | panicked => simp [Action.attempt, h]

theorem gated_begin (s : Client × Process ω) : Gated H featureSessionTxn s (begin H s) := by
  unfold begin
  simp only [Action.bind_apply, Method.self_apply, Execution.follow_returned, Execution.after_nil]
  cases granted : s.1.sessionTxnGranted with
  | false => exact ⟨fun _ _ => ⟨rfl, _, rfl, rfl⟩, .inl rfl⟩
  | true =>
    refine ⟨fun _ h => ?_, ?_⟩
    · simp [Client.sessionTxnGranted, h] at granted
    · have := (gated_executeParams (H := H) "BEGIN" [] s).sent
      simpa [transactionControl_events, execute] using this

theorem gated_run (call : Call) (hn : call.needs ≠ 0) (s : Client × Process ω) :
    Gated H call.needs s (call.run H s) := by
  cases call with
  | executeParams sql params => exact (gated_executeParams sql params s).bind fun _ _ => rfl
  | queryParams sql params =>
    have sent (body : Value) (s : Client × Process ω) := Action.bind_events_of_silent
      (m := send H (sqlOp "Query" body)) (fun r s => events_ofExcept (rowsOf H r "query") s) s
    exact (gated_sql sql params sent s).bind fun _ _ => rfl
  | transaction statements =>
    refine Gated.bind ?_ fun _ _ => rfl
    unfold TricoreSdk.transaction
    simp only [Call.needs] at hn ⊢
    split at hn
    · rename_i script params hb
      rw [hb]
      exact (gated_executeParams script params s).bind fun r _ => events_ofExcept _ _
    · exact absurd rfl hn
  | begin => exact (gated_begin s).bind fun _ _ => rfl
  | _ => exact absurd rfl hn

variable (H) in
/-- A call whose request goes only where the node granted what it needs, and
which is refused before anything is written where the node did not. -/
structure CapabilitySafe (log : List Event) (s : Client × Process ω) (call : Call) : Prop where
  covered : RequestsCovered call.needs log (call.run H s).events
  refused : call.needs ≠ 0 → grantOn s.1.transport.socket log &&& call.needs = 0 →
    (call.run H s).events = [] ∧
      ∃ e, (call.run H s).outcome = .failed e ∧ e.kind = .featureNotGranted

theorem capabilitySafe_iff {log : List Event} {c : Client} {p : Process ω}
    (tracks : Tracks log (c, p)) (call : Call) :
    CapabilitySafe H log (c, p) call ↔ MovesCovered call.needs log (call.run H (c, p)).events := by
  by_cases hn : call.needs = 0
  · have allows (features : UInt64) : Allows features call.needs := fun h => absurd hn h
    exact iff_of_true ⟨throughout_of_forall (fun _ _ _ _ _ _ => allows _) _, fun h => absurd hn h⟩
      (throughout_of_forall (fun _ _ _ _ _ => allows _) _)
  · have gated := gated_run (H := H) call hn (c, p)
    have refused := tracks.granted ▸ gated.refused hn
    by_cases hg : c.grantedFeatures &&& call.needs = 0
    · obtain ⟨quiet, -⟩ := gated.refused hn hg
      rw [quiet]
      exact iff_of_true ⟨by rw [quiet]; trivial, fun _ => refused⟩ trivial
    · have allows : Allows c.grantedFeatures call.needs := fun _ => hg
      have covered : RequestsCovered call.needs log (call.run H (c, p)).events ↔
          MovesCovered call.needs log (call.run H (c, p)).events := by
        rcases gated.sent with quiet | ⟨op, sent⟩
        · rw [quiet]
          exact iff_of_true trivial trivial
        · rw [sent]
          exact send_covered tracks allows op
      exact ⟨fun h => covered.mp h.covered, fun h => ⟨covered.mpr h, fun _ => refused⟩⟩

/-- Along every run on a connection, however a closure or `with_transaction`
arranges its calls, capabilities are used where they were granted exactly as long
as no redirect within a call ends on a node that did not grant what it needs. -/
theorem capabilitySafe_iff_movesCovered {options : Options} {p p' : Process ω} {c : Client}
    {es : List Event} (run : connect H options p = ⟨.returned c, p', es⟩) (work : Proc α) :
    AlongRun H (fun log s call =>
      CapabilitySafe H log s call ↔ MovesCovered call.needs log (call.run H s).events)
      es (c, p') work := by
  have start : Tracks es (c, p') := (connect_tracks (fun e he => absurd he List.not_mem_nil) _ run).2.2 c rfl
  refine alongRun_of_invariant (I := Tracks) (fun log s call h => ⟨?_, ?_⟩) start work
  · exact capabilitySafe_iff h call
  · exact (callPath_tracking.run call s).2 log h

end

/-- A cluster in the middle of an upgrade: the node that is asked has moved on,
and the one it names grants what its handshake says. -/
def upgrading (granted : List UInt8) : List (Except WireError Frame) :=
  [replies .response notLeaderBody, replies .helloOk granted, replies .response began]

theorem capabilitySafe_upgraded :
    AlongRun scripted (fun log s call => CapabilitySafe scripted log s call ↔
      MovesCovered call.needs log (call.run scripted s).events) sessionLog
      (session, ⟨1, 1, upgrading helloAll⟩)
      (Proc.ofCalls [.begin, .executeParams "SELECT ?" [.bool true]]) :=
  capabilitySafe_iff_movesCovered (connect_session _) _

/-- `begin` on a connection that granted it, served by a node that did not. -/
theorem not_capabilitySafe_begin :
    ¬∀ options p p' c es, connect scripted options p = ⟨.returned c, p', es⟩ →
      ∀ work : Proc Unit, AlongRun scripted (CapabilitySafe scripted) es (c, p') work := by
  intro h
  have covered := (h _ _ _ _ _ (connect_session (upgrading helloNone)) (Proc.ofCalls [.begin])).1.covered
  -- The second copy, on the connection the redirect opened.
  have second := Throughout.getElem covered 12 (by decide +kernel)
  have wrote : ((Call.begin.run scripted (session, ⟨1, 1, upgrading helloNone⟩)).events.get
      ⟨12, by decide +kernel⟩).request?.map Prod.fst = some (.tcp 1) := by decide +kernel
  obtain ⟨⟨_, payload⟩, hw, rfl⟩ := Option.map_eq_some_iff.mp wrote
  exact second _ payload hw (by decide) (by decide +kernel)

end TricoreSdk
