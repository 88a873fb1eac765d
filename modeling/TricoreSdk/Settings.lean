import TricoreSdk.Deadline
import TricoreSdk.PublicCall

/-! What a caller sets on a connection for the calls that follow: the transaction they
name, the deadline they give the server, and the one they wait under themselves. -/

namespace TricoreSdk
open Effects Path

/-- What the calls of a connection go by. -/
structure Settings where
  txn : Option String
  timeoutMs : Option UInt64
  deadline : Option Duration

def Settings.initial (options : Options) : Settings where
  txn := none
  timeoutMs := none
  deadline := Duration.nonZero options.readTimeout

/-- The settings of a client, the read deadline being the one in force on its connection. -/
def Client.settings (log : List Event) (c : Client) : Settings where
  txn := c.requestTxn
  timeoutMs := c.requestTimeoutMs
  deadline := deadlineOn c.transport.socket log

/-- The transaction whose end a call asks for. -/
def Call.ends : Call → Option String
  | documentCommit txn | documentRollback txn | graphCommit _ txn | graphRollback _ txn => some txn
  | _ => none

/-- The transaction a client names after a call, by how that ended. -/
def Call.leaves (ended : Outcome Unit Unit) (txn : Option String) (call : Call) : Option String :=
  if ended ≠ .panicked ∧ txn = call.ends then none else txn

/-- What a call makes of the settings, by how it ended and whether it moved the client;
a new connection has the configured deadline. -/
def Call.sets (configured : Option Duration) (ended : Outcome Unit Unit) (moved : Bool)
    (s : Settings) : Call → Settings
  | setReadTimeout timeout =>
    { s with deadline := if ended = .returned () then Duration.nonZero timeout else s.deadline }
  | setRequestTimeout timeout =>
    { s with timeoutMs := (Duration.nonZero timeout).map Duration.millis }
  | setRequestTxn txn => { s with txn := txn.filter fun t => !t.isEmpty }
  | call =>
    { s with
      txn := call.leaves ended s.txn
      deadline := if moved then configured else s.deadline }

def Call.names (txn : Option String) : Call → Option String
  | documentBegin _ | graphBegin _ => none
  | documentCommit txn | documentRollback txn | graphCommit _ txn | graphRollback _ txn => some txn
  | _ => txn

/-- The `options` object of the frame a call writes. -/
def Call.optionsObject (s : Settings) : Call → Option Value
  | ping | cancel _ => none
  | call =>
    let options := requestOptions s.timeoutMs (call.names s.txn)
    if options.isEmpty then none else some (.object options)

/-! ## The frames a caller waits for -/

/-- A frame whose answer the caller waits for. -/
def Event.isAwaited : Event → Bool
  | .wrote _ .request _ | .wrote _ .ping _ | .wrote _ .cancel _ => true
  | _ => false

/-- The `options` object of a `REQUEST` frame. -/
def Event.options? : Event → Option Value
  | .wrote _ .request (some envelope) => envelope.get "options"
  | _ => none

/-- What such a frame goes by: its `options` object, the read deadline in force on its
connection, and whether the client was moved to that connection since. -/
structure Awaited where
  options : Option Value
  deadline : Option Duration
  moved : Bool

/-- The frames among events that are awaited, with the log ahead of the events. -/
def awaited (log : List Event) (moved : Bool) : List Event → List Awaited
  | [] => []
  | e :: es =>
    let rest := awaited (log ++ [e]) (moved || e.isMoved) es
    if e.isAwaited then ⟨e.options?, e.socket?.bind (deadlineOn · log), moved⟩ :: rest else rest

theorem awaited_append (log : List Event) (moved : Bool) (es fs : List Event) :
    awaited log moved (es ++ fs) =
      awaited log moved es ++ awaited (log ++ es) (moved || moves es) fs := by
  induction es generalizing log moved with
  | nil => simp [awaited, moves]
  | cons e es ih =>
    have rest := ih (log ++ [e]) (moved || e.isMoved)
    have along : (moved || e.isMoved || moves es) = (moved || moves (e :: es)) := by
      simp [moves, Bool.or_assoc]
    rw [along, List.append_assoc, List.singleton_append] at rest
    rw [List.cons_append, awaited, awaited, rest]
    split <;> simp

theorem awaited_nil {es : List Event} (h : ∀ e ∈ es, e.isAwaited = false) (log : List Event)
    (moved : Bool) : awaited log moved es = [] := by
  induction es generalizing log moved with
  | nil => rfl
  | cons e es ih =>
    rw [awaited, h e List.mem_cons_self]
    exact ih (fun x hx => h x (.tail _ hx)) _ _

theorem awaited_since (log : List Event) (moved : Bool) (es : List Event) :
    awaited log moved es =
      (awaited log false es).map fun x => { x with moved := moved || x.moved } := by
  induction es generalizing log moved with
  | nil => rfl
  | cons e es ih =>
    rw [awaited, awaited, ih _ (moved || e.isMoved), ih _ (false || e.isMoved)]
    split <;> simp [Bool.or_assoc]

theorem awaited_options {o : Option Value} {es : List Event}
    (h : ∀ e ∈ es, e.isAwaited = true → e.options? = o) (log : List Event) (moved : Bool) :
    ∀ x ∈ awaited log moved es, x.options = o := by
  induction es generalizing log moved with
  | nil => exact fun x hx => absurd hx List.not_mem_nil
  | cons e es ih =>
    have rest := ih (fun x hx => h x (.tail _ hx)) (log ++ [e]) (moved || e.isMoved)
    intro x hx
    rw [awaited] at hx
    split at hx
    · rename_i he
      rcases List.mem_cons.mp hx with rfl | hx
      · exact h e List.mem_cons_self he
      · exact rest x hx
    · exact rest x hx

section

variable {ω α : Type} {H : Host ω}

/-! ## The deadline a frame waits under -/

/-- The path of a client whose deadline is never set again: each frame waits under the
deadline that was in force, or since a move under the one of its options. -/
def awaiting : Path (Client × Process ω) Event where
  rel a es b := relocating.rel a es b ∧ (a.1.transport.socket < a.2.opened →
    ∀ log, ∀ x ∈ awaited log false es, x.deadline =
      if x.moved then Duration.nonZero a.1.options.readTimeout
      else deadlineOn a.1.transport.socket log)
  refl a := ⟨relocating.refl a, fun _ _ _ hx => absurd hx List.not_mem_nil⟩
  trans := by
    rintro a b c es fs ⟨path, h⟩ ⟨path', h'⟩
    refine ⟨relocating.trans path path', fun hs log x hx => ?_⟩
    obtain ⟨hb, inForce⟩ := path.2 hs
    rw [awaited_append, awaited_since _ (false || moves es)] at hx
    rcases List.mem_append.mp hx with hx | hx
    · exact h hs log x hx
    · obtain ⟨y, hy, rfl⟩ := List.mem_map.mp hx
      have later := h' hb (log ++ es) y hy
      rw [inForce log, path.1] at later
      rw [later]
      cases moves es <;> cases y.moved <;> rfl

theorem awaiting_of_unawaited {a b : Client × Process ω} {es : List Event}
    (path : relocating.rel a es b) (h : ∀ e ∈ es, e.isAwaited = false) : awaiting.rel a es b := by
  refine ⟨path, fun _ log x hx => ?_⟩
  rw [awaited_nil h] at hx
  exact absurd hx List.not_mem_nil

theorem Event.IsSetUp.isAwaited {e : Event} (h : e.IsSetUp) : e.isAwaited = false := by
  rcases e with _ | _ | _ | _ | ⟨_, tag, _⟩ | _ | _ | _ | _ | _
  case wrote => rcases h with rfl | rfl | rfl <;> rfl
  all_goals rfl

theorem moveTo_unawaited (address : String) (s : Client × Process ω) :
    ∀ e ∈ (moveTo H address s).events, e.isAwaited = false := by
  obtain ⟨c, p⟩ := s
  have hm := moving (H := H) address c p
  generalize moveTo H address (c, p) = r at hm ⊢
  have quiet {options : Options} {r : Execution (Process ω) Error Event Client}
      (run : connect H options p = r) : ∀ e ∈ r.events, e.isAwaited = false := fun e he =>
    (connect_isSetUp (H := H) options p e (run ▸ he)).isAwaited
  cases hm with
  | unreadable _ => exact fun e he => absurd he List.not_mem_nil
  | stayed host port _ e p' es run => exact quiet run
  | moved host port _ fresh p' es run =>
    intro e he
    rcases List.mem_append.mp he with he | he
    · exact quiet run e he
    · rcases List.mem_pair.mp he with rfl | rfl <;> rfl

theorem poison_unawaited (error : Error) (s : Client × Process ω) :
    ∀ e ∈ (poison H error s).events, e.isAwaited = false := by
  obtain ⟨c, p⟩ := s
  cases hf : c.fault with
  | some fault => simp [poison_faulted H hf]
  | none => simp [poison_live H hf, Event.isAwaited]

theorem awaiting_exchange (tag : Tag) (payload : Option Value) :
    awaiting.Respects (exchange H tag payload) := by
  rintro ⟨c, p⟩
  refine ⟨relocating_exchange tag payload (c, p), fun _ log x hx => ?_⟩
  have hx' := exchanged H tag payload c p
  generalize exchange H tag payload (c, p) = r at hx hx'
  have own {es : List Event} (quiet : ∀ e ∈ es, e.isAwaited = false)
      (hx : x ∈ awaited log false (.wrote c.transport tag payload :: es)) :
      x.deadline = if x.moved then Duration.nonZero c.options.readTimeout
        else deadlineOn c.transport.socket log := by
    rw [awaited, awaited_nil quiet] at hx
    split at hx
    · rw [List.mem_singleton.mp hx]
      rfl
    · cases hx
  cases hx' with
  | faulted fault hf | closed hf hc | tooLarge live e he => cases hx
  | writeFailed live bytes he e w hw => exact own (by simp [Event.isAwaited]) hx
  | readFailed live bytes he e w w' hw hr => exact own (by simp [Event.isAwaited]) hx
  | answered live bytes he frame w w' hw hr => exact own (by simp [Event.isAwaited]) hx

theorem sendPath_awaiting : SendPath H awaiting where
  exchange := awaiting_exchange
  poison e s := awaiting_of_unawaited (relocating_poison e s) (poison_unawaited e s)
  moveTo address s := awaiting_of_unawaited (relocating_moveTo address s) (moveTo_unawaited address s)
  paused delay s := awaiting_of_unawaited (sendPath_relocating.paused (H := H) delay s)
    (by simp [Event.isAwaited])
  update hf s := awaiting_of_unawaited (sendPath_relocating.update (H := H) hf s) (by simp)

theorem run_awaiting {call : Call} (h : ∀ t, call ≠ .setReadTimeout t) :
    awaiting.Respects (call.run H) :=
  (sendPath_awaiting.requestPath fun isOpen s => awaiting_of_unawaited
    (relocating_update (f := Client.withTxnOpen isOpen) (fun _ => rfl) (fun _ => rfl) s)
    (by simp)).run_of fun t ht => absurd ht (h t)

/-! ## The options a frame carries -/

theorem envelopeOf_options (requestId database : String) (op : Value)
    (options : List (String × Value)) :
    (envelopeOf requestId database op options).get "options" =
      if options.isEmpty then none else some (.object options) := by
  simp only [envelopeOf, Value.get]
  split <;> simp [Map.lookup_insert]

def carrying (o : Option Value) : Path (Client × Process ω) Event :=
  ofEvents fun e => e.isAwaited = true → e.options? = o

theorem carrying_of_unawaited {o : Option Value} {m : Method ω α}
    (h : ∀ s, ∀ e ∈ (m s).events, e.isAwaited = false) : (carrying o).Respects m :=
  fun s e he awaits => by rw [h s e he] at awaits; cases awaits

theorem carrying_exchange {o : Option Value} {tag : Tag} {payload : Option Value}
    (h : ∀ transport, (Event.wrote transport tag payload).options? = o) :
    (carrying o).Respects (exchange H tag payload) := by
  rintro ⟨c, p⟩
  have hx := exchanged H tag payload c p
  generalize exchange H tag payload (c, p) = r at hx ⊢
  cases hx <;> simp [carrying, ofEvents, Event.isAwaited, h]

theorem sendIn_carries (op : Value) (txn : Option String) (s : Client × Process ω) :
    ∀ e ∈ (sendIn H op txn s).events, e.isAwaited = true →
      e.options? = (s.1.envelope op txn).get "options" := by
  obtain ⟨c, p⟩ := s
  rw [sendIn_apply]
  exact respects_sendLoop
    (respects_sendOnce (carrying_exchange fun _ => rfl) fun e =>
      carrying_of_unawaited (poison_unawaited e))
    (fun address => carrying_of_unawaited (moveTo_unawaited address))
    (fun delay => carrying_of_unawaited fun s => by simp [Event.isAwaited]) _ _ _ (c.numbered, p)

theorem request?_names {call : Call} {c : Client} {op : Value} {txn : Option String}
    (h : call.request? c = some (op, txn)) : txn = call.names c.requestTxn := by
  have sql {verb sql : String} {params : List Param}
      (h : sqlRequest c verb sql params = some (op, txn)) : txn = c.requestTxn := by
    obtain ⟨_, _, _, named⟩ := sqlRequest_some h
    exact named
  cases call with
  | transaction statements =>
    simp only [Call.request?] at h
    split at h
    · exact sql h
    · cases h
  | begin =>
    simp only [Call.request?] at h
    split at h
    · exact sql h
    · cases h
  | execute _ | executeParams _ _ | query _ | queryParams _ _ | commit | rollback =>
    simp only [Call.request?] at h
    exact sql h
  | _ => cases h <;> rfl

theorem run_carries (call : Call) (s : Client × Process ω) (log : List Event) :
    ∀ e ∈ (call.run H s).events, e.isAwaited = true →
      e.options? = call.optionsObject (s.1.settings log) := by
  obtain ⟨c, p⟩ := s
  have quiet {m : Method ω Reply} (h : ∀ e ∈ (m (c, p)).events, e.isAwaited = false) :
      ∀ e ∈ (m (c, p)).events, e.isAwaited = true →
        e.options? = call.optionsObject (c.settings log) := fun e he awaits => by
    rw [h e he] at awaits
    cases awaits
  cases hf : call.frame? c with
  | none =>
    by_cases configures : call.Configures
    · refine quiet ?_
      cases call with
      | setReadTimeout t =>
        rcases setReadTimeout_apply (H := H) t c p with ⟨w, -, run⟩ | ⟨e, w, -, run⟩ <;>
          simp [Call.run, run, Execution.after, Event.isAwaited]
      | setRequestTimeout t | setRequestTxn t => simp [Call.run, Execution.after]
      | _ => cases configures
    · have refused := call_refused (H := H) hf configures p
      generalize call.run H (c, p) = r at refused ⊢
      cases refused <;> simp
  | some frame =>
    obtain ⟨tag, payload⟩ := frame
    rcases frame?_cases hf with ⟨rfl, -, -⟩ | ⟨id, rfl, -, -, -⟩ | ⟨op, txn, hr, -, -⟩
    · exact (respects_ping (carrying_exchange fun _ => rfl) fun e =>
        carrying_of_unawaited (poison_unawaited e)).bind (fun _ => respects_pure _) (c, p)
    · exact respects_map _ (respects_cancel (fun _ => carrying_exchange fun _ => rfl) (fun e =>
        carrying_of_unawaited (poison_unawaited e)) id) (c, p)
    · have own : (c.envelope op txn).get "options" = call.optionsObject (c.settings log) := by
        rw [Client.envelope, envelopeOf_options, request?_names hr]
        cases call with
        | ping | cancel _ => cases hr
        | _ => rfl
      rw [run_request hr, ← own]
      exact sendIn_carries op txn (c, p)

theorem run_awaited (call : Call) {s : Client × Process ω}
    (opened : s.1.transport.socket < s.2.opened) (log : List Event) :
    ∀ x ∈ awaited log false (call.run H s).events,
      x.options = call.optionsObject (s.1.settings log) ∧
        x.deadline = if x.moved then Duration.nonZero s.1.options.readTimeout
          else (s.1.settings log).deadline := by
  intro x hx
  refine ⟨awaited_options (run_carries call s log) log false x hx, ?_⟩
  by_cases set : ∃ t, call = .setReadTimeout t
  · obtain ⟨t, rfl⟩ := set
    have none : awaited log false ((Call.setReadTimeout t).run H s).events = [] := by
      obtain ⟨c, p⟩ := s
      rcases setReadTimeout_apply (H := H) t c p with ⟨w, -, run⟩ | ⟨e, w, -, run⟩ <;>
        simp [Call.run, run, Execution.after, awaited, Event.isAwaited]
    rw [none] at hx
    cases hx
  · exact (run_awaiting (H := H) (fun t ht => set ⟨t, ht⟩) s).2 opened log x hx

/-! ## What a call makes of the settings -/

/-- The path along which the client names the same transaction and the same deadline. -/
def naming : Path (Client × Process ω) Event where
  rel a _ b := b.1.requestTxn = a.1.requestTxn ∧ b.1.requestTimeoutMs = a.1.requestTimeoutMs
  refl _ := ⟨rfl, rfl⟩
  trans h h' := ⟨h'.1.trans h.1, h'.2.trans h.2⟩

theorem intrinsic_names : Intrinsic fun c => (c.requestTxn, c.requestTimeoutMs) :=
  ⟨fun _ _ => rfl, fun _ _ _ => rfl⟩

theorem naming_exchange (tag : Tag) (payload : Option Value) :
    naming.Respects (exchange H tag payload) := fun s =>
  Prod.mk.inj (intrinsic_names.exchange tag payload s)

theorem naming_poison (error : Error) : naming.Respects (poison H error) := fun s =>
  Prod.mk.inj (intrinsic_names.poison error s)

theorem naming_moveTo (address : String) : naming.Respects (moveTo H address) := fun s =>
  Prod.mk.inj (intrinsic_names.moveTo address s)

theorem naming_sendIn (op : Value) (txn : Option String) : naming.Respects (sendIn H op txn) := by
  rintro ⟨c, p⟩
  rw [sendIn_apply]
  have once := respects_sendOnce (naming_exchange (H := H) .request (some (c.envelope op txn)))
    naming_poison
  exact respects_sendLoop once naming_moveTo (fun _ _ => ⟨rfl, rfl⟩) _ _ _ (c.numbered, p)

theorem Call.leaves_eq {call : Call} (h : call.ends = none) (ended : Outcome Unit Unit)
    (txn : Option String) : call.leaves ended txn = txn := by
  unfold leaves
  split
  · rename_i named
    exact (named.2.trans h).symm
  · rfl

theorem settle_names (call : Call) (c : Client) (o : Outcome Error Response) :
    (call.settle H c o).requestTimeoutMs = c.requestTimeoutMs ∧
      (call.settle H c o).requestTxn = call.leaves o.shape c.requestTxn := by
  have control (keyword : String) : (controlled H keyword c o).requestTimeoutMs = c.requestTimeoutMs ∧
      (controlled H keyword c o).requestTxn = c.requestTxn := by
    obtain ⟨isOpen, h⟩ := controlled_eq (H := H) keyword c o
    rw [h]
    exact ⟨rfl, rfl⟩
  have forget {txn : String} (ends : call.ends = some txn) :
      (forgotten txn c o).requestTimeoutMs = c.requestTimeoutMs ∧
        (forgotten txn c o).requestTxn = call.leaves o.shape c.requestTxn := by
    cases o with
    | panicked => exact ⟨rfl, by simp [forgotten, Call.leaves]⟩
    | returned _ | failed _ =>
      by_cases h : c.requestTxn = some txn <;>
        simp [forgotten, Client.forgetTxn, Call.leaves, ends, h]
  cases call with
  | begin | commit | rollback =>
    exact ⟨(control _).1, (control _).2.trans (Call.leaves_eq rfl _ _).symm⟩
  | documentCommit txn | documentRollback txn | graphCommit _ txn | graphRollback _ txn =>
    exact forget rfl
  | _ => exact ⟨rfl, (Call.leaves_eq rfl _ _).symm⟩

theorem run_names {call : Call} (configures : ¬call.Configures) (s : Client × Process ω) :
    (call.run H s).state.1.requestTimeoutMs = s.1.requestTimeoutMs ∧
      (call.run H s).state.1.requestTxn = call.leaves (call.run H s).outcome.shape s.1.requestTxn := by
  obtain ⟨c, p⟩ := s
  have kept {r : Execution (Client × Process ω) Error Event Reply} (ends : call.ends = none)
      (h : naming.rel (c, p) r.events r.state) :
      r.state.1.requestTimeoutMs = c.requestTimeoutMs ∧
        r.state.1.requestTxn = call.leaves r.outcome.shape c.requestTxn :=
    ⟨h.2, h.1.trans (Call.leaves_eq ends _ _).symm⟩
  cases hf : call.frame? c with
  | none =>
    have ends : call.ends = none := by
      cases call with
      | documentCommit txn | documentRollback txn | graphCommit _ txn | graphRollback _ txn =>
        simp [Call.frame?, Call.request?] at hf
      | _ => rfl
    have refused := call_refused (H := H) hf configures p
    generalize call.run H (c, p) = r at refused ⊢
    cases refused <;> exact kept ends (naming.refl _)
  | some frame =>
    obtain ⟨tag, payload⟩ := frame
    rcases frame?_cases hf with ⟨rfl, -, -⟩ | ⟨id, rfl, -, -, -⟩ | ⟨op, txn, hr, -, -⟩
    · exact kept rfl ((respects_ping (naming_exchange _ _) naming_poison).bind
        (fun _ => respects_pure _) (c, p))
    · exact kept rfl (respects_map _ (respects_cancel (naming_exchange _) naming_poison id) (c, p))
    · have sent := naming_sendIn (H := H) op txn (c, p)
      rw [run_request hr]
      generalize sendIn H op txn (c, p) = r at sent ⊢
      obtain ⟨timeout, named⟩ := settle_names (H := H) call r.state.1 r.outcome
      refine ⟨timeout.trans sent.2, named.trans ?_⟩
      simp only [concluded, Call.leaves, ne_eq, Outcome.andThen_shape_panicked, sent.1]

theorem connect_settings {options : Options} {p p' : Process ω} {fresh : Client} {es : List Event}
    (run : connect H options p = ⟨.returned fresh, p', es⟩) (log : List Event) :
    fresh.settings (log ++ es) = .initial options := by
  have names : fresh.requestTxn = none ∧ fresh.requestTimeoutMs = none := by
    have hc := connected (H := H) setUpPath_anyPath options p
    rw [run] at hc
    cases hc with
    | shookHands t pre p₁ p' es es' fresh path low high rel shaken =>
      obtain ⟨_, _, _, rfl⟩ := shaken
      exact ⟨rfl, rfl⟩
  rw [Client.settings, names.1, names.2, connect_deadline run log]
  rfl

theorem run_settings (call : Call) {s : Client × Process ω}
    (opened : s.1.transport.socket < s.2.opened) (log : List Event) :
    (call.run H s).state.1.settings (log ++ (call.run H s).events) =
      call.sets (Duration.nonZero s.1.options.readTimeout) (call.run H s).outcome.shape
        (moves (call.run H s).events) (s.1.settings log) := by
  by_cases configures : call.Configures
  · obtain ⟨c, p⟩ := s
    cases call with
    | setReadTimeout t =>
      rcases setReadTimeout_apply (H := H) t c p with ⟨w, -, run⟩ | ⟨e, w, -, run⟩
      · simp [Call.run, run, Execution.after, Call.sets, Client.settings, Client.withReadTimeout,
          deadlineOn_readTimeout]
      · simp [Call.run, run, Call.sets, Client.settings, Client.withReadTimeout]
    | setRequestTimeout t | setRequestTxn t =>
      simp [Call.run, Execution.after, Call.sets, Client.settings, Client.withRequestTimeout,
        Client.withRequestTxn]
    | _ => cases configures
  · have other (t : Option Duration) : call ≠ .setReadTimeout t := by
      rintro rfl
      exact configures trivial
    obtain ⟨timeout, named⟩ := run_names (H := H) configures s
    obtain ⟨-, inForce⟩ := (run_relocating (H := H) other s).2 opened
    have whole : call.sets (Duration.nonZero s.1.options.readTimeout) (call.run H s).outcome.shape
        (moves (call.run H s).events) (s.1.settings log) =
          ⟨call.leaves (call.run H s).outcome.shape s.1.requestTxn, s.1.requestTimeoutMs,
            if moves (call.run H s).events then Duration.nonZero s.1.options.readTimeout
            else deadlineOn s.1.transport.socket log⟩ := by
      cases call with
      | setReadTimeout t | setRequestTimeout t | setRequestTxn t => exact absurd trivial configures
      | _ => rfl
    rw [whole, Client.settings, named, timeout, inForce log]

end

end TricoreSdk
