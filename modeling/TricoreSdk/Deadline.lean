import TricoreSdk.Footprint
import TricoreSdk.Scripted

/-! The read deadline: a socket keeps the last one it was given, and following
the leader brings in a socket that was given the one in the options. -/

namespace TricoreSdk
open Effects Path

/-- The deadline on a socket after an event. -/
def retimed (socket : Socket) (bound : Option Duration) : Event → Option Duration
  | .readTimeout s b => if s = socket then b else bound
  | _ => bound

/-- The read deadline in force on a socket: the last one a log set on it. -/
def deadlineOn (socket : Socket) (log : List Event) : Option Duration :=
  log.foldl (retimed socket) none

theorem deadlineOn_untimed {socket : Socket} {es : List Event}
    (h : ∀ e ∈ es, ∀ b, e ≠ .readTimeout socket b) (log : List Event) :
    deadlineOn socket (log ++ es) = deadlineOn socket log := by
  unfold deadlineOn
  rw [List.foldl_append]
  induction es generalizing log with
  | nil => rfl
  | cons e es ih =>
    have same (bound : Option Duration) : retimed socket bound e = bound := by
      cases e with
      | readTimeout s b => exact if_neg fun hs => h _ List.mem_cons_self b (congrArg (Event.readTimeout · b) hs)
      | _ => rfl
    rw [List.foldl_cons, same]
    exact ih (fun x hx => h x (.tail _ hx)) log

theorem deadlineOn_elsewhere {socket : Socket} {es : List Event}
    (h : ∀ e ∈ es, e.socket? ≠ some socket) (log : List Event) :
    deadlineOn socket (log ++ es) = deadlineOn socket log :=
  deadlineOn_untimed (fun e he _ hb => h e he (congrArg Event.socket? hb)) log

theorem deadlineOn_readTimeout (socket : Socket) (bound : Option Duration) (log : List Event) :
    deadlineOn socket (log ++ [.readTimeout socket bound]) = bound := by
  simp [deadlineOn, retimed]

def Event.isMoved : Event → Bool
  | .moved _ => true
  | _ => false

def moves (es : List Event) : Bool := es.any Event.isMoved

@[simp] theorem moves_append (es fs : List Event) : moves (es ++ fs) = (moves es || moves fs) :=
  List.any_append

theorem moves_of_isSetUp {es : List Event} (h : ∀ e ∈ es, e.IsSetUp) : moves es = false := by
  refine List.any_eq_false.mpr fun e he hm => ?_
  have := h e he
  cases e with
  | moved transport => exact this
  | _ => cases hm

section

variable {ω α β : Type} {H : Host ω}

/-! ## The deadline `connect` ends with -/

/-- Whenever the computation returns, it leaves this deadline in force. -/
def LeavesDeadline (bound : Option Duration) (m : Method ω α) : Prop :=
  ∀ s a, (m s).outcome = .returned a → ∀ log,
    deadlineOn (m s).state.1.transport.socket (log ++ (m s).events) = bound

theorem LeavesDeadline.bind {bound : Option Duration} {f : α → Method ω β}
    (h : ∀ a, LeavesDeadline bound (f a)) (m : Method ω α) : LeavesDeadline bound (m >>= f) := by
  intro s b hb log
  rw [Action.bind_apply] at hb ⊢
  generalize m s = r at hb ⊢
  rcases r with ⟨o, s', es⟩
  cases o with
  | returned a =>
    have last := h a s' b hb (log ++ es)
    rwa [List.append_assoc] at last
  | failed e => cases hb
  | panicked => cases hb

theorem setReadTimeout_apply (timeout : Option Duration) (c : Client) (p : Process ω) :
    (∃ w, H.setReadTimeout c.transport.socket (Duration.nonZero timeout) p.world = (none, w) ∧
      setReadTimeout H timeout (c, p) =
        ⟨.returned (), (c.withReadTimeout timeout, { p with world := w }),
          [.readTimeout c.transport.socket (Duration.nonZero timeout)]⟩) ∨
    ∃ e w, H.setReadTimeout c.transport.socket (Duration.nonZero timeout) p.world = (some e, w) ∧
      setReadTimeout H timeout (c, p) =
        ⟨.failed (Error.fromIo e), (c.withReadTimeout timeout, { p with world := w }), []⟩ := by
  rcases h : H.setReadTimeout c.transport.socket (Duration.nonZero timeout) p.world with ⟨_ | e, w⟩
  · exact .inl ⟨w, rfl, by
      simp [setReadTimeout, transportReadTimeout, Host.readDeadline, Job.ofIo, h, Execution.after,
        Client.withReadTimeout]⟩
  · exact .inr ⟨e, w, rfl, by
      simp [setReadTimeout, transportReadTimeout, Host.readDeadline, Job.ofIo, h, Execution.after,
        Client.withReadTimeout]⟩

theorem setReadTimeout_leaves (timeout : Option Duration) :
    LeavesDeadline (Duration.nonZero timeout) (setReadTimeout H timeout) := by
  rintro ⟨c, p⟩ a ha log
  rcases setReadTimeout_apply (H := H) timeout c p with ⟨w, -, run⟩ | ⟨e, w, -, run⟩
  · rw [run]
    exact deadlineOn_readTimeout ..
  · rw [run] at ha
    cases ha

theorem handshake_leaves (options : Options) :
    LeavesDeadline (Duration.nonZero options.readTimeout) (handshake H options) :=
  .bind (fun _ => .bind (fun _ => .bind (fun _ => .bind (fun _ => .bind (fun _ =>
    setReadTimeout_leaves options.readTimeout) _) _) _) _) _

theorem connect_deadline {options : Options} {p p' : Process ω} {fresh : Client} {es : List Event}
    (run : connect H options p = ⟨.returned fresh, p', es⟩) (log : List Event) :
    deadlineOn fresh.transport.socket (log ++ es) = Duration.nonZero options.readTimeout := by
  have hc := connecting (H := H) options p
  rw [run] at hc
  generalize hr : (⟨.returned fresh, p', es⟩ : Execution (Process ω) Error Event Client) = r at hc
  cases hc with
  | gaveUp e p' es path => cases hr
  | handedOver transport pre p₁ es₁ path low high =>
    have leaves := handshake_leaves (H := H) options (newClient transport pre options, p₁)
    rcases shook : handshake H options (newClient transport pre options, p₁) with ⟨o, s, es₂⟩
    rw [shook] at leaves
    cases o with
    | returned u =>
      rw [owning_returned H shook] at hr
      cases hr
      have last := leaves u rfl (log ++ es₁)
      rwa [List.append_assoc] at last
    | failed e =>
      rw [owning_failed H shook] at hr
      cases hr
    | panicked =>
      rw [owning_panicked H shook] at hr
      cases hr

/-! ## The deadline along calls -/

/-- The path of a client whose deadline is never set again: it keeps the one in
force, or has moved and has the one of its options. -/
def relocating : Path (Client × Process ω) Event where
  rel a es b := b.1.options = a.1.options ∧ (a.1.transport.socket < a.2.opened →
    b.1.transport.socket < b.2.opened ∧ ∀ log, deadlineOn b.1.transport.socket (log ++ es) =
      if moves es then Duration.nonZero a.1.options.readTimeout
      else deadlineOn a.1.transport.socket log)
  refl a := ⟨rfl, fun h => ⟨h, fun log => by simp [moves]⟩⟩
  trans := by
    rintro a b c es fs ⟨ho, h⟩ ⟨ho', h'⟩
    refine ⟨ho'.trans ho, fun hs => ?_⟩
    obtain ⟨hb, hd⟩ := h hs
    obtain ⟨hc, hd'⟩ := h' hb
    refine ⟨hc, fun log => ?_⟩
    rw [← List.append_assoc, hd' (log ++ es), hd log, ho, moves_append]
    cases moves es <;> cases moves fs <;> rfl

theorem relocating_of_quiet {a b : Client × Process ω} {es : List Event}
    (options : b.1.options = a.1.options) (transport : b.1.transport = a.1.transport)
    (opened : a.2.opened ≤ b.2.opened) (stays : moves es = false)
    (untimed : ∀ e ∈ es, ∀ bound, e ≠ .readTimeout a.1.transport.socket bound) :
    relocating.rel a es b := by
  refine ⟨options, fun hs => ⟨transport ▸ Nat.lt_of_lt_of_le hs opened, fun log => ?_⟩⟩
  rw [transport, stays, deadlineOn_untimed untimed]
  rfl

theorem relocating_update {f : Client → Client} (ho : ∀ c, (f c).options = c.options)
    (ht : ∀ c, (f c).transport = c.transport) :
    relocating.Respects (Method.update f : Method ω Unit) := fun a =>
  relocating_of_quiet (ho a.1) (ht a.1) (Nat.le_refl _) rfl (by simp)

theorem relocating_exchange (tag : Tag) (payload : Option Value) :
    relocating.Respects (exchange H tag payload) := by
  rintro ⟨c, p⟩
  have hx := exchanged H tag payload c p
  generalize exchange H tag payload (c, p) = r at hx
  cases hx <;> exact relocating_of_quiet rfl rfl (Nat.le_refl _) rfl (by simp)

theorem relocating_poison (error : Error) : relocating.Respects (poison H error) :=
  respects_poison_of_dropped fun _ _ _ => relocating_of_quiet rfl rfl (Nat.le_refl _) rfl (by simp)

theorem relocating_moveTo (address : String) : relocating.Respects (moveTo H address) := by
  rintro ⟨c, p⟩
  have hm := moving (H := H) address c p
  generalize moveTo H address (c, p) = r at hm
  -- What `connect` does shows on sockets that are new.
  have elsewhere {options : Options} {r : Execution (Process ω) Error Event Client}
      (run : connect H options p = r) :
      p.opened ≤ r.state.opened ∧ moves r.events = false ∧ (c.transport.socket < p.opened →
        ∀ e ∈ r.events, e.socket? ≠ some c.transport.socket) := by
    obtain ⟨ho, hs⟩ := connect_sparing perSocket_unit c.transport.socket options p run
    have set := connect_isSetUp (H := H) options p
    rw [run] at set
    exact ⟨ho, moves_of_isSetUp set, fun h => (hs h).1⟩
  cases hm with
  | unreadable _ => exact relocating.refl _
  | stayed host port _ e p' es run =>
    obtain ⟨ho, stays, own⟩ := elsewhere run
    refine ⟨rfl, fun hs => ⟨Nat.lt_of_lt_of_le hs ho, fun log => ?_⟩⟩
    simp only at stays
    rw [stays, deadlineOn_elsewhere (own hs)]
    rfl
  | moved host port _ fresh p' es run =>
    obtain ⟨low, high⟩ := connect_socket run
    refine ⟨rfl, fun hs => ⟨high, fun log => ?_⟩⟩
    rw [← List.append_assoc, deadlineOn_untimed (by simp), moves_append]
    exact (connect_deadline run log).trans (by simp [moves, Event.isMoved, followOptions])

theorem sendPath_relocating : SendPath H relocating where
  exchange := relocating_exchange
  poison := relocating_poison
  moveTo := relocating_moveTo
  paused _ := fun _ => relocating_of_quiet rfl rfl (Nat.le_refl _) rfl (by simp)
  update hf := relocating_update (fun c => (hf.kept c).options) fun c => (hf.kept c).transport

theorem run_relocating {call : Call} (h : ∀ t, call ≠ .setReadTimeout t) :
    relocating.Respects (call.run H) :=
  (sendPath_relocating.requestPath fun _ => relocating_update (fun _ => rfl) fun _ => rfl).run_of
    fun t ht => absurd ht (h t)

/-! ## Runs -/

/-- The deadline the caller has asked for last, after a call. -/
def Call.asking (asked : Option Duration) : Call → Option Duration
  | setReadTimeout timeout => Duration.nonZero timeout
  | _ => asked

variable (H) in
/-- Whenever the client is at rest in a run, the deadline in force on its
connection is the one asked for last. -/
def KeepsDeadline (asked : Option Duration) : List Event → Client × Process ω → Proc α → Prop
  | log, s, .done _ | log, s, .panic => deadlineOn s.1.transport.socket log = asked
  | log, s, .look next =>
    deadlineOn s.1.transport.socket log = asked ∧ KeepsDeadline asked log s (next s.1)
  | log, s, .call c next =>
    deadlineOn s.1.transport.socket log = asked ∧
      KeepsDeadline (c.asking asked) (log ++ (c.run H s).events) (c.run H s).state
        (next (c.run H s).outcome)

variable (H) in
/-- The call does not lose the deadline that was asked for: one that sets it is taken by
the operating system or asks for nothing new, and any other moves the client
only while what was asked for is what the options say. -/
def Call.SparesDeadline (configured asked : Option Duration) (s : Client × Process ω) :
    Call → Prop
  | setReadTimeout timeout =>
    (H.setReadTimeout s.1.transport.socket (Duration.nonZero timeout) s.2.world).1 = none ∨
      Duration.nonZero timeout = asked
  | call => moves (call.run H s).events = true → asked = configured

variable (H) in
def SparesDeadline (configured : Option Duration) :
    Option Duration → Client × Process ω → Proc α → Prop
  | _, _, .done _ | _, _, .panic => True
  | asked, s, .look next => SparesDeadline configured asked s (next s.1)
  | asked, s, .call c next =>
    c.SparesDeadline H configured asked s ∧
      SparesDeadline configured (c.asking asked) (c.run H s).state (next (c.run H s).outcome)

theorem KeepsDeadline.now {asked : Option Duration} {log : List Event} {s : Client × Process ω}
    {work : Proc α} (h : KeepsDeadline H asked log s work) :
    deadlineOn s.1.transport.socket log = asked := by
  cases work with
  | done result => exact h
  | panic => exact h
  | look next => exact h.1
  | call c next => exact h.1

/-- A client whose deadline in force is the one asked for, and its options'. -/
structure Timed (configured asked : Option Duration) (log : List Event)
    (s : Client × Process ω) : Prop where
  opened : s.1.transport.socket < s.2.opened
  options : Duration.nonZero s.1.options.readTimeout = configured
  inForce : deadlineOn s.1.transport.socket log = asked

theorem Timed.run {configured asked : Option Duration} {log : List Event}
    {s : Client × Process ω} (h : Timed configured asked log s) (call : Call) :
    (call.run H s).state.1.transport.socket < (call.run H s).state.2.opened ∧
      Duration.nonZero (call.run H s).state.1.options.readTimeout = configured ∧
      (deadlineOn (call.run H s).state.1.transport.socket (log ++ (call.run H s).events) =
        call.asking asked ↔ call.SparesDeadline H configured asked s) := by
  by_cases set : ∃ t, call = .setReadTimeout t
  · obtain ⟨t, rfl⟩ := set
    obtain ⟨c, p⟩ := s
    rcases setReadTimeout_apply (H := H) t c p with ⟨w, taken, run⟩ | ⟨e, w, refused, run⟩
    · simp only [Call.run, Action.bind_apply, run, Execution.follow_returned, Action.pure_apply]
      refine ⟨h.opened, h.options, iff_of_true ?_ (.inl ?_)⟩
      · exact deadlineOn_readTimeout ..
      · rw [taken]
    · simp only [Call.run, Action.bind_apply, run, Execution.follow_failed]
      refine ⟨h.opened, h.options, ?_⟩
      have kept : deadlineOn c.transport.socket (log ++ []) = asked := by
        rw [List.append_nil]
        exact h.inForce
      simp only [Client.withReadTimeout, kept, Call.asking, Call.SparesDeadline, refused,
        reduceCtorEq, false_or, eq_comm]
  · have other (t : Option Duration) : call ≠ .setReadTimeout t := fun ht => set ⟨t, ht⟩
    obtain ⟨options, rest⟩ := run_relocating (H := H) other s
    obtain ⟨opened, inForce⟩ := rest h.opened
    refine ⟨opened, by rw [options]; exact h.options, ?_⟩
    have spares : call.SparesDeadline H configured asked s ↔
        (moves (call.run H s).events = true → asked = configured) := by
      cases call with
      | setReadTimeout t => exact absurd rfl (other t)
      | _ => exact Iff.rfl
    have asking : call.asking asked = asked := by
      cases call with
      | setReadTimeout t => exact absurd rfl (other t)
      | _ => rfl
    rw [inForce log, spares, asking, h.options, h.inForce]
    cases moves (call.run H s).events <;> simp [eq_comm]

theorem Timed.keeps_iff {configured asked : Option Duration} {log : List Event}
    {s : Client × Process ω} (h : Timed configured asked log s) (work : Proc α) :
    KeepsDeadline H asked log s work ↔ SparesDeadline H configured asked s work := by
  induction work generalizing asked log s with
  | done result => exact iff_of_true h.inForce trivial
  | panic => exact iff_of_true h.inForce trivial
  | look next ih => exact (and_iff_right h.inForce).trans (ih s.1 h)
  | call c next ih =>
    obtain ⟨opened, options, spares⟩ := h.run (H := H) c
    refine (and_iff_right h.inForce).trans ⟨fun keeps => ?_, fun ⟨spared, rest⟩ => ?_⟩
    · have spared := spares.mp keeps.now
      exact ⟨spared, (ih _ ⟨opened, options, keeps.now⟩).mp keeps⟩
    · exact (ih _ ⟨opened, options, spares.mpr spared⟩).mpr rest

/-- Along every run on a connection, the read deadline in force is the one asked for
last exactly when no call moves the client while that is not the one in the
options, and the operating system takes each new one. -/
theorem keepsDeadline_iff {options : Options} {p p' : Process ω} {c : Client} {es : List Event}
    (run : connect H options p = ⟨.returned c, p', es⟩) (work : Proc α) :
    KeepsDeadline H (Duration.nonZero options.readTimeout) es (c, p') work ↔
      SparesDeadline H (Duration.nonZero options.readTimeout)
        (Duration.nonZero options.readTimeout) (c, p') work := by
  refine Timed.keeps_iff ⟨(connect_socket run).2, ?_, connect_deadline run []⟩ work
  rw [connect_options run]

end

/-- A node that is no longer the leader, and the one it names. -/
def handedOn : List (Except WireError Frame) :=
  [replies .response notLeaderBody, replies .helloOk helloAll, replies .response done]

theorem keepsDeadline_iff_handedOn :
    KeepsDeadline scripted none sessionLog (session, ⟨1, 1, handedOn⟩)
        (Proc.ofCalls [.request .null, .setReadTimeout (some (Duration.fromMillis 1000))]) ↔
      SparesDeadline scripted none none (session, ⟨1, 1, handedOn⟩)
        (Proc.ofCalls [.request .null, .setReadTimeout (some (Duration.fromMillis 1000))]) :=
  keepsDeadline_iff (connect_session _) _

theorem not_keepsDeadline_handedOn :
    ¬∀ options p p' c es, connect scripted options p = ⟨.returned c, p', es⟩ →
      ∀ work : Proc Unit,
        KeepsDeadline scripted (Duration.nonZero options.readTimeout) es (c, p') work := by
  intro h
  have keeps := h _ _ _ _ _ (connect_session handedOn)
    (Proc.ofCalls [.setReadTimeout (some (Duration.fromMillis 1000)), .request .null])
  exact absurd keeps.2.2.now (by decide +kernel)

end TricoreSdk
