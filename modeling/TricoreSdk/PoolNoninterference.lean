import TricoreSdk.PoolInvariant
import TricoreSdk.Settings

/-! What one borrower of a pool leaves to the next. The settings of a connection are
the client's own, and a pool lends the client as it came back. -/

namespace TricoreSdk
open Effects Path

section

variable {ω α : Type} {H : Host ω} {options : Options} {size : Nat}

/-! ## Each connection by itself -/

def Lease.socket (lease : Lease) : Socket := lease.client.transport.socket

def Phase.sockets (a : Phase α) : List Socket := a.leases.map Lease.socket

def System.sockets (sys : System ω α) : List Socket :=
  sys.shared.pool.idle.map Lease.socket ++ sys.threads.flatMap Phase.sockets

/-- Every one of them is open, and no two connections have the same. -/
def Apart (sys : System ω α) : Prop :=
  ∀ socket, sys.sockets.count socket ≤ due sys.shared.process.opened socket

theorem due_mono {born born' : Nat} (h : born ≤ born') (id : Nat) : due born id ≤ due born' id := by
  unfold due
  split <;> split <;> omega

theorem count_opened {low high new : Nat} (h : low ≤ new) (h' : new < high) (socket : Socket) :
    [new].count socket + due low socket ≤ due high socket := by
  simp only [List.count_cons, List.count_nil, beq_iff_eq, due]
  by_cases same : new = socket
  · subst same
    rw [if_pos rfl, if_neg (Nat.not_lt.mpr h), if_pos h']
  · have := due_mono (Nat.le_of_lt (Nat.lt_of_le_of_lt h h')) socket
    simpa only [same, if_false, due, Nat.zero_add] using this

theorem ran_elsewhere {c c' : Client} {sh : Shared ω} {p' : Process ω} {es : List Event}
    (h : ∀ s, (sparing (fun _ _ => ()) s).rel (c, sh.process) es (c', p')) :
    sh.process.opened ≤ p'.opened ∧ ∀ s < sh.process.opened, s ∉ [c.transport.socket] →
      deadlineOn s (sh.log ++ es) = deadlineOn s sh.log := by
  refine ⟨(h 0).1, fun s hs other => deadlineOn_elsewhere ?_ _⟩
  exact ((h s).2 hs fun own => other (List.mem_singleton.mpr own.symm)).2.1

theorem settle_sparing (s : Socket) (outcome : Except Error α) :
    (sparing (fun _ _ => ()) s).Respects (settle H outcome) :=
  respects_settle (respects_rollback (callPath_sparing perSocket_unit)) outcome

theorem closeInner_sparing (s : Socket) :
    (sparing (fun _ _ => ()) s).Respects (closeInner H) :=
  (setUpPath_sparing perSocket_unit).closeInner

theorem connect_elsewhere (options : Options) (sh : Shared ω) :
    sh.process.opened ≤ (connect H options sh.process).state.opened ∧
      ∀ s < sh.process.opened,
        deadlineOn s (sh.log ++ (connect H options sh.process).events) = deadlineOn s sh.log :=
  ⟨(connect_sparing perSocket_unit 0 options sh.process rfl).1, fun s hs =>
    deadlineOn_elsewhere ((connect_sparing perSocket_unit s options sh.process rfl).2 hs).1 _⟩

theorem Moves.elsewhere {sh sh' : Shared ω} {a b : Phase α} (h : Moves H options size sh a b sh') :
    sh.process.opened ≤ sh'.process.opened ∧ ∀ s < sh.process.opened, s ∉ a.sockets →
      deadlineOn s sh'.log = deadlineOn s sh.log := by
  cases h with
  | connected work c run => exact ⟨(connect_elsewhere options sh).1, fun s hs _ =>
      (connect_elsewhere options sh).2 s hs⟩
  | refused work e run => exact ⟨(connect_elsewhere options sh).1, fun s hs _ =>
      (connect_elsewhere options sh).2 s hs⟩
  | call lease c next =>
    exact ran_elsewhere fun s => (callPath_sparing perSocket_unit).run c (lease.client, sh.process)
  | finish lease outcome broken leftOpen run =>
    exact ran_elsewhere fun s => settle_sparing s outcome (lease.client, sh.process)
  | unwind lease | retire lease result =>
    exact ran_elsewhere fun s => closeInner_sparing s (lease.client, sh.process)
  | closeIdle lease rest =>
    have closed := ran_elsewhere fun s => closeInner_sparing (H := H) s (lease.client, sh.process)
    exact ⟨closed.1, fun s hs other => closed.2 s hs fun own =>
      other (List.mem_cons.mpr (.inl (List.mem_singleton.mp own)))⟩
  | _ => exact ⟨Nat.le_refl _, fun _ _ _ => rfl⟩

theorem count_ran {β : Type} {c : Client} {p : Process ω}
    {r : Execution (Client × Process ω) Error Event β}
    (h : ∀ s, (sparing (fun _ _ => ()) s).rel (c, p) r.events r.state)
    (opened : r.state.1.transport.socket < r.state.2.opened) (socket : Socket) :
    [r.state.1.transport.socket].count socket + due p.opened socket ≤
      [c.transport.socket].count socket + due r.state.2.opened socket := by
  have kept := (h socket).2
  have more := due_mono (h 0).1 socket
  simp only [List.count_cons, beq_iff_eq, due] at more ⊢
  by_cases new : r.state.1.transport.socket = socket
  · by_cases old : c.transport.socket = socket
    · simpa only [new, old, if_true] using Nat.add_le_add_left more _
    · have here : ¬socket < p.opened := fun hs => (kept hs old).1 new
      rw [if_pos new, if_neg old, if_neg here, if_pos (new ▸ opened)]
  · simp only [new, if_false]
    omega

theorem run_grounded {s : Client × Process ω} (opened : s.1.transport.socket < s.2.opened) (call : Call) :
    (call.run H s).state.1.transport.socket < (call.run H s).state.2.opened ∧
      Duration.nonZero (call.run H s).state.1.options.readTimeout =
        Duration.nonZero s.1.options.readTimeout := by
  have timed : Timed (Duration.nonZero s.1.options.readTimeout) (deadlineOn s.1.transport.socket []) []
      s := ⟨opened, rfl, rfl⟩
  exact ⟨(timed.run call).1, (timed.run call).2.1⟩

theorem settle_awaiting (outcome : Except Error α) : awaiting.Respects (settle H outcome) :=
  respects_settle ((sendPath_awaiting.requestPath fun isOpen s => awaiting_of_unawaited
    (relocating_update (f := Client.withTxnOpen isOpen) (fun _ => rfl) (fun _ => rfl) s)
    (by simp)).transactionControl "ROLLBACK") outcome

theorem Moves.sockets {sh sh' : Shared ω} {a b : Phase α} (h : Moves H options size sh a b sh')
    (opened : ∀ s ∈ a.sockets, s < sh.process.opened) (socket : Socket) :
    (sh'.pool.idle.map Lease.socket).count socket + b.sockets.count socket +
        due sh.process.opened socket ≤
      (sh.pool.idle.map Lease.socket).count socket + a.sockets.count socket +
        due sh'.process.opened socket := by
  have passes {timedOut : Bool} {deadline : Option Nat} {x : Acquired × PoolState} (work : Proc α)
      (h : PoolState.Passed size timedOut deadline sh.now sh.pool x) :
      (x.2.idle.map Lease.socket).count socket + (x.1.phase deadline work).sockets.count socket =
        (sh.pool.idle.map Lease.socket).count socket := by
    cases h with
    | lent isOpen lease rest hi =>
      simp [Acquired.phase, Phase.sockets, Phase.leases, hi, List.count_cons]
    | _ => simp_all [Acquired.phase, Phase.sockets, Phase.leases]
  have kept {b : Phase α} {sh' : Shared ω} (same : sh'.pool = sh.pool)
      (less : b.sockets.count socket ≤ a.sockets.count socket)
      (more : sh.process.opened ≤ sh'.process.opened) :
      (sh'.pool.idle.map Lease.socket).count socket + b.sockets.count socket +
          due sh.process.opened socket ≤
        (sh.pool.idle.map Lease.socket).count socket + a.sockets.count socket +
          due sh'.process.opened socket := by
    have := due_mono more socket
    rw [same]
    omega
  cases h with
  | acquire deadline work =>
    have := passes work (PoolState.acquire_passed size false deadline sh.now sh.pool)
    simp only [Shared.withPool, Phase.sockets, Phase.leases, List.map_nil, List.count_nil] at this ⊢
    omega
  | resume timedOut deadline work =>
    have := passes work (PoolState.resume_passed size timedOut deadline sh.now sh.pool)
    simp only [Shared.withPool, Phase.sockets, Phase.leases, List.map_nil, List.count_nil] at this ⊢
    omega
  | connected work c run =>
    have returns : connect H options sh.process =
        ⟨.returned c, (connect H options sh.process).state, (connect H options sh.process).events⟩ := by
      rw [← run]
    obtain ⟨low, high⟩ := connect_socket returns
    have here := count_opened low high socket
    simp only [Shared.ran, Phase.sockets, Phase.leases, List.map_cons, List.map_nil, List.count_nil,
      Lease.socket]
    omega
  | refused work e run => exact kept rfl (Nat.le_refl _) (connect_elsewhere options sh).1
  | call lease c next =>
    have grounded : (lease.client, sh.process).1.transport.socket < (lease.client, sh.process).2.opened :=
      opened _ List.mem_cons_self
    have here := count_ran (r := c.run H (lease.client, sh.process))
      (fun s => (callPath_sparing perSocket_unit).run c _) (run_grounded grounded c).1 socket
    simp only [Shared.ran, Phase.sockets, Phase.leases, List.map_cons, List.map_nil, Lease.socket]
      at here ⊢
    omega
  | finish lease outcome broken leftOpen run =>
    have grounded := (settle_awaiting (H := H) outcome (lease.client, sh.process)).1.2
      (opened _ List.mem_cons_self)
    have here := count_ran (r := settle H outcome (lease.client, sh.process))
      (fun s => settle_sparing s outcome _) grounded.1 socket
    simp only [Shared.ran, Phase.sockets, Phase.leases, List.map_cons, List.map_nil, Lease.socket]
      at here ⊢
    omega
  | release lease broken result =>
    unfold PoolState.release
    split <;> simp [Shared.withPool, Phase.sockets, Phase.leases, List.count_cons]
  | unwind lease | retire lease result =>
    exact kept rfl (Nat.zero_le _) ((closeInner_sparing 0 (lease.client, sh.process)).1)
  | closeIdle lease rest =>
    refine kept rfl ?_ (closeInner_sparing 0 (lease.client, sh.process)).1
    exact List.count_le_count_cons
  | close =>
    simp [Shared.withPool, PoolState.close, Phase.sockets, Phase.leases, List.count_reverse]
  | _ => exact Nat.le_refl _

theorem count_sockets_at (sh : Shared ω) (before after : List (Phase α)) (a : Phase α)
    (socket : Socket) :
    (System.sockets ⟨sh, before ++ a :: after⟩).count socket =
      (sh.pool.idle.map Lease.socket).count socket + (before.flatMap Phase.sockets).count socket +
        a.sockets.count socket + (after.flatMap Phase.sockets).count socket := by
  simp only [System.sockets, List.count_append, List.flatMap_append, List.flatMap_cons]
  omega

theorem Apart.opened {sys : System ω α} (h : Apart sys) {socket : Socket}
    (hs : socket ∈ sys.sockets) : socket < sys.shared.process.opened := by
  have here := h socket
  have some := List.count_pos_iff.mpr hs
  unfold due at here
  split at here
  · assumption
  · omega

theorem mem_sockets_at {sh : Shared ω} {before after : List (Phase α)} {a : Phase α}
    {socket : Socket} (h : socket ∈ a.sockets) :
    socket ∈ System.sockets ⟨sh, before ++ a :: after⟩ :=
  List.mem_append_right _ (List.mem_flatMap.mpr
    ⟨a, List.mem_append_right _ List.mem_cons_self, h⟩)

theorem Apart.step {a b : System ω α} (h : Apart a) (hs : Step H options size a b) : Apart b := by
  intro socket
  have here := h socket
  rcases hs.moves_or_beside with ⟨before, after, x, y, sh, sh', hm, rfl, rfl⟩ | beside
  · have change := hm.sockets (fun s hs => h.opened (mem_sockets_at hs)) socket
    rw [count_sockets_at] at here ⊢
    simp only at here ⊢
    omega
  · have none (x : Phase α) (h : x.occupied = none) : x.sockets = [] := by
      simp [Phase.sockets, Phase.leases_of_unoccupied h]
    unfold System.sockets at here ⊢
    rw [beside.flatMap _ none, beside.idle]
    exact Nat.le_trans here (due_mono beside.opened socket)

theorem Reachable.apart {sys : System ω α} (h : Reachable H options size sys) : Apart sys := by
  refine h.invariant (fun process threads socket => ?_) fun _ _ _ => Apart.step
  rw [System.sockets, initial_flatMap process threads Phase.sockets rfl]
  simp [System.initial, PoolState.new]

/-! ## What the clients of a pool are opened with -/

/-- The client moves with the read deadline of these options. -/
def Lease.Configured (options : Options) (lease : Lease) : Prop :=
  Duration.nonZero lease.client.options.readTimeout = Duration.nonZero options.readTimeout

theorem Moves.configured {sh sh' : Shared ω} {a b : Phase α} (h : Moves H options size sh a b sh')
    (opened : ∀ s ∈ a.sockets, s < sh.process.opened)
    (idle : ∀ lease ∈ sh.pool.idle, lease.Configured options)
    (own : ∀ lease ∈ a.leases, lease.Configured options) :
    (∀ lease ∈ sh'.pool.idle, lease.Configured options) ∧
      ∀ lease ∈ b.leases, lease.Configured options := by
  have passes {timedOut : Bool} {deadline : Option Nat} {x : Acquired × PoolState} (work : Proc α)
      (h : PoolState.Passed size timedOut deadline sh.now sh.pool x) :
      (∀ lease ∈ x.2.idle, lease.Configured options) ∧
        ∀ lease ∈ (x.1.phase deadline work).leases, lease.Configured options := by
    cases h with
    | lent isOpen lease rest hi =>
      rw [hi] at idle
      exact ⟨fun l hl => idle l (.tail _ hl), fun l hl => idle l (List.mem_singleton.mp hl ▸ .head _)⟩
    | _ => exact ⟨idle, fun _ hl => absurd hl List.not_mem_nil⟩
  have one {lease : Lease} (h : lease.Configured options) :
      ∀ l ∈ [lease], l.Configured options := fun l hl => List.mem_singleton.mp hl ▸ h
  cases h with
  | acquire deadline work => exact passes work (PoolState.acquire_passed size false deadline _ _)
  | resume timedOut deadline work => exact passes work (PoolState.resume_passed size timedOut deadline _ _)
  | connected work c run =>
    have returns : connect H options sh.process =
        ⟨.returned c, (connect H options sh.process).state, (connect H options sh.process).events⟩ := by
      rw [← run]
    refine ⟨idle, one ?_⟩
    rw [Lease.Configured, connect_options returns]
  | call lease c next =>
    have grounded : (lease.client, sh.process).1.transport.socket < (lease.client, sh.process).2.opened :=
      opened _ List.mem_cons_self
    exact ⟨idle, one ((run_grounded grounded c).2.trans (own _ List.mem_cons_self))⟩
  | finish lease outcome broken leftOpen run =>
    refine ⟨idle, one ?_⟩
    rw [Lease.Configured, (settle_awaiting outcome (lease.client, sh.process)).1.1]
    exact own _ List.mem_cons_self
  | release lease broken result =>
    have mine := own _ List.mem_cons_self
    unfold PoolState.release
    split
    · exact ⟨idle, one mine⟩
    · exact ⟨List.forall_mem_cons.mpr ⟨mine, idle⟩, fun _ hl => absurd hl List.not_mem_nil⟩
  | close =>
    exact ⟨fun _ hl => absurd hl List.not_mem_nil, fun lease hl => idle _ (List.mem_reverse.mp hl)⟩
  | closeIdle lease rest => exact ⟨idle, fun l hl => own l (.tail _ hl)⟩
  | look lease next => exact ⟨idle, own⟩
  | unwind lease | retire lease result => exact ⟨idle, fun _ hl => absurd hl List.not_mem_nil⟩
  | _ => exact ⟨idle, fun _ hl => absurd hl List.not_mem_nil⟩

def AllConfigured (options : Options) (sys : System ω α) : Prop :=
  (∀ lease ∈ sys.shared.pool.idle, lease.Configured options) ∧
    ∀ a ∈ sys.threads, ∀ lease ∈ a.leases, lease.Configured options

theorem AllConfigured.step {a b : System ω α} (h : AllConfigured options a) (apart : Apart a)
    (hs : Step H options size a b) : AllConfigured options b := by
  obtain ⟨idle, all⟩ := h
  rcases hs.moves_or_beside with ⟨before, after, x, y, sh, sh', hm, rfl, rfl⟩ | beside
  · obtain ⟨idle', own⟩ := hm.configured (fun s hs => apart.opened (mem_sockets_at hs)) idle
      (all _ (List.mem_append_right _ List.mem_cons_self))
    exact ⟨idle', forall_mem_replaced all own⟩
  · refine ⟨by rwa [beside.idle], beside.forall_mem (fun x none lease hl => ?_) all⟩
    rw [Phase.leases_of_unoccupied none] at hl
    cases hl

theorem Reachable.configured {sys : System ω α} (h : Reachable H options size sys) :
    AllConfigured options sys := by
  refine h.invariant (fun process threads => ⟨fun _ hl => absurd hl List.not_mem_nil, ?_⟩)
    fun _ _ reached all => all.step reached.apart
  intro a ha lease hl
  rw [List.eq_of_mem_replicate ha] at hl
  cases hl

/-! ## Idle connections -/

variable (options) in
/-- Every connection that the step puts back has the settings it was opened with. -/
def HandsBackAsNew (a b : System ω α) : Prop :=
  ∀ lease ∈ b.shared.pool.idle, lease ∉ a.shared.pool.idle →
    lease.client.settings a.shared.log = .initial options

theorem Step.idle_deadline {a b : System ω α} (h : Step H options size a b) (apart : Apart a)
    {lease : Lease} (hl : lease ∈ a.shared.pool.idle) :
    deadlineOn lease.socket b.shared.log = deadlineOn lease.socket a.shared.log := by
  cases h with
  | moves before after x y sh sh' hm =>
    have mine : lease.socket ∈ sh.pool.idle.map Lease.socket := List.mem_map_of_mem hl
    refine hm.elsewhere.2 _ (apart.opened (List.mem_append_left _ mine)) fun also => ?_
    have one := apart lease.socket
    have here := List.count_pos_iff.mpr mine
    have there := List.count_pos_iff.mpr also
    rw [count_sockets_at] at one
    unfold due at one
    split at one <;> omega
  | _ => rfl

theorem Step.log_of_handedBack {a b : System ω α} (h : Step H options size a b) {lease : Lease}
    (back : lease ∈ b.shared.pool.idle) (away : lease ∉ a.shared.pool.idle) :
    b.shared.log = a.shared.log := by
  cases h with
  | moves before after x y sh sh' hm =>
    cases hm with
    | connected _ _ _ | refused _ _ _ | call _ _ _ | finish _ _ _ _ _ | unwind _ | retire _ _
    | closeIdle _ _ => exact absurd back away
    | _ => rfl
  | _ => rfl

theorem ReachableIf.asNew {sys : System ω α}
    (h : ReachableIf H options size (HandsBackAsNew options) sys) :
    ∀ lease ∈ sys.shared.pool.idle, lease.client.settings sys.shared.log = .initial options := by
  refine h.invariant (I := fun sys => ∀ lease ∈ sys.shared.pool.idle,
    lease.client.settings sys.shared.log = .initial options)
    (fun process threads lease hl => absurd hl List.not_mem_nil)
    fun a b reached asNew step back lease hl => ?_
  by_cases idle : lease ∈ a.shared.pool.idle
  · rw [← asNew lease idle]
    exact congrArg (Settings.mk _ _) (step.idle_deadline reached.apart idle)
  · rw [step.log_of_handedBack hl idle]
    exact back lease hl idle

/-! ## A borrow among others -/

section

variable {β : Type} {before after : List β} {a b x : β} {i : Nat}

theorem getElem?_at (before after : List β) (a : β) : (before ++ a :: after)[before.length]? = some a := by
  simp

theorem getElem?_beside (h : i ≠ before.length) :
    (before ++ a :: after)[i]? = (before ++ b :: after)[i]? := by
  by_cases left : i < before.length
  · rw [List.getElem?_append_left left, List.getElem?_append_left left]
  · obtain ⟨k, rfl⟩ : ∃ k, i = before.length + (k + 1) := ⟨i - before.length - 1, by omega⟩
    simp [List.getElem?_append_right]

theorem mem_beside (h : i ≠ before.length) (hx : (before ++ a :: after)[i]? = some x) :
    x ∈ before ∨ x ∈ after := by
  by_cases left : i < before.length
  · rw [List.getElem?_append_left left] at hx
    exact .inl (List.mem_of_getElem? hx)
  · obtain ⟨k, rfl⟩ : ∃ k, i = before.length + (k + 1) := ⟨i - before.length - 1, by omega⟩
    simp only [List.getElem?_append_right (Nat.le_add_right _ _), Nat.add_sub_cancel_left,
      List.getElem?_cons_succ] at hx
    exact .inr (List.mem_of_getElem? hx)

end

theorem Beside.working {a b : System ω α} (h : Beside a b) {i : Nat} {lease : Lease} {work : Proc α}
    (hw : b.threads[i]? = some (.working lease work)) :
    a.threads[i]? = some (.working lease work) := by
  have same := congrArg (fun phases => phases[i]?) h.threads
  simp only [List.getElem?_map, hw, Option.map_some, Phase.occupied] at same
  obtain ⟨x, hx, busy⟩ := Option.map_eq_some_iff.mp same.symm
  rw [hx, Phase.eq_of_occupied busy]

theorem Step.working_cases {a b : System ω α} (h : Step H options size a b) {i : Nat} {lease : Lease}
    {work : Proc α} (hw : b.threads[i]? = some (.working lease work)) :
    a.threads[i]? = some (.working lease work) ∨
      ∃ before after x, i = before.length ∧ a = ⟨a.shared, before ++ x :: after⟩ ∧
        b = ⟨b.shared, before ++ .working lease work :: after⟩ ∧
        Moves H options size a.shared x (.working lease work) b.shared := by
  rcases h.moves_or_beside with ⟨before, after, x, y, sh, sh', hm, rfl, rfl⟩ | beside
  · by_cases here : i = before.length
    · subst here
      rw [getElem?_at] at hw
      cases hw
      exact .inr ⟨before, after, x, rfl, rfl, rfl, hm⟩
    · exact .inl ((getElem?_beside here).trans hw)
  · exact .inl (beside.working hw)

theorem Proc.look_ne (work : Proc α) :
    ∀ (next : Client → Proc α) (c : Client), work = .look next → next c ≠ work := by
  induction work with
  | look f ih =>
    rintro next c ⟨⟩ again
    exact ih c f c again rfl
  | _ => exact fun _ _ h => nomatch h

theorem Proc.call_ne (work : Proc α) :
    ∀ (call : Call) (next : Outcome Error Reply → Proc α) (o : Outcome Error Reply),
      work = .call call next → next o ≠ work := by
  induction work with
  | call k f ih =>
    rintro call next o ⟨⟩ again
    exact ih o k f o again rfl
  | _ => exact fun _ _ _ h => nomatch h

theorem Moves.ne_working {sh sh' : Shared ω} {a b : Phase α} (h : Moves H options size sh a b sh')
    {lease : Lease} {work : Proc α} (ha : a = .working lease work) : b ≠ .working lease work := by
  intro hb
  cases h with
  | look l next =>
    cases ha
    exact Proc.look_ne _ next _ rfl (Phase.working.inj hb).2
  | call l c next =>
    cases ha
    exact Proc.call_ne _ c next _ rfl (Phase.working.inj hb).2
  | _ => cases ha <;> cases hb

/-- A step that leaves a thread at its closure changes no deadline on its connection. -/
theorem Step.still_deadline {a b : System ω α} (h : Step H options size a b) (apart : Apart a) {i : Nat}
    {lease : Lease} {work : Proc α} (here : a.threads[i]? = some (.working lease work))
    (still : b.threads[i]? = some (.working lease work)) :
    deadlineOn lease.socket b.shared.log = deadlineOn lease.socket a.shared.log := by
  cases h with
  | moves before after x y sh sh' hm =>
    by_cases own : i = before.length
    · subst own
      rw [getElem?_at] at here still
      cases still
      exact absurd rfl (hm.ne_working (Option.some.inj here))
    · have mine : lease.socket ∈ (Phase.working lease work).sockets := List.mem_cons_self
      have beside : 0 < (before.flatMap Phase.sockets).count lease.socket +
          (after.flatMap Phase.sockets).count lease.socket := by
        rcases mem_beside own here with hx | hx
        · have := List.count_pos_iff.mpr (List.mem_flatMap.mpr ⟨_, hx, mine⟩)
          omega
        · have := List.count_pos_iff.mpr (List.mem_flatMap.mpr ⟨_, hx, mine⟩)
          omega
      have known : lease.socket ∈ System.sockets ⟨sh, before ++ x :: after⟩ :=
        List.mem_append_right _ (List.mem_flatMap.mpr ⟨_, List.mem_of_getElem? here, mine⟩)
      refine hm.elsewhere.2 _ (apart.opened known) fun also => ?_
      have one := apart lease.socket
      have there := List.count_pos_iff.mpr also
      rw [count_sockets_at] at one
      unfold due at one
      split at one <;> omega
  | _ => rfl

/-- A call that was made: how it ended, and whether it moved the client. -/
structure Made where
  call : Call
  ended : Outcome Unit Unit
  moved : Bool

def Made.of {σ : Type} (call : Call) (r : Execution σ Error Event Reply) : Made where
  call := call
  ended := r.outcome.shape
  moved := moves r.events

/-- The settings that calls leave, one after the other. -/
def Settings.after (configured : Option Duration) (s : Settings) (made : List Made) : Settings :=
  made.foldl (fun s m => m.call.sets configured m.ended m.moved s) s

theorem Settings.after_concat (configured : Option Duration) (s : Settings) (made : List Made) (m : Made) :
    s.after configured (made ++ [m]) = m.call.sets configured m.ended m.moved (s.after configured made) := by
  simp [after]

variable (H options size) in
/-- A step that lends thread `i` a connection, from the pool or a new one. -/
structure Lends (i : Nat) (a b : System ω α) : Prop where
  step : Step H options size a b
  waited : ∀ lease work, a.threads[i]? ≠ some (.working lease work)
  works : ∃ lease work, b.threads[i]? = some (.working lease work)

variable (H options size) in
/-- How a borrow goes on: thread `i` looks at its client and makes calls, and between these
the others do anything. -/
inductive Going (i : Nat) (start : System ω α) : List Made → System ω α → Prop
  | start : Going i start [] start
  | look (made : List Made) (sh : Shared ω) (before after : List (Phase α)) (lease : Lease)
    (next : Client → Proc α) (own : i = before.length)
    (h : Going i start made ⟨sh, before ++ .working lease (.look next) :: after⟩) :
    Going i start made ⟨sh, before ++ .working lease (next lease.client) :: after⟩
  | call (made : List Made) (sh : Shared ω) (before after : List (Phase α)) (lease : Lease)
    (c : Call) (next : Outcome Error Reply → Proc α) (own : i = before.length)
    (h : Going i start made ⟨sh, before ++ .working lease (.call c next) :: after⟩) :
    Going i start (made ++ [.of c (c.run H (lease.client, sh.process))])
      ⟨sh.ran (c.run H (lease.client, sh.process)).state.2 (c.run H (lease.client, sh.process)).events,
        before ++ .working ⟨lease.id, (c.run H (lease.client, sh.process)).state.1⟩
          (next (c.run H (lease.client, sh.process)).outcome) :: after⟩
  | others (made : List Made) (a b : System ω α) (step : Step H options size a b)
    (still : b.threads[i]? = a.threads[i]?) (h : Going i start made a) : Going i start made b

variable (H) in
/-- How calls go on a client of its own, with the rest of the process in between. -/
inductive Alone (log : List Event) (s : Client × Process ω) :
    List Made → List Event → Client × Process ω → Prop
  | start : Alone log s [] log s
  | call (made : List Made) (log' : List Event) (s' : Client × Process ω) (c : Call)
    (h : Alone log s made log' s') :
    Alone log s (made ++ [.of c (c.run H s')]) (log' ++ (c.run H s').events) (c.run H s').state
  | others (made : List Made) (log' : List Event) (c : Client) (p p' : Process ω)
    (opened : p.opened ≤ p'.opened) (h : Alone log s made log' (c, p)) : Alone log s made log' (c, p')

theorem Going.path {i : Nat} {start sys : System ω α} {made : List Made}
    (h : Going H options size i start made sys) :
    Relation.ReflTransGen (Step H options size) start sys := by
  induction h with
  | start => exact .refl
  | look made sh before after lease next own _ ih =>
    exact ih.tail (.moves before after _ _ _ _ (.look lease next))
  | call made sh before after lease c next own _ ih =>
    exact ih.tail (.moves before after _ _ _ _ (.call lease c next))
  | others made a b step still _ ih => exact ih.tail step

theorem Going.step {i : Nat} {start a b : System ω α} {made : List Made}
    (h : Going H options size i start made a) (hs : Step H options size a b)
    (worked : ∃ lease work, a.threads[i]? = some (.working lease work))
    (works : ∃ lease work, b.threads[i]? = some (.working lease work)) :
    ∃ more, Going H options size i start (made ++ more) b := by
  obtain ⟨lease, work, hw⟩ := works
  rcases hs.working_cases hw with same | ⟨before, after, x, rfl, ha, hb, hm⟩
  · exact ⟨[], by simpa using .others made a b hs (hw.trans same.symm) h⟩
  · obtain ⟨lease', work', hx⟩ := worked
    rw [ha] at hx h
    rw [hb]
    rw [getElem?_at] at hx
    cases hx
    generalize hy : Phase.working lease work = y at hm ⊢
    generalize b.shared = sh' at hm ⊢
    cases hm with
    | look _ next => exact ⟨[], by simpa using .look made _ before after lease' next rfl h⟩
    | call _ c next => exact ⟨_, .call made _ before after lease' c next rfl h⟩
    | _ => cases hy

theorem Lends.settings {i : Nat} {a b : System ω α} (h : Lends H options size i a b)
    (asNew : ∀ lease ∈ a.shared.pool.idle, lease.client.settings a.shared.log = .initial options)
    {lease : Lease} {work : Proc α} (hw : b.threads[i]? = some (.working lease work)) :
    lease.client.settings b.shared.log = .initial options := by
  rcases h.step.working_cases hw with worked | ⟨before, after, x, rfl, ha, -, hm⟩
  · exact absurd worked (h.waited lease work)
  · have idle {lease' : Lease} {work' : Proc α} : x ≠ .working lease' work' := by
      rintro rfl
      refine h.waited lease' work' ?_
      rw [ha]
      exact getElem?_at ..
    have passed {timedOut : Bool} {deadline : Option Nat} {work' : Proc α} {y : Acquired × PoolState}
        (hy : PoolState.Passed size timedOut deadline a.shared.now a.shared.pool y)
        (phase : y.1.phase deadline work' = .working lease work) :
        lease.client.settings a.shared.log = .initial options := by
      cases hy with
      | lent isOpen l rest hi =>
        cases phase
        exact asNew _ (hi ▸ List.mem_cons_self)
      | _ => cases phase
    generalize hy : Phase.working lease work = y at hm
    generalize b.shared = sh' at hm ⊢
    cases hm with
    | acquire deadline work' =>
      exact passed (PoolState.acquire_passed size false deadline _ _) hy.symm
    | resume timedOut deadline work' =>
      exact passed (PoolState.resume_passed size timedOut deadline _ _) hy.symm
    | connected work' c run =>
      cases hy
      have returns : connect H options a.shared.process = ⟨.returned c,
          (connect H options a.shared.process).state, (connect H options a.shared.process).events⟩ := by
        rw [← run]
      exact connect_settings returns _
    | look _ _ | call _ _ _ => exact absurd rfl idle
    | release l broken result => split at hy <;> cases hy
    | _ => cases hy

theorem Reachable.working {sys : System ω α} (h : Reachable H options size sys) {i : Nat} {lease : Lease}
    {work : Proc α} (hw : sys.threads[i]? = some (.working lease work)) :
    lease.socket < sys.shared.process.opened ∧ lease.Configured options := by
  have mem := List.mem_of_getElem? hw
  have own : lease ∈ (Phase.working lease work).leases := List.mem_cons_self
  exact ⟨h.apart.opened (List.mem_append_right _ (List.mem_flatMap.mpr
    ⟨_, mem, List.mem_map_of_mem own⟩)), h.configured.2 _ mem lease own⟩

theorem Going.reachable {i : Nat} {start sys : System ω α} {made : List Made}
    (h : Going H options size i start made sys) (reached : Reachable H options size start) :
    Reachable H options size sys := by
  obtain ⟨process, threads, path⟩ := reached
  exact ⟨process, threads, path.trans h.path⟩

theorem Going.settings {i : Nat} {start sys : System ω α} {made : List Made} {s : Settings}
    (h : Going H options size i start made sys) (reached : Reachable H options size start)
    (works : ∃ lease work, start.threads[i]? = some (.working lease work))
    (begins : ∀ lease work, start.threads[i]? = some (.working lease work) →
      lease.client.settings start.shared.log = s) :
    ∃ lease work, sys.threads[i]? = some (.working lease work) ∧
      lease.client.settings sys.shared.log = s.after (Duration.nonZero options.readTimeout) made := by
  induction h with
  | start =>
    obtain ⟨lease, work, hw⟩ := works
    exact ⟨lease, work, hw, begins lease work hw⟩
  | look made sh before after lease next own h ih =>
    obtain ⟨lease', work', hw, settings⟩ := ih
    rw [own, getElem?_at] at hw
    cases hw
    exact ⟨lease, _, own ▸ getElem?_at .., settings⟩
  | call made sh before after lease c next own h ih =>
    obtain ⟨lease', work', hw, settings⟩ := ih
    obtain ⟨opened, configured⟩ := (h.reachable reached).working hw
    rw [own, getElem?_at] at hw
    cases hw
    refine ⟨_, _, own ▸ getElem?_at .., ?_⟩
    have grounded : (lease.client, sh.process).1.transport.socket < (lease.client, sh.process).2.opened :=
      opened
    have run := run_settings (H := H) c grounded sh.log
    rw [Settings.after_concat, ← settings]
    unfold Lease.Configured at configured
    rw [configured] at run
    exact run
  | others made a b step still h ih =>
    obtain ⟨lease, work, hw, settings⟩ := ih
    have worked := still.trans hw
    refine ⟨lease, work, worked, ?_⟩
    rw [← settings]
    exact congrArg (Settings.mk _ _) (step.still_deadline (h.reachable reached).apart hw worked)

theorem Alone.settings {log₀ log : List Event} {s₀ s : Client × Process ω} {made : List Made}
    (h : Alone H log₀ s₀ made log s) (opened : s₀.1.transport.socket < s₀.2.opened)
    (configured : Duration.nonZero s₀.1.options.readTimeout = Duration.nonZero options.readTimeout) :
    s.1.transport.socket < s.2.opened ∧
      Duration.nonZero s.1.options.readTimeout = Duration.nonZero options.readTimeout ∧
      s.1.settings log =
        (s₀.1.settings log₀).after (Duration.nonZero options.readTimeout) made := by
  induction h with
  | start => exact ⟨opened, configured, rfl⟩
  | call made log' s' c h ih =>
    obtain ⟨opened', configured', settings⟩ := ih
    obtain ⟨opened'', configured''⟩ := run_grounded (H := H) opened' c
    refine ⟨opened'', configured''.trans configured', ?_⟩
    rw [run_settings c opened', Settings.after_concat, settings, configured']
    rfl
  | others made log' c p p' later h ih => exact ⟨Nat.lt_of_lt_of_le ih.1 later, ih.2⟩

/-! ## Two borrowers -/

/-- The path of a clean-up: the client goes on naming what it named, and every frame does. -/
def restating : Path (Client × Process ω) Event where
  rel a es b := naming.rel a es b ∧ ∀ e ∈ es, e.isAwaited = true →
    e.options? = Call.rollback.optionsObject (a.1.settings [])
  refl a := ⟨naming.refl a, fun _ he => absurd he List.not_mem_nil⟩
  trans := by
    rintro a b c es fs ⟨names, h⟩ ⟨names', h'⟩
    refine ⟨naming.trans names names', fun e he awaits => ?_⟩
    rcases List.mem_append.mp he with he | he
    · exact h e he awaits
    · rw [h' e he awaits]
      simp [Call.optionsObject, Call.names, Client.settings, names.1, names.2]

theorem restating_rollback : restating.Respects (rollback H) := by
  intro s
  have names := run_names (H := H) (show ¬Call.rollback.Configures from id) s
  have carries := run_carries (H := H) .rollback s []
  rw [Call.leaves_eq rfl] at names
  simp only [Call.run, Action.bind_apply] at names carries
  rcases hr : rollback H s with ⟨o, s', es⟩
  rw [hr] at names carries
  cases o <;> simp only [Execution.follow_returned, Execution.follow_failed, Execution.follow_panicked,
    Action.pure_apply, Execution.after_state, Execution.after_events, List.append_nil] at names carries <;>
    exact ⟨⟨names.2, names.1⟩, carries⟩

/-- The frames that two clients' callers wait for go by the same: they carry the same options
and wait under the same deadline, both before the call has moved the client or both after. -/
def Matching (xs ys : List Awaited) : Prop :=
  ∀ x ∈ xs, ∀ y ∈ ys, x.options = y.options ∧ (x.moved = y.moved → x.deadline = y.deadline)

variable (α H) in
/-- Two clients whose next calls, and the pool's clean-up after them, go by the same. -/
structure Indistinct (log log' : List Event) (s s' : Client × Process ω) : Prop where
  waits : deadlineOn s.1.transport.socket log = deadlineOn s'.1.transport.socket log'
  calls : ∀ call : Call,
    Matching (awaited log false (call.run H s).events) (awaited log' false (call.run H s').events)
  cleanUp : ∀ outcome : Except Error α,
    Matching (awaited log false (settle H outcome s).events) (awaited log' false (settle H outcome s').events)

theorem indistinct_of_settings {log log' : List Event} {s s' : Client × Process ω}
    (settings : s.1.settings log = s'.1.settings log')
    (configured : Duration.nonZero s.1.options.readTimeout = Duration.nonZero s'.1.options.readTimeout)
    (opened : s.1.transport.socket < s.2.opened) (opened' : s'.1.transport.socket < s'.2.opened) :
    Indistinct α H log log' s s' := by
  have waits : deadlineOn s.1.transport.socket log = deadlineOn s'.1.transport.socket log' :=
    congrArg Settings.deadline settings
  refine ⟨waits, fun call x hx y hy => ?_, fun outcome x hx y hy => ?_⟩
  · obtain ⟨options, deadline⟩ := run_awaited call opened log x hx
    obtain ⟨options', deadline'⟩ := run_awaited call opened' log' y hy
    refine ⟨by rw [options, options', settings], fun moved => ?_⟩
    rw [deadline, deadline', moved, settings, configured]
  · have carries (s : Client × Process ω) (log : List Event) :
        ∀ x ∈ awaited log false (settle H outcome s).events,
          x.options = Call.rollback.optionsObject (s.1.settings log) :=
      awaited_options (respects_settle restating_rollback outcome s).2 log false
    refine ⟨by rw [carries s log x hx, carries s' log' y hy, settings], fun moved => ?_⟩
    rw [(settle_awaiting outcome s).2 opened log x hx, (settle_awaiting outcome s').2 opened' log' y hy,
      moved, waits, configured]

/-- In a run in which every connection is put back as new, a borrower never tells the
connection it is lent from one opened for it alone: after the same calls, which ended
alike and moved the client alike, its next ones go by the same. -/
theorem borrow_indistinct {a b later : System ω α} {i : Nat} {made : List Made}
    (h : ReachableIf H options size (HandsBackAsNew options) a) (lends : Lends H options size i a b)
    (going : Going H options size i b made later) {p p' : Process ω} {c : Client} {es log : List Event}
    {s : Client × Process ω} (fresh : connect H options p = ⟨.returned c, p', es⟩)
    (alone : Alone H es (c, p') made log s) {lease : Lease} {work : Proc α}
    (hw : later.threads[i]? = some (.working lease work)) :
    Indistinct α H later.shared.log log (lease.client, later.shared.process) s := by
  have reached : Reachable H options size b := h.reachable.step lends.step
  obtain ⟨lease', work', hw', settings⟩ := going.settings reached lends.works
    fun _ _ => lends.settings h.asNew
  obtain ⟨rfl, -⟩ := Phase.working.inj (Option.some.inj (hw'.symm.trans hw))
  obtain ⟨opened, configured⟩ := (going.reachable reached).working hw
  obtain ⟨opened', configured', settings'⟩ := alone.settings (connect_socket fresh).2
    (by rw [connect_options fresh])
  refine indistinct_of_settings ?_ (configured.trans configured'.symm) opened opened'
  rw [settings, settings', ← connect_settings fresh []]
  rfl

/-! ## A pool of one, borrowed from twice -/

/-- A pool of one whose connection came back from a borrower that named this transaction,
when it is about to be lent again. -/
def again (txn : Option String) : System (List (Except WireError Frame)) Unit :=
  ⟨⟨⟨[⟨0, Client.withRequestTxn txn session⟩], 0, false⟩, ⟨1, 1, []⟩, 0, sessionLog, 1, [], 0, []⟩,
    [.acquiring none (.done (.ok ()))]⟩

def lentAgain (txn : Option String) : System (List (Except WireError Frame)) Unit :=
  ⟨⟨⟨[], 1, false⟩, ⟨1, 1, []⟩, 0, sessionLog, 1, [], 0, []⟩,
    [.working ⟨0, Client.withRequestTxn txn session⟩ (.done (.ok ()))]⟩

theorem reachableIf_again (txn : Option String)
    {φ : System (List (Except WireError Frame)) Unit → System (List (Except WireError Frame)) Unit → Prop}
    (allowed : ∀ a b, (∀ lease ∈ b.shared.pool.idle, a.shared.log = sessionLog ∧
      lease.client = Client.withRequestTxn txn session) → φ a b) :
    ReachableIf scripted Options.default 1 φ (again txn) := by
  let work : Proc Unit := .call (.setRequestTxn txn) fun _ => .done (.ok ())
  let named : Lease := ⟨0, Client.withRequestTxn txn session⟩
  let start : Shared (List (Except WireError Frame)) :=
    ⟨.new, playing [replies .helloOk helloAll], 0, [], 0, [], 0, []⟩
  let lent : Shared (List (Except WireError Frame)) :=
    ⟨⟨[], 1, false⟩, ⟨1, 1, []⟩, 0, sessionLog, 1, [], 0, []⟩
  have none (a : System (List (Except WireError Frame)) Unit) (sh : Shared (List (Except WireError Frame)))
      (threads : List (Phase Unit)) (h : sh.pool.idle = []) : φ a ⟨sh, threads⟩ :=
    allowed _ _ fun lease hl => by rw [h] at hl; cases hl
  have one (sh : Shared (List (Except WireError Frame))) (threads threads' : List (Phase Unit))
      (logged : sh.log = sessionLog) : φ ⟨sh, threads⟩ ⟨(again txn).shared, threads'⟩ :=
    allowed _ _ fun lease hl => ⟨logged, by rw [List.mem_singleton.mp hl]⟩
  have connected : Moves scripted Options.default 1 (start.withPool ⟨[], 1, false⟩) (.connecting work)
      (.working ⟨0, session⟩ work) lent := by
    have run : connect scripted Options.default (start.withPool ⟨[], 1, false⟩).process =
        ⟨.returned session, ⟨1, 1, []⟩, sessionLog⟩ := connect_session []
    have moves : Moves scripted Options.default 1 (start.withPool ⟨[], 1, false⟩) (.connecting work)
        (.working ⟨0, session⟩ work) _ := .connected work session (by rw [run])
    rwa [run] at moves
  have called : Moves scripted Options.default 1 lent (.working ⟨0, session⟩ work)
      (.working named (.done (.ok ()))) lent := by
    have moves : Moves scripted Options.default 1 lent (.working ⟨0, session⟩ work) _ _ :=
      .call ⟨0, session⟩ (.setRequestTxn txn) _
    simpa [Call.run, Shared.ran, lent, Execution.after] using moves
  have finished : Moves scripted Options.default 1 lent (.working named (.done (.ok ())))
      (.releasing named false (.ok ())) lent :=
    .finish named (.ok ()) false false rfl
  refine ⟨start.process, 1, ?_⟩
  have path := Relation.ReflTransGen.refl (r := fun a b => Step scripted Options.default 1 a b ∧ φ a b)
    (a := .initial start.process 1)
  have path := path.tail ⟨.moves [] [] _ _ _ _ (.borrow _ Option.none work), none _ _ _ rfl⟩
  have path := path.tail ⟨.moves [] [] _ _ _ _ (.acquire Option.none work), none _ _ _ rfl⟩
  have path := path.tail ⟨.moves [] [] _ _ _ _ connected, none _ _ _ rfl⟩
  have path := path.tail ⟨.moves [] [] _ _ _ _ called, none _ _ _ rfl⟩
  have path := path.tail ⟨.moves [] [] _ _ _ _ finished, none _ _ _ rfl⟩
  have path := path.tail ⟨.moves [] [] _ _ _ _ (.release named false (.ok ())), one _ _ _ rfl⟩
  have path := path.tail ⟨.notifyOne [] [] _ _ _ (.nobody _ (by simp)), one _ _ _ rfl⟩
  exact path.tail ⟨.moves [] [] _ _ _ _ (.borrow _ Option.none (.done (.ok ()))), one _ _ _ rfl⟩

theorem lends_again (txn : Option String) :
    Lends scripted Options.default 1 0 (again txn) (lentAgain txn) where
  step := .moves [] [] _ _ _ _ (.acquire none (.done (.ok ())))
  waited := fun _ _ h => by cases h
  works := ⟨_, _, rfl⟩

theorem borrow_indistinct_again :
    Indistinct Unit scripted (lentAgain none).shared.log sessionLog
      (Client.withRequestTxn none session, (lentAgain none).shared.process) (session, ⟨1, 1, []⟩) :=
  borrow_indistinct (reachableIf_again none fun a b back lease hl _ => by
      rw [(back lease hl).1, (back lease hl).2]
      with_unfolding_all rfl)
    (lends_again none) .start (connect_session []) .start rfl

/-- One borrower names a transaction, and the next one's request carries it. -/
theorem not_borrow_indistinct :
    ¬∀ (a b later : System (List (Except WireError Frame)) Unit) (i : Nat) (made : List Made),
      Reachable scripted Options.default 1 a → Lends scripted Options.default 1 i a b →
      Going scripted Options.default 1 i b made later →
      ∀ p p' c es, connect scripted Options.default p = ⟨.returned c, p', es⟩ →
      ∀ log s, Alone scripted es (c, p') made log s →
      ∀ lease work, later.threads[i]? = some (.working lease work) →
        Indistinct Unit scripted later.shared.log log (lease.client, later.shared.process) s := by
  intro indistinct
  have reached := (reachableIf_again (some "t1") fun _ _ _ => trivial).reachable
  have same := indistinct _ _ _ 0 [] reached (lends_again _) .start _ _ _ _ (connect_session []) _ _
    .start _ _ rfl
  have named : true ∈ (awaited sessionLog false ((Call.request .null).run scripted
      (Client.withRequestTxn (some "t1") session, ⟨1, 1, []⟩)).events).map fun x => x.options.isSome := by
    decide +kernel
  have nameless : false ∈ (awaited sessionLog false ((Call.request .null).run scripted
      (session, ⟨1, 1, []⟩)).events).map fun y => y.options.isSome := by
    decide +kernel
  obtain ⟨x, hx, some⟩ := List.mem_map.mp named
  obtain ⟨y, hy, none⟩ := List.mem_map.mp nameless
  have agree := congrArg Option.isSome (same.calls (.request .null) x hx y hy).1
  rw [some, none] at agree
  cases agree

end

end TricoreSdk
