import TricoreSdk.PoolSystem
import TricoreSdk.Scripted

/-! The pool's representation invariant: slots, connections and the lock's state
agree in every reachable state, whatever the threads do. -/

namespace TricoreSdk
open Effects Path

section

variable {ω α : Type} {H : Host ω} {options : Options} {size : Nat}

/-! ## Threads -/

section

variable {threads threads' : List (Phase α)}

theorem countP_at (P : Phase α → Bool) (before after : List (Phase α)) (a : Phase α) :
    (before ++ a :: after).countP P = before.countP P + after.countP P + (P a).toNat := by
  rw [List.countP_append, List.countP_cons]
  cases P a <;> simp only [Bool.toNat_false, Bool.toNat_true, Bool.false_eq_true, if_false, if_true] <;>
    omega

theorem WakesOne.countP (h : WakesOne threads threads') {P : Phase α → Bool}
    (hP : ∀ deadline work, P (.woken false deadline work) = P (.waiting deadline work)) :
    threads'.countP P = threads.countP P := by
  cases h with
  | nobody _ _ => rfl
  | woken before after deadline work => simp [List.countP_cons, hP]

theorem forall_mem_replaced {before after : List (Phase α)} {a b : Phase α} {Q : Phase α → Prop}
    (all : ∀ x ∈ before ++ a :: after, Q x) (hb : Q b) : ∀ x ∈ before ++ b :: after, Q x := by
  intro x hx
  rcases List.mem_append.mp hx with hx | hx
  · exact all x (List.mem_append_left _ hx)
  · rcases List.mem_cons.mp hx with rfl | hx
    · exact hb
    · exact all x (List.mem_append_right _ (.tail _ hx))

theorem countP_wake (threads : List (Phase α)) {P : Phase α → Bool}
    (hP : ∀ deadline work, P (.woken false deadline work) = P (.waiting deadline work)) :
    (threads.map Phase.wake).countP P = threads.countP P := by
  rw [List.countP_map]
  refine List.countP_congr fun a _ => ?_
  cases a <;> simp [Phase.wake, hP]

end

theorem initial_flatMap (process : Process ω) (threads : Nat) {β : Type} (f : Phase α → List β)
    (hf : f (.ready none) = []) : (System.initial process threads : System ω α).threads.flatMap f = [] := by
  refine List.flatMap_eq_nil_iff.mpr fun a ha => ?_
  rw [List.eq_of_mem_replicate ha, hf]

/-! ## Steps beside the threads' own -/

/-- A phase by what it is in the middle of, which a thread that notifies, waits or is
woken in time is not. -/
def Phase.occupied : Phase α → Option (Phase α)
  | ready _ | waiting _ _ | woken false _ _ | refused _ | notifying _ | closingIdle [] => none
  | phase => some phase

/-- Nothing is opened, moved or closed: threads that are in the middle of something stay there. -/
structure Beside (a b : System ω α) : Prop where
  threads : b.threads.map Phase.occupied = a.threads.map Phase.occupied
  idle : b.shared.pool.idle = a.shared.pool.idle
  closed : b.shared.pool.closed = a.shared.pool.closed
  born : b.shared.born = a.shared.born
  gone : b.shared.gone = a.shared.gone
  botched : b.shared.botched = a.shared.botched
  now : a.shared.now ≤ b.shared.now
  opened : a.shared.process.opened ≤ b.shared.process.opened

theorem WakesOne.occupied {threads threads' : List (Phase α)} (h : WakesOne threads threads') :
    threads'.map Phase.occupied = threads.map Phase.occupied := by
  cases h with
  | nobody _ _ => rfl
  | woken before after deadline work => simp [Phase.occupied]

theorem Phase.occupied_wake (a : Phase α) : a.wake.occupied = a.occupied := by
  cases a <;> rfl

theorem Step.moves_or_beside {a b : System ω α} (h : Step H options size a b) :
    (∃ before after x y sh sh', Moves H options size sh x y sh' ∧ a = ⟨sh, before ++ x :: after⟩ ∧
      b = ⟨sh', before ++ y :: after⟩) ∨ Beside a b := by
  cases h with
  | moves before after x y sh sh' hm => exact .inl ⟨before, after, x, y, sh, sh', hm, rfl, rfl⟩
  | forfeit before after threads e sh wakes =>
    refine .inr ⟨?_, rfl, rfl, rfl, rfl, rfl, Nat.le_refl _, Nat.le_refl _⟩
    simpa [Phase.occupied] using wakes.occupied
  | notifyOne before after threads result sh wakes =>
    refine .inr ⟨?_, rfl, rfl, rfl, rfl, rfl, Nat.le_refl _, Nat.le_refl _⟩
    simpa [Phase.occupied] using wakes.occupied
  | notifyAll before after sh =>
    refine .inr ⟨?_, rfl, rfl, rfl, rfl, rfl, Nat.le_refl _, Nat.le_refl _⟩
    have same : Phase.occupied ∘ Phase.wake = (Phase.occupied : Phase α → _) :=
      funext Phase.occupied_wake
    rw [List.map_map, same]
    simp [Phase.occupied]
  | tick sh threads now later =>
    exact .inr ⟨rfl, rfl, rfl, rfl, rfl, rfl, later, Nat.le_refl _⟩
  | outside sh threads process opened =>
    exact .inr ⟨rfl, rfl, rfl, rfl, rfl, rfl, Nat.le_refl _, opened⟩

theorem Phase.eq_of_occupied {a b : Phase α} (h : a.occupied = some b) : a = b := by
  unfold occupied at h
  split at h
  all_goals first | exact Option.some.inj h | cases h

theorem Beside.flatMap {a b : System ω α} (h : Beside a b) {β : Type} (f : Phase α → List β)
    (hf : ∀ x, x.occupied = none → f x = []) : b.threads.flatMap f = a.threads.flatMap f := by
  have through (threads : List (Phase α)) :
      threads.flatMap f = (threads.map Phase.occupied).flatMap fun o => o.toList.flatMap f := by
    rw [List.flatMap_map]
    refine List.flatMap_congr fun x _ => ?_
    cases hx : x.occupied with
    | none => simpa using hf x hx
    | some y => simp [Phase.eq_of_occupied hx]
  rw [through, through, h.threads]

theorem Beside.forall_mem {a b : System ω α} (h : Beside a b) {Q : Phase α → Prop}
    (hQ : ∀ x, x.occupied = none → Q x) (all : ∀ x ∈ a.threads, Q x) : ∀ y ∈ b.threads, Q y := by
  intro y hy
  cases ho : y.occupied with
  | none => exact hQ y ho
  | some z =>
    have kept : some z ∈ a.threads.map Phase.occupied :=
      h.threads ▸ ho ▸ List.mem_map_of_mem hy
    obtain ⟨x, hx, same⟩ := List.mem_map.mp kept
    rw [Phase.eq_of_occupied ho, ← Phase.eq_of_occupied same]
    exact all x hx

/-! ## Slots -/

/-- From the taking of a slot to its giving back. -/
def Phase.holdsSlot : Phase α → Bool
  | connecting _ | refused _ | working _ _ | releasing _ _ _ => true
  | _ => false

def System.borrows (sys : System ω α) : Nat := sys.threads.countP Phase.holdsSlot

/-- Slots taken and given back, and the room they leave. -/
structure Slots (size : Nat) (sys : System ω α) : Prop where
  fits : sys.shared.pool.idle.length + sys.shared.pool.lent ≤ size
  lent : sys.shared.pool.lent = sys.borrows + sys.shared.unwound

theorem Moves.slots {sh sh' : Shared ω} {a b : Phase α} (h : Moves H options size sh a b sh')
    (fits : sh.pool.idle.length + sh.pool.lent ≤ size) (held : a.holdsSlot = true → 0 < sh.pool.lent) :
    sh'.pool.idle.length + sh'.pool.lent ≤ size ∧
      sh'.pool.lent + a.holdsSlot.toNat + sh.unwound = sh.pool.lent + b.holdsSlot.toNat + sh'.unwound := by
  have passes {timedOut : Bool} {deadline : Option Nat} {x : Acquired × PoolState} (work : Proc α)
      (h : PoolState.Passed size timedOut deadline sh.now sh.pool x) :
      x.2.idle.length + x.2.lent ≤ size ∧
        x.2.lent = sh.pool.lent + (x.1.phase deadline work).holdsSlot.toNat := by
    cases h <;> simp_all only [Acquired.phase, Phase.holdsSlot, List.length_nil, List.length_cons] <;>
      simp <;> omega
  cases h with
  | acquire deadline work =>
    obtain ⟨fits', lent⟩ := passes work (PoolState.acquire_passed size false deadline sh.now sh.pool)
    exact ⟨fits', by simp [Shared.withPool, lent, Phase.holdsSlot]⟩
  | resume timedOut deadline work =>
    obtain ⟨fits', lent⟩ := passes work (PoolState.resume_passed size timedOut deadline sh.now sh.pool)
    exact ⟨fits', by simp [Shared.withPool, lent, Phase.holdsSlot]⟩
  | release lease broken result =>
    have := held rfl
    unfold PoolState.release
    split <;> simp [Shared.withPool, Phase.holdsSlot] <;> omega
  | close => simp [Shared.withPool, PoolState.close, Phase.holdsSlot]; omega
  | unwind lease =>
    simp [Shared.closed, Shared.ran, Phase.holdsSlot]
    omega
  | _ => exact ⟨fits, rfl⟩

theorem Slots.step {a b : System ω α} (h : Slots size a) (hs : Step H options size a b) :
    Slots size b := by
  obtain ⟨fits, lent⟩ := h
  unfold System.borrows at lent
  cases hs with
  | moves before after x y sh sh' hm =>
    rw [countP_at] at lent
    simp only at fits lent
    obtain ⟨fits', change⟩ := hm.slots fits fun hx => by
      rw [hx, Bool.toNat_true] at lent
      omega
    refine ⟨fits', ?_⟩
    rw [System.borrows, countP_at]
    simp only
    omega
  | forfeit before after threads e sh wakes =>
    rw [countP_at] at lent
    simp only [Phase.holdsSlot, Bool.toNat_true] at fits lent
    refine ⟨?_, ?_⟩
    · simp only [Shared.withPool, PoolState.forfeit]
      omega
    · rw [System.borrows, wakes.countP fun _ _ => rfl, countP_at]
      simp only [Shared.withPool, PoolState.forfeit, Phase.holdsSlot, Bool.toNat_false]
      omega
  | notifyOne before after threads result sh wakes =>
    refine ⟨fits, ?_⟩
    rw [System.borrows, wakes.countP fun _ _ => rfl, countP_at]
    rwa [countP_at] at lent
  | notifyAll before after sh =>
    refine ⟨fits, ?_⟩
    rw [System.borrows, countP_wake _ fun _ _ => rfl, countP_at]
    rwa [countP_at] at lent
  | tick sh threads now later => exact ⟨fits, lent⟩
  | outside sh threads process opened => exact ⟨fits, lent⟩

theorem slots_initial (process : Process ω) (threads : Nat) :
    Slots size (.initial process threads : System ω α) := by
  refine ⟨Nat.zero_le _, ?_⟩
  simp [System.initial, System.borrows, PoolState.new, List.countP_replicate, Phase.holdsSlot]

theorem Reachable.slots {sys : System ω α} (h : Reachable H options size sys) : Slots size sys :=
  h.invariant slots_initial fun _ _ _ => Slots.step

/-! ## Connections -/

def Phase.leases : Phase α → List Lease
  | working lease _ | releasing lease _ _ | retiring lease _ => [lease]
  | closingIdle leases => leases
  | _ => []

theorem Phase.leases_of_unoccupied {a : Phase α} (h : a.occupied = none) : a.leases = [] := by
  unfold occupied at h
  split at h
  all_goals first | rfl | cases h

def Phase.ids (a : Phase α) : List Nat := a.leases.map Lease.id

/-- Every connection of the pool, by where it is: idle, with a thread, or closed. -/
def System.places (sys : System ω α) : List Nat :=
  sys.shared.pool.idle.map Lease.id ++ sys.threads.flatMap Phase.ids ++ sys.shared.gone

/-- How often a connection should be found, when as many were opened. -/
def due (born id : Nat) : Nat := if id < born then 1 else 0

theorem due_succ (born id : Nat) : due (born + 1) id = due born id + [born].count id := by
  simp only [due, List.count_cons, List.count_nil, beq_iff_eq]
  split <;> split <;> split <;> omega

/-- Every connection that was opened is in one place. -/
def Placed (sys : System ω α) : Prop := ∀ id, sys.places.count id = due sys.shared.born id

theorem Moves.places {sh sh' : Shared ω} {a b : Phase α} (h : Moves H options size sh a b sh')
    (id : Nat) :
    (sh'.pool.idle.map Lease.id).count id + b.ids.count id + sh'.gone.count id +
        due sh.born id =
      (sh.pool.idle.map Lease.id).count id + a.ids.count id + sh.gone.count id +
        due sh'.born id := by
  have passes {timedOut : Bool} {deadline : Option Nat} {x : Acquired × PoolState} (work : Proc α)
      (h : PoolState.Passed size timedOut deadline sh.now sh.pool x) :
      (x.2.idle.map Lease.id).count id + (x.1.phase deadline work).ids.count id =
        (sh.pool.idle.map Lease.id).count id := by
    cases h with
    | lent isOpen lease rest hi =>
      simp [Acquired.phase, Phase.ids, Phase.leases, hi, List.count_cons]
    | _ => simp_all [Acquired.phase, Phase.ids, Phase.leases]
  cases h with
  | acquire deadline work =>
    have := passes work (PoolState.acquire_passed size false deadline sh.now sh.pool)
    simp only [Shared.withPool, Phase.ids, Phase.leases, List.map_nil, List.count_nil] at this ⊢
    omega
  | resume timedOut deadline work =>
    have := passes work (PoolState.resume_passed size timedOut deadline sh.now sh.pool)
    simp only [Shared.withPool, Phase.ids, Phase.leases, List.map_nil, List.count_nil] at this ⊢
    omega
  | connected work c run =>
    simp only [Shared.ran, Phase.ids, Phase.leases, List.map_cons, List.map_nil, List.count_nil,
      due_succ]
    omega
  | release lease broken result =>
    unfold PoolState.release
    split <;> simp [Shared.withPool, Phase.ids, Phase.leases, List.count_cons]
  | retire lease result =>
    simp only [Shared.closed, Shared.ran, Phase.ids, Phase.leases, List.map_cons, List.map_nil,
      List.count_cons, List.count_nil]
    omega
  | unwind lease =>
    simp only [Shared.closed, Shared.ran, Phase.ids, Phase.leases, List.map_cons, List.map_nil,
      List.count_cons, List.count_nil]
    omega
  | close =>
    simp [Shared.withPool, PoolState.close, Phase.ids, Phase.leases, List.count_reverse]
  | closeIdle lease rest =>
    simp only [Shared.closed, Shared.ran, Phase.ids, Phase.leases, List.map_cons, List.count_cons]
    omega
  | _ => rfl

theorem Placed.step {a b : System ω α} (h : Placed a) (hs : Step H options size a b) : Placed b := by
  intro id
  have here := h id
  unfold System.places at here ⊢
  rcases hs.moves_or_beside with ⟨before, after, x, y, sh, sh', hm, rfl, rfl⟩ | beside
  · have change := hm.places id
    simp only [List.count_append, List.flatMap_append, List.flatMap_cons] at here ⊢
    omega
  · have none (x : Phase α) (h : x.occupied = none) : x.ids = [] := by
      simp [Phase.ids, Phase.leases_of_unoccupied h]
    rwa [beside.flatMap _ none, beside.idle, beside.gone, beside.born]

theorem placed_initial (process : Process ω) (threads : Nat) :
    Placed (.initial process threads : System ω α) := by
  intro id
  rw [System.places, initial_flatMap process threads Phase.ids rfl]
  simp [System.initial, PoolState.new, due]

theorem Reachable.placed {sys : System ω α} (h : Reachable H options size sys) : Placed sys :=
  h.invariant placed_initial fun _ _ _ => Placed.step

/-! ## What the idle clients are like -/

def openness : Path (Client × Process ω) Event where
  rel a _ b := b.1.closed = a.1.closed
  refl _ := rfl
  trans h h' := h'.trans h

theorem callPath_openness : CallPath H openness := by
  have intrinsic : Intrinsic Client.closed := ⟨fun _ _ => rfl, fun _ _ _ => rfl⟩
  exact
    { exchange := intrinsic.exchange
      poison := intrinsic.poison
      moveTo := intrinsic.moveTo
      setReadTimeout := fun t _ => rfl
      paused := fun _ _ => rfl
      update := fun hf s => (hf.kept s.1).closed
      withTxnOpen := fun _ _ => rfl }

theorem respects_rollbackOpen {P : Path (Client × Process ω) Event} (hr : P.Respects (rollback H))
    (blocks : Nat) : P.Respects (rollbackOpen H blocks) := by
  induction blocks with
  | zero => exact respects_pure ()
  | succ blocks ih =>
    refine (respects_view Prod.fst).bind fun c => ?_
    split
    · exact respects_pure ()
    · refine hr.attempt.bind fun r => ?_
      cases r with
      | ok result => exact ih
      | error e => exact respects_pure ()

theorem respects_settle {P : Path (Client × Process ω) Event} (hr : P.Respects (rollback H))
    (outcome : Except Error α) : P.Respects (settle H outcome) := by
  refine (respects_view Prod.fst).bind fun c => ?_
  split
  · exact (respects_rollbackOpen hr _).bind fun _ => (respects_view Prod.fst).bind fun _ => respects_pure _
  · exact respects_pure _

/-- A client the next borrower can use: live, and in no transaction. -/
structure Client.Lendable (c : Client) : Prop where
  live : c.Live
  settled : c.inTransaction = false

def Phase.Sound : Phase α → Prop
  | working lease _ => lease.client.closed = false
  | releasing lease broken _ =>
    lease.client.closed = false ∧ (broken = false → lease.client.Lendable)
  | _ => True

structure Clients (sys : System ω α) : Prop where
  idle : ∀ lease ∈ sys.shared.pool.idle, lease.client.Lendable
  sound : ∀ a ∈ sys.threads, a.Sound
  shut : sys.shared.pool.closed = true → sys.shared.pool.idle = []

theorem respects_rollback {P : Path (Client × Process ω) Event} (h : CallPath H P) :
    P.Respects (rollback H) :=
  (h.toSendPath.requestPath h.withTxnOpen).transactionControl "ROLLBACK"

theorem settle_lendable {outcome : Except Error α} {s : Client × Process ω} {leftOpen : Bool}
    (isOpen : s.1.closed = false) (h : (settle H outcome s).outcome = .returned (false, leftOpen)) :
    (settle H outcome s).state.1.Lendable := by
  have stays : (settle H outcome s).state.1.closed = false :=
    (respects_settle (respects_rollback callPath_openness) outcome s).trans isOpen
  rw [settle_apply] at h stays ⊢
  split at h
  · rename_i cleaned
    rw [if_pos cleaned] at stays ⊢
    simp only [Outcome.returned.injEq, Prod.mk.injEq, Bool.or_eq_false_iff] at h
    exact ⟨⟨Option.isNone_iff_eq_none.mp (by simpa [Client.isPoisoned] using h.1.2), stays⟩, h.1.1⟩
  · rename_i kept
    rw [if_neg kept] at stays ⊢
    simp only [Outcome.returned.injEq, Prod.mk.injEq] at h
    have whole : s.1.isPoisoned = false := by
      have := h.1
      simp only [brokenBy, Bool.or_eq_false_iff] at this
      exact this.1
    have settled : s.1.inTransaction = false := by simpa [h.1] using kept
    exact ⟨⟨Option.isNone_iff_eq_none.mp (by simpa [Client.isPoisoned] using whole), isOpen⟩, settled⟩

theorem Phase.sound_of_unoccupied {a : Phase α} (h : a.occupied = none) : a.Sound := by
  unfold occupied at h
  split at h
  all_goals trivial

theorem Moves.clients {sh sh' : Shared ω} {a b : Phase α} (h : Moves H options size sh a b sh')
    (idle : ∀ lease ∈ sh.pool.idle, lease.client.Lendable) (sound : a.Sound)
    (shut : sh.pool.closed = true → sh.pool.idle = []) :
    (∀ lease ∈ sh'.pool.idle, lease.client.Lendable) ∧ b.Sound ∧
      (sh'.pool.closed = true → sh'.pool.idle = []) := by
  have passes {timedOut : Bool} {deadline : Option Nat} {x : Acquired × PoolState} (work : Proc α)
      (h : PoolState.Passed size timedOut deadline sh.now sh.pool x) :
      (∀ lease ∈ x.2.idle, lease.client.Lendable) ∧ (x.1.phase deadline work).Sound ∧
        (x.2.closed = true → x.2.idle = []) := by
    cases h with
    | lent isOpen lease rest hi =>
      refine ⟨fun l hl => idle l (hi ▸ .tail _ hl), (idle lease (hi ▸ List.mem_cons_self)).live.open_,
        fun closed => ?_⟩
      simp [isOpen] at closed
    | _ => exact ⟨idle, trivial, shut⟩
  cases h with
  | acquire deadline work => exact passes work (PoolState.acquire_passed size false deadline _ _)
  | resume timedOut deadline work => exact passes work (PoolState.resume_passed size timedOut deadline _ _)
  | connected work c run =>
    have returns : connect H options sh.process =
        ⟨.returned c, (connect H options sh.process).state, (connect H options sh.process).events⟩ := by
      rw [← run]
    exact ⟨idle, (connect_live returns).open_, shut⟩
  | call lease c next =>
    have stays := callPath_openness.run (H := H) c (lease.client, sh.process)
    exact ⟨idle, Eq.trans stays sound, shut⟩
  | look lease next => exact ⟨idle, sound, shut⟩
  | finish lease outcome broken leftOpen run =>
    have stays := respects_settle (respects_rollback callPath_openness) (H := H) outcome
      (lease.client, sh.process)
    refine ⟨idle, ⟨Eq.trans stays sound, fun hb => ?_⟩, shut⟩
    subst hb
    exact settle_lendable sound run
  | release lease broken result =>
    unfold PoolState.release
    cases hr : (broken || sh.pool.closed) with
    | true => exact ⟨idle, trivial, shut⟩
    | false =>
      simp only [Bool.or_eq_false_iff] at hr
      refine ⟨fun l hl => ?_, trivial, fun closed => ?_⟩
      · rcases List.mem_cons.mp hl with rfl | hl
        · exact sound.2 hr.1
        · exact idle l hl
      · simp [Shared.withPool, hr.2] at closed
  | close => exact ⟨fun l hl => absurd hl List.not_mem_nil, trivial, fun _ => rfl⟩
  | _ => exact ⟨idle, trivial, shut⟩

theorem Clients.step {a b : System ω α} (h : Clients a) (hs : Step H options size a b) : Clients b := by
  obtain ⟨idle, sound, shut⟩ := h
  rcases hs.moves_or_beside with ⟨before, after, x, y, sh, sh', hm, rfl, rfl⟩ | beside
  · obtain ⟨idle', hy, shut'⟩ := hm.clients idle (sound x (by simp)) shut
    exact ⟨idle', forall_mem_replaced sound hy, shut'⟩
  · refine ⟨?_, beside.forall_mem (fun _ => Phase.sound_of_unoccupied) sound, ?_⟩
    · rwa [beside.idle]
    · rwa [beside.idle, beside.closed]

theorem clients_initial (process : Process ω) (threads : Nat) :
    Clients (.initial process threads : System ω α) where
  idle := fun l hl => absurd hl List.not_mem_nil
  sound a ha := by
    rw [List.eq_of_mem_replicate ha]
    trivial
  shut := fun _ => rfl

theorem Reachable.clients {sys : System ω α} (h : Reachable H options size sys) : Clients sys :=
  h.invariant clients_initial fun _ _ _ => Clients.step

/-! ## A closed pool -/

theorem Moves.staysShut {sh sh' : Shared ω} {a b : Phase α} (h : Moves H options size sh a b sh')
    (closed : sh.pool.closed = true) : sh'.pool.closed = true := by
  have passes {timedOut : Bool} {deadline : Option Nat} {x : Acquired × PoolState}
      (h : PoolState.Passed size timedOut deadline sh.now sh.pool x) : x.2.closed = true := by
    cases h <;> exact closed
  cases h with
  | acquire deadline work => exact passes (PoolState.acquire_passed size false deadline _ _)
  | resume timedOut deadline work => exact passes (PoolState.resume_passed size timedOut deadline _ _)
  | release lease broken result =>
    unfold PoolState.release
    split <;> exact closed
  | close => rfl
  | _ => exact closed

theorem Step.staysShut {a b : System ω α} (h : Step H options size a b)
    (closed : a.shared.pool.closed = true) : b.shared.pool.closed = true := by
  rcases h.moves_or_beside with ⟨before, after, x, y, sh, sh', hm, rfl, rfl⟩ | beside
  · exact hm.staysShut closed
  · rwa [beside.closed]

theorem shut_of_path {a b : System ω α} (path : Relation.ReflTransGen (Step H options size) a b)
    (closed : a.shared.pool.closed = true) : b.shared.pool.closed = true := by
  induction path with
  | refl => exact closed
  | tail path last ih => exact last.staysShut ih

theorem PoolState.Passed.refused {timedOut : Bool} {deadline : Option Nat} {now : Nat}
    {s : PoolState} {x : Acquired × PoolState} (h : s.Passed size timedOut deadline now x)
    (closed : s.closed = true) : ∃ e, x = (.failed e, s) := by
  cases h with
  | shut _ => exact ⟨_, rfl⟩
  | late _ _ _ => exact ⟨_, rfl⟩
  | lent isOpen _ _ _ | reserved isOpen _ _ | waits isOpen _ _ => simp [closed] at isOpen

/-! ## A pool of one -/

theorem reachable_connecting (work : Proc α) (p : Process ω) (others : Nat) :
    Reachable H options 1 ⟨⟨⟨[], 1, false⟩, p, 0, [], 0, [], 0, []⟩,
      .connecting work :: List.replicate others (.ready none)⟩ := by
  let sh : Shared ω := ⟨.new, p, 0, [], 0, [], 0, []⟩
  have borrowed : Reachable H options 1
      ⟨sh, .acquiring none work :: List.replicate others (.ready none)⟩ :=
    ⟨p, others + 1, .single (.moves [] _ _ _ _ _ (.borrow none none work))⟩
  exact borrowed.step (.moves [] _ _ _ _ _ (.acquire none work))

theorem reachable_lent {p p' : Process ω} {c : Client} {es : List Event}
    (run : connect H options p = ⟨.returned c, p', es⟩) (work : Proc α) (others : Nat) :
    Reachable H options 1 ⟨⟨⟨[], 1, false⟩, p', 0, es, 1, [], 0, []⟩,
      .working ⟨0, c⟩ work :: List.replicate others (.ready none)⟩ := by
  exact (reachable_connecting work p others).step (.moves [] _ _ _ _ _ (.opened run))

theorem reachable_working (work : Proc Unit) (script : List (Except WireError Frame)) (others : Nat) :
    Reachable scripted Options.default 1
      ⟨⟨⟨[], 1, false⟩, ⟨1, 1, script⟩, 0, sessionLog, 1, [], 0, []⟩,
        .working ⟨0, session⟩ work :: List.replicate others (.ready none)⟩ :=
  reachable_lent (connect_session script) work others

def returnedOnce : System (List (Except WireError Frame)) Unit :=
  ⟨⟨⟨[⟨0, session⟩], 0, false⟩, ⟨1, 1, []⟩, 0, sessionLog, 1, [], 0, []⟩, [.notifying (.ok ())]⟩

theorem reachable_returnedOnce : Reachable scripted Options.default 1 returnedOnce := by
  let sh : Shared (List (Except WireError Frame)) :=
    ⟨⟨[], 1, false⟩, ⟨1, 1, []⟩, 0, sessionLog, 1, [], 0, []⟩
  have settled : settle scripted (.ok () : Except Error Unit) (session, sh.process) =
      ⟨.returned (false, false), (session, sh.process), []⟩ := rfl
  have finish : Moves scripted Options.default 1 sh (.working ⟨0, session⟩ (.done (.ok ())))
      (.releasing ⟨0, session⟩ false (.ok ())) sh :=
    .finish ⟨0, session⟩ (.ok ()) false false (by rw [settled])
  have finished := (reachable_working (.done (.ok ())) [] 0).step (.moves [] [] _ _ _ _ finish)
  exact finished.step (.moves [] [] _ _ _ _ (.release ⟨0, session⟩ false (.ok ())))

/-! ## The invariant -/

/-- A thread that is about to give a slot back. -/
def Phase.givesBack : Phase α → Bool
  | refused _ | releasing _ _ _ => true
  | _ => false

variable (H options size) in
/-- What holds of a pool at any time: its size bounds what is idle and lent, a slot
that is given back was counted, every connection is in one place, the idle ones
can be lent, and once closed it stays so, has none and lends none. -/
structure WellKept (sys : System ω α) : Prop where
  fits : sys.shared.pool.idle.length + sys.shared.pool.lent ≤ size
  counted : ∀ a ∈ sys.threads, a.givesBack = true → 0 < sys.shared.pool.lent
  apart : sys.places.Nodup
  kept : ∀ id, id ∈ sys.places ↔ id < sys.shared.born
  idle : ∀ lease ∈ sys.shared.pool.idle,
    lease.client.fault = none ∧ lease.client.closed = false ∧ lease.client.inTransaction = false
  shut : sys.shared.pool.closed = true →
    ∀ later, Relation.ReflTransGen (Step H options size) sys later →
      later.shared.pool.closed = true ∧ later.shared.pool.idle = [] ∧
        ∀ timedOut deadline now,
          (∃ e, later.shared.pool.acquire size deadline now = (.failed e, later.shared.pool)) ∧
            ∃ e, later.shared.pool.resume size timedOut deadline now = (.failed e, later.shared.pool)

theorem Placed.nodup {sys : System ω α} (h : Placed sys) : sys.places.Nodup := by
  refine List.nodup_iff_count.mpr fun id => ?_
  rw [h id, due]
  split <;> omega

theorem Placed.mem_iff {sys : System ω α} (h : Placed sys) (id : Nat) :
    id ∈ sys.places ↔ id < sys.shared.born := by
  rw [← List.count_pos_iff, h id, due]
  split <;> omega

/-- The pool's representation invariant, in every state of every run. -/
theorem reachable_wellKept {sys : System ω α} (h : Reachable H options size sys) :
    WellKept H options size sys where
  fits := h.slots.fits
  counted a ha gives := by
    have held : 0 < sys.borrows := by
      refine List.countP_pos_iff.mpr ⟨a, ha, ?_⟩
      cases a with
      | refused _ | releasing _ _ _ => rfl
      | _ => cases gives
    rw [h.slots.lent]
    exact Nat.lt_of_lt_of_le held (Nat.le_add_right _ _)
  apart := h.placed.nodup
  kept := h.placed.mem_iff
  idle lease hl := by
    have lendable := h.clients.idle lease hl
    exact ⟨lendable.live.fault, lendable.live.open_, lendable.settled⟩
  shut closed later path := by
    have closed' := shut_of_path path closed
    have reached : Reachable H options size later := by
      obtain ⟨process, threads, start⟩ := h
      exact ⟨process, threads, start.trans path⟩
    refine ⟨closed', reached.clients.shut closed', fun timedOut deadline now => ⟨?_, ?_⟩⟩
    · exact (PoolState.acquire_passed size false deadline now _).refused closed'
    · exact (PoolState.resume_passed size timedOut deadline now _).refused closed'

theorem reachable_wellKept_returnedOnce : WellKept scripted Options.default 1 returnedOnce :=
  reachable_wellKept reachable_returnedOnce

/-! ## Slots that are never given back -/

/-- Every slot in use belongs to a borrow in progress, so an open pool that no one
uses has room. -/
structure SlotsRepaid (size : Nat) (sys : System ω α) : Prop where
  lent : sys.shared.pool.lent = sys.borrows
  room : sys.borrows = 0 → sys.shared.pool.closed = false → ∀ deadline,
    (∃ lease, (sys.shared.pool.acquire size deadline sys.shared.now).1 = .lent lease) ∨
      (sys.shared.pool.acquire size deadline sys.shared.now).1 = .reserved

/-- Slots are repaid exactly as long as no closure has unwound. -/
theorem slotsRepaid_iff {sys : System ω α} (h : Reachable H options size sys) (some : 0 < size) :
    SlotsRepaid size sys ↔ sys.shared.unwound = 0 := by
  have lent := h.slots.lent
  constructor
  · intro repaid
    have := repaid.lent
    omega
  · intro none
    refine ⟨by omega, fun unused isOpen deadline => ?_⟩
    have passed := PoolState.acquire_passed size false deadline sys.shared.now sys.shared.pool
    generalize sys.shared.pool.acquire size deadline sys.shared.now = x at passed ⊢
    cases passed with
    | shut closed => simp [isOpen] at closed
    | lent isOpen lease rest hi => exact .inl ⟨lease, rfl⟩
    | reserved isOpen hi room => exact .inr rfl
    | late hi full passed => omega
    | waits isOpen hi full => omega

theorem slotsRepaid_iff_returnedOnce : SlotsRepaid 1 returnedOnce ↔ returnedOnce.shared.unwound = 0 :=
  slotsRepaid_iff reachable_returnedOnce (by decide)

/-- The only slot of a pool is not given back when the closure unwinds. -/
theorem not_slotsRepaid :
    ¬ ∀ sys : System (List (Except WireError Frame)) Unit,
      Reachable scripted Options.default 1 sys → SlotsRepaid 1 sys := by
  intro repaid
  have unwound := (reachable_working .panic [] 0).step (.moves [] [] _ _ _ _ (.unwind ⟨0, session⟩))
  have lent := (repaid _ unwound).lent
  exact absurd (show (1 : Nat) = 0 from lent) (by decide)

end

end TricoreSdk
