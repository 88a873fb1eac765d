import TricoreSdk.PoolConversation
import TricoreSdk.PoolUnwind

/-! The session transactions of a pool's connections, as the server keeps them. What one
borrower leaves open never reaches the next one, however the threads interleave. -/

namespace TricoreSdk
open Effects Path

section

variable {ω α : Type} {H : Host ω} {options : Options} {size : Nat} {S : SessionServer H}

namespace SessionServer

/-! ## Connections beside each other -/

variable (S) in
/-- A client on its connection, and a server with the same view of its transaction. -/
structure Concordant (s : Client × Process ω) : Prop where
  placed : S.Placed s
  agrees : S.Agrees s

variable (S) in
/-- The server agrees with each of these clients, and has no transaction on a connection
that was not opened yet. -/
structure Concord (p : Process ω) (leases : List Lease) : Prop where
  unused : S.Unused p
  each : ∀ lease ∈ leases, S.Concordant (lease.client, p)

variable {c : Client} {p p' : Process ω} {lease : Lease} {held others : List Lease}

theorem Concordant.beside (h : S.Concordant (c, p)) (unused : S.Unused p') (opened : p.opened ≤ p'.opened)
    (same : S.session p'.world c.transport.socket = S.session p.world c.transport.socket) :
    S.Concordant (c, p') where
  placed :=
    { unused
      opened := Nat.lt_of_lt_of_le h.placed.opened opened
      open_ := h.placed.open_
      dropped := fun hf => (congrArg Session.blocks same).trans (h.placed.dropped hf) }
  agrees := by
    have agrees := h.agrees
    unfold Agrees own at agrees ⊢
    rwa [same]

theorem Concord.congr (h : S.Concord p held) (same : ∀ l, l ∈ others ↔ l ∈ held) : S.Concord p others :=
  ⟨h.unused, fun l hl => h.each l ((same l).mp hl)⟩

theorem Concord.elsewhere (h : S.Concord p others) (unused : S.Unused p') (opened : p.opened ≤ p'.opened)
    (same : ∀ l ∈ others, S.session p'.world l.socket = S.session p.world l.socket) : S.Concord p' others :=
  ⟨unused, fun l hl => (h.each l hl).beside unused opened (same l hl)⟩

theorem Concord.used (h : S.Concord p (lease :: others)) (parted : Parted p (lease :: others))
    {s : Client × Process ω} {es : List Event} (agreed : S.Concordant s)
    (spares : ∀ k, (sparing S.session k).rel (lease.client, p) es s) :
    S.Concord s.2 (⟨lease.id, s.1⟩ :: others) := by
  have others' : S.Concord p others := ⟨h.unused, fun l hl => h.each l (.tail _ hl)⟩
  have rest := others'.elsewhere agreed.placed.unused (spares 0).1 fun l hl =>
    ((spares l.socket).2 (parted.opened l (.tail _ hl)) fun same =>
      parted.apart hl (List.mem_singleton.mpr same.symm)).2.2
  refine ⟨rest.unused, fun l hl => ?_⟩
  rcases List.mem_cons.mp hl with rfl | hl
  · exact agreed
  · exact rest.each l hl

theorem closeInner_blocks (isOpen : c.closed = false) :
    (S.session (closeInner H (c, p)).state.2.world c.transport.socket).blocks = [] := by
  have closes := closing (H := H) c p
  generalize closeInner H (c, p) = r at closes ⊢
  cases closes with
  | already hc => simp [isOpen] at hc
  | faulted hc hf => exact own_dropped c p p.world
  | farewell live p' es fs path answer => exact own_dropped c p' _

theorem Concord.discarded (h : S.Concord p (lease :: others)) (parted : Parted p (lease :: others)) :
    S.Concord (closeInner H (lease.client, p)).state.2 others := by
  have leaves := (setUpPath_settingUp (S := S)).closeInner (lease.client, p)
  have spares (k : Socket) : (sparing S.session k).rel _ _ _ :=
    (setUpPath_sparing S.perSocket (s := k)).closeInner (lease.client, p)
  have opened := parted.opened lease List.mem_cons_self
  refine Concord.elsewhere (p := p) ⟨h.unused, fun l hl => h.each l (.tail _ hl)⟩
    (leaves.2.2 opened h.unused).1 leaves.2.1 fun l hl => ?_
  exact ((spares l.socket).2 (parted.opened l (.tail _ hl)) fun same =>
    parted.apart hl (List.mem_singleton.mpr same.symm)).2.2

theorem Concord.opened (h : S.Concord p others) (below : ∀ l ∈ others, l.socket < p.opened)
    {r : Execution (Process ω) Error Event Client} (run : connect H options p = r) :
    S.Concord r.state others := by
  obtain ⟨grows, -⟩ := connect_sparing S.perSocket 0 options p run
  exact h.elsewhere (connect_placed run h.unused).1 grows fun l hl =>
    ((connect_sparing S.perSocket l.socket options p run).2 (below l hl)).2

theorem Concord.connected (h : S.Concord p others) (below : ∀ l ∈ others, l.socket < p.opened)
    (run : (connect H options p).outcome = .returned c) (id : Nat) :
    S.Concord (connect H options p).state (⟨id, c⟩ :: others) := by
  obtain ⟨placed, none_open, flag⟩ := (connect_placed (S := S) (H := H) rfl h.unused).2 c run
  have rest : S.Concord (connect H options p).state others := h.opened below rfl
  refine ⟨rest.unused, fun l hl => ?_⟩
  rcases List.mem_cons.mp hl with rfl | hl
  · exact ⟨placed, by simp [Agrees, none_open, Client.inTransaction, flag]⟩
  · exact rest.each l hl

/-! ## The clean-up -/

theorem rollbackOpen_concordant {blocks : Nat} {s : Client × Process ω} (h : S.Concordant s)
    (fits : ∀ n < blocks, ClosingFits H (rollbackOpen H n s).state .rollback) :
    S.Concordant (rollbackOpen H blocks s).state := by
  induction blocks generalizing s with
  | zero => exact h
  | succ blocks ih =>
    cases inside : s.1.inTransaction with
    | false => rw [rollbackOpen_outside inside]; exact h
    | true =>
      have first : ClosingFits H s .rollback := fits 0 (Nat.succ_pos _)
      have plain : S.Plain s .rollback := fun hk => by cases hk
      obtain ⟨placed, agrees⟩ := run_agrees h.placed h.agrees plain first
      rcases run : rollback H s with ⟨o, s', es⟩
      have after : (Call.rollback.run H s).state = s' := by
        rw [Call.run, Action.bind_apply, run]
        cases o <;> rfl
      rw [after] at placed agrees
      cases o with
      | panicked => exact absurd (by rw [run]) (rollback_ne_panicked inside)
      | failed e =>
        rw [rollbackOpen_failed inside run]
        exact ⟨placed, agrees⟩
      | returned r =>
        rw [rollbackOpen_returned inside run]
        refine ih ⟨placed, agrees⟩ fun n hn => ?_
        have next := fits (n + 1) (Nat.succ_lt_succ hn)
        rwa [rollbackOpen_returned inside run] at next

theorem settle_concordant {outcome : Except Error α} {s : Client × Process ω} (h : S.Concordant s)
    (fits : brokenBy outcome s.1 = false →
      ∀ n < maxOpenBlocks, ClosingFits H (rollbackOpen H n s).state .rollback) :
    S.Concordant (settle H outcome s).state := by
  rw [settle_apply]
  split
  · rename_i cleans
    simp only [Bool.and_eq_true, Bool.not_eq_true'] at cleans
    exact rollbackOpen_concordant h (fits cleans.1)
  · exact h

end SessionServer

/-! ## Runs of the pool -/

theorem Step.moves_or_outside {a b : System ω α} (h : Step H options size a b) :
    (∃ before after x y sh sh', Moves H options size sh x y sh' ∧ a = ⟨sh, before ++ x :: after⟩ ∧
      b = ⟨sh', before ++ y :: after⟩) ∨
      (b.shared.process = a.shared.process ∧ Beside a b) ∨ (b.threads = a.threads ∧ Beside a b) := by
  rcases h.moves_or_beside with moves | beside
  · exact .inl moves
  · cases h with
    | moves before after x y sh sh' hm => exact .inl ⟨before, after, x, y, sh, sh', hm, rfl, rfl⟩
    | outside sh threads process opened => exact .inr (.inr ⟨rfl, beside⟩)
    | _ => exact .inr (.inl ⟨rfl, beside⟩)

variable (S) in
/-- What a thread is about to do leaves transactions to the calls for them: its closure sends
no control statement of its own, and one that closes a transaction fits in a frame. -/
def SessionServer.Careful (p : Process ω) : Phase α → Prop
  | .working lease (.call c _) => S.Plain (lease.client, p) c ∧ ClosingFits H (lease.client, p) c
  | .working lease (.done outcome) => brokenBy outcome lease.client = false →
      ∀ n < maxOpenBlocks, ClosingFits H (rollbackOpen H n (lease.client, p)).state .rollback
  | _ => True

variable {others : List Lease}

theorem Moves.concord {sh sh' : Shared ω} {a b : Phase α} (h : Moves H options size sh a b sh')
    (parted : Parted sh.process (a.leases ++ (sh.pool.idle ++ others))) (careful : S.Careful sh.process a)
    (concord : S.Concord sh.process (a.leases ++ (sh.pool.idle ++ others))) :
    S.Concord sh'.process (b.leases ++ (sh'.pool.idle ++ others)) := by
  cases h with
  | acquire deadline work =>
    exact concord.congr ((PoolState.acquire_passed size false ..).mem_leases deadline work others)
  | resume timedOut deadline work =>
    exact concord.congr ((PoolState.resume_passed ..).mem_leases deadline work others)
  | connected work c run => exact concord.connected parted.opened run sh.born
  | refused work e run => exact concord.opened parted.opened rfl
  | call lease c next =>
    obtain ⟨placed, agrees⟩ := concord.each lease List.mem_cons_self
    obtain ⟨placed', agrees'⟩ := SessionServer.run_agrees placed agrees careful.1 careful.2
    exact concord.used parted ⟨placed', agrees'⟩ fun k => (callPath_sparing S.perSocket).run c _
  | finish lease outcome broken leftOpen run =>
    have settled := SessionServer.settle_concordant (concord.each lease List.mem_cons_self) careful
    exact concord.used parted settled fun k =>
      respects_settle (respects_rollback (callPath_sparing S.perSocket)) outcome _
  | unwind lease => exact concord.discarded parted
  | retire lease result => exact concord.discarded parted
  | closeIdle lease rest => exact concord.discarded parted
  | release lease broken result =>
    refine concord.congr fun l => ?_
    unfold PoolState.release
    split <;> simp [Shared.withPool, Phase.leases]
  | close =>
    refine concord.congr fun l => ?_
    simp [Shared.withPool, PoolState.close, Phase.leases]
  | _ => exact concord

variable (S) in
/-- A step whose threads are careful, and in which the rest of the process and the outside
leave the sessions of the pool's connections alone. -/
structure SessionServer.Mannerly (a b : System ω α) : Prop where
  careful : ∀ x ∈ a.threads, S.Careful a.shared.process x
  outside : b.threads = a.threads → (S.Unused a.shared.process → S.Unused b.shared.process) ∧
    ∀ l ∈ a.leases, S.session b.shared.process.world l.socket = S.session a.shared.process.world l.socket

theorem SessionServer.Concord.step {a b : System ω α} (h : S.Concord a.shared.process a.leases)
    (apart : Apart a) (hs : Step H options size a b) (mannerly : S.Mannerly a b) :
    S.Concord b.shared.process b.leases := by
  rcases hs.moves_or_outside with ⟨before, after, x, y, sh, sh', hm, rfl, rfl⟩ | ⟨same, beside⟩ | ⟨same, beside⟩
  · have here := leases_at sh before after x
    have there := leases_at sh' before after y
    exact (hm.concord (apart.parted.perm here) (mannerly.careful x (by simp))
      (h.congr fun _ => here.symm.mem_iff)).congr fun _ => there.mem_iff
  · rw [same, beside.leases]
    exact h
  · obtain ⟨unused, kept⟩ := mannerly.outside same
    rw [beside.leases]
    exact h.elsewhere (unused h.unused) beside.opened kept

variable (S options size) in
/-- The states of the runs of a pool at such a server, from a process in which nothing is open. -/
def SessionServer.Served (sys : System ω α) : Prop :=
  ∃ process threads, S.Unused process ∧
    Relation.ReflTransGen (fun a b => Step H options size a b ∧ S.Mannerly a b)
      (.initial process threads) sys

theorem SessionServer.Served.reachable {sys : System ω α} (h : S.Served options size sys) :
    Reachable H options size sys := by
  obtain ⟨process, threads, -, path⟩ := h
  exact ⟨process, threads, Relation.ReflTransGen.mono (fun _ _ h => And.left h) _ _ path⟩

theorem SessionServer.Served.step {a b : System ω α} (h : S.Served options size a) (hs : Step H options size a b)
    (mannerly : S.Mannerly a b) : S.Served options size b := by
  obtain ⟨process, threads, unused, path⟩ := h
  exact ⟨process, threads, unused, path.tail ⟨hs, mannerly⟩⟩

theorem SessionServer.Served.concord {sys : System ω α} (h : S.Served options size sys) :
    S.Concord sys.shared.process sys.leases := by
  obtain ⟨process, threads, unused, path⟩ := h
  induction path with
  | refl =>
    refine ⟨unused, fun l hl => ?_⟩
    have none_yet : (System.initial process threads : System ω α).leases = [] := by
      rw [System.leases, initial_flatMap process threads Phase.leases rfl]
      rfl
    exact absurd (none_yet ▸ hl) List.not_mem_nil
  | tail path last ih =>
    have reached : S.Served options size _ := ⟨process, threads, unused, path⟩
    exact ih.step reached.reachable.apart last.1 last.2

/-! ## Nothing inherited -/

/-- A thread that has no connection yet and is about to get one. -/
def Phase.borrows : Phase α → Bool
  | acquiring _ _ | woken _ _ _ | connecting _ => true
  | _ => false

variable (H options size) in
/-- No transaction reaches a connection's next borrower, and none outlives its connection: the
server has none open on one that is idle, lent or closed, and of the others the client knows. -/
structure NoneInherited (S : SessionServer H) (sys : System ω α) : Prop where
  known : ∀ lease ∈ sys.leases, S.Agrees (lease.client, sys.shared.process)
  idle : ∀ lease ∈ sys.shared.pool.idle, (S.own (lease.client, sys.shared.process)).blocks = []
  lent : ∀ a ∈ sys.threads, a.borrows = true → ∀ lease work sh',
    Moves H options size sys.shared a (.working lease work) sh' →
      (S.own (lease.client, sh'.process)).blocks = []
  closed : ∀ a ∈ sys.threads, ∀ b sh', Moves H options size sys.shared a b sh' →
    ∀ lease ∈ a.leases, lease.id ∉ b.ids → lease.id ∉ sh'.pool.idle.map Lease.id →
      (S.own (lease.client, sh'.process)).blocks = []

theorem SessionServer.Concordant.none_open {s : Client × Process ω} (h : S.Concordant s)
    (settled : s.1.inTransaction = false) : (S.own s).blocks = [] := by
  by_contra isOpen
  have inside := h.agrees.mpr isOpen
  rw [settled] at inside
  cases inside

theorem Moves.lent_blocks {sh sh' : Shared ω} {a : Phase α} {lease : Lease} {work : Proc α}
    (h : Moves H options size sh a (.working lease work) sh') (borrows : a.borrows = true)
    (unused : S.Unused sh.process)
    (idle : ∀ l ∈ sh.pool.idle, (S.own (l.client, sh.process)).blocks = []) :
    (S.own (lease.client, sh'.process)).blocks = [] := by
  have passes {timedOut : Bool} {deadline bound : Option Nat} {x : Acquired × PoolState} {rest : Proc α}
      (h : PoolState.Passed size timedOut deadline sh.now sh.pool x)
      (lends : x.1.phase bound rest = .working lease work) :
      (S.own (lease.client, sh.process)).blocks = [] := by
    cases h with
    | lent isOpen l others hi =>
      cases lends
      exact idle lease (hi ▸ List.mem_cons_self)
    | _ => cases lends
  generalize hb : Phase.working lease work = b at h
  cases h with
  | acquire deadline rest => exact passes (PoolState.acquire_passed size false ..) hb.symm
  | resume timedOut deadline rest => exact passes (PoolState.resume_passed ..) hb.symm
  | connected rest c run =>
    cases hb
    exact ((SessionServer.connect_placed (S := S) (H := H) rfl unused).2 c run).2.1
  | look | call | release => cases borrows
  | _ => cases hb

theorem Moves.closed_blocks {sh sh' : Shared ω} {a b : Phase α} (h : Moves H options size sh a b sh')
    {lease : Lease} (mem : lease ∈ a.leases) (isOpen : lease.client.closed = false)
    (left : lease.id ∉ b.ids) (away : lease.id ∉ sh'.pool.idle.map Lease.id) :
    (S.own (lease.client, sh'.process)).blocks = [] := by
  have here : lease.id ∈ a.ids := List.mem_map_of_mem mem
  have closes {l : Lease} (same : lease = l) :
      (S.own (lease.client, (closeInner H (l.client, sh.process)).state.2)).blocks = [] :=
    same ▸ SessionServer.closeInner_blocks isOpen
  cases h with
  | unwind l => exact closes (List.mem_singleton.mp mem)
  | retire l result => exact closes (List.mem_singleton.mp mem)
  | closeIdle l rest =>
    rcases List.mem_cons.mp mem with same | mem
    · exact closes same
    · exact absurd (List.mem_map_of_mem mem) left
  | release l broken result =>
    obtain rfl : lease = l := List.mem_singleton.mp mem
    unfold PoolState.release at left away
    split at left
    · exact absurd here left
    · rename_i kept
      simp only [Bool.not_eq_true] at kept
      rw [if_neg] at away
      · simp [Shared.withPool] at away
      · simpa using kept
  | _ => first | exact absurd here left | cases mem

/-- However the threads of a pool interleave, no transaction reaches the next borrower of its
connection, and none outlives it. -/
theorem served_noneInherited {sys : System ω α} (h : S.Served options size sys) :
    NoneInherited H options size S sys := by
  have concord := h.concord
  have idle : ∀ lease ∈ sys.shared.pool.idle, (S.own (lease.client, sys.shared.process)).blocks = [] :=
    fun lease hl => (concord.each lease (List.mem_append_left _ hl)).none_open
      (h.reachable.clients.idle lease hl).settled
  refine ⟨fun lease hl => (concord.each lease hl).agrees, idle, ?_, ?_⟩
  · intro a _ borrows lease work sh' hm
    exact hm.lent_blocks borrows concord.unused idle
  · intro a ha b sh' hm lease hl left away
    have held : lease ∈ sys.leases := List.mem_append_right _ (List.mem_flatMap.mpr ⟨a, ha, hl⟩)
    exact hm.closed_blocks hl (concord.each lease held).placed.open_ left away

end

theorem SessionServer.Served.moved {ω α : Type} {H : Host ω} {options : Options} {size : Nat}
    {S : SessionServer H} {sh sh' : Shared ω} {a b : Phase α} (h : S.Served options size ⟨sh, [a]⟩)
    (hm : Moves H options size sh a b sh') (careful : S.Careful sh.process a) (moves : b ≠ a) :
    S.Served options size ⟨sh', [b]⟩ :=
  h.step (.moves [] [] _ _ _ _ hm) ⟨fun _ hx => List.mem_singleton.mp hx ▸ careful,
    fun same => absurd (List.singleton_inj.mp same) moves⟩

theorem SessionServer.Served.called {ω α : Type} {H : Host ω} {options : Options} {size id : Nat}
    {S : SessionServer H} {sh : Shared ω} {s : Client × Process ω} {c : Call} {next : Proc α}
    (h : S.Served options size ⟨sh, [.working ⟨id, s.1⟩ (.call c fun _ => next)]⟩)
    (here : sh.process = s.2) (careful : S.Plain s c ∧ ClosingFits H s c) :
    S.Served options size
      ⟨sh.ran (c.run H s).state.2 (c.run H s).events, [.working ⟨id, (c.run H s).state.1⟩ next]⟩ := by
  refine h.moved (.called here c next) ?_ (Phase.working_ne_call _ _ c next)
  rw [SessionServer.Careful, here]
  exact careful

/-! ## A closure that leaves blocks open -/

theorem closingFits_rollback {ω : Type} {H : Host ω} {s : Client × Process ω}
    (fits : s.1.inTransaction = true →
      (encode .request (H.body (some (s.1.envelope rollbackOp s.1.requestTxn)))).isOk = true) :
    ClosingFits H s .rollback := by
  intro k _ _ inside tag payload first
  rcases frame?_cases first with ⟨other, -⟩ | ⟨id, other, -⟩ | ⟨op, txn, asks, rfl, rfl⟩
  · cases other
  · cases other
  · cases asks
    have written := fits inside
    cases sized : encode .request (H.body (some (s.1.envelope rollbackOp s.1.requestTxn))) with
    | ok bytes => exact ⟨bytes, sized⟩
    | error e =>
      rw [sized] at written
      cases written

theorem rollbackOpen_over {ω : Type} {H : Host ω} {s : Client × Process ω} (k n : Nat)
    (ended : (rollbackOpen H k s).state.1.inTransaction = false) :
    (rollbackOpen H (k + n) s).state = (rollbackOpen H k s).state := by
  induction k generalizing s with
  | zero =>
    rw [Nat.zero_add, rollbackOpen_outside (s := s) ended]
    rfl
  | succ k ih =>
    rw [Nat.add_right_comm]
    cases inside : s.1.inTransaction with
    | false => rw [rollbackOpen_outside inside, rollbackOpen_outside inside]
    | true =>
      rcases run : rollback H s with ⟨o, s', es⟩
      cases o with
      | panicked => exact absurd (by rw [run]) (rollback_ne_panicked inside)
      | failed e => rw [rollbackOpen_failed inside run, rollbackOpen_failed inside run]
      | returned r =>
        rw [rollbackOpen_returned inside run] at ended
        rw [rollbackOpen_returned inside run, rollbackOpen_returned inside run]
        exact ih ended

/-- Where two blocks are open. -/
def begunTwice : Client × Process Desk :=
  (Call.begin.run deskHost (Call.begin.run deskHost deskSession).state).state

theorem begunTwice_closes (n : Nat) :
    ClosingFits deskHost (rollbackOpen deskHost n begunTwice).state .rollback := by
  match n with
  | 0 => exact closingFits_rollback fun _ => by decide +kernel
  | 1 => exact closingFits_rollback fun _ => by decide +kernel
  | n + 2 =>
    have ended : (rollbackOpen deskHost 2 begunTwice).state.1.inTransaction = false := by decide +kernel
    rw [Nat.add_comm, rollbackOpen_over 2 n ended]
    exact closingFits_rollback fun inside => absurd (ended.symm.trans inside) (by decide)

theorem served_returned : ∃ sys : System Desk Unit, desk.Served Options.default 1 sys ∧
    (copies sys.shared.log).length = 4 ∧ sys.shared.pool.idle ≠ [] := by
  have run : connect deskHost Options.default deskStart =
      ⟨.returned session, deskSession.2, sessionLog⟩ := by with_unfolding_all rfl
  let work : Proc Unit := Proc.ofCalls [.begin, .begin]
  let start : Shared Desk := ⟨.new, deskStart, 0, [], 0, [], 0, []⟩
  have fresh : desk.Served Options.default 1 (⟨start, [.ready none]⟩ : System Desk Unit) :=
    ⟨deskStart, 1, desk_unused, .refl⟩
  have borrowed := fresh.moved (.borrow none none work) trivial (by simp)
  have reserved : desk.Served Options.default 1
      ⟨start.withPool ⟨[], 1, false⟩, [.connecting work]⟩ :=
    borrowed.moved (.acquire none work) trivial (by simp)
  have lent := reserved.moved (.opened run) trivial (by simp)
  have begins (s : Client × Process Desk) : desk.Plain s .begin ∧ ClosingFits deskHost s .begin := by
    refine ⟨nofun, fun k hk closing => ?_⟩
    cases hk
    exact absurd rfl closing
  have twice := ((lent.called (s := deskSession) rfl (begins _)).called rfl (begins _))
  have cleans : settle deskHost (.ok () : Except Error Unit) begunTwice = _ :=
    settle_inside (by decide +kernel) (by decide +kernel)
  have finished := twice.moved (.finish ⟨0, begunTwice.1⟩ (.ok ()) _ _ (congrArg Execution.outcome cleans))
    (fun _ n _ => begunTwice_closes n) (by simp)
  have returned := finished.moved (.release _ _ _) trivial (by split <;> simp)
  exact ⟨_, returned, by decide +kernel, by decide +kernel⟩

theorem served_noneInherited_returned : ∃ sys : System Desk Unit,
    (copies sys.shared.log).length = 4 ∧ sys.shared.pool.idle ≠ [] ∧
      NoneInherited deskHost Options.default 1 desk sys := by
  obtain ⟨sys, served, asked, returned⟩ := served_returned
  exact ⟨sys, asked, returned, served_noneInherited served⟩

end TricoreSdk
