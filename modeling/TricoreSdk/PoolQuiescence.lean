import TricoreSdk.Lib.Progress
import TricoreSdk.PoolConversation
import TricoreSdk.PoolWaiting

/-! Where the threads of a pool come to. Left to themselves, with no further borrow, they
all come to rest, in whatever order they run; only a slot that was never given back keeps
a borrow from its end. -/

namespace TricoreSdk
open Effects

section

variable {ω α : Type} {H : Host ω} {options : Options} {size : Nat}

/-! ## The threads' own steps -/

/-- A thread that does nothing until something is asked of it, or it is woken. -/
def Phase.atRest : Phase α → Bool
  | ready _ | waiting _ _ => true
  | _ => false

variable (H options size) in
/-- The steps of the threads that are under way. No borrow begins, no one wakes without
being notified, and nothing happens outside. -/
inductive Proceeds : System ω α → System ω α → Prop
  | moves (before after : List (Phase α)) (a b : Phase α) (sh sh' : Shared ω) (busy : a.atRest = false)
    (h : Moves H options size sh a b sh') : Proceeds ⟨sh, before ++ a :: after⟩ ⟨sh', before ++ b :: after⟩
  | forfeit (before after threads : List (Phase α)) (e : Error) (sh : Shared ω)
    (h : WakesOne (before ++ .ready (some (.error e)) :: after) threads) :
    Proceeds ⟨sh, before ++ .refused e :: after⟩ ⟨sh.withPool sh.pool.forfeit, threads⟩
  | notifyOne (before after threads : List (Phase α)) (result : Except Error α) (sh : Shared ω)
    (h : WakesOne (before ++ .ready (some result) :: after) threads) :
    Proceeds ⟨sh, before ++ .notifying result :: after⟩ ⟨sh, threads⟩
  | notifyAll (before after : List (Phase α)) (sh : Shared ω) :
    Proceeds ⟨sh, before ++ .closingIdle [] :: after⟩
      ⟨sh, (before ++ .ready none :: after).map Phase.wake⟩

theorem Proceeds.step {a b : System ω α} (h : Proceeds H options size a b) : Step H options size a b := by
  cases h with
  | moves before after x y sh sh' busy hm => exact .moves before after x y sh sh' hm
  | forfeit before after threads e sh wakes => exact .forfeit before after threads e sh wakes
  | notifyOne before after threads result sh wakes =>
    exact .notifyOne before after threads result sh wakes
  | notifyAll before after sh => exact .notifyAll before after sh

theorem Reachable.proceeded {a b : System ω α} (h : Reachable H options size a)
    (path : Relation.ReflTransGen (Proceeds H options size) a b) : Reachable H options size b := by
  induction path with
  | refl => exact h
  | tail _ last ih => exact ih.step last.step

/-! ## Every run ends -/

inductive Proc.After : Proc α → Proc α → Prop
  | look (next : Client → Proc α) (c : Client) : After (next c) (.look next)
  | call (c : Call) (next : Outcome Error Reply → Proc α) (o : Outcome Error Reply) :
    After (next o) (.call c next)

theorem Proc.acc_after (work : Proc α) : Acc Proc.After work := by
  induction work with
  | done result => exact ⟨_, fun _ h => by cases h⟩
  | panic => exact ⟨_, fun _ h => by cases h⟩
  | look next ih =>
    refine ⟨_, fun _ h => ?_⟩
    cases h with
    | look _ c => exact ih c
  | call c next ih =>
    refine ⟨_, fun _ h => ?_⟩
    cases h with
    | call _ _ o => exact ih o

/-- How much of its borrow, or of its `close`, a thread has before it. Waiting and being woken
are no part of it. -/
def Phase.task : Phase α → Nat × Proc α × Nat
  | ready _ => (0, .panic, 0)
  | notifying _ | refused _ => (1, .panic, 0)
  | closingIdle leases => (1, .panic, leases.length)
  | retiring _ _ | closing => (2, .panic, 0)
  | releasing _ _ _ => (3, .panic, 0)
  | working _ work => (4, work, 0)
  | connecting _ => (5, .panic, 0)
  | acquiring _ _ | waiting _ _ | woken _ _ _ => (6, .panic, 0)

def Nearer : Nat × Proc α × Nat → Nat × Proc α × Nat → Prop :=
  Prod.Lex (· < ·) (Prod.Lex Proc.After (· < ·))

theorem wellFounded_nearer : WellFounded (Nearer (α := α)) := by
  have lt : WellFounded fun m n : Nat => m < n := wellFounded_lt
  exact lt.prod_lex (WellFounded.prod_lex ⟨Proc.acc_after⟩ lt)

/-- How many steps a thread can take before it waits, or waits no more. -/
def Phase.haste : Phase α → Nat
  | acquiring _ _ | woken false _ _ => 2
  | woken true _ _ => 1
  | _ => 0

def System.haste (sys : System ω α) : Nat := (sys.threads.map Phase.haste).sum

theorem Moves.nearer {sh sh' : Shared ω} {a b : Phase α} (h : Moves H options size sh a b sh')
    (busy : a.atRest = false) : Nearer b.task a.task ∨ b.task = a.task ∧ b.haste < a.haste := by
  have less {m n : Nat} {x y : Proc α × Nat} (h : m < n) : Nearer (m, x) (n, y) := .left _ _ h
  have passes (x : Acquired) (deadline : Option Nat) (work : Proc α) :
      Nearer (x.phase deadline work).task (6, .panic, 0) ∨
        (x.phase deadline work).task = (6, .panic, 0) ∧ (x.phase deadline work).haste = 0 := by
    cases x with
    | waits => exact .inr ⟨rfl, rfl⟩
    | failed e => exact .inl (less (by decide))
    | lent lease => exact .inl (less (by decide))
    | reserved => exact .inl (less (by decide))
  cases h with
  | borrow last deadline work => cases busy
  | shut last => cases busy
  | spurious deadline work => cases busy
  | acquire deadline work =>
    refine (passes _ deadline work).imp_right fun ⟨same, still⟩ => ⟨same, ?_⟩
    rw [still]
    exact Nat.zero_lt_two
  | resume timedOut deadline work =>
    refine (passes _ deadline work).imp_right fun ⟨same, still⟩ => ⟨same, ?_⟩
    rw [still]
    cases timedOut <;> simp [Phase.haste]
  | timeOut deadline work passed => exact .inr ⟨rfl, Nat.one_lt_two⟩
  | look lease next => exact .inl (.right _ (.left _ _ (.look next lease.client)))
  | call lease c next => exact .inl (.right _ (.left _ _ (.call c next _)))
  | closeIdle lease rest => exact .inl (.right _ (.right _ (Nat.lt_succ_self _)))
  | release lease broken result =>
    refine .inl ?_
    split
    · exact less (by decide)
    · exact less (by decide)
  | _ => exact .inl (less (by decide))

theorem Phase.task_wake (a : Phase α) : a.wake.task = a.task := by
  cases a <;> rfl

theorem WakesOne.task {threads threads' : List (Phase α)} (h : WakesOne threads threads') :
    threads'.map Phase.task = threads.map Phase.task := by
  cases h with
  | nobody _ _ => rfl
  | woken before after deadline work => simp [Phase.task]

theorem advances_at {before after threads : List (Phase α)} {a b : Phase α} (h : Nearer b.task a.task)
    (same : threads.map Phase.task = (before ++ b :: after).map Phase.task) :
    Advances Nearer (threads.map Phase.task) ((before ++ a :: after).map Phase.task) := by
  rw [same, List.map_append, List.map_append, List.map_cons, List.map_cons]
  exact .task _ _ _ _ h

theorem wellFounded_proceeds :
    WellFounded fun b a : System ω α => Proceeds H options size a b := by
  refine wellFounded_of_advances wellFounded_nearer (fun sys => sys.threads.map Phase.task)
    System.haste fun a b h => ?_
  have ends : Nearer (α := α) (0, .panic, 0) (1, .panic, 0) := .left _ _ Nat.zero_lt_one
  cases h with
  | moves before after x y sh sh' busy hm =>
    rcases hm.nearer busy with nearer | ⟨same, less⟩
    · exact .inl (advances_at nearer rfl)
    · refine .inr ⟨by simp [same], ?_⟩
      simp only [System.haste, List.map_append, List.map_cons, List.sum_append, List.sum_cons]
      omega
  | forfeit before after threads e sh wakes =>
    exact .inl (advances_at (a := .refused e) (b := .ready (some (.error e))) ends wakes.task)
  | notifyOne before after threads result sh wakes =>
    exact .inl (advances_at (a := .notifying result) (b := .ready (some result)) ends wakes.task)
  | notifyAll before after sh =>
    have same : Phase.task ∘ Phase.wake = (Phase.task : Phase α → _) := funext Phase.task_wake
    exact .inl (advances_at (a := .closingIdle []) (b := .ready none) ends (by rw [List.map_map, same]))

/-! ## Where it ends -/

theorem exists_wakesOne (threads : List (Phase α)) : ∃ threads', WakesOne threads threads' := by
  by_cases waits : ∃ deadline work, .waiting deadline work ∈ threads
  · obtain ⟨deadline, work, mem⟩ := waits
    obtain ⟨before, after, rfl⟩ := List.append_of_mem mem
    exact ⟨_, .woken before after deadline work⟩
  · exact ⟨threads, .nobody threads fun deadline work mem => waits ⟨deadline, work, mem⟩⟩

theorem connect_ends (H : Host ω) (options : Options) (p : Process ω) :
    (∃ c, (connect H options p).outcome = .returned c) ∨
      ∃ e, (connect H options p).outcome = .failed e := by
  have hc := connected (setUpPath_anyPath (H := H)) options p
  generalize connect H options p = r at hc ⊢
  cases hc with
  | gaveUp e p' es path => exact .inr ⟨e, rfl⟩
  | refused => exact .inr ⟨_, rfl⟩
  | shookHands => exact .inl ⟨_, rfl⟩

theorem exists_proceeds (sh : Shared ω) (before after : List (Phase α)) {a : Phase α}
    (busy : a.atRest = false) :
    ∃ next, Proceeds H options size ⟨sh, before ++ a :: after⟩ next := by
  have moves {b : Phase α} {sh' : Shared ω} (h : Moves H options size sh a b sh') :
      ∃ next, Proceeds H options size ⟨sh, before ++ a :: after⟩ next :=
    ⟨_, .moves before after a b sh sh' busy h⟩
  cases a with
  | ready last => cases busy
  | waiting deadline work => cases busy
  | acquiring deadline work => exact moves (.acquire deadline work)
  | woken timedOut deadline work => exact moves (.resume timedOut deadline work)
  | connecting work =>
    rcases connect_ends H options sh.process with ⟨c, run⟩ | ⟨e, run⟩
    · exact moves (.connected work c run)
    · exact moves (.refused work e run)
  | refused e =>
    obtain ⟨threads, wakes⟩ := exists_wakesOne (before ++ .ready (some (.error e)) :: after)
    exact ⟨_, .forfeit before after threads e sh wakes⟩
  | working lease work =>
    cases work with
    | panic => exact moves (.unwind lease)
    | look next => exact moves (.look lease next)
    | call c next => exact moves (.call lease c next)
    | done outcome =>
      have settled := settle_apply (H := H) outcome (lease.client, sh.process)
      split at settled <;>
        exact moves (.finish lease outcome _ _ (congrArg Execution.outcome settled))
  | releasing lease broken result => exact moves (.release lease broken result)
  | retiring lease result => exact moves (.retire lease result)
  | notifying result =>
    obtain ⟨threads, wakes⟩ := exists_wakesOne (before ++ .ready (some result) :: after)
    exact ⟨_, .notifyOne before after threads result sh wakes⟩
  | closing => exact moves .close
  | closingIdle leases =>
    cases leases with
    | nil => exact ⟨_, .notifyAll before after sh⟩
    | cons lease rest => exact moves (.closeIdle lease rest)

theorem atRest_of_last {sys : System ω α} (last : ∀ next, ¬ Proceeds H options size sys next) :
    ∀ a ∈ sys.threads, a.atRest = true := by
  obtain ⟨sh, threads⟩ := sys
  intro a ha
  by_contra busy
  obtain ⟨before, after, rfl⟩ := List.append_of_mem ha
  obtain ⟨next, h⟩ := exists_proceeds sh before after (Bool.eq_false_of_not_eq_true busy)
  exact last next h

/-! ## At rest -/

variable (H options size) in
/-- A pool whose threads have come to rest. Whoever still waits does so at an open pool that
has no slot left but those of closures that unwound, and with a deadline is told so in the end;
a closed pool has closed each of its connections once, and every conversation is over. -/
structure Resting (sys : System ω α) : Prop where
  rests : ∀ a ∈ sys.threads, a.atRest = true
  lent : sys.shared.pool.lent = sys.shared.unwound
  stranded : (∃ a ∈ sys.threads, a.isWaiting = true) →
    sys.shared.pool.closed = false ∧ sys.shared.pool.idle = [] ∧ size ≤ sys.shared.unwound
  toldSo : ∀ before after deadline work, sys.threads = before ++ .waiting (some deadline) work :: after →
    ∃ now, Relation.ReflTransGen (Step H options size) sys
      ⟨{ sys.shared with now := now }, before ++ .ready (some (.error noneFree)) :: after⟩
  drained : sys.shared.pool.closed = true →
    sys.shared.pool.idle = [] ∧ ∀ id, sys.shared.gone.count id = if id < sys.shared.born then 1 else 0
  parted : sys.shared.pool.closed = true → ∃ m,
    (conversations H options.user.isSome).run (fun _ => .fresh) sys.shared.log = some m ∧
      ∀ k, (m k).Settled

theorem Phase.eq_ready_or_waiting {a : Phase α} (h : a.atRest = true) :
    (∃ last, a = .ready last) ∨ ∃ deadline work, a = .waiting deadline work := by
  cases a with
  | ready last => exact .inl ⟨last, rfl⟩
  | waiting deadline work => exact .inr ⟨deadline, work, rfl⟩
  | _ => cases h

theorem countP_atRest {threads : List (Phase α)} (rests : ∀ a ∈ threads, a.atRest = true)
    {P : Phase α → Bool} (hr : ∀ last, P (.ready last) = false)
    (hw : ∀ deadline work, P (.waiting deadline work) = false) : threads.countP P = 0 := by
  refine List.countP_eq_zero.mpr fun a ha => ?_
  rcases Phase.eq_ready_or_waiting (rests a ha) with ⟨last, rfl⟩ | ⟨deadline, work, rfl⟩
  · simp [hr]
  · simp [hw]

theorem flatMap_atRest {threads : List (Phase α)} (rests : ∀ a ∈ threads, a.atRest = true)
    {β : Type} {f : Phase α → List β} (hr : ∀ last, f (.ready last) = [])
    (hw : ∀ deadline work, f (.waiting deadline work) = []) : threads.flatMap f = [] := by
  refine List.flatMap_eq_nil_iff.mpr fun a ha => ?_
  rcases Phase.eq_ready_or_waiting (rests a ha) with ⟨last, rfl⟩ | ⟨deadline, work, rfl⟩
  · exact hr last
  · exact hw deadline work

theorem gaveUp_path {sh : Shared ω} (idle : sh.pool.idle = []) (full : size ≤ sh.pool.lent)
    (before after : List (Phase α)) (deadline : Nat) (work : Proc α) :
    Relation.ReflTransGen (Step H options size) ⟨sh, before ++ .waiting (some deadline) work :: after⟩
      ⟨{ sh with now := max sh.now deadline }, before ++ .ready (some (.error noneFree)) :: after⟩ := by
  let late : Shared ω := { sh with now := max sh.now deadline }
  have waits : Step H options size ⟨sh, before ++ .waiting (some deadline) work :: after⟩
      ⟨late, before ++ .waiting (some deadline) work :: after⟩ := .tick sh _ _ (Nat.le_max_left ..)
  have wakes : Step H options size _ ⟨late, before ++ .woken false (some deadline) work :: after⟩ :=
    .moves before after _ _ late late (.spurious (some deadline) work)
  have timesOut : Step H options size _ ⟨late, before ++ .woken true (some deadline) work :: after⟩ :=
    .moves before after _ _ late late (.timeOut deadline work (Nat.le_max_right ..))
  have resumed : late.pool.resume size true (some deadline) late.now = (.failed noneFree, late.pool) := by
    simp [PoolState.resume, late, idle, full]
  have gives : Moves H options size late (.woken true (some deadline) work) _ _ :=
    .resume true (some deadline) work
  rw [resumed] at gives
  exact .tail (.tail (.tail (.single waits) wakes) timesOut) (.moves before after _ _ _ _ gives)

theorem resting_of_last {sys : System ω α} (h : Reachable H options size sys)
    (last : ∀ next, ¬ Proceeds H options size sys next) : Resting H options size sys := by
  have rests := atRest_of_last last
  have lent : sys.shared.pool.lent = sys.shared.unwound := by
    have unused : sys.borrows = 0 := countP_atRest rests (fun _ => rfl) fun _ _ => rfl
    rw [h.slots.lent, unused, Nat.zero_add]
  have stranded (waiting : ∃ a ∈ sys.threads, a.isWaiting = true) :
      sys.shared.pool.closed = false ∧ sys.shared.pool.idle = [] ∧ size ≤ sys.shared.pool.lent := by
    have waits : 0 < sys.waiters := List.countP_pos_iff.mpr waiting
    have silent : sys.pendingNotifies = 0 := countP_atRest rests (fun _ => rfl) fun _ _ => rfl
    have asleep : sys.awake = 0 := countP_atRest rests (fun _ => rfl) fun _ _ => rfl
    have none : sys.pendingNotifyAlls = 0 := countP_atRest rests (fun _ => rfl) fun _ _ => rfl
    cases closed : sys.shared.pool.closed with
    | true => exact absurd (h.attended.shut closed waits) (by omega)
    | false =>
      have full := h.attended.isOpen closed waits
      have fits := h.slots.fits
      exact ⟨rfl, List.eq_nil_of_length_eq_zero (by omega), by omega⟩
  have nobody : sys.threads.flatMap Phase.leases = [] :=
    flatMap_atRest rests (fun _ => rfl) fun _ _ => rfl
  refine ⟨rests, lent, lent ▸ stranded, ?_, fun closed => ?_, fun closed => ?_⟩
  · intro before after deadline work at_
    obtain ⟨-, idle, full⟩ := stranded ⟨.waiting (some deadline) work, by simp [at_], rfl⟩
    obtain ⟨sh, threads⟩ := sys
    obtain rfl : threads = _ := at_
    exact ⟨_, gaveUp_path idle full before after deadline work⟩
  · have idle := h.clients.shut closed
    have placed := h.placed
    have none : sys.threads.flatMap Phase.ids = [] :=
      flatMap_atRest rests (fun _ => rfl) fun _ _ => rfl
    refine ⟨idle, fun id => ?_⟩
    have here := placed id
    rwa [System.places, idle, none] at here
  · obtain ⟨m, allowed, -, -, settled⟩ := h.spoken
    have none : sys.leases = [] := by rw [System.leases, h.clients.shut closed, nobody]; rfl
    exact ⟨m, allowed, fun k => settled k (by rw [none]; exact List.not_mem_nil)⟩

variable (H options size) in
/-- What the threads that are under way come to. -/
structure ComesToRest (sys : System ω α) : Prop where
  ends : Acc (fun b a => Proceeds H options size a b) sys
  rests : ∀ last, Relation.ReflTransGen (Proceeds H options size) sys last →
    (∀ next, ¬ Proceeds H options size last next) → Resting H options size last
  comes : ∃ last, Relation.ReflTransGen (Proceeds H options size) sys last ∧ Resting H options size last

/-- From any state, in whatever order its threads go on, they come to rest in finitely many
steps, and they are stopped nowhere before. -/
theorem reachable_comesToRest {sys : System ω α} (h : Reachable H options size sys) :
    ComesToRest H options size sys := by
  have ends : Acc (fun b a => Proceeds H options size a b) sys := wellFounded_proceeds.apply sys
  obtain ⟨last, path, stuck⟩ := exists_last ends
  exact ⟨ends, fun last path stuck => resting_of_last (h.proceeded path) stuck,
    last, path, resting_of_last (h.proceeded path) stuck⟩

end

theorem reachable_comesToRest_contended : ComesToRest scripted Options.default 1 contended :=
  reachable_comesToRest reachable_contended

end TricoreSdk
