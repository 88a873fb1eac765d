import TricoreSdk.Pool
import Mathlib.Logic.Relation

/-! Threads at a pool. Each lock-held section is one step, and so is each thing done
between two of them; a run is any interleaving of the steps of its threads. -/

namespace TricoreSdk
open Effects

/-- Where a thread stands. `acquiring` and `woken` are about to take the lock; `refused`
and `releasing` too, to give a slot back; `retiring` has given it back and is about to
close its connection, `notifying` to wake a waiter; `closingIdle` closes what `close`
took from the pool, and then wakes everyone. -/
inductive Phase (α : Type) where
  | ready (last : Option (Except Error α))
  | acquiring (deadline : Option Nat) (work : Proc α)
  | waiting (deadline : Option Nat) (work : Proc α)
  | woken (timedOut : Bool) (deadline : Option Nat) (work : Proc α)
  | connecting (work : Proc α)
  | refused (e : Error)
  | working (lease : Lease) (work : Proc α)
  | releasing (lease : Lease) (broken : Bool) (result : Except Error α)
  | retiring (lease : Lease) (result : Except Error α)
  | notifying (result : Except Error α)
  | closing
  | closingIdle (leases : List Lease)

/-- What the threads share: the pool, the process, and the time. The rest is kept for
statements only: what happened, how many connections the pool has opened, the ones
that were closed, how many closures have unwound, and the clean-ups that failed. -/
structure Shared (ω : Type) where
  pool : PoolState
  process : Process ω
  now : Nat
  log : List Event
  born : Nat
  gone : List Nat
  unwound : Nat
  botched : List (Nat × (Client × Process ω))

structure System (ω α : Type) where
  shared : Shared ω
  threads : List (Phase α)

namespace Shared

variable {ω α : Type}

def ran (sh : Shared ω) (process : Process ω) (es : List Event) : Shared ω :=
  { sh with process := process, log := sh.log ++ es }

/-- The shared part with the pool as a lock-held section leaves it. -/
def withPool (sh : Shared ω) (pool : PoolState) : Shared ω := { sh with pool := pool }

/-- What is shared once a connection is closed. -/
def closed (H : Host ω) (sh : Shared ω) (lease : Lease) : Shared ω :=
  let r := closeInner H (lease.client, sh.process)
  { sh.ran r.state.2 r.events with gone := lease.id :: sh.gone }

end Shared

def Phase.wake {α : Type} : Phase α → Phase α
  | waiting deadline work => woken false deadline work
  | phase => phase

/-- Where a pass of `acquire` leaves its thread. -/
def Acquired.phase {α : Type} (deadline : Option Nat) (work : Proc α) : Acquired → Phase α
  | failed e => .ready (some (.error e))
  | lent lease => .working lease work
  | reserved => .connecting work
  | waits => .waiting deadline work

section

variable {ω α : Type} (H : Host ω) (options : Options) (size : Nat)

/-- The steps a thread takes by itself. -/
inductive Moves (sh : Shared ω) : Phase α → Phase α → Shared ω → Prop
  | borrow (last : Option (Except Error α)) (deadline : Option Nat) (work : Proc α) :
    Moves sh (.ready last) (.acquiring deadline work) sh
  | shut (last : Option (Except Error α)) : Moves sh (.ready last) .closing sh
  | acquire (deadline : Option Nat) (work : Proc α) :
    Moves sh (.acquiring deadline work)
      ((sh.pool.acquire size deadline sh.now).1.phase deadline work)
      (sh.withPool (sh.pool.acquire size deadline sh.now).2)
  | resume (timedOut : Bool) (deadline : Option Nat) (work : Proc α) :
    Moves sh (.woken timedOut deadline work)
      ((sh.pool.resume size timedOut deadline sh.now).1.phase deadline work)
      (sh.withPool (sh.pool.resume size timedOut deadline sh.now).2)
  | spurious (deadline : Option Nat) (work : Proc α) :
    Moves sh (.waiting deadline work) (.woken false deadline work) sh
  | timeOut (deadline : Nat) (work : Proc α) (passed : deadline ≤ sh.now) :
    Moves sh (.woken false (some deadline) work) (.woken true (some deadline) work) sh
  | connected (work : Proc α) (c : Client)
    (run : (connect H options sh.process).outcome = .returned c) :
    Moves sh (.connecting work) (.working ⟨sh.born, c⟩ work)
      { sh.ran (connect H options sh.process).state (connect H options sh.process).events with
        born := sh.born + 1 }
  | refused (work : Proc α) (e : Error)
    (run : (connect H options sh.process).outcome = .failed e) :
    Moves sh (.connecting work) (.refused e)
      (sh.ran (connect H options sh.process).state (connect H options sh.process).events)
  | look (lease : Lease) (next : Client → Proc α) :
    Moves sh (.working lease (.look next)) (.working lease (next lease.client)) sh
  | call (lease : Lease) (c : Call) (next : Outcome Error Reply → Proc α) :
    Moves sh (.working lease (.call c next))
      (.working ⟨lease.id, (c.run H (lease.client, sh.process)).state.1⟩
        (next (c.run H (lease.client, sh.process)).outcome))
      (sh.ran (c.run H (lease.client, sh.process)).state.2
        (c.run H (lease.client, sh.process)).events)
  | finish (lease : Lease) (outcome : Except Error α) (broken leftOpen : Bool)
    (run : (settle H outcome (lease.client, sh.process)).outcome = .returned (broken, leftOpen)) :
    Moves sh (.working lease (.done outcome))
      (.releasing ⟨lease.id, (settle H outcome (lease.client, sh.process)).state.1⟩ broken
        (verdict outcome leftOpen))
      { sh.ran (settle H outcome (lease.client, sh.process)).state.2
          (settle H outcome (lease.client, sh.process)).events with
        botched := ((failedCleanUp H outcome (lease.client, sh.process)).map
          fun s => (lease.id, s)).toList ++ sh.botched }
  -- The client is dropped on the way out, and nothing gives its slot back.
  | unwind (lease : Lease) :
    Moves sh (.working lease .panic) (.ready none)
      { sh.closed H lease with unwound := sh.unwound + 1 }
  | release (lease : Lease) (broken : Bool) (result : Except Error α) :
    Moves sh (.releasing lease broken result)
      (if (sh.pool.release lease broken).2 then .retiring lease result else .notifying result)
      (sh.withPool (sh.pool.release lease broken).1)
  | retire (lease : Lease) (result : Except Error α) :
    Moves sh (.retiring lease result) (.notifying result) (sh.closed H lease)
  | close : Moves sh .closing (.closingIdle sh.pool.idle.reverse) (sh.withPool sh.pool.close)
  | closeIdle (lease : Lease) (rest : List Lease) :
    Moves sh (.closingIdle (lease :: rest)) (.closingIdle rest) (sh.closed H lease)

/-- `notify_one`: one of the waiters is woken, if there is one. -/
inductive WakesOne : List (Phase α) → List (Phase α) → Prop
  | nobody (threads : List (Phase α)) (h : ∀ deadline work, .waiting deadline work ∉ threads) :
    WakesOne threads threads
  | woken (before after : List (Phase α)) (deadline : Option Nat) (work : Proc α) :
    WakesOne (before ++ .waiting deadline work :: after)
      (before ++ .woken false deadline work :: after)

/-- One step of the system: a thread moves, a connect that failed gives its slot back
and wakes a waiter under the lock, a thread notifies, time passes, or the rest of the
process and the outside do something. -/
inductive Step : System ω α → System ω α → Prop
  | moves (before after : List (Phase α)) (a b : Phase α) (sh sh' : Shared ω)
    (h : Moves H options size sh a b sh') :
    Step ⟨sh, before ++ a :: after⟩ ⟨sh', before ++ b :: after⟩
  | forfeit (before after threads : List (Phase α)) (e : Error) (sh : Shared ω)
    (h : WakesOne (before ++ .ready (some (.error e)) :: after) threads) :
    Step ⟨sh, before ++ .refused e :: after⟩ ⟨sh.withPool sh.pool.forfeit, threads⟩
  | notifyOne (before after threads : List (Phase α)) (result : Except Error α) (sh : Shared ω)
    (h : WakesOne (before ++ .ready (some result) :: after) threads) :
    Step ⟨sh, before ++ .notifying result :: after⟩ ⟨sh, threads⟩
  | notifyAll (before after : List (Phase α)) (sh : Shared ω) :
    Step ⟨sh, before ++ .closingIdle [] :: after⟩
      ⟨sh, (before ++ .ready none :: after).map Phase.wake⟩
  | tick (sh : Shared ω) (threads : List (Phase α)) (now : Nat) (later : sh.now ≤ now) :
    Step ⟨sh, threads⟩ ⟨{ sh with now := now }, threads⟩
  | outside (sh : Shared ω) (threads : List (Phase α)) (process : Process ω)
    (opened : sh.process.opened ≤ process.opened) :
    Step ⟨sh, threads⟩ ⟨{ sh with process := process }, threads⟩

def System.initial (process : Process ω) (threads : Nat) : System ω α where
  shared := ⟨.new, process, 0, [], 0, [], 0, []⟩
  threads := List.replicate threads (.ready none)

def Reachable (sys : System ω α) : Prop :=
  ∃ process threads, Relation.ReflTransGen (Step H options size) (.initial process threads) sys

/-- The states of the runs whose steps all satisfy a condition. -/
def ReachableIf (φ : System ω α → System ω α → Prop) (sys : System ω α) : Prop :=
  ∃ process threads, Relation.ReflTransGen (fun a b => Step H options size a b ∧ φ a b)
    (.initial process threads) sys

variable {H options size}

theorem Reachable.invariant {I : System ω α → Prop}
    (start : ∀ process threads, I (.initial process threads))
    (step : ∀ a b, Reachable H options size a → I a → Step H options size a b → I b)
    {sys : System ω α} (h : Reachable H options size sys) : I sys := by
  obtain ⟨process, threads, path⟩ := h
  induction path with
  | refl => exact start process threads
  | tail path last ih => exact step _ _ ⟨process, threads, path⟩ ih last

theorem Reachable.step {a b : System ω α} (h : Reachable H options size a)
    (hs : Step H options size a b) : Reachable H options size b := by
  obtain ⟨process, threads, path⟩ := h
  exact ⟨process, threads, path.tail hs⟩

theorem ReachableIf.reachable {φ : System ω α → System ω α → Prop} {sys : System ω α}
    (h : ReachableIf H options size φ sys) : Reachable H options size sys := by
  obtain ⟨process, threads, path⟩ := h
  exact ⟨process, threads, Relation.ReflTransGen.mono (fun _ _ h => And.left h) _ _ path⟩

theorem ReachableIf.invariant {φ : System ω α → System ω α → Prop} {I : System ω α → Prop}
    (start : ∀ process threads, I (.initial process threads))
    (step : ∀ a b, Reachable H options size a → I a → Step H options size a b → φ a b → I b)
    {sys : System ω α} (h : ReachableIf H options size φ sys) : I sys := by
  obtain ⟨process, threads, path⟩ := h
  induction path with
  | refl => exact start process threads
  | tail path last ih =>
    exact step _ _ (ReachableIf.reachable ⟨process, threads, path⟩) ih last.1 last.2

/-! ## A closure on its connection -/

@[simp] theorem Shared.ran_nil (sh : Shared ω) : sh.ran sh.process [] = sh := by
  simp [ran]

theorem Shared.ran_ran (sh : Shared ω) (p q : Process ω) (es fs : List Event) :
    (sh.ran p es).ran q fs = sh.ran q (es ++ fs) := by
  simp [ran]

/-- Where a closure stands at its end. -/
def Proc.ended : Outcome Error α → Proc α
  | .returned value => .done (.ok value)
  | .failed e => .done (.error e)
  | .panicked => .panic

theorem Proc.next_ne_call (p : Proc α) {c : Call} {next : Outcome Error Reply → Proc α}
    (here : p = .call c next) (o : Outcome Error Reply) : next o ≠ p := by
  induction p generalizing c next o with
  | call c' next' ih =>
    cases here
    intro same
    exact ih o same o rfl
  | _ => cases here

theorem Phase.working_ne_call (lease lease' : Lease) (c : Call) (next : Proc α) :
    Phase.working lease' next ≠ .working lease (.call c fun _ => next) := fun same =>
  Proc.next_ne_call (.call c fun _ => next) rfl .panicked (Phase.working.inj same).2

theorem Moves.opened {sh : Shared ω} {work : Proc α} {c : Client} {p : Process ω} {es : List Event}
    (run : connect H options sh.process = ⟨.returned c, p, es⟩) :
    Moves H options size sh (.connecting work) (.working ⟨sh.born, c⟩ work)
      { sh.ran p es with born := sh.born + 1 } := by
  have moves : Moves H options size sh (.connecting work) _ _ :=
    .connected work c (congrArg Execution.outcome run)
  rwa [run] at moves

theorem Moves.called {sh : Shared ω} {id : Nat} {s : Client × Process ω} (here : sh.process = s.2)
    (c : Call) (next : Proc α) :
    Moves H options size sh (.working ⟨id, s.1⟩ (.call c fun _ => next))
      (.working ⟨id, (c.run H s).state.1⟩ next)
      (sh.ran (c.run H s).state.2 (c.run H s).events) := by
  have moves : Moves H options size sh (.working ⟨id, s.1⟩ (.call c fun _ => next)) _ _ :=
    .call ⟨id, s.1⟩ c fun _ => next
  have same : ((⟨id, s.1⟩ : Lease).client, sh.process) = s := by rw [here]
  rwa [same] at moves

/-- When nothing comes between its calls, a closure does to its connection what it does
to a client of its own. -/
theorem working_path (work : Proc α) (lease : Lease) (sh : Shared ω) (before after : List (Phase α)) :
    Relation.ReflTransGen (Step H options size) ⟨sh, before ++ .working lease work :: after⟩
      ⟨sh.ran (work.run H (lease.client, sh.process)).state.2
          (work.run H (lease.client, sh.process)).events,
        before ++ .working ⟨lease.id, (work.run H (lease.client, sh.process)).state.1⟩
          (.ended (work.run H (lease.client, sh.process)).outcome) :: after⟩ := by
  induction work generalizing lease sh with
  | done result =>
    cases result <;> simp only [Proc.run, Action.ofExcept, Proc.ended] <;>
      simpa using Relation.ReflTransGen.refl
  | panic =>
    simp only [Proc.run, Proc.ended]
    simpa [Action.panic] using Relation.ReflTransGen.refl
  | look next ih =>
    refine .head (.moves before after _ _ _ _ (.look lease next)) ?_
    have rest := ih lease.client lease sh
    simpa [Proc.run] using rest
  | call c next ih =>
    refine .head (.moves before after _ _ _ _ (.call lease c next)) ?_
    have rest := ih (c.run H (lease.client, sh.process)).outcome
      ⟨lease.id, (c.run H (lease.client, sh.process)).state.1⟩
      (sh.ran (c.run H (lease.client, sh.process)).state.2
        (c.run H (lease.client, sh.process)).events)
    rw [Shared.ran_ran] at rest
    simpa [Proc.run, Shared.ran] using rest

theorem Reachable.worked {sh : Shared ω} (before after : List (Phase α)) {lease : Lease}
    {work : Proc α} (h : Reachable H options size ⟨sh, before ++ .working lease work :: after⟩)
    {o : Outcome Error α} {s : Client × Process ω} {es : List Event}
    (run : work.run H (lease.client, sh.process) = ⟨o, s, es⟩) :
    Reachable H options size
      ⟨sh.ran s.2 es, before ++ .working ⟨lease.id, s.1⟩ (.ended o) :: after⟩ := by
  obtain ⟨process, threads, path⟩ := h
  have worked : Relation.ReflTransGen (Step H options size) _ _ :=
    working_path work lease sh before after
  rw [run] at worked
  exact ⟨process, threads, path.trans worked⟩

theorem lend_path (work : Proc α) (lease : Lease) (sh : Shared ω) (before after : List (Phase α))
    (ends : (work.run H (lease.client, sh.process)).outcome ≠ .panicked) :
    ∃ broken result sh', (lend H work (lease.client, sh.process)).outcome = Outcome.ofExcept result ∧
      sh'.process = (lend H work (lease.client, sh.process)).state.2 ∧
      sh'.log = sh.log ++ (lend H work (lease.client, sh.process)).events ∧ sh'.pool = sh.pool ∧
      Relation.ReflTransGen (Step H options size) ⟨sh, before ++ .working lease work :: after⟩
        ⟨sh', before ++ .releasing ⟨lease.id, (lend H work (lease.client, sh.process)).state.1⟩ broken
          result :: after⟩ := by
  obtain ⟨outcome, ended, attempted⟩ : ∃ outcome,
      Proc.ended (work.run H (lease.client, sh.process)).outcome = .done outcome ∧
        Action.attempt (work.run H) (lease.client, sh.process) =
          ⟨.returned outcome, (work.run H (lease.client, sh.process)).state,
            (work.run H (lease.client, sh.process)).events⟩ := by
    cases ho : (work.run H (lease.client, sh.process)).outcome with
    | returned value => exact ⟨.ok value, rfl, Action.attempt_of_returned ho⟩
    | failed e => exact ⟨.error e, rfl, Action.attempt_of_failed ho⟩
    | panicked => exact absurd ho ends
  have worked : Relation.ReflTransGen (Step H options size) _ _ :=
    working_path work lease sh before after
  unfold lend
  rw [Action.bind_apply, attempted, Execution.follow_returned, Action.bind_apply]
  rw [ended] at worked
  generalize (work.run H (lease.client, sh.process)).state = s at worked ⊢
  generalize (work.run H (lease.client, sh.process)).events = es at worked ⊢
  have settled := settle_apply (H := H) outcome s
  rcases run : settle H outcome s with ⟨o, s', fs⟩
  obtain ⟨broken, leftOpen, rfl⟩ : ∃ broken leftOpen, o = .returned (broken, leftOpen) := by
    rw [run] at settled
    split at settled <;>
      exact ⟨_, _, congrArg Execution.outcome settled⟩
  have finish : Moves H options size (sh.ran s.2 es) (.working ⟨lease.id, s.1⟩ (.done outcome)) _ _ :=
    .finish ⟨lease.id, s.1⟩ outcome broken leftOpen
      (by rw [show settle H outcome (s.1, (sh.ran s.2 es).process) = _ from run])
  rw [show settle H outcome ((⟨lease.id, s.1⟩ : Lease).client, (sh.ran s.2 es).process) = _ from run]
    at finish
  rw [Execution.follow_returned]
  dsimp only
  have path := worked.tail (.moves before after _ _ _ _ finish)
  generalize verdict outcome leftOpen = result at path ⊢
  cases result with
  | ok value =>
    refine ⟨broken, .ok value, _, rfl, ?_, ?_, ?_, path⟩ <;> simp [Shared.ran, Execution.after]
  | error e =>
    refine ⟨broken, .error e, _, rfl, ?_, ?_, ?_, path⟩ <;> simp [Shared.ran, Execution.after]

end

end TricoreSdk
