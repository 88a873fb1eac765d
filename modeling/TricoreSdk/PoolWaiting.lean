import TricoreSdk.PoolInvariant

/-! Waiting for a connection. While a thread waits, any room is about to be
announced; and a borrow gives up only past its deadline, at a pool with no room. -/

namespace TricoreSdk
open Effects

section

variable {ω α : Type} {H : Host ω} {options : Options} {size : Nat}

def Phase.isWaiting : Phase α → Bool
  | waiting _ _ => true
  | _ => false

/-- A thread that has yet to call `notify_one`. -/
def Phase.willNotify : Phase α → Bool
  | retiring _ _ | notifying _ => true
  | _ => false

/-- A thread whose wait is over and that has not retaken the lock. -/
def Phase.isWoken : Phase α → Bool
  | woken _ _ _ => true
  | _ => false

/-- A thread that has yet to call `notify_all`. -/
def Phase.willNotifyAll : Phase α → Bool
  | closingIdle _ => true
  | _ => false

namespace System

def waiters (sys : System ω α) : Nat := sys.threads.countP Phase.isWaiting

def pendingNotifies (sys : System ω α) : Nat := sys.threads.countP Phase.willNotify

def awake (sys : System ω α) : Nat := sys.threads.countP Phase.isWoken

def pendingNotifyAlls (sys : System ω α) : Nat := sys.threads.countP Phase.willNotifyAll

end System

/-! ## No lost wake-up -/

/-- Whoever waits at an open pool is owed no more room than is being announced, and
whoever waits at a closed one will be woken. -/
structure Attended (size : Nat) (sys : System ω α) : Prop where
  isOpen : sys.shared.pool.closed = false → 0 < sys.waiters →
    size - sys.shared.pool.lent ≤ sys.pendingNotifies + sys.awake
  shut : sys.shared.pool.closed = true → 0 < sys.waiters → 0 < sys.pendingNotifyAlls

theorem WakesOne.waiters {threads threads' : List (Phase α)} (h : WakesOne threads threads') :
    threads'.countP Phase.isWaiting ≤ threads.countP Phase.isWaiting := by
  cases h with
  | nobody _ _ => exact Nat.le_refl _
  | woken before after deadline work => simp [List.countP_cons, Phase.isWaiting]

theorem WakesOne.woken_of_waiters {threads threads' : List (Phase α)} (h : WakesOne threads threads')
    (left : 0 < threads'.countP Phase.isWaiting) :
    threads'.countP Phase.isWoken = threads.countP Phase.isWoken + 1 := by
  cases h with
  | nobody _ none =>
    obtain ⟨a, ha, waits⟩ := List.countP_pos_iff.mp left
    cases a with
    | waiting deadline work => exact absurd ha (none deadline work)
    | _ => cases waits
  | woken before after deadline work =>
    simp only [List.countP_append, List.countP_cons, Phase.isWoken]
    simp
    omega

theorem waiters_wake (threads : List (Phase α)) :
    (threads.map Phase.wake).countP Phase.isWaiting = 0 := by
  refine List.countP_eq_zero.mpr fun a ha => ?_
  obtain ⟨b, -, rfl⟩ := List.mem_map.mp ha
  cases b <;> simp [Phase.wake, Phase.isWaiting]

/-- A thread's move makes room only with an announcement, and starts to wait only when
there is none. -/
theorem Moves.announced {sh sh' : Shared ω} {a b : Phase α} (h : Moves H options size sh a b sh')
    (fits : sh.pool.idle.length + sh.pool.lent ≤ size) (isOpen : sh'.pool.closed = false) :
    size ≤ sh'.pool.lent ∨ b.isWaiting = false ∧
      size - sh'.pool.lent + a.willNotify.toNat + a.isWoken.toNat ≤
        size - sh.pool.lent + b.willNotify.toNat + b.isWoken.toNat := by
  have passes {timedOut : Bool} {deadline : Option Nat} {x : Acquired × PoolState} (work : Proc α)
      (h : PoolState.Passed size timedOut deadline sh.now sh.pool x) (isOpen : x.2.closed = false) :
      size ≤ x.2.lent ∨ (x.1.phase deadline work).isWaiting = false ∧
        size - x.2.lent + 1 ≤ size - sh.pool.lent := by
    cases h with
    | shut closed => simp [closed] at isOpen
    | lent _ lease rest hi =>
      rw [hi, List.length_cons] at fits
      exact .inr ⟨rfl, by simp only; omega⟩
    | reserved _ _ room => exact .inr ⟨rfl, by simp only; omega⟩
    | late _ full _ => exact .inl full
    | waits _ _ full => exact .inl full
  cases h with
  | acquire deadline work =>
    rcases passes work (PoolState.acquire_passed size false deadline _ _) isOpen with full | ⟨hw, room⟩
    · exact .inl full
    · refine .inr ⟨hw, ?_⟩
      simp only [Shared.withPool, Phase.willNotify, Phase.isWoken, Bool.toNat_false]
      omega
  | resume timedOut deadline work =>
    rcases passes work (PoolState.resume_passed size timedOut deadline _ _) isOpen with full | ⟨hw, room⟩
    · exact .inl full
    · refine .inr ⟨hw, ?_⟩
      simp only [Shared.withPool, Phase.willNotify, Phase.isWoken, Bool.toNat_false, Bool.toNat_true]
      omega
  | release lease broken result =>
    right
    unfold PoolState.release
    split <;> simp [Shared.withPool, Phase.isWaiting, Phase.willNotify, Phase.isWoken] <;> omega
  | close => simp [Shared.withPool, PoolState.close] at isOpen
  | _ =>
    exact .inr ⟨rfl, by simp [Shared.ran, Shared.closed, Phase.willNotify, Phase.isWoken]⟩

theorem Moves.shuts {sh sh' : Shared ω} {a b : Phase α} (h : Moves H options size sh a b sh')
    (closed : sh'.pool.closed = true) :
    b.isWaiting = false ∧ (sh.pool.closed = false ∨ a.willNotifyAll = true → b.willNotifyAll = true) := by
  have passes {timedOut : Bool} {deadline : Option Nat} {x : Acquired × PoolState} (work : Proc α)
      (h : PoolState.Passed size timedOut deadline sh.now sh.pool x) (closed : x.2.closed = true) :
      (x.1.phase deadline work).isWaiting = false ∧ sh.pool.closed = true := by
    cases h with
    | shut closed => exact ⟨rfl, closed⟩
    | late _ _ _ => exact ⟨rfl, closed⟩
    | lent isOpen _ _ _ | reserved isOpen _ _ | waits isOpen _ _ => simp [isOpen] at closed
  cases h with
  | acquire deadline work =>
    obtain ⟨hw, shut⟩ := passes work (PoolState.acquire_passed size false deadline _ _) closed
    exact ⟨hw, by simp [shut, Phase.willNotifyAll]⟩
  | resume timedOut deadline work =>
    obtain ⟨hw, shut⟩ := passes work (PoolState.resume_passed size timedOut deadline _ _) closed
    exact ⟨hw, by simp [shut, Phase.willNotifyAll]⟩
  | release lease broken result =>
    have shut : sh.pool.closed = true := by
      unfold PoolState.release at closed
      split at closed <;> exact closed
    exact ⟨by split <;> rfl, by simp [shut, Phase.willNotifyAll]⟩
  | close => exact ⟨rfl, fun _ => rfl⟩
  | closeIdle lease rest => exact ⟨rfl, fun _ => rfl⟩
  | _ =>
    have shut : sh.pool.closed = true := closed
    exact ⟨rfl, by simp [shut, Phase.willNotifyAll]⟩

/-- One more announcement is owed before a thread calls `notify_one` than after it. -/
theorem attended_of_wakes {sh : Shared ω} {threads threads' : List (Phase α)}
    (wakes : WakesOne threads threads')
    (owed : sh.pool.closed = false → 0 < threads.countP Phase.isWaiting →
      size - sh.pool.lent ≤ threads.countP Phase.willNotify + threads.countP Phase.isWoken + 1)
    (served : sh.pool.closed = true → 0 < threads.countP Phase.isWaiting →
      0 < threads.countP Phase.willNotifyAll) :
    Attended size ⟨sh, threads'⟩ := by
  have fewer := wakes.waiters
  have notifies := wakes.countP (P := Phase.willNotify) fun _ _ => rfl
  have alls := wakes.countP (P := Phase.willNotifyAll) fun _ _ => rfl
  refine ⟨fun isOpen waits => ?_, fun closed waits => ?_⟩ <;>
    simp only [System.waiters, System.pendingNotifies, System.awake, System.pendingNotifyAlls]
      at waits ⊢
  · have := owed isOpen (by omega)
    have := wakes.woken_of_waiters waits
    omega
  · have := served closed (by omega)
    omega

theorem Attended.step {a b : System ω α} (h : Attended size a)
    (fits : a.shared.pool.idle.length + a.shared.pool.lent ≤ size) (hs : Step H options size a b) :
    Attended size b := by
  obtain ⟨owed, served⟩ := h
  unfold System.waiters System.pendingNotifies System.awake at owed
  unfold System.waiters System.pendingNotifyAlls at served
  cases hs with
  | moves before after x y sh sh' hm =>
    simp only [countP_at] at owed served fits
    constructor
    · intro isOpen waits
      unfold System.waiters at waits
      unfold System.pendingNotifies System.awake
      simp only [countP_at] at isOpen waits ⊢
      have wasOpen : sh.pool.closed = false := by
        by_contra h
        simp [hm.staysShut (by simpa using h)] at isOpen
      rcases hm.announced fits isOpen with full | ⟨hw, less⟩
      · omega
      · rw [hw, Bool.toNat_false] at waits
        have := owed wasOpen (by omega)
        omega
    · intro closed waits
      unfold System.waiters at waits
      unfold System.pendingNotifyAlls
      simp only [countP_at] at waits ⊢
      obtain ⟨hw, goesOn⟩ := hm.shuts closed
      rw [hw, Bool.toNat_false] at waits
      cases wasClosed : sh.pool.closed with
      | false =>
        rw [goesOn (.inl wasClosed)]
        exact Nat.succ_pos _
      | true =>
        have := served wasClosed (by omega)
        cases hx : x.willNotifyAll with
        | true =>
          rw [goesOn (.inr hx)]
          exact Nat.succ_pos _
        | false =>
          rw [hx, Bool.toNat_false] at this
          omega
  | forfeit before after threads e sh wakes =>
    simp only [countP_at, Phase.isWaiting, Phase.willNotify, Phase.isWoken,
      Phase.willNotifyAll] at owed served
    refine attended_of_wakes wakes ?_ ?_ <;>
      simp only [countP_at, Phase.isWaiting, Phase.willNotify, Phase.isWoken, Phase.willNotifyAll]
    · intro isOpen waits
      have := owed isOpen waits
      simp only [Shared.withPool, PoolState.forfeit]
      omega
    · exact served
  | notifyOne before after threads result sh wakes =>
    simp only [countP_at, Phase.isWaiting, Phase.willNotify, Phase.isWoken,
      Phase.willNotifyAll, Bool.toNat_false, Bool.toNat_true] at owed served
    refine attended_of_wakes wakes ?_ ?_ <;>
      simp only [countP_at, Phase.isWaiting, Phase.willNotify, Phase.isWoken, Phase.willNotifyAll,
        Bool.toNat_false]
    · intro isOpen waits
      have := owed isOpen waits
      omega
    · exact served
  | notifyAll before after sh =>
    have nobody := waiters_wake (before ++ .ready none :: after)
    exact ⟨fun _ waits => absurd nobody (Nat.ne_of_gt waits),
      fun _ waits => absurd nobody (Nat.ne_of_gt waits)⟩
  | tick sh threads now later => exact ⟨owed, served⟩
  | outside sh threads process opened => exact ⟨owed, served⟩

theorem attended_initial (process : Process ω) (threads : Nat) :
    Attended size (.initial process threads : System ω α) := by
  have nobody : (System.initial process threads : System ω α).waiters = 0 := by
    simp [System.waiters, System.initial, List.countP_replicate, Phase.isWaiting]
  exact ⟨fun _ waits => absurd waits (by omega), fun _ waits => absurd waits (by omega)⟩

theorem Reachable.attended {sys : System ω α} (h : Reachable H options size sys) :
    Attended size sys :=
  h.invariant attended_initial fun _ _ reached kept => kept.step reached.slots.fits

/-! ## No early time-out -/

def Phase.Timely (now : Nat) : Phase α → Prop
  | woken true deadline _ => ∃ d, deadline = some d ∧ d ≤ now
  | _ => True

theorem Phase.timely_of_unoccupied {now : Nat} {a : Phase α} (h : a.occupied = none) :
    a.Timely now := by
  unfold occupied at h
  split at h
  all_goals trivial

theorem Phase.Timely.later {now now' : Nat} (le : now ≤ now') {a : Phase α} (h : a.Timely now) :
    a.Timely now' := by
  cases a with
  | woken timedOut deadline work =>
    cases timedOut with
    | false => trivial
    | true =>
      obtain ⟨d, hd, passed⟩ := h
      exact ⟨d, hd, Nat.le_trans passed le⟩
  | _ => trivial

theorem Moves.timely {sh sh' : Shared ω} {a b : Phase α} (h : Moves H options size sh a b sh') :
    sh'.now = sh.now ∧ b.Timely sh.now := by
  have passes (x : Acquired) (deadline : Option Nat) (work : Proc α) :
      (x.phase deadline work).Timely sh.now := by
    cases x <;> trivial
  cases h with
  | acquire deadline work => exact ⟨rfl, passes _ _ _⟩
  | resume timedOut deadline work => exact ⟨rfl, passes _ _ _⟩
  | timeOut deadline work passed => exact ⟨rfl, deadline, rfl, passed⟩
  | release lease broken result =>
    refine ⟨rfl, ?_⟩
    split <;> trivial
  | _ => exact ⟨rfl, trivial⟩

def Timely (sys : System ω α) : Prop := ∀ a ∈ sys.threads, a.Timely sys.shared.now

theorem Timely.step {a b : System ω α} (h : Timely a) (hs : Step H options size a b) : Timely b := by
  unfold Timely at h ⊢
  rcases hs.moves_or_beside with ⟨before, after, x, y, sh, sh', hm, rfl, rfl⟩ | beside
  · obtain ⟨same, hy⟩ := hm.timely
    simp only [same]
    exact forall_mem_replaced h hy
  · exact beside.forall_mem (fun _ => Phase.timely_of_unoccupied) fun x hx => (h x hx).later beside.now

theorem Reachable.timely {sys : System ω α} (h : Reachable H options size sys) : Timely sys := by
  refine h.invariant (fun process threads a ha => ?_) fun _ _ _ => Timely.step
  rw [List.eq_of_mem_replicate ha]
  trivial

/-- A borrow that is about to take the lock, by its deadline. -/
def Phase.seeks : Phase α → Option (Option Nat)
  | acquiring deadline _ | woken _ deadline _ => some deadline
  | _ => none

variable (H options size) in
/-- What waiting at a pool is like: no wake-up is lost, and a borrow gives up only past
its deadline, when nothing is idle and there is no room. -/
structure WaitsWell (sys : System ω α) : Prop where
  attended : (∃ a ∈ sys.threads, a.isWaiting = true) →
    size - sys.shared.pool.lent ≤ sys.pendingNotifies + sys.awake ∨
      sys.shared.pool.closed = true ∧ ∃ a ∈ sys.threads, a.willNotifyAll = true
  punctual : ∀ a ∈ sys.threads, ∀ deadline, a.seeks = some deadline →
    ∀ sh', Moves H options size sys.shared a (.ready (some (.error noneFree))) sh' →
      ∃ d, deadline = some d ∧ d ≤ sys.shared.now ∧ sys.shared.pool.idle = [] ∧
        size ≤ sys.shared.pool.lent

theorem PoolState.Passed.late_of_noneFree {timedOut : Bool} {deadline : Option Nat} {now : Nat}
    {s : PoolState} {x : Acquired × PoolState} (h : s.Passed size timedOut deadline now x)
    (timely : timedOut = true → ∃ d, deadline = some d ∧ d ≤ now) {work : Proc α}
    (gaveUp : x.1.phase deadline work = .ready (some (.error noneFree))) :
    ∃ d, deadline = some d ∧ d ≤ now ∧ s.idle = [] ∧ size ≤ s.lent := by
  cases h with
  | shut closed =>
    have texts : poolClosed.message = noneFree.message := by
      simp only [Acquired.phase, Phase.ready.injEq, Option.some.injEq, Except.error.injEq] at gaveUp
      rw [gaveUp]
    exact absurd texts (by decide)
  | late idle full passed =>
    rcases passed with timedOut | ⟨d, hd, late⟩
    · obtain ⟨d, hd, passed⟩ := timely timedOut
      exact ⟨d, hd, passed, idle, full⟩
    · exact ⟨d, hd, Nat.le_of_lt late, idle, full⟩
  | lent _ _ _ _ | reserved _ _ _ | waits _ _ _ => cases gaveUp

/-- A pool of one whose slot is taken, and a second borrow. -/
def contended : System (List (Except WireError Frame)) Unit :=
  ⟨⟨⟨[], 1, false⟩, playing [], 0, [], 0, [], 0, []⟩,
    [.connecting (.done (.ok ())), .waiting (some 5) (.done (.ok ()))]⟩

theorem reachable_contended : Reachable scripted Options.default 1 contended := by
  let work : Proc Unit := .done (.ok ())
  have first : Reachable scripted Options.default 1 _ := reachable_connecting work (playing []) 1
  have second := first.step
    (.moves [.connecting work] [] _ _ _ _ (.borrow none (some 5) work))
  exact second.step (.moves [.connecting work] [] _ _ _ _ (.acquire (some 5) work))

/-- In every state of every run, whoever waits is about to be woken if there is room, and
no borrow gives up early. -/
theorem reachable_waitsWell {sys : System ω α} (h : Reachable H options size sys) :
    WaitsWell H options size sys where
  attended waiting := by
    have waits : 0 < sys.waiters := List.countP_pos_iff.mpr waiting
    cases closed : sys.shared.pool.closed with
    | false => exact .inl (h.attended.isOpen closed waits)
    | true => exact .inr ⟨rfl, List.countP_pos_iff.mp (h.attended.shut closed waits)⟩
  punctual a ha deadline seeks sh' hm := by
    have timely := h.timely a ha
    generalize hb : Phase.ready (some (.error noneFree)) = b at hm
    cases hm with
    | acquire deadline' work =>
      cases seeks
      exact (PoolState.acquire_passed size false deadline _ _).late_of_noneFree (by simp) hb.symm
    | resume timedOut deadline' work =>
      cases seeks
      refine (PoolState.resume_passed size timedOut deadline _ _).late_of_noneFree ?_ hb.symm
      intro late
      subst late
      exact timely
    | _ => first | cases hb | cases seeks

theorem reachable_waitsWell_contended : WaitsWell scripted Options.default 1 contended :=
  reachable_waitsWell reachable_contended

end

end TricoreSdk
