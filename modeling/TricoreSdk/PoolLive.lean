import TricoreSdk.PoolInvariant
import TricoreSdk.RequestCalls

/-! The connections of a pool that are open at one time. A slot is given back before
its connection is closed, so the size of the pool bounds them only while no other
connection is opened in between. -/

namespace TricoreSdk
open Effects Path

section

variable {ω α : Type} {H : Host ω} {options : Options} {size : Nat}

def Lease.isOpen (lease : Lease) : Bool := !lease.client.isPoisoned

/-- The connections whose slot a thread holds. -/
def Phase.borrowed : Phase α → List Lease
  | working lease _ | releasing lease _ _ => [lease]
  | _ => []

/-- The connections a thread has yet to close, their slots given back. -/
def Phase.retired : Phase α → List Lease
  | retiring lease _ => [lease]
  | closingIdle leases => leases
  | _ => []

namespace System

def live (sys : System ω α) : Nat :=
  (sys.shared.pool.idle ++ sys.threads.flatMap Phase.leases).countP Lease.isOpen

/-- The open connections that have a slot. -/
def occupied (sys : System ω α) : Nat :=
  (sys.shared.pool.idle ++ sys.threads.flatMap Phase.borrowed).countP Lease.isOpen

/-- The open connections that have none any more. -/
def retired (sys : System ω α) : Nat := (sys.threads.flatMap Phase.retired).countP Lease.isOpen

theorem live_eq (sys : System ω α) : sys.live = sys.occupied + sys.retired := by
  have split (threads : List (Phase α)) : (threads.flatMap Phase.leases).countP Lease.isOpen =
      (threads.flatMap Phase.borrowed).countP Lease.isOpen +
        (threads.flatMap Phase.retired).countP Lease.isOpen := by
    induction threads with
    | nil => rfl
    | cons a threads ih =>
      have here : a.leases = a.borrowed ++ a.retired := by cases a <;> rfl
      simp only [List.flatMap_cons, List.countP_append, here, ih]
      omega
  simp only [live, occupied, retired, List.countP_append, split]
  omega

end System

/-- A step that opens a connection finds fewer retired ones than slots without an open
connection. -/
def OpensWithRoom (size : Nat) (a b : System ω α) : Prop :=
  a.shared.born < b.shared.born → a.retired < size - a.occupied

theorem isOpen_of_path {lease : Lease} {p : Process ω} {s : Client × Process ω} {es : List Event}
    (h : faulting.rel (lease.client, p) es s) :
    [(⟨lease.id, s.1⟩ : Lease)].countP Lease.isOpen ≤ [lease].countP Lease.isOpen := by
  have stays : Lease.isOpen ⟨lease.id, s.1⟩ = true → lease.isOpen = true := by
    unfold Lease.isOpen Client.isPoisoned
    intro live
    have := h (by simpa using live)
    simp only at this
    simp [this]
  cases hs : Lease.isOpen ⟨lease.id, s.1⟩ with
  | false => simp [hs]
  | true => simp [hs, stays hs]

theorem Moves.live {sh sh' : Shared ω} {a b : Phase α} (h : Moves H options size sh a b sh') :
    sh'.born = sh.born ∧
        sh'.pool.idle.countP Lease.isOpen + b.leases.countP Lease.isOpen ≤
          sh.pool.idle.countP Lease.isOpen + a.leases.countP Lease.isOpen ∨
      sh'.born = sh.born + 1 ∧
        sh'.pool.idle.countP Lease.isOpen + b.leases.countP Lease.isOpen =
          sh.pool.idle.countP Lease.isOpen + a.leases.countP Lease.isOpen + 1 := by
  have passes {timedOut : Bool} {deadline : Option Nat} {x : Acquired × PoolState} (work : Proc α)
      (h : PoolState.Passed size timedOut deadline sh.now sh.pool x) :
      x.2.idle.countP Lease.isOpen + (x.1.phase deadline work).leases.countP Lease.isOpen =
        sh.pool.idle.countP Lease.isOpen := by
    cases h with
    | lent _ lease rest hi => simp [Acquired.phase, Phase.leases, hi, List.countP_cons]
    | _ => simp_all [Acquired.phase, Phase.leases]
  cases h with
  | acquire deadline work =>
    exact .inl ⟨rfl, Nat.le_of_eq (passes work (PoolState.acquire_passed size false deadline _ _))⟩
  | resume timedOut deadline work =>
    exact .inl ⟨rfl, Nat.le_of_eq (passes work (PoolState.resume_passed size timedOut deadline _ _))⟩
  | connected work c run =>
    have returns : connect H options sh.process =
        ⟨.returned c, (connect H options sh.process).state, (connect H options sh.process).events⟩ := by
      rw [← run]
    have fault := (connect_live returns).fault
    exact .inr ⟨rfl, by simp [Shared.ran, Phase.leases, Lease.isOpen, Client.isPoisoned, fault]⟩
  | call lease c next =>
    exact .inl ⟨rfl, Nat.add_le_add_left (isOpen_of_path (callPath_faulting.run c _)) _⟩
  | finish lease outcome broken leftOpen run =>
    have path := respects_settle (respects_rollback callPath_faulting) (H := H) outcome
      (lease.client, sh.process)
    exact .inl ⟨rfl, Nat.add_le_add_left (isOpen_of_path path) _⟩
  | release lease broken result =>
    refine .inl ⟨rfl, ?_⟩
    unfold PoolState.release
    split <;> simp [Shared.withPool, Phase.leases, List.countP_cons]
  | retire lease result =>
    exact .inl ⟨rfl, by simp [Shared.closed, Shared.ran, Phase.leases]⟩
  | unwind lease =>
    exact .inl ⟨rfl, by simp [Shared.closed, Shared.ran, Phase.leases]⟩
  | close =>
    refine .inl ⟨rfl, ?_⟩
    simp [Shared.withPool, PoolState.close, Phase.leases, List.countP_reverse]
  | closeIdle lease rest =>
    refine .inl ⟨rfl, ?_⟩
    simp only [Shared.closed, Shared.ran, Phase.leases, List.countP_cons]
    omega
  | _ => exact .inl ⟨rfl, Nat.le_refl _⟩

theorem Step.live {a b : System ω α} (h : Step H options size a b) :
    b.shared.born = a.shared.born ∧ b.live ≤ a.live ∨
      b.shared.born = a.shared.born + 1 ∧ b.live = a.live + 1 := by
  unfold System.live
  rcases h.moves_or_beside with ⟨before, after, x, y, sh, sh', hm, rfl, rfl⟩ | beside
  · simp only [List.flatMap_append, List.flatMap_cons, List.countP_append]
    rcases hm.live with ⟨same, le⟩ | ⟨opened, one⟩
    · exact .inl ⟨same, by omega⟩
    · exact .inr ⟨opened, by omega⟩
  · rw [beside.flatMap _ fun _ => Phase.leases_of_unoccupied, beside.idle]
    exact .inl ⟨beside.born, Nat.le_refl _⟩

theorem Step.live_le_iff {a b : System ω α} (h : Step H options size a b) (bounded : a.live ≤ size) :
    b.live ≤ size ↔ OpensWithRoom size a b := by
  have parts := a.live_eq
  unfold OpensWithRoom
  rcases h.live with ⟨same, le⟩ | ⟨opened, one⟩
  · exact iff_of_true (by omega) fun more => by omega
  · constructor
    · intro fits _
      omega
    · intro room
      have := room (by omega)
      omega

theorem ReachableIf.live_le {sys : System ω α}
    (h : ReachableIf H options size (OpensWithRoom size) sys) : sys.live ≤ size := by
  refine h.invariant (fun process threads => ?_) fun a b _ bounded hs room =>
    (hs.live_le_iff bounded).mpr room
  rw [System.live, initial_flatMap process threads Phase.leases rfl]
  simp [System.initial, PoolState.new]

/-! ## Room without retired connections -/

theorem borrowed_le (threads : List (Phase α)) :
    (threads.flatMap Phase.borrowed).countP Lease.isOpen ≤ threads.countP Phase.holdsSlot := by
  induction threads with
  | nil => exact Nat.le_refl _
  | cons a threads ih =>
    have here : a.borrowed.countP Lease.isOpen ≤ a.holdsSlot.toNat := by
      cases a with
      | working lease work | releasing lease broken result => exact List.countP_le_length
      | _ => exact Nat.zero_le _
    have holds := countP_at Phase.holdsSlot [] threads a
    rw [List.nil_append, List.countP_nil] at holds
    rw [List.flatMap_cons, List.countP_append]
    omega

theorem opensWithRoom_of_none {a b : System ω α} (reached : Reachable H options size a)
    (none : a.retired = 0) (h : Step H options size a b) : OpensWithRoom size a b := by
  obtain ⟨fits, lent⟩ := reached.slots
  intro opens
  cases h with
  | moves before after x y sh sh' hm =>
    cases hm with
    | connected work c run =>
      unfold System.borrows at lent
      unfold System.occupied
      rw [none]
      rw [countP_at] at lent
      have left := borrowed_le before
      have right := borrowed_le after
      have idle : sh.pool.idle.countP Lease.isOpen ≤ sh.pool.idle.length := List.countP_le_length
      simp only [List.flatMap_append, List.flatMap_cons, List.countP_append, Phase.borrowed,
        List.countP_nil, Phase.holdsSlot, Bool.toNat_true] at *
      omega
    | _ => exact absurd opens (Nat.lt_irrefl _)
  | _ => exact absurd opens (Nat.lt_irrefl _)

/-- In a run whose connections are all opened with room the size of the pool bounds the
open ones, and goes on to bound them exactly as long as that is so; without room a
connection is opened only beside a retired one. -/
theorem reachableIf_bounded {sys : System ω α}
    (h : ReachableIf H options size (OpensWithRoom size) sys) :
    sys.live ≤ size ∧ ∀ next, Step H options size sys next →
      (next.live ≤ size ↔ OpensWithRoom size sys next) ∧
        (sys.retired = 0 → OpensWithRoom size sys next) :=
  ⟨h.live_le, fun _ hs => ⟨hs.live_le_iff h.live_le,
    fun none => opensWithRoom_of_none h.reachable none hs⟩⟩

def lentOnce : System (List (Except WireError Frame)) Unit :=
  ⟨⟨⟨[], 1, false⟩, ⟨1, 1, []⟩, 0, sessionLog, 1, [], 0, []⟩, [.working ⟨0, session⟩ (.done (.ok ()))]⟩

theorem reachableIf_lentOnce :
    ReachableIf scripted Options.default 1 (OpensWithRoom 1) lentOnce := by
  let work : Proc Unit := .done (.ok ())
  let sh : Shared (List (Except WireError Frame)) :=
    ⟨⟨[], 1, false⟩, playing [replies .helloOk helloAll], 0, [], 0, [], 0, []⟩
  have run : connect scripted Options.default sh.process =
      ⟨.returned session, ⟨1, 1, []⟩, sessionLog⟩ := connect_session []
  have moves : Moves scripted Options.default 1 sh (.connecting work) (.working ⟨0, session⟩ work) _ :=
    .connected work session (by rw [run])
  rw [run] at moves
  have quiet : ¬ 0 < 0 := Nat.lt_irrefl 0
  refine ⟨sh.process, 1, .tail (.tail (.tail .refl
    ⟨.moves [] [] _ _ _ _ (.borrow none none work), fun opens => absurd opens quiet⟩)
    ⟨.moves [] [] _ _ _ _ (.acquire none work), fun opens => absurd opens quiet⟩)
    ⟨.moves [] [] _ _ _ _ moves, fun _ => ?_⟩⟩
  exact show 0 < 1 - 0 by decide

theorem reachableIf_bounded_lentOnce :
    lentOnce.live ≤ 1 ∧ ∀ next, Step scripted Options.default 1 lentOnce next →
      (next.live ≤ 1 ↔ OpensWithRoom 1 lentOnce next) ∧
        (lentOnce.retired = 0 → OpensWithRoom 1 lentOnce next) :=
  reachableIf_bounded reachableIf_lentOnce

end

/-! ## A connection opened beside a retired one -/

def nextSession : Client := Client.granting 7 (newClient (.tcp 1) "101" Options.default)

theorem connect_nextSession :
    (connect scripted Options.default ⟨1, 1, [replies .helloOk helloAll]⟩).outcome =
      .returned nextSession := by
  with_unfolding_all rfl

/-- A closure that gives its connection up while the socket is open. -/
def givesUp : Proc Unit := .done (.error (Error.new .timeout "elsewhere"))

/-- The broken connection's slot is taken again before the connection is closed. -/
theorem not_bounded :
    ¬ ∀ sys : System (List (Except WireError Frame)) Unit,
      Reachable scripted Options.default 1 sys → sys.live ≤ 1 := by
  intro bounded
  let work : Proc Unit := .done (.ok ())
  let p : Process (List (Except WireError Frame)) := ⟨1, 1, [replies .helloOk helloAll]⟩
  let sh : Shared (List (Except WireError Frame)) := ⟨⟨[], 1, false⟩, p, 0, sessionLog, 1, [], 0, []⟩
  let result : Except Error Unit := .error (Error.new .timeout "elsewhere")
  have finish : Moves scripted Options.default 1 sh (.working ⟨0, session⟩ givesUp)
      (.releasing ⟨0, session⟩ true result) sh :=
    .finish ⟨0, session⟩ result true false rfl
  have finished := (reachable_working givesUp p.world 1).step (.moves [] _ _ _ _ _ finish)
  have retired := finished.step (.moves [] _ _ _ _ _ (.release ⟨0, session⟩ true result))
  have borrowed := retired.step
    (.moves [.retiring ⟨0, session⟩ result] [] _ _ _ _ (.borrow none none work))
  have reserved := borrowed.step
    (.moves [.retiring ⟨0, session⟩ result] [] _ _ _ _ (.acquire none work))
  have opened := reserved.step
    (.moves [.retiring ⟨0, session⟩ result] [] _ _ _ _ (.connected work nextSession connect_nextSession))
  exact absurd (show (2 : Nat) ≤ 1 from bounded _ opened) (by decide)

end TricoreSdk
