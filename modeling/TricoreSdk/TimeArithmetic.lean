import TricoreSdk.CacheTtl
import TricoreSdk.LeaderPauses
import TricoreSdk.PoolSystem

/-! What the crate computes with durations its callers choose: the deadline of a borrow (`pool.rs`),
the pauses of a request (`client.rs`), and the milliseconds it puts on the wire. -/

namespace TricoreSdk
open Effects Units

/-! ## Instants -/

/-- What a platform's `Instant` can hold, as nanoseconds from its first one. Two instants are
never further apart than the longest `Duration`. -/
structure Platform where
  lastInstant : Nat
  spans : lastInstant ≤ maxNanos

/-- A `std::time::Instant`. -/
structure Instant (platform : Platform) where
  nanos : Nat
  bound : nanos ≤ platform.lastInstant

namespace Instant

variable {platform : Platform}

/-- `self + duration`, which panics when the platform has no such instant. -/
def add (now : Instant platform) (duration : Duration) : Option (Instant platform) :=
  if h : now.nanos + duration.nanos ≤ platform.lastInstant then some ⟨_, h⟩ else none

/-- None when the other instant is later. -/
def checkedDurationSince (later earlier : Instant platform) : Option Duration :=
  if earlier.nanos ≤ later.nanos then
    some ⟨later.nanos - earlier.nanos,
      Nat.le_trans (Nat.sub_le ..) (Nat.le_trans later.bound platform.spans)⟩
  else none

end Instant

section

variable {α : Type} {platform : Platform}

/-- Where `with_connection_timeout` starts its thread, or none: a panic. -/
def withConnectionTimeout (now : Instant platform) (timeout : Duration) (work : Proc α) :
    Option (Phase α) :=
  (now.add timeout).map fun deadline => .acquiring (some deadline.nanos) work

/-- A borrow that starts with its deadline computed, and never waits beyond it. -/
structure Waits (now : Instant platform) (timeout : Duration) : Prop where
  starts : ∀ {α : Type} (work : Proc α), withConnectionTimeout now timeout work =
    some (.acquiring (some (now.nanos + timeout.nanos)) work)
  waits : ∀ deadline, now.add timeout = some deadline → ∀ (later : Instant platform) (size : Nat)
    (timedOut : Bool) (s : PoolState),
    (s.resume size timedOut (some deadline.nanos) later.nanos).1 = .waits →
      ∃ remaining, deadline.checkedDurationSince later = some remaining ∧
        later.nanos + remaining.nanos = now.nanos + timeout.nanos

theorem add_eq (now : Instant platform) (timeout : Duration) (deadline : Instant platform)
    (h : now.add timeout = some deadline) : deadline.nanos = now.nanos + timeout.nanos := by
  unfold Instant.add at h
  split at h
  · cases h
    rfl
  · cases h

theorem resume_waits {size : Nat} {timedOut : Bool} {deadline now : Nat} {s : PoolState}
    (h : (s.resume size timedOut (some deadline) now).1 = .waits) : now ≤ deadline := by
  have acquires : (s.acquire size (some deadline) now).1 = .waits := by
    unfold PoolState.resume at h
    split at h
    · cases h
    · exact h
  by_contra late
  unfold PoolState.acquire at acquires
  split at acquires
  · cases acquires
  · split at acquires
    · cases acquires
    · split at acquires
      · cases acquires
      · dsimp only at acquires
        rw [if_pos (Nat.not_le.mp late)] at acquires
        cases acquires

theorem waits_iff (now : Instant platform) (timeout : Duration) :
    Waits now timeout ↔ now.nanos + timeout.nanos ≤ platform.lastInstant := by
  constructor
  · intro h
    by_contra late
    have starts := h.starts (Proc.done (.ok ()))
    simp [withConnectionTimeout, Instant.add, late] at starts
  · intro fits
    have computed : now.add timeout = some ⟨now.nanos + timeout.nanos, fits⟩ := dif_pos fits
    refine ⟨fun work => by rw [withConnectionTimeout, computed]; rfl, ?_⟩
    intro deadline hd later size timedOut s waits
    have sum := add_eq now timeout deadline hd
    have early := resume_waits waits
    refine ⟨_, if_pos early, ?_⟩
    dsimp only
    omega

end

/-! ## Pauses -/

/-- No request of a client with this policy panics. -/
def LeaderPolicy.NeverPanics (policy : LeaderPolicy) : Prop :=
  ∀ {ω : Type} (H : Host ω) (c : Client) (p : Process ω) (op : Value) (txn : Option String),
    c.options.leaderPolicy = policy → (sendIn H op txn (c, p)).outcome ≠ .panicked

theorem double_eq_none_iff (d : Duration) : d.double = none ↔ maxNanos < d.nanos * 2 := by
  unfold Duration.double
  split
  · simp only [reduceCtorEq, false_iff]
    omega
  · simp only [true_iff]
    omega

/-- The loop doubles its pauses without overflow exactly when it never pauses, or can double the
first one. -/
theorem neverPanics_iff (policy : LeaderPolicy) :
    policy.NeverPanics ↔ policy.followLeader = false ∨ policy.leaderRetries = 0 ∨
      policy.leaderRetryDelay.nanos * 2 ≤ maxNanos := by
  constructor
  · intro never
    by_contra pauses
    simp only [not_or, Bool.not_eq_false, Nat.not_le] at pauses
    obtain ⟨follow, retries, long⟩ := pauses
    obtain ⟨-, panics⟩ := strayRun_pauses follow retries
    exact never (leaderless none) (stray policy.options) strayProcess (.string "Ping") none rfl
      (panics ((double_eq_none_iff _).mpr long))
  · rintro safe ω H c p op txn rfl
    have stays (h : c.options.followLeader = false ∨ c.options.leaderRetries.toNat = 0) :
        (sendIn H op txn (c, p)).outcome ≠ .panicked := by
      obtain ⟨o, ends, run⟩ := sendLoop_stays (H := H) (c := c.numbered) (c.envelope op txn) 0
        c.options.leaderRetryDelay p (h.imp_right .inr)
      rw [sendIn_apply, show sendLoop H _ _ _ _ _ = _ from run]
      exact ends
    rcases safe with off | never | short
    · exact stays (.inl off)
    · exact stays (.inr (congrArg UInt32.toNat never))
    · intro panicked
      have overflows := ((send_appliesAtMostOnce H c p op).2 txn).ends panicked
      rw [double_eq_none_iff] at overflows
      exact absurd short (Nat.not_le.mpr overflows)

/-! ## Milliseconds -/

/-- A conversion to milliseconds: every duration that is not zero has a value, which fits, never
shrinks as the duration grows, and is the largest there is for all that exceed it. -/
structure Converts (ceiling : Nat) (ms : Duration → Option Int) : Prop where
  absent : ∀ d, ms d = none → d.nanos = 0
  range : ∀ d n, ms d = some n → 0 ≤ n ∧ n ≤ ceiling
  mono : ∀ d d' n n', ms d = some n → ms d' = some n' → d.nanos ≤ d'.nanos → n ≤ n'
  saturates : ∀ d, ms d = some ceiling ↔ ceiling * 1000000 ≤ d.nanos

theorem converts_of_inUnits {ceiling : Nat} {ms : Duration → Option Int} (roomy : 0 < ceiling)
    (value : ∀ d, ms d = some (inUnits 1000000 ceiling d.nanos) ∨ ms d = none ∧ d.nanos = 0) :
    Converts ceiling ms := by
  have read {d : Duration} {n : Int} (h : ms d = some n) :
      n = inUnits 1000000 ceiling d.nanos := by
    rcases value d with some | ⟨none, -⟩
    · exact Option.some.inj (h.symm.trans some)
    · cases h.symm.trans none
  constructor
  · intro d h
    exact (value d).elim (fun some => by cases h.symm.trans some) And.right
  · intro d n h
    have := inUnits_le 1000000 ceiling d.nanos
    rw [read h]
    omega
  · intro d d' n n' h h' le
    have := inUnits_mono 1000000 ceiling le
    rw [read h, read h']
    omega
  · intro d
    rw [← inUnits_eq_ceiling_iff (by decide)]
    constructor
    · intro h
      have := read h
      omega
    · intro h
      rcases value d with some | ⟨-, zero⟩
      · rw [some, h]
      · simp only [inUnits, zero] at h
        omega

theorem asI64_ofI64 (i : I64) (h : 0 ≤ i.val) : (Value.ofI64 i).asI64 = some i.val := by
  have high := i.property.2
  rw [ofI64_eq i h, Value.ofU64, Value.asI64]
  have exact : (UInt64.ofNat i.val.toNat).toNat = i.val.toNat := by
    rw [UInt64.toNat_ofNat']
    exact Nat.mod_eq_of_lt (by omega)
  rw [exact, if_pos (by omega), Int.toNat_of_nonneg h]

/-- The conversions for the wire: of a TTL, wherever an operation carries one, and of the timeout
of a request. -/
structure WireConversions : Prop where
  millis : Converts maxI64 fun d => some (Cache.millis d).val
  ttlValue : Converts maxI64 fun d => (Cache.ttlValue (some d)).asI64
  cacheExpire : ∀ {ω : Type} (H : Host ω) (space key : String),
    Converts maxI64 fun d => ((cacheExpire H space key d).ttl? "Expire").bind Value.asI64
  requestTimeout : ∀ c : Client,
    Converts maxU64 fun d => (c.withRequestTimeout (some d)).requestTimeoutMs.map fun n => n.toNat

theorem asI64_millis (d : Duration) :
    (Value.ofI64 (Cache.millis d)).asI64 = some (inUnits 1000000 maxI64 d.nanos : Int) := by
  have value := cacheMillis_eq d
  rw [asI64_ofI64 _ (by omega), value]

theorem wireConversions : WireConversions where
  millis := converts_of_inUnits (by decide) fun d => .inl (congrArg some (cacheMillis_eq d))
  ttlValue := by
    refine converts_of_inUnits (by decide) fun d => ?_
    by_cases zero : d.nanos = 0
    · exact .inr ⟨by simp [Cache.ttlValue, nonZero_some, zero, Value.asI64], zero⟩
    · exact .inl (by rw [Cache.ttlValue, nonZero_some, if_neg zero]; exact asI64_millis d)
  cacheExpire H space key := by
    refine converts_of_inUnits (by decide) fun d => .inl ?_
    rw [ttl?_of_op (nsKey space key) rfl]
    exact asI64_millis d
  requestTimeout c := by
    refine converts_of_inUnits (by decide) fun d => ?_
    by_cases zero : d.nanos = 0
    · exact .inr ⟨by simp [Client.withRequestTimeout, nonZero_some, zero], zero⟩
    · exact .inl (by simp [Client.withRequestTimeout, nonZero_some, zero, millis_toNat])

/-- The conversions never fail; the deadline of a borrow does exactly when the platform has no such
instant, and a pause exactly when the first one cannot be doubled. -/
theorem time_arithmetic {platform : Platform} (now : Instant platform) (timeout : Duration)
    (policy : LeaderPolicy) :
    WireConversions ∧
      (Waits now timeout ↔ now.nanos + timeout.nanos ≤ platform.lastInstant) ∧
      (policy.NeverPanics ↔ policy.followLeader = false ∨ policy.leaderRetries = 0 ∨
        policy.leaderRetryDelay.nanos * 2 ≤ maxNanos) :=
  ⟨wireConversions, waits_iff now timeout, neverPanics_iff policy⟩

/-- `Duration::MAX`, and a platform whose instants count their seconds in an `i64`. -/
def Duration.max : Duration := ⟨maxNanos, Nat.le_refl _⟩

def Platform.unix : Platform := ⟨2 ^ 63 * 1000000000 - 1, by decide⟩

theorem not_waits_max :
    (∀ now : Instant .unix, ¬Waits now .max) ∧
      ¬LeaderPolicy.NeverPanics ⟨true, 5, .max, none⟩ := by
  constructor
  · intro now waits
    have fits := (waits_iff now .max).mp waits
    have : Platform.unix.lastInstant < Duration.max.nanos := by decide
    omega
  · intro never
    rcases (neverPanics_iff _).mp never with off | none | short
    · cases off
    · exact absurd none (by decide)
    · exact absurd short (by decide)

end TricoreSdk
