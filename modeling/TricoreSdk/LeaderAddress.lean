import TricoreSdk.Addresses
import TricoreSdk.Footprint
import TricoreSdk.LeaderPauses
import TricoreSdk.RequestIds

/-! The comparison of a leader hint with the address of a connection (`send_in`), and what the
address of a connection is over any number of moves (`move_to`). -/

namespace TricoreSdk
open Effects Path

/-! ## Where a connection was opened to -/

/-- The host and port that were resolved last, and for each connection those it was opened to. -/
structure Targets where
  sought : String × UInt16
  reached : Socket → String × UInt16

section

variable {ω α : Type}

/-- The host with a record of where its connections are opened to. -/
def Host.traced (H : Host ω) : Host (ω × Targets) where
  serde := H.serde
  processId := H.processId
  clock w := ((H.clock w.1).1, (H.clock w.1).2, w.2)
  resolve host port w :=
    ((H.resolve host port w.1).1, (H.resolve host port w.1).2, { w.2 with sought := (host, port) })
  connect socket address bound w :=
    ((H.connect socket address bound w.1).1, (H.connect socket address bound w.1).2,
      { w.2 with reached := fun s => if s = socket then w.2.sought else w.2.reached s })
  setReadTimeout socket bound w :=
    ((H.setReadTimeout socket bound w.1).1, (H.setReadTimeout socket bound w.1).2, w.2)
  setWriteTimeout socket bound w :=
    ((H.setWriteTimeout socket bound w.1).1, (H.setWriteTimeout socket bound w.1).2, w.2)
  loadRoots path w := ((H.loadRoots path w.1).1, (H.loadRoots path w.1).2, w.2)
  loadIdentity cert key w := ((H.loadIdentity cert key w.1).1, (H.loadIdentity cert key w.1).2, w.2)
  tlsHandshake socket opts name w :=
    ((H.tlsHandshake socket opts name w.1).1, (H.tlsHandshake socket opts name w.1).2, w.2)
  send transport tag payload w :=
    ((H.send transport tag payload w.1).1, (H.send transport tag payload w.1).2, w.2)
  recv transport w := ((H.recv transport w.1).1, (H.recv transport w.1).2, w.2)
  shutdown socket w := (H.shutdown socket w.1, w.2)

def target (s : Client × Process (ω × Targets)) : String × UInt16 :=
  s.2.world.2.reached s.1.transport.socket

/-- What a client's connection and its address are. -/
def Client.place (c : Client) : Transport × String := (c.transport, c.address)

def Process.placing (p : Process (ω × Targets)) : Nat × Targets := (p.opened, p.world.2)

theorem placing_targets {p p' : Process (ω × Targets)} (h : p'.placing = p.placing) :
    p'.world.2 = p.world.2 := (Prod.mk.inj h).2

variable {H : Host ω}

theorem unseen_placing : Unseen H.traced (Process.placing (ω := ω)) := by
  constructor <;> intros <;> rfl

theorem forgetTxn_place (txn : String) (c : Client) : (c.forgetTxn txn).place = c.place := by
  unfold Client.forgetTxn
  split <;> rfl

theorem fixed_place : Fixed Client.place := by
  constructor
  case forgetTxn => exact forgetTxn_place
  all_goals intros; rfl

/-- How a dial goes: no connection that was open changes its target, and one it returns has the
host and port that were resolved. -/
structure Reaches (sought : String × UInt16) (p : Process (ω × Targets))
    (r : Execution (Process (ω × Targets)) Error Event Socket) : Prop where
  others : ∀ s < p.opened, r.state.world.2.reached s = p.world.2.reached s
  reached : ∀ socket, r.outcome = .returned socket → r.state.world.2.reached socket = sought

theorem dialEach_reaches (host : String) (port : UInt16) (bound : Option Duration)
    (addresses : List String) (last : String) (p : Process (ω × Targets)) :
    Reaches p.world.2.sought p (H.traced.dialEach host port bound addresses last p) := by
  induction addresses generalizing last p with
  | nil => exact ⟨fun _ _ => rfl, fun socket h => by cases h⟩
  | cons address rest ih =>
    let tried : Process (ω × Targets) :=
      { p with world := (H.traced.connect p.opened address (Duration.nonZero bound) p.world).2 }
    have elsewhere : ∀ s < p.opened, tried.world.2.reached s = p.world.2.reached s :=
      fun s low => if_neg (Nat.ne_of_lt low)
    have here : tried.world.2.reached p.opened = p.world.2.sought := if_pos rfl
    rw [Host.dialEach, Action.bind_apply]
    rcases hc : (H.traced.connect p.opened address (Duration.nonZero bound) p.world).1 with text | _
    · have run : H.traced.dialOnce address (Duration.nonZero bound) p =
          ⟨.returned (.error text), tried, [.dialing address (Duration.nonZero bound)]⟩ := by
        simp [Host.dialOnce, hc, Execution.after, tried]
      obtain ⟨others, reached⟩ := ih text tried
      rw [run]
      exact ⟨fun s low => (others s low).trans (elsewhere s low), reached⟩
    · have run : H.traced.dialOnce address (Duration.nonZero bound) p =
          ⟨.returned (.ok p.opened), { tried with opened := p.opened + 1 },
            [.dialing address (Duration.nonZero bound)]⟩ := by
        simp [Host.dialOnce, hc, Execution.after, tried]
      rw [run]
      refine ⟨elsewhere, fun socket h => ?_⟩
      cases h
      exact here

theorem dial_reaches (host : String) (port : UInt16) (bound : Option Duration)
    (p : Process (ω × Targets)) :
    Reaches (host, port) p (H.traced.dial host port bound p) := by
  rcases h : H.resolve host port p.world.1 with ⟨r, w⟩
  let resolved : Process (ω × Targets) :=
    { p with world := (w, { p.world.2 with sought := (host, port) }) }
  have resolve : H.traced.resolve host port p.world = (r, resolved.world) := by
    simp [Host.traced, h, resolved]
  have unreached (e : Error) : Reaches (host, port) p ⟨.failed e, resolved, []⟩ :=
    ⟨fun _ _ => rfl, fun socket h => by cases h⟩
  match r with
  | .error e => simpa [Host.dial, resolve] using unreached _
  | .ok [] => simpa [Host.dial, resolve] using unreached _
  | .ok (address :: rest) =>
    have run : H.traced.dial host port bound p =
        H.traced.dialEach host port bound (address :: rest) "" resolved := by
      simp [Host.dial, resolve, resolved]
    obtain ⟨others, reached⟩ :=
      dialEach_reaches (H := H) host port bound (address :: rest) "" resolved
    rw [run]
    exact ⟨others, reached⟩

/-- How opening a connection goes: those that were open keep their targets, and the one that is
returned was opened to the host and port of its options. -/
structure OpensTo (options : Options) (p : Process (ω × Targets))
    (r : Execution (Process (ω × Targets)) Error Event Client) : Prop where
  others : ∀ s < p.opened, r.state.world.2.reached s = p.world.2.reached s
  reached : ∀ c, r.outcome = .returned c →
    target (c, r.state) = (options.host, options.port) ∧
      c.address = joinAddress options.host options.port

theorem connect_opensTo (options : Options) (p : Process (ω × Targets)) :
    OpensTo options p (connect H.traced options p) := by
  obtain ⟨others, reached⟩ :=
    dial_reaches (H := H) options.host options.port options.connectTimeout p
  have steps := connectSteps (H := H.traced) options p
  generalize connect H.traced options p = r at steps ⊢
  cases steps with
  | undialled e p₁ es₁ dial =>
    rw [dial] at others
    exact ⟨others, fun c h => by cases h⟩
  | unsecured tcp p₁ es₁ dial e p₂ es₂ secured =>
    have secure := (unseen_placing (H := H)).secure options tcp p₁
    rw [dial] at others
    rw [secured] at secure
    refine ⟨fun s low => ?_, fun c h => by cases h⟩
    rw [placing_targets secure]
    exact others s low
  | handedOver transport p₁ es₁ dial p₂ es₂ secured =>
    have secure := (unseen_placing (H := H)).secure options transport.socket p₁
    rw [dial] at others reached
    rw [secured] at secure
    have path := (unseen_placing (H := H)).setUpPath fixed_place
    obtain ⟨c, rel, made⟩ := path.owning (newClient transport (nextPrefix H.traced p₂) options)
      (handshake H.traced options) (path.handshake options) (stamped H.traced p₂)
    generalize owning H.traced (newClient transport (nextPrefix H.traced p₂) options)
      (handshake H.traced options) (stamped H.traced p₂) = r at rel made ⊢
    rcases r with ⟨o, p₄, es₄⟩
    have kept : p₄.world.2 = p₁.world.2 := (placing_targets rel.2).trans (placing_targets secure)
    refine ⟨fun s low => ?_, fun f hf => ?_⟩
    · change p₄.world.2.reached s = p.world.2.reached s
      rw [kept]
      exact others s low
    · obtain rfl := made f hf
      have transported : f.transport = transport := congrArg Prod.fst rel.1
      refine ⟨?_, congrArg Prod.snd rel.1⟩
      change p₄.world.2.reached f.transport.socket = _
      rw [kept, transported]
      exact reached _ rfl

/-! ## The state of a connection -/

/-- A connection that is open, and whose address is the one spelling of where it was opened to. -/
structure Addressed (s : Client × Process (ω × Targets)) : Prop where
  opened : s.1.transport.socket < s.2.opened
  named : splitAddress s.1.address = some (target s)
  spelled : joinAddress (target s).1 (target s).2 = s.1.address

theorem target_of_eq {s s' : Client × Process (ω × Targets)} (place : s'.1.place = s.1.place)
    (placing : s'.2.placing = s.2.placing) : target s' = target s := by
  unfold target
  rw [(Prod.mk.inj place).1, placing_targets placing]

theorem Addressed.of_eq {s s' : Client × Process (ω × Targets)} (h : Addressed s)
    (place : s'.1.place = s.1.place) (placing : s'.2.placing = s.2.placing) : Addressed s' := by
  obtain ⟨transport, address⟩ := Prod.mk.inj place
  have opened : s'.2.opened = s.2.opened := (Prod.mk.inj placing).1
  have same := target_of_eq place placing
  refine ⟨?_, ?_, ?_⟩
  · rw [transport, opened]
    exact h.opened
  · rw [address, same]
    exact h.named
  · rw [address, same]
    exact h.spelled

theorem connect_addressed {options : Options} (plain : PlainHost options.host) (port_ne : options.port ≠ 0)
    {p p' : Process (ω × Targets)} {c : Client} {es : List Event}
    (run : connect H.traced options p = ⟨.returned c, p', es⟩) : Addressed (c, p') := by
  have opens := connect_opensTo (H := H) options p
  rw [run] at opens
  obtain ⟨reached, address⟩ := opens.reached c rfl
  refine ⟨(connect_socket run).2, ?_, ?_⟩
  · rw [reached]
    exact address ▸ splitAddress_joinAddress plain port_ne
  · rw [reached]
    exact address.symm

/-- A hint that is spelled as an address of its host and port is. -/
def PlainHint (hint : String) : Prop := (splitAddress hint).isSome → PlainAddress hint.toList

theorem PlainHint.spelled {hint host : String} {port : UInt16} (h : PlainHint hint)
    (names : splitAddress hint = some (host, port)) : joinAddress host port = hint :=
  (joinAddress_eq_iff names).mpr (h (by rw [names]; rfl))

theorem Addressed.moveTo {address : String} {c : Client} {p : Process (ω × Targets)}
    (h : Addressed (c, p)) (plain : PlainHint address) :
    Addressed (TricoreSdk.moveTo H.traced address (c, p)).state := by
  have hm := moving (H := H.traced) address c p
  generalize TricoreSdk.moveTo H.traced address (c, p) = r at hm
  cases hm with
  | unreadable _ => exact h
  | stayed host port names e p' es run =>
    have opens := connect_opensTo (H := H) (followOptions c.options host port) p
    have more := (connect_sparing perSocket_unit c.transport.socket _ p run).1
    rw [run] at opens
    have same : target (c, p') = target (c, p) := opens.others c.transport.socket h.opened
    exact ⟨Nat.lt_of_lt_of_le h.opened more, h.named.trans (congrArg some same.symm),
      by rw [same]; exact h.spelled⟩
  | moved host port names fresh p' es run =>
    have opens := connect_opensTo (H := H) (followOptions c.options host port) p
    rw [run] at opens
    obtain ⟨reached, -⟩ := opens.reached fresh rfl
    let s : Client × Process (ω × Targets) :=
      (Client.adopting fresh address c, H.traced.dropped c p' p'.world)
    have there : target s = (host, port) := reached
    refine ⟨(connect_socket run).2, ?_, ?_⟩
    · change splitAddress address = some (target s)
      rw [there]
      exact names
    · change joinAddress (target s).1 (target s).2 = address
      rw [there]
      exact plain.spelled names

/-! ## Comparisons -/

/-- A comparison that tells whether the hint names another node, and keeps the client from
connecting again when it does not. -/
structure Compares (H : Host ω) (hint : String) (s : Client × Process (ω × Targets)) : Prop where
  elsewhere : hint ≠ s.1.address ↔ splitAddress hint ≠ some (target s)
  stays : splitAddress hint = some (target s) →
    followHint H.traced (some hint) s = ⟨.returned false, s, []⟩

theorem Addressed.compares {hint : String} {s : Client × Process (ω × Targets)} (h : Addressed s)
    (plain : PlainHint hint) : Compares H hint s := by
  have here (names : splitAddress hint = some (target s)) : hint = s.1.address :=
    (plain.spelled names).symm.trans h.spelled
  refine ⟨not_congr ⟨fun same => same ▸ h.named, here⟩, fun names => ?_⟩
  rw [here names]
  exact followHint_here s

theorem Addressed.followHint {hint : Option String} {s : Client × Process (ω × Targets)}
    (h : Addressed s) (plain : ∀ a, hint = some a → PlainHint a) :
    Addressed (TricoreSdk.followHint H.traced hint s).state := by
  have hinted := hinting (H := H.traced) hint s
  generalize TricoreSdk.followHint H.traced hint s = r at hinted ⊢
  cases hinted with
  | stays => exact h
  | moves address => exact h.moveTo (plain address rfl)

theorem Addressed.sendOnce (envelope : Value) {s : Client × Process (ω × Targets)}
    (h : Addressed s) : Addressed (TricoreSdk.sendOnce H.traced envelope s).state := by
  have path : (unmoved Client.place Process.placing).Respects
      (TricoreSdk.sendOnce H.traced envelope) :=
    respects_sendOnce (unseen_placing.exchange fixed_place _ _) (unseen_placing.poison fixed_place)
  exact h.of_eq (path s).1 (path s).2

/-- The hints that a loop compares with the address of its connection, each with the state it
is compared in. -/
def comparisons (H : Host ω) (envelope : Value) :
    Nat → Duration → Client × Process ω → List (String × (Client × Process ω))
  | 0, _, _ => []
  | left + 1, pause, s =>
    match sendOnce H envelope s with
    | ⟨.failed error, s', _⟩ =>
      if !error.isRedirect || !s'.1.options.followLeader || s'.1.txnOpen then []
      else
        error.leaderHint.toList.map (·, s') ++
          match TricoreSdk.followHint H error.leaderHint s' with
          | ⟨.returned true, s'', _⟩ => comparisons H envelope left pause s''
          | ⟨.returned false, s'', _⟩ =>
            match nextPause pause with
            | some pause => comparisons H envelope left pause s''
            | none => []
          | _ => []
    | _ => []

/-- The comparisons that come after a hint that was followed, or not. -/
def comparedAgain (H : Host ω) (envelope : Value) (left : Nat) (pause : Duration) (moved : Bool)
    (s : Client × Process ω) : List (String × (Client × Process ω)) :=
  if moved then comparisons H envelope left pause s
  else
    match nextPause pause with
    | some pause => comparisons H envelope left pause s
    | none => []

/-- What a loop compares and the state it leaves: those of its one attempt, or of the attempts
after the hint it was given. -/
inductive Comparing (H : Host ω) (envelope : Value) (left retried : Nat) (pause : Duration)
    (s : Client × Process ω) : List (String × (Client × Process ω)) → Client × Process ω → Prop
  | once : Comparing H envelope left retried pause s [] (sendOnce H envelope s).state
  | again (left' : Nat) (hl : left = left' + 1) (e : Error) (s' : Client × Process ω)
    (es : List Event) (run : sendOnce H envelope s = ⟨.failed e, s', es⟩) (moved : Bool)
    (s'' : Client × Process ω) (fs : List Event)
    (followed : followHint H e.leaderHint s' = ⟨.returned moved, s'', fs⟩) :
    Comparing H envelope left retried pause s
      (e.leaderHint.toList.map (·, s') ++ comparedAgain H envelope left' pause moved s'')
      (sendAgain H envelope left' retried pause moved s'').state

theorem comparing (H : Host ω) (envelope : Value) (left retried : Nat) (pause : Duration)
    (s : Client × Process ω) :
    Comparing H envelope left retried pause s (comparisons H envelope left pause s)
      (TricoreSdk.sendLoop H envelope left retried pause s).state := by
  have once (none : comparisons H envelope left pause s = [])
      (same : (sendLoop H envelope left retried pause s).state = (sendOnce H envelope s).state) :
      Comparing H envelope left retried pause s (comparisons H envelope left pause s)
        (sendLoop H envelope left retried pause s).state := by
    rw [none, same]
    exact .once
  cases left with
  | zero =>
    obtain ⟨o, -, run⟩ := sendLoop_stays (H := H) envelope retried pause s.2 (c := s.1)
      (.inr (.inr rfl))
    exact once (by rw [comparisons]) (by rw [run])
  | succ left =>
    have returns := (sendOnce_yields H envelope).ne_panicked s
    rcases run : sendOnce H envelope s with ⟨o, s', es⟩
    rw [run] at returns once
    cases o with
    | returned r => exact once (by simp [comparisons, run]) (by rw [sendLoop_returned run])
    | panicked => exact absurd rfl returns
    | failed e =>
      cases redirect : e.isRedirect with
      | false =>
        exact once (by simp [comparisons, run, redirect]) (by rw [sendLoop_failed redirect run])
      | true =>
        by_cases stays : s'.1.options.followLeader = false ∨ s'.1.txnOpen = true
        · refine once ?_ (by rw [sendLoop_kept redirect run (or_assoc.mp (.inl stays))])
          rcases stays with off | inside
          · simp [comparisons, run, off]
          · simp [comparisons, run, inside]
        · simp only [not_or, Bool.not_eq_false, Bool.not_eq_true] at stays
          obtain ⟨follow, txn⟩ := stays
          obtain ⟨moved, s'', fs, followed⟩ := followHint_returns (H := H) e.leaderHint s'.1 s'.2
          have again : Comparing H envelope (left + 1) retried pause s _ _ :=
            .again left rfl e s' es run moved s'' fs followed
          have compared : comparisons H envelope (left + 1) pause s =
              e.leaderHint.toList.map (·, s') ++ comparedAgain H envelope left pause moved s'' := by
            rw [comparisons]
            cases moved <;> simp [run, redirect, follow, txn, followed, comparedAgain]
          rw [compared, sendLoop_again redirect run follow txn followed]
          cases moved with
          | true => exact again
          | false =>
            cases hn : nextPause pause with
            | none => simpa [sendAgain, hn] using again
            | some next => simpa [sendAgain, hn] using again

theorem Addressed.sendLoop (envelope : Value) (left retried : Nat) (pause : Duration)
    {s : Client × Process (ω × Targets)} (h : Addressed s)
    (plain : ∀ x ∈ comparisons H.traced envelope left pause s, PlainHint x.1) :
    (∀ x ∈ comparisons H.traced envelope left pause s, Compares H x.1 x.2) ∧
      Addressed (TricoreSdk.sendLoop H.traced envelope left retried pause s).state := by
  induction left using Nat.strong_induction_on generalizing retried pause s with
  | _ left ih =>
    have hc := comparing H.traced envelope left retried pause s
    generalize comparisons H.traced envelope left pause s = compared at hc plain ⊢
    generalize (TricoreSdk.sendLoop H.traced envelope left retried pause s).state = final at hc ⊢
    cases hc with
    | once => exact ⟨fun _ hx => absurd hx List.not_mem_nil, h.sendOnce envelope⟩
    | again left' hl e s' es run moved s'' fs followed =>
      subst hl
      obtain ⟨first, rest⟩ := List.forall_mem_append.mp plain
      have sent := h.sendOnce (H := H) envelope
      rw [run] at sent
      have named (a : String) (ha : e.leaderHint = some a) : PlainHint a :=
        first (a, s') (by simp [ha])
      have later := sent.followHint (H := H) named
      rw [followed] at later
      have now : ∀ x ∈ e.leaderHint.toList.map (·, s'), Compares H x.1 x.2 := by
        intro x hx
        obtain ⟨a, ha, rfl⟩ := List.mem_map.mp hx
        exact sent.compares (named a (Option.mem_toList.mp ha))
      have goesOn (next : Duration)
          (plain : ∀ x ∈ comparisons H.traced envelope left' next s'', PlainHint x.1) :=
        ih left' (Nat.lt_succ_self _) (retried + 1) next later plain
      rw [List.forall_mem_append, and_assoc]
      refine ⟨now, ?_⟩
      cases moved with
      | true => exact goesOn pause rest
      | false =>
        cases hn : nextPause pause with
        | none => exact ⟨by simp [comparedAgain, hn], by simpa [sendAgain, hn] using later⟩
        | some next =>
          simp only [comparedAgain, hn, Bool.false_eq_true, if_false] at rest
          simpa [comparedAgain, sendAgain, hn] using goesOn next rest

/-! ## Calls -/

/-- The hints that a call compares with the address of its connection. -/
def Call.comparisons (H : Host ω) (call : Call) (s : Client × Process ω) :
    List (String × (Client × Process ω)) :=
  match call.request? s.1 with
  | some (op, txn) =>
    TricoreSdk.comparisons H (s.1.envelope op txn) s.1.options.leaderRetries.toNat
      s.1.options.leaderRetryDelay (s.1.numbered, s.2)
  | none => []

theorem Addressed.call (call : Call) {s : Client × Process (ω × Targets)} (h : Addressed s)
    (plain : ∀ x ∈ call.comparisons H.traced s, PlainHint x.1) :
    (∀ x ∈ call.comparisons H.traced s, Compares H x.1 x.2) ∧
      Addressed (call.run H.traced s).state := by
  obtain ⟨c, p⟩ := s
  cases hr : call.request? c with
  | none =>
    have kept := (unseen_placing (H := H)).unrequested fixed_place hr p
    exact ⟨by simp [Call.comparisons, hr], h.of_eq kept.1 kept.2⟩
  | some request =>
    obtain ⟨op, txn⟩ := request
    have numbered : Addressed (c.numbered, p) := h.of_eq rfl rfl
    have compared : call.comparisons H.traced (c, p) =
        TricoreSdk.comparisons H.traced (c.envelope op txn) c.options.leaderRetries.toNat
          c.options.leaderRetryDelay (c.numbered, p) := by
      simp [Call.comparisons, hr]
    rw [compared] at plain ⊢
    obtain ⟨told, ends⟩ := numbered.sendLoop (H := H) _ _ 0 _ plain
    rw [run_request hr, sendIn_apply]
    exact ⟨told, ends.of_eq (fixed_place.settle ..) rfl⟩

theorem Addressed.alongRun {log : List Event} {s : Client × Process (ω × Targets)}
    (h : Addressed s) {work : Proc α}
    (plain : AlongRun H.traced
      (fun _ s call => ∀ x ∈ call.comparisons H.traced s, PlainHint x.1) log s work) :
    AlongRun H.traced
      (fun _ s call => ∀ x ∈ call.comparisons H.traced s, Compares H x.1 x.2) log s work :=
  plain.imp (I := fun _ s => Addressed s) (fun _ _ call placed plain => placed.call call plain) h

end

/-! ## One spelling -/

/-- Among these hints an address has one spelling: it is read back, it is written back, and a
client that was connected to a plain host tells by the text of a hint whether it names another
node than its own. -/
structure OneSpelling (hints : Set String) : Prop where
  readBack : ∀ host port, PlainHost host → port ≠ 0 →
    splitAddress (joinAddress host port) = some (host, port)
  writtenBack : ∀ a ∈ hints, ∀ host port, splitAddress a = some (host, port) →
    joinAddress host port = a
  told : ∀ {ω α : Type} (H : Host ω) (options : Options) (p : Process (ω × Targets)) (c : Client),
    PlainHost options.host → options.port ≠ 0 →
    (connect H.traced options p).outcome = .returned c → ∀ work : Proc α,
    AlongRun H.traced (fun _ s call => ∀ x ∈ call.comparisons H.traced s, x.1 ∈ hints)
      (connect H.traced options p).events (c, (connect H.traced options p).state) work →
    AlongRun H.traced (fun _ s call => ∀ x ∈ call.comparisons H.traced s, Compares H x.1 x.2)
      (connect H.traced options p).events (c, (connect H.traced options p).state) work

/-- Hints have one spelling exactly when each that is accepted is plain. -/
theorem oneSpelling_iff (hints : Set String) :
    OneSpelling hints ↔ ∀ a ∈ hints, (splitAddress a).isSome → PlainAddress a.toList := by
  constructor
  · intro one a ha accepted
    obtain ⟨⟨host, port⟩, names⟩ := Option.isSome_iff_exists.mp accepted
    exact (joinAddress_eq_iff names).mp (one.writtenBack a ha host port names)
  · intro plain
    refine ⟨fun host port => splitAddress_joinAddress, fun a ha host port names => ?_, ?_⟩
    · exact PlainHint.spelled (plain a ha) names
    · intro ω α H options p c host port_ne returned work among
      rcases run : connect H.traced options p with ⟨o, p', es⟩
      rw [run] at returned among
      obtain rfl : o = .returned c := returned
      have placed : Addressed (c, p') := connect_addressed host port_ne run
      refine placed.alongRun (among.imp (I := fun _ _ => True) ?_ trivial)
      exact fun _ _ _ _ within => ⟨fun x hx => plain x.1 (within x hx), trivial⟩

/-! ## A port with a leading zero -/

/-- `{"status":"error","data":{"Message":"moved"},"diagnostics":{"error_code":"not_leader","leader_hint":"127.0.0.1:08427"}}` -/
def paddedBody : List UInt8 :=
  [123, 34, 115, 116, 97, 116, 117, 115, 34, 58, 34, 101, 114, 114, 111, 114, 34, 44, 34, 100, 97,
    116, 97, 34, 58, 123, 34, 77, 101, 115, 115, 97, 103, 101, 34, 58, 34, 109, 111, 118, 101, 100,
    34, 125, 44, 34, 100, 105, 97, 103, 110, 111, 115, 116, 105, 99, 115, 34, 58, 123, 34, 101, 114,
    114, 111, 114, 95, 99, 111, 100, 101, 34, 58, 34, 110, 111, 116, 95, 108, 101, 97, 100, 101,
    114, 34, 44, 34, 108, 101, 97, 100, 101, 114, 95, 104, 105, 110, 116, 34, 58, 34, 49, 50, 55,
    46, 48, 46, 48, 46, 49, 58, 48, 56, 52, 50, 55, 34, 125, 125]

def padding : Host (List (Except WireError Frame)) :=
  { scripted with
    serde :=
      { scriptSerde with
        wireResponse := fun bytes =>
          if bytes = paddedBody then
            .ok ⟨"", "error", Value.ofFields [("Message", .string "moved")],
              some ⟨none, none, [], some "not_leader", some "127.0.0.1:08427"⟩⟩
          else scriptSerde.wireResponse bytes } }

def unconnected (script : List (Except WireError Frame)) :
    Process (List (Except WireError Frame) × Targets) :=
  ⟨0, 0, (script, ⟨("", 0), fun _ => ("", 0)⟩)⟩

/-- A client whose own node refuses its request, and names itself with a zero in front. -/
def paddedScript : List (Except WireError Frame) :=
  [replies .helloOk helloAll, replies .response paddedBody, replies .helloOk helloAll,
    replies .response done]

def paddedProcess : Process (List (Except WireError Frame) × Targets) :=
  (connect padding.traced Options.default (unconnected paddedScript)).state

def paddedRun : Execution (Client × Process (List (Except WireError Frame) × Targets)) Error Event
    Response :=
  sendIn padding.traced (.string "Ping") none (session, paddedProcess)

/-- The hint names the node that the client is connected to, and the client connects to it again,
without a pause. -/
theorem padded_reconnects :
    ¬OneSpelling Set.univ ∧
      splitAddress "127.0.0.1:08427" = some (target (session, paddedProcess)) ∧
      session.transport = .tcp 0 ∧ paddedRun.state.1.transport = .tcp 1 ∧
      target paddedRun.state = target (session, paddedProcess) ∧ pauses paddedRun.events = [] := by
  refine ⟨fun one => ?_, ?_⟩
  · have compared : ((Call.request (.string "Ping")).comparisons padding.traced
        (session, paddedProcess)).map (fun x => (x.1, x.2.1.address, target x.2)) =
        [("127.0.0.1:08427", "127.0.0.1:8427", ("127.0.0.1", 8427))] := by decide +kernel
    have reads : splitAddress "127.0.0.1:08427" = some ("127.0.0.1", 8427) := by decide +kernel
    have opened : (connect padding.traced Options.default (unconnected paddedScript)).outcome =
        .returned session := by with_unfolding_all rfl
    have host : PlainHost Options.default.host := by constructor <;> decide +kernel
    obtain ⟨told, -⟩ := one.told padding Options.default (unconnected paddedScript) session host
      (by decide +kernel) opened
      (.call (.request (.string "Ping")) fun _ => .done (.ok ()) : Proc Unit)
      ⟨fun _ _ => trivial, trivial⟩
    obtain ⟨x, hx, shown⟩ := List.mem_map.mp (compared ▸ List.mem_singleton_self _)
    have right := told x hx
    simp only [Prod.mk.injEq] at shown
    obtain ⟨hint, address, reached⟩ := shown
    have other : x.1 ≠ x.2.1.address := by
      rw [hint, address]
      decide
    exact right.elsewhere.mp other (by rw [hint, reached]; exact reads)
  · decide +kernel

end TricoreSdk
