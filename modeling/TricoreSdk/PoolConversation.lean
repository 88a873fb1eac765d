import TricoreSdk.Conversation
import TricoreSdk.PoolNoninterference
import TricoreSdk.PoolWaiting

/-! The conversations of a pool. However its threads interleave, what they write on
each connection keeps to the rules, and a connection that is neither idle nor with a
thread is shut down. -/

namespace TricoreSdk
open Effects Path

section

variable {ω α : Type} {H : Host ω} {options : Options} {size : Nat} {login : Bool}

/-- Where the conversation of a pooled client stands: ready, as long as it was not dropped. -/
structure Heeded (login : Bool) (m : Socket → Stage) (c : Client) : Prop where
  user : c.options.user.isSome = login
  isOpen : c.closed = false
  live : c.fault = none → m c.transport.socket = .ready
  dropped : c.fault ≠ none → m c.transport.socket = .gone

variable {m m' : Socket → Stage} {c : Client} {p : Process ω}

theorem Linked.heeded {s : Client × Process ω} (h : Linked login m s) : Heeded login m s.1 :=
  ⟨h.user, h.isOpen, h.live, h.dropped⟩

theorem Heeded.congr (h : Heeded login m c) (same : m' c.transport.socket = m c.transport.socket) :
    Heeded login m' c :=
  ⟨h.user, h.isOpen, fun hf => same.trans (h.live hf), fun hf => same.trans (h.dropped hf)⟩

/-- Seen from one connection, the other ones that are open are none of its business. -/
def minding (c : Client) (p : Process ω) (m : Socket → Stage) (k : Socket) : Stage :=
  if k = c.transport.socket ∨ p.opened ≤ k then m k else .gone

theorem Heeded.linked (h : Heeded login m c) (opened : c.transport.socket < p.opened)
    (fresh : ∀ k, p.opened ≤ k → m k = .fresh) : Linked login (minding c p m) (c, p) where
  user := h.user
  isOpen := h.isOpen
  opened := opened
  live hf := (if_pos (.inl rfl)).trans (h.live hf)
  dropped hf := (if_pos (.inl rfl)).trans (h.dropped hf)
  fresh k hk := (if_pos (.inr hk)).trans (fresh k hk)
  others k hk := by
    by_cases new : p.opened ≤ k
    · exact .inl ((if_pos (.inr new)).trans (fresh k new))
    · exact .inr (if_neg fun h => h.elim hk new)

/-- What a part of a run does to the conversations: those on sockets that are not its own stay as
they are, and those that it leaves behind are over. -/
structure Goes (H : Host ω) (login : Bool) (own own' : List Socket) (p p' : Process ω)
    (es : List Event) (m m' : Socket → Stage) : Prop where
  allowed : (conversations H login).run m es = some m'
  opened : p.opened ≤ p'.opened
  fresh : ∀ k, p'.opened ≤ k → m' k = .fresh
  elsewhere : ∀ k < p.opened, k ∉ own → m' k = m k
  left : ∀ k, k ∈ own ∨ p.opened ≤ k → k ∉ own' → (m' k).Settled

theorem Heeded.used (h : Heeded login m c) (opened : c.transport.socket < p.opened)
    (fresh : ∀ k, p.opened ≤ k → m k = .fresh) {s : Client × Process ω} {es : List Event}
    (speaks : (speaking H login).rel (c, p) es s)
    (spares : ∀ k, (sparing (fun (_ : ω) _ => ()) k).rel (c, p) es s) :
    ∃ m', Goes H login [c.transport.socket] [s.1.transport.socket] p s.2 es m m' ∧
      Heeded login m' s.1 := by
  obtain ⟨n, allowed, linked⟩ := speaks _ (h.linked opened fresh)
  have ours {k : Socket} (hk : k = c.transport.socket ∨ p.opened ≤ k) : m k = minding c p m k :=
    (if_pos hk).symm
  have free {k : Socket} (hk : k < p.opened) (other : k ≠ c.transport.socket) :
      (∀ e ∈ es, e.socket? ≠ some k) ∧ s.1.transport.socket ≠ k := by
    obtain ⟨apart, quiet, -⟩ := (spares k).2 hk other.symm
    exact ⟨quiet, apart⟩
  have meant : ∀ k, (∃ e ∈ es, e.socket? = some k) → m k = minding c p m k := fun k ⟨e, he, hk⟩ => by
    by_cases mine : k = c.transport.socket ∨ p.opened ≤ k
    · exact ours mine
    · rw [not_or, Nat.not_le] at mine
      exact absurd hk ((free mine.2 mine.1).1 e he)
  obtain ⟨m', run, alike, still⟩ := Monitor.each_run_transfer allowed meant
  have grows : p.opened ≤ s.2.opened := (spares 0).1
  refine ⟨m', ⟨run, grows, ?_, ?_, ?_⟩, ?_⟩
  · intro k hk
    rw [alike k (ours (.inr (Nat.le_trans grows hk)))]
    exact linked.fresh k hk
  · intro k hk other
    exact still k (free hk fun same => other (List.mem_singleton.mpr same)).1
  · intro k hk other
    rw [alike k (ours (hk.imp_left List.mem_singleton.mp))]
    exact linked.others k fun same => other (List.mem_singleton.mpr same)
  · refine linked.heeded.congr (alike _ (ours ?_))
    by_contra other
    rw [not_or, Nat.not_le] at other
    exact (free other.2 other.1).2 rfl

theorem Heeded.discarded (h : Heeded login m c) (opened : c.transport.socket < p.opened)
    (fresh : ∀ k, p.opened ≤ k → m k = .fresh) :
    Goes H login [c.transport.socket] [] p (closeInner H (c, p)).state.2 (closeInner H (c, p)).events m
      (Function.update m c.transport.socket .gone) := by
  have grows := (closeInner_sparing (H := H) 0 (c, p)).1
  refine ⟨(talks_closeInner (h.linked opened fresh).spare p).all ?_, grows, ?_, ?_, ?_⟩
  · exact (if_pos (.inl rfl)).symm
  · intro k hk
    rw [Function.update_of_ne (Nat.lt_of_lt_of_le opened (Nat.le_trans grows hk)).ne']
    exact fresh k (Nat.le_trans grows hk)
  · intro k _ other
    exact Function.update_of_ne (fun same => other (List.mem_singleton.mpr same)) ..
  · rintro k (own | new) -
    · rw [List.mem_singleton.mp own]
      exact .inr (Function.update_self ..)
    · exact settled_update fun _ => .inl (fresh k new)

theorem connect_goes (options : Options) (p : Process ω) (fresh : ∀ k, p.opened ≤ k → m k = .fresh) :
    ∃ m', Goes H options.user.isSome []
        (match (connect H options p).outcome with
          | .returned c => [c.transport.socket]
          | _ => []) p (connect H options p).state (connect H options p).events m m' ∧
      ∀ c, (connect H options p).outcome = .returned c → Heeded options.user.isSome m' c := by
  obtain ⟨m', allowed, underway⟩ := connect_conversations (H := H) options p fresh
  rcases run : connect H options p with ⟨o, p', es⟩
  rw [run] at allowed underway
  cases underway with
  | never e _ _ grows =>
    exact ⟨m, ⟨allowed, grows, fun k hk => fresh k (Nat.le_trans grows hk), fun _ _ _ => rfl,
      fun k hk _ => .inl (fresh k (hk.resolve_left List.not_mem_nil))⟩, fun c hc => by cases hc⟩
  | gone e _ _ j low high =>
    refine ⟨_, ⟨allowed, Nat.le_trans low high.le, ?_, ?_, ?_⟩, fun c hc => by cases hc⟩
    · intro k hk
      have above : j < k := Nat.lt_of_lt_of_le high hk
      rw [Function.update_of_ne above.ne']
      exact fresh k (Nat.le_trans low above.le)
    · intro k hk _
      exact Function.update_of_ne (Nat.lt_of_lt_of_le hk low).ne ..
    · intro k hk _
      exact settled_update fun _ => .inl (fresh k (hk.resolve_left List.not_mem_nil))
  | ready c _ _ live low high =>
    refine ⟨_, ⟨allowed, Nat.le_trans low high.le, ?_, ?_, ?_⟩, ?_⟩
    · intro k hk
      have above : c.transport.socket < k := Nat.lt_of_lt_of_le high hk
      rw [Function.update_of_ne above.ne']
      exact fresh k (Nat.le_trans low above.le)
    · intro k hk _
      exact Function.update_of_ne (Nat.lt_of_lt_of_le hk low).ne ..
    · intro k hk other
      rw [Function.update_of_ne fun same => other (List.mem_singleton.mpr same)]
      exact .inl (fresh k (hk.resolve_left List.not_mem_nil))
    · intro c' hc
      cases hc
      refine ⟨by rw [connect_options run], live.open_, fun _ => Function.update_self ..,
        fun hf => absurd live.fault hf⟩

/-! ## Connections and where they are -/

/-- Every conversation so far kept to the rules; those of these connections stand as their clients
say, and every other one is over. -/
def Spoken (H : Host ω) (login : Bool) (log : List Event) (p : Process ω) (leases : List Lease) : Prop :=
  ∃ m, (conversations H login).run (fun _ => .fresh) log = some m ∧ (∀ k, p.opened ≤ k → m k = .fresh) ∧
    (∀ lease ∈ leases, Heeded login m lease.client) ∧ ∀ k ∉ leases.map Lease.socket, (m k).Settled

/-- Open connections, each on a socket of its own. -/
structure Parted (p : Process ω) (leases : List Lease) : Prop where
  opened : ∀ lease ∈ leases, lease.socket < p.opened
  nodup : (leases.map Lease.socket).Nodup

variable {log : List Event} {lease : Lease} {held others : List Lease}

theorem Spoken.congr (h : Spoken H login log p held) (same : ∀ l, l ∈ others ↔ l ∈ held) :
    Spoken H login log p others := by
  obtain ⟨m, allowed, fresh, heeded, settled⟩ := h
  refine ⟨m, allowed, fresh, fun l hl => heeded l ((same l).mp hl), fun k hk => settled k fun mem => ?_⟩
  obtain ⟨l, hl, rfl⟩ := List.mem_map.mp mem
  exact hk (List.mem_map_of_mem ((same l).mpr hl))

theorem Parted.apart (h : Parted p (lease :: others)) {l : Lease} (hl : l ∈ others) :
    l.socket ∉ [lease.socket] := by
  intro mem
  have := List.nodup_cons.mp (List.map_cons ▸ h.nodup)
  exact this.1 (List.mem_singleton.mp mem ▸ List.mem_map_of_mem hl)

theorem Goes.spoken (held own : List Lease) {p' : Process ω} {es : List Event}
    (h : Goes H login (held.map Lease.socket) (own.map Lease.socket) p p' es m m')
    (allowed : (conversations H login).run (fun _ => .fresh) log = some m)
    (apart : ∀ l ∈ others, l.socket < p.opened ∧ l.socket ∉ held.map Lease.socket)
    (heeded : ∀ l ∈ others, Heeded login m l.client) (ours : ∀ l ∈ own, Heeded login m' l.client)
    (settled : ∀ k ∉ (held ++ others).map Lease.socket, (m k).Settled) :
    Spoken H login (log ++ es) p' (own ++ others) := by
  refine ⟨m', Monitor.run_append_of allowed h.allowed, h.fresh, fun l hl => ?_, fun k hk => ?_⟩
  · rcases List.mem_append.mp hl with hl | hl
    · exact ours l hl
    · obtain ⟨old, other⟩ := apart l hl
      exact (heeded l hl).congr (h.elsewhere _ old other)
  · rw [List.map_append, List.mem_append, not_or] at hk
    by_cases mine : k ∈ held.map Lease.socket ∨ p.opened ≤ k
    · exact h.left k mine hk.1
    · rw [not_or, Nat.not_le] at mine
      rw [h.elsewhere k mine.2 mine.1]
      refine settled k fun mem => ?_
      rw [List.map_append, List.mem_append] at mem
      exact mem.elim mine.1 hk.2

theorem Spoken.used (h : Spoken H login log p (lease :: others)) (parted : Parted p (lease :: others))
    {s : Client × Process ω} {es : List Event} (speaks : (speaking H login).rel (lease.client, p) es s)
    (spares : ∀ k, (sparing (fun (_ : ω) _ => ()) k).rel (lease.client, p) es s) :
    Spoken H login (log ++ es) s.2 (⟨lease.id, s.1⟩ :: others) := by
  obtain ⟨m, allowed, fresh, heeded, settled⟩ := h
  obtain ⟨m', goes, used⟩ := (heeded lease List.mem_cons_self).used
    (parted.opened lease List.mem_cons_self) fresh speaks spares
  exact Goes.spoken [lease] [⟨lease.id, s.1⟩] goes allowed
    (fun l hl => ⟨parted.opened l (.tail _ hl), parted.apart hl⟩) (fun l hl => heeded l (.tail _ hl))
    (fun l hl => List.mem_singleton.mp hl ▸ used) settled

theorem Spoken.discarded (h : Spoken H login log p (lease :: others))
    (parted : Parted p (lease :: others)) :
    Spoken H login (log ++ (closeInner H (lease.client, p)).events)
      (closeInner H (lease.client, p)).state.2 others := by
  obtain ⟨m, allowed, fresh, heeded, settled⟩ := h
  have goes := (heeded lease List.mem_cons_self).discarded (H := H)
    (parted.opened lease List.mem_cons_self) fresh
  exact Goes.spoken [lease] [] goes allowed
    (fun l hl => ⟨parted.opened l (.tail _ hl), parted.apart hl⟩) (fun l hl => heeded l (.tail _ hl))
    (fun l hl => absurd hl List.not_mem_nil) settled

theorem Spoken.connected (h : Spoken H options.user.isSome log p others)
    (opened : ∀ l ∈ others, l.socket < p.opened) {c : Client}
    (run : (connect H options p).outcome = .returned c) (id : Nat) :
    Spoken H options.user.isSome (log ++ (connect H options p).events) (connect H options p).state
      (⟨id, c⟩ :: others) := by
  obtain ⟨m, allowed, fresh, heeded, settled⟩ := h
  obtain ⟨m', goes, ready⟩ := connect_goes (H := H) options p fresh
  rw [run] at goes
  exact Goes.spoken [] [⟨id, c⟩] goes allowed
    (fun l hl => ⟨opened l hl, List.not_mem_nil⟩) heeded
    (fun l hl => List.mem_singleton.mp hl ▸ ready c run) settled

theorem Spoken.unconnected (h : Spoken H options.user.isSome log p others)
    (opened : ∀ l ∈ others, l.socket < p.opened) {e : Error}
    (run : (connect H options p).outcome = .failed e) :
    Spoken H options.user.isSome (log ++ (connect H options p).events) (connect H options p).state
      others := by
  obtain ⟨m, allowed, fresh, heeded, settled⟩ := h
  obtain ⟨m', goes, -⟩ := connect_goes (H := H) options p fresh
  rw [run] at goes
  exact Goes.spoken [] [] goes allowed
    (fun l hl => ⟨opened l hl, List.not_mem_nil⟩) heeded
    (fun l hl => absurd hl List.not_mem_nil) settled

/-! ## Runs of the pool -/

theorem speaking_settle (outcome : Except Error α) : (speaking H login).Respects (settle H outcome) :=
  respects_settle (requestPath_speaking.transactionControl "ROLLBACK") outcome

theorem PoolState.Passed.mem_leases {timedOut : Bool} {deadline : Option Nat} {now : Nat} {s : PoolState}
    {x : Acquired × PoolState} (h : s.Passed size timedOut deadline now x) (bound : Option Nat)
    (work : Proc α) (others : List Lease) (l : Lease) :
    l ∈ (x.1.phase bound work).leases ++ (x.2.idle ++ others) ↔ l ∈ s.idle ++ others := by
  cases h with
  | lent isOpen lease rest hi => simp [Acquired.phase, Phase.leases, hi]
  | _ => simp_all [Acquired.phase, Phase.leases]

theorem Moves.spoken {sh sh' : Shared ω} {a b : Phase α} (h : Moves H options size sh a b sh')
    (parted : Parted sh.process (a.leases ++ (sh.pool.idle ++ others)))
    (spoken : Spoken H options.user.isSome sh.log sh.process (a.leases ++ (sh.pool.idle ++ others))) :
    Spoken H options.user.isSome sh'.log sh'.process (b.leases ++ (sh'.pool.idle ++ others)) := by
  cases h with
  | acquire deadline work =>
    exact spoken.congr ((PoolState.acquire_passed size false ..).mem_leases deadline work others)
  | resume timedOut deadline work =>
    exact spoken.congr ((PoolState.resume_passed ..).mem_leases deadline work others)
  | connected work c run => exact spoken.connected parted.opened run sh.born
  | refused work e run => exact spoken.unconnected parted.opened run
  | call lease c next =>
    exact spoken.used parted (speaking_run c _) fun k => (callPath_sparing perSocket_unit).run c _
  | finish lease outcome broken leftOpen run =>
    exact spoken.used parted (speaking_settle outcome _) fun k => settle_sparing k outcome _
  | unwind lease | retire lease result => exact spoken.discarded parted
  | closeIdle lease rest => exact spoken.discarded parted
  | release lease broken result =>
    refine spoken.congr fun l => ?_
    unfold PoolState.release
    split <;> simp [Shared.withPool, Phase.leases]
  | close =>
    refine spoken.congr fun l => ?_
    simp [Shared.withPool, PoolState.close, Phase.leases]
  | _ => exact spoken

def System.leases (sys : System ω α) : List Lease :=
  sys.shared.pool.idle ++ sys.threads.flatMap Phase.leases

theorem Apart.parted {sys : System ω α} (h : Apart sys) : Parted sys.shared.process sys.leases := by
  have sockets : sys.leases.map Lease.socket = sys.sockets := by
    rw [System.leases, System.sockets, List.map_append, List.map_flatMap]
    rfl
  refine ⟨fun lease hl => h.opened (sockets ▸ List.mem_map_of_mem hl), ?_⟩
  rw [sockets, List.nodup_iff_count]
  intro socket
  refine Nat.le_trans (h socket) ?_
  unfold due
  split <;> omega

theorem Parted.perm (h : Parted p held) (same : held.Perm others) : Parted p others :=
  ⟨fun l hl => h.opened l (same.mem_iff.mpr hl), (same.map _).nodup_iff.mp h.nodup⟩

theorem Step.log_or_moves {a b : System ω α} (h : Step H options size a b) :
    b.shared.log = a.shared.log ∨
      ∃ before after x y sh sh', Moves H options size sh x y sh' ∧ a = ⟨sh, before ++ x :: after⟩ ∧
        b = ⟨sh', before ++ y :: after⟩ := by
  cases h with
  | moves before after x y sh sh' hm => exact .inr ⟨before, after, x, y, sh, sh', hm, rfl, rfl⟩
  | _ => exact .inl rfl

theorem leases_at (sh : Shared ω) (before after : List (Phase α)) (a : Phase α) :
    (System.leases ⟨sh, before ++ a :: after⟩).Perm
      (a.leases ++ (sh.pool.idle ++ (before.flatMap Phase.leases ++ after.flatMap Phase.leases))) := by
  simp only [System.leases, List.flatMap_append, List.flatMap_cons]
  rw [← List.append_assoc, ← List.append_assoc, List.append_assoc _ a.leases]
  refine (List.perm_append_comm_assoc ..).trans ?_
  simp

theorem Beside.leases {a b : System ω α} (h : Beside a b) : b.leases = a.leases := by
  rw [System.leases, System.leases, h.idle, h.flatMap _ fun _ => Phase.leases_of_unoccupied]

theorem Step.spoken {a b : System ω α} (h : Step H options size a b) (apart : Apart a)
    (spoken : Spoken H options.user.isSome a.shared.log a.shared.process a.leases) :
    Spoken H options.user.isSome b.shared.log b.shared.process b.leases := by
  have moved {before after : List (Phase α)} {x y : Phase α} {sh sh' : Shared ω}
      (hm : Moves H options size sh x y sh') (apart : Apart ⟨sh, before ++ x :: after⟩)
      (spoken : Spoken H options.user.isSome sh.log sh.process
        (System.leases ⟨sh, before ++ x :: after⟩)) :
      Spoken H options.user.isSome sh'.log sh'.process (System.leases ⟨sh', before ++ y :: after⟩) := by
    have here := leases_at sh before after x
    have there := leases_at sh' before after y
    exact (hm.spoken (apart.parted.perm here) (spoken.congr fun _ => here.symm.mem_iff)).congr
      fun _ => there.mem_iff
  rcases h.log_or_moves with log | ⟨before, after, x, y, sh, sh', hm, rfl, rfl⟩
  · rcases h.moves_or_beside with ⟨before, after, x, y, sh, sh', hm, rfl, rfl⟩ | beside
    · exact moved hm apart spoken
    · obtain ⟨m, allowed, fresh, rest⟩ := spoken
      rw [log, beside.leases]
      exact ⟨m, allowed, fun k hk => fresh k (Nat.le_trans beside.opened hk), rest⟩
  · exact moved hm apart spoken

theorem Reachable.spoken {sys : System ω α} (h : Reachable H options size sys) :
    Spoken H options.user.isSome sys.shared.log sys.shared.process sys.leases := by
  refine h.invariant (fun process threads => ?_) fun a b reached spoken hs =>
    hs.spoken reached.apart spoken
  have none_yet : (System.initial process threads : System ω α).leases = [] := by
    rw [System.leases, initial_flatMap process threads Phase.leases rfl]
    rfl
  rw [none_yet]
  exact ⟨_, rfl, fun _ _ => rfl, fun l hl => absurd hl List.not_mem_nil, fun _ _ => .inl rfl⟩

/-- However the threads of a pool interleave, the conversation on every connection keeps to the
rules: it stands ready on the connections that are idle or with a thread, unless they were dropped
after a failure, and is over on every other one. -/
theorem reachable_conversations {sys : System ω α} (h : Reachable H options size sys) :
    Spoken H options.user.isSome sys.shared.log sys.shared.process sys.leases :=
  h.spoken

end

theorem reachable_conversations_contended :
    Spoken scripted Options.default.user.isSome contended.shared.log contended.shared.process
      contended.leases :=
  reachable_conversations reachable_contended

end TricoreSdk
