import TricoreSdk.Backdrop
import TricoreSdk.Conversation
import TricoreSdk.Lib.Remote

/-! The ledger of a log: what was asked on which connection, and what was answered. A server that
keeps something does what it is asked once, or not at all, and its clients' ledgers account for what
it has become. -/

namespace TricoreSdk
open Effects Path
open Remote (Site Drifts Traffic)

structure Ask where
  on : Transport
  payload : Option Value

abbrev Verdict : Ask → Type := fun _ => Except Error Response

/-- Whether a reply sends its request elsewhere. -/
def redirects : Except Error Response → Bool
  | .error e => e.isRedirect
  | .ok _ => false

/-! ## Reading a log -/

namespace Ledger

variable {ω : Type} (H : Host ω)

def replyIn : List Event → Option (Except Error Response)
  | .answered _ frame :: _ => replyOf H frame
  | _ => none

/-- The requests of a log, and the replies to them. -/
def entries : List Event → List (Ask × Option (Except Error Response))
  | [] => []
  | .wrote t .request payload :: es => (⟨t, payload⟩, replyIn H es) :: entries es
  | _ :: es => entries es

/-- A request that was done or refused where it was sent. -/
def decided (x : Ask × Option (Except Error Response)) : Option (Sigma Verdict) :=
  (x.2.filter fun reply => !redirects reply).map fun reply => ⟨x.1, reply⟩

theorem decided_here {q : Ask} {reply : Except Error Response} (here : redirects reply = false) :
    decided (q, some reply) = some ⟨q, reply⟩ := by
  simp [decided, here]

theorem decided_elsewhere {q : Ask} {reply : Except Error Response}
    (elsewhere : redirects reply = true) : decided (q, some reply) = none := by
  simp [decided, elsewhere]

/-- A request without a reply. -/
def inDoubt (x : Ask × Option (Except Error Response)) : Option Ask :=
  if x.2.isNone then some x.1 else none

def answers (es : List Event) : List (Sigma Verdict) := (entries H es).filterMap decided

/-- What may have been done or not. -/
def doubts (es : List Event) : List Ask := (entries H es).filterMap inDoubt

variable {H}

theorem entries_cons_unasked {e : Event} (h : e.isRequest = false) (es : List Event) :
    entries H (e :: es) = entries H es := by
  cases e with
  | wrote t tag payload =>
    cases tag with
    | request => cases h
    | _ => rw [entries]; simp
  | _ => rw [entries]; simp

theorem replyIn_append {es fs : List Event} (h : Event.paired none fs = true) :
    replyIn H (es ++ fs) = replyIn H es := by
  cases es with
  | cons e es => cases e <;> rfl
  | nil =>
    cases fs with
    | nil => rfl
    | cons e fs => cases e <;> first | rfl | simp [Event.paired] at h

theorem entries_append {es fs : List Event} (h : Event.paired none fs = true) :
    entries H (es ++ fs) = entries H es ++ entries H fs := by
  induction es with
  | nil => rfl
  | cons e es ih =>
    cases asked : e.isRequest with
    | false => rw [List.cons_append, entries_cons_unasked asked, entries_cons_unasked asked, ih]
    | true =>
      cases e with
      | wrote t tag payload =>
        cases tag with
        | request =>
          rw [List.cons_append, entries, entries, ih, replyIn_append h, List.cons_append]
        | _ => cases asked
      | _ => cases asked

theorem answers_append {es fs : List Event} (h : Event.paired none fs = true) :
    answers H (es ++ fs) = answers H es ++ answers H fs := by
  rw [answers, entries_append h, List.filterMap_append]
  rfl

theorem doubts_append {es fs : List Event} (h : Event.paired none fs = true) :
    doubts H (es ++ fs) = doubts H es ++ doubts H fs := by
  rw [doubts, entries_append h, List.filterMap_append]
  rfl

theorem entries_hushed {es : List Event} (h : Hushed es) : entries H es = [] := by
  obtain ⟨-, unasked⟩ := h
  induction es with
  | nil => rfl
  | cons e es ih =>
    obtain ⟨here, rest⟩ := List.forall_mem_cons.mp unasked
    rw [entries_cons_unasked here, ih rest]

theorem answers_hushed {es : List Event} (h : Hushed es) : answers H es = [] := by
  rw [answers, entries_hushed h]
  rfl

theorem doubts_hushed {es : List Event} (h : Hushed es) : doubts H es = [] := by
  rw [doubts, entries_hushed h]
  rfl

end Ledger

/-! ## Connections in doubt -/

section

variable {ω : Type} {H : Host ω} {login : Bool}

/-- On a connection where a request is in doubt nothing is answered any more. -/
def Stage.Sound (st : Stage) : Prop := st.rests = true ∧ st ≠ .gone

theorem next_still {st st' : Stage} {e : Event} (written : ∀ t tag payload, e ≠ .wrote t tag payload)
    (read : ∀ t frame, e ≠ .answered t frame)
    (h : (conversation H.serde login).next st e = some st') : st' = st ∨ st' = .gone := by
  cases e with
  | wrote t tag payload => exact absurd rfl (written t tag payload)
  | answered t frame => exact absurd rfl (read t frame)
  | shutdown k => exact .inr (Option.some.inj h).symm
  | _ =>
    simp only [conversation] at h
    first
    | exact .inl (Option.some.inj h).symm
    | exact .inl (Option.some.inj (Option.ite_none_right_eq_some.mp h).2).symm

theorem heard_garbled {frame : Frame} (h : replyOf H frame = none) :
    heard H.serde login .request frame = .dead := by
  refine if_neg ?_
  rcases frame with ⟨tag, payload⟩
  cases tag with
  | response | error => cases h
  | _ => exact Bool.false_ne_true

namespace Ledger

/-- The connections that were left in doubt. -/
def lost (H : Host ω) (es : List Event) : List Socket := (doubts H es).map fun q => q.on.socket

theorem lost_unasked {e : Event} (h : e.isRequest = false) (es : List Event) :
    lost H (e :: es) = lost H es := by
  rw [lost, doubts, entries_cons_unasked h]
  rfl

theorem sound_before {m m' : Socket → Stage} {e : Event}
    (written : ∀ t tag payload, e ≠ .wrote t tag payload) (read : ∀ t frame, e ≠ .answered t frame)
    (h : (conversations H login).next m e = some m') {k : Socket} (sound : (m' k).Sound) :
    (m k).Sound := by
  cases own : e.socket? with
  | none =>
    rw [conversations, Monitor.each_next_unkeyed own] at h
    cases h
    exact sound
  | some k' =>
    rw [conversations, Monitor.each_next_keyed own] at h
    obtain ⟨st, turned, rfl⟩ := Option.map_eq_some_iff.mp h
    by_cases same : k = k'
    · subst same
      rw [Function.update_self] at sound
      rcases next_still written read turned with rfl | rfl
      · exact sound
      · exact absurd rfl sound.2
    · rwa [Function.update_of_ne same] at sound

theorem lost_wrote (t : Transport) (tag : Tag) (payload : Option Value) (es : List Event) :
    lost H (.wrote t tag payload :: es) = lost H es ∨
      lost H (.wrote t tag payload :: es) = t.socket :: lost H es ∧ tag = .request ∧
        replyIn H es = none := by
  cases asked : (Event.wrote t tag payload).isRequest with
  | false => exact .inl (lost_unasked asked es)
  | true =>
    cases tag with
    | request =>
      cases reply : replyIn H es with
      | none => exact .inr ⟨by simp [lost, doubts, entries, inDoubt, reply], rfl, rfl⟩
      | some r => exact .inl (by simp [lost, doubts, entries, inDoubt, reply])
    | _ => cases asked

/-- Logs whose answers are paired are made of exchanges, frames that nothing was read after, and other
events. -/
theorem paired_induction {motive : List Event → Prop} (nil : motive [])
    (still : ∀ e es, (∀ t tag payload, e ≠ .wrote t tag payload) → (∀ t frame, e ≠ .answered t frame) →
      motive es → motive (e :: es))
    (sent : ∀ t tag payload es, Event.paired none es = true → motive es →
      motive (.wrote t tag payload :: es))
    (replied : ∀ t tag payload frame es, Event.paired none es = true → motive es →
      motive (.wrote t tag payload :: .answered t frame :: es)) (es : List Event)
    (pairs : Event.paired none es = true) : motive es := by
  match es with
  | [] => exact nil
  | e :: es =>
    have rest := paired_induction nil still sent replied es
    cases e with
    | answered t frame => simp [Event.paired] at pairs
    | wrote t tag payload =>
      cases es with
      | nil => exact sent t tag payload [] rfl nil
      | cons e es =>
        cases e with
        | answered t' frame =>
          obtain ⟨same, later⟩ := Bool.and_eq_true_iff.mp pairs
          cases Option.some.inj (beq_iff_eq.mp same)
          exact replied t tag payload frame es later
            (paired_induction nil still sent replied es later)
        | _ => exact sent t tag payload _ pairs (rest pairs)
    | _ => exact still _ es (by simp) (by simp) (rest pairs)
termination_by es.length

section

variable {m m' : Socket → Stage} {t : Transport} {tag : Tag} {payload : Option Value}

theorem next_wrote (h : (conversations H login).next m (.wrote t tag payload) = some m') :
    (m t.socket).Sound ∧ m' = Function.update m t.socket (.asked tag) := by
  have own : Event.socket? (.wrote t tag payload) = some t.socket := rfl
  rw [conversations, Monitor.each_next_keyed own] at h
  obtain ⟨st, turned, rfl⟩ := Option.map_eq_some_iff.mp h
  obtain ⟨allows, asked⟩ := Option.ite_none_right_eq_some.mp turned
  cases asked
  refine ⟨⟨Stage.rests_of_allows allows, fun gone => ?_⟩, rfl⟩
  rw [gone] at allows
  cases allows

theorem next_answered {frame : Frame} (h : (conversations H login).next
    (Function.update m t.socket (.asked tag)) (.answered t frame) = some m') :
    m' = Function.update m t.socket (heard H.serde login tag frame) := by
  have own : Event.socket? (.answered t frame) = some t.socket := rfl
  rw [conversations, Monitor.each_next_keyed own, Function.update_self] at h
  cases h
  exact Function.update_idem ..

theorem run_wrote {es : List Event}
    (h : (conversations H login).run m (.wrote t tag payload :: es) = some m') :
    (m t.socket).Sound ∧
      (conversations H login).run (Function.update m t.socket (.asked tag)) es = some m' := by
  obtain ⟨m₁, next, after⟩ := Option.bind_eq_some_iff.mp h
  obtain ⟨here, rfl⟩ := next_wrote next
  exact ⟨here, after⟩

theorem run_replied {frame : Frame} {es : List Event} (h : (conversations H login).run m
    (.wrote t tag payload :: .answered t frame :: es) = some m') :
    (m t.socket).Sound ∧ (conversations H login).run
      (Function.update m t.socket (heard H.serde login tag frame)) es = some m' := by
  obtain ⟨here, awaited⟩ := run_wrote h
  obtain ⟨m₁, next, after⟩ := Option.bind_eq_some_iff.mp awaited
  cases next_answered next
  exact ⟨here, after⟩

theorem sound_update {st : Stage} {k : Socket} (here : (m t.socket).Sound)
    (sound : (Function.update m t.socket st k).Sound) : (m k).Sound := by
  by_cases own : k = t.socket
  · rwa [own]
  · rwa [Function.update_of_ne own] at sound

theorem sound_run (es : List Event) (pairs : Event.paired none es = true)
    (allowed : (conversations H login).run m es = some m') {k : Socket} (sound : (m' k).Sound) :
    (m k).Sound := by
  revert m
  refine paired_induction (motive := fun es => ∀ {m}, (conversations H login).run m es = some m' →
    (m k).Sound) ?_ ?_ ?_ ?_ es pairs
  · rintro m ⟨⟩
    exact sound
  · intro e es written read ih m allowed
    obtain ⟨m₁, next, after⟩ := Option.bind_eq_some_iff.mp allowed
    exact sound_before written read next (ih after)
  · intro t tag payload es _ ih m allowed
    obtain ⟨here, after⟩ := run_wrote allowed
    exact sound_update here (ih after)
  · intro t tag payload frame es _ ih m allowed
    obtain ⟨here, after⟩ := run_replied allowed
    exact sound_update here (ih after)

theorem lost_grows {later all : List Socket} {st : Stage} (nodup : later.Nodup)
    (spent : ∀ k ∈ later, (Function.update m t.socket st k).Sound ∧ ¬(m' k).Sound)
    (here : (m t.socket).Sound)
    (stays : (m' t.socket).Sound → (Function.update m t.socket st t.socket).Sound)
    (grown : all = later ∨ all = t.socket :: later ∧ ¬st.Sound) :
    all.Nodup ∧ ∀ k ∈ all, (m k).Sound ∧ ¬(m' k).Sound := by
  have before : ∀ k ∈ later, (m k).Sound ∧ ¬(m' k).Sound := fun k hk =>
    ⟨sound_update here (spent k hk).1, (spent k hk).2⟩
  rw [Function.update_self] at stays
  rcases grown with rfl | ⟨rfl, ended⟩
  · exact ⟨nodup, before⟩
  · refine ⟨List.nodup_cons.mpr ⟨fun hk => ?_, nodup⟩,
      List.forall_mem_cons.mpr ⟨⟨here, mt stays ended⟩, before⟩⟩
    have sound := (spent _ hk).1
    rw [Function.update_self] at sound
    exact ended sound

theorem lost_run (es : List Event) (pairs : Event.paired none es = true)
    (allowed : (conversations H login).run m es = some m') :
    (lost H es).Nodup ∧ ∀ k ∈ lost H es, (m k).Sound ∧ ¬(m' k).Sound := by
  revert m
  refine paired_induction (motive := fun es => ∀ {m}, (conversations H login).run m es = some m' →
    (lost H es).Nodup ∧ ∀ k ∈ lost H es, (m k).Sound ∧ ¬(m' k).Sound) ?_ ?_ ?_ ?_ es pairs
  · exact fun _ => ⟨List.nodup_nil, fun k hk => absurd hk List.not_mem_nil⟩
  · intro e es written read ih m allowed
    obtain ⟨m₁, next, after⟩ := Option.bind_eq_some_iff.mp allowed
    obtain ⟨nodup, spent⟩ := ih after
    have unasked : e.isRequest = false := by
      cases e with
      | wrote t tag payload => exact absurd rfl (written t tag payload)
      | _ => rfl
    rw [lost_unasked unasked]
    exact ⟨nodup, fun k hk => ⟨sound_before written read next (spent k hk).1, (spent k hk).2⟩⟩
  · intro t tag payload es pairs ih m allowed
    obtain ⟨here, after⟩ := run_wrote allowed
    obtain ⟨nodup, spent⟩ := ih after
    refine lost_grows nodup spent here (sound_run es pairs after) ?_
    refine (lost_wrote t tag payload es).imp_right fun ⟨grown, _, _⟩ => ⟨grown, fun sound => ?_⟩
    exact Bool.false_ne_true sound.1
  · intro t tag payload frame es pairs ih m allowed
    obtain ⟨here, after⟩ := run_replied allowed
    obtain ⟨nodup, spent⟩ := ih after
    refine lost_grows nodup spent here (sound_run es pairs after) ?_
    have read : lost H (.answered t frame :: es) = lost H es := lost_unasked rfl es
    rw [← read]
    refine (lost_wrote t tag payload _).imp_right fun ⟨grown, request, garbled⟩ => ⟨grown, ?_⟩
    subst request
    rw [heard_garbled garbled]
    exact fun sound => Bool.false_ne_true sound.1

end

end Ledger

end

/-! ## Servers -/

section

variable {ω σ : Type} {H : Host ω}

/-- What a server does at a request, by its reply. One that is sent elsewhere is done nowhere, and a
reply that is none leaves the request open. -/
inductive Dealt (O : Remote.Object Ask Verdict σ) (q : Ask) :
    Option (Except Error Response) → Site Ask σ → Site Ask σ → Prop
  | decided {w w' : Site Ask σ} {s s' : σ} {adrift : List Ask} {reply : Except Error Response}
    (here : redirects reply = false) (before : Drifts O w ⟨s, adrift⟩) (done : O.does q s reply s')
    (after : Drifts O ⟨s', adrift⟩ w') : Dealt O q (some reply) w w'
  | redirected {w w' : Site Ask σ} {reply : Except Error Response}
    (elsewhere : redirects reply = true) (drifts : Drifts O w w') : Dealt O q (some reply) w w'
  | garbled {w w' : Site Ask σ} (drifts : Drifts O ⟨w.state, q :: w.adrift⟩ w') :
    Dealt O q none w w'

/-- A server, or a cluster of them, that keeps something for its clients. What a session is on a
connection is part of what is kept. -/
structure Keeper (H : Host ω) (σ : Type) where
  object : Remote.Object Ask Verdict σ
  site : ω → Site Ask σ
  backdrop : Backdrop H fun w w' => Drifts object (site w) (site w')
  unsent : ∀ {t payload w w' e}, H.send t .request payload w = (.error e, w') →
    Drifts object ⟨(site w).state, ⟨t, payload⟩ :: (site w).adrift⟩ (site w')
  unanswered : ∀ {t payload w w₁ w' e}, H.send t .request payload w = (.ok (), w₁) →
    H.recv t w₁ = (.error e, w') →
      Drifts object ⟨(site w).state, ⟨t, payload⟩ :: (site w).adrift⟩ (site w')
  treats : ∀ {t payload w w₁ w' frame}, H.send t .request payload w = (.ok (), w₁) →
    H.recv t w₁ = (.ok frame, w') →
      Dealt object ⟨t, payload⟩ (replyOf H frame) (site w) (site w')

namespace Keeper

variable (K : Keeper H σ)

/-- The path along which the ledger accounts for what the server does. -/
def path : Path (Client × Process ω) Event where
  rel s es s' :=
    Traffic K.object (K.site s.2.world) (Ledger.answers H es) (Ledger.doubts H es)
      (K.site s'.2.world) ∧ Event.paired none es = true
  refl _ := ⟨.drifts .refl, rfl⟩
  trans h h' := by
    refine ⟨?_, Event.paired_append h.2 h'.2⟩
    rw [Ledger.answers_append h'.2, Ledger.doubts_append h'.2]
    exact h.1.trans h'.1

theorem hushed {w w' : ω} {es : List Event} (h : Drifts K.object (K.site w) (K.site w'))
    (unasked : Hushed es) :
    Traffic K.object (K.site w) (Ledger.answers H es) (Ledger.doubts H es) (K.site w') := by
  rw [Ledger.answers_hushed unasked, Ledger.doubts_hushed unasked]
  exact .drifts h

theorem respects_of {α : Type} {m : Method ω α} (h : K.backdrop.path.Respects m) : K.path.Respects m :=
  fun s => ⟨K.hushed (h s).1 (h s).2, (h s).2.paired⟩

theorem parted {c : Client} {payload : Option Value} {w w' : ω}
    (h : Drifts K.object ⟨(K.site w).state, ⟨c.transport, payload⟩ :: (K.site w).adrift⟩ (K.site w')) :
    Traffic K.object (K.site w)
      (Ledger.answers H [.wrote c.transport .request payload, .shutdown c.transport.socket])
      (Ledger.doubts H [.wrote c.transport .request payload, .shutdown c.transport.socket])
      (K.site (H.shutdown c.transport.socket w')) :=
  .left (h.trans (K.backdrop.shutdown c.transport.socket w'))

theorem answered {t : Transport} {payload : Option Value} {frame : Frame} {w w' : ω}
    (h : Dealt K.object ⟨t, payload⟩ (replyOf H frame) (K.site w) (K.site w')) :
    Traffic K.object (K.site w) (Ledger.answers H [.wrote t .request payload, .answered t frame])
      (Ledger.doubts H [.wrote t .request payload, .answered t frame]) (K.site w') := by
  have read : Ledger.entries H [.wrote t .request payload, .answered t frame] =
      [(⟨t, payload⟩, replyOf H frame)] := rfl
  rw [Ledger.answers, Ledger.doubts, read]
  generalize replyOf H frame = reply at h
  cases h with
  | decided here before done after =>
    rw [List.filterMap_cons_some (Ledger.decided_here here)]
    exact .answered before done after
  | redirected elsewhere drifts =>
    rw [List.filterMap_cons_none (Ledger.decided_elsewhere elsewhere)]
    exact .drifts drifts
  | garbled drifts => exact .left drifts

theorem exchange (tag : Tag) (payload : Option Value) :
    K.path.Respects (TricoreSdk.exchange H tag payload) := by
  by_cases asks : tag = .request
  · subst asks
    rintro ⟨c, p⟩
    have hx := exchanged H .request payload c p
    generalize TricoreSdk.exchange H .request payload (c, p) = r at hx ⊢
    cases hx with
    | faulted | closed | tooLarge => exact K.path.refl _
    | writeFailed live bytes he e w hw => exact ⟨K.parted (K.unsent hw), rfl⟩
    | readFailed live bytes he e w w' hw hr => exact ⟨K.parted (K.unanswered hw hr), rfl⟩
    | answered live bytes he frame w w' hw hr =>
      exact ⟨K.answered (K.treats hw hr), by simp [Event.paired]⟩
  · exact K.respects_of (K.backdrop.exchange asks payload)

theorem callPath : CallPath H K.path where
  exchange := K.exchange
  poison e := K.respects_of (K.backdrop.poison e)
  moveTo address := K.respects_of (K.backdrop.moveTo address)
  paused delay := K.respects_of (K.backdrop.paused delay)
  update _ := K.respects_of (K.backdrop.update _)
  setReadTimeout timeout := K.respects_of (K.backdrop.setUp.setReadTimeout timeout)
  withTxnOpen isOpen := K.respects_of (K.backdrop.update (Client.withTxnOpen isOpen))

end Keeper

end

end TricoreSdk
