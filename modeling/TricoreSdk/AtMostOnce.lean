import TricoreSdk.Call

/-! Following the leader (`send_in`): however many nodes a request visits, at
most the last copy of it was applied. -/

namespace TricoreSdk
open Effects Path

/-- One copy of a request: where it was written, what was written, and the
answer that came back, when one did. -/
structure Copy where
  transport : Transport
  payload : Option Value
  answer : Option Frame

def Event.request? : Event → Option (Transport × Option Value)
  | .wrote transport .request payload => some (transport, payload)
  | _ => none

/-- The answer read right after a copy was written. -/
def answerTo (transport : Transport) : List Event → Option Frame
  | .answered transport' frame :: _ => if transport' = transport then some frame else none
  | _ => none

def copies : List Event → List Copy
  | [] => []
  | e :: es =>
    match e.request? with
    | some (transport, payload) => ⟨transport, payload, answerTo transport es⟩ :: copies es
    | none => copies es

@[simp] theorem copies_nil : copies [] = [] := rfl

@[simp] theorem copies_wrote_request (transport : Transport) (payload : Option Value)
    (es : List Event) :
    copies (.wrote transport .request payload :: es) =
      ⟨transport, payload, answerTo transport es⟩ :: copies es := rfl

@[simp] theorem copies_answered (transport : Transport) (frame : Frame) (es : List Event) :
    copies (.answered transport frame :: es) = copies es := rfl

@[simp] theorem copies_shutdown (socket : Socket) (es : List Event) :
    copies (.shutdown socket :: es) = copies es := rfl

theorem copies_cons {e : Event} (h : e.request? = none) (es : List Event) :
    copies (e :: es) = copies es := by
  simp [copies, h]

theorem copies_append {es : List Event} (h : ∀ e ∈ es, e.request? = none) (fs : List Event) :
    copies (es ++ fs) = copies fs := by
  induction es with
  | nil => rfl
  | cons e es ih =>
    rw [List.cons_append, copies_cons (h e List.mem_cons_self), ih fun x hx => h x (.tail _ hx)]

section

variable {ω : Type} (H : Host ω)

/-- The answer says `not_leader`. -/
def Copy.Redirected (x : Copy) : Prop :=
  ∃ frame e, x.answer = some frame ∧ replyOf H frame = some (.error e) ∧ e.isRedirect = true

/-- The answer says `ok`. -/
def Copy.Succeeded (x : Copy) (r : Response) : Prop :=
  ∃ frame, x.answer = some frame ∧ replyOf H frame = some (.ok r)

/-- Whether the node that got a copy applied it: never when it answers
`not_leader`, always when it answers `ok`, either way when it answers anything
else or the answer is lost. -/
structure Handled (x : Copy) (applied : Bool) : Prop where
  redirected : x.Redirected H → applied = false
  succeeded : ∀ r, x.Succeeded H r → applied = true

/-! ## One attempt -/

variable {H}

theorem Event.IsSetUp.request? {e : Event} (h : e.IsSetUp) : e.request? = none := by
  rcases e with _ | _ | _ | _ | ⟨_, tag, _⟩ | _ | _ | _ | _ | _
  case wrote => rcases h with rfl | rfl | rfl <;> rfl
  all_goals rfl

theorem followHint_spec (hint : Option String) (c : Client) (p : Process ω) :
    ∃ moved c' p' es, followHint H hint (c, p) = ⟨.returned moved, (c', p'), es⟩ ∧
      (∀ e ∈ es, e.request? = none) ∧ c'.options = c.options ∧ c'.txnOpen = c.txnOpen := by
  have hf := hintFollowed (H := H) hint c p
  generalize followHint H hint (c, p) = r at hf
  cases hf with
  | stayed p' es set => exact ⟨_, _, _, _, rfl, fun x hx => (set x hx).request?, rfl, rfl⟩
  | moved options address fresh p' es set run =>
    refine ⟨_, _, _, _, rfl, fun x hx => ?_, rfl, rfl⟩
    rcases List.mem_append.mp hx with hx | hx
    · exact (set x hx).request?
    · rcases List.mem_pair.mp hx with rfl | rfl <;> rfl

theorem sendOnce_copies (envelope : Value) (c : Client) (p : Process ω) :
    (copies (sendOnce H envelope (c, p)).events).length ≤ 1 ∧
    (∀ x ∈ copies (sendOnce H envelope (c, p)).events, x.payload = some envelope) ∧
    (sendOnce H envelope (c, p)).outcome ≠ .panicked ∧
    (∀ r, (sendOnce H envelope (c, p)).outcome = .returned r →
      ∃ x, copies (sendOnce H envelope (c, p)).events = [x] ∧ x.Succeeded H r) := by
  have hs := sentOnce H envelope c p
  generalize sendOnce H envelope (c, p) = r at hs
  cases hs with
  | dead e he => exact ⟨Nat.zero_le _, by simp, nofun, nofun⟩
  | tooLarge live e he => exact ⟨Nat.zero_le _, by simp, nofun, nofun⟩
  | broken live bytes he e w hw => exact ⟨Nat.le_refl _, by simp, nofun, nofun⟩
  | misanswered live bytes he frame w w' hw hr hf e hk =>
    exact ⟨Nat.le_refl _, by simp, nofun, nofun⟩
  | replied live bytes he frame w w' hw hr reply hf =>
    refine ⟨Nat.le_refl _, by simp, by cases reply <;> nofun, fun r h => ?_⟩
    obtain rfl : reply = .ok r := by cases reply <;> simp_all
    exact ⟨_, rfl, frame, by simp [answerTo], hf⟩

/-! ## The loop -/

theorem nextPause_double {pause next : Duration} (h : nextPause pause = some next) :
    next.double ≠ none := by
  have bound : next.nanos ≤ maxLeaderRetryDelay.nanos := by
    obtain ⟨d, -, rfl⟩ := Option.map_eq_some_iff.mp h
    unfold Duration.clamp
    split
    · decide
    · split
      · exact Nat.le_refl _
      · omega
  have : next.nanos * 2 ≤ maxNanos := by
    simp only [maxLeaderRetryDelay, Duration.fromMillis, maxNanos] at bound ⊢
    omega
  simp [Duration.double, this]

variable (H) in
/-- What one run of the loop can have sent. -/
structure Sends (envelope : Value) (c : Client) (left : Nat) (pause : Duration)
    (r : Execution (Client × Process ω) Error Event Response) : Prop where
  bounded : (copies r.events).length ≤ left + 1
  same : ∀ x ∈ copies r.events, x.payload = some envelope
  refused : ∀ x ∈ (copies r.events).dropLast, x.Redirected H
  following : 1 < (copies r.events).length → c.options.followLeader = true ∧ c.txnOpen = false
  succeeded : ∀ a, r.outcome = .returned a →
    ∃ x, (copies r.events).getLast? = some x ∧ x.Succeeded H a
  panics : r.outcome = .panicked → pause.double = none

theorem Sends.cons {envelope : Value} {c c' : Client} {left : Nat} {pause pause' : Duration}
    {x : Copy} {es fs : List Event} {r : Execution (Client × Process ω) Error Event Response}
    (h : Sends H envelope c' left pause' r) (hx : x.payload = some envelope)
    (redirected : x.Redirected H) (hes : copies es = [x])
    (happ : copies (es ++ fs ++ r.events) = copies es ++ copies r.events)
    (follow : c.options.followLeader = true ∧ c.txnOpen = false)
    (hp : pause'.double = none → pause.double = none) :
    Sends H envelope c (left + 1) pause (r.after (es ++ fs)) := by
  have split : copies (r.after (es ++ fs)).events = x :: copies r.events := by
    rw [Execution.after_events, happ, hes]
    rfl
  constructor
  · rw [split, List.length_cons]
    have := h.bounded
    omega
  · rw [split]
    intro y hy
    rcases List.mem_cons.mp hy with rfl | hy
    · exact hx
    · exact h.same y hy
  · rw [split]
    intro y hy
    cases hc : copies r.events with
    | nil => simp [hc] at hy
    | cons z zs =>
      rw [hc, List.dropLast_cons_cons] at hy
      rcases List.mem_cons.mp hy with rfl | hy
      · exact redirected
      · exact h.refused y (hc ▸ hy)
  · exact fun _ => follow
  · intro a ha
    obtain ⟨y, hy, hs⟩ := h.succeeded a ha
    refine ⟨y, ?_, hs⟩
    rw [split, List.getLast?_cons, hy]
    rfl
  · exact fun ho => hp (h.panics ho)

theorem Sends.last (envelope : Value) (c : Client) (p : Process ω) (left : Nat)
    (pause : Duration) (o : Outcome Error Response) (ho : o ≠ .panicked)
    (hr : ∀ a, o = .returned a → (sendOnce H envelope (c, p)).outcome = .returned a) :
    Sends H envelope c left pause
      ⟨o, (sendOnce H envelope (c, p)).state, (sendOnce H envelope (c, p)).events⟩ := by
  obtain ⟨one, same, -, returned⟩ := sendOnce_copies (H := H) envelope c p
  refine ⟨by simp only; omega, same, ?_, fun h => by simp only at h; omega, ?_, fun h => absurd h ho⟩
  · intro x hx
    have : (copies (sendOnce H envelope (c, p)).events).dropLast = [] :=
      List.eq_nil_of_length_eq_zero (by rw [List.length_dropLast]; omega)
    simp [this] at hx
  · intro a ha
    obtain ⟨x, hx, hs⟩ := returned a (hr a ha)
    exact ⟨x, by simp [hx], hs⟩

theorem sendLoop_sends (envelope : Value) (left retried : Nat) (pause : Duration) (c : Client)
    (p : Process ω) :
    Sends H envelope c left pause (sendLoop H envelope left retried pause (c, p)) := by
  induction left using Nat.strong_induction_on generalizing retried pause c p with
  | _ left ih =>
    have hround := sendLoop_round (H := H) envelope left retried pause c p
    generalize sendLoop H envelope left retried pause (c, p) = r at hround ⊢
    cases hround with
    | last o o' s es run ends =>
      have last := Sends.last (H := H) envelope c p left pause o'
      have returns := (sendOnce_yields H envelope).ne_panicked (c, p)
      rw [run] at last returns
      cases ends with
      | kept _ h => exact last returns fun a ha => ha
      | gaveUp e h => exact last (by simp) (by simp)
    | again left' hl follow txn e redirect frame w reply run moved s fs hint =>
      subst hl
      obtain ⟨_, c', p', fs', hint', quiet, hopts, htxn⟩ :=
        followHint_spec (H := H) e.leaderHint c { p with world := w }
      obtain ⟨⟨rfl⟩, rfl, rfl⟩ := Execution.mk.inj (hint'.symm.trans hint)
      let x : Copy := ⟨c.transport, some envelope, some frame⟩
      have redirected : x.Redirected H := ⟨frame, e, rfl, reply, redirect⟩
      have first : copies [.wrote c.transport .request (some envelope),
          .answered c.transport frame] = [x] := by simp [answerTo, x]
      -- The copy stands in front of whatever comes after a move or a pause.
      have resend (pause' : Duration) (es : List Event) {r} (hr : Sends H envelope c' left' pause' r)
          (hes : ∀ y ∈ es, y.request? = none) (hp : pause'.double = none → pause.double = none) :
          Sends H envelope c (left' + 1) pause (r.after
            ([.wrote c.transport .request (some envelope), .answered c.transport frame] ++ es)) := by
        refine hr.cons rfl redirected first ?_ ⟨follow, txn⟩ hp
        simp [copies_append hes, answerTo]
      have rest := ih left' (Nat.lt_succ_self _) (retried + 1)
      cases moved with
      | true => exact resend pause fs' (rest pause c' p') quiet id
      | false =>
        have paused : ∀ y ∈ fs' ++ [.paused pause], y.request? = none := by
          intro y hy
          rcases List.mem_append.mp hy with hy | hy
          · exact quiet y hy
          · rw [List.mem_singleton.mp hy]
            rfl
        cases hp : nextPause pause with
        | some next =>
          have := resend next _ (rest next c' p') paused fun hn => absurd hn (nextPause_double hp)
          simpa [sendAgain, hp, Execution.after_after] using this
        | none =>
          have overflow : pause.double = none := Option.map_eq_none_iff.mp hp
          have stop : Sends H envelope c' left' pause ⟨.panicked, (c', p'), []⟩ :=
            ⟨by simp, by simp, by simp, by simp, by simp, fun _ => overflow⟩
          simpa [sendAgain, hp, Execution.after] using resend pause _ stop paused id

/-! ## The whole call -/

theorem count_applied {cs : List Copy} {applied : List Bool}
    (h : List.Forall₂ (Handled H) cs applied) (refused : ∀ x ∈ cs.dropLast, x.Redirected H) :
    applied.count true ≤ 1 ∧
      ∀ x r, cs.getLast? = some x → x.Succeeded H r → applied.count true = 1 := by
  induction h with
  | nil => simp
  | @cons x b cs applied hx hrest ih =>
    cases hrest with
    | nil =>
      refine ⟨by cases b <;> simp, ?_⟩
      rintro y r hy hs
      obtain rfl : x = y := by simpa using hy
      simp [hx.succeeded r hs]
    | @cons y b' cs applied hy hrest =>
      have hb : b = false := hx.redirected (refused x (by simp))
      have tail : ∀ z ∈ (y :: cs).dropLast, z.Redirected H :=
        fun z hz => refused z (by rw [List.dropLast_cons_cons]; exact .tail _ hz)
      obtain ⟨one, last⟩ := ih tail
      rw [hb]
      refine ⟨by simpa using one, fun z r hz hs => ?_⟩
      have : (y :: cs).getLast? = some z := by simpa [List.getLast?_cons] using hz
      simpa using last z r this hs

variable (H) in
/-- A call that applies its request at most once, over all the nodes its copies
reach: `c` is the client that makes it, `envelope` what it sends. -/
structure AppliesAtMostOnce (c : Client) (envelope : Value)
    (r : Execution (Client × Process ω) Error Event Response) : Prop where
  bounded : (copies r.events).length ≤ c.options.leaderRetries.toNat + 1
  same : ∀ x ∈ copies r.events, x.payload = some envelope
  named : ∃ id, envelope.get "request_id" = some (.string id)
  /-- Every copy that is sent again was answered `not_leader`. -/
  refused : ∀ x ∈ (copies r.events).dropLast, x.Redirected H
  following : 1 < (copies r.events).length → c.options.followLeader = true ∧ c.txnOpen = false
  once : ∀ applied, List.Forall₂ (Handled H) (copies r.events) applied → applied.count true ≤ 1
  applied : ∀ a, r.outcome = .returned a → ∀ applied,
    List.Forall₂ (Handled H) (copies r.events) applied → applied.count true = 1
  /-- The call ends by returning or failing, unless its first pause is too long to double. -/
  ends : r.outcome = .panicked → c.options.leaderRetryDelay.double = none

theorem Sends.appliesAtMostOnce {c c' : Client} {envelope : Value}
    {r : Execution (Client × Process ω) Error Event Response}
    (h : Sends H envelope c' c.options.leaderRetries.toNat c.options.leaderRetryDelay r)
    (named : ∃ id, envelope.get "request_id" = some (.string id))
    (ho : c'.options = c.options) (ht : c'.txnOpen = c.txnOpen) :
    AppliesAtMostOnce H c envelope r where
  bounded := h.bounded
  same := h.same
  named := named
  refused := h.refused
  following := fun hc => ho ▸ ht ▸ h.following hc
  once := fun _ happ => (count_applied happ h.refused).1
  applied := fun a ha _ happ =>
    have ⟨x, hx, hs⟩ := h.succeeded a ha
    (count_applied happ h.refused).2 x a hx hs
  ends := h.panics

end

/-- Following the leader applies a request at most once: a document or graph
call that names its transaction, or any other. -/
theorem send_appliesAtMostOnce {ω : Type} (H : Host ω) (c : Client) (p : Process ω) (op : Value) :
    AppliesAtMostOnce H c (c.envelope op c.requestTxn) (send H op (c, p)) ∧
      ∀ txn, AppliesAtMostOnce H c (c.envelope op txn) (sendIn H op txn (c, p)) := by
  have sendIn (txn : Option String) :
      AppliesAtMostOnce H c (c.envelope op txn) (sendIn H op txn (c, p)) := by
    rw [sendIn_apply]
    exact (sendLoop_sends (c.envelope op txn) _ 0 _ c.numbered p).appliesAtMostOnce
      ⟨_, envelopeOf_requestId ..⟩ rfl rfl
  exact ⟨sendIn c.requestTxn, sendIn⟩

end TricoreSdk
