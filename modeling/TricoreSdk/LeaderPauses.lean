import TricoreSdk.AtMostOnce
import TricoreSdk.Scripted

/-! How long a request takes to find the leader (`send_in`, `move_to`): its pauses and
the bounds of the connections it tries. -/

namespace TricoreSdk
open Effects Path

structure LeaderPolicy where
  followLeader : Bool
  leaderRetries : UInt32
  leaderRetryDelay : Duration
  connectTimeout : Option Duration

def Options.leaderPolicy (o : Options) : LeaderPolicy :=
  ⟨o.followLeader, o.leaderRetries, o.leaderRetryDelay, o.connectTimeout⟩

def Event.pause? : Event → Option Duration
  | .paused delay => some delay
  | _ => none

def pauses (es : List Event) : List Duration := es.filterMap Event.pause?

@[simp] theorem pauses_nil : pauses [] = [] := rfl

@[simp] theorem pauses_paused (delay : Duration) (es : List Event) :
    pauses (.paused delay :: es) = delay :: pauses es := rfl

@[simp] theorem pauses_append (es fs : List Event) : pauses (es ++ fs) = pauses es ++ pauses fs :=
  List.filterMap_append

/-- A connect attempt has a bound in force, and no longer one than following the leader allows. -/
def Event.InTime : Event → Prop
  | .dialing _ bound => ∃ d, bound = some d ∧ 0 < d.nanos ∧ d.nanos ≤ followConnectTimeout.nanos
  | _ => True

/-- The time bounds on following the leader. -/
structure Prompt (es : List Event) : Prop where
  short : ∀ delay ∈ pauses es, delay.nanos ≤ maxLeaderRetryDelay.nanos
  rising : (pauses es).Pairwise (·.nanos ≤ ·.nanos)
  dials : ∀ e ∈ es, e.InTime

structure LeaderPolicy.Keeps (policy : LeaderPolicy) : Prop where
  delay : policy.leaderRetryDelay.nanos ≤ maxLeaderRetryDelay.nanos
  timeout : ∀ t, policy.connectTimeout = some t → 0 < t.nanos

/-! ## The bound of a connect attempt -/

theorem inTime_of_dialsUnder {o : Options} (keeps : o.leaderPolicy.Keeps) {host : String}
    {port : UInt16} {e : Event}
    (h : e.DialsUnder (Duration.nonZero (followOptions o host port).connectTimeout)) :
    e.InTime := by
  cases e with
  | dialing address bound =>
    obtain ⟨t, set, positive, short⟩ : ∃ t, (followOptions o host port).connectTimeout = some t ∧
        0 < t.nanos ∧ t.nanos ≤ followConnectTimeout.nanos := by
      cases ht : o.connectTimeout with
      | none => exact ⟨followConnectTimeout, by simp [followOptions, ht], by decide, Nat.le_refl _⟩
      | some t =>
        refine ⟨t.min followConnectTimeout, by simp [followOptions, ht], ?_, ?_⟩
        · unfold Duration.min
          split
          · exact keeps.timeout t ht
          · decide
        · unfold Duration.min
          split
          · assumption
          · exact Nat.le_refl _
    obtain rfl : bound = Duration.nonZero (some t) := set ▸ h
    refine ⟨t, ?_, positive, short⟩
    simp [Duration.nonZero, Duration.isZero, Option.filter_some, Nat.ne_of_gt positive]
  | _ => trivial

section

variable {ω : Type} {H : Host ω}

theorem Event.IsSetUp.pause? {e : Event} (h : e.IsSetUp) : e.pause? = none := by
  cases e <;> first | rfl | exact h.elim

theorem pauses_of_isSetUp {es : List Event} (h : ∀ e ∈ es, e.IsSetUp) : pauses es = [] :=
  List.filterMap_eq_nil_iff.mpr fun e he => (h e he).pause?

theorem followHint_prompt {c : Client} (keeps : c.options.leaderPolicy.Keeps)
    (hint : Option String) (p : Process ω) :
    pauses (followHint H hint (c, p)).events = [] ∧
      ∀ e ∈ (followHint H hint (c, p)).events, e.InTime := by
  have hinted := hinting (H := H) hint (c, p)
  generalize followHint H hint (c, p) = r at hinted ⊢
  cases hinted with
  | stays => exact ⟨rfl, fun _ he => absurd he List.not_mem_nil⟩
  | moves address =>
    have hm := moving (H := H) address c p
    have opens (host : String) (port : UInt16) :=
      connect_dialsUnder (H := H) (followOptions c.options host port) p
    generalize moveTo H address (c, p) = r at hm
    cases hm with
    | unreadable _ => exact ⟨rfl, fun _ he => absurd he List.not_mem_nil⟩
    | stayed host port _ e p' es hc =>
      have opened := opens host port
      rw [hc] at opened
      exact ⟨pauses_of_isSetUp fun e he => (opened e he).isSetUp,
        fun e he => inTime_of_dialsUnder keeps (opened e he)⟩
    | moved host port _ fresh p' es hc =>
      have opened := opens host port
      rw [hc] at opened
      constructor
      · rw [pauses_append, pauses_of_isSetUp fun e he => (opened e he).isSetUp]
        rfl
      · intro e he
        rcases List.mem_append.mp he with he | he
        · exact inTime_of_dialsUnder keeps (opened e he)
        · rcases List.mem_pair.mp he with rfl | rfl <;> trivial

theorem sendOnce_prompt (envelope : Value) (c : Client) (p : Process ω) :
    pauses (sendOnce H envelope (c, p)).events = [] ∧
      ∀ e ∈ (sendOnce H envelope (c, p)).events, e.InTime := by
  have hs := sentOnce H envelope c p
  generalize sendOnce H envelope (c, p) = r at hs
  cases hs <;> simp [pauses, Event.pause?, Event.InTime]

/-! ## The pauses of the loop -/

theorem nextPause_rises {pause next : Duration} (h : nextPause pause = some next)
    (short : pause.nanos ≤ maxLeaderRetryDelay.nanos) :
    pause.nanos ≤ next.nanos ∧ next.nanos ≤ maxLeaderRetryDelay.nanos := by
  obtain ⟨d, double, rfl⟩ := Option.map_eq_some_iff.mp h
  have doubled : d.nanos = pause.nanos * 2 := by
    unfold Duration.double at double
    split at double
    · cases double
      rfl
    · cases double
  have low : (Duration.fromMillis 1).nanos ≤ maxLeaderRetryDelay.nanos := by decide
  unfold Duration.clamp
  split
  · omega
  · split <;> omega

/-- What the loop emits from a pause on: its pauses go up from there. -/
structure PromptFrom (pause : Duration) (es : List Event) : Prop extends Prompt es where
  from_ : ∀ delay ∈ pauses es, pause.nanos ≤ delay.nanos

theorem PromptFrom.quiet {pause : Duration} {es : List Event} (silent : pauses es = [])
    (dials : ∀ e ∈ es, e.InTime) : PromptFrom pause es where
  short := by simp [silent]
  rising := by simp [silent]
  dials := dials
  from_ := by simp [silent]

theorem PromptFrom.after {pause : Duration} {es fs : List Event} (silent : pauses es = [])
    (dials : ∀ e ∈ es, e.InTime) (h : PromptFrom pause fs) : PromptFrom pause (es ++ fs) := by
  have same : pauses (es ++ fs) = pauses fs := by rw [pauses_append, silent, List.nil_append]
  exact
    { short := same ▸ h.short
      rising := same ▸ h.rising
      dials := fun e he => (List.mem_append.mp he).elim (dials e) (h.dials e)
      from_ := same ▸ h.from_ }

theorem PromptFrom.paused {pause next : Duration} {es : List Event}
    (short : pause.nanos ≤ maxLeaderRetryDelay.nanos) (rises : pause.nanos ≤ next.nanos)
    (h : PromptFrom next es) : PromptFrom pause (.paused pause :: es) where
  short := List.forall_mem_cons.mpr ⟨short, h.short⟩
  rising := List.pairwise_cons.mpr ⟨fun d hd => Nat.le_trans rises (h.from_ d hd), h.rising⟩
  dials := List.forall_mem_cons.mpr ⟨trivial, h.dials⟩
  from_ := List.forall_mem_cons.mpr
    ⟨Nat.le_refl _, fun d hd => Nat.le_trans rises (h.from_ d hd)⟩

theorem sendLoop_prompt (envelope : Value) (left retried : Nat) {pause : Duration} {c : Client}
    (keeps : c.options.leaderPolicy.Keeps) (short : pause.nanos ≤ maxLeaderRetryDelay.nanos)
    (p : Process ω) :
    PromptFrom pause (sendLoop H envelope left retried pause (c, p)).events := by
  induction left using Nat.strong_induction_on generalizing retried pause c p with
  | _ left ih =>
    have hround := sendLoop_round (H := H) envelope left retried pause c p
    generalize sendLoop H envelope left retried pause (c, p) = r at hround ⊢
    cases hround with
    | last o o' s es run ends =>
      obtain ⟨silent, dials⟩ := sendOnce_prompt (H := H) envelope c p
      rw [run] at silent dials
      exact .quiet silent dials
    | again left' hl follow txn e redirect frame w reply run moved s fs hint =>
      subst hl
      obtain ⟨silent, dials⟩ := followHint_prompt (H := H) keeps e.leaderHint { p with world := w }
      obtain ⟨_, c', p', fs', hint', -, sameOptions, -⟩ :=
        followHint_spec (H := H) e.leaderHint c { p with world := w }
      obtain ⟨⟨rfl⟩, rfl, rfl⟩ := Execution.mk.inj (hint'.symm.trans hint)
      rw [hint] at silent dials
      have keeps' : c'.options.leaderPolicy.Keeps := sameOptions ▸ keeps
      have rest (next : Duration) (within : next.nanos ≤ maxLeaderRetryDelay.nanos) :
          PromptFrom next (sendLoop H envelope left' (retried + 1) next (c', p')).events :=
        ih left' (Nat.lt_succ_self _) (retried + 1) keeps' within p'
      refine .after (by simpa [pauses, Event.pause?] using silent) ?_ ?_
      · intro x hx
        rcases List.mem_append.mp hx with hx | hx
        · rcases List.mem_pair.mp hx with rfl | rfl <;> trivial
        · exact dials x hx
      · cases moved with
        | true => exact rest pause short
        | false =>
          cases hn : nextPause pause with
          | none =>
            have ends : PromptFrom pause [] := .quiet rfl fun _ he => absurd he List.not_mem_nil
            simpa [sendAgain, hn] using ends.paused short (Nat.le_refl _)
          | some next =>
            obtain ⟨rises, within⟩ := nextPause_rises hn short
            simpa [sendAgain, hn] using (rest next within).paused short rises

theorem sendLoop_once (envelope : Value) {left : Nat} (retried : Nat) (pause : Duration)
    {c : Client} (p : Process ω) (stays : c.options.followLeader = false ∨ left = 0) :
    Prompt (sendLoop H envelope left retried pause (c, p)).events := by
  obtain ⟨o, -, run⟩ := sendLoop_stays (H := H) envelope retried pause p
    (stays.imp_right .inr)
  obtain ⟨silent, dials⟩ := sendOnce_prompt (H := H) envelope c p
  rw [run]
  exact PromptFrom.toPrompt (.quiet silent dials : PromptFrom pause _)

end

/-! ## A cluster without a leader -/

section

variable {ω : Type} {H : Host ω}

theorem connect_dials (options : Options) {p : Process ω} {address : String} {rest : List String}
    (resolved : (H.resolve options.host options.port p.world).1 = .ok (address :: rest)) :
    .dialing address (Duration.nonZero options.connectTimeout) ∈ (connect H options p).events := by
  refine Action.mem_bind_events ?_
  rcases h : H.resolve options.host options.port p.world with ⟨r, w⟩
  obtain rfl : r = .ok (address :: rest) := by rwa [h] at resolved
  have run : H.dial options.host options.port options.connectTimeout p =
      H.dialEach options.host options.port options.connectTimeout (address :: rest) ""
        { p with world := w } := by
    simp [Host.dial, h]
  rw [run, Host.dialEach]
  refine Action.mem_bind_events ?_
  exact Action.mem_bind_events List.mem_cons_self

theorem followHint_dials {c : Client} {p : Process ω} {hint host : String} {port : UInt16}
    {address : String} {rest : List String} (other : hint ≠ c.address)
    (names : splitAddress hint = some (host, port))
    (resolved : (H.resolve host port p.world).1 = .ok (address :: rest)) :
    .dialing address (Duration.nonZero (followOptions c.options host port).connectTimeout) ∈
      (followHint H (some hint) (c, p)).events := by
  have dialled := connect_dials (H := H) (followOptions c.options host port) resolved
  have hm := moving (H := H) hint c p
  rw [followHint_other other]
  generalize moveTo H hint (c, p) = r at hm
  cases hm with
  | unreadable unread => cases names.symm.trans unread
  | stayed host' port' read e p' es opened =>
    cases names.symm.trans read
    rw [opened] at dialled
    exact dialled
  | moved host' port' read fresh p' es opened =>
    cases names.symm.trans read
    rw [opened] at dialled
    exact List.mem_append_left _ dialled

end

/-- A server that answers every frame with `not_leader` and this hint. -/
def leaderless (hint : Option String) : Host Unit where
  serde := { scriptSerde with
    wireResponse := fun _ => .ok ⟨"", "error", Value.ofFields [("Message", .string "moved")],
      some ⟨none, none, [], some "not_leader", hint⟩⟩ }
  processId := 1
  clock w := (0, w)
  resolve host port w := (.ok [joinAddress host port], w)
  connect _ _ _ w := (.ok (), w)
  setReadTimeout _ _ w := (none, w)
  setWriteTimeout _ _ w := (none, w)
  loadRoots _ w := (.ok (), w)
  loadIdentity _ _ w := (.ok (), w)
  tlsHandshake _ _ _ w := (.ok (), w)
  send _ _ _ w := (.ok (), w)
  recv _ w := (.ok ⟨.response, []⟩, w)
  shutdown _ w := w

def LeaderPolicy.options (policy : LeaderPolicy) : Options :=
  { Options.default with
    followLeader := policy.followLeader
    leaderRetries := policy.leaderRetries
    leaderRetryDelay := policy.leaderRetryDelay
    connectTimeout := policy.connectTimeout }

def stray (options : Options) : Client := Client.granting 7 (newClient (.tcp 0) "100" options)

def strayProcess : Process Unit := ⟨1, 1, ()⟩

def elsewhere (hint : Option String) : Error where
  kind := .server
  code := some "not_leader"
  message := "moved"
  leaderHint := hint

/-- The request of a client with some policy: no part of the policy is in it. -/
def strayEnvelope : Value := session.envelope (.string "Ping") none

theorem strayEnvelope_fits (hint : Option String) :
    ((leaderless hint).body (some strayEnvelope)).length ≤ Tag.request.maxPayload := by
  have fits : (scripted.body (some strayEnvelope)).length ≤ Tag.request.maxPayload := by
    with_unfolding_all decide
  exact fits

theorem sendOnce_stray (policy : LeaderPolicy) (hint : Option String) :
    sendOnce (leaderless hint) strayEnvelope ((stray policy.options).numbered, strayProcess) =
      ⟨.failed (elsewhere hint), ((stray policy.options).numbered, strayProcess),
        [.wrote (.tcp 0) .request (some strayEnvelope), .answered (.tcp 0) ⟨.response, []⟩]⟩ := by
  have fault : (stray policy.options).numbered.fault = none := rfl
  have live : (stray policy.options).numbered.closed = false := rfl
  have sent : (stray policy.options).numbered.transport = .tcp 0 := rfl
  have written (v : Option Value) :
      (leaderless hint).send (.tcp 0) .request v () = (.ok (), ()) := rfl
  have answer : (leaderless hint).recv (.tcp 0) () = (.ok ⟨.response, []⟩, ()) := rfl
  have read : readResponse (leaderless hint) [] = .error (elsewhere hint) := rfl
  simp [sendOnce, exchange, fault, live, sent, encode_of_le (strayEnvelope_fits hint), read,
    Host.writeOn, Host.readOn, written, answer, strayProcess, Execution.after]

def strayRun (policy : LeaderPolicy) (hint : Option String) :
    Execution (Client × Process Unit) Error Event Response :=
  sendIn (leaderless hint) (.string "Ping") none (stray policy.options, strayProcess)

theorem strayRun_again {policy : LeaderPolicy} (follow : policy.followLeader = true)
    (retries : policy.leaderRetries ≠ 0) {hint : Option String} {moved : Bool}
    {s : Client × Process Unit} {fs : List Event}
    (followed : followHint (leaderless hint) hint ((stray policy.options).numbered, strayProcess) =
      ⟨.returned moved, s, fs⟩) :
    ∃ left, strayRun policy hint =
      (sendAgain (leaderless hint) strayEnvelope left 0 policy.leaderRetryDelay moved s).after
        ([.wrote (.tcp 0) .request (some strayEnvelope), .answered (.tcp 0) ⟨.response, []⟩] ++
          fs) := by
  have some_left : policy.leaderRetries.toNat ≠ 0 := fun zero => retries (UInt32.toNat_inj.mp zero)
  obtain ⟨left, hl⟩ := Nat.exists_eq_succ_of_ne_zero some_left
  have run : strayRun policy hint = sendLoop (leaderless hint) strayEnvelope
      policy.leaderRetries.toNat 0 policy.leaderRetryDelay
      ((stray policy.options).numbered, strayProcess) := rfl
  refine ⟨left, ?_⟩
  rw [run, hl, sendLoop_again rfl (sendOnce_stray policy hint) follow rfl followed]
  cases moved with
  | true => rfl
  | false =>
    cases hn : nextPause policy.leaderRetryDelay with
    | none => simp [sendAgain, hn, Execution.after]
    | some next => simp [sendAgain, hn, Execution.after_after]

theorem strayRun_pauses {policy : LeaderPolicy} (follow : policy.followLeader = true)
    (retries : policy.leaderRetries ≠ 0) :
    .paused policy.leaderRetryDelay ∈ (strayRun policy none).events ∧
      (policy.leaderRetryDelay.double = none → (strayRun policy none).outcome = .panicked) := by
  have stays : followHint (leaderless none) none ((stray policy.options).numbered, strayProcess) =
      ⟨.returned false, ((stray policy.options).numbered, strayProcess), []⟩ := rfl
  obtain ⟨left, run⟩ := strayRun_again follow retries stays
  rw [run]
  cases hn : nextPause policy.leaderRetryDelay with
  | none => exact ⟨by simp [sendAgain, hn], fun _ => by simp [sendAgain, hn]⟩
  | some next =>
    refine ⟨by simp [sendAgain, hn], fun long => ?_⟩
    rw [nextPause, long] at hn
    cases hn

theorem strayRun_dials {policy : LeaderPolicy} (follow : policy.followLeader = true)
    (retries : policy.leaderRetries ≠ 0) :
    .dialing "b:1" (Duration.nonZero (followOptions policy.options "b" 1).connectTimeout) ∈
      (strayRun policy (some "b:1")).events := by
  have away : "b:1" ≠ joinAddress policy.options.host policy.options.port := by
    with_unfolding_all exact (by decide : "b:1" ≠ joinAddress "127.0.0.1" 8427)
  have here : (stray policy.options).numbered.address =
      joinAddress policy.options.host policy.options.port := rfl
  have other : "b:1" ≠ (stray policy.options).numbered.address := by
    rw [here]
    exact away
  have names : splitAddress "b:1" = some ("b", 1) := by with_unfolding_all rfl
  have resolved : ((leaderless (some "b:1")).resolve "b" 1 strayProcess.world).1 = .ok ["b:1"] := by
    with_unfolding_all rfl
  have dialled := followHint_dials other names resolved
  obtain ⟨moved, s, fs, followed⟩ := followHint_returns (H := leaderless (some "b:1")) (some "b:1")
    (stray policy.options).numbered strayProcess
  obtain ⟨left, run⟩ := strayRun_again follow retries followed
  rw [followed] at dialled
  rw [run]
  exact List.mem_append_left _ (List.mem_append_right _ dialled)

/-! ## When the bounds hold -/

def LeaderPolicy.Prompt (policy : LeaderPolicy) : Prop :=
  ∀ {ω : Type} (H : Host ω) (c : Client) (p : Process ω) (op : Value) (txn : Option String),
    c.options.leaderPolicy = policy → TricoreSdk.Prompt (sendIn H op txn (c, p)).events

theorem keeps_of_prompt {policy : LeaderPolicy} (prompt : policy.Prompt)
    (follow : policy.followLeader = true) (retries : policy.leaderRetries ≠ 0) : policy.Keeps where
  delay := by
    have run := prompt (leaderless none) (stray policy.options) strayProcess (.string "Ping") none
      rfl
    refine run.short _ (List.mem_filterMap.mpr ⟨_, (strayRun_pauses follow retries).1, rfl⟩)
  timeout t ht := by
    have run := prompt (leaderless (some "b:1")) (stray policy.options) strayProcess
      (.string "Ping") none rfl
    obtain ⟨d, bound, positive, -⟩ := run.dials _ (strayRun_dials follow retries)
    by_contra zero
    have vanishes : t.min followConnectTimeout = t := by
      unfold Duration.min
      exact if_pos (by omega)
    have dialled : (followOptions policy.options "b" 1).connectTimeout = some t := by
      simp [followOptions, LeaderPolicy.options, ht, vanishes]
    rw [dialled] at bound
    have unbounded : Duration.nonZero (some t) = none := by
      simp [Duration.nonZero, Duration.isZero, Nat.eq_zero_of_not_pos zero]
    cases unbounded.symm.trans bound

/-- The bounds hold exactly when the leader is not followed, or the delay is within its limit and
the connect timeout is not zero. -/
theorem leaderPolicy_prompt_iff (policy : LeaderPolicy) :
    policy.Prompt ↔
      policy.followLeader = false ∨ policy.leaderRetries = 0 ∨ policy.Keeps := by
  constructor
  · intro prompt
    by_cases follow : policy.followLeader = true
    · by_cases retries : policy.leaderRetries = 0
      · exact .inr (.inl retries)
      · exact .inr (.inr (keeps_of_prompt prompt follow retries))
    · exact .inl (Bool.eq_false_iff.mpr follow)
  · rintro (off | never | keeps) ω H c p op txn rfl
    · rw [sendIn_apply]
      exact sendLoop_once _ _ _ (c := c.numbered) p (.inl off)
    · have last : c.options.leaderRetries.toNat = 0 := congrArg UInt32.toNat never
      rw [sendIn_apply]
      exact sendLoop_once _ _ _ (c := c.numbered) p (.inr last)
    · rw [sendIn_apply]
      exact (sendLoop_prompt _ _ _ (c := c.numbered) keeps keeps.delay p).toPrompt

/-- The default policy but for a first pause of four seconds. -/
def LeaderPolicy.patient : LeaderPolicy :=
  { Options.default.leaderPolicy with leaderRetryDelay := Duration.fromMillis 4000 }

/-- The default policy but for a connect timeout of zero. -/
def LeaderPolicy.unbounded : LeaderPolicy :=
  { Options.default.leaderPolicy with connectTimeout := some ⟨0, Nat.zero_le _⟩ }

theorem not_prompt_patient : ¬LeaderPolicy.patient.Prompt ∧ ¬LeaderPolicy.unbounded.Prompt := by
  constructor
  · intro prompt
    have keeps := keeps_of_prompt prompt rfl (by decide)
    exact absurd keeps.delay (by decide)
  · intro prompt
    have keeps := keeps_of_prompt prompt rfl (by decide)
    exact absurd (keeps.timeout _ rfl) (by decide)

end TricoreSdk
