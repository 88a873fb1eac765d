import TricoreSdk.Ledger
import TricoreSdk.PoolConversation
import TricoreSdk.TxnServer

/-! The account of a pool. Whatever its threads do with their connections, what the server has become
is what the pool's log says was done, and some of what it leaves in doubt. -/

namespace TricoreSdk
open Effects Path
open Remote (Drifts Traffic Accounts)

section

variable {ω α σ : Type} {H : Host ω} {options : Options} {size : Nat} (K : Keeper H σ)

theorem Moves.accounted {sh sh' : Shared ω} {a b : Phase α} (h : Moves H options size sh a b sh') :
    ∃ es, sh'.log = sh.log ++ es ∧ Event.paired none es = true ∧
      Traffic K.object (K.site sh.process.world) (Ledger.answers H es) (Ledger.doubts H es)
        (K.site sh'.process.world) := by
  have still (sh' : Shared ω) (log : sh'.log = sh.log) (process : sh'.process = sh.process) :
      ∃ es, sh'.log = sh.log ++ es ∧ Event.paired none es = true ∧
        Traffic K.object (K.site sh.process.world) (Ledger.answers H es) (Ledger.doubts H es)
          (K.site sh'.process.world) :=
    ⟨[], by rw [log, List.append_nil], rfl, by rw [process]; exact .drifts .refl⟩
  have closed (lease : Lease) : K.path.rel (lease.client, sh.process) _ _ :=
    K.respects_of K.backdrop.setUp.closeInner (lease.client, sh.process)
  have connects := K.backdrop.connect options sh.process
  cases h with
  | connected work c run => exact ⟨_, rfl, connects.2.paired, K.hushed connects.1 connects.2⟩
  | refused work e run => exact ⟨_, rfl, connects.2.paired, K.hushed connects.1 connects.2⟩
  | call lease c next =>
    obtain ⟨traffic, pairs⟩ := K.callPath.run c (lease.client, sh.process)
    exact ⟨_, rfl, pairs, traffic⟩
  | finish lease outcome broken leftOpen run =>
    obtain ⟨traffic, pairs⟩ :=
      respects_settle (respects_rollback K.callPath) outcome (lease.client, sh.process)
    exact ⟨_, rfl, pairs, traffic⟩
  | unwind lease | retire lease _ | closeIdle lease _ => exact ⟨_, rfl, (closed lease).2, (closed lease).1⟩
  | _ => exact still _ rfl rfl

/-- The rest of the process and the outside do not get between the server and its clients. -/
def Keeper.Undisturbed (a b : System ω α) : Prop :=
  a.threads = b.threads →
    Drifts K.object (K.site a.shared.process.world) (K.site b.shared.process.world)

/-- The states of the runs of a pool at a server, from a process at which nothing is adrift. -/
def Keeper.Reached (options : Options) (size : Nat) (start : Process ω) (sys : System ω α) : Prop :=
  ∃ threads, Relation.ReflTransGen (fun a b => Step H options size a b ∧ K.Undisturbed a b)
    (.initial start threads) sys

variable {K} {start : Process ω} {sys : System ω α}

theorem Keeper.Reached.reachable (h : K.Reached options size start sys) :
    Reachable H options size sys := by
  obtain ⟨threads, path⟩ := h
  exact ⟨start, threads, Relation.ReflTransGen.mono (fun _ _ h => And.left h) _ _ path⟩

theorem Step.accounted {a b : System ω α} (h : Step H options size a b)
    (undisturbed : K.Undisturbed a b) :
    ∃ es, b.shared.log = a.shared.log ++ es ∧ Event.paired none es = true ∧
      Traffic K.object (K.site a.shared.process.world) (Ledger.answers H es) (Ledger.doubts H es)
        (K.site b.shared.process.world) := by
  have quiet (drifts : Drifts K.object (K.site a.shared.process.world)
      (K.site b.shared.process.world)) (log : b.shared.log = a.shared.log) :
      ∃ es, b.shared.log = a.shared.log ++ es ∧ Event.paired none es = true ∧
        Traffic K.object (K.site a.shared.process.world) (Ledger.answers H es) (Ledger.doubts H es)
          (K.site b.shared.process.world) :=
    ⟨[], by rw [log, List.append_nil], rfl, .drifts drifts⟩
  cases h with
  | moves before after x y sh sh' hm => exact hm.accounted K
  | outside sh threads process opened => exact quiet (undisturbed rfl) rfl
  | _ => exact quiet .refl rfl

/-- What the log of a pool says about its server. -/
structure Accounted (K : Keeper H σ) (start : Process ω) (sys : System ω α) : Prop where
  history : Accounts K.object (K.site start.world).state (Ledger.answers H sys.shared.log)
    (Ledger.doubts H sys.shared.log) (K.site sys.shared.process.world)
  once : (Ledger.lost H sys.shared.log).Nodup
  lent : ∀ lease ∈ sys.leases, lease.client.Live → lease.socket ∉ Ledger.lost H sys.shared.log

theorem Keeper.Reached.accounts (h : K.Reached options size start sys)
    (settled : (K.site start.world).adrift = []) :
    Accounts K.object (K.site start.world).state (Ledger.answers H sys.shared.log)
        (Ledger.doubts H sys.shared.log) (K.site sys.shared.process.world) ∧
      Event.paired none sys.shared.log = true := by
  obtain ⟨threads, path⟩ := h
  induction path with
  | refl => exact ⟨.initial settled, rfl⟩
  | tail path last ih =>
    obtain ⟨es, log, pairs, traffic⟩ := last.1.accounted last.2
    obtain ⟨accounts, before⟩ := ih
    rw [log, Ledger.answers_append pairs, Ledger.doubts_append pairs]
    exact ⟨accounts.traffic traffic, Event.paired_append before pairs⟩

/-- However the threads of a pool interleave, the server has done what the log says was answered, in
that order and each request once, and of the requests that the log leaves in doubt it has done some,
each of them once. A connection leaves one request in doubt at most, and none while it can be used. -/
theorem reached_accounted (h : K.Reached options size start sys)
    (settled : (K.site start.world).adrift = []) : Accounted K start sys := by
  obtain ⟨accounts, pairs⟩ := h.accounts settled
  obtain ⟨m, allowed, -, heeded, -⟩ := h.reachable.spoken
  obtain ⟨once, spent⟩ := Ledger.lost_run sys.shared.log pairs allowed
  refine ⟨accounts, once, fun lease held live lost => (spent _ lost).2 ?_⟩
  have ready : m lease.socket = .ready := (heeded lease held).live live.fault
  rw [ready]
  exact ⟨rfl, nofun⟩

theorem Keeper.Reached.moved {sh sh' : Shared ω} {a b : Phase α}
    (h : K.Reached options size start ⟨sh, [a]⟩) (hm : Moves H options size sh a b sh')
    (moves : b ≠ a) : K.Reached options size start ⟨sh', [b]⟩ := by
  obtain ⟨threads, path⟩ := h
  exact ⟨threads, path.tail ⟨.moves [] [] _ _ _ _ hm, fun same =>
    absurd (List.singleton_inj.mp same).symm moves⟩⟩

end

/-! ## Sessions as what is kept -/

def frailHost : Host Desk :=
  { deskHost with
    recv := fun t w =>
      if (w.sessions t.socket).blocks.length = 2 then (.error timedOut, w) else deskHost.recv t w }

namespace Desk

def after (q : Ask) (s : Socket → Shallow) : Socket → Shallow := fun x =>
  if x = q.on.socket then (reply .request q.payload (s q.on.socket)).2 else s x

def abandon (socket : Socket) (s : Socket → Shallow) : Socket → Shallow := fun x =>
  if x = socket then (s socket).abandoned else s x

/-- The desk answers what its sessions make of a request. -/
def sessionsObject : Remote.Object Ask Verdict (Socket → Shallow) where
  does q s verdict s' :=
    replyOf frailHost (reply .request q.payload (s q.on.socket)).1 = some verdict ∧ s' = after q s
  others s s' := ∃ socket, s' = abandon socket s

theorem others_abandon (socket : Socket) (s : Socket → Shallow) :
    sessionsObject.others s (abandon socket s) :=
  Exists.intro socket rfl

theorem put_same (socket : Socket) (answer : Option Frame) (w : Desk) :
    (w.put socket answer (w.sessions socket)).sessions = w.sessions := by
  funext x
  by_cases h : x = socket
  · simp [put, h]
  · simp [put, h]

def bodies : List (List UInt8) :=
  [began, nestedOne, nestedZero, committed, rolledBack, refusedBody, done]

theorem bodies_stay :
    ∀ text ∈ bodies, (replyOf frailHost ⟨.response, text⟩).map redirects = some false := by
  decide +kernel

theorem close_mem (ending : Ending) {text : List UInt8} (outer : text ∈ bodies) (s : Shallow) :
    (s.close ending text).1 ∈ bodies := by
  unfold Shallow.close
  split
  · exact outer
  · simp [bodies]
  · simp [bodies]

theorem serve_mem (s : Shallow) (control : Option Control) : (s.serve control).1 ∈ bodies := by
  unfold Shallow.serve
  split
  · split <;> simp [bodies]
  · exact close_mem .committed (by simp [bodies]) s
  · exact close_mem .rolledBack (by simp [bodies]) s
  · simp [bodies]

theorem verdict_of_some (envelope : Value) (s : Shallow) :
    ∃ verdict, replyOf frailHost (reply .request (some envelope) s).1 = some verdict ∧
      redirects verdict = false :=
  Option.map_eq_some_iff.mp (bodies_stay _ (serve_mem s (controlOf envelope)))

theorem reply_other {tag : Tag} (other : tag ≠ .request) (payload : Option Value) (s : Shallow) :
    (reply tag payload s).2 = s := by
  cases tag <;> first | rfl | exact absurd rfl other

theorem send_other {tag : Tag} (other : tag ≠ .request) (t : Transport) (payload : Option Value)
    (w : Desk) : (frailHost.send t tag payload w).2.sessions = w.sessions := by
  change (w.put t.socket _ (reply tag payload (w.sessions t.socket)).2).sessions = w.sessions
  rw [reply_other other, put_same]

theorem recv_sessions (t : Transport) (w : Desk) : (frailHost.recv t w).2.sessions = w.sessions := by
  simp only [frailHost, deskHost]
  split
  · rfl
  · split
    · exact put_same ..
    · rfl

theorem send_sessions (t : Transport) (payload : Option Value) (w : Desk) :
    (frailHost.send t .request payload w).2.sessions = after ⟨t, payload⟩ w.sessions := rfl

theorem shutdown_sessions (socket : Socket) (w : Desk) :
    (frailHost.shutdown socket w).sessions = abandon socket w.sessions := rfl

theorem quiet_sessions {w w' : Desk} (h : Quiet frailHost w w') : w'.sessions = w.sessions := by
  induction h with
  | trans h h' ih ih' => exact ih'.trans ih
  | _ => rfl

theorem recv_request {t : Transport} {payload : Option Value} {w : Desk} {frame : Frame}
    (answered : (frailHost.recv t (frailHost.send t .request payload w).2).1 = .ok frame) :
    frame = (reply .request payload (w.sessions t.socket)).1 := by
  simp only [frailHost, deskHost] at answered
  split at answered
  · cases answered
  · simpa using answered.symm

theorem after_none (t : Transport) (s : Socket → Shallow) : after ⟨t, none⟩ s = s := by
  funext x
  by_cases h : x = t.socket
  · rw [h]
    exact if_pos rfl
  · exact if_neg h

theorem treated (t : Transport) (payload : Option Value) (s : Socket → Shallow) :
    Dealt sessionsObject ⟨t, payload⟩ (replyOf frailHost (reply .request payload (s t.socket)).1)
      ⟨s, []⟩ ⟨after ⟨t, payload⟩ s, []⟩ := by
  cases payload with
  | none =>
    rw [after_none]
    exact .garbled (.single (.lost s [] (Ask.mk t none) []))
  | some envelope =>
    obtain ⟨verdict, read, here⟩ := verdict_of_some envelope (s t.socket)
    rw [read]
    exact .decided here .refl (And.intro read rfl) .refl

theorem carried (t : Transport) (payload : Option Value) (s : Socket → Shallow) :
    Drifts sessionsObject ⟨s, [⟨t, payload⟩]⟩ ⟨after ⟨t, payload⟩ s, []⟩ := by
  cases payload with
  | none =>
    rw [after_none]
    exact .single (.lost s [] (Ask.mk t none) [])
  | some envelope =>
    obtain ⟨verdict, read, -⟩ := verdict_of_some envelope (s t.socket)
    have done : sessionsObject.does ⟨t, some envelope⟩ s verdict (after ⟨t, some envelope⟩ s) :=
      And.intro read rfl
    exact .single (.late done [] [])

end Desk

def frailKeeper : Keeper frailHost (Socket → Shallow) where
  object := Desk.sessionsObject
  site w := ⟨w.sessions, []⟩
  backdrop :=
    { refl _ := .refl
      trans := .trans
      quiet h := by rw [Desk.quiet_sessions h]
      shutdown socket w := by
        rw [Desk.shutdown_sessions]
        exact .single (.others (Desk.others_abandon socket w.sessions) [])
      sends other t payload w := by rw [Desk.send_other other]
      receives other t payload w := by rw [Desk.recv_sessions] }
  unsent h := by cases h
  unanswered := by
    intro t payload w w₁ w' e sent lost
    obtain rfl : (frailHost.send t .request payload w).2 = w₁ := congrArg Prod.snd sent
    have kept := Desk.recv_sessions t (frailHost.send t .request payload w).2
    rw [lost] at kept
    rw [kept, Desk.send_sessions]
    exact Desk.carried t payload w.sessions
  treats := by
    intro t payload w w₁ w' frame sent answered
    obtain rfl : (frailHost.send t .request payload w).2 = w₁ := congrArg Prod.snd sent
    have read := Desk.recv_request (congrArg Prod.fst answered)
    have kept := Desk.recv_sessions t (frailHost.send t .request payload w).2
    rw [answered] at kept
    rw [read, kept, Desk.send_sessions]
    exact Desk.treated t payload w.sessions

/-- A borrow that was answered one `BEGIN`, and lost the answer to another. -/
theorem reached_doubtful : ∃ sys : System Desk Unit,
    frailKeeper.Reached Options.default 1 deskStart sys ∧
      (Ledger.answers frailHost sys.shared.log).length = 1 ∧
      Ledger.lost frailHost sys.shared.log = [0] := by
  have run : connect frailHost Options.default deskStart =
      ⟨.returned session, (connect frailHost Options.default deskStart).state, sessionLog⟩ := by
    with_unfolding_all rfl
  let start : Shared Desk := ⟨.new, deskStart, 0, [], 0, [], 0, []⟩
  have fresh : frailKeeper.Reached Options.default 1 deskStart
      (⟨start, [.ready none]⟩ : System Desk Unit) := ⟨1, .refl⟩
  have borrowed := fresh.moved (.borrow none none (Proc.ofCalls [.begin, .begin])) (by simp)
  have reserved : frailKeeper.Reached Options.default 1 deskStart
      ⟨start.withPool ⟨[], 1, false⟩, [.connecting (Proc.ofCalls [.begin, .begin])]⟩ :=
    borrowed.moved (.acquire none _) (by simp)
  have lent := reserved.moved (.opened run) (by simp)
  have once := lent.moved (.called (s := (session, _)) rfl .begin _) (Phase.working_ne_call _ _ _ _)
  have twice := once.moved (.called rfl .begin _) (Phase.working_ne_call _ _ _ _)
  exact ⟨_, twice, by decide +kernel, by decide +kernel⟩

theorem reached_accounted_doubtful : ∃ sys : System Desk Unit,
    (Ledger.answers frailHost sys.shared.log).length = 1 ∧
      Ledger.lost frailHost sys.shared.log = [0] ∧ Accounted frailKeeper deskStart sys := by
  obtain ⟨sys, reached, answered, lost⟩ := reached_doubtful
  exact ⟨sys, answered, lost, reached_accounted reached rfl⟩

end TricoreSdk
