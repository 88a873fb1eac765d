import TricoreSdk.Scripted
import TricoreSdk.Session

/-! A server that keeps session transactions of one nested block at most: it
answers every frame, and refuses what it cannot do. -/

namespace TricoreSdk
open Effects

/-- A session with at most one nested block. -/
structure Shallow extends Session where
  shallow : blocks.length ≤ 2

namespace Shallow

def ofSession (s : Session) (h : s.blocks.length ≤ 2) : Shallow := ⟨s, h⟩

def abandoned (s : Shallow) : Shallow := ofSession s.toSession.abandoned (Nat.zero_le _)

end Shallow

def Session.freshId (s : Session) : Nat := ((s.blocks ++ s.ended.map Prod.fst).foldr max 0) + 1

theorem le_foldr_max {xs : List Nat} {x : Nat} (h : x ∈ xs) : x ≤ xs.foldr max 0 := by
  induction xs with
  | nil => cases h
  | cons y ys ih =>
    rw [List.foldr_cons]
    rcases List.mem_cons.mp h with rfl | h
    · exact Nat.le_max_left ..
    · exact Nat.le_trans (ih h) (Nat.le_max_right ..)

theorem Session.freshId_ne {s : Session} {x : Nat} (h : x ∈ s.blocks ++ s.ended.map Prod.fst) :
    x ≠ s.freshId := Nat.ne_of_lt (Nat.lt_succ_of_le (le_foldr_max h))

def controlOf (envelope : Value) : Option Control := do
  let sql ← (← (← (← envelope.get "op").get "Sql").get "Exec").get "sql"
  let text ← sql.asStr
  if text = "BEGIN" then some .begin
  else if text = "COMMIT" then some .commit
  else if text = "ROLLBACK" then some .rollback
  else none

theorem controlOf_op (k : Control) (requestId database : String) (options : List (String × Value)) :
    controlOf (envelopeOf requestId database k.op options) = some k := by
  unfold controlOf
  rw [envelopeOf_op]
  cases k <;> rfl

/-- The answer to a statement that closes a block; `text` is for the outermost one. -/
def Shallow.close (ending : Ending) (text : List UInt8) (s : Shallow) : List UInt8 × Shallow :=
  match s.blocks with
  | [b] => (text, .ofSession ⟨[], (b, ending) :: s.ended⟩ (Nat.zero_le 2))
  | [b, c] => (nestedZero, .ofSession ⟨[c], (b, ending) :: s.ended⟩ (Nat.le_succ 1))
  | _ => (refusedBody, s.abandoned)

def Shallow.serve (s : Shallow) : Option Control → List UInt8 × Shallow
  | some .begin =>
    match s.blocks with
    | [] => (began, .ofSession ⟨[s.freshId], s.ended⟩ (Nat.le_succ 1))
    | [b] => (nestedOne, .ofSession ⟨[s.freshId, b], s.ended⟩ (Nat.le_refl 2))
    | _ => (refusedBody, s)
  | some .commit => s.close .committed committed
  | some .rollback => s.close .rolledBack rolledBack
  | none => (done, s)

/-- The world of this server: the sessions, and the answers not read yet. -/
structure Desk where
  sessions : Socket → Shallow
  answers : Socket → Option Frame

namespace Desk

def empty : Desk := ⟨fun _ => .ofSession .new (Nat.zero_le _), fun _ => none⟩

def reply : Tag → Option Value → Shallow → Frame × Shallow
  | .request, some envelope, s => (⟨.response, (s.serve (controlOf envelope)).1⟩,
      (s.serve (controlOf envelope)).2)
  | .hello, _, s => (⟨.helloOk, helloAll⟩, s)
  | _, _, s => (⟨.pong, []⟩, s)

def put (socket : Socket) (answer : Option Frame) (s : Shallow) (w : Desk) : Desk where
  sessions := fun x => if x = socket then s else w.sessions x
  answers := fun x => if x = socket then answer else w.answers x

@[simp] theorem put_sessions_self (socket : Socket) (answer : Option Frame) (s : Shallow) (w : Desk) :
    (w.put socket answer s).sessions socket = s := by simp [put]

@[simp] theorem put_answers_self (socket : Socket) (answer : Option Frame) (s : Shallow) (w : Desk) :
    (w.put socket answer s).answers socket = answer := by simp [put]

theorem put_sessions_ne {socket x : Socket} (h : socket ≠ x) (answer : Option Frame) (s : Shallow)
    (w : Desk) : (w.put socket answer s).sessions x = w.sessions x := by simp [put, Ne.symm h]

end Desk

def deskHost : Host Desk where
  serde := scriptSerde
  processId := 1
  clock w := (0, w)
  resolve host port w := (.ok [joinAddress host port], w)
  connect _ _ _ w := (.ok (), w)
  setReadTimeout _ _ w := (none, w)
  setWriteTimeout _ _ w := (none, w)
  loadRoots _ w := (.ok (), w)
  loadIdentity _ _ w := (.ok (), w)
  tlsHandshake _ _ _ w := (.ok (), w)
  send t tag payload w :=
    let (answer, s) := Desk.reply tag payload (w.sessions t.socket)
    (.ok (), w.put t.socket (some answer) s)
  recv t w :=
    match w.answers t.socket with
    | some frame => (.ok frame, w.put t.socket none (w.sessions t.socket))
    | none => (.error timedOut, w)
  shutdown socket w := w.put socket none (w.sessions socket).abandoned

/-- What this server refuses: a third level, and to close what is not open. -/
def Desk.mayRefuse (k : Control) (s : Session) : Prop :=
  if k = .begin then s.blocks.length = 2 else s.blocks = []

def ReadsDepth (text : List UInt8) (depth : Option Int) : Prop :=
  ∃ r result, replyOf deskHost ⟨.response, text⟩ = some (.ok r) ∧
    (∀ what, decodeResult deskHost r what = .ok result) ∧ result.nestedDepth = depth

theorem began_readsDepth : ReadsDepth began none :=
  ⟨_, _, by with_unfolding_all rfl, by intro what; with_unfolding_all rfl, rfl⟩

theorem nestedOne_readsDepth : ReadsDepth nestedOne (some 1) :=
  ⟨_, _, by with_unfolding_all rfl, by intro what; with_unfolding_all rfl, rfl⟩

theorem nestedZero_readsDepth : ReadsDepth nestedZero (some 0) :=
  ⟨_, _, by with_unfolding_all rfl, by intro what; with_unfolding_all rfl, rfl⟩

theorem committed_readsDepth : ReadsDepth committed none :=
  ⟨_, _, by with_unfolding_all rfl, by intro what; with_unfolding_all rfl, rfl⟩

theorem rolledBack_readsDepth : ReadsDepth rolledBack none :=
  ⟨_, _, by with_unfolding_all rfl, by intro what; with_unfolding_all rfl, rfl⟩

theorem refusedBody_refused : ∃ e, replyOf deskHost ⟨.response, refusedBody⟩ = some (.error e) :=
  ⟨_, by with_unfolding_all rfl⟩

theorem serves_begin (s : Shallow) {reply : Except Error Response}
    (h : replyOf deskHost ⟨.response, (s.serve (some .begin)).1⟩ = some reply) :
    Serves deskHost Desk.mayRefuse (some .begin) reply s.toSession
      (s.serve (some .begin)).2.toSession := by
  rcases s with ⟨⟨blocks, ended⟩, shallow⟩
  have begun {text : List UInt8} {depth : Option Int} (reads : ReadsDepth text depth)
      (h : replyOf deskHost ⟨.response, text⟩ = some reply)
      (hd : depth = Session.beginDepth blocks) :
      Serves deskHost Desk.mayRefuse (some .begin) reply ⟨blocks, ended⟩
        ⟨Session.freshId ⟨blocks, ended⟩ :: blocks, ended⟩ := by
    obtain ⟨r, result, hr, read, depth_eq⟩ := reads
    cases hr.symm.trans h
    have fresh {x : Nat} := Session.freshId_ne (s := ⟨blocks, ended⟩) (x := x)
    refine .began ⟨blocks, ended⟩ _ (fun hb => fresh (List.mem_append_left _ hb) rfl)
      (fun x hx hxb => fresh (List.mem_append_right _ (List.mem_map_of_mem hx)) hxb) r result
      (read _) (depth_eq.trans hd)
  match blocks, shallow with
  | [], _ => exact begun began_readsDepth h rfl
  | [b], _ => exact begun nestedOne_readsDepth h rfl
  | [b, c], _ =>
    obtain ⟨e, he⟩ := refusedBody_refused
    cases he.symm.trans h
    exact .refusedBegin _ rfl e

theorem serves_close {k : Control} {ending : Ending} {text : List UInt8} (hk : k.ending = some ending)
    (reads : ReadsDepth text none) (s : Shallow) {reply : Except Error Response}
    (h : replyOf deskHost ⟨.response, (s.close ending text).1⟩ = some reply) :
    Serves deskHost Desk.mayRefuse (some k) reply s.toSession (s.close ending text).2.toSession := by
  rcases s with ⟨⟨blocks, ended⟩, shallow⟩
  have closing : k ≠ .begin := by
    rintro rfl
    cases hk
  have closed {text : List UInt8} {depth : Option Int} (reads : ReadsDepth text depth)
      (h : replyOf deskHost ⟨.response, text⟩ = some reply) (b : Nat) (rest : List Nat)
      (hd : depth = Session.closeDepth rest) :
      Serves deskHost Desk.mayRefuse (some k) reply ⟨b :: rest, ended⟩
        ⟨rest, (b, ending) :: ended⟩ := by
    obtain ⟨r, result, hr, read, depth_eq⟩ := reads
    cases hr.symm.trans h
    exact .closed k ending hk b rest ended r result (read _) (depth_eq.trans hd)
  match blocks, shallow with
  | [], _ =>
    obtain ⟨e, he⟩ := refusedBody_refused
    cases he.symm.trans h
    exact .refusedClose k closing _ (by simp [Desk.mayRefuse, closing]) e
  | [b], _ => exact closed reads h b [] rfl
  | [b, c], _ => exact closed nestedZero_readsDepth h b [c] rfl

theorem serve_serves (s : Shallow) (k : Option Control) {reply : Except Error Response}
    (h : replyOf deskHost ⟨.response, (s.serve k).1⟩ = some reply) :
    Serves deskHost Desk.mayRefuse k reply s.toSession (s.serve k).2.toSession := by
  cases k with
  | none => exact .other reply s.toSession
  | some k =>
    cases k with
    | begin => exact serves_begin s h
    | commit => exact serves_close rfl committed_readsDepth s h
    | rollback => exact serves_close rfl rolledBack_readsDepth s h

theorem desk_recv {t : Transport} {w w' : Desk} {answer frame : Frame} {s : Shallow}
    (h : deskHost.recv t (w.put t.socket (some answer) s) = (.ok frame, w')) :
    frame = answer ∧ w'.sessions t.socket = s := by
  simp only [deskHost, Desk.put_answers_self, Desk.put_sessions_self, Prod.mk.injEq,
    Except.ok.injEq] at h
  obtain ⟨rfl, rfl⟩ := h
  exact ⟨rfl, Desk.put_sessions_self ..⟩

theorem desk_quiet {w w' : Desk} (h : Quiet deskHost w w') : w' = w := by
  induction h with
  | refl w => rfl
  | trans h h' ih ih' => exact ih'.trans ih
  | _ => rfl

def desk : SessionServer deskHost where
  control := controlOf
  mayRefuse := Desk.mayRefuse
  session w socket := (w.sessions socket).toSession
  control_op := controlOf_op
  perSocket :=
    { quiet := fun h => by rw [desk_quiet h]
      send := fun hs tag payload w => congrArg _ (Desk.put_sessions_ne hs ..)
      recv := fun {t} s hs w => by
        simp only [deskHost]
        split
        · exact congrArg _ (Desk.put_sessions_ne hs ..)
        · rfl
      shutdown := fun hs w => congrArg _ (Desk.put_sessions_ne hs ..) }
  shutdown socket w := congrArg _ (Desk.put_sessions_self ..)
  frames := by
    rintro t tag payload w w' w'' frame ht ⟨⟩ hr
    rw [(desk_recv hr).2]
    cases tag <;> first | rfl | exact absurd rfl ht
  serves := by
    rintro t envelope w w' w'' frame reply ⟨⟩ hr hf
    obtain ⟨rfl, hs⟩ := desk_recv hr
    rw [hs]
    exact serve_serves _ _ hf

/-! ## Runs against the desk -/

theorem desk_exchange {tag : Tag} {payload : Option Value} {c : Client} (live : c.Live)
    (p : Process Desk) {bytes : List UInt8} (fits : encode tag (deskHost.body payload) = .ok bytes) :
    ∃ w, exchange deskHost tag payload (c, p) =
      ⟨.returned (Desk.reply tag payload (p.world.sessions c.transport.socket)).1,
        (c, { p with world := w }),
        [.wrote c.transport tag payload,
          .answered c.transport (Desk.reply tag payload (p.world.sessions c.transport.socket)).1]⟩ := by
  have hx := exchanged deskHost tag payload c p
  generalize exchange deskHost tag payload (c, p) = r at hx
  cases hx with
  | faulted fault hf => exact absurd (live.fault.symm.trans hf) (by simp)
  | closed hf hc => exact absurd (live.open_.symm.trans hc) (by simp)
  | tooLarge _ e he => exact absurd (fits.symm.trans he) (by simp)
  | writeFailed _ bytes he e w hw => cases hw
  | readFailed _ bytes he e w w' hw hr =>
    cases hw
    simp [deskHost] at hr
  | answered _ bytes he frame w w' hw hr =>
    cases hw
    obtain ⟨rfl, -⟩ := desk_recv hr
    exact ⟨w', rfl⟩

/-- The options of a client of the database `db`. -/
def Options.ofDatabase (db : String) : Options := { Options.default with database := db }

def databaseClient (db : String) : Client :=
  Client.granting 7 (newClient (.tcp 0) "100" (Options.ofDatabase db))

def deskStart : Process Desk := ⟨0, 0, Desk.empty⟩

theorem desk_hello {c : Client} (live : c.Live) (p : Process Desk) :
    ∃ p' es, hello deskHost Options.default.clientName Options.default.announcedFeatures (c, p) =
      ⟨.returned (), (Client.granting 7 c, p'), es⟩ := by
  let payload := Value.ofFields
    [("protocol", .string protocolName),
      ("version", Value.ofFields [("major", Value.ofU64 protocolVersion), ("minor", Value.ofU64 0)]),
      ("client", .string Options.default.clientName),
      ("features", Value.ofU64 Options.default.announcedFeatures)]
  have fits : ∃ bytes, encode .hello (deskHost.body (some payload)) = .ok bytes :=
    ⟨_, by with_unfolding_all rfl⟩
  obtain ⟨bytes, fits⟩ := fits
  obtain ⟨w, run⟩ := desk_exchange live p fits
  exact ⟨_, _, by
    change (exchange deskHost .hello (some payload) (c, p)).follow _ = _
    rw [run]
    rfl⟩

theorem desk_handshake (db : String) {c : Client} (live : c.Live) (p : Process Desk) :
    ∃ p' es, handshake deskHost (Options.ofDatabase db) (c, p) =
      ⟨.returned (), (Client.withReadTimeout none (Client.granting 7 c), p'), es⟩ := by
  obtain ⟨p', es, said⟩ := desk_hello live p
  exact ⟨_, _, by
    change ((((hello deskHost Options.default.clientName Options.default.announcedFeatures
      (c, p)).follow _).after _).after _) = _
    rw [said]
    rfl⟩

theorem desk_connect (db : String) :
    ∃ p es, connect deskHost (Options.ofDatabase db) deskStart =
      ⟨.returned (databaseClient db), p, es⟩ := by
  obtain ⟨p', es, shaken⟩ := desk_handshake db
    (c := newClient (.tcp 0) "100" (Options.ofDatabase db)) ⟨rfl, rfl⟩ ⟨1, 1, Desk.empty⟩
  have owned := owning_returned deskHost shaken
  have dialed : deskHost.dial "127.0.0.1" 8427 none deskStart =
      ⟨.returned 0, ⟨0, 1, Desk.empty⟩, [.dialing "127.0.0.1:8427" none]⟩ := by
    with_unfolding_all rfl
  have dialed' : deskHost.dial (Options.ofDatabase db).host (Options.ofDatabase db).port
      (Options.ofDatabase db).connectTimeout deskStart = _ := dialed
  have named : nextConnectionPrefix deskHost ⟨0, 1, Desk.empty⟩ =
      ⟨.returned "100", ⟨1, 1, Desk.empty⟩, []⟩ := by
    with_unfolding_all rfl
  have secured : secure deskHost (Options.ofDatabase db) 0 = pure (.tcp 0) := rfl
  unfold connect
  rw [Action.bind_apply, dialed', Execution.follow_returned, Action.bind_apply, secured,
    Action.pure_apply, Execution.follow_returned, Action.bind_apply, named,
    Execution.follow_returned, owned]
  exact ⟨_, _, rfl⟩

theorem desk_request {op : Value} {txn : Option String} {c : Client} (live : c.Live)
    (p : Process Desk) {bytes : List UInt8}
    (fits : encode .request (deskHost.body (some (c.envelope op txn))) = .ok bytes)
    {r : Response}
    (reply : replyOf deskHost (Desk.reply .request (some (c.envelope op txn))
      (p.world.sessions c.transport.socket)).1 = some (.ok r)) :
    ∃ w es, sendIn deskHost op txn (c, p) =
      ⟨.returned r, (c.numbered, { p with world := w }), es⟩ := by
  obtain ⟨w, run⟩ := desk_exchange (c := c.numbered) ⟨live.fault, live.open_⟩ p fits
  have once : ∃ es, sendOnce deskHost (c.envelope op txn) (c.numbered, p) =
      ⟨.returned r, (c.numbered, { p with world := w }), es⟩ := by
    have reads : readResponse deskHost (Desk.reply .request (some (c.envelope op txn))
        (p.world.sessions c.transport.socket)).1.payload = .ok r := Option.some.inj reply
    exact ⟨_, by
      unfold sendOnce
      rw [Action.bind_apply, run, Execution.follow_returned]
      change Execution.after _ ((Action.ofExcept (readResponse deskHost (Desk.reply .request
        (some (c.envelope op txn)) (p.world.sessions c.transport.socket)).1.payload) :
          Method Desk Response) _) = _
      rw [reads]
      rfl⟩
  obtain ⟨es, once⟩ := once
  exact ⟨w, es, (sendIn_apply ..).trans (sendLoop_returned once)⟩

theorem desk_begin {c : Client} (live : c.Live) (granted : c.sessionTxnGranted = true)
    (p : Process Desk) (none_open : (p.world.sessions c.transport.socket).blocks = [])
    {bytes : List UInt8}
    (fits : encode .request (deskHost.body (some (c.envelope Control.begin.op c.requestTxn))) =
      .ok bytes) :
    ∃ w, (Call.begin.run deskHost (c, p)).state =
      (Client.withTxnOpen true c.numbered, { p with world := w }) := by
  obtain ⟨r, result, hr, read, -⟩ := began_readsDepth
  have reply : replyOf deskHost (Desk.reply .request (some (c.envelope Control.begin.op c.requestTxn))
      (p.world.sessions c.transport.socket)).1 = some (.ok r) := by
    simp [Desk.reply, Client.envelope, controlOf_op, Shallow.serve, none_open, hr]
  obtain ⟨w, es, sent⟩ := desk_request live p fits reply
  have request : Call.begin.request? c = some (Control.begin.op, c.requestTxn) := by
    simp [Call.request?, granted, sqlRequest, sqlBody]
    rfl
  rw [run_request request, sent]
  exact ⟨w, by simp [concluded, Call.settle, controlled, read]⟩

end TricoreSdk
