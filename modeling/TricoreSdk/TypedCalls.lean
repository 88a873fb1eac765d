import TricoreSdk.DocumentCalls
import TricoreSdk.GraphMethods
import TricoreSdk.RequestCalls

/-! Closures over the typed methods. Those that begin or end a transaction are stubs like the
others, sent outside of any transaction or as the last request of their own. -/

namespace TricoreSdk
open Effects

/-- The transaction a method's request is for: the client's current one, none, or its own, which it
ends. -/
inductive Scope where
  | current
  | outside
  | ending (txn : String)

namespace Scope

/-- What the request names when the client names `txn`. -/
def names (txn : Option String) : Scope → Option String
  | current => txn
  | outside => none
  | ending own => some own

/-- What the client remembers of the request. -/
def settle : Scope → Client → Outcome Error Response → Client
  | ending txn => forgotten txn
  | _ => fun c _ => c

end Scope

section

variable {ω α β : Type} (H : Host ω)

def Stub.runIn (m : Stub α) : Scope → Method ω α
  | .current => m.run H
  | .outside => do
    let op ← Action.ofExcept m.op
    let response ← sendIn H op none
    Action.ofExcept (m.decode response)
  | .ending txn => do
    let op ← Action.ofExcept m.op
    let response ← endRequestTxn H op txn
    Action.ofExcept (m.decode response)

/-! ## Transactions -/

def begunId (txn : String) : Except Error String :=
  if txn.isEmpty then .error (Error.protocol "BeginTransaction answered with no transaction id")
  else .ok txn

theorem begunId_error (txn : String) (e : Error) (h : begunId txn = .error e) :
    ∃ message, e = Error.protocol message := by
  unfold begunId at h
  split at h
  · cases h
    exact ⟨_, rfl⟩
  · cases h

def documentBegin (serializable : Bool) : Stub String :=
  Documents.beginTransaction.stubThen H (.ok serializable) (refusesInvalid_ok _) begunId begunId_error

def documentCommit : Stub DocumentCommit := Documents.commitTransaction.call H ()

def documentRollback : Stub Unit := Documents.rollbackTransaction.perform ()

def graphBegin (graph : String) : Stub String :=
  Graphs.beginTransaction.stubThen H (.ok graph) (refusesInvalid_ok _) begunId begunId_error

def graphCommit (graph : String) : Stub GraphWriteSummary := Graphs.commitTransaction.call H graph

def graphRollback (graph : String) : Stub Int := Graphs.rollbackTransaction.call H graph

theorem begunTxn_eq (key : String) (r : Response) :
    (r.decode (H.serde.mismatch "Begun") (Spoken.single key Spoken.text "").read
      "BeginTransaction").bind begunId = begunTxn H key r := by
  rw [funext (Spoken.single_text key)]
  unfold begunTxn
  cases r.decode (H.serde.mismatch "Begun") (Value.textField key) "BeginTransaction" <;> rfl

theorem documentCommit_read (v : Value) :
    Spoken.documentCommit.read v = DocumentCommit.fromValue v := by
  refine Spoken.record_read v fun parts length => ?_
  match parts with
  | [committed, writes] => simp [Shape.Parts.image, Option.map_eq_bind, Option.bind_assoc]

theorem Value.asOption_asI64 : asOption asI64 = asOptionI64 := by
  funext v
  cases v <;> rfl

theorem graphWriteSummary_read (v : Value) :
    Spoken.graphWriteSummary.read v = GraphWriteSummary.fromValue v := by
  refine Spoken.record_read v fun parts length => ?_
  match parts with
  | [statements, nodes, nodesGone, edges, edgesGone, properties, labels, labelsGone, queued,
      committed] =>
    simp [Shape.Parts.image, Spoken.maybe, Value.asOption_asI64, Option.map_eq_bind,
      Option.bind_assoc]

theorem documentBegin_eq (serializable : Bool) :
    (documentBegin H serializable).runIn H .outside = documentBeginTransaction H serializable := by
  have decode (r : Response) : (documentBegin H serializable).decode r = begunTxn H "txn" r :=
    begunTxn_eq H "txn" r
  simp only [Stub.runIn, decode]
  rfl

theorem documentCommit_eq (txn : String) :
    (documentCommit H).runIn H (.ending txn) = documentCommitTransaction H txn := by
  have decode (r : Response) : (documentCommit H).decode r = documentCommitted H r := by
    rw [documentCommitted, ← funext documentCommit_read]
    exact Inquiry.call_decode H Documents.commitTransaction () r
  simp only [Stub.runIn, decode]
  rfl

theorem documentRollback_eq (txn : String) :
    documentRollback.runIn H (.ending txn) = documentRollbackTransaction H txn := rfl

theorem graphBegin_eq (graph : String) :
    (graphBegin H graph).runIn H .outside = graphBeginTransaction H graph := by
  have decode (r : Response) : (graphBegin H graph).decode r = begunTxn H "transaction" r :=
    begunTxn_eq H "transaction" r
  simp only [Stub.runIn, decode]
  rfl

theorem graphCommit_eq (graph txn : String) :
    (graphCommit H graph).runIn H (.ending txn) = graphCommitTransaction H graph txn := by
  have decode (r : Response) : (graphCommit H graph).decode r = graphCommitted H r := by
    rw [graphCommitted, ← funext graphWriteSummary_read]
    exact Inquiry.call_decode H Graphs.commitTransaction graph r
  simp only [Stub.runIn, decode]
  rfl

theorem graphRollback_eq (graph txn : String) :
    (graphRollback H graph).runIn H (.ending txn) = graphRollbackTransaction H graph txn := by
  have decode (r : Response) : (graphRollback H graph).decode r = graphRolledBack H r := by
    rw [graphRolledBack, ← funext (Spoken.single_integer "rolled_back")]
    exact Inquiry.call_decode H Graphs.rollbackTransaction graph r
  simp only [Stub.runIn, decode]
  rfl

/-! ## Closures -/

/-- A closure over a client whose calls are typed methods, and which says what transaction they are
in. -/
inductive TypedProc (β : Type) : Type 1
  | done (result : Except Error β)
  | panic
  | setRequestTxn (txn : Option String) (next : TypedProc β)
  | ask {α : Type} (scope : Scope) (m : Stub α) (next : Outcome Error α → TypedProc β)

def TypedProc.run : TypedProc β → Method ω β
  | done result => Action.ofExcept result
  | panic => Action.panic
  | setRequestTxn txn next => do
    Method.update (Client.withRequestTxn txn)
    next.run
  | ask scope m next => do
    let outcome ← Action.observe (m.runIn H scope)
    (next outcome).run

/-- A closure that asks only for operations of a list. -/
inductive TypedProc.Known (ops : List AnyOperation) : TypedProc β → Prop
  | done (result : Except Error β) : Known ops (.done result)
  | panic : Known ops .panic
  | setRequestTxn (txn : Option String) {next : TypedProc β} (rest : Known ops next) :
    Known ops (.setRequestTxn txn next)
  | ask {γ : Type} (scope : Scope) {m : Stub γ} (known : ⟨m.operation⟩ ∈ ops)
    {next : Outcome Error γ → TypedProc β} (rest : ∀ o, Known ops (next o)) :
    Known ops (.ask scope m next)

variable {H}

theorem Stub.runIn_refused {m : Stub α} {e : Error} (refused : m.args = .error e) (scope : Scope)
    (s : Client × Process ω) : m.runIn H scope s = ⟨.failed e, s, []⟩ := by
  have op : m.op = .error e := by
    rw [m.asks, refused]
    rfl
  cases scope <;> simp [Stub.runIn, TypedMethod.run, op]

theorem Stub.runIn_asked {m : Stub α} {a : m.Args} (asked : m.args = .ok a) (scope : Scope)
    (c : Client) (p : Process ω) :
    m.runIn H scope (c, p) =
      concluded (sendIn H (m.operation.value a) (scope.names c.requestTxn) (c, p)) scope.settle
        m.decode := by
  have op : m.op = .ok (m.operation.value a) := by
    rw [m.asks, asked]
    rfl
  cases scope with
  | current =>
    have sent := bind_concluded (send H (m.operation.value a)) m.decode (c, p)
    rw [send_apply] at sent
    rw [Stub.runIn, TypedMethod.run, op]
    exact sent
  | outside =>
    rw [Stub.runIn, op]
    exact bind_concluded (sendIn H (m.operation.value a) none) m.decode (c, p)
  | ending txn =>
    rw [Stub.runIn, op]
    exact bind_of_concluded (endRequestTxn_concluded (m.operation.value a) txn (c, p)) m.decode

end

end TricoreSdk
