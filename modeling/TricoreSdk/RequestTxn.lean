import TricoreSdk.Client

/-! Document and graph transactions (`document.rs`, `graph.rs`): they span
requests, and a request belongs to one by naming its id. -/

namespace TricoreSdk
open Effects Method

structure DocumentCommit where
  committed : Bool
  writes : Int
  deriving DecidableEq

structure GraphWriteSummary where
  statements : Int
  nodesCreated : Int
  nodesDeleted : Int
  relationshipsCreated : Int
  relationshipsDeleted : Int
  propertiesSet : Int
  labelsAdded : Int
  labelsRemoved : Int
  queued : Option Int
  committed : Option Int
  deriving DecidableEq

namespace Value

def asBool : Value → Option Bool
  | bool b => some b
  | _ => none

def textField (name : String) (v : Value) : Option String := do
  match ← v.structFields [name] with
  | [text] => orDefault "" asStr text
  | _ => none

def intField (name : String) (v : Value) : Option Int := do
  match ← v.structFields [name] with
  | [n] => orDefault 0 asI64 n
  | _ => none

end Value

def DocumentCommit.fromValue (v : Value) : Option DocumentCommit := do
  match ← v.structFields ["committed", "writes"] with
  | [committed, writes] =>
    some
      { committed := ← Value.orDefault false Value.asBool committed
        writes := ← Value.orDefault 0 Value.asI64 writes }
  | _ => none

def GraphWriteSummary.fromValue (v : Value) : Option GraphWriteSummary := do
  match ← v.structFields
      ["statements", "nodesCreated", "nodesDeleted", "relationshipsCreated",
        "relationshipsDeleted", "propertiesSet", "labelsAdded", "labelsRemoved", "queued",
        "committed"] with
  | [statements, nodes, nodesGone, edges, edgesGone, properties, labels, labelsGone, queued,
      committed] =>
    some
      { statements := ← Value.orDefault 0 Value.asI64 statements
        nodesCreated := ← Value.orDefault 0 Value.asI64 nodes
        nodesDeleted := ← Value.orDefault 0 Value.asI64 nodesGone
        relationshipsCreated := ← Value.orDefault 0 Value.asI64 edges
        relationshipsDeleted := ← Value.orDefault 0 Value.asI64 edgesGone
        propertiesSet := ← Value.orDefault 0 Value.asI64 properties
        labelsAdded := ← Value.orDefault 0 Value.asI64 labels
        labelsRemoved := ← Value.orDefault 0 Value.asI64 labelsGone
        queued := ← Value.orDefault none Value.asOptionI64 queued
        committed := ← Value.orDefault none Value.asOptionI64 committed }
  | _ => none

def documentOp (body : Value) : Value := Value.ofFields [("Document", body)]

def graphOp (body : Value) : Value := Value.ofFields [("Graph", body)]

def graphTxnOp (verb graph : String) : Value :=
  graphOp (Value.ofFields [(verb, Value.ofFields [("graph", .string graph)])])

section

variable {ω : Type} (H : Host ω)

/-- The transaction id that the answer to a begin carries under `key`. -/
def begunTxn (key : String) (response : Response) : Except Error String :=
  match response.decode (H.serde.mismatch "Begun") (Value.textField key) "BeginTransaction" with
  | .error e => .error e
  | .ok txn =>
    if txn.isEmpty then
      .error (Error.protocol "BeginTransaction answered with no transaction id")
    else .ok txn

/-- Open a transaction, outside any other, and return its id, which the answer
carries under `key`. -/
def beginRequestTxn (op : Value) (key : String) : Method ω String := do
  let response ← sendIn H op none
  Action.ofExcept (begunTxn H key response)

/-- Send the operation that ends a transaction. Whatever the outcome, later
requests no longer name it. -/
def endRequestTxn (op : Value) (txn : String) : Method ω Response := do
  let outcome ← Action.attempt (sendIn H op (some txn))
  update (Client.forgetTxn txn)
  Action.ofExcept outcome

def documentBeginOp (serializable : Bool) : Value :=
  documentOp (Value.ofFields
    [("BeginTransaction", Value.ofFields [("serializable", .bool serializable)])])

def documentBeginTransaction (serializable : Bool) : Method ω String :=
  beginRequestTxn H (documentBeginOp serializable) "txn"

def documentCommitted (response : Response) : Except Error DocumentCommit :=
  response.decode (H.serde.mismatch "DocumentCommit") DocumentCommit.fromValue "CommitTransaction"

def documentCommitTransaction (txn : String) : Method ω DocumentCommit := do
  let response ← endRequestTxn H (documentOp (.string "CommitTransaction")) txn
  Action.ofExcept (documentCommitted H response)

def documentRollbackTransaction (txn : String) : Method ω Unit := do
  let _ ← endRequestTxn H (documentOp (.string "RollbackTransaction")) txn

def graphBeginTransaction (graph : String) : Method ω String :=
  beginRequestTxn H (graphTxnOp "BeginTransaction" graph) "transaction"

def graphCommitted (response : Response) : Except Error GraphWriteSummary :=
  response.decode (H.serde.mismatch "GraphWriteSummary") GraphWriteSummary.fromValue
    "CommitTransaction"

def graphCommitTransaction (graph txn : String) : Method ω GraphWriteSummary := do
  let response ← endRequestTxn H (graphTxnOp "CommitTransaction" graph) txn
  Action.ofExcept (graphCommitted H response)

def graphRolledBack (response : Response) : Except Error Int :=
  response.decode (H.serde.mismatch "RolledBack") (Value.intField "rolled_back")
    "RollbackTransaction"

def graphRollbackTransaction (graph txn : String) : Method ω Int := do
  let response ← endRequestTxn H (graphTxnOp "RollbackTransaction" graph) txn
  Action.ofExcept (graphRolledBack H response)

end

end TricoreSdk
