import TricoreSdk.Client

/-! SQL: reads, writes, bound parameters and transactions (`sql.rs`). -/

namespace TricoreSdk
open Effects

def noServerParams : String :=
  "this server did not grant server-side parameters (SERVER_PARAMS was not in the granted " ++
  "feature set), so this client will not bind `?` placeholders on this connection. It will not " ++
  "render the values into the statement text instead: escaping and binding are not the same " ++
  "guarantee. Upgrade the server, or build the statement yourself"

def noSessionTxn : String :=
  "this server did not grant session transactions (SESSION_TXN was not in the granted feature " ++
  "set), so begin/commit/rollback cannot open a transaction on this connection. Use " ++
  "transaction(...) to send the whole unit as one request"

structure Rows where
  columns : List String
  rows : List (List String)
  deriving DecidableEq

structure Statement where
  sql : String
  params : List Param
  deriving DecidableEq

/-- What the server did with a transaction. `nestedDepth` is set when the
keyword opened or closed a nested block: how many nested blocks are still open. -/
structure TransactionResult where
  statements : Int
  committedWrites : Int
  discardedWrites : Int
  outcome : String
  nestedDepth : Option Int
  deriving DecidableEq

/-! ## Decoding -/

namespace Value

/-- A `Vec` of what `read` reads. -/
def asVec {α : Type} (read : Value → Option α) : Value → Option (List α)
  | array items => items.mapM read
  | _ => none

/-- `serde_null::or_default` of a `Vec`. -/
def asVecOrNull {α : Type} (read : Value → Option α) : Value → Option (List α)
  | null => some []
  | v => v.asVec read

end Value

/-- `from_value::<Rows>`. -/
def Rows.fromValue (v : Value) : Option Rows := do
  match ← v.structFields ["columns", "rows"] with
  | [columns, rows] =>
    some
      { columns := ← Value.orDefault [] (Value.asVecOrNull Value.asStr) columns
        rows := ← Value.orDefault [] (Value.asVecOrNull (Value.asVec Value.asStr)) rows }
  | _ => none

/-- `from_value::<TransactionResult>`. -/
def TransactionResult.fromValue (v : Value) : Option TransactionResult := do
  match ← v.structFields
      ["statements", "committed_writes", "discarded_writes", "transaction", "nested_depth"] with
  | [statements, committed, discarded, outcome, depth] =>
    some
      { statements := ← Value.orDefault 0 Value.asI64 statements
        committedWrites := ← Value.orDefault 0 Value.asI64 committed
        discardedWrites := ← Value.orDefault 0 Value.asI64 discarded
        outcome := ← Value.orDefault "" Value.asStr outcome
        nestedDepth := ← Value.orDefault none Value.asOptionI64 depth }
  | _ => none

/-! ## Transaction scripts -/

/-- `char::is_whitespace`. -/
def isWhitespace (c : Char) : Bool :=
  let n := c.toNat
  (9 ≤ n && n ≤ 13) || n == 0x20 || n == 0x85 || n == 0xa0 || n == 0x1680 ||
    (0x2000 ≤ n && n ≤ 0x200a) || n == 0x2028 || n == 0x2029 || n == 0x202f || n == 0x205f ||
    n == 0x3000

/-- `trim_end_matches`. -/
def trimEnd (drop : Char → Bool) (text : List Char) : List Char :=
  (text.reverse.dropWhile drop).reverse

/-- `str::trim`. -/
def trim (text : List Char) : List Char := trimEnd isWhitespace (text.dropWhile isWhitespace)

/-- `char::to_ascii_uppercase`. -/
def asciiUppercase (c : Char) : Char :=
  if 'a' ≤ c ∧ c ≤ 'z' then Char.ofNat (c.toNat - 32) else c

def firstWord (text : List Char) : List Char :=
  ((text.dropWhile isWhitespace).takeWhile fun c => !isWhitespace c).map asciiUppercase

/-- A statement's text without the blanks and semicolons around it, or why it
cannot stand in a script. -/
def scriptPart (statement : Statement) : Except Error (List Char) :=
  let text := trim (trimEnd (· == ';') (trim statement.sql.toList))
  let first := String.ofList (firstWord text)
  if text.isEmpty then
    .error (Error.invalid "every statement in a transaction must be non-empty SQL")
  -- Transaction control inside the script would change what it means.
  else if first ∈ ["BEGIN", "START", "COMMIT", "ROLLBACK"] then
    .error (Error.invalid ("transaction() brackets the script itself — remove the `" ++ first ++
      "` statement"))
  else .ok text

/-- Assemble `BEGIN; …; COMMIT` and the flat parameter list that goes with it. -/
def buildTransactionScript (statements : List Statement) :
    Except Error (String × List Param) := do
  if statements.isEmpty then .error (Error.invalid "a transaction needs at least one statement")
  let parts ← statements.mapM scriptPart
  let body := List.intercalate ['\x3b', ' '] parts
  pure ("BEGIN; " ++ String.ofList body ++ "; COMMIT", statements.flatMap Statement.params)

/-! ## Calls -/

/-- `validate` on each parameter, by position. -/
def validateParams : Nat → List Param → Except Error Unit
  | _, [] => .ok ()
  | index, param :: params =>
    match param.validate index with
    | .error e => .error e
    | .ok () => validateParams (index + 1) params

/-- Build the `{sql, params}` body. `json!` panics on a parameter list that has no tree. -/
def sqlBody (c : Client) (sql : String) (params : List Param) : Outcome Error Value :=
  if params.isEmpty then .returned (Value.ofFields [("sql", .string sql)])
  else if !c.serverParamsGranted then .failed (Error.featureRefusal noServerParams)
  else
    match validateParams 0 params with
    | .error e => .failed e
    | .ok () =>
      match paramsToValue params with
      | none => .panicked
      | some list => .returned (Value.ofFields [("sql", .string sql), ("params", list)])

/-- `{"Sql": {verb: body}}`. -/
def sqlOp (verb : String) (body : Value) : Value :=
  Value.ofFields [("Sql", Value.ofFields [(verb, body)])]

section

variable {ω : Type} (H : Host ω)

open Method

/-- Run a statement that is not a `SELECT`, its values bound by the server. -/
def executeParams (sql : String) (params : List Param) : Method ω Response := do
  let c ← self
  let body ← Action.ofOutcome (sqlBody c sql params)
  send H (sqlOp "Exec" body)

def execute (sql : String) : Method ω Response := executeParams H sql []

def rowsOf (response : Response) (what : String) : Except Error Rows :=
  match response.expect "Rows" what with
  | .error e => .error e
  | .ok data =>
    match Rows.fromValue data with
    | some rows => .ok rows
    | none => .error (Error.protocol ("malformed Rows payload: " ++ H.serde.mismatch "Rows" data))

def queryParams (sql : String) (params : List Param) : Method ω Rows := do
  let c ← self
  let body ← Action.ofOutcome (sqlBody c sql params)
  let response ← send H (sqlOp "Query" body)
  Action.ofExcept (rowsOf H response "query")

def query (sql : String) : Method ω Rows := queryParams H sql []

def decodeResult (response : Response) (what : String) : Except Error TransactionResult :=
  response.decode (H.serde.mismatch "TransactionResult") TransactionResult.fromValue what

def transaction (statements : List Statement) : Method ω TransactionResult := do
  let (script, params) ← Action.ofExcept (buildTransactionScript statements)
  let response ← executeParams H script params
  Action.ofExcept (decodeResult H response "transaction")

/-- Send one transaction-control keyword, and record whether a transaction is
open after it. -/
def transactionControl (keyword : String) : Method ω TransactionResult := do
  match ← Action.attempt (execute H keyword) with
  | .ok response =>
    let result ← Action.ofExcept (decodeResult H response keyword)
    update (Client.withTxnOpen (keyword == "BEGIN" || result.nestedDepth.isSome))
    pure result
  | .error error =>
    Action.when (keyword != "BEGIN" && !error.wasRefusedLocally) (update (Client.withTxnOpen false))
    Action.fail error

def begin : Method ω TransactionResult := do
  let c ← self
  if !c.sessionTxnGranted then Action.fail (Error.featureRefusal noSessionTxn)
  else transactionControl H "BEGIN"

def commit : Method ω TransactionResult := transactionControl H "COMMIT"

def rollback : Method ω TransactionResult := transactionControl H "ROLLBACK"

/-- Run a closure inside a transaction: commit when it returns, roll back when it fails. -/
def withTransaction {α : Type} (work : Method ω α) : Method ω α := do
  let _ ← begin H
  match ← Action.attempt work with
  | .ok value =>
    let _ ← commit H
    pure value
  | .error error =>
    let c ← self
    -- The caller's error is the one that matters.
    Action.when c.inTransaction do
      let _ ← Action.attempt (rollback H)
    Action.fail error

end

end TricoreSdk
