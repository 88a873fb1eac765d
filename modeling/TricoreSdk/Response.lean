import TricoreSdk.Error
import TricoreSdk.Value

/-! What the server answered (`response.rs`). -/

namespace TricoreSdk

structure Response where
  requestId : String
  status : String
  kind : String
  data : Value
  route : Option String
  elapsedMs : Option Int
  warnings : List String
  errorCode : Option String
  leaderHint : Option String

namespace Response

def describe (r : Response) : String := if r.kind.isEmpty then "no data" else r.kind

def expect (r : Response) (kind what : String) : Except Error Value :=
  if r.kind = kind then .ok r.data
  else .error (Error.protocol ("expected " ++ kind ++ " from " ++ what ++ ", got " ++ r.describe))

/-- Decode a `Json` payload; `mismatch` is the deserializer's own text. -/
def decode {α : Type} (mismatch : Value → String) (fromValue : Value → Option α)
    (r : Response) (what : String) : Except Error α :=
  match r.expect "Json" what with
  | .error e => .error e
  | .ok data =>
    match fromValue data with
    | some a => .ok a
    | none => .error (Error.protocol ("malformed " ++ what ++ " payload: " ++ mismatch data))

def failureMessage (F : FloatFormat) (r : Response) : String :=
  let dataText := String.ofList (r.data.toText F)
  if r.kind = "Message" ∨ r.kind = "Toon" then
    match r.data.asStr with
    | some text => if text.isEmpty then dataText else text
    | none => dataText
  else if r.kind = "Json" then dataText
  else if r.status.isEmpty then "the request failed"
  else "the server answered `" ++ r.status ++ "`"

theorem decode_eq_ok_iff {α : Type} {mismatch : Value → String} {fromValue : Value → Option α}
    {r : Response} {what : String} {a : α} :
    r.decode mismatch fromValue what = .ok a ↔ r.kind = "Json" ∧ fromValue r.data = some a := by
  unfold decode expect
  by_cases hk : r.kind = "Json"
  · rw [if_pos hk]
    cases hv : fromValue r.data <;> simp [hk, hv]
  · rw [if_neg hk]
    simp [hk]

end Response

/-- Split an externally tagged `data` field into the variant's name and payload. -/
def decodeVariant : Value → String × Value
  | .null => ("", .null)
  | .string name => (name, .null)
  | .object ((name, payload) :: _) => (name, payload)
  | .object [] => ("", .null)
  | other => ("", other)

end TricoreSdk
