import TricoreSdk.RequestTxn

/-! The typed methods of the cache, document, graph, vector and language-model
modules. Each checks its arguments and builds one operation, sends it, and
decodes the answer; they differ in the operation and in the decoding. -/

namespace TricoreSdk
open Effects

/-- A typed method with its arguments. An argument it refuses is refused before
the request, and an answer it cannot read is a protocol error. -/
structure TypedMethod (α : Type) where
  op : Except Error Value
  decode : Response → Except Error α
  refused : ∀ e, op = .error e → ∃ message, e = Error.invalid message
  misread : ∀ r e, decode r = .error e → ∃ message, e = Error.protocol message

theorem TypedMethod.unrefused (op : Value) : ∀ e, Except.ok op = .error e →
    ∃ message, e = Error.invalid message := by
  intro e h
  cases h

theorem Response.expect_error {r : Response} {kind what : String} {e : Error}
    (h : r.expect kind what = .error e) : ∃ message, e = Error.protocol message := by
  unfold Response.expect at h
  split at h
  · cases h
  · cases h
    exact ⟨_, rfl⟩

theorem Response.decode_misread {α : Type} {mismatch : Value → String}
    {fromValue : Value → Option α} {r : Response} {what : String} {e : Error}
    (h : r.decode mismatch fromValue what = .error e) : ∃ message, e = Error.protocol message := by
  unfold Response.decode at h
  split at h
  · rename_i he
    cases h
    exact Response.expect_error he
  · split at h
    · cases h
    · cases h
      exact ⟨_, rfl⟩

section

variable {ω α : Type} (H : Host ω)

def TypedMethod.run (m : TypedMethod α) : Method ω α := do
  let op ← Action.ofExcept m.op
  let response ← send H op
  Action.ofExcept (m.decode response)

/-! ## Methods on a list of byte strings -/

/-- `{"namespace": …, "key": …}`. -/
def nsKey (space key : String) : List (String × Value) :=
  [("namespace", .string space), ("key", .string key)]

def cacheOp (variant : String) (body : List (String × Value)) : Value :=
  Value.ofFields [("Cache", Value.ofFields [(variant, Value.ofFields body)])]

/-- `wire::byte_lists`: an empty list is refused by the argument's name. -/
def byteLists (values : List (List UInt8)) (name : String) : Except Error Value :=
  if values.isEmpty then .error (Error.invalid ("`" ++ name ++ "` must not be empty"))
  else .ok (.array (values.map byteList))

theorem byteLists_error {values : List (List UInt8)} {name : String} {e : Error}
    (h : byteLists values name = .error e) : ∃ message, e = Error.invalid message := by
  unfold byteLists at h
  split at h
  · cases h
    exact ⟨_, rfl⟩
  · cases h

def bytesMethod (values : Except Error Value) (op : Value → Value)
    (decode : Response → Except Error α)
    (refused : ∀ e, values = .error e → ∃ message, e = Error.invalid message)
    (misread : ∀ r e, decode r = .error e → ∃ message, e = Error.protocol message) :
    TypedMethod α where
  op := values.map op
  decode := decode
  refused := fun e h => by
    cases hv : values with
    | error e' =>
      rw [hv] at h
      cases h
      exact refused _ hv
    | ok v =>
      rw [hv] at h
      cases h
  misread := misread

def cachePush (variant space key : String) (values : List (List UInt8)) : TypedMethod Int :=
  bytesMethod (byteLists values "values")
    (fun values => cacheOp variant (nsKey space key ++ [("values", values)]))
    (fun r => r.decode (H.serde.mismatch "Length") (Value.intField "length") variant)
    (fun _ h => byteLists_error h) (fun _ _ h => Response.decode_misread h)

def cacheLpush (space key : String) (values : List (List UInt8)) : TypedMethod Int :=
  cachePush H "LPush" space key values

def cacheRpush (space key : String) (values : List (List UInt8)) : TypedMethod Int :=
  cachePush H "RPush" space key values

def cacheSadd (space key : String) (members : List (List UInt8)) : TypedMethod Int :=
  bytesMethod (byteLists members "members")
    (fun members => cacheOp "SAdd" (nsKey space key ++ [("members", members)]))
    (fun r => r.decode (H.serde.mismatch "Added") (Value.intField "added") "SAdd")
    (fun _ h => byteLists_error h) (fun _ _ h => Response.decode_misread h)

def cacheSrem (space key : String) (members : List (List UInt8)) : TypedMethod Int :=
  bytesMethod (byteLists members "members")
    (fun members => cacheOp "SRem" (nsKey space key ++ [("members", members)]))
    (fun r => r.decode (H.serde.mismatch "Removed") (Value.intField "removed") "SRem")
    (fun _ h => byteLists_error h) (fun _ _ h => Response.decode_misread h)

end

end TricoreSdk
