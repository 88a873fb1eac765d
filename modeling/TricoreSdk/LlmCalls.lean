import TricoreSdk.DocumentCalls

/-! The exports for language models and the two reads of the administration (`llm.rs`). -/

namespace TricoreSdk
open Shape Written

/-! ## Arguments -/

inductive OutputFormat where
  | native
  | json
  | toon
  | markdown
  deriving DecidableEq

structure LlmOptions where
  maxRows : Option UInt64 := none
  redactSensitive : Bool := true
  includeSchema : Bool := false

inductive LlmSource where
  | sql (query : String)
  | documentFind (collection : String) (filter : DocumentFilter) (limit : Option UInt64)

/-- `LlmOptions::to_wire`: no rows at most is no bound. -/
def LlmOptions.written (o : LlmOptions) : Option UInt64 × Bool × Bool :=
  (o.maxRows.filter fun rows => 0 < rows, o.redactSensitive, o.includeSchema)

namespace LlmSource

def sqlBody : Coded Value String := (Fields.one "query" text).coded Value.format (by decide)

def findBody : Coded Value (String × DocumentFilter × Option UInt64) :=
  ((Fields.one "collection" text).and <| (Fields.one "filter" DocumentFilter.coded).and <|
    .one "limit" nullableCount).coded Value.format (by decide)

/-- `LlmSource::document_find`. -/
def find (collection : String) (filter : DocumentFilter) (limit : Option UInt64) : LlmSource :=
  documentFind collection filter (limit.filter fun n => 0 < n)

def toValue : LlmSource → Value
  | sql query => .tagged "Sql" (sqlBody.write query)
  | documentFind collection filter limit =>
    .tagged "DocumentFind" (findBody.write (collection, filter, limit))

def fromValue (v : Value) : Option LlmSource := do
  let (name, body) ← v.asTagged
  if name = "Sql" then (sqlBody.read body).map sql
  else if name = "DocumentFind" then (findBody.read body).map fun f => documentFind f.1 f.2.1 f.2.2
  else none

theorem fromValue_toValue (s : LlmSource) : fromValue s.toValue = some s := by
  cases s <;> simp [toValue, fromValue, Coded.back]

def coded : Coded Value LlmSource := ⟨toValue, fromValue, fromValue_toValue⟩

end LlmSource

namespace Written

def outputFormat : Coded Value OutputFormat :=
  variant (fun | .native => "native" | .json => "json" | .toon => "toon" | .markdown => "markdown")
    [.native, .json, .toon, .markdown] (fun f => by cases f <;> decide) (by decide)

def llmOptions : Coded Value (Option UInt64 × Bool × Bool) :=
  ((Fields.one "max_rows" nullableCount).and <| (Fields.one "redact_sensitive" flag).and <|
    .one "include_schema" flag).coded Value.format (by decide)

end Written

/-! ## Answers -/

/-- A rendered export: a text, or a JSON value that is shown as one. -/
inductive Export where
  | text (text : String)
  | value (v : Value)

/-- A report on the server: one message, or fields by name. -/
inductive StatusReport where
  | message (text : String)
  | fields (report : SortedMap String Value)

namespace Export

def Means (kind : String) (data : Value) : Export → Prop
  | text shown => (kind = "Toon" ∨ kind = "Message") ∧ data = .string shown
  | value v => kind = "Json" ∧ data = v

def shown (F : FloatFormat) : Export → String
  | text shown => shown
  | value v => String.ofList (v.toText F)

end Export

def rendered (F : FloatFormat) (r : Response) : Except Error String :=
  if r.kind = "Toon" ∨ r.kind = "Message" then
    .ok (r.data.asStr.getD (String.ofList (r.data.toText F)))
  else if r.kind = "Json" then .ok (String.ofList (r.data.toText F))
  else .error (Error.protocol ("expected a rendered export, got " ++ r.describe))

theorem rendered_of_means {F : FloatFormat} {r : Response} {answer : Export}
    (said : answer.Means r.kind r.data) : rendered F r = .ok (answer.shown F) := by
  cases answer with
  | text shown =>
    obtain ⟨kind, data⟩ := said
    rw [rendered, if_pos kind, data]
    rfl
  | value v =>
    obtain ⟨kind, data⟩ := said
    have other : ¬(r.kind = "Toon" ∨ r.kind = "Message") := by
      rw [kind]
      decide
    rw [rendered, if_neg other, if_pos kind, data]
    rfl

theorem rendered_error {F : FloatFormat} {r : Response} {e : Error} (h : rendered F r = .error e) :
    ∃ message, e = Error.protocol message := by
  unfold rendered at h
  split at h
  · cases h
  · split at h
    · cases h
    · cases h
      exact ⟨_, rfl⟩

namespace StatusReport

def Means (kind : String) (data : Value) : StatusReport → Prop
  | message text => kind = "Message" ∧ data = .string text
  | fields report => kind = "Json" ∧ Spoken.object.means data report

def shown : StatusReport → SortedMap String Value
  | message text => .ofEntries [("message", .string text)]
  | fields report => report

end StatusReport

section

variable {ω : Type} (H : Host ω)

def statusShown (r : Response) : Except Error (SortedMap String Value) :=
  if r.kind = "Message" then .ok (.ofEntries [("message", .string (r.data.asStr.getD ""))])
  else r.decode (H.serde.mismatch "Map") Spoken.object.read "admin status"

theorem statusShown_of_means {r : Response} {answer : StatusReport}
    (said : answer.Means r.kind r.data) : statusShown H r = .ok answer.shown := by
  cases answer with
  | message text =>
    obtain ⟨kind, data⟩ := said
    rw [statusShown, if_pos kind, data]
    rfl
  | fields report =>
    obtain ⟨kind, data⟩ := said
    have other : ¬r.kind = "Message" := by
      rw [kind]
      decide
    rw [statusShown, if_neg other]
    exact Response.decode_eq_ok_iff.mpr ⟨kind, Spoken.object.reads data⟩

theorem statusShown_error {r : Response} {e : Error} (h : statusShown H r = .error e) :
    ∃ message, e = Error.protocol message := by
  unfold statusShown at h
  split at h
  · cases h
  · exact Response.decode_misread h

/-! ## The operations -/

namespace Llm
open Operation

def context : Operation (List LlmSource × OutputFormat × Option UInt64 × Bool × Bool) Export where
  module := "Llm"
  variant := "Context"
  payload := withFields ((Fields.one "sources" (listOf LlmSource.coded)).and <|
    (Fields.one "format" outputFormat).and <| .one "options" llmOptions) (by decide)
  means _ kind data answer := answer.Means kind data

def schema : Operation (OutputFormat × Option UInt64 × Bool × Bool) Export where
  module := "Llm"
  variant := "Schema"
  payload := withFields ((Fields.one "format" outputFormat).and <| .one "options" llmOptions)
    (by decide)
  means _ kind data answer := answer.Means kind data

def operations : List AnyOperation := [⟨context⟩, ⟨schema⟩]

end Llm

namespace Admin
open Operation

def ping : Operation Unit Unit := .ofDone "Admin" "Ping" plain

def status : Operation Unit StatusReport where
  module := "Admin"
  variant := "Status"
  payload := plain
  means _ kind data answer := answer.Means kind data

def operations : List AnyOperation := [⟨ping⟩, ⟨status⟩]

end Admin

/-! ## The methods -/

/-- The sources of a bundle, which needs at least one. -/
def bundled {α : Type} (sources : List LlmSource) (args : α) : Except Error α :=
  if sources.isEmpty then .error (Error.invalid "a context bundle needs at least one source")
  else .ok args

theorem bundled_refuses {α : Type} (sources : List LlmSource) (args : α) :
    RefusesInvalid (bundled sources args) := by
  intro e h
  unfold bundled at h
  split at h
  · cases h
    exact ⟨_, rfl⟩
  · cases h

def llmContext (sources : List LlmSource) (format : OutputFormat) (options : Option LlmOptions) :
    Stub String :=
  Llm.context.stub (bundled sources (sources, format, (options.getD {}).written))
    (bundled_refuses sources _) (rendered H.serde.floats) (fun _ _ => rendered_error)
    (fun answer => .ok (answer.shown H.serde.floats)) fun _ _ _ _ => rendered_of_means

def llmSchema (format : OutputFormat) (options : Option LlmOptions) : Stub String :=
  Llm.schema.stub (.ok (format, (options.getD {}).written)) (refusesInvalid_ok _)
    (rendered H.serde.floats) (fun _ _ => rendered_error)
    (fun answer => .ok (answer.shown H.serde.floats)) fun _ _ _ _ => rendered_of_means

def adminPing : Stub Unit := Admin.ping.perform ()

def adminStatus : Stub (SortedMap String Value) :=
  Admin.status.stub (.ok ()) (refusesInvalid_ok _) (statusShown H)
    (fun _ _ => statusShown_error H) (fun answer => .ok answer.shown)
    fun _ _ _ _ => statusShown_of_means H

end

end TricoreSdk
