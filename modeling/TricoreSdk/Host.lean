import TricoreSdk.Lib.Action
import TricoreSdk.Frame
import TricoreSdk.Options
import TricoreSdk.Value

/-! What the crate runs on: `serde_json`, the sockets, the TLS library and the
clock. A host is any behaviour of these; every definition of the client takes
one, and what it does to the outside is a list of events. -/

namespace TricoreSdk
open Effects

/-! ## Message bodies (`client.rs`) -/

structure HelloOk where
  ok : Bool
  message : String
  features : UInt64

structure AuthOk where
  ok : Bool
  sessionId : Option String
  message : String

structure Diagnostics where
  route : Option String
  elapsedMs : Option Int
  warnings : List String
  errorCode : Option String
  leaderHint : Option String

/-- `Diagnostics::default()`. -/
def Diagnostics.default : Diagnostics := ⟨none, none, [], none, none⟩

structure WireResponse where
  requestId : String
  status : String
  data : Value
  diagnostics : Option Diagnostics

/-- `serde_json` with the code its `derive` generates: how floats are spelled,
how bodies are parsed, and the texts of its errors. -/
structure Serde where
  floats : FloatFormat
  mismatch : String → Value → String
  value : List UInt8 → Option Value
  helloOk : List UInt8 → Except String HelloOk
  authOk : List UInt8 → Except String AuthOk
  wireResponse : List UInt8 → Except String WireResponse
  cancelOk : List UInt8 → Except String UInt64

/-- A connection of the process, by its number in the order they were opened. -/
abbrev Socket := Nat

/-- A connected stream, with or without TLS. -/
inductive Transport where
  | tcp (socket : Socket)
  | tls (socket : Socket)
  deriving DecidableEq

def Transport.socket : Transport → Socket
  | tcp s => s
  | tls s => s

/-- Everything outside the process, over a state `ω` of its own. `connect` is
told the number of the connection it opens; `send` is `write_frame` of the
payload's `to_vec` and `recv` is `read_frame`. -/
structure Host (ω : Type) where
  serde : Serde
  processId : UInt32
  clock : ω → UInt64 × ω
  resolve : String → UInt16 → ω → Except String (List String) × ω
  connect : Socket → String → Option Duration → ω → Except String Unit × ω
  setReadTimeout : Socket → Option Duration → ω → Option IoError × ω
  setWriteTimeout : Socket → Option Duration → ω → Option IoError × ω
  loadRoots : String → ω → Except String Unit × ω
  loadIdentity : String → String → ω → Except String Unit × ω
  tlsHandshake : Socket → TlsOptions → String → ω → Except String Unit × ω
  send : Transport → Tag → Option Value → ω → Except WireError Unit × ω
  recv : Transport → ω → Except WireError Frame × ω
  shutdown : Socket → ω → ω

/-- The process: its request-id sequence, how many connections it has opened,
and the world around it. -/
structure Process (ω : Type) where
  sequence : UInt64
  opened : Nat
  world : ω

/-- What a computation does that the outside, or a later statement, can see.
`dialing`, `tlsHandshake` and `wrote` are attempts, a deadline is one that is now in
force; `granted` and `moved` record a completed handshake step and an adopted
connection. -/
inductive Event where
  | dialing (address : String) (bound : Option Duration)
  | tlsHandshake (socket : Socket) (options : TlsOptions) (name : String)
  | readTimeout (socket : Socket) (bound : Option Duration)
  | writeTimeout (socket : Socket) (bound : Option Duration)
  | wrote (transport : Transport) (tag : Tag) (payload : Option Value)
  | answered (transport : Transport) (frame : Frame)
  | shutdown (socket : Socket)
  | granted (transport : Transport) (features : UInt64)
  | moved (transport : Transport)
  | paused (delay : Duration)

/-- A computation that owns no connection yet. -/
abbrev Job (ω α : Type) := Action (Process ω) Error Event α

namespace Job

variable {ω α : Type}

def onWorld (f : ω → α × ω) : Job ω α := fun p =>
  ⟨.returned (f p.world).1, { p with world := (f p.world).2 }, []⟩

def ofIo (f : ω → Option IoError × ω) : Job ω Unit := do
  match ← onWorld f with
  | some e => Action.fail (Error.fromIo e)
  | none => pure ()

def ofTls (f : ω → Except String Unit × ω) : Job ω Unit := do
  match ← onWorld f with
  | .error text => Action.fail (Error.new .tls text)
  | .ok () => pure ()

@[simp] theorem onWorld_apply (f : ω → α × ω) (p : Process ω) :
    onWorld f p = ⟨.returned (f p.world).1, { p with world := (f p.world).2 }, []⟩ := rfl

end Job

/-! ## The socket (`transport.rs`, `tls.rs`) -/

namespace Host

variable {ω : Type} (H : Host ω)

/-- `Transport::set_read_timeout`: a zero duration means no deadline. -/
def readDeadline (socket : Socket) (timeout : Option Duration) : Job ω Unit := do
  let bound := Duration.nonZero timeout
  Job.ofIo (H.setReadTimeout socket bound)
  Action.emit (.readTimeout socket bound)

def writeDeadline (socket : Socket) (timeout : Option Duration) : Job ω Unit := do
  let bound := Duration.nonZero timeout
  Job.ofIo (H.setWriteTimeout socket bound)
  Action.emit (.writeTimeout socket bound)

def shutdownSocket (socket : Socket) : Job ω Unit := do
  Action.emit (.shutdown socket)
  Job.onWorld fun w => ((), H.shutdown socket w)

def writeOn (transport : Transport) (tag : Tag) (payload : Option Value) :
    Job ω (Except WireError Unit) := do
  Action.emit (.wrote transport tag payload)
  Job.onWorld (H.send transport tag payload)

def readOn (transport : Transport) : Job ω (Except WireError Frame) := do
  match ← Job.onWorld (H.recv transport) with
  | .ok frame =>
    Action.emit (.answered transport frame)
    pure (.ok frame)
  | .error e => pure (.error e)

/-- One address of the loop in `dial`. -/
def dialOnce (address : String) (bound : Option Duration) : Job ω (Except String Socket) := do
  Action.emit (.dialing address bound)
  let socket ← Action.view Process.opened
  match ← Job.onWorld (H.connect socket address bound) with
  | .ok () =>
    Action.modify fun p => { p with opened := p.opened + 1 }
    pure (.ok socket)
  | .error e => pure (.error e)

/-- The address loop of `dial`, with the last failure. -/
def dialEach (host : String) (port : UInt16) (connectTimeout : Option Duration) :
    List String → String → Job ω Socket
  | [], last =>
    Action.fail (Error.new .io ("cannot connect to " ++ host ++ ":" ++ toString port ++ ": " ++ last))
  | address :: rest, _ => do
    match ← dialOnce H address (Duration.nonZero connectTimeout) with
    | .ok socket => pure socket
    | .error e => dialEach host port connectTimeout rest e

def dial (host : String) (port : UInt16) (connectTimeout : Option Duration) : Job ω Socket := do
  match ← Job.onWorld (H.resolve host port) with
  | .error e =>
    Action.fail (Error.new .io ("cannot resolve " ++ host ++ ":" ++ toString port ++ ": " ++ e))
  | .ok [] =>
    Action.fail (Error.new .io (host ++ ":" ++ toString port ++ " resolved to no addresses"))
  | .ok addresses => dialEach H host port connectTimeout addresses ""

/-- `tls::wrap`: wrap an open TCP connection in TLS and complete the handshake. -/
def wrap (socket : Socket) (opts : TlsOptions) : Job ω Transport := do
  Action.when (!opts.dangerAcceptInvalidCerts) <|
    match opts.caFile with
    | some path => Job.ofTls (H.loadRoots path)
    | none => pure ()
  match opts.clientCertFile, opts.clientKeyFile with
  | some cert, some key => Job.ofTls (H.loadIdentity cert key)
  | none, none => pure ()
  | some _, none =>
    Action.fail (Error.invalid
      "client_key_file is required alongside client_cert_file (mutual TLS needs both)")
  | none, some _ =>
    Action.fail (Error.invalid
      "client_cert_file is required alongside client_key_file (mutual TLS needs both)")
  let name := opts.serverName.getD "localhost"
  Action.emit (.tlsHandshake socket opts name)
  Job.ofTls (H.tlsHandshake socket opts name)
  pure (.tls socket)

/-- `serde_json::to_vec` of a payload, or no bytes for none. -/
def body (payload : Option Value) : List UInt8 :=
  match payload with
  | some v => v.toVec H.serde.floats
  | none => []

end Host

end TricoreSdk
