import TricoreSdk.Host
import TricoreSdk.Response
import TricoreSdk.Params

/-! One session with a server (`client.rs`): a connection plus a completed
handshake, every call a computation over the client and the process it runs in. -/

namespace TricoreSdk
open Effects

def protocolName : String := "tricore"

def protocolVersion : UInt64 := 1

def closeTimeout : Duration := Duration.fromMillis 2000

def maxLeaderRetryDelay : Duration := Duration.fromMillis 2000

def followConnectTimeout : Duration := Duration.fromMillis 3000

structure Client where
  transport : Transport
  database : String
  sessionId : Option String
  grantedFeatures : UInt64
  txnOpen : Bool
  requestCounter : UInt64
  requestIdPrefix : String
  lastRequestId : Option String
  requestTimeoutMs : Option UInt64
  requestTxn : Option String
  readTimeout : Option Duration
  fault : Option Error
  closed : Bool
  options : Options
  address : String

abbrev Method (ω α : Type) := Action (Client × Process ω) Error Event α

/-! ## Addresses -/

/-- `str::rsplit_once` at a character. -/
def rsplitOnce (c : Char) (text : List Char) : Option (List Char × List Char) :=
  (splitOnce c text.reverse).map fun p => (p.2.reverse, p.1.reverse)

/-- `str::split_once("]:")`. -/
def splitBracket : List Char → Option (List Char × List Char)
  | [] => none
  | ']' :: ':' :: rest => some ([], rest)
  | c :: rest => (splitBracket rest).map fun p => (c :: p.1, p.2)

def digitsValue (digits : List Char) : Nat :=
  digits.foldl (fun n c => n * 10 + (c.toNat - '0'.toNat)) 0

/-- `str::parse::<u16>`: an optional plus sign and digits that fit. -/
def parseU16 (text : List Char) : Option UInt16 :=
  let digits := match text with
    | '+' :: rest => rest
    | _ => text
  if digits.isEmpty || !digits.all Char.isDigit then none
  else if digitsValue digits < 65536 then some (UInt16.ofNat (digitsValue digits))
  else none

/-- `host:port` or `[v6]:port`, as a `leader_hint` names it. -/
def splitAddress (address : String) : Option (String × UInt16) := do
  let (host, port) ← match address.toList with
    | '[' :: rest => splitBracket rest
    | text => rsplitOnce ':' text
  let port ← parseU16 port
  if !host.isEmpty && port != 0 then some (String.ofList host, port) else none

def joinAddress (host : String) (port : UInt16) : String :=
  if ':' ∈ host.toList then "[" ++ host ++ "]:" ++ toString port
  else host ++ ":" ++ toString port

/-! ## `ERROR` frames -/

/-- How many bytes one UTF-8 sequence starting with this byte has, and the
range of its second byte. -/
def sequenceShape (first : Nat) : Nat × Nat × Nat :=
  if 0xc2 ≤ first ∧ first ≤ 0xdf then (2, 0x80, 0xbf)
  else if first = 0xe0 then (3, 0xa0, 0xbf)
  else if first = 0xed then (3, 0x80, 0x9f)
  else if 0xe1 ≤ first ∧ first ≤ 0xef then (3, 0x80, 0xbf)
  else if first = 0xf0 then (4, 0x90, 0xbf)
  else if 0xf1 ≤ first ∧ first ≤ 0xf3 then (4, 0x80, 0xbf)
  else if first = 0xf4 then (4, 0x80, 0x8f)
  else (1, 1, 0)

def continuation (low high : Nat) : Nat → List UInt8 → List Nat
  | n + 1, b :: rest =>
    if low ≤ b.toNat ∧ b.toNat ≤ high then b.toNat :: continuation 0x80 0xbf n rest else []
  | _, _ => []

/-- `String::from_utf8_lossy`: every ill-formed part becomes one U+FFFD. -/
def fromUtf8Lossy : Nat → List UInt8 → List Char
  | n + 1, b :: rest =>
    let first := b.toNat
    if first < 0x80 then Char.ofNat first :: fromUtf8Lossy n rest
    else
      let (len, low, high) := sequenceShape first
      let tail := continuation low high (len - 1) rest
      if len ≠ 1 ∧ tail.length = len - 1 then
        let head := if len = 2 then first - 0xc0 else if len = 3 then first - 0xe0 else first - 0xf0
        Char.ofNat (tail.foldl (fun v c => v * 64 + (c - 0x80)) head) ::
          fromUtf8Lossy n (rest.drop tail.length)
      else '\ufffd' :: fromUtf8Lossy n (rest.drop tail.length)
  | _, _ => []

def firstText (value : Value) : List String → Option String
  | [] => none
  | key :: keys =>
    match (value.get key).bind Value.asStr with
    | some text => if text.isEmpty then firstText value keys else some text
    | none => firstText value keys

/-- The human-readable text of an `ERROR` frame. -/
def errorText (S : Serde) (payload : List UInt8) : String :=
  if payload.isEmpty then "the server refused the connection without saying why"
  else
    match S.value payload with
    | none => String.ofList (fromUtf8Lossy payload.length payload)
    | some value => (firstText value ["message", "error"]).getD (String.ofList (value.toText S.floats))

/-- The machine-readable code of an `ERROR` frame, when it carries one. -/
def errorCode (S : Serde) (payload : List UInt8) : Option String := do
  let value ← S.value payload
  ((value.get "code").bind Value.asStr).filter fun c => !c.isEmpty

def parseBody {α : Type} (parsed : Except String α) (what : String) : Except Error α :=
  match parsed with
  | .ok a => .ok a
  | .error e => .error (Error.protocol ("malformed " ++ what ++ " body: " ++ e))

/-- The refusal returned after following the leader gave up. -/
def retriedError (error : Error) (retried : Nat) : Error :=
  if 0 < retried then
    { error with message :=
      error.message ++ " (sent again " ++ toString retried ++ " times, refused each time)" }
  else error

namespace Client

def serverParamsGranted (c : Client) : Bool := c.grantedFeatures &&& featureServerParams != 0

def sessionTxnGranted (c : Client) : Bool := c.grantedFeatures &&& featureSessionTxn != 0

/-- A broken connection has no transaction. -/
def inTransaction (c : Client) : Bool := c.txnOpen && c.fault.isNone && !c.closed

def isPoisoned (c : Client) : Bool := c.fault.isSome

/-- `set_read_timeout`, as far as the client remembers it. -/
def withReadTimeout (timeout : Option Duration) (c : Client) : Client :=
  { c with readTimeout := Duration.nonZero timeout }

/-- `set_request_timeout`. -/
def withRequestTimeout (timeout : Option Duration) (c : Client) : Client :=
  { c with requestTimeoutMs := (Duration.nonZero timeout).map Duration.millis }

/-- `set_request_txn`. -/
def withRequestTxn (txn : Option String) (c : Client) : Client :=
  { c with requestTxn := txn.filter fun t => !t.isEmpty }

/-- `forget_txn`. -/
def forgetTxn (txn : String) (c : Client) : Client :=
  if c.requestTxn = some txn then { c with requestTxn := none } else c

/-- `set_txn_open`. -/
def withTxnOpen (isOpen : Bool) (c : Client) : Client := { c with txnOpen := isOpen }

/-- The client after its `HELLO_OK`. -/
def granting (features : UInt64) (c : Client) : Client := { c with grantedFeatures := features }

/-- The client after its `AUTH_OK`. -/
def identified (sessionId : Option String) (c : Client) : Client := { c with sessionId := sessionId }

def poisoned (error : Error) (c : Client) : Client :=
  { c with txnOpen := false, fault := some error }

def closing (c : Client) : Client := { c with closed := true, txnOpen := false }

/-- The client on the connection of `fresh`, which was opened to `address`. -/
def adopting (fresh : Client) (address : String) (c : Client) : Client :=
  { c with
    transport := fresh.transport
    sessionId := fresh.sessionId
    grantedFeatures := fresh.grantedFeatures
    address := address }

def requestId (c : Client) : String := "rs-" ++ c.requestIdPrefix ++ "-" ++ toString c.requestCounter

def counted (c : Client) : Client := { c with requestCounter := c.requestCounter + 1 }

/-- The client remembering that id. -/
def remembering (id : String) (c : Client) : Client := { c with lastRequestId := some id }

end Client

namespace Method

variable {ω : Type}

def self : Method ω Client := Action.view Prod.fst

def update (f : Client → Client) : Method ω Unit := Action.modify fun s => (f s.1, s.2)

@[simp] theorem self_apply (s : Client × Process ω) :
    (self : Method ω Client) s = ⟨.returned s.1, s, []⟩ := rfl

@[simp] theorem update_apply (f : Client → Client) (s : Client × Process ω) :
    (update f : Method ω Unit) s = ⟨.returned (), (f s.1, s.2), []⟩ := rfl

end Method

open Method

section

variable {ω : Type} (H : Host ω)

/-- `self.transport.shutdown`. -/
def transportShutdown : Method ω Unit := do
  let c ← self
  Action.onRight (H.shutdownSocket c.transport.socket)

/-- Record `error` as fatal, drop the socket, and hand the error back. -/
def poison (error : Error) : Method ω Error := do
  let c ← self
  Action.when c.fault.isNone do
    transportShutdown H
    update (Client.poisoned error)
  pure error

def exchange (tag : Tag) (payload : Option Value) : Method ω Frame := do
  let c ← self
  match c.fault with
  | some fault =>
    Action.fail (Error.new .closed
      ("this connection was dropped after an earlier failure and cannot be reused: " ++
        fault.message))
  | none =>
    if c.closed then Action.fail (Error.new .closed "this connection is closed")
    else
      let _ ← Action.ofExcept (encode tag (H.body payload))
      match ← Action.onRight (H.writeOn c.transport tag payload) with
      | .error e =>
        let e ← poison H e.val
        Action.fail e
      | .ok () =>
        match ← Action.onRight (H.readOn c.transport) with
        | .ok frame => pure frame
        -- Past this point the reply may still arrive.
        | .error e =>
          let e ← poison H e.val
          Action.fail e

/-- An answer under a tag that does not belong to the request. -/
def unexpected {α : Type} (wanted : String) (tag : Tag) : Method ω α := do
  let e ← poison H (Error.protocol ("expected " ++ wanted ++ ", got " ++ tag.debug))
  Action.fail e

def refusal (kind : ErrorKind) (payload : List UInt8) : Error :=
  (Error.new kind (errorText H.serde payload)).withCodeOpt (errorCode H.serde payload)

/-- Keep what this connection's `HELLO_OK` granted. -/
def recordGrant (features : UInt64) : Method ω Unit := do
  update (Client.granting features)
  let c ← self
  Action.emit (.granted c.transport features)

def hello (clientName : String) (features : UInt64) : Method ω Unit := do
  let payload := Value.ofFields
    [("protocol", .string protocolName),
      ("version", Value.ofFields [("major", Value.ofU64 protocolVersion), ("minor", Value.ofU64 0)]),
      ("client", .string clientName), ("features", Value.ofU64 features)]
  let frame ← exchange H .hello (some payload)
  match frame.tag with
  | .helloOk =>
    let body ← Action.ofExcept (parseBody (H.serde.helloOk frame.payload) "HELLO_OK")
    if !body.ok then
      let message := if body.message.isEmpty then "the server refused the handshake" else body.message
      Action.fail (Error.new .handshake message)
    else
      recordGrant body.features
  | .error => Action.fail (refusal H .handshake frame.payload)
  | other => unexpected H "HELLO_OK" other

/-- `wire::byte_list`. -/
def byteList (bytes : List UInt8) : Value := .array (bytes.map fun b => Value.ofU64 b.toUInt64)

def auth (user secret : String) : Method ω Unit := do
  let payload := Value.ofFields
    [("username", .string user),
      ("secret", byteList (secret.toList.flatMap String.utf8EncodeChar))]
  let frame ← exchange H .auth (some payload)
  match frame.tag with
  | .authOk =>
    let body ← Action.ofExcept (parseBody (H.serde.authOk frame.payload) "AUTH_OK")
    -- The tag names the answer's shape, not its verdict.
    if !body.ok then
      let message := if body.message.isEmpty then "authentication refused" else body.message
      Action.fail (Error.new .auth message)
    else update (Client.identified body.sessionId)
  | .error => Action.fail (refusal H .auth frame.payload)
  | other => unexpected H "AUTH_OK" other

/-- `self.transport.set_read_timeout`. -/
def transportReadTimeout (timeout : Option Duration) : Method ω Unit := do
  let c ← self
  Action.onRight (H.readDeadline c.transport.socket timeout)

def transportWriteTimeout (timeout : Option Duration) : Method ω Unit := do
  let c ← self
  Action.onRight (H.writeDeadline c.transport.socket timeout)

def setReadTimeout (timeout : Option Duration) : Method ω Unit := do
  update (Client.withReadTimeout timeout)
  transportReadTimeout H (Duration.nonZero timeout)

/-- What the goodbye ignores: a failed deadline. -/
def ignoring (m : Method ω Unit) : Method ω Unit := do
  let _ ← Action.attempt m

/-- Say goodbye and read whatever comes back; a server that says nothing must
not hold up a caller's cleanup. -/
def goodbye : Method ω Unit := do
  let c ← self
  let _ ← Action.onRight (H.writeOn c.transport .close none)
  let _ ← Action.onRight (H.readOn c.transport)
  transportShutdown H

def closeInner : Method ω Unit := do
  let c ← self
  if c.closed then pure ()
  else
    update Client.closing
    if c.fault.isSome then transportShutdown H
    else
      ignoring (transportReadTimeout H (some closeTimeout))
      ignoring (transportWriteTimeout H (some closeTimeout))
      goodbye H

/-- Run the set-up of a client that is dropped, which closes it, when the
set-up does not complete. -/
def owning (client : Client) (setUp : Method ω Unit) : Job ω Client := fun p =>
  let r := setUp (client, p)
  match r.outcome with
  | .returned () => ⟨.returned r.state.1, r.state.2, r.events⟩
  | .failed e =>
    let d := closeInner H r.state
    ⟨.failed e, d.state.2, r.events ++ d.events⟩
  | .panicked =>
    let d := closeInner H r.state
    ⟨.panicked, d.state.2, r.events ++ d.events⟩

/-- Three variable-width hex numbers, one after the other. -/
def nextConnectionPrefix : Job ω String := do
  let stamp ← Job.onWorld H.clock
  let sequence ← Action.view Process.sequence
  Action.modify fun p => { p with sequence := p.sequence + 1 }
  pure (String.ofList (Nat.toDigits 16 H.processId.toNat ++ Nat.toDigits 16 stamp.toNat ++
    Nat.toDigits 16 sequence.toNat))

/-- Authenticate when `Options::user` is set. -/
def authenticate (options : Options) : Method ω Unit :=
  match options.user with
  | some user => auth H user (options.secret.getD "")
  | none => pure ()

/-- The handshake gets the connect budget; the steady state gets its own. -/
def handshake (options : Options) : Method ω Unit := do
  transportReadTimeout H options.connectTimeout
  transportWriteTimeout H options.connectTimeout
  hello H options.clientName options.announcedFeatures
  authenticate H options
  transportWriteTimeout H none
  setReadTimeout H options.readTimeout

def newClient (transport : Transport) (requestIdPrefix : String) (options : Options) : Client where
  transport := transport
  database := options.database
  sessionId := none
  grantedFeatures := 0
  txnOpen := false
  requestCounter := 0
  requestIdPrefix := requestIdPrefix
  lastRequestId := none
  requestTimeoutMs := none
  requestTxn := none
  readTimeout := none
  fault := none
  closed := false
  options := options
  address := joinAddress options.host options.port

/-- Wrap the socket as the options ask; the connect budget covers the TLS handshake too. -/
def secure (options : Options) (tcp : Socket) : Job ω Transport :=
  match options.tls with
  | some tls => do
    H.readDeadline tcp options.connectTimeout
    H.writeDeadline tcp options.connectTimeout
    H.wrap tcp tls
  | none => pure (.tcp tcp)

/-- Connect, shake hands, and authenticate when `Options::user` is set. -/
def connect (options : Options) : Job ω Client := do
  let tcp ← H.dial options.host options.port options.connectTimeout
  let transport ← secure H options tcp
  let requestIdPrefix ← nextConnectionPrefix H
  owning H (newClient transport requestIdPrefix options) (handshake H options)

def followOptions (options : Options) (host : String) (port : UInt16) : Options :=
  { options with
    host := host
    port := port
    connectTimeout := some (match options.connectTimeout with
      | some t => t.min followConnectTimeout
      | none => followConnectTimeout)
    -- The leader's certificate is checked against the name the hint gives.
    tls := options.tls.map fun tls => { tls with serverName := some host } }

/-- Replace this connection with one to `address`, opened the way this one was.
False, leaving this connection untouched, when that fails. -/
def moveTo (address : String) : Method ω Bool := do
  match splitAddress address with
  | none => pure false
  | some (host, port) =>
    let c ← self
    match ← Action.attempt (Action.onRight (connect H (followOptions c.options host port))) with
    | .error _ => pure false
    | .ok fresh =>
      update (Client.adopting fresh address)
      Action.emit (.moved fresh.transport)
      -- The old connection is dropped without a goodbye.
      Action.onRight (H.shutdownSocket c.transport.socket)
      pure true

def readResponse (payload : List UInt8) : Except Error Response := do
  let wire ← parseBody (H.serde.wireResponse payload) "RESPONSE"
  let diagnostics := wire.diagnostics.getD .default
  let (kind, data) := decodeVariant wire.data
  let response : Response :=
    { requestId := wire.requestId
      status := wire.status
      kind := kind
      data := data
      route := diagnostics.route
      elapsedMs := diagnostics.elapsedMs
      warnings := diagnostics.warnings
      errorCode := diagnostics.errorCode
      leaderHint := diagnostics.leaderHint }
  -- Anything but `ok` means the operation did not happen.
  if response.status ≠ "ok" then
    .error
      { kind := .server
        code := response.errorCode
        message := response.failureMessage H.serde.floats
        leaderHint := response.leaderHint }
  else .ok response

/-- Follow a hint that names another address than this connection's. -/
def followHint (hint : Option String) : Method ω Bool := do
  match hint with
  | some hint =>
    let c ← self
    if hint ≠ c.address then moveTo H hint else pure false
  | none => pure false

def sendOnce (envelope : Value) : Method ω Response := do
  let frame ← exchange H .request (some envelope)
  match frame.tag with
  | .response => Action.ofExcept (readResponse H frame.payload)
  | .error => Action.fail (refusal H .refused frame.payload)
  | other => unexpected H "RESPONSE" other

def requestOptions (timeoutMs : Option UInt64) (txn : Option String) : List (String × Value) :=
  let options := match timeoutMs with
    | some ms => Map.insert "timeout_ms" (Value.ofU64 ms) []
    | none => []
  match txn with
  | some txn => Map.insert "txn" (.string txn) options
  | none => options

def envelopeOf (requestId database : String) (op : Value) (options : List (String × Value)) : Value :=
  let envelope := Map.insert "op" op
    (Map.insert "database" (.string database) (Map.insert "request_id" (.string requestId) []))
  .object (if options.isEmpty then envelope else Map.insert "options" (.object options) envelope)

/-- `(pause * 2).clamp(1 ms, MAX_LEADER_RETRY_DELAY)`. -/
def nextPause (pause : Duration) : Option Duration :=
  pause.double.map fun d => d.clamp (Duration.fromMillis 1) maxLeaderRetryDelay

/-- The retry loop of `send_in`; `left` is `leader_retries - retried`. -/
def sendLoop (envelope : Value) : (left retried : Nat) → Duration → Method ω Response
  | left, retried, pause => do
    match ← Action.attempt (sendOnce H envelope) with
    | .ok response => pure response
    | .error error =>
      if !error.isRedirect then Action.fail error
      else
        let c ← self
        -- A refusal was applied nowhere; a session transaction cannot move.
        if !c.options.followLeader || c.txnOpen then Action.fail (retriedError error retried)
        else
          match left with
          | 0 => Action.fail (retriedError error retried)
          | left + 1 =>
            if ← followHint H error.leaderHint then sendLoop envelope left (retried + 1) pause
            else
              Action.emit (.paused pause)
              match nextPause pause with
              | none => Action.panic
              | some pause => sendLoop envelope left (retried + 1) pause

def sendIn (op : Value) (txn : Option String) : Method ω Response := do
  update Client.counted
  let c ← self
  update (Client.remembering c.requestId)
  let envelope := envelopeOf c.requestId c.database op (requestOptions c.requestTimeoutMs txn)
  sendLoop H envelope c.options.leaderRetries.toNat 0 c.options.leaderRetryDelay

/-- Send an operation in the transaction `set_request_txn` named. -/
def send (op : Value) : Method ω Response := do
  let c ← self
  sendIn H op c.requestTxn

def ping : Method ω Unit := do
  let frame ← exchange H .ping none
  match frame.tag with
  | .pong => pure ()
  | other => unexpected H "PONG" other

def cancel (requestId : String) : Method ω UInt64 := do
  if requestId.isEmpty then
    Action.fail (Error.invalid "a request id to cancel must not be empty")
  else
    let frame ← exchange H .cancel (some (Value.ofFields [("request_id", .string requestId)]))
    match frame.tag with
    | .cancelOk => Action.ofExcept (parseBody (H.serde.cancelOk frame.payload) "CANCEL_OK")
    | .error => Action.fail (refusal H .server frame.payload)
    | other => unexpected H "CANCEL_OK" other

end

end TricoreSdk
