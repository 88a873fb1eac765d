import TricoreSdk.Call

/-! A server that plays a script, for runs on concrete inputs: every write
succeeds, and each read takes the next line. -/

namespace TricoreSdk
open Effects JsonText

/-- `{"ok":true,"features":7}` -/
def helloAll : List UInt8 :=
  [123, 34, 111, 107, 34, 58, 116, 114, 117, 101, 44, 34, 102, 101, 97, 116, 117, 114, 101, 115,
    34, 58, 55, 125]

/-- `{"ok":true,"features":0}` -/
def helloNone : List UInt8 :=
  [123, 34, 111, 107, 34, 58, 116, 114, 117, 101, 44, 34, 102, 101, 97, 116, 117, 114, 101, 115,
    34, 58, 48, 125]

/-- `{"status":"ok","data":{"Json":{"transaction":"began"}}}` -/
def began : List UInt8 :=
  [123, 34, 115, 116, 97, 116, 117, 115, 34, 58, 34, 111, 107, 34, 44, 34, 100, 97, 116, 97, 34,
    58, 123, 34, 74, 115, 111, 110, 34, 58, 123, 34, 116, 114, 97, 110, 115, 97, 99, 116, 105,
    111, 110, 34, 58, 34, 98, 101, 103, 97, 110, 34, 125, 125, 125]

/-- `{"status":"ok","data":{"Json":{"transaction":"committed"}}}` -/
def committed : List UInt8 :=
  [123, 34, 115, 116, 97, 116, 117, 115, 34, 58, 34, 111, 107, 34, 44, 34, 100, 97, 116, 97, 34,
    58, 123, 34, 74, 115, 111, 110, 34, 58, 123, 34, 116, 114, 97, 110, 115, 97, 99, 116, 105,
    111, 110, 34, 58, 34, 99, 111, 109, 109, 105, 116, 116, 101, 100, 34, 125, 125, 125]

/-- `{"status":"ok","data":{"Json":{"transaction":"rolled_back"}}}` -/
def rolledBack : List UInt8 :=
  [123, 34, 115, 116, 97, 116, 117, 115, 34, 58, 34, 111, 107, 34, 44, 34, 100, 97, 116, 97, 34,
    58, 123, 34, 74, 115, 111, 110, 34, 58, 123, 34, 116, 114, 97, 110, 115, 97, 99, 116, 105,
    111, 110, 34, 58, 34, 114, 111, 108, 108, 101, 100, 95, 98, 97, 99, 107, 34, 125, 125, 125]

/-- `{"status":"ok","data":{"Json":{"nested_depth":1}}}` -/
def nestedOne : List UInt8 :=
  [123, 34, 115, 116, 97, 116, 117, 115, 34, 58, 34, 111, 107, 34, 44, 34, 100, 97, 116, 97, 34,
    58, 123, 34, 74, 115, 111, 110, 34, 58, 123, 34, 110, 101, 115, 116, 101, 100, 95, 100, 101,
    112, 116, 104, 34, 58, 49, 125, 125, 125]

/-- `{"status":"ok","data":{"Json":{"nested_depth":0}}}` -/
def nestedZero : List UInt8 :=
  [123, 34, 115, 116, 97, 116, 117, 115, 34, 58, 34, 111, 107, 34, 44, 34, 100, 97, 116, 97, 34,
    58, 123, 34, 74, 115, 111, 110, 34, 58, 123, 34, 110, 101, 115, 116, 101, 100, 95, 100, 101,
    112, 116, 104, 34, 58, 48, 125, 125, 125]

/-- `{"status":"ok","data":"Empty"}` -/
def done : List UInt8 :=
  [123, 34, 115, 116, 97, 116, 117, 115, 34, 58, 34, 111, 107, 34, 44, 34, 100, 97, 116, 97, 34,
    58, 34, 69, 109, 112, 116, 121, 34, 125]

/-- `{"status":"error","data":{"Message":"no"}}` -/
def refusedBody : List UInt8 :=
  [123, 34, 115, 116, 97, 116, 117, 115, 34, 58, 34, 101, 114, 114, 111, 114, 34, 44, 34, 100, 97,
    116, 97, 34, 58, 123, 34, 77, 101, 115, 115, 97, 103, 101, 34, 58, 34, 110, 111, 34, 125, 125]

/-- `{"status":"error","data":{"Message":"moved"},"diagnostics":{"error_code":"not_leader","leader_hint":"b:1"}}` -/
def notLeaderBody : List UInt8 :=
  [123, 34, 115, 116, 97, 116, 117, 115, 34, 58, 34, 101, 114, 114, 111, 114, 34, 44, 34, 100, 97,
    116, 97, 34, 58, 123, 34, 77, 101, 115, 115, 97, 103, 101, 34, 58, 34, 109, 111, 118, 101,
    100, 34, 125, 44, 34, 100, 105, 97, 103, 110, 111, 115, 116, 105, 99, 115, 34, 58, 123, 34,
    101, 114, 114, 111, 114, 95, 99, 111, 100, 101, 34, 58, 34, 110, 111, 116, 95, 108, 101, 97,
    100, 101, 114, 34, 44, 34, 108, 101, 97, 100, 101, 114, 95, 104, 105, 110, 116, 34, 58, 34,
    98, 58, 49, 34, 125, 125]

/-- What `serde_json` makes of these bodies. -/
def scriptSerde : Serde where
  floats := ⟨fun _ => ['0', '.', '0'], fun _ => ⟨⟨'0', _, rfl, .inr rfl⟩, by simp [isNumberChar]⟩⟩
  mismatch type _ := "invalid type, expected " ++ type
  value _ := none
  helloOk bytes :=
    if bytes = helloAll then .ok ⟨true, "", 7⟩
    else if bytes = helloNone then .ok ⟨true, "", 0⟩
    else .error "expected value"
  authOk _ := .error "expected value"
  wireResponse bytes :=
    let json (fields : List (String × Value)) := Value.ofFields [("Json", Value.ofFields fields)]
    if bytes = began then .ok ⟨"", "ok", json [("transaction", .string "began")], none⟩
    else if bytes = committed then .ok ⟨"", "ok", json [("transaction", .string "committed")], none⟩
    else if bytes = rolledBack then
      .ok ⟨"", "ok", json [("transaction", .string "rolled_back")], none⟩
    else if bytes = nestedOne then .ok ⟨"", "ok", json [("nested_depth", Value.ofU64 1)], none⟩
    else if bytes = nestedZero then .ok ⟨"", "ok", json [("nested_depth", Value.ofU64 0)], none⟩
    else if bytes = done then .ok ⟨"", "ok", .string "Empty", none⟩
    else if bytes = refusedBody then
      .ok ⟨"", "error", Value.ofFields [("Message", .string "no")], none⟩
    else if bytes = notLeaderBody then
      .ok ⟨"", "error", Value.ofFields [("Message", .string "moved")],
        some ⟨none, none, [], some "not_leader", some "b:1"⟩⟩
    else .error "expected value"
  cancelOk _ := .error "expected value"

def timedOut : WireError := ⟨Error.fromIo ⟨.timedOut, "timed out"⟩, Error.onWire_fromIo _⟩

def scripted : Host (List (Except WireError Frame)) where
  serde := scriptSerde
  processId := 1
  clock w := (0, w)
  resolve host port w := (.ok [joinAddress host port], w)
  connect _ _ _ w := (.ok (), w)
  setReadTimeout _ _ w := (none, w)
  setWriteTimeout _ _ w := (none, w)
  loadRoots _ w := (.ok (), w)
  loadIdentity _ _ w := (.ok (), w)
  tlsHandshake _ _ _ w := (.ok (), w)
  send _ _ _ w := (.ok (), w)
  recv _ w :=
    match w with
    | [] => (.error timedOut, [])
    | line :: rest => (line, rest)
  shutdown _ w := w

def replies (tag : Tag) (payload : List UInt8) : Except WireError Frame := .ok ⟨tag, payload⟩

def playing (script : List (Except WireError Frame)) : Process (List (Except WireError Frame)) :=
  ⟨0, 0, script⟩

def sessionWith (features : UInt64) : Client :=
  Client.granting features (newClient (.tcp 0) "1" Options.default)

def session : Client := Client.granting 7 (newClient (.tcp 0) "100" Options.default)

def sessionLog : List Event :=
  [.dialing "127.0.0.1:8427" none, .readTimeout 0 none, .writeTimeout 0 none,
    .wrote (.tcp 0) .hello (some (Value.ofFields
      [("protocol", .string protocolName),
        ("version", Value.ofFields
          [("major", Value.ofU64 protocolVersion), ("minor", Value.ofU64 0)]),
        ("client", .string Options.default.clientName),
        ("features", Value.ofU64 Options.default.announcedFeatures)])),
    .answered (.tcp 0) ⟨.helloOk, helloAll⟩, .granted (.tcp 0) 7, .writeTimeout 0 none,
    .readTimeout 0 none]

theorem connect_session (script : List (Except WireError Frame)) :
    connect scripted Options.default (playing (replies .helloOk helloAll :: script)) =
      ⟨.returned session, ⟨1, 1, script⟩, sessionLog⟩ := by
  with_unfolding_all rfl

end TricoreSdk
