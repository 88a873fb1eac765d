import Mathlib.Logic.Basic

/-! The error type every fallible call returns (`error.rs`). -/

namespace TricoreSdk

def notLeader : String := "not_leader"

/-- The part of `std::io::ErrorKind` that `from_io` tells apart. -/
inductive IoErrorKind where
  | timedOut
  | wouldBlock
  | unexpectedEof
  | other
  deriving DecidableEq, Repr

structure IoError where
  kind : IoErrorKind
  text : String
  deriving DecidableEq, Repr

inductive ErrorKind where
  | io
  | timeout
  | protocol
  | auth
  | handshake
  | server
  | refused
  | featureNotGranted
  | invalidArgument
  | tls
  | closed
  | pool
  | transactionLeftOpen
  deriving DecidableEq, Repr

structure Error where
  kind : ErrorKind
  code : Option String
  message : String
  leaderHint : Option String
  deriving DecidableEq, Repr

namespace Error

def new (kind : ErrorKind) (message : String) : Error := ⟨kind, none, message, none⟩

def withCode (e : Error) (code : String) : Error := { e with code := some code }

def withCodeOpt (e : Error) (code : Option String) : Error := { e with code := code }

def fromIo (e : IoError) : Error :=
  match e.kind with
  | .timedOut | .wouldBlock => new .timeout ("no reply within the read deadline: " ++ e.text)
  | .unexpectedEof => new .io "the server closed the connection mid-frame"
  | .other => new .io e.text

def featureRefusal (message : String) : Error :=
  (new .featureNotGranted message).withCode "feature_not_granted"

def protocol (message : String) : Error := new .protocol message

def invalid (message : String) : Error := new .invalidArgument message

/-- Whether this client refused the call itself, by the kind alone. -/
def wasRefusedLocally (e : Error) : Bool :=
  match e.kind with
  | .invalidArgument | .featureNotGranted => true
  | _ => false

def isRedirect (e : Error) : Bool := e.code == some notLeader

def isConnectionFatal (e : Error) : Bool :=
  match e.kind with
  | .io | .timeout | .protocol | .refused | .closed | .tls | .handshake => true
  | _ => false

/-- What a failed read or write of a frame is reported as. -/
structure OnWire (e : Error) : Prop where
  kind : e.kind = .io ∨ e.kind = .timeout ∨ e.kind = .protocol
  code : e.code = none
  leaderHint : e.leaderHint = none

theorem onWire_fromIo (e : IoError) : (fromIo e).OnWire := by
  rcases e with ⟨kind, text⟩
  cases kind <;> exact ⟨by simp [fromIo, new], rfl, rfl⟩

theorem onWire_protocol (message : String) : (protocol message).OnWire :=
  ⟨by simp [protocol, new], rfl, rfl⟩

theorem OnWire.isRedirect {e : Error} (h : e.OnWire) : e.isRedirect = false := by
  simp [Error.isRedirect, h.code]

theorem OnWire.wasRefusedLocally {e : Error} (h : e.OnWire) : e.wasRefusedLocally = false := by
  rcases h.kind with hk | hk | hk <;> simp [Error.wasRefusedLocally, hk]

end Error

/-- A transport failure: an error of a kind that reading and writing frames produce. -/
def WireError := { e : Error // e.OnWire }

end TricoreSdk
