import Mathlib.Algebra.Group.Int.Defs
import Mathlib.Algebra.Group.Nat.Defs
import Mathlib.Order.Lattice
import Mathlib.Tactic.Common

/-! What a connection is configured with (`options.rs`), and the part of
`std::time::Duration` the crate computes with. -/

namespace TricoreSdk

/-- `Duration::MAX` in nanoseconds. -/
def maxNanos : Nat := 2 ^ 64 * 1000000000 - 1

/-- A `std::time::Duration`, whose range is part of the type. -/
structure Duration where
  nanos : Nat
  bound : nanos ≤ maxNanos
  deriving DecidableEq

namespace Duration

def fromMillis (n : Nat) (h : n * 1000000 ≤ maxNanos := by decide) : Duration := ⟨n * 1000000, h⟩

def isZero (d : Duration) : Bool := d.nanos == 0

def min (a b : Duration) : Duration := if a.nanos ≤ b.nanos then a else b

/-- `self * 2`, which panics on overflow. -/
def double (d : Duration) : Option Duration :=
  if h : d.nanos * 2 ≤ maxNanos then some ⟨d.nanos * 2, h⟩ else none

def clamp (d low high : Duration) : Duration :=
  if d.nanos < low.nanos then low else if high.nanos < d.nanos then high else d

/-- `as_millis().min(u64::MAX as u128) as u64`. -/
def millis (d : Duration) : UInt64 := UInt64.ofNat (Nat.min (d.nanos / 1000000) (2 ^ 64 - 1))

/-- `timeout.filter(|d| !d.is_zero())`. -/
def nonZero (timeout : Option Duration) : Option Duration := timeout.filter fun d => !d.isZero

@[simp] theorem nonZero_none : nonZero none = none := rfl

@[simp] theorem nonZero_nonZero (timeout : Option Duration) :
    nonZero (nonZero timeout) = nonZero timeout := by
  simp [nonZero, Option.filter_filter]

end Duration

def featureCorrelationId : UInt64 := (1 : UInt64) <<< 0

/-- The server binds `?` placeholders to an array sent beside the statement. -/
def featureServerParams : UInt64 := (1 : UInt64) <<< 1

/-- `BEGIN`, the statements, and `COMMIT`/`ROLLBACK` as separate requests. -/
def featureSessionTxn : UInt64 := (1 : UInt64) <<< 2

def allFeatures : UInt64 := featureCorrelationId ||| featureServerParams ||| featureSessionTxn

structure TlsOptions where
  caFile : Option String
  serverName : Option String
  dangerAcceptInvalidCerts : Bool
  clientCertFile : Option String
  clientKeyFile : Option String
  deriving DecidableEq

structure Options where
  host : String
  port : UInt16
  user : Option String
  secret : Option String
  database : String
  clientName : String
  connectTimeout : Option Duration
  readTimeout : Option Duration
  tls : Option TlsOptions
  features : Option UInt64
  followLeader : Bool
  leaderRetries : UInt32
  leaderRetryDelay : Duration
  deriving DecidableEq

namespace Options

/-- `Options::default()`; the client name carries the crate's version. -/
def default : Options where
  host := "127.0.0.1"
  port := 8427
  user := none
  secret := none
  database := "main"
  clientName := "tricoredb-rust/0.3.0"
  connectTimeout := none
  readTimeout := none
  tls := none
  features := none
  followLeader := true
  leaderRetries := 5
  leaderRetryDelay := Duration.fromMillis 250

def announcedFeatures (o : Options) : UInt64 := o.features.getD allFeatures

end Options

end TricoreSdk
