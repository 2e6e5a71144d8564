-- SUMMARY: Byte pipes of limited capacity.
/-!
# Pipes

A pipe carries bytes in one direction. It holds a limited number of them; a closed pipe takes no
more, but what it holds can still be read.
-/

namespace KeyBridge

/-! ## Outcomes -/

inductive NetworkError where
  /-- Another listener has the name. -/
  | nameInUse (name : String)
  /-- The name was never bound. -/
  | notFound (name : String)
  /-- The name has no listener any more. -/
  | refused (name : String)
  /-- A failure that was asked for. -/
  | injected
  /-- The other end is gone. -/
  | brokenPipe
deriving DecidableEq, Repr

namespace NetworkError

def kind : NetworkError → String
  | .nameInUse _ => "AddrInUse"
  | .notFound _ => "NotFound"
  | .refused _ => "ConnectionRefused"
  | .injected => "BrokenPipe"
  | .brokenPipe => "BrokenPipe"

def message : NetworkError → String
  | .nameInUse name => name
  | .notFound name => name
  | .refused name => name
  | .injected => "injected failure"
  | .brokenPipe => "broken pipe"

end NetworkError

/-- What comes of an operation that may have to wait. -/
inductive Progress (α : Type) where
  | done (value : α)
  | pending
  | failed (error : NetworkError)
deriving DecidableEq, Repr

/-! ## Pipes -/

/-- The bytes on their way in one direction, and whether more may follow. -/
structure Pipe where
  bytes : List UInt8
  closed : Bool
deriving DecidableEq, Repr

namespace Pipe

/-- The most bytes that a pipe holds. -/
def capacity : Nat := 65536

def fresh : Pipe := ⟨[], false⟩

def room (p : Pipe) : Nat := capacity - p.bytes.length

def close (p : Pipe) : Pipe := { p with closed := true }

/-- Reads at most `max` bytes. No bytes from a pipe that holds none mean that it is closed. -/
def read (p : Pipe) (max : Nat) : Progress (List UInt8) × Pipe :=
  if p.bytes.isEmpty then (if p.closed then .done [] else .pending, p)
  else (.done (p.bytes.take max), { p with bytes := p.bytes.drop max })

/-- Writes as many of the given bytes as the pipe can take. -/
def write (p : Pipe) (bytes : List UInt8) : Progress Nat × Pipe :=
  if p.closed then (.failed .brokenPipe, p)
  else if p.room = 0 then (.pending, p)
  else
    let n := min p.room bytes.length
    (.done n, { p with bytes := p.bytes ++ bytes.take n })

end Pipe

end KeyBridge
