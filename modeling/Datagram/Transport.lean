import Datagram.Duration
import Datagram.Buffer.Storage
import Datagram.Event

/-!
# Transports

A transport carries datagrams for the sockets above it. Its calls act on a state of any type `σ`;
each gives an answer, the next state and the events that it reports meanwhile. Reporting the local
port of a handle is optional: without `localPort` the port of every handle is unknown and nothing
reaches the transport.

`Call` records a call together with its answer.
-/

namespace Datagram

inductive Readiness where
  | readable
  | errored
  | timedOut
deriving DecidableEq

namespace Readiness

def text : Readiness → String
  | readable => "Readable"
  | errored => "Errored"
  | timedOut => "TimedOut"

/-- A pending error is picked up by receiving, just like a datagram. -/
def shouldReceive (r : Readiness) : Bool := r != .timedOut

end Readiness

/-- What a receiving transport does: the bytes that it wrote to the start of the buffer, and the
length that it claims with the sender, or why it failed. -/
structure Delivery where
  written : Bytes
  outcome : Result (Nat × Endpoint)

structure Reply (σ α : Type) where
  answer : α
  state : σ
  events : List Event := []

structure Transport (σ : Type) where
  create : σ → Reply σ (Result Handle)
  bind : Handle → UInt16 → σ → Reply σ (Result Unit)
  send : Handle → Bytes → Endpoint → σ → Reply σ (Result Nat)
  receive : Handle → Nat → σ → Reply σ Delivery
  poll : Handle → Duration → σ → Reply σ (Result Readiness)
  close : Handle → σ → Reply σ (Result Unit)
  localPort : Option (Handle → σ → Reply σ (Option UInt16)) := none

def Transport.withoutLocalPort (T : Transport σ) : Transport σ := { T with localPort := none }

inductive Call where
  | create (answer : Result Handle)
  | bind (handle : Handle) (port : UInt16) (answer : Result Unit)
  | send (handle : Handle) (data : Bytes) (target : Endpoint) (answer : Result Nat)
  | receive (handle : Handle) (capacity : Nat) (answer : Delivery)
  | poll (handle : Handle) (timeout : Duration) (answer : Result Readiness)
  | close (handle : Handle) (answer : Result Unit)
  | localPort (handle : Handle) (answer : Option UInt16)

end Datagram
