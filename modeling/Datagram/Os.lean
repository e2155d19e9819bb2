import Datagram.Address.Ipv6
import Datagram.Buffer.Storage
import Datagram.Duration
import Datagram.Failure

/-!
# What is asked of an operating system

The datagram sockets of an operating system, as operations on a state of any type `ω`. A descriptor
stands for one bound socket. Only sending, receiving, binding and closing need to change what later
calls answer, and any of the calls that can fail may fail at any time.
-/

namespace Datagram

structure Descriptor where
  raw : Nat
deriving DecidableEq

/-- The bytes written to the start of the buffer, and their number with the sender. -/
structure OsDelivery where
  written : Bytes
  outcome : Except IoFailure (Nat × SocketAddress)

structure Os (ω : Type) where
  bind : Ipv4 → UInt16 → ω → Except IoFailure Descriptor × ω
  duplicate : Descriptor → ω → Except IoFailure Unit × ω
  setReadTimeout : Descriptor → Duration → ω → Except IoFailure Unit × ω
  peek : Descriptor → ω → Except IoFailure Unit × ω
  send : Descriptor → Bytes → Endpoint → ω → Except IoFailure Nat × ω
  receive : Descriptor → Nat → ω → OsDelivery × ω
  localPort : Descriptor → ω → Option UInt16
  close : Descriptor → ω → ω

end Datagram
