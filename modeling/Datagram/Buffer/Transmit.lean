import Datagram.Buffer.Storage

/-!
# The transmit buffer

A transmit buffer collects the payload of the next outgoing packet in storage of fixed size. What
does not fit is dropped. Clearing zeroes the bytes that were in use and no others.
-/

namespace Datagram

structure TransmitBuffer where
  storage : Bytes
  len : Nat
deriving DecidableEq

namespace TransmitBuffer

def ofCapacity (capacity : Nat) : TransmitBuffer := ⟨Bytes.zeros capacity, 0⟩

def capacity (b : TransmitBuffer) : Nat := b.storage.length

def contents (b : TransmitBuffer) : Bytes := b.storage.take b.len

/-- How many of `bytes` still fit. -/
def room (b : TransmitBuffer) (bytes : Bytes) : Nat := min bytes.length (b.capacity - b.len)

def append (b : TransmitBuffer) (bytes : Bytes) : Nat × TransmitBuffer :=
  let count := b.room bytes
  (count, ⟨b.storage.overwrite b.len (bytes.take count), b.len + count⟩)

def clear (b : TransmitBuffer) : TransmitBuffer :=
  ⟨b.storage.overwrite 0 (Bytes.zeros b.len), 0⟩

end TransmitBuffer
end Datagram
