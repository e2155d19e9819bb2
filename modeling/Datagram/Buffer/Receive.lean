import Datagram.Buffer.Storage

/-!
# The receive buffer

A receive buffer holds the packet received last and a cursor to its next unread byte. A transport
writes into the storage (`fill`) and claims a length, which `load` cuts down to the storage: bytes
under the claim that were not written keep their former value. Clearing zeroes the whole storage.

The state is not kept but read off length and cursor.
-/

namespace Datagram

inductive ReceiveState where
  | idle
  | packetReady
  | drained
deriving DecidableEq

structure ReceiveBuffer where
  storage : Bytes
  len : Nat
  cursor : Nat
deriving DecidableEq

namespace ReceiveState

def initial : ReceiveState := idle

def text : ReceiveState → String
  | idle => "Idle"
  | packetReady => "PacketReady"
  | drained => "Drained"

end ReceiveState

namespace ReceiveBuffer

def ofCapacity (capacity : Nat) : ReceiveBuffer := ⟨Bytes.zeros capacity, 0, 0⟩

def capacity (b : ReceiveBuffer) : Nat := b.storage.length

def fill (b : ReceiveBuffer) (written : Bytes) : ReceiveBuffer :=
  { b with storage := b.storage.overwrite 0 written }

def load (b : ReceiveBuffer) (claim : Nat) : ReceiveBuffer :=
  { b with len := min claim b.capacity, cursor := 0 }

def available (b : ReceiveBuffer) : Nat := b.len - b.cursor

def unread (b : ReceiveBuffer) : Bytes := (b.storage.take b.len).drop b.cursor

def state (b : ReceiveBuffer) : ReceiveState :=
  if b.len = 0 then .idle else if b.cursor < b.len then .packetReady else .drained

def peek (b : ReceiveBuffer) : Option UInt8 :=
  if b.cursor < b.len then b.storage[b.cursor]? else none

def readByte (b : ReceiveBuffer) : Option UInt8 × ReceiveBuffer :=
  match b.peek with
  | some byte => (some byte, { b with cursor := b.cursor + 1 })
  | none => (none, b)

/-- Copies unread bytes to the start of `out`: their number, `out` afterwards and the buffer. -/
def readInto (b : ReceiveBuffer) (out : Bytes) : Nat × Bytes × ReceiveBuffer :=
  let count := min out.length b.available
  (count, out.overwrite 0 ((b.storage.drop b.cursor).take count),
    { b with cursor := b.cursor + count })

def clear (b : ReceiveBuffer) : ReceiveBuffer := ofCapacity b.capacity

end ReceiveBuffer
end Datagram
