import Datagram.Failure

/-!
# Slot tables

A slot table is a pool of a fixed number of socket slots. A slot that is leased may have a port
recorded for it. `acquire` leases the lowest free slot and starts without a port, `release` gives
a slot back and forgets its port. `setPort` writes to any slot in range, leased or not: a lease is
what entitles its holder to call it.
-/

namespace Datagram

def defaultSlotCount : Nat := 8

structure SlotEntry where
  leased : Bool := false
  port : UInt16 := 0
deriving DecidableEq

structure SlotTable where
  entries : List SlotEntry
deriving DecidableEq

def slotText (slot : Nat) : String := "slot-" ++ toString slot

def slotOutline (slot : Nat) : Outline := .case "SlotId" [.ofNat slot]

namespace SlotEntry

def free : SlotEntry := {}

/-- The port that others may look up: only that of a leased slot, and never zero. -/
def visiblePort (entry : SlotEntry) : Option UInt16 :=
  if entry.leased && entry.port != 0 then some entry.port else none

end SlotEntry

namespace SlotTable

def ofCapacity (capacity : Nat) : SlotTable := ⟨List.replicate capacity .free⟩

def empty : SlotTable := ofCapacity 0

def capacity (t : SlotTable) : Nat := t.entries.length

def inUse (t : SlotTable) : Nat := t.entries.countP (·.leased)

def lowestFree? (t : SlotTable) : Option Nat := t.entries.findIdx? fun entry => !entry.leased

def put (t : SlotTable) (slot : Nat) (entry : SlotEntry) : SlotTable := ⟨t.entries.set slot entry⟩

def acquire (t : SlotTable) : Result (Nat × SlotTable) :=
  match t.lowestFree? with
  | none => .error (.noFreeSlot t.capacity)
  | some slot => .ok (slot, t.put slot { leased := true })

def setPort (t : SlotTable) (slot : Nat) (port : UInt16) : SlotTable :=
  ⟨t.entries.modify slot fun entry => { entry with port }⟩

def release (t : SlotTable) (slot : Nat) : SlotTable := t.put slot .free

def portFor (t : SlotTable) (slot : Nat) : Option UInt16 :=
  t.entries[slot]?.bind SlotEntry.visiblePort

def boundPorts (t : SlotTable) : List (Nat × UInt16) :=
  t.entries.zipIdx.filterMap fun (entry, slot) => entry.visiblePort.map fun port => (slot, port)

def outline (t : SlotTable) : Outline :=
  .record "SlotTable" [("capacity", .ofNat t.capacity), ("in_use", .ofNat t.inUse)]

end SlotTable
end Datagram
