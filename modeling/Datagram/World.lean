import Datagram.SlotTable
import Datagram.Transport

/-!
# The world that sockets share

Slot tables, the transport's state, and the history of what has happened: every call that reached
the transport, with the slot tables as they were at that moment, and every event, in order.

The operations below are the only way in which sockets touch the world. A lease names a slot of a
table; who holds it may record a port for the slot and give it back.
-/

namespace Datagram

inductive Record where
  | call (call : Call) (tables : List SlotTable)
  | event (event : Event)

def Record.event? : Record → Option Event
  | .event e => some e
  | .call _ _ => none

def Record.call? : Record → Option (Call × List SlotTable)
  | .call c tables => some (c, tables)
  | .event _ => none

structure Lease where
  table : Nat
  slot : Nat
deriving DecidableEq

structure World (σ : Type) where
  tables : List SlotTable
  transport : σ
  history : List Record := []

namespace World

variable {σ α : Type}

def table (w : World σ) (i : Nat) : SlotTable := w.tables.getD i .empty

def setTable (w : World σ) (i : Nat) (t : SlotTable) : World σ :=
  { w with tables := w.tables.set i t }

def emit (w : World σ) (e : Event) : World σ := { w with history := w.history ++ [.event e] }

def emitAll (w : World σ) (events : List Event) : World σ :=
  { w with history := w.history ++ events.map .event }

def acquire (w : World σ) (i : Nat) : Result Lease × World σ :=
  match (w.table i).acquire with
  | .error e => (.error e, w.emit (.slotsExhausted (w.table i).capacity))
  | .ok (slot, t) => (.ok ⟨i, slot⟩, (w.setTable i t).emit (.slotAcquired slot))

def setPort (w : World σ) (lease : Lease) (port : UInt16) : World σ :=
  w.setTable lease.table ((w.table lease.table).setPort lease.slot port)

def release (w : World σ) (lease : Lease) : World σ :=
  (w.setTable lease.table ((w.table lease.table).release lease.slot)).emit
    (.slotReleased lease.slot)

/-- Performs a call and writes it down with the tables as they are, then the events it reports. -/
def perform (w : World σ) (call : σ → Reply σ α) (entry : α → Call) : α × World σ :=
  let reply := call w.transport
  let history := w.history ++ .call (entry reply.answer) w.tables :: reply.events.map .event
  (reply.answer, { w with transport := reply.state, history })

variable (T : Transport σ)

def create (w : World σ) : Result Handle × World σ := w.perform T.create .create

def bind (w : World σ) (h : Handle) (port : UInt16) : Result Unit × World σ :=
  w.perform (T.bind h port) (.bind h port)

def send (w : World σ) (h : Handle) (data : Bytes) (target : Endpoint) : Result Nat × World σ :=
  w.perform (T.send h data target) (.send h data target)

def receive (w : World σ) (h : Handle) (capacity : Nat) : Delivery × World σ :=
  w.perform (T.receive h capacity) (.receive h capacity)

def poll (w : World σ) (h : Handle) (timeout : Duration) : Result Readiness × World σ :=
  w.perform (T.poll h timeout) (.poll h timeout)

def close (w : World σ) (h : Handle) : Result Unit × World σ :=
  w.perform (T.close h) (.close h)

def localPort (w : World σ) (h : Handle) : Option UInt16 × World σ :=
  match T.localPort with
  | none => (none, w)
  | some ask => w.perform (ask h) (.localPort h)

end World
end Datagram
