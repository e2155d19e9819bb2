import Datagram.Resolver
import Datagram.Socket

/-!
# Sessions

A session is any number of sockets, slot tables and leases over one transport. Tables are shared
through handles: a clone is a further handle to the same slots. A lease taken outside of a socket
gets a ticket, which remembers its slot even when the lease has been given back.

A `Step` is one operation on the session, `Session.step` performs it and gives its `Answer`. `run`
performs a list of steps in order.
-/

namespace Datagram

structure SocketSpec where
  table : Nat
  txCapacity : Option UInt64 := none
  rxCapacity : Option UInt64 := none
  pollTimeout : Option Duration := none

def SocketSpec.config (spec : SocketSpec) : Config :=
  { txCapacity := spec.txCapacity.getD Config.standard.txCapacity
    rxCapacity := spec.rxCapacity.getD Config.standard.rxCapacity
    pollTimeout := spec.pollTimeout.getD Config.standard.pollTimeout }

/-- Calls made on the transport itself, past every socket. -/
inductive RawCall where
  | create
  | bind (handle : Handle) (port : UInt16)
  | send (handle : Handle) (data : Bytes) (target : Endpoint)
  | receive (handle : Handle) (out : Bytes)
  | poll (handle : Handle) (timeout : Duration)
  | close (handle : Handle)
  | localPort (handle : Handle)

inductive SocketStep where
  | begin (port : UInt16)
  | stop
  | flush
  | beginPacket (destination : Endpoint)
  | beginReply
  | beginPacketToHost (host : String) (port : UInt16) (lookup : Lookup)
  | write (data : Bytes)
  | endPacket
  | parsePacket
  | readByte
  | read (out : Bytes)
  | readExact (out : Bytes)
  | readToEnd
  | readToString
  | config
  | describe

inductive Step where
  | socket (socket : Nat) (step : SocketStep)
  | raw (call : RawCall)
  | drop (socket : Nat)
  | construct (spec : SocketSpec)
  | acquire (table : Nat)
  | release (ticket : Nat)
  | setPort (ticket : Nat) (port : UInt16)
  | leaseOutline (ticket : Nat)
  | compareSlots (first second : Nat)
  | portOfTicket (table : Nat) (ticket : Nat)
  | portOfSocket (table : Nat) (socket : Nat)
  | cloneTable (table : Nat)
  | table (table : Nat)

inductive Answer where
  | nothing
  | unit (result : Result Unit)
  | asked (result : Result Unit) (hosts : List String)
  | count (result : Result Nat)
  | byte (byte : Option UInt8)
  | bytes (count : Nat) (out : Bytes)
  | exact (result : Except StreamFailure Unit) (out : Bytes)
  | string (result : Except StreamFailure (Nat × String))
  | config (config : Config)
  | socket (socket : Socket)
  | outline (outline : Outline)
  | handle (result : Result Handle)
  | received (result : Result (Nat × Endpoint)) (out : Bytes)
  | readiness (result : Result Readiness)
  | port (port : Option UInt16)
  | lease (ticket : Nat) (result : Result Nat)
  | done (done : Bool)
  | order (order : Option Ordering)
  | index (index : Nat)
  | table (capacity : Nat) (outline : Outline)

/-- A lease by its number: the slot it was given, if any, and whether it is still held. -/
structure Ticket where
  lease : Option Lease
  held : Bool

structure Session (σ : Type) where
  world : World σ
  handles : List Nat
  sockets : List (Option Socket)
  tickets : List Ticket

namespace Socket

variable {σ : Type} (T : Transport σ)

/-- The chunk in which `readToEnd` and `readToString` read; its size never shows. -/
def streamChunk : Nat := 1024

def perform (s : Socket) (w : World σ) : SocketStep → Answer × Socket × World σ
  | .begin port =>
    let (r, s, w) := s.begin T port w
    (.unit r, s, w)
  | .stop =>
    let (s, w) := s.stop T w
    (.nothing, s, w)
  | .flush => (.nothing, s.flush, w)
  | .beginPacket destination =>
    let (r, s) := s.beginPacket destination
    (.unit r, s, w)
  | .beginReply =>
    let (r, s) := s.beginReply
    (.unit r, s, w)
  | .beginPacketToHost host port lookup =>
    let (r, s, w, asked) := s.beginPacketToHost lookup.askWith host port w []
    (.asked r asked, s, w)
  | .write data =>
    let (r, s, w) := s.write data w
    (.count r, s, w)
  | .endPacket =>
    let (r, s, w) := s.endPacket T w
    (.count r, s, w)
  | .parsePacket =>
    let (r, s, w) := s.parsePacket T w
    (.count r, s, w)
  | .readByte =>
    let (byte, s) := s.readByte
    (.byte byte, s, w)
  | .read out =>
    let (count, out, s) := s.read out
    (.bytes count out, s, w)
  | .readExact out =>
    let (r, out, rx) := s.rx.readExact out
    (.exact r out, { s with rx }, w)
  | .readToEnd =>
    let (bytes, rx) := s.rx.readToEnd streamChunk
    (.bytes bytes.length bytes, { s with rx }, w)
  | .readToString =>
    let (r, rx) := s.rx.readToString streamChunk
    (.string r, { s with rx }, w)
  | .config => (.config s.config, s, w)
  | .describe => (.socket s, s, w)

end Socket

namespace Session

variable {σ : Type} (T : Transport σ)

def ofTables (transport : σ) (tables : List SlotTable) (sockets : List SocketSpec) : Session σ :=
  { world := { tables, transport }
    handles := List.range tables.length
    sockets := sockets.map fun spec => some (.ofConfig spec.table spec.config)
    tickets := [] }

/-- The table behind a handle. -/
def tableOf (ss : Session σ) (handle : Nat) : Nat := ss.handles.getD handle handle

def socket? (ss : Session σ) (i : Nat) : Option Socket := (ss.sockets[i]?).join

def slotOf? (ss : Session σ) (ticket : Nat) : Option Nat :=
  (ss.tickets[ticket]?).bind fun t => t.lease.map (·.slot)

def heldLease? (ss : Session σ) (ticket : Nat) : Option Lease :=
  (ss.tickets[ticket]?).bind fun t => if t.held then t.lease else none

def rawCall (w : World σ) : RawCall → Answer × World σ
  | .create =>
    let (r, w) := w.create T
    (.handle r, w)
  | .bind h port =>
    let (r, w) := w.bind T h port
    (.unit r, w)
  | .send h data target =>
    let (r, w) := w.send T h data target
    (.count r, w)
  | .receive h out =>
    let (d, w) := w.receive T h out.length
    (.received d.outcome (out.overwrite 0 d.written), w)
  | .poll h timeout =>
    let (r, w) := w.poll T h timeout
    (.readiness r, w)
  | .close h =>
    let (r, w) := w.close T h
    (.unit r, w)
  | .localPort h =>
    let (port, w) := w.localPort T h
    (.port port, w)

def leaseOutline (w : World σ) (lease : Lease) : Outline :=
  .record "SlotLease"
    [("table", (w.table lease.table).outline), ("id", slotOutline lease.slot)]

def step (ss : Session σ) : Step → Answer × Session σ
  | .socket i step =>
    match ss.socket? i with
    | none => (.nothing, ss)
    | some s =>
      let (answer, s, world) := s.perform T ss.world step
      (answer, { ss with world, sockets := ss.sockets.set i (some s) })
  | .raw call =>
    let (answer, world) := rawCall T ss.world call
    (answer, { ss with world })
  | .drop i =>
    match ss.socket? i with
    | none => (.nothing, ss)
    | some s =>
      let (_, world) := s.stop T ss.world
      (.nothing, { ss with world, sockets := ss.sockets.set i none })
  | .construct spec =>
    let socket := Socket.ofConfig (ss.tableOf spec.table) spec.config
    (.index ss.sockets.length, { ss with sockets := ss.sockets ++ [some socket] })
  | .acquire table =>
    let (acquired, world) := ss.world.acquire (ss.tableOf table)
    let lease := acquired.toOption
    (.lease ss.tickets.length (acquired.map (·.slot)),
      { ss with world, tickets := ss.tickets ++ [⟨lease, lease.isSome⟩] })
  | .release ticket =>
    match ss.heldLease? ticket with
    | none => (.done false, ss)
    | some lease =>
      (.done true,
        { ss with
          world := ss.world.release lease
          tickets := ss.tickets.modify ticket fun t => { t with held := false } })
  | .setPort ticket port =>
    match ss.heldLease? ticket with
    | none => (.done false, ss)
    | some lease => (.done true, { ss with world := ss.world.setPort lease port })
  | .leaseOutline ticket =>
    match ss.heldLease? ticket with
    | none => (.nothing, ss)
    | some lease => (.outline (leaseOutline ss.world lease), ss)
  | .compareSlots first second =>
    let order := do
      let a ← ss.slotOf? first
      let b ← ss.slotOf? second
      pure (compare a b)
    (.order order, ss)
  | .portOfTicket table ticket =>
    (.port ((ss.slotOf? ticket).bind (ss.world.table (ss.tableOf table)).portFor), ss)
  | .portOfSocket table i =>
    let slot := (ss.socket? i).bind Socket.slot
    (.port (slot.bind (ss.world.table (ss.tableOf table)).portFor), ss)
  | .cloneTable table =>
    (.index ss.handles.length, { ss with handles := ss.handles ++ [ss.tableOf table] })
  | .table table =>
    let t := ss.world.table (ss.tableOf table)
    (.table t.capacity t.outline, ss)

def run (ss : Session σ) : List Step → List Answer × Session σ
  | [] => ([], ss)
  | step :: rest =>
    let (answer, ss) := ss.step T step
    let (answers, ss) := run ss rest
    (answer :: answers, ss)

/-- The tables as their handles show them, in the order of the handles. -/
def tables (ss : Session σ) : List SlotTable := ss.handles.map ss.world.table

/-- What has been written down since the world's history had `mark` records. -/
def since (ss : Session σ) (mark : Nat) : List Record := ss.world.history.drop mark

end Session
end Datagram
