import Datagram.Buffer.Stream
import Datagram.Buffer.Transmit
import Datagram.Config
import Datagram.World

/-!
# Datagram sockets

A socket buffers one packet in each direction. It is bound or unbound; what it holds while it is
bound, the transport's handle, the local port and the lease of a slot, is its `Binding`. `begin`
acquires these and `stop` gives them back. A socket that is bound already is stopped first.

Outgoing packets are started with `beginPacket`, filled with `write` and sent with `endPacket`, which
keeps the destination, and on failure the bytes as well. `parsePacket` polls for as long as the
configuration allows and receives at most one datagram; nothing else puts bytes into the receive
buffer. Sending and receiving need a bound socket, and none of them binds it.
-/

namespace Datagram

structure Binding where
  handle : Handle
  port : UInt16
  lease : Lease
deriving DecidableEq

inductive BindingState where
  | unbound
  | bound
deriving DecidableEq

def BindingState.initial : BindingState := unbound

def BindingState.text : BindingState → String
  | unbound => "Unbound"
  | bound => "Bound"

structure Socket where
  table : Nat
  config : Config
  binding : Option Binding
  tx : TransmitBuffer
  rx : ReceiveBuffer
  destination : Option Endpoint
  remote : Option Endpoint
deriving DecidableEq

namespace Socket

variable {σ ρ : Type}

def ofConfig (table : Nat) (config : Config) : Socket :=
  let config := config.clamped
  { table, config
    binding := none
    tx := .ofCapacity config.txCapacity.toNat
    rx := .ofCapacity config.rxCapacity.toNat
    destination := none
    remote := none }

def isBound (s : Socket) : Bool := s.binding.isSome

def state (s : Socket) : BindingState := if s.isBound then .bound else .unbound

def localPort (s : Socket) : Option UInt16 := s.binding.map (·.port)

def slot (s : Socket) : Option Nat := s.binding.map (·.lease.slot)

def receiveState (s : Socket) : ReceiveState := s.rx.state

def available (s : Socket) : Nat := s.rx.available

def peek (s : Socket) : Option UInt8 := s.rx.peek

def pendingLen (s : Socket) : Nat := s.tx.len

def remoteIp (s : Socket) : Ipv4 := (s.remote.map (·.ip)).getD .unspecified

def remotePort (s : Socket) : UInt16 := (s.remote.map (·.port)).getD 0

def handle (s : Socket) : Result Handle :=
  match s.binding with
  | some b => .ok b.handle
  | none => .error .notBound

def flush (s : Socket) : Socket := { s with rx := s.rx.clear }

/-- The socket without binding, packets and destination. The last sender stays known. -/
def released (s : Socket) : Socket :=
  { s with binding := none, rx := s.rx.clear, tx := s.tx.clear, destination := none }

/-- Closes the handle of a binding and then frees its slot. A close that fails is reported. -/
def giveBack (T : Transport σ) (b : Binding) (w : World σ) : World σ :=
  let (closed, w) := w.close T b.handle
  let w :=
    match closed with
    | .ok _ => w
    | .error e => w.emit (.closeFailed b.handle e)
  (w.emit (.stopped b.port b.lease.slot)).release b.lease

def stop (T : Transport σ) (s : Socket) (w : World σ) : Socket × World σ :=
  match s.binding with
  | none => (s.released, w)
  | some b => (s.released, giveBack T b w)

/-- Binds a fresh handle. On failure the handle is closed again, and that failure is the answer
whether or not the close succeeds. -/
def bindHandle (T : Transport σ) (h : Handle) (port : UInt16) (w : World σ) :
    Result Unit × World σ :=
  let (answer, w) := w.bind T h port
  match answer with
  | .ok _ => (.ok (), w)
  | .error e =>
    let (closed, w) := w.close T h
    match closed with
    | .ok _ => (.error e, w)
    | .error c => (.error e, w.emit (.bindCleanupFailed h c))

/-- Creates a handle, binds it and records its port under the lease. The port is the one that the
transport reports, or else the one asked for. -/
def openHandle (T : Transport σ) (lease : Lease) (port : UInt16) (w : World σ) :
    Result Binding × World σ :=
  let (created, w) := w.create T
  match created with
  | .error e => (.error e, w)
  | .ok h =>
    let (answer, w) := bindHandle T h port w
    match answer with
    | .error e => (.error e, w)
    | .ok _ =>
      let (reported, w) := w.localPort T h
      let port := reported.getD port
      (.ok ⟨h, port, lease⟩, (w.setPort lease port).emit (.bound h port lease.slot))

/-- A binding, or a failure after which the slot is free again. -/
def acquireBinding (T : Transport σ) (table : Nat) (port : UInt16) (w : World σ) :
    Result Binding × World σ :=
  let (acquired, w) := w.acquire table
  match acquired with
  | .error e => (.error e, w)
  | .ok lease =>
    let (answer, w) := openHandle T lease port w
    match answer with
    | .ok b => (.ok b, w)
    | .error e => (.error e, w.release lease)

def beginUnbound (T : Transport σ) (port : UInt16) (s : Socket) (w : World σ) :
    Result Unit × Socket × World σ :=
  let (answer, w) := acquireBinding T s.table port w
  match answer with
  | .ok b => (.ok (), { s with binding := some b }, w)
  | .error e => (.error e, s, w)

def begin (T : Transport σ) (port : UInt16) (s : Socket) (w : World σ) :
    Result Unit × Socket × World σ :=
  match s.binding with
  | none => beginUnbound T port s w
  | some b =>
    let (s, w) := stop T s (w.emit (.rebinding b.port port))
    beginUnbound T port s w

def beginPacket (destination : Endpoint) (s : Socket) : Result Unit × Socket :=
  match s.handle with
  | .error e => (.error e, s)
  | .ok _ => (.ok (), { s with destination := some destination, tx := s.tx.clear })

/-- Starts a packet to the last sender. -/
def beginReply (s : Socket) : Result Unit × Socket := s.beginPacket ⟨s.remoteIp, s.remotePort⟩

/-- Resolves `host` and starts a packet to it. The resolver is not asked by an unbound socket. -/
def beginPacketToHost (resolve : String → ρ → Reply ρ (Result Ipv4)) (host : String)
    (port : UInt16) (s : Socket) (w : World σ) (r : ρ) : Result Unit × Socket × World σ × ρ :=
  match s.handle with
  | .error e => (.error e, s, w, r)
  | .ok _ =>
    let reply := resolve host r
    let w := w.emitAll reply.events
    match reply.answer with
    | .error e => (.error e, s, w, reply.state)
    | .ok ip =>
      let (answer, s) := s.beginPacket ⟨ip, port⟩
      (answer, s, w.emit (.destinationResolved host ip), reply.state)

def write (bytes : Bytes) (s : Socket) (w : World σ) : Result Nat × Socket × World σ :=
  match s.handle with
  | .error e => (.error e, s, w)
  | .ok _ =>
    let (accepted, tx) := s.tx.append bytes
    let w := if accepted < bytes.length then w.emit (.truncated bytes.length accepted) else w
    (.ok accepted, { s with tx }, w)

def endPacket (T : Transport σ) (s : Socket) (w : World σ) : Result Nat × Socket × World σ :=
  match s.handle, s.destination with
  | .error e, _ => (.error e, s, w)
  | .ok _, none => (.error .noDestination, s, w)
  | .ok h, some destination =>
    let (answer, w) := w.send T h s.tx.contents destination
    match answer with
    | .error e => (.error e, s, w)
    | .ok count => (.ok count, { s with tx := s.tx.clear }, w.emit (.sent destination count))

/-- Receives one datagram into the buffer of a socket. -/
def receive (T : Transport σ) (h : Handle) (s : Socket) (w : World σ) :
    Result Nat × Socket × World σ :=
  let (delivery, w) := w.receive T h s.rx.capacity
  let rx := s.rx.fill delivery.written
  match delivery.outcome with
  | .error e => (.error e, { s with rx := rx.clear }, w)
  | .ok (claim, source) =>
    let rx := rx.load claim
    (.ok rx.available, { s with rx, remote := some source }, w.emit (.received source claim))

def parsePacket (T : Transport σ) (s : Socket) (w : World σ) : Result Nat × Socket × World σ :=
  match s.handle with
  | .error e => (.error e, s, w)
  | .ok h =>
    let (polled, w) := w.poll T h s.config.pollTimeout
    match polled with
    | .error e => (.error e, s, w)
    | .ok readiness => if readiness.shouldReceive then receive T h s w else (.ok 0, s, w)

def readByte (s : Socket) : Option UInt8 × Socket :=
  let (byte, rx) := s.rx.readByte
  (byte, { s with rx })

def read (out : Bytes) (s : Socket) : Nat × Bytes × Socket :=
  let (count, out, rx) := s.rx.readInto out
  (count, out, { s with rx })

/-- Ports are written in decimal unless `ports` has a name for them. -/
def outline (ports : PortText) (s : Socket) : Outline :=
  .record "DatagramSocket"
    [("state", .leaf s.state.text),
      ("local_port", .ofOption (fun port => .leaf (ports port)) s.localPort),
      ("receive_state", .leaf s.receiveState.text),
      ("available", .ofNat s.available),
      ("pending_len", .ofNat s.pendingLen),
      ("remote", .ofOption (fun remote => .leaf (remote.textWith ports)) s.remote)]

end Socket
end Datagram
