import Datagram.Os
import Datagram.Transport

/-!
# The transport over an operating system

A table from handles to sockets of the operating system. Creating gives a handle that has no socket
yet, binding gives it one, and closing removes the handle and its socket. Handles count up from one
and are never given out twice: when the last one is reached, creating fails.

Sending, receiving and polling want a bound handle and work on a duplicate of its socket. Polling
peeks, waiting a millisecond at least; a failure to peek other than running out of time means that
an error is pending.
-/

namespace Datagram

structure Host (ω : Type) where
  bindAddress : Ipv4
  os : ω
  nextHandle : UInt32 := 1
  sockets : List (Handle × Option Descriptor) := []

namespace Host

variable {ω : Type} (O : Os ω)

def openSockets (s : Host ω) : Nat := s.sockets.length

def entry? (s : Host ω) (h : Handle) : Option (Option Descriptor) := s.sockets.lookup h

def setEntry (s : Host ω) (h : Handle) (entry : Option Descriptor) : Host ω :=
  { s with sockets := s.sockets.map fun (k, old) => if k = h then (k, entry) else (k, old) }

def remove (s : Host ω) (h : Handle) : Host ω :=
  { s with sockets := s.sockets.filter fun (k, _) => k ≠ h }

def lastHandle : UInt32 := UInt32.ofNat (UInt32.size - 1)

def create (s : Host ω) : Reply (Host ω) (Result Handle) :=
  if s.nextHandle = lastHandle then
    { answer := .error (.create "handle space exhausted"), state := s }
  else
    let handle : Handle := ⟨s.nextHandle⟩
    { answer := .ok handle
      state :=
        { s with nextHandle := s.nextHandle + 1, sockets := s.sockets ++ [(handle, none)] }
      events := [.hostCreated handle] }

def bind (h : Handle) (port : UInt16) (s : Host ω) : Reply (Host ω) (Result Unit) :=
  match s.entry? h with
  | none => { answer := .error (.invalidHandle h), state := s }
  | some (some _) => { answer := .error (.bind port "socket already bound"), state := s }
  | some none =>
    let (answer, os) := O.bind s.bindAddress port s.os
    let s := { s with os }
    match answer with
    | .error e => { answer := .error (.bind port e.message), state := s }
    | .ok d =>
      { answer := .ok (), state := s.setEntry h (some d), events := [.hostBound h port] }

/-- The socket of a bound handle, duplicated for the length of one call. -/
def boundSocket (h : Handle) (s : Host ω) : Result Descriptor × Host ω :=
  match s.entry? h with
  | none => (.error (.invalidHandle h), s)
  | some none => (.error .notBound, s)
  | some (some d) =>
    let (answer, os) := O.duplicate d s.os
    let s := { s with os }
    match answer with
    | .error e => (.error (.io e), s)
    | .ok _ => (.ok d, s)

def send (h : Handle) (data : Bytes) (target : Endpoint) (s : Host ω) :
    Reply (Host ω) (Result Nat) :=
  let (bound, s) := boundSocket O h s
  match bound with
  | .error e => { answer := .error e, state := s }
  | .ok d =>
    let (answer, os) := O.send d data target s.os
    { answer := answer.mapError fun e => .send e.message, state := { s with os } }

/-- What a delivery of the operating system means here: senders are IPv4. -/
def delivery (d : OsDelivery) : Delivery :=
  { written := d.written
    outcome :=
      match d.outcome with
      | .error e => .error (.receive e.message)
      | .ok (count, .v4 source) => .ok (count, source)
      | .ok (_, .v6 source) => .error (.receive ("unexpected IPv6 sender " ++ source.text)) }

def receive (h : Handle) (capacity : Nat) (s : Host ω) : Reply (Host ω) Delivery :=
  let (bound, s) := boundSocket O h s
  match bound with
  | .error e => { answer := ⟨[], .error e⟩, state := s }
  | .ok d =>
    let (received, os) := O.receive d capacity s.os
    { answer := delivery received, state := { s with os } }

def shortestPoll : Duration := .ofMillis 1

def outOfTime (e : IoFailure) : Bool := e.kind = .wouldBlock || e.kind = .timedOut

def peek (h : Handle) (d : Descriptor) (s : Host ω) : Reply (Host ω) (Result Readiness) :=
  let (answer, os) := O.peek d s.os
  let s := { s with os }
  match answer with
  | .ok _ => { answer := .ok .readable, state := s }
  | .error e =>
    if outOfTime e then { answer := .ok .timedOut, state := s }
    else { answer := .ok .errored, state := s, events := [.hostErrorPending h e] }

def poll (h : Handle) (timeout : Duration) (s : Host ω) : Reply (Host ω) (Result Readiness) :=
  let (bound, s) := boundSocket O h s
  match bound with
  | .error e => { answer := .error e, state := s }
  | .ok d =>
    let (answer, os) := O.setReadTimeout d (shortestPoll.atLeast timeout) s.os
    let s := { s with os }
    match answer with
    | .error e => { answer := .error (.poll e.message), state := s }
    | .ok _ => peek O h d s

def close (h : Handle) (s : Host ω) : Reply (Host ω) (Result Unit) :=
  match s.entry? h with
  | none => { answer := .error (.invalidHandle h), state := s }
  | some entry =>
    let os := match entry with
      | some d => O.close d s.os
      | none => s.os
    { answer := .ok (), state := { s with os }.remove h, events := [.hostClosed h] }

def portOf? (h : Handle) (s : Host ω) : Option UInt16 :=
  match s.entry? h with
  | some (some d) => O.localPort d s.os
  | _ => none

def transport : Transport (Host ω) where
  create := create
  bind := bind O
  send := send O
  receive := receive O
  poll := poll O
  close := close O
  localPort := some fun h s => { answer := portOf? O h s, state := s }

def outline (s : Host ω) : Outline :=
  .record "HostTransport"
    [("bind_address", .leaf s.bindAddress.text), ("open_sockets", .ofNat s.openSockets)]

end Host
end Datagram
