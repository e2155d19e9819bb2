import Datagram.Os

/-!
# The network inside one machine

A model of the datagram sockets of one machine without any network but its loopback interface.
Every bound port has a queue. A datagram that is sent to a bound port is queued there at once with
the sender's address; one sent to a port that nobody holds is lost. Receiving takes the front of the
queue and drops what exceeds the buffer, peeking takes nothing, and closing discards the queue.

While the loopback interface is down no address can be reached, except that `0.0.0.0` always means
the machine itself; such a datagram is lost. Then no address counts as foreign either, and sockets
can be bound to any.
-/

namespace Datagram

structure Packet where
  data : Bytes
  source : Endpoint
deriving DecidableEq

structure BoundPort where
  descriptor : Descriptor
  address : Ipv4
  port : UInt16
  queue : List Packet := []
deriving DecidableEq

structure Network where
  loopbackUp : Bool
  bound : List BoundPort := []
  nextDescriptor : Nat := 0
  nextPort : UInt16 := 32768
deriving DecidableEq

namespace Network

def loopback : Network := { loopbackUp := true }

def isolated : Network := { loopbackUp := false }

def permissionDenied : IoFailure := .system 13 .permissionDenied "Permission denied"

def addressInUse : IoFailure := .system 98 .addrInUse "Address already in use"

def addressNotAvailable : IoFailure :=
  .system 99 .addrNotAvailable "Cannot assign requested address"

def invalidArgument : IoFailure := .system 22 .invalidInput "Invalid argument"

def messageTooLong : IoFailure := .system 90 .uncategorized "Message too long"

def unreachable : IoFailure := .system 101 .networkUnreachable "Network is unreachable"

def nothingQueued : IoFailure := .system 11 .wouldBlock "Resource temporarily unavailable"

def badDescriptor : IoFailure := .system 9 .uncategorized "Bad file descriptor"

/-- The ports that the system picks from, and the first one open to everybody. -/
def firstPicked : UInt16 := 32768

def lastPicked : UInt16 := 60999

def firstOpen : UInt16 := 1024

/-- The longest payload, and the longest that is looked at before the way to the target is. -/
def longestPayload : Nat := 65507

def longestRequest : Nat := 65535

def find? (n : Network) (d : Descriptor) : Option BoundPort :=
  n.bound.find? fun b => b.descriptor = d

/-- Two sockets want the same port where their addresses are equal or either is unspecified. -/
def overlaps (a b : Ipv4) : Bool := a = b || a = .unspecified || b = .unspecified

def taken (n : Network) (address : Ipv4) (port : UInt16) : Bool :=
  n.bound.any fun b => b.port = port && overlaps b.address address

def following (port : UInt16) : UInt16 :=
  if port = lastPicked then firstPicked else port + 1

/-- The first free port of the next `count` ones. -/
def pickFrom (n : Network) (address : Ipv4) (port : UInt16) : Nat → Option UInt16
  | 0 => none
  | count + 1 =>
    if n.taken address port then n.pickFrom address (following port) count else some port

def pick? (n : Network) (address : Ipv4) : Option UInt16 :=
  n.pickFrom address n.nextPort (lastPicked.toNat + 1 - firstPicked.toNat)

def canBind (n : Network) (address : Ipv4) : Bool :=
  !n.loopbackUp || address = .unspecified || address.isLoopback

def add (n : Network) (address : Ipv4) (port : UInt16) : Descriptor × Network :=
  let descriptor : Descriptor := ⟨n.nextDescriptor⟩
  (descriptor,
    { n with
      nextDescriptor := n.nextDescriptor + 1
      bound := n.bound ++ [{ descriptor, address, port }] })

def bind (address : Ipv4) (port : UInt16) (n : Network) :
    Except IoFailure Descriptor × Network :=
  if !n.canBind address then (.error addressNotAvailable, n)
  else if port = 0 then
    match n.pick? address with
    | none => (.error addressInUse, n)
    | some port =>
      let (d, n) := { n with nextPort := following port }.add address port
      (.ok d, n)
  else if port < firstOpen then (.error permissionDenied, n)
  else if n.taken address port then (.error addressInUse, n)
  else
    let (d, n) := n.add address port
    (.ok d, n)

/-- A datagram sent to the unspecified address goes to the machine itself. -/
def reaches (n : Network) (target : Ipv4) : Bool :=
  target = .unspecified || (n.loopbackUp && target.isLoopback)

def orLocalhost (ip : Ipv4) : Ipv4 := if ip = .unspecified then .localhost else ip

def accepts (target : Endpoint) (b : BoundPort) : Bool :=
  b.port = target.port && overlaps b.address (orLocalhost target.ip)

/-- Queues a datagram at the first socket that accepts it. -/
def enqueue (datagram : Packet) (target : Endpoint) : List BoundPort → List BoundPort
  | [] => []
  | b :: rest =>
    if accepts target b then { b with queue := b.queue ++ [datagram] } :: rest
    else b :: enqueue datagram target rest

def deliver (n : Network) (datagram : Packet) (target : Endpoint) : Network :=
  if n.loopbackUp then { n with bound := enqueue datagram target n.bound } else n

def send (d : Descriptor) (data : Bytes) (target : Endpoint) (n : Network) :
    Except IoFailure Nat × Network :=
  match n.find? d with
  | none => (.error badDescriptor, n)
  | some sender =>
    if longestRequest < data.length then (.error messageTooLong, n)
    else if target.port = 0 then (.error invalidArgument, n)
    else if !n.reaches target.ip then (.error unreachable, n)
    else if longestPayload < data.length then (.error messageTooLong, n)
    else
      let source : Endpoint := ⟨orLocalhost sender.address, sender.port⟩
      (.ok data.length, n.deliver ⟨data, source⟩ target)

def setQueue (n : Network) (d : Descriptor) (queue : List Packet) : Network :=
  { n with bound := n.bound.map fun b => if b.descriptor = d then { b with queue } else b }

def receive (d : Descriptor) (capacity : Nat) (n : Network) : OsDelivery × Network :=
  match n.find? d with
  | none => (⟨[], .error badDescriptor⟩, n)
  | some b =>
    match b.queue with
    | [] => (⟨[], .error nothingQueued⟩, n)
    | datagram :: rest =>
      let copied := datagram.data.take capacity
      (⟨copied, .ok (copied.length, .v4 datagram.source)⟩, n.setQueue d rest)

def peek (d : Descriptor) (n : Network) : Except IoFailure Unit × Network :=
  match n.find? d with
  | none => (.error badDescriptor, n)
  | some b => (if b.queue.isEmpty then .error nothingQueued else .ok (), n)

def close (d : Descriptor) (n : Network) : Network :=
  { n with bound := n.bound.filter fun b => b.descriptor ≠ d }

def os : Os Network where
  bind := bind
  duplicate _ n := (.ok (), n)
  setReadTimeout _ _ n := (.ok (), n)
  peek := peek
  send := send
  receive := receive
  localPort d n := (n.find? d).map (·.port)
  close := close

end Network
end Datagram
