import Datagram.Host
import Datagram.Network
import Datagram.PortNames
import Datagram.Session

/-!
# Sessions over the machine's own network

A session over one host transport. The ports that the system picks get names: every successful
`begin` or raw bind that asks for port zero names the port that it got.
-/

namespace Datagram

structure HostSession where
  session : Session (Host Network)
  names : PortNames := .empty

namespace HostSession

def transport : Transport (Host Network) := Host.transport Network.os

def ofTables (bindAddress : Ipv4) (network : Network) (tables : List SlotTable)
    (sockets : List SocketSpec) : HostSession :=
  { session := .ofTables { bindAddress, os := network } tables sockets }

/-- The port that a step got from the system, if it asked the system to pick one. -/
def pickedPort? (step : Step) (answer : Answer) (ss : Session (Host Network)) : Option UInt16 :=
  match step, answer with
  | .socket i (.begin 0), .unit (.ok _) => (ss.socket? i).bind Socket.localPort
  | .raw (.bind h 0), .unit (.ok _) => ss.world.transport.portOf? Network.os h
  | _, _ => none

def step (s : HostSession) (step : Step) : Answer × HostSession :=
  let (answer, session) := s.session.step transport step
  let names := match pickedPort? step answer session with
    | some port => s.names.add port
    | none => s.names
  (answer, { session, names })

end HostSession
end Datagram
