import Datagram.SlotTable

/-!
# Events

What the library reports while it works. An event keeps its values; `entry` gives the form in which
a log shows it: level, target, message and the fields with their values as text.
-/

namespace Datagram

inductive Level where
  | trace | debug | warn
deriving DecidableEq

def Level.text : Level → String
  | trace => "TRACE"
  | debug => "DEBUG"
  | warn => "WARN"

inductive Event where
  | slotAcquired (slot : Nat)
  | slotsExhausted (capacity : Nat)
  | slotReleased (slot : Nat)
  | rebinding (oldPort newPort : UInt16)
  | bound (handle : Handle) (port : UInt16) (slot : Nat)
  | bindCleanupFailed (handle : Handle) (failure : Failure)
  | closeFailed (handle : Handle) (failure : Failure)
  | stopped (port : UInt16) (slot : Nat)
  | destinationResolved (host : String) (ip : Ipv4)
  | truncated (requested accepted : Nat)
  | sent (destination : Endpoint) (count : Nat)
  | received (source : Endpoint) (count : Nat)
  | hostCreated (handle : Handle)
  | hostBound (handle : Handle) (port : UInt16)
  | hostErrorPending (handle : Handle) (failure : IoFailure)
  | hostClosed (handle : Handle)
  | lookedUp (host : String) (count : Nat)
deriving DecidableEq

structure LogEntry where
  level : Level
  target : String
  message : String
  fields : List (String × String)
deriving DecidableEq

namespace Event

def slotsTarget : String := "wifi_udp::slots"

def socketTarget : String := "wifi_udp::udp"

def transportTarget : String := "wifi_udp::transport"

def lookupTarget : String := "wifi_udp::dns"

def entry (ports : PortText) : Event → LogEntry
  | slotAcquired slot => ⟨.trace, slotsTarget, "slot acquired", [("slot", toString slot)]⟩
  | slotsExhausted capacity =>
    ⟨.debug, slotsTarget, "no free socket slot", [("capacity", toString capacity)]⟩
  | slotReleased slot => ⟨.trace, slotsTarget, "slot released", [("slot", toString slot)]⟩
  | rebinding oldPort newPort =>
    ⟨.debug, socketTarget, "rebinding, releasing previous socket",
      [("old_port", ports oldPort), ("new_port", ports newPort)]⟩
  | bound handle port slot =>
    ⟨.debug, socketTarget, "socket bound",
      [("handle", handle.text), ("port", ports port), ("slot", slotText slot)]⟩
  | bindCleanupFailed handle failure =>
    ⟨.warn, socketTarget, "failed to close socket after bind failure",
      [("handle", handle.text), ("error", failure.message ports)]⟩
  | closeFailed handle failure =>
    ⟨.warn, socketTarget, "failed to close socket",
      [("handle", handle.text), ("error", failure.message ports)]⟩
  | stopped port slot =>
    ⟨.debug, socketTarget, "socket stopped",
      [("port", ports port), ("slot", slotText slot)]⟩
  | destinationResolved host ip =>
    ⟨.trace, socketTarget, "resolved packet destination", [("host", host), ("ip", ip.text)]⟩
  | truncated requested accepted =>
    ⟨.trace, socketTarget, "transmit buffer full, truncating",
      [("requested", toString requested), ("accepted", toString accepted)]⟩
  | sent destination count =>
    ⟨.trace, socketTarget, "packet sent",
      [("destination", destination.textWith ports), ("bytes", toString count)]⟩
  | received source count =>
    ⟨.trace, socketTarget, "packet received",
      [("source", source.textWith ports), ("bytes", toString count)]⟩
  | hostCreated handle =>
    ⟨.trace, transportTarget, "created host socket", [("handle", handle.text)]⟩
  | hostBound handle port =>
    ⟨.trace, transportTarget, "bound host socket", [("handle", handle.text), ("port", ports port)]⟩
  | hostErrorPending handle failure =>
    ⟨.trace, transportTarget, "socket error pending",
      [("handle", handle.text), ("error", failure.message)]⟩
  | hostClosed handle =>
    ⟨.trace, transportTarget, "closed host socket", [("handle", handle.text)]⟩
  | lookedUp host count =>
    ⟨.debug, lookupTarget, "resolved", [("hostname", host), ("count", toString count)]⟩

end Event
end Datagram
