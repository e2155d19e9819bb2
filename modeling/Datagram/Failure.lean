import Datagram.Address
import Datagram.Text.Outline
import Datagram.Text.Quoted

/-!
# Failures

Everything that a socket, a slot table, a transport or a resolver can answer instead of a result.
A failure is its cause; `message` is the sentence shown to people, `outline` the structure shown
in a diagnosis and `source` the sentence of the input/output failure inside, where there is one.

An input/output failure is a bare kind, a kind with a reason of its own, or what the operating
system reported: its error number with kind and description.
-/

namespace Datagram

structure Handle where
  raw : UInt32
deriving DecidableEq

namespace Handle

def text (h : Handle) : String := "sock-" ++ toString h.raw.toNat

def outline (h : Handle) : Outline := .case "SocketHandle" [.ofNat h.raw.toNat]

end Handle

inductive IoKind where
  | notFound | permissionDenied | connectionRefused | connectionReset | networkUnreachable
  | notConnected | addrInUse | addrNotAvailable | wouldBlock | timedOut | invalidInput
  | invalidData | interrupted | unexpectedEof | unsupported | outOfMemory | other | uncategorized
deriving DecidableEq

namespace IoKind

def name : IoKind → String
  | notFound => "NotFound"
  | permissionDenied => "PermissionDenied"
  | connectionRefused => "ConnectionRefused"
  | connectionReset => "ConnectionReset"
  | networkUnreachable => "NetworkUnreachable"
  | notConnected => "NotConnected"
  | addrInUse => "AddrInUse"
  | addrNotAvailable => "AddrNotAvailable"
  | wouldBlock => "WouldBlock"
  | timedOut => "TimedOut"
  | invalidInput => "InvalidInput"
  | invalidData => "InvalidData"
  | interrupted => "Interrupted"
  | unexpectedEof => "UnexpectedEof"
  | unsupported => "Unsupported"
  | outOfMemory => "OutOfMemory"
  | other => "Other"
  | uncategorized => "Uncategorized"

def description : IoKind → String
  | notFound => "entity not found"
  | permissionDenied => "permission denied"
  | connectionRefused => "connection refused"
  | connectionReset => "connection reset"
  | networkUnreachable => "network unreachable"
  | notConnected => "not connected"
  | addrInUse => "address in use"
  | addrNotAvailable => "address not available"
  | wouldBlock => "operation would block"
  | timedOut => "timed out"
  | invalidInput => "invalid input parameter"
  | invalidData => "invalid data"
  | interrupted => "operation interrupted"
  | unexpectedEof => "unexpected end of file"
  | unsupported => "unsupported"
  | outOfMemory => "out of memory"
  | other => "other error"
  | uncategorized => "uncategorized error"

def all : List IoKind :=
  [notFound, permissionDenied, connectionRefused, connectionReset, networkUnreachable,
    notConnected, addrInUse, addrNotAvailable, wouldBlock, timedOut, invalidInput, invalidData,
    interrupted, unexpectedEof, unsupported, outOfMemory, other, uncategorized]

def ofName? (name : String) : Option IoKind := all.find? fun kind => kind.name = name

end IoKind

inductive IoFailure where
  | bare (kind : IoKind)
  | custom (kind : IoKind) (reason : String)
  | system (code : Nat) (kind : IoKind) (description : String)
deriving DecidableEq

namespace IoFailure

def kind : IoFailure → IoKind
  | bare kind => kind
  | custom kind _ => kind
  | system _ kind _ => kind

def message : IoFailure → String
  | bare kind => kind.description
  | custom _ reason => reason
  | system code _ description => description ++ " (os error " ++ toString code ++ ")"

def outline : IoFailure → Outline
  | bare kind => .case "Kind" [.leaf kind.name]
  | custom kind reason =>
    .record "Custom" [("kind", .leaf kind.name), ("error", .leaf (Text.quoted reason))]
  | system code kind description =>
    .record "Os" [("code", .ofNat code), ("kind", .leaf kind.name),
      ("message", .leaf (Text.quoted description))]

end IoFailure

inductive Failure where
  | notBound
  | noDestination
  | noFreeSlot (capacity : Nat)
  | create (reason : String)
  | bind (port : UInt16) (reason : String)
  | send (reason : String)
  | receive (reason : String)
  | poll (reason : String)
  | close (reason : String)
  | resolve (host : String) (reason : String)
  | invalidHandle (handle : Handle)
  | dns (reason : String)
  | io (failure : IoFailure)
deriving DecidableEq

abbrev Result := Except Failure

namespace Failure

def name : Failure → String
  | notBound => "NotBound"
  | noDestination => "NoDestination"
  | noFreeSlot _ => "NoFreeSlot"
  | create _ => "SocketCreate"
  | bind _ _ => "Bind"
  | send _ => "Send"
  | receive _ => "Receive"
  | poll _ => "Poll"
  | close _ => "Close"
  | resolve _ _ => "Resolve"
  | invalidHandle _ => "InvalidHandle"
  | dns _ => "Dns"
  | io _ => "Io"

def message (ports : PortText) : Failure → String
  | notBound => "socket is not bound"
  | noDestination => "no destination set for outgoing packet"
  | noFreeSlot capacity => "no free socket slot (capacity " ++ toString capacity ++ ")"
  | create reason => "failed to create datagram socket: " ++ reason
  | bind port reason => "failed to bind port " ++ ports port ++ ": " ++ reason
  | send reason => "send error: " ++ reason
  | receive reason => "receive error: " ++ reason
  | poll reason => "poll error: " ++ reason
  | close reason => "close error: " ++ reason
  | resolve host reason => "failed to resolve '" ++ host ++ "': " ++ reason
  | invalidHandle handle => "invalid socket handle " ++ handle.text
  | dns reason => "DNS error: " ++ reason
  | io failure => "I/O error: " ++ failure.message

def outline (e : Failure) : Outline :=
  let text := fun reason : String => Outline.leaf (Text.quoted reason)
  match e with
  | notBound | noDestination => .leaf e.name
  | noFreeSlot capacity => .record e.name [("capacity", .ofNat capacity)]
  | create reason | send reason | receive reason | poll reason | close reason | dns reason =>
    .case e.name [text reason]
  | bind port reason => .record e.name [("port", .ofNat port.toNat), ("reason", text reason)]
  | resolve host reason => .record e.name [("host", text host), ("reason", text reason)]
  | invalidHandle handle => .case e.name [handle.outline]
  | io failure => .case e.name [failure.outline]

def source : Failure → Option String
  | io failure => some failure.message
  | _ => none

end Failure
end Datagram
