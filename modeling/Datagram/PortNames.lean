import Datagram.Address

/-!
# Names for ports

Ports that somebody else has picked can be given names in the order in which they turn up: `p1`,
`p2` and so on. Wherever such a port is written, its name stands in place of its number.
-/

namespace Datagram

structure PortNames where
  ports : List UInt16 := []

namespace PortNames

def empty : PortNames := {}

def add (names : PortNames) (port : UInt16) : PortNames := ⟨names.ports ++ [port]⟩

def name? (names : PortNames) (port : UInt16) : Option String :=
  (names.ports.idxOf? port).map fun i => "p" ++ toString (i + 1)

def text (names : PortNames) : PortText := fun port =>
  (names.name? port).getD (PortText.decimal port)

def port? (names : PortNames) (name : String) : Option UInt16 :=
  names.ports.find? fun port => names.name? port = some name

end PortNames
end Datagram
