import Datagram.Transport

/-!
# Resolving host names

An IPv4 address in place of a host name stands for itself: no lookup is made for it. Every other
name is given to a lookup, once and as it is. `askWith` resolves with any lookup function and notes
the hosts that the function was asked for.
-/

namespace Datagram

abbrev Lookup := String → Result Ipv4

namespace Lookup

/-- A lookup in a table of hosts. A host that is not in the table is unknown. -/
def ofTable (table : List (String × Result Ipv4)) : Lookup := fun host =>
  (table.lookup host).getD (.error (.resolve host "unknown host"))

/-- Resolves `host` and appends to `asked` what the lookup was called with. -/
def askWith (lookup : Lookup) (host : String) (asked : List String) :
    Reply (List String) (Result Ipv4) :=
  match Ipv4.ofText? host with
  | some ip => { answer := .ok ip, state := asked }
  | none => { answer := lookup host, state := asked ++ [host] }

end Lookup
end Datagram
