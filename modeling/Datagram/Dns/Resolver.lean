import Datagram.Dns.Lookup
import Datagram.Dns.Name

/-!
# A name service over one server

A name service to run resolvers on. IPv6 texts stand for themselves, names of the machine itself are
known and reserved names have no address. For any other valid name the server is asked, unless the
answer is still in the cache; found addresses are cached until the cache is cleared, failures are
not.

The server has a zone of names with their addresses and counts the queries that reach it.
-/

namespace Datagram.Dns

structure Server where
  zone : List (String × List Ipv4)
  reachable : Bool
  queries : Nat := 0

structure Resolver where
  settings : Settings
  server : Server
  cache : List (Name × List Ipv4) := []

def Server.nowhere : Server := { zone := [], reachable := false }

def Server.addresses (s : Server) (name : Name) : Option (List Ipv4) :=
  (s.zone.find? fun entry => Name.ofText? entry.1 = some name).map Prod.snd

namespace Resolver

def invalidName : String := "name is not valid"

def noAnswer : String := "no name server answers"

def noRecords : String := "no records found"

/-- Asks the server, and remembers what it finds. -/
def query (name : Name) (r : Resolver) : Except String (List Ipv4) × Resolver :=
  if !r.server.reachable then (.error noAnswer, r)
  else
    let server := { r.server with queries := r.server.queries + 1 }
    match r.server.addresses name with
    | none | some [] => (.error noRecords, { r with server })
    | some ips => (.ok ips, { r with server, cache := (name, ips) :: r.cache })

def lookUpName (name : Name) (r : Resolver) : Except String (List Ipv4) × Resolver :=
  if name.isMachine then (.ok [.localhost], r)
  else if name.isReserved then (.error noRecords, r)
  else match r.cache.lookup name with
    | some ips => (.ok ips, r)
    | none => r.query name

def lookUp (host : String) (r : Resolver) : Except String (List IpAddress) × Resolver :=
  match Ipv6.ofText? host with
  | some ip => (.ok [.v6 ip], r)
  | none =>
    match Name.ofText? host with
    | none => (.error invalidName, r)
    | some name =>
      let (found, r) := r.lookUpName name
      (found.map (·.map .v4), r)

def service (server : Server) : NameService Resolver where
  systemSettings := .ok ()
  start settings := .ok { settings, server }
  lookUp := lookUp
  clearCache r := { r with cache := [] }

def ofSettings? (settings : Settings) (server : Server) : Result Resolver :=
  (service server).start? settings

def clearCache (r : Resolver) : Resolver := (service r.server).clearCache r

def resolveAll (host : String) (r : Resolver) : Reply Resolver (Result (List Ipv4)) :=
  (service r.server).resolveAll host r

def resolve (host : String) (r : Resolver) : Reply Resolver (Result Ipv4) :=
  (service r.server).resolve host r

end Resolver
end Datagram.Dns
