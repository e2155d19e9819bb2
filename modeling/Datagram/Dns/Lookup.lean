import Datagram.Address.Ipv6
import Datagram.Dns.Settings
import Datagram.Transport

/-!
# Resolving names by a name service

A resolver takes an IPv4 text for the address that it spells, and looks up every other host. It does
so by a name service, which asks name servers and may remember what they answer; `NameService` is
what a resolver expects of one. Of the addresses that are found only those of IPv4 count.
-/

namespace Datagram.Dns

/-- A service that finds the addresses of a host, or says why there are none. `systemSettings` tells
whether the machine has servers of its own to ask. -/
structure NameService (ρ : Type) where
  systemSettings : Except String Unit
  start : Settings → Except String ρ
  lookUp : String → ρ → Except String (List IpAddress) × ρ
  clearCache : ρ → ρ

namespace Resolver

def noIpv4 : String := "no IPv4 addresses found"

def first (host : String) : List Ipv4 → Result Ipv4
  | [] => .error (.resolve host noIpv4)
  | ip :: _ => .ok ip

def outline : Outline := .leaf "DnsResolver \x7b .. \x7d"

end Resolver

namespace NameService

variable {ρ : Type} (N : NameService ρ)

/-- Starts the service, unless there is no server to ask. -/
def start? (settings : Settings) : Result ρ :=
  match settings.servers, N.systemSettings with
  | .listed [], _ => .error (.dns "No nameservers configured")
  | .system, .error reason =>
    .error (.dns ("failed to read system DNS configuration: " ++ reason))
  | _, _ => (N.start settings).mapError fun reason =>
    .dns ("failed to start resolver runtime: " ++ reason)

def resolveAll (host : String) (r : ρ) : Reply ρ (Result (List Ipv4)) :=
  match Ipv4.ofText? host with
  | some ip => { answer := .ok [ip], state := r }
  | none =>
    let (found, r) := N.lookUp host r
    match found with
    | .error reason => { answer := .error (.resolve host reason), state := r }
    | .ok found =>
      match found.filterMap IpAddress.v4? with
      | [] => { answer := .error (.resolve host Resolver.noIpv4), state := r }
      | ips => { answer := .ok ips, state := r, events := [.lookedUp host ips.length] }

def resolve (host : String) (r : ρ) : Reply ρ (Result Ipv4) :=
  let reply := N.resolveAll host r
  { answer := reply.answer.bind (Resolver.first host)
    state := reply.state
    events := reply.events }

end NameService
end Datagram.Dns
