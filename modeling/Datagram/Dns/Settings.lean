import Datagram.Address.Ipv6
import Datagram.Duration
import Datagram.Text.Outline

/-!
# Settings of a name resolver

Which name servers to ask, how many answers to keep and for how long, and how often and how long to
wait for an answer. `worstCaseLookup` is the longest time that one lookup may take: every attempt,
at least one, waits for a whole query timeout. The number of attempts counts as 32 bits at most.
-/

namespace Datagram.Dns

inductive NameServers where
  | system
  | listed (servers : List SocketAddress)
deriving DecidableEq

structure Settings where
  servers : NameServers := .system
  cacheSize : UInt64 := 32
  answerTtlCap : Duration := .ofSecs 3600
  missingTtlCap : Duration := .ofSecs 60
  attempts : UInt64 := 2
  queryTimeout : Duration := .ofSecs 2

def serverPort : UInt16 := 53

namespace Settings

def system : Settings := {}

def withNameServers (servers : List SocketAddress) : Settings := { servers := .listed servers }

/-- The servers that an access point announces, on the usual port. -/
def announcedServers (ips : List Ipv4) : Settings :=
  withNameServers (ips.map fun ip => .v4 ⟨ip, serverPort⟩)

def announcedServer (ip : Ipv4) : Settings := announcedServers [ip]

def google : Settings := announcedServers [⟨8, 8, 8, 8⟩, ⟨8, 8, 4, 4⟩]

def cloudflare : Settings := announcedServers [⟨1, 1, 1, 1⟩, ⟨1, 0, 0, 1⟩]

def withCacheSize (s : Settings) (size : UInt64) : Settings := { s with cacheSize := size }

def withTtlCaps (s : Settings) (answer missing : Duration) : Settings :=
  { s with answerTtlCap := answer, missingTtlCap := missing }

def withLookupBudget (s : Settings) (attempts : UInt64) (queryTimeout : Duration) : Settings :=
  { s with attempts, queryTimeout }

def worstCaseLookup (s : Settings) : Duration :=
  let attempts := max s.attempts 1
  let limit := UInt32.ofNat (UInt32.size - 1)
  s.queryTimeout.scale (if attempts ≤ limit.toUInt64 then attempts.toUInt32 else limit)

def serversOutline : NameServers → Outline
  | .system => .leaf "System"
  | .listed servers => .case "Listed" [.list (servers.map fun server => .leaf server.text)]

def outline (s : Settings) : Outline :=
  .record "DnsConfig"
    [("servers", serversOutline s.servers), ("cache_size", .ofNat s.cacheSize.toNat),
      ("answer_ttl_cap", .leaf s.answerTtlCap.text),
      ("missing_ttl_cap", .leaf s.missingTtlCap.text), ("attempts", .ofNat s.attempts.toNat),
      ("query_timeout", .leaf s.queryTimeout.text)]

end Settings
end Datagram.Dns
