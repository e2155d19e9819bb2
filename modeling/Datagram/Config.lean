import Datagram.Duration
import Datagram.Text.Outline

/-!
# Socket configuration

Buffer capacities in bytes and the longest time that a socket waits for a datagram. A socket raises
a capacity of zero to one (`clamped`); the configuration itself may hold any value.
-/

namespace Datagram

structure Config where
  txCapacity : UInt64 := 256
  rxCapacity : UInt64 := 256
  pollTimeout : Duration := .ofMillis 10
deriving DecidableEq

namespace Config

def standard : Config := {}

def clamped (c : Config) : Config :=
  { c with txCapacity := max c.txCapacity 1, rxCapacity := max c.rxCapacity 1 }

def outline (c : Config) : Outline :=
  .record "DatagramSocketConfig"
    [("tx_capacity", .ofNat c.txCapacity.toNat), ("rx_capacity", .ofNat c.rxCapacity.toNat),
      ("poll_timeout", .leaf c.pollTimeout.text)]

end Config
end Datagram
