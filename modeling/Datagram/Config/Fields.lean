import Datagram.Config
import Datagram.Serialization

/-!
# The fields of a configuration

A configuration is a record of three fields. Where a document leaves some of them out they keep the
standard values.
-/

namespace Datagram.Config

variable (S : Serialization)

def fields : List (Field Config) :=
  [.of "tx_capacity" S.word Config.txCapacity fun c n => { c with txCapacity := n },
    .of "rx_capacity" S.word Config.rxCapacity fun c n => { c with rxCapacity := n },
    .of "poll_timeout" S.duration Config.pollTimeout fun c t => { c with pollTimeout := t }]

def codec : Codec Config := S.record (fields S) standard

end Datagram.Config
