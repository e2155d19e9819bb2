import Datagram.Network
import Datagram.Proofs.OsLaws

/-!
# What is taken for granted of a loopback interface

`Os.Loopback` adds queues to a lawful operating system. Every bound socket has one; a datagram that
is sent from the loopback address to a bound port is queued there at once with the address of its
sender, and nowhere else. Receiving takes the front of the queue and drops what exceeds the buffer,
peeking finds the queue filled or empty and takes nothing, and what a new socket finds is empty.
-/

namespace Datagram

variable {ω : Type}

/-- An operating system whose sockets at the loopback address reach each other. An address that
`names` the machine's own sockets is the loopback address, or another name for it. -/
structure Os.Loopback (O : Os ω) extends Os.Lawful O where
  queue : ω → Descriptor → List Packet
  names : Ipv4 → Bool
  names_localhost : names .localhost = true
  bind_empty : ∀ {s s' address port d}, Valid s → O.bind address port s = (.ok d, s') →
    queue s' d = [] ∧ ∀ d', d' ≠ d → queue s' d' = queue s d'
  bind_refused : ∀ {s s' address port e}, Valid s → O.bind address port s = (.error e, s') →
    queue s' = queue s
  duplicate_queue : ∀ {s} d, Valid s → queue (O.duplicate d s).2 = queue s
  setReadTimeout_queue : ∀ {s} d timeout, Valid s →
    queue (O.setReadTimeout d timeout s).2 = queue s
  peek_queue : ∀ {s} d, Valid s → queue (O.peek d s).2 = queue s
  peek_filled : ∀ {s d e}, Valid s → bound s d = some e → queue s d ≠ [] →
    (O.peek d s).1 = .ok ()
  receive_empty : ∀ {s d} capacity, Valid s → queue s d = [] →
    (∃ e, (O.receive d capacity s).1.outcome = .error e) ∧
      queue (O.receive d capacity s).2 d = []
  receive_front : ∀ {s d e packet rest} capacity, Valid s → bound s d = some e →
    queue s d = packet :: rest →
    (O.receive d capacity s).1 = ⟨packet.data.take capacity,
        .ok ((packet.data.take capacity).length, .v4 packet.source)⟩ ∧
      queue (O.receive d capacity s).2 d = rest
  receive_others : ∀ {s} d capacity, Valid s → ∀ d', d' ≠ d →
    queue (O.receive d capacity s).2 d' = queue s d'
  send_ok : ∀ {s d q} data target, Valid s → bound s d = some ⟨.localhost, q⟩ →
    ∀ {count}, (O.send d data target s).1 = .ok count →
      ∀ {d' port}, bound s d' = some ⟨.localhost, port⟩ →
        queue (O.send d data target s).2 d' = queue s d' ++
          if names target.ip && target.port = port then [⟨data, ⟨.localhost, q⟩⟩] else []
  send_failed : ∀ {s} d data target, Valid s → ∀ {e}, (O.send d data target s).1 = .error e →
    queue (O.send d data target s).2 = queue s
  close_others : ∀ {s} d, Valid s → ∀ d', d' ≠ d → queue (O.close d s) d' = queue s d'

end Datagram
