import Datagram.Os

/-!
# What is taken for granted of an operating system

`Os.Lawful` says where the sockets of an operating system are bound, and how the operations change
that. Binding gives a descriptor that was not in use, at the address asked for and at the port asked
for, or at some port other than zero if none was; nothing else may be bound there already. Closing
frees the descriptor, and no other operation changes what is bound. Every operation may fail.
-/

namespace Datagram

variable {ω : Type}

/-- Where the descriptors are bound, in those states that can come about. -/
structure Os.Places (ω : Type) where
  Valid : ω → Prop
  bound : ω → Descriptor → Option Endpoint

namespace Os.Places

variable (P : Places ω)

structure Keeps (s s' : ω) : Prop where
  valid : P.Valid s'
  same : P.bound s' = P.bound s

structure Adds (s : ω) (d : Descriptor) (e : Endpoint) (s' : ω) : Prop where
  valid : P.Valid s'
  fresh : P.bound s d = none
  free : ∀ d', P.bound s d' ≠ some e
  added : P.bound s' d = some e
  others : ∀ d', d' ≠ d → P.bound s' d' = P.bound s d'

structure Removes (s : ω) (d : Descriptor) (s' : ω) : Prop where
  valid : P.Valid s'
  others : ∀ d', d' ≠ d → P.bound s' d' = P.bound s d'

end Os.Places

structure Os.Lawful (O : Os ω) extends Os.Places ω where
  bind_ok : ∀ {s s' address port d}, Valid s → O.bind address port s = (.ok d, s') →
    ∃ q, q ≠ 0 ∧ (port ≠ 0 → q = port) ∧ toPlaces.Adds s d ⟨address, q⟩ s'
  bind_error : ∀ {s s' address port e}, Valid s → O.bind address port s = (.error e, s') →
    toPlaces.Keeps s s'
  duplicate : ∀ {s} d, Valid s → toPlaces.Keeps s (O.duplicate d s).2
  setReadTimeout : ∀ {s} d timeout, Valid s → toPlaces.Keeps s (O.setReadTimeout d timeout s).2
  peek : ∀ {s} d, Valid s → toPlaces.Keeps s (O.peek d s).2
  send : ∀ {s} d data target, Valid s → toPlaces.Keeps s (O.send d data target s).2
  receive : ∀ {s} d capacity, Valid s → toPlaces.Keeps s (O.receive d capacity s).2
  localPort : ∀ {s d e}, Valid s → bound s d = some e → O.localPort d s = some e.port
  close : ∀ {s} d, Valid s → toPlaces.Removes s d (O.close d s)

/-- Bound sockets can always be duplicated. -/
def Os.Lawful.Duplicates {O : Os ω} (L : O.Lawful) : Prop :=
  ∀ s d e, L.Valid s → L.bound s d = some e → (O.duplicate d s).1 = .ok ()

theorem Os.Places.Keeps.trans {P : Os.Places ω} {s s₁ s₂ : ω} (h : P.Keeps s s₁)
    (h' : P.Keeps s₁ s₂) : P.Keeps s s₂ := ⟨h'.valid, h'.same.trans h.same⟩

end Datagram
