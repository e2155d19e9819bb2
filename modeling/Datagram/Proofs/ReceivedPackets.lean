import Datagram.Proofs.Incoming
import Datagram.Script

/-!
# Received packets

What can be read from a socket, in every run: after a datagram was received the packet is as long as
claimed, cut to the buffer, and its bytes are those that the datagrams since the last clear have
left in the buffer. Nothing received before a clear can be read after it. A claim that does not
exceed what was copied gives the front of the datagram itself.
-/

namespace Datagram

variable {σ : Type} {T : Transport σ} {past : List Turn} {s : Socket}

theorem image_copied (past : List Turn) (i : Nat) :
    image past i = 0 ∨ ∃ o ∈ afterLast Turn.clears past, ∃ a, o.arrival? = some a ∧
      image past i ∈ a.copied := by
  cases hlatest : latest? (Turn.byte? i) (afterLast Turn.clears past) with
  | none =>
    left
    rw [image, hlatest]
    rfl
  | some byte =>
    right
    have himage : image past i = byte := by
      rw [image, hlatest]
      rfl
    obtain ⟨o, ho, hbyte⟩ := List.mem_filterMap.1 (List.mem_of_getLast? hlatest)
    obtain ⟨a, ha, hget⟩ := Option.bind_eq_some_iff.1 hbyte
    rw [himage]
    exact ⟨o, ho, a, ha, List.mem_of_getElem? hget⟩

theorem Lives.getElem?_unread (h : Lives T past s) {j : Nat} (hj : j < s.available) :
    s.rx.unread[j]? = some (image past (s.rx.cursor + j)) := by
  rw [s.rx.getElem?_unread hj]
  apply h.incoming.storage
  have hfits := h.incoming.fits
  change j < s.rx.len - s.rx.cursor at hj
  omega

theorem Lives.unread_copied (h : Lives T past s) {byte : UInt8} (hbyte : byte ∈ s.rx.unread) :
    byte = 0 ∨ ∃ o ∈ afterLast Turn.clears past, ∃ a, o.arrival? = some a ∧ byte ∈ a.copied := by
  obtain ⟨j, hj⟩ := List.getElem?_of_mem hbyte
  have hlt : j < s.available := by
    rw [Socket.available, ← ReceiveBuffer.length_unread h.incoming.fits]
    exact (List.getElem?_eq_some_iff.1 hj).1
  rw [h.getElem?_unread hlt] at hj
  obtain rfl := Option.some.inj hj
  exact image_copied past _

theorem Lives.readToEnd (h : Lives T past s) (w : World σ) :
    (s.perform T w .readToEnd).1 = .bytes s.rx.unread.length s.rx.unread := by
  have hchunk : 0 < Socket.streamChunk := by decide
  simp only [Socket.perform, ReceiveBuffer.readToEnd_eq hchunk h.incoming.fits]

theorem Turn.loaded {w : World σ} {st : SocketStep} {a : Arrival}
    (ha : (Turn.of T s w st).arrival? = some a) :
    ∃ written, a.copied = written.take s.rx.capacity ∧
      (Turn.of T s w st).answer = .count (.ok (min a.claim s.rx.capacity)) ∧
      (Turn.of T s w st).after.rx = (s.rx.fill written).load a.claim := by
  by_cases hst : st = .parsePacket
  · subst st
    obtain ⟨answer, hanswer, hparsing⟩ := Turn.parsing_of T s w
    rw [Turn.arrival?] at ha
    rw [hanswer]
    generalize (Turn.of T s w .parsePacket).after = s', (Turn.of T s w .parsePacket).calls = cs at *
    cases hparsing with
    | notBound | pollFailed | timedOut | receiveFailed => cases ha
    | @received b r written claim source =>
      obtain rfl : Arrival.mk (written.take s.rx.capacity) claim source = a := Option.some.inj ha
      refine ⟨written, rfl, ?_, rfl⟩
      change Answer.count (.ok (min claim (s.rx.fill written).capacity)) = _
      rw [ReceiveBuffer.capacity_fill]
  · rw [Turn.arrival?_eq_none hst] at ha
    cases ha

/-- What a turn that receives the arrival answers and leaves to read. -/
structure Turn.Presents (past : List Turn) (o : Turn) (a : Arrival) : Prop where
  answer : o.answer = .count (.ok (min a.claim o.before.config.rxCapacity.toNat))
  length : o.after.rx.unread.length = min a.claim o.before.config.rxCapacity.toNat
  bytes : ∀ j < min a.claim o.before.config.rxCapacity.toNat,
    o.after.rx.unread[j]? = some (image (past ++ [o]) j)
  whole : ∀ datagram : Bytes, a.copied = datagram.take o.before.config.rxCapacity.toNat →
    min a.claim o.before.config.rxCapacity.toNat ≤ a.copied.length →
      o.after.rx.unread = datagram.take (min a.claim o.before.config.rxCapacity.toNat)

theorem Lives.presents (h : Lives T past s) (w : World σ) (st : SocketStep) {a : Arrival}
    (ha : (Turn.of T s w st).arrival? = some a) : (Turn.of T s w st).Presents past a := by
  obtain ⟨written, hcopied, hanswer, hrx⟩ := Turn.loaded ha
  have hcapacity : s.rx.capacity = s.config.rxCapacity.toNat := h.capacities.2
  have hlife : Lives T (past ++ [Turn.of T s w st]) (Turn.of T s w st).after := h.turn w st
  have hbefore : (Turn.of T s w st).before = s := rfl
  generalize Turn.of T s w st = o at *
  have havailable : o.after.available = min a.claim s.config.rxCapacity.toNat := by
    rw [Socket.available, hrx]
    change min a.claim (s.rx.fill written).capacity - 0 = _
    rw [ReceiveBuffer.capacity_fill, hcapacity, Nat.sub_zero]
  have hlength : o.after.rx.unread.length = min a.claim s.config.rxCapacity.toNat :=
    (ReceiveBuffer.length_unread hlife.incoming.fits).trans havailable
  have hcursor : o.after.rx.cursor = 0 := by rw [hrx]; rfl
  rw [hcapacity] at hanswer
  refine ⟨?_, ?_, ?_, ?_⟩ <;> rw [hbefore]
  · exact hanswer
  · exact hlength
  · intro j hj
    rw [hlife.getElem?_unread (by rw [havailable]; exact hj), hcursor, Nat.zero_add]
  · intro datagram hdatagram hclaim
    have hfront : o.after.rx.unread = a.copied.take (min a.claim s.config.rxCapacity.toNat) := by
      rw [hcopied, ← hcapacity] at hclaim
      rw [hrx, s.rx.unread_load_fill written hclaim, hcopied, hcapacity]
    rw [hfront, hdatagram, List.take_take, Nat.min_eq_left (Nat.min_le_right ..)]

namespace Session

/-- In every run the sender that a socket remembers is that of the last datagram it received, what
can be read from it are bytes that the datagrams since the last clear have left in its buffer, and a
datagram that is received is presented at the length claimed, as far as the buffer goes. -/
theorem receives_by_history (T : Transport σ) (transport : σ) (tables : List SlotTable)
    (specs : List SocketSpec) (steps : List Step) (i : Nat) :
    let start := ofTables transport tables specs
    let trace := start.turns T i steps
    (∀ s, (start.run T steps).2.socket? i = some s →
      s.remote = latest? Turn.sender? trace ∧
        (∀ w : World σ, (s.perform T w .readToEnd).1 = .bytes s.rx.unread.length s.rx.unread) ∧
        (∀ j < s.available, s.rx.unread[j]? = some (image trace (s.rx.cursor + j))) ∧
        ∀ byte ∈ s.rx.unread, byte = 0 ∨
          ∃ o ∈ afterLast Turn.clears trace, ∃ a, o.arrival? = some a ∧ byte ∈ a.copied) ∧
      ∀ past o future a, trace = past ++ o :: future → o.arrival? = some a → o.Presents past a := by
  intro start trace
  have htracks := tracks_turns T i transport tables specs steps
  constructor
  · intro s hs
    have halive := htracks.alive s hs
    refine ⟨halive.incoming.remote, halive.readToEnd, ?_, ?_⟩
    · intro j hj
      exact halive.getElem?_unread hj
    · intro byte hbyte
      exact halive.unread_copied hbyte
  · intro past o future a htrace ha
    obtain ⟨s, hlife⟩ := htracks.life
    obtain ⟨hpast, w, ho⟩ := hlife.split htrace
    rw [ho] at ha ⊢
    exact hpast.presents w o.step ha

/-- A datagram of three bytes, then one of a single byte that claims to exceed the buffer. -/
def overclaimedTurns : List Turn :=
  (ofTables
    ({ inbound := [.datagram [1, 2, 3] ⟨.unspecified, 9⟩ none,
        .datagram [7] ⟨.unspecified, 8⟩ (some 5)] } : Script)
    [.ofCapacity 1] [{ table := 0, rxCapacity := some 4 }]).turns Script.transport 0
      [.socket 0 (.begin 7000), .socket 0 .parsePacket, .socket 0 .parsePacket]

theorem receives_by_history_overclaimed :
    ∃ o, overclaimedTurns = overclaimedTurns.take 2 ++ [o] ∧
      o.arrival? = some ⟨[7], 5, ⟨.unspecified, 8⟩⟩ ∧
      o.Presents (overclaimedTurns.take 2) ⟨[7], 5, ⟨.unspecified, 8⟩⟩ ∧
      o.after.rx.unread = [7, 2, 3, 0] := by
  have h₂ : 2 < overclaimedTurns.length := by decide
  have hend : overclaimedTurns.drop 2 = [overclaimedTurns[2]] := by
    rw [List.drop_eq_getElem_cons h₂, List.drop_eq_nil_of_le (by decide)]
  have htrace : overclaimedTurns = overclaimedTurns.take 2 ++ [overclaimedTurns[2]] := by
    rw [← hend, List.take_append_drop]
  have harrival : overclaimedTurns[2].arrival? = some ⟨[7], 5, ⟨.unspecified, 8⟩⟩ := rfl
  have hpresents := (receives_by_history Script.transport
    { inbound := [.datagram [1, 2, 3] ⟨.unspecified, 9⟩ none,
      .datagram [7] ⟨.unspecified, 8⟩ (some 5)] }
    [.ofCapacity 1] [{ table := 0, rxCapacity := some 4 }] _ 0).2 (overclaimedTurns.take 2)
      overclaimedTurns[2] [] _ htrace harrival
  exact ⟨overclaimedTurns[2], htrace, harrival, hpresents, rfl⟩

end Session
end Datagram
