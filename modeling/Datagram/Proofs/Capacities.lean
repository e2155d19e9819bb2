import Datagram.Proofs.Buffers
import Datagram.Proofs.Runs

/-!
# What can become of the buffers of a socket

No operation does anything to the transmit buffer but clear it or append to it, and none does
anything to the receive buffer but clear it, receive a packet into it or read from it. A socket
therefore keeps the capacities that it was configured with for life.
-/

namespace Datagram

variable {σ : Type}

namespace Socket

variable (T : Transport σ) (s : Socket) (w : World σ)

theorem begin_buffers (port : UInt16) :
    ((s.begin T port w).2.1.tx = s.tx ∧ (s.begin T port w).2.1.rx = s.rx) ∨
      ((s.begin T port w).2.1.tx = s.tx.clear ∧ (s.begin T port w).2.1.rx = s.rx.clear) := by
  obtain ⟨base, w₀, opened, cs, hready, -, -, -, hs⟩ := begin_spec T port s w
  rw [hs]
  cases hready with
  | unbound => exact .inl ⟨rfl, rfl⟩
  | stopped => exact .inr ⟨rfl, rfl⟩

theorem perform_tx (st : SocketStep) :
    (s.perform T w st).2.1.tx = s.tx ∨ (s.perform T w st).2.1.tx = s.tx.clear ∨
      ∃ bytes, (s.perform T w st).2.1.tx = (s.tx.append bytes).2 := by
  have hbegin (d : Endpoint) : (s.beginPacket d).2.tx = s.tx ∨
      (s.beginPacket d).2.tx = s.tx.clear ∨
        ∃ bytes, (s.beginPacket d).2.tx = (s.tx.append bytes).2 := by
    rcases s.binding.eq_none_or_eq_some with hb | ⟨b, hb⟩
    · rw [beginPacket_of_unbound hb]
      exact .inl rfl
    · rw [beginPacket_of_bound hb]
      exact .inr (.inl rfl)
  cases hside : st.side with
  | receiving =>
    obtain ⟨rx, remote, hs⟩ := perform_receiving T s w hside
    rw [hs]
    exact .inl rfl
  | asking =>
    rw [perform_asking T s w hside]
    exact .inl rfl
  | lifecycle =>
    cases st with
    | begin port =>
      rcases begin_buffers T s w port with h | h
      · exact .inl h.1
      · exact .inr (.inl h.1)
    | stop => exact .inr (.inl (congrArg Socket.tx (stop_released T s w)))
    | _ => cases hside
  | sending =>
    cases st with
    | beginPacket d => exact hbegin d
    | beginReply => exact hbegin ⟨s.remoteIp, s.remotePort⟩
    | beginPacketToHost host port lookup =>
      change (s.beginPacketToHost lookup.askWith host port w []).2.1.tx = s.tx ∨
        (s.beginPacketToHost lookup.askWith host port w []).2.1.tx = s.tx.clear ∨ _
      rcases s.binding.eq_none_or_eq_some with hb | ⟨b, hb⟩
      · rw [beginPacketToHost_of_unbound w lookup.askWith host port [] hb]
        exact .inl rfl
      · rcases beginPacketToHost_of_bound w lookup.askWith host port [] hb with
          ⟨e, -, -, hs⟩ | ⟨ip, -, -, hs⟩
        · exact .inl (congrArg Socket.tx hs)
        · exact .inr (.inl (congrArg Socket.tx hs))
    | write bytes =>
      rcases s.binding.eq_none_or_eq_some with hb | ⟨b, hb⟩
      · refine .inl (congrArg Socket.tx ?_)
        simp only [perform, write_of_unbound w hb]
      · exact .inr (.inr ⟨bytes, congrArg Socket.tx (write_of_bound w hb bytes).2⟩)
    | endPacket =>
      obtain ⟨cs, hsending, -⟩ := endPacket_sending T s w
      change (s.endPacket T w).2.1.tx = s.tx ∨ (s.endPacket T w).2.1.tx = s.tx.clear ∨
        ∃ bytes, (s.endPacket T w).2.1.tx = (s.tx.append bytes).2
      generalize (s.endPacket T w).1 = answer, (s.endPacket T w).2.1 = s' at hsending
      cases hsending with
      | sent => exact .inr (.inl rfl)
      | notBound | noDestination | failed => exact .inl rfl
    | _ => cases hside

theorem perform_rx (st : SocketStep) :
    s.rx.Advances (s.perform T w st).2.1.rx ∨ (s.perform T w st).2.1.rx = s.rx.clear ∨
      ∃ written claim, (s.perform T w st).2.1.rx = (s.rx.fill written).load claim := by
  cases hside : st.side with
  | sending =>
    obtain ⟨tx, destination, hs⟩ := perform_sending T s w hside
    rw [hs]
    exact .inl (.refl s.rx)
  | asking =>
    rw [perform_asking T s w hside]
    exact .inl (.refl s.rx)
  | lifecycle =>
    cases st with
    | begin port =>
      change s.rx.Advances (s.begin T port w).2.1.rx ∨ (s.begin T port w).2.1.rx = s.rx.clear ∨ _
      rcases begin_buffers T s w port with h | h
      · rw [h.2]
        exact .inl (.refl s.rx)
      · exact .inr (.inl h.2)
    | stop => exact .inr (.inl (congrArg Socket.rx (stop_released T s w)))
    | _ => cases hside
  | receiving =>
    cases st with
    | flush => exact .inr (.inl rfl)
    | readByte => exact .inl s.rx.readByte_advances
    | read out => exact .inl (s.rx.readInto_advances out)
    | readExact out => exact .inl (s.rx.fillFrom_advances out)
    | readToEnd => exact .inl (s.rx.readToEnd_advances streamChunk)
    | readToString => exact .inl (s.rx.readToString_advances streamChunk)
    | parsePacket =>
      obtain ⟨cs, hparsing, -⟩ := parsePacket_parsing T s w
      change s.rx.Advances (s.parsePacket T w).2.1.rx ∨
        (s.parsePacket T w).2.1.rx = s.rx.clear ∨
          ∃ written claim, (s.parsePacket T w).2.1.rx = (s.rx.fill written).load claim
      generalize (s.parsePacket T w).1 = answer, (s.parsePacket T w).2.1 = s' at hparsing
      cases hparsing with
      | receiveFailed => exact .inr (.inl rfl)
      | received => exact .inr (.inr ⟨_, _, rfl⟩)
      | notBound | pollFailed | timedOut => exact .inl (.refl s.rx)
    | _ => cases hside

theorem perform_capacities (st : SocketStep) :
    (s.perform T w st).2.1.tx.capacity = s.tx.capacity ∧
      (s.perform T w st).2.1.rx.capacity = s.rx.capacity := by
  constructor
  · rcases perform_tx T s w st with h | h | ⟨bytes, h⟩
    · rw [h]
    · rw [h, TransmitBuffer.capacity_clear]
    · rw [h, TransmitBuffer.capacity_append]
  · rcases perform_rx T s w st with ⟨cursor, h⟩ | h | ⟨written, claim, h⟩
    · rw [h]
      rfl
    · rw [h, ReceiveBuffer.capacity_clear]
    · rw [h, ReceiveBuffer.capacity_load, ReceiveBuffer.capacity_fill]

end Socket

variable {T : Transport σ} {past : List Turn} {s : Socket}

theorem Lives.capacities (h : Lives T past s) :
    s.tx.capacity = s.config.txCapacity.toNat ∧ s.rx.capacity = s.config.rxCapacity.toNat := by
  induction h with
  | fresh table config =>
    exact ⟨TransmitBuffer.capacity_ofCapacity _, ReceiveBuffer.capacity_ofCapacity _⟩
  | turn w st _ ih =>
    obtain ⟨htx, hrx⟩ := Socket.perform_capacities T _ w st
    rw [htx, hrx, (Socket.perform_keeps T _ w st).2]
    exact ih

end Datagram
