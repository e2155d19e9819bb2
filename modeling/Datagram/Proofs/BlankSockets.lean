import Datagram.Proofs.Capacities

/-!
# Unbound sockets are blank

A blank socket is as it was constructed, except that it may remember a sender. Stopping makes a
socket blank, because both buffers end up zeroed in all their storage, and nothing that is done to a
blank socket changes it unless it binds it. So in every life a socket that is unbound is blank,
whatever it has sent, received or failed to do before.
-/

namespace Datagram

variable {σ : Type}

namespace Socket

structure Blank (s : Socket) : Prop where
  clamped : s.config.clamped = s.config
  binding : s.binding = none
  tx : s.tx = .ofCapacity s.config.txCapacity.toNat
  rx : s.rx = .ofCapacity s.config.rxCapacity.toNat
  destination : s.destination = none

theorem clamped_clamped (c : Config) : c.clamped.clamped = c.clamped := by
  have hmax (x : UInt64) : max (max x 1) 1 = max x 1 := by
    change (if (if x ≤ 1 then 1 else x) ≤ 1 then 1 else if x ≤ 1 then 1 else x) =
      if x ≤ 1 then 1 else x
    by_cases hx : x ≤ 1 <;> simp [hx]
  simp only [Config.clamped, hmax]

theorem blank_ofConfig (table : Nat) (config : Config) : (ofConfig table config).Blank where
  clamped := clamped_clamped config
  binding := rfl
  tx := rfl
  rx := rfl
  destination := rfl

variable {s : Socket}

theorem Blank.eq_ofConfig (h : s.Blank) :
    s = { ofConfig s.table s.config with remote := s.remote } := by
  obtain ⟨hclamped, hbinding, htx, hrx, hdestination⟩ := h
  obtain ⟨table, config, binding, tx, rx, destination, remote⟩ := s
  simp only at hclamped hbinding htx hrx hdestination
  simp only [ofConfig, hclamped, hbinding, htx, hrx, hdestination]

theorem Blank.released (h : s.Blank) : s.released = s := by
  have htx : s.tx.clear = s.tx := by
    have hzero : s.tx.ZeroPast := by
      rw [h.tx]
      exact TransmitBuffer.zeroPast_ofCapacity _
    rw [hzero.clear_eq, h.tx, TransmitBuffer.capacity_ofCapacity]
  have hrx : s.rx.clear = s.rx := by
    rw [ReceiveBuffer.clear, h.rx, ReceiveBuffer.capacity_ofCapacity]
  rw [Socket.released, htx, hrx, ← h.binding, ← h.destination]

theorem Blank.available (h : s.Blank) : s.rx.available = 0 := by
  rw [h.rx]
  rfl

/-- Stopping leaves both buffers with all their storage zeroed. -/
theorem blank_released (hclamped : s.config.clamped = s.config) (htx : s.tx.ZeroPast)
    (hcapacities : s.tx.capacity = s.config.txCapacity.toNat ∧
      s.rx.capacity = s.config.rxCapacity.toNat) : s.released.Blank where
  clamped := hclamped
  binding := rfl
  tx := by
    change s.tx.clear = .ofCapacity s.config.txCapacity.toNat
    rw [htx.clear_eq, hcapacities.1]
  rx := by
    change s.rx.clear = .ofCapacity s.config.rxCapacity.toNat
    rw [ReceiveBuffer.clear, hcapacities.2]
  destination := rfl

variable (T : Transport σ) (w : World σ)

theorem perform_sending_of_unbound (hb : s.binding = none) {st : SocketStep}
    (hside : st.side = .sending) : (s.perform T w st).2.1 = s := by
  cases st with
  | beginPacket d | beginReply => exact congrArg Prod.snd (beginPacket_of_unbound hb _)
  | beginPacketToHost host port lookup =>
    simp only [perform, beginPacketToHost_of_unbound w lookup.askWith host port [] hb]
  | write bytes => simp only [perform, write_of_unbound w hb]
  | endPacket => simp only [perform, endPacket, handle_of_unbound hb]
  | _ => cases hside

/-- There is nothing to read, and nothing is received without a binding. -/
theorem Blank.perform_receiving (h : s.Blank) {st : SocketStep} (hside : st.side = .receiving) :
    (s.perform T w st).2.1 = s := by
  have hdrained := h.available
  cases st with
  | flush =>
    change { s with rx := s.rx.clear } = s
    rw [ReceiveBuffer.clear, h.rx, ReceiveBuffer.capacity_ofCapacity, ← h.rx]
  | parsePacket => simp only [perform, parsePacket, handle_of_unbound h.binding]
  | readByte =>
    change { s with rx := s.rx.readByte.2 } = s
    rw [ReceiveBuffer.readByte_of_drained hdrained]
  | read out =>
    change { s with rx := (s.rx.readInto out).2.2 } = s
    rw [(ReceiveBuffer.readInto_of_drained hdrained out).2]
  | readExact out =>
    change { s with rx := (s.rx.fillFrom out).2.2 } = s
    rw [ReceiveBuffer.fillFrom_of_drained hdrained]
  | readToEnd =>
    change { s with rx := (s.rx.readToEnd streamChunk).2 } = s
    rw [ReceiveBuffer.readToEnd_of_drained hdrained]
  | readToString =>
    change { s with rx := (s.rx.readToString streamChunk).2 } = s
    rw [ReceiveBuffer.readToString_snd, ReceiveBuffer.readToEnd_of_drained hdrained]
  | _ => cases hside

/-- Only binding it changes a blank socket. -/
theorem Blank.perform_eq (h : s.Blank) {st : SocketStep}
    (hunbound : (s.perform T w st).2.1.binding = none) : (s.perform T w st).2.1 = s := by
  cases hside : st.side with
  | sending => exact perform_sending_of_unbound T w h.binding hside
  | receiving => exact h.perform_receiving T w hside
  | asking => rw [perform_asking T s w hside]
  | lifecycle =>
    cases st with
    | begin port =>
      obtain ⟨base, w₀, opened, cs, hready, -, -, -, hs⟩ := begin_spec T port s w
      change (s.begin T port w).2.1.binding = none at hunbound
      change (s.begin T port w).2.1 = s
      rw [hs] at hunbound ⊢
      cases hready with
      | unbound hb =>
        change opened.toOption = none at hunbound
        rw [hunbound, ← hb]
      | stopped hb => exact absurd h.binding (not_unbound hb)
    | stop =>
      have hs : (s.perform T w .stop).2.1 = s.released := stop_released T s w
      rw [hs, h.released]
    | _ => cases hside

/-- What a bound socket becomes when it loses its binding is what stopping makes of it. -/
theorem perform_eq_released {b : Binding} (hb : s.binding = some b) {st : SocketStep}
    (hunbound : (s.perform T w st).2.1.binding = none) :
    (s.perform T w st).2.1 = s.released := by
  by_cases hside : st.side = .lifecycle
  · cases st with
    | begin port =>
      obtain ⟨base, w₀, opened, cs, hready, -, -, -, hs⟩ := begin_spec T port s w
      change (s.begin T port w).2.1.binding = none at hunbound
      change (s.begin T port w).2.1 = s.released
      rw [hs] at hunbound ⊢
      cases hready with
      | unbound hnone => exact absurd hnone (not_unbound hb)
      | stopped _ =>
        change opened.toOption = none at hunbound
        rw [hunbound]
        rfl
    | stop => exact stop_released T s w
    | _ => cases hside
  · rw [perform_binding T s w hside] at hunbound
    exact absurd hunbound (not_unbound hb)

theorem perform_zeroPast (h : s.tx.ZeroPast) (st : SocketStep) :
    (s.perform T w st).2.1.tx.ZeroPast := by
  rcases perform_tx T s w st with htx | htx | ⟨bytes, htx⟩
  · rw [htx]
    exact h
  · rw [htx]
    exact h.clear
  · rw [htx]
    exact h.append bytes

end Socket

variable {T : Transport σ} {past : List Turn} {s : Socket}

/-- What every life keeps, so that stopping can wipe the socket. -/
structure Wipeable (s : Socket) : Prop where
  clamped : s.config.clamped = s.config
  tx : s.tx.ZeroPast

theorem Lives.wipeable (h : Lives T past s) : Wipeable s := by
  induction h with
  | fresh table config =>
    exact ⟨Socket.clamped_clamped config, TransmitBuffer.zeroPast_ofCapacity _⟩
  | turn w st _ ih =>
    refine ⟨?_, Socket.perform_zeroPast T w ih.tx st⟩
    rw [(Socket.perform_keeps T _ w st).2]
    exact ih.clamped

theorem Lives.blank_released (h : Lives T past s) : s.released.Blank :=
  Socket.blank_released h.wipeable.clamped h.wipeable.tx h.capacities

/-- In every life the socket is blank while it is unbound. -/
theorem Lives.blank (h : Lives T past s) (hb : s.binding = none) : s.Blank := by
  induction h with
  | fresh table config => exact Socket.blank_ofConfig table config
  | @turn past s w st hlife ih =>
    rcases s.binding.eq_none_or_eq_some with hbefore | ⟨b, hbefore⟩
    · have hblank := ih hbefore
      rw [hblank.perform_eq T w hb]
      exact hblank
    · rw [Socket.perform_eq_released T w hbefore hb]
      exact hlife.blank_released

end Datagram
