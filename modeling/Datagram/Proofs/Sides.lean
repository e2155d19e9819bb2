import Datagram.Proofs.Operations

/-!
# The two sides of a socket

Each operation belongs to one side. Binding and giving back are the lifecycle; all operations on
outgoing packets change at most the transmit buffer and the destination; all operations on received
packets change at most the receive buffer and the remembered sender. Apart from the lifecycle
nothing changes the binding or a slot table, and apart from sending and parsing a packet nothing
calls the transport. Each call belongs to the side of the operation that makes it. Configuration and
slot table of a socket never change.
-/

namespace Datagram

inductive Side where
  | lifecycle
  | sending
  | receiving
  | asking
deriving DecidableEq

namespace SocketStep

def side : SocketStep → Side
  | begin _ | stop => .lifecycle
  | beginPacket _ | beginReply | beginPacketToHost .. | write _ | endPacket => .sending
  | flush | parsePacket | readByte | read _ | readExact _ | readToEnd | readToString => .receiving
  | config | describe => .asking

/-- Operations that never reach the transport. -/
def isLocal : SocketStep → Bool
  | begin _ | stop | endPacket | parsePacket => false
  | _ => true

theorem eq_endPacket {st : SocketStep} (hside : st.side = .sending) (h : st.isLocal = false) :
    st = .endPacket := by
  cases st with
  | endPacket => rfl
  | beginPacket _ | beginReply | beginPacketToHost _ _ _ | write _ => cases h
  | _ => cases hside

theorem eq_parsePacket {st : SocketStep} (hside : st.side = .receiving) (h : st.isLocal = false) :
    st = .parsePacket := by
  cases st with
  | parsePacket => rfl
  | flush | readByte | read _ | readExact _ | readToEnd | readToString => cases h
  | _ => cases hside

end SocketStep

def Call.side : Call → Side
  | create _ | bind .. | close .. | localPort .. => .lifecycle
  | send .. => .sending
  | receive .. | poll .. => .receiving

namespace Socket

variable {σ : Type} (T : Transport σ) (s : Socket) (w : World σ)

theorem beginPacket_of_unbound {s : Socket} (hb : s.binding = none) (d : Endpoint) :
    s.beginPacket d = (.error .notBound, s) := by
  simp only [beginPacket, handle_of_unbound hb]

theorem beginPacket_of_bound {s : Socket} {b : Binding} (hb : s.binding = some b) (d : Endpoint) :
    s.beginPacket d = (.ok (), { s with destination := some d, tx := s.tx.clear }) := by
  simp only [beginPacket, handle_of_bound hb]

theorem write_of_unbound {s : Socket} (hb : s.binding = none) (bytes : Bytes) :
    s.write bytes w = (.error .notBound, s, w) := by
  simp only [write, handle_of_unbound hb]

theorem write_of_bound {s : Socket} {b : Binding} (hb : s.binding = some b) (bytes : Bytes) :
    (s.write bytes w).1 = .ok (s.tx.append bytes).1 ∧
      (s.write bytes w).2.1 = { s with tx := (s.tx.append bytes).2 } := by
  simp only [write, handle_of_bound hb, and_self]

/-- Writing never reaches the transport or the tables. -/
theorem write_world (bytes : Bytes) :
    (s.write bytes w).2.2.calls = w.calls ∧ (s.write bytes w).2.2.tables = w.tables := by
  cases hb : s.binding with
  | none => rw [write_of_unbound w hb]; exact ⟨rfl, rfl⟩
  | some b =>
    simp only [write, handle_of_bound hb]
    split
    · exact ⟨World.calls_emit .., rfl⟩
    · exact ⟨rfl, rfl⟩

variable {ρ : Type} (resolve : String → ρ → Reply ρ (Result Ipv4)) (host : String) (port : UInt16)
  (r : ρ)

theorem beginPacketToHost_of_unbound {s : Socket} (hb : s.binding = none) :
    s.beginPacketToHost resolve host port w r = (.error .notBound, s, w, r) := by
  simp only [beginPacketToHost, handle_of_unbound hb]

/-- On a bound socket the resolver decides: failing changes nothing, an address starts a packet. -/
theorem beginPacketToHost_of_bound {s : Socket} {b : Binding} (hb : s.binding = some b) :
    (∃ e, (resolve host r).answer = .error e ∧
        (s.beginPacketToHost resolve host port w r).1 = .error e ∧
        (s.beginPacketToHost resolve host port w r).2.1 = s) ∨
      ∃ ip, (resolve host r).answer = .ok ip ∧
        (s.beginPacketToHost resolve host port w r).1 = .ok () ∧
        (s.beginPacketToHost resolve host port w r).2.1 =
          { s with destination := some ⟨ip, port⟩, tx := s.tx.clear } := by
  cases hr : (resolve host r).answer with
  | error e =>
    left
    refine ⟨e, rfl, ?_⟩
    simp only [beginPacketToHost, handle_of_bound hb, hr, and_self]
  | ok ip =>
    refine .inr ⟨ip, rfl, ?_⟩
    simp only [beginPacketToHost, handle_of_bound hb, hr, beginPacket_of_bound hb, and_self]

theorem beginPacketToHost_world :
    (s.beginPacketToHost resolve host port w r).2.2.1.calls = w.calls ∧
      (s.beginPacketToHost resolve host port w r).2.2.1.tables = w.tables := by
  cases hb : s.binding with
  | none => rw [beginPacketToHost_of_unbound w resolve host port r hb]; exact ⟨rfl, rfl⟩
  | some b =>
    cases hr : (resolve host r).answer with
    | error e => simp [beginPacketToHost, handle_of_bound hb, hr]
    | ok ip => simp [beginPacketToHost, handle_of_bound hb, hr]

/-- Operations on outgoing packets change the transmit buffer and the destination only. -/
theorem perform_sending {st : SocketStep} (h : st.side = .sending) :
    ∃ tx destination, (s.perform T w st).2.1 = { s with tx, destination } := by
  have hbegin (d : Endpoint) : ∃ tx destination,
      (s.beginPacket d).2 = { s with tx, destination } := by
    rcases s.binding.eq_none_or_eq_some with hb | ⟨b, hb⟩
    · exact ⟨s.tx, s.destination, by rw [beginPacket_of_unbound hb]⟩
    · exact ⟨s.tx.clear, some d, by rw [beginPacket_of_bound hb]⟩
  cases st with
  | beginPacket d => exact hbegin d
  | beginReply => exact hbegin ⟨s.remoteIp, s.remotePort⟩
  | beginPacketToHost host port lookup =>
    rcases s.binding.eq_none_or_eq_some with hb | ⟨b, hb⟩
    · refine ⟨s.tx, s.destination, ?_⟩
      simp only [perform, beginPacketToHost_of_unbound w lookup.askWith host port [] hb]
    · rcases beginPacketToHost_of_bound w lookup.askWith host port [] hb with
        ⟨e, -, -, hs⟩ | ⟨ip, -, -, hs⟩
      · exact ⟨s.tx, s.destination, hs⟩
      · exact ⟨s.tx.clear, some ⟨ip, port⟩, hs⟩
  | write bytes =>
    rcases s.binding.eq_none_or_eq_some with hb | ⟨b, hb⟩
    · refine ⟨s.tx, s.destination, ?_⟩
      simp only [perform, write_of_unbound w hb]
    · exact ⟨(s.tx.append bytes).2, s.destination, (write_of_bound w hb bytes).2⟩
  | endPacket =>
    obtain ⟨cs, hsending, -⟩ := endPacket_sending T s w
    change ∃ tx destination, (s.endPacket T w).2.1 = { s with tx, destination }
    generalize (s.endPacket T w).1 = answer, (s.endPacket T w).2.1 = s' at hsending
    cases hsending with
    | sent => exact ⟨s.tx.clear, s.destination, rfl⟩
    | notBound | noDestination | failed => exact ⟨s.tx, s.destination, rfl⟩
  | _ => cases h

/-- Operations on received packets change the receive buffer and the remembered sender only. -/
theorem perform_receiving {st : SocketStep} (h : st.side = .receiving) :
    ∃ rx remote, (s.perform T w st).2.1 = { s with rx, remote } := by
  cases st with
  | parsePacket =>
    obtain ⟨cs, hparsing, -⟩ := parsePacket_parsing T s w
    change ∃ rx remote, (s.parsePacket T w).2.1 = { s with rx, remote }
    generalize (s.parsePacket T w).1 = answer, (s.parsePacket T w).2.1 = s' at hparsing
    cases hparsing with
    | receiveFailed => exact ⟨s.rx.clear, s.remote, rfl⟩
    | received => exact ⟨_, _, rfl⟩
    | notBound | pollFailed | timedOut => exact ⟨s.rx, s.remote, rfl⟩
  | flush | readByte | read _ | readExact _ | readToEnd | readToString => exact ⟨_, s.remote, rfl⟩
  | _ => cases h

theorem perform_asking {st : SocketStep} (h : st.side = .asking) :
    (s.perform T w st).2 = (s, w) := by
  cases st with
  | config | describe => rfl
  | _ => cases h

theorem perform_local {st : SocketStep} (h : st.isLocal = true) :
    (s.perform T w st).2.2.calls = w.calls ∧ (s.perform T w st).2.2.tables = w.tables := by
  cases st with
  | write bytes => exact write_world s w bytes
  | beginPacketToHost host port lookup =>
    exact beginPacketToHost_world s w lookup.askWith host port []
  | begin _ | stop | endPacket | parsePacket => cases h
  | _ => exact ⟨rfl, rfl⟩

theorem Opening.side {T : Transport σ} {table : Nat} {port : UInt16} {w : World σ}
    {answer : Result Binding} {tables : List SlotTable} {cs : List Call}
    (h : Opening T table port w answer tables cs) : ∀ c ∈ cs, c.side = .lifecycle := by
  intro c hc
  cases h with
  | noSlot => cases hc
  | createFailed =>
    rw [List.mem_singleton.1 hc]
    rfl
  | bindFailed =>
    simp only [List.mem_cons, List.not_mem_nil, or_false] at hc
    rcases hc with rfl | rfl | rfl <;> rfl
  | bound =>
    rcases List.mem_cons.1 hc with rfl | hc
    · rfl
    rcases List.mem_cons.1 hc with rfl | hc
    · rfl
    unfold Transport.portQuery at hc
    split at hc
    · rw [List.mem_singleton.1 hc]
      rfl
    · cases hc

theorem Sending.side {s s' : Socket} {answer : Result Nat} {cs : List Call}
    (h : Sending s answer s' cs) : ∀ c ∈ cs, c.side = .sending := by
  intro c hc
  cases h with
  | notBound | noDestination => cases hc
  | failed | sent =>
    rw [List.mem_singleton.1 hc]
    rfl

theorem Parsing.side {s s' : Socket} {answer : Result Nat} {cs : List Call}
    (h : Parsing s answer s' cs) : ∀ c ∈ cs, c.side = .receiving := by
  intro c hc
  cases h with
  | notBound => cases hc
  | pollFailed | timedOut =>
    rw [List.mem_singleton.1 hc]
    rfl
  | receiveFailed | received =>
    simp only [List.mem_cons, List.not_mem_nil, or_false] at hc
    rcases hc with rfl | rfl <;> rfl

/-- Stopping or binding anew closes the handle that the socket held, before anything else. -/
theorem perform_closes {s : Socket} {b : Binding} (hb : s.binding = some b) {st : SocketStep}
    (hside : st.side = .lifecycle) :
    ∃ closed cs, (s.perform T w st).2.2.calls = w.calls ++ .close b.handle closed :: cs ∧
      ∀ c ∈ cs, c.side = .lifecycle := by
  cases st with
  | begin port =>
    obtain ⟨base, w₀, opened, cs, hready, hopening, hcalls, -⟩ := begin_spec T port s w
    cases hready with
    | unbound hnone => exact absurd hnone (not_unbound hb)
    | @stopped b' hb' =>
      obtain rfl : b = b' := Option.some.inj (hb.symm.trans hb')
      obtain ⟨-, closed, hclose⟩ := giveBack_spec T b (w.emit (.rebinding b.port port))
      refine ⟨closed, cs, ?_, hopening.side⟩
      change (s.begin T port w).2.2.calls = _
      rw [hcalls, hclose, World.calls_emit, List.append_assoc]
      rfl
  | stop =>
    obtain ⟨-, closed, hclose⟩ := giveBack_spec T b w
    refine ⟨closed, [], ?_, List.forall_mem_nil _⟩
    change (s.stop T w).2.calls = _
    rw [stop_of_bound T hb]
    exact hclose
  | _ => cases hside

/-- Every call is made by an operation of its own side that is not local. -/
theorem perform_calls (st : SocketStep) :
    ∃ cs, (s.perform T w st).2.2.calls = w.calls ++ cs ∧
      ∀ c ∈ cs, c.side = st.side ∧ st.isLocal = false := by
  have hclosing {b : Binding} (hb : s.binding = some b) (hside : st.side = .lifecycle) :
      ∃ cs, (s.perform T w st).2.2.calls = w.calls ++ cs ∧ ∀ c ∈ cs, c.side = .lifecycle := by
    obtain ⟨closed, cs, hcalls, hall⟩ := perform_closes T w hb hside
    refine ⟨_, hcalls, ?_⟩
    intro c hc
    rcases List.mem_cons.1 hc with rfl | hc
    · rfl
    · exact hall c hc
  cases st with
  | begin port =>
    obtain ⟨base, w₀, opened, cs, hready, hopening, hcalls, -⟩ := begin_spec T port s w
    cases hready with
    | unbound => exact ⟨cs, hcalls, fun c hc => ⟨hopening.side c hc, rfl⟩⟩
    | stopped hb =>
      obtain ⟨cs, hcalls, hall⟩ := hclosing hb rfl
      exact ⟨cs, hcalls, fun c hc => ⟨hall c hc, rfl⟩⟩
  | stop =>
    rcases s.binding.eq_none_or_eq_some with hb | ⟨b, hb⟩
    · refine ⟨[], ?_, List.forall_mem_nil _⟩
      change (s.stop T w).2.calls = _
      rw [stop_of_unbound T hb, List.append_nil]
    · obtain ⟨cs, hcalls, hall⟩ := hclosing hb rfl
      exact ⟨cs, hcalls, fun c hc => ⟨hall c hc, rfl⟩⟩
  | endPacket =>
    obtain ⟨cs, hsending, hcalls, -⟩ := endPacket_sending T s w
    exact ⟨cs, hcalls, fun c hc => ⟨hsending.side c hc, rfl⟩⟩
  | parsePacket =>
    obtain ⟨cs, hparsing, hcalls, -⟩ := parsePacket_parsing T s w
    exact ⟨cs, hcalls, fun c hc => ⟨hparsing.side c hc, rfl⟩⟩
  | _ =>
    refine ⟨[], ?_, List.forall_mem_nil _⟩
    rw [List.append_nil]
    exact (perform_local T s w rfl).1

theorem perform_tables {st : SocketStep} (h : st.side ≠ .lifecycle) :
    (s.perform T w st).2.2.tables = w.tables := by
  cases st with
  | endPacket =>
    obtain ⟨cs, -, -, htables⟩ := endPacket_sending T s w
    exact htables
  | parsePacket =>
    obtain ⟨cs, -, -, htables⟩ := parsePacket_parsing T s w
    exact htables
  | begin _ | stop => exact absurd rfl h
  | _ => exact (perform_local T s w rfl).2

theorem perform_binding {st : SocketStep} (h : st.side ≠ .lifecycle) :
    (s.perform T w st).2.1.binding = s.binding := by
  cases hside : st.side with
  | lifecycle => exact absurd hside h
  | sending =>
    obtain ⟨tx, destination, hs⟩ := perform_sending T s w hside
    rw [hs]
  | receiving =>
    obtain ⟨rx, remote, hs⟩ := perform_receiving T s w hside
    rw [hs]
  | asking => rw [perform_asking T s w hside]

/-- A socket keeps its slot table and its configuration for life. -/
theorem perform_keeps (st : SocketStep) :
    (s.perform T w st).2.1.table = s.table ∧ (s.perform T w st).2.1.config = s.config := by
  cases hside : st.side with
  | lifecycle =>
    cases st with
    | begin port =>
      obtain ⟨base, w₀, opened, cs, hready, -, -, -, hs⟩ := begin_spec T port s w
      change (s.begin T port w).2.1.table = s.table ∧ (s.begin T port w).2.1.config = s.config
      rw [hs]
      cases hready with
      | unbound | stopped => exact ⟨rfl, rfl⟩
    | stop =>
      have hs : (s.perform T w .stop).2.1 = s.released := stop_released T s w
      rw [hs]
      exact ⟨rfl, rfl⟩
    | _ => cases hside
  | sending =>
    obtain ⟨tx, destination, hs⟩ := perform_sending T s w hside
    rw [hs]
    exact ⟨rfl, rfl⟩
  | receiving =>
    obtain ⟨rx, remote, hs⟩ := perform_receiving T s w hside
    rw [hs]
    exact ⟨rfl, rfl⟩
  | asking =>
    rw [perform_asking T s w hside]
    exact ⟨rfl, rfl⟩

end Socket
end Datagram
