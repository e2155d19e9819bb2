import Datagram.Proofs.BindingGate
import Datagram.Proofs.Separation

/-!
# Sending and receiving on one socket

Operations on outgoing packets and on received ones may be mixed in any order. `Follows` relates a
socket that has been used in both ways to one that has been used in the operations of one side only,
each with its world: they agree in everything but the other side, and their transports have come
from one state by calls that are the same on this side. An operation of the side keeps this, and is
answered alike, because the transport is separate in the side; an operation of the other side keeps
it because it neither touches the side nor makes a call of it.
-/

namespace Datagram

variable {σ α : Type}

/-- Operations on outgoing packets. A single byte is written as a list of one. -/
inductive SendStep where
  | beginPacket (destination : Endpoint)
  | beginPacketToHost (host : String) (port : UInt16) (lookup : Lookup)
  | write (data : Bytes)
  | endPacket

inductive ReceiveStep where
  | parsePacket
  | readByte
  | read (out : Bytes)
  | readExact (out : Bytes)
  | readToEnd
  | readToString
  | peek
  | available
  | flush

def SendStep.step : SendStep → SocketStep
  | beginPacket destination => .beginPacket destination
  | beginPacketToHost host port lookup => .beginPacketToHost host port lookup
  | write data => .write data
  | endPacket => .endPacket

theorem SendStep.side_step (st : SendStep) : st.step.side = .sending := by cases st <;> rfl

theorem SendStep.refusal_step (st : SendStep) : ∃ answer, st.step.refusal? = some answer := by
  cases st <;> exact ⟨_, rfl⟩

def sideOf : SendStep ⊕ ReceiveStep → Side
  | .inl _ => .sending
  | .inr _ => .receiving

theorem Call.isTraffic_of_side {c : Call} (h : c.side ≠ .lifecycle) : c.isTraffic = true := by
  cases c with
  | send | receive | poll => rfl
  | _ => exact absurd rfl h

namespace Socket

def performReceiving (T : Transport σ) (s : Socket) (w : World σ) :
    ReceiveStep → Answer × Socket × World σ
  | .parsePacket => s.perform T w .parsePacket
  | .readByte => s.perform T w .readByte
  | .read out => s.perform T w (.read out)
  | .readExact out => s.perform T w (.readExact out)
  | .readToEnd => s.perform T w .readToEnd
  | .readToString => s.perform T w .readToString
  | .peek => (.byte s.peek, s, w)
  | .available => (.count (.ok s.available), s, w)
  | .flush => s.perform T w .flush

def exchange (T : Transport σ) (s : Socket) (w : World σ) :
    SendStep ⊕ ReceiveStep → Answer × Socket × World σ
  | .inl st => s.perform T w st.step
  | .inr st => s.performReceiving T w st

/-- Operations one after the other, and the answers with the side of each. -/
def exchangeAll (T : Transport σ) (s : Socket) (w : World σ) :
    List (SendStep ⊕ ReceiveStep) → List (Side × Answer) × Socket × World σ
  | [] => ([], s, w)
  | op :: rest =>
    let (answer, s, w) := s.exchange T w op
    let (answers, s, w) := exchangeAll T s w rest
    ((sideOf op, answer) :: answers, s, w)

structure SendsAlike (s s₁ : Socket) : Prop where
  binding : s₁.binding = s.binding
  tx : s₁.tx = s.tx
  destination : s₁.destination = s.destination

structure ReceivesAlike (s s₁ : Socket) : Prop where
  binding : s₁.binding = s.binding
  config : s₁.config = s.config
  rx : s₁.rx = s.rx
  remote : s₁.remote = s.remote

/-- Sockets that differ at most in what does not matter for the side. -/
inductive AgreeOn : Side → Socket → Socket → Prop
  | sending {s s₁} (h : SendsAlike s s₁) : AgreeOn .sending s s₁
  | receiving {s s₁} (h : ReceivesAlike s s₁) : AgreeOn .receiving s s₁

variable (T : Transport σ) (s : Socket) (w : World σ)

theorem perform_evolves_side (st : SocketStep) :
    ∃ cs, World.Evolves T w cs (s.perform T w st).2.2 ∧ ∀ c ∈ cs, c.side = st.side := by
  obtain ⟨cs, hcalls, hall⟩ := perform_calls T s w st
  obtain ⟨cs', hevolves⟩ := perform_evolves T s w st
  exact ⟨cs, hevolves.calls_unique hcalls, fun c hc => (hall c hc).1⟩

theorem perform_evolves_local {st : SocketStep} (hst : st.isLocal = true) :
    World.Evolves T w [] (s.perform T w st).2.2 := by
  obtain ⟨cs, hevolves⟩ := perform_evolves T s w st
  apply hevolves.calls_unique
  rw [List.append_nil]
  exact (perform_local T s w hst).1

/-- Operations on received packets, seen from the side of sending. -/
theorem performReceiving_aside (st : ReceiveStep) :
    ∃ rx remote cs, (s.performReceiving T w st).2.1 = { s with rx, remote } ∧
      World.Evolves T w cs (s.performReceiving T w st).2.2 ∧ ∀ c ∈ cs, c.side = .receiving := by
  have hperform (op : SocketStep) (hop : op.side = .receiving) :
      ∃ rx remote cs, (s.perform T w op).2.1 = { s with rx, remote } ∧
        World.Evolves T w cs (s.perform T w op).2.2 ∧ ∀ c ∈ cs, c.side = .receiving := by
    obtain ⟨rx, remote, hs⟩ := perform_receiving T s w hop
    obtain ⟨cs, hevolves, hall⟩ := perform_evolves_side T s w op
    exact ⟨rx, remote, cs, hs, hevolves, fun c hc => (hall c hc).trans hop⟩
  cases st with
  | peek | available =>
    exact ⟨s.rx, s.remote, [], rfl, World.evolves_refl T w, List.forall_mem_nil _⟩
  | _ => exact hperform _ rfl

end Socket

namespace World

variable {T : Transport σ} {side : Side} {w₀ w w₁ w' w₁' : World σ}

/-- From one start, one world has come by traffic and the other by the same traffic without the
calls of the other sides. -/
def Trails (T : Transport σ) (side : Side) (w₀ w w₁ : World σ) : Prop :=
  ∃ cs, (∀ c ∈ cs, c.isTraffic = true) ∧ Evolves T w₀ cs w ∧
    Evolves T w₀ (cs.filter fun c => c.side = side) w₁

theorem trails_refl (T : Transport σ) (side : Side) (w : World σ) : Trails T side w w w :=
  ⟨[], List.forall_mem_nil _, evolves_refl T w, evolves_refl T w⟩

namespace Trails

theorem quiet (h : Trails T side w₀ w w₁) (hw : Evolves T w [] w')
    (hw₁ : Evolves T w₁ [] w₁') : Trails T side w₀ w' w₁' := by
  obtain ⟨cs, htraffic, hmixed, halone⟩ := h
  refine ⟨cs, htraffic, ?_, ?_⟩
  · have hlater := hmixed.trans hw
    rwa [List.append_nil] at hlater
  · have hlater := halone.trans hw₁
    rwa [List.append_nil] at hlater

/-- Calls of another side. -/
theorem aside (h : Trails T side w₀ w w₁) {cs : List Call} (hw : Evolves T w cs w') {other : Side}
    (hcs : ∀ c ∈ cs, c.side = other) (hother : other ≠ side) (htraffic : other ≠ .lifecycle) :
    Trails T side w₀ w' w₁ := by
  obtain ⟨past, hpast, hmixed, halone⟩ := h
  refine ⟨past ++ cs, ?_, hmixed.trans hw, ?_⟩
  · intro c hc
    rcases List.mem_append.1 hc with hc | hc
    · exact hpast c hc
    · exact Call.isTraffic_of_side (hcs c hc ▸ htraffic)
  · have hnone : cs.filter (fun c => c.side = side) = [] := by
      rw [List.filter_eq_nil_iff]
      intro c hc
      simpa [hcs c hc] using hother
    rw [List.filter_append, hnone, List.append_nil]
    exact halone

/-- A call of the side is answered alike in both worlds. -/
theorem perform (h : Trails T side w₀ w w₁) (hsep : T.Separate side w₀.transport)
    {call : σ → Reply σ α} {entry : α → Call} {a : α} (hcall : w.perform call entry = (a, w'))
    (htakes : ∀ t, T.Takes t (entry (call t).answer) (call t).events (call t).state)
    (hanswer : ∀ t es t', T.Takes t (entry a) es t' → (call t).answer = a)
    (hside : (entry a).side = side) (htraffic : (entry a).isTraffic = true)
    (hok : (entry a).failedClose? = none) :
    ∃ w₁', w₁.perform call entry = (a, w₁') ∧ Trails T side w₀ w' w₁' := by
  obtain ⟨past, hpast, hmixed, halone⟩ := h
  have hlater := hmixed.trans (perform_evolves hcall (htakes _) hok)
  have hall : ∀ c ∈ past ++ [entry a], c.isTraffic = true := by
    intro c hc
    rcases List.mem_append.1 hc with hc | hc
    · exact hpast c hc
    · rw [List.mem_singleton.1 hc]
      exact htraffic
  have hfilter : (past ++ [entry a]).filter (fun c => c.side = side) =
      past.filter (fun c => c.side = side) ++ [entry a] := by
    rw [List.filter_append, List.filter_cons_of_pos (by simpa using hside), List.filter_nil]
  -- the calls of the side alone end in the same call, which the world that has made them takes
  obtain ⟨t, hreplays⟩ := hsep _ _ hall hlater.replays
  rw [hfilter] at hreplays
  obtain ⟨t₁, hbefore, hlast⟩ := hreplays.of_append
  obtain rfl := hbefore.unique halone.replays
  have hsame : (call w₁.transport).answer = a := by
    cases hlast with
    | cons hc _ => exact hanswer _ _ _ hc
  have hcall₁ : w₁.perform call entry = (a, (w₁.perform call entry).2) := by
    rw [← hsame]
    rfl
  refine ⟨_, hcall₁, past ++ [entry a], hall, hlater, ?_⟩
  rw [hfilter]
  exact halone.trans (perform_evolves hcall₁ (htakes _) hok)

end Trails
end World

namespace Socket

open World

variable {T : Transport σ} {side : Side} {w₀ w w₁ : World σ} {s s₁ : Socket}

/-- A socket used in both ways and one used in the operations of one side, with their worlds. -/
structure Follows (T : Transport σ) (side : Side) (w₀ : World σ) (p p₁ : Socket × World σ) :
    Prop where
  agree : AgreeOn side p.1 p₁.1
  trails : Trails T side w₀ p.2 p₁.2

/-- Both have answered alike, and one still follows the other. -/
structure Match (T : Transport σ) (side : Side) (w₀ : World σ) (r r₁ : α × Socket × World σ) :
    Prop where
  answer : r₁.1 = r.1
  follows : Follows T side w₀ r.2 r₁.2

theorem Match.count {r r₁ : Result Nat × Socket × World σ} (h : Match T side w₀ r r₁) :
    Match T side w₀ (Answer.count r.1, r.2) (Answer.count r₁.1, r₁.2) :=
  ⟨congrArg Answer.count h.answer, h.follows⟩

theorem endPacket_match (hsep : T.Separate .sending w₀.transport) (h : SendsAlike s s₁)
    (hw : Trails T .sending w₀ w w₁) {b : Binding} (hb : s.binding = some b) :
    Match T .sending w₀ (s.endPacket T w) (s₁.endPacket T w₁) := by
  have hb₁ : s₁.binding = some b := h.binding.trans hb
  rcases s.destination.eq_none_or_eq_some with hd | ⟨target, hd⟩
  · have hd₁ : s₁.destination = none := h.destination.trans hd
    simp only [endPacket, handle_of_bound hb, handle_of_bound hb₁, hd, hd₁]
    exact ⟨rfl, .sending h, hw⟩
  · have hd₁ : s₁.destination = some target := h.destination.trans hd
    rcases hsend : w.send T b.handle s.tx.contents target with ⟨answer, w'⟩
    obtain ⟨w₁', hsend₁, htrails⟩ := hw.perform hsep hsend
      (fun t => .send b.handle s.tx.contents target) (fun t es t' hc => hc.send_answer) rfl rfl rfl
    change w₁.send T b.handle s.tx.contents target = _ at hsend₁
    simp only [endPacket, handle_of_bound hb, handle_of_bound hb₁, hd, hd₁, h.tx, hsend, hsend₁]
    cases answer with
    | error e => exact ⟨rfl, .sending h, htrails⟩
    | ok count =>
      exact ⟨rfl, .sending ⟨h.binding, rfl, rfl⟩,
        htrails.quiet ((evolves_refl T w').emit rfl) ((evolves_refl T w₁').emit rfl)⟩

theorem receive_match (hsep : T.Separate .receiving w₀.transport) (h : ReceivesAlike s s₁)
    (hw : Trails T .receiving w₀ w w₁) (k : Handle) :
    Match T .receiving w₀ (s.receive T k w) (s₁.receive T k w₁) := by
  rcases hreceive : w.receive T k s.rx.capacity with ⟨delivery, w'⟩
  obtain ⟨w₁', hreceive₁, htrails⟩ := hw.perform hsep hreceive
    (fun t => .receive k s.rx.capacity) (fun t es t' hc => hc.receive_answer) rfl rfl rfl
  change w₁.receive T k s.rx.capacity = _ at hreceive₁
  simp only [receive, h.rx, hreceive, hreceive₁]
  cases delivery.outcome with
  | error e => exact ⟨rfl, .receiving ⟨h.binding, h.config, rfl, h.remote⟩, htrails⟩
  | ok loaded =>
    exact ⟨rfl, .receiving ⟨h.binding, h.config, rfl, rfl⟩,
      htrails.quiet ((evolves_refl T w').emit rfl) ((evolves_refl T w₁').emit rfl)⟩

theorem parsePacket_match (hsep : T.Separate .receiving w₀.transport) (h : ReceivesAlike s s₁)
    (hw : Trails T .receiving w₀ w w₁) {b : Binding} (hb : s.binding = some b) :
    Match T .receiving w₀ (s.parsePacket T w) (s₁.parsePacket T w₁) := by
  have hb₁ : s₁.binding = some b := h.binding.trans hb
  rcases hpoll : w.poll T b.handle s.config.pollTimeout with ⟨polled, w'⟩
  obtain ⟨w₁', hpoll₁, htrails⟩ := hw.perform hsep hpoll
    (fun t => .poll b.handle s.config.pollTimeout) (fun t es t' hc => hc.poll_answer) rfl rfl rfl
  change w₁.poll T b.handle s.config.pollTimeout = _ at hpoll₁
  simp only [parsePacket, handle_of_bound hb, handle_of_bound hb₁, h.config, hpoll, hpoll₁]
  cases polled with
  | error e => exact ⟨rfl, .receiving h, htrails⟩
  | ok readiness =>
    cases hready : readiness.shouldReceive with
    | false =>
      simp only [hready, Bool.false_eq_true, if_false]
      exact ⟨rfl, .receiving h, htrails⟩
    | true =>
      simp only [hready, if_true]
      exact receive_match hsep h htrails b.handle

/-- An operation on outgoing packets is answered alike where the sending side is. -/
theorem sending_match (hsep : T.Separate .sending w₀.transport) (h : SendsAlike s s₁)
    (hw : Trails T .sending w₀ w w₁) (st : SendStep) :
    Match T .sending w₀ (s.perform T w st.step) (s₁.perform T w₁ st.step) := by
  rcases s.binding.eq_none_or_eq_some with hb | ⟨b, hb⟩
  · obtain ⟨answer, hst⟩ := st.refusal_step
    rw [perform_refused hb hst, perform_refused (h.binding.trans hb) hst]
    exact ⟨rfl, .sending h, hw⟩
  · have hb₁ : s₁.binding = some b := h.binding.trans hb
    have hstarted (d : Endpoint) : SendsAlike { s with destination := some d, tx := s.tx.clear }
        { s₁ with destination := some d, tx := s₁.tx.clear } :=
      ⟨h.binding, congrArg TransmitBuffer.clear h.tx, rfl⟩
    have hquiet (hst : st.step.isLocal = true) :
        Trails T .sending w₀ (s.perform T w st.step).2.2 (s₁.perform T w₁ st.step).2.2 :=
      hw.quiet (perform_evolves_local T s w hst) (perform_evolves_local T s₁ w₁ hst)
    cases st with
    | beginPacket d =>
      simp only [SendStep.step, perform, beginPacket_of_bound hb, beginPacket_of_bound hb₁]
      exact ⟨rfl, .sending (hstarted d), hw⟩
    | beginPacketToHost host port lookup =>
      have htrails := hquiet rfl
      simp only [SendStep.step, perform, beginPacketToHost, handle_of_bound hb,
        handle_of_bound hb₁, beginPacket_of_bound hb, beginPacket_of_bound hb₁] at htrails ⊢
      cases hresolved : (lookup.askWith host []).answer with
      | error e =>
        simp only [hresolved] at htrails ⊢
        exact ⟨rfl, .sending h, htrails⟩
      | ok ip =>
        simp only [hresolved] at htrails ⊢
        exact ⟨rfl, .sending (hstarted ⟨ip, port⟩), htrails⟩
    | write bytes =>
      have htrails := hquiet rfl
      simp only [SendStep.step, perform, write, handle_of_bound hb, handle_of_bound hb₁, h.tx]
        at htrails ⊢
      exact ⟨rfl, .sending ⟨h.binding, rfl, h.destination⟩, htrails⟩
    | endPacket => exact (endPacket_match hsep h hw hb).count

/-- An operation on received packets is answered alike where the receiving side is. -/
theorem receiving_match (hsep : T.Separate .receiving w₀.transport) (h : ReceivesAlike s s₁)
    (hw : Trails T .receiving w₀ w w₁) (st : ReceiveStep) :
    Match T .receiving w₀ (s.performReceiving T w st) (s₁.performReceiving T w₁ st) := by
  cases st with
  | parsePacket =>
    rcases s.binding.eq_none_or_eq_some with hb | ⟨b, hb⟩
    · change Match T .receiving w₀ (s.perform T w .parsePacket) (s₁.perform T w₁ .parsePacket)
      rw [perform_refused hb rfl, perform_refused (h.binding.trans hb) rfl]
      exact ⟨rfl, .receiving h, hw⟩
    · exact (parsePacket_match hsep h hw hb).count
  | peek =>
    have hpeek : s₁.peek = s.peek := by rw [peek, peek, h.rx]
    exact ⟨congrArg Answer.byte hpeek, .receiving h, hw⟩
  | available =>
    have havailable : s₁.available = s.available := by rw [available, available, h.rx]
    exact ⟨congrArg (fun n => Answer.count (.ok n)) havailable, .receiving h, hw⟩
  | _ =>
    simp only [performReceiving, perform, readByte, read, flush, h.rx]
    exact ⟨rfl, .receiving ⟨h.binding, h.config, rfl, h.remote⟩, hw⟩

variable {p p₁ : Socket × World σ} {op : SendStep ⊕ ReceiveStep}

/-- An operation of the side is answered alike. -/
theorem Follows.own (h : Follows T side w₀ p p₁) (hsep : T.Separate side w₀.transport)
    (hop : sideOf op = side) :
    Match T side w₀ (p.1.exchange T p.2 op) (p₁.1.exchange T p₁.2 op) := by
  obtain ⟨hagree, htrails⟩ := h
  cases hagree with
  | sending h =>
    cases op with
    | inl st => exact sending_match hsep h htrails st
    | inr st => cases hop
  | receiving h =>
    cases op with
    | inl st => cases hop
    | inr st => exact receiving_match hsep h htrails st

/-- An operation of the other side does not show. -/
theorem Follows.aside (h : Follows T side w₀ p p₁) (hop : sideOf op ≠ side) :
    Follows T side w₀ (p.1.exchange T p.2 op).2 p₁ := by
  obtain ⟨hagree, htrails⟩ := h
  cases hagree with
  | sending h =>
    cases op with
    | inl st => exact absurd rfl hop
    | inr st =>
      obtain ⟨rx, remote, cs, hs, hevolves, hcs⟩ := performReceiving_aside T p.1 p.2 st
      refine ⟨.sending ?_, htrails.aside hevolves hcs nofun nofun⟩
      change SendsAlike (p.1.performReceiving T p.2 st).2.1 p₁.1
      rw [hs]
      exact ⟨h.binding, h.tx, h.destination⟩
  | receiving h =>
    cases op with
    | inr st => exact absurd rfl hop
    | inl st =>
      obtain ⟨tx, destination, hs⟩ := perform_sending T p.1 p.2 st.side_step
      obtain ⟨cs, hevolves, hcs⟩ := perform_evolves_side T p.1 p.2 st.step
      rw [st.side_step] at hcs
      refine ⟨.receiving ?_, htrails.aside hevolves hcs nofun nofun⟩
      change ReceivesAlike (p.1.perform T p.2 st.step).2.1 p₁.1
      rw [hs]
      exact ⟨h.binding, h.config, h.rx, h.remote⟩

/-- The operations of one side, taken out of any mixture, are answered as they were in it. -/
theorem Follows.exchangeAll (h : Follows T side w₀ p p₁) (hsep : T.Separate side w₀.transport)
    (ops : List (SendStep ⊕ ReceiveStep)) :
    let mixed := p.1.exchangeAll T p.2 ops
    let alone := p₁.1.exchangeAll T p₁.2 (ops.filter fun op => sideOf op = side)
    alone.1 = mixed.1.filter (fun answer => answer.1 = side) ∧
      Follows T side w₀ mixed.2 alone.2 := by
  induction ops generalizing p p₁ with
  | nil => exact ⟨rfl, h⟩
  | cons op ops ih =>
    by_cases hop : sideOf op = side
    · obtain ⟨hanswer, hnext⟩ := h.own hsep hop
      obtain ⟨hanswers, hlast⟩ := ih hnext
      rw [List.filter_cons_of_pos (by simpa using hop)]
      refine ⟨?_, hlast⟩
      simp only [Socket.exchangeAll]
      rw [List.filter_cons_of_pos (by simpa using hop), hanswer, hanswers]
    · obtain ⟨hanswers, hlast⟩ := ih (h.aside hop)
      rw [List.filter_cons_of_neg (by simpa using hop)]
      refine ⟨?_, hlast⟩
      simp only [Socket.exchangeAll]
      rw [List.filter_cons_of_neg (by simpa using hop), hanswers]

/-- On any socket, over a transport whose answers to sending do not depend on receiving and the
other way round, the operations of each side are answered in every mixture of both as they are
alone. They make the same calls in the same order, with the same answers, and leave their side of
the socket the same in the end. -/
theorem sides_do_not_interfere (T : Transport σ) (s : Socket) (w : World σ)
    (hsending : T.Separate .sending w.transport) (hreceiving : T.Separate .receiving w.transport)
    (ops : List (SendStep ⊕ ReceiveStep)) :
    let mixed := s.exchangeAll T w ops
    let sends := s.exchangeAll T w (ops.filter fun op => sideOf op = .sending)
    let receives := s.exchangeAll T w (ops.filter fun op => sideOf op = .receiving)
    (sends.1 = mixed.1.filter (fun answer => answer.1 = .sending) ∧
      SendsAlike mixed.2.1 sends.2.1) ∧
    (receives.1 = mixed.1.filter (fun answer => answer.1 = .receiving) ∧
      ReceivesAlike mixed.2.1 receives.2.1) ∧
    ∃ cs, (∀ c ∈ cs, c.isTraffic = true) ∧ mixed.2.2.calls = w.calls ++ cs ∧
      sends.2.2.calls = w.calls ++ cs.filter (fun c => c.side = .sending) ∧
      receives.2.2.calls = w.calls ++ cs.filter (fun c => c.side = .receiving) := by
  intro mixed sends receives
  have hstartSending : Follows T .sending w (s, w) (s, w) :=
    ⟨.sending ⟨rfl, rfl, rfl⟩, trails_refl T .sending w⟩
  have hstartReceiving : Follows T .receiving w (s, w) (s, w) :=
    ⟨.receiving ⟨rfl, rfl, rfl, rfl⟩, trails_refl T .receiving w⟩
  obtain ⟨hanswers, ⟨hagree, cs, htraffic, hmixed, halone⟩⟩ :=
    hstartSending.exchangeAll hsending ops
  obtain ⟨hanswers', ⟨hagree', cs', -, hmixed', halone'⟩⟩ :=
    hstartReceiving.exchangeAll hreceiving ops
  obtain rfl : cs = cs' := List.append_cancel_left (hmixed.calls.symm.trans hmixed'.calls)
  cases hagree with
  | sending halike =>
    cases hagree' with
    | receiving halike' =>
      exact ⟨⟨hanswers, halike⟩, ⟨hanswers', halike'⟩, cs, htraffic, hmixed.calls, halone.calls,
        halone'.calls⟩

/-- Sending fails at first, the name of a host cannot be resolved, and receiving fails once, while a
packet is being read. -/
theorem sides_do_not_interfere_failing :
    let script : Script :=
      { send := [.fails (.send "unreachable")]
        inbound := [.datagram [1, 2] ⟨.localhost, 9⟩ none, .failure (.receive "reset")] }
    let s : Socket :=
      { Socket.ofConfig 0 { Config.standard with txCapacity := 2, rxCapacity := 2 } with
        binding := some ⟨⟨1⟩, 7000, ⟨0, 0⟩⟩ }
    let w : World Script := { tables := [], transport := script }
    let sending : List (SendStep ⊕ ReceiveStep) :=
      [.inl (.beginPacket ⟨.localhost, 8⟩), .inl (.write [5]), .inl .endPacket,
        .inl (.beginPacketToHost "nowhere" 8 (.ofTable [])), .inl .endPacket]
    let mixed := s.exchangeAll Script.transport w
      [.inl (.beginPacket ⟨.localhost, 8⟩), .inr .parsePacket, .inl (.write [5]), .inr .readByte,
        .inl .endPacket, .inl (.beginPacketToHost "nowhere" 8 (.ofTable [])), .inr .parsePacket,
        .inl .endPacket, .inr .available]
    let sends := s.exchangeAll Script.transport w sending
    sends.1 = mixed.1.filter (fun answer => answer.1 = .sending) ∧
      SendsAlike mixed.2.1 sends.2.1 ∧ mixed.2.2.calls.length = 6 := by
  intro script s w sending mixed sends
  have h := sides_do_not_interfere Script.transport s w (Script.sendingView.separate _)
    (Script.receivingView.separate _)
    [.inl (.beginPacket ⟨.localhost, 8⟩), .inr .parsePacket, .inl (.write [5]), .inr .readByte,
      .inl .endPacket, .inl (.beginPacketToHost "nowhere" 8 (.ofTable [])), .inr .parsePacket,
      .inl .endPacket, .inr .available]
  exact ⟨h.1.1, h.1.2, by decide⟩

end Socket
end Datagram
