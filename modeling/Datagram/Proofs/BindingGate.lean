import Datagram.Proofs.Bindings
import Datagram.Proofs.CallProtocol

/-!
# What needs a bound socket

Starting, filling, sending and parsing a packet need a bound socket. An unbound one refuses them
before it does anything else, so that nothing at all is changed. On a bound socket none of them
touches the binding, and a failure that they answer comes from the transport or the resolver, unless
it is that there is no destination.
-/

namespace Datagram

variable {σ ρ : Type}

namespace SocketStep

/-- How an unbound socket answers the operations that need a bound one. -/
def refusal? : SocketStep → Option Answer
  | beginPacket _ | beginReply => some (.unit (.error .notBound))
  | beginPacketToHost .. => some (.asked (.error .notBound) [])
  | write _ | endPacket | parsePacket => some (.count (.error .notBound))
  | _ => none

/-- What the resolver says about the host that an operation names. -/
def resolved? : SocketStep → Option (Result Ipv4)
  | beginPacketToHost host _ lookup => some (lookup.askWith host []).answer
  | _ => none

theorem ends_of_refusal {st : SocketStep} {answer : Answer} (h : st.refusal? = some answer)
    (i : Nat) : (Step.socket i st).ends i = false := by
  cases st with
  | begin _ | stop => cases h
  | _ => rfl

end SocketStep

def Answer.failure? : Answer → Option Failure
  | unit (.error e) | asked (.error e) _ | count (.error e) => some e
  | _ => none

def Call.failure? : Call → Option Failure
  | create (.error e) | bind _ _ (.error e) | send _ _ _ (.error e) => some e
  | receive _ _ ⟨_, .error e⟩ | poll _ _ (.error e) | close _ (.error e) => some e
  | _ => none

namespace Socket

variable {T : Transport σ} {s s' : Socket} {w : World σ} {b : Binding} {e : Failure}

theorem perform_refused (hb : s.binding = none) {st : SocketStep} {answer : Answer}
    (hst : st.refusal? = some answer) : s.perform T w st = (answer, s, w) := by
  cases st with
  | beginPacket d =>
    cases hst
    simp only [perform, beginPacket_of_unbound hb]
  | beginReply =>
    cases hst
    simp only [perform, beginReply, beginPacket_of_unbound hb]
  | beginPacketToHost host port lookup =>
    cases hst
    simp only [perform, beginPacketToHost_of_unbound w lookup.askWith host port [] hb]
  | write bytes =>
    cases hst
    simp only [perform, write_of_unbound w hb]
  | endPacket =>
    cases hst
    simp only [perform, endPacket, handle_of_unbound hb]
  | parsePacket =>
    cases hst
    simp only [perform, parsePacket, handle_of_unbound hb]
  | _ => cases hst

theorem Sending.failure {cs : List Call} (h : Sending s (.error e) s' cs)
    (hb : s.binding = some b) : (∃ c ∈ cs, c.failure? = some e) ∨ e = .noDestination := by
  cases h with
  | notBound hnone => exact absurd hnone (not_unbound hb)
  | noDestination => exact .inr rfl
  | failed => exact .inl ⟨_, List.mem_cons_self .., rfl⟩

theorem Parsing.failure {cs : List Call} (h : Parsing s (.error e) s' cs)
    (hb : s.binding = some b) : ∃ c ∈ cs, c.failure? = some e := by
  cases h with
  | notBound hnone => exact absurd hnone (not_unbound hb)
  | pollFailed => exact ⟨_, List.mem_cons_self .., rfl⟩
  | receiveFailed => exact ⟨_, List.mem_cons_of_mem _ (List.mem_cons_self ..), rfl⟩

/-- On a bound socket beginning a packet to a host fails as the resolver does. -/
theorem beginPacketToHost_failure (hb : s.binding = some b)
    {resolve : String → ρ → Reply ρ (Result Ipv4)} {host : String} {port : UInt16} {r : ρ}
    (h : (s.beginPacketToHost resolve host port w r).1 = .error e) :
    (resolve host r).answer = .error e := by
  rcases beginPacketToHost_of_bound w resolve host port r hb with
    ⟨e', hresolved, hanswer, -⟩ | ⟨ip, -, hanswer, -⟩
  · rw [hanswer] at h
    rw [hresolved, Except.error.inj h]
  · rw [hanswer] at h
    cases h

theorem beginPacketToHost_binding (hb : s.binding = some b)
    (resolve : String → ρ → Reply ρ (Result Ipv4)) (host : String) (port : UInt16) (r : ρ) :
    (s.beginPacketToHost resolve host port w r).2.1.binding = some b := by
  rcases beginPacketToHost_of_bound w resolve host port r hb with ⟨e, -, -, hs⟩ | ⟨ip, -, -, hs⟩
  · rw [hs, hb]
  · rw [hs, ← hb]

/-- Where the failures of a bound socket come from. -/
theorem perform_failure (hb : s.binding = some b) {st : SocketStep} {answer : Answer}
    (hst : st.refusal? = some answer) (he : (s.perform T w st).1.failure? = some e) :
    ∃ cs, (s.perform T w st).2.2.calls = w.calls ++ cs ∧
      ((∃ c ∈ cs, c.failure? = some e) ∨ st.resolved? = some (.error e) ∨
        e = .noDestination) := by
  cases st with
  | beginPacket d =>
    simp only [perform, beginPacket_of_bound hb, Answer.failure?] at he
    cases he
  | beginReply =>
    simp only [perform, beginReply, beginPacket_of_bound hb, Answer.failure?] at he
    cases he
  | beginPacketToHost host port lookup =>
    have hcalls := (beginPacketToHost_world s w lookup.askWith host port []).1
    refine ⟨[], hcalls.trans (List.append_nil _).symm, .inr (.inl ?_)⟩
    change (Answer.asked (s.beginPacketToHost lookup.askWith host port w []).1 _).failure? = _ at he
    cases hfailed : (s.beginPacketToHost lookup.askWith host port w []).1 with
    | ok _ =>
      rw [hfailed] at he
      cases he
    | error e' =>
      rw [hfailed] at he
      cases he
      exact congrArg some (beginPacketToHost_failure hb hfailed)
  | write bytes =>
    change (Answer.count (s.write bytes w).1).failure? = some e at he
    rw [(write_of_bound w hb bytes).1] at he
    cases he
  | endPacket =>
    obtain ⟨cs, hsending, hcalls, -⟩ := endPacket_sending T s w
    change (Answer.count (s.endPacket T w).1).failure? = some e at he
    refine ⟨cs, hcalls, ?_⟩
    generalize (s.endPacket T w).1 = sent at hsending he
    cases sent with
    | ok _ => cases he
    | error e' =>
      cases he
      rcases hsending.failure hb with hcall | hnone
      · exact .inl hcall
      · exact .inr (.inr hnone)
  | parsePacket =>
    obtain ⟨cs, hparsing, hcalls, -⟩ := parsePacket_parsing T s w
    change (Answer.count (s.parsePacket T w).1).failure? = some e at he
    refine ⟨cs, hcalls, .inl ?_⟩
    generalize (s.parsePacket T w).1 = parsed at hparsing he
    cases parsed with
    | ok _ => cases he
    | error e' =>
      cases he
      exact hparsing.failure hb
  | _ => cases hst

end Socket

namespace Session

variable {T : Transport σ} {ss : Session σ} {i : Nat} {s : Socket} {st : SocketStep}
  {answer : Answer}

theorem step_refused (hs : ss.socket? i = some s) (hb : s.binding = none)
    (hst : st.refusal? = some answer) : ss.step T (.socket i st) = (answer, ss) := by
  have hkept : ss.sockets.set i (some s) = ss.sockets := by
    obtain ⟨hlt, hentry⟩ := List.getElem?_eq_some_iff.1 (Option.join_eq_some_iff.1 hs)
    rw [← hentry, List.set_getElem_self]
  simp only [step, hs, Socket.perform_refused hb hst, hkept]

theorem step_failure {b : Binding} {e : Failure} (hs : ss.socket? i = some s)
    (hb : s.binding = some b) (hst : st.refusal? = some answer)
    (he : (ss.step T (.socket i st)).1.failure? = some e) :
    ∃ cs, (ss.step T (.socket i st)).2.world.calls = ss.world.calls ++ cs ∧
      ((∃ c ∈ cs, c.failure? = some e) ∨ st.resolved? = some (.error e) ∨
        e = .noDestination) := by
  rw [step_answer hs] at he
  rw [step_socket hs]
  exact Socket.perform_failure hb hst he

/-- In every run a socket is bound exactly when the latest of its begins and stops is a begin that
succeeded. While it is unbound, the operations that need a bound socket answer so and leave the
session as it is, in which all calls so far are noted, and no resolver of any kind is asked. While
it is bound, they keep its binding whatever they answer, and answer that it is not bound only if a
call that they made or the resolver did. -/
theorem binding_gates_io (T : Transport σ) (transport : σ) (tables : List SlotTable)
    (specs : List SocketSpec) (steps : List Step) (i : Nat) (s : Socket)
    (hs : ((ofTables transport tables specs).run T steps).2.socket? i = some s) :
    let start := ofTables transport tables specs
    let ss := (start.run T steps).2
    (s.isBound = true ↔ ∃ o port, latest? Turn.lifecycle? (start.turns T i steps) = some o ∧
      o.step = .begin port ∧ o.answer = .unit (.ok ())) ∧
    (s.binding = none →
      (∀ st answer, st.refusal? = some answer → ss.step T (.socket i st) = (answer, ss)) ∧
      ∀ (ρ : Type) (resolve : String → ρ → Reply ρ (Result Ipv4)) (host : String)
        (port : UInt16) (r : ρ), s.beginPacketToHost resolve host port ss.world r =
          (.error .notBound, s, ss.world, r)) ∧
    ∀ b, s.binding = some b →
      (∀ st answer, st.refusal? = some answer →
        (∃ s', (ss.step T (.socket i st)).2.socket? i = some s' ∧ s'.binding = some b) ∧
          ((ss.step T (.socket i st)).1.failure? = some .notBound →
            ∃ cs, (ss.step T (.socket i st)).2.world.calls = ss.world.calls ++ cs ∧
              ((∃ c ∈ cs, c.failure? = some .notBound) ∨
                st.resolved? = some (.error .notBound)))) ∧
      ∀ (ρ : Type) (resolve : String → ρ → Reply ρ (Result Ipv4)) (host : String)
        (port : UInt16) (r : ρ),
        (s.beginPacketToHost resolve host port ss.world r).2.1.binding = some b ∧
          ((s.beginPacketToHost resolve host port ss.world r).1 = .error .notBound →
            (resolve host r).answer = .error .notBound) := by
  intro start ss
  have hlife := (tracks_turns T i transport tables specs steps).alive s hs
  refine ⟨hlife.isBound_iff, ?_, ?_⟩
  · intro hb
    refine ⟨fun st answer hst => step_refused hs hb hst, ?_⟩
    intro ρ resolve host port r
    exact Socket.beginPacketToHost_of_unbound ss.world resolve host port r hb
  · intro b hb
    refine ⟨?_, ?_⟩
    · intro st answer hst
      refine ⟨step_keeps_binding hs hb (SocketStep.ends_of_refusal hst i), ?_⟩
      intro hnotBound
      obtain ⟨cs, hcalls, hcause⟩ := step_failure hs hb hst hnotBound
      refine ⟨cs, hcalls, ?_⟩
      rcases hcause with hcall | hresolver | hnone
      · exact .inl hcall
      · exact .inr hresolver
      · cases hnone
    · intro ρ resolve host port r
      exact ⟨Socket.beginPacketToHost_binding hb resolve host port r,
        Socket.beginPacketToHost_failure hb⟩

/-- A transport that calls a bound socket unbound when it sends, and then cannot bind it anew. -/
theorem binding_gates_io_failed_rebind :
    let script : Script :=
      { send := [.fails .notBound], bind := [.normal, .fails (.bind 8 "in use")] }
    let start := ofTables script [.ofCapacity 1]
      [{ table := 0, txCapacity := some 2, rxCapacity := some 2 }]
    let sending := (start.run Script.transport
      [.socket 0 (.begin 7), .socket 0 (.beginPacket ⟨.localhost, 9⟩)]).2
    let failed := (start.run Script.transport [.socket 0 (.begin 7), .socket 0 (.begin 8)]).2
    (∃ cs, (sending.step Script.transport (.socket 0 .endPacket)).2.world.calls =
        sending.world.calls ++ cs ∧ ∃ c ∈ cs, c.failure? = some .notBound) ∧
      failed.step Script.transport (.socket 0 (.beginPacketToHost "nowhere" 9 (.ofTable []))) =
        (.asked (.error .notBound) [], failed) := by
  intro script start sending failed
  have hsending : (sending.socket? 0).map (·.isBound) = some true := by decide
  have hfailed : (failed.socket? 0).map (·.isBound) = some false := by decide
  have hanswer : (sending.step Script.transport (.socket 0 .endPacket)).1.failure? =
      some .notBound := by decide
  obtain ⟨s, hs, hbound⟩ := Option.map_eq_some_iff.1 hsending
  obtain ⟨s', hs', hunbound⟩ := Option.map_eq_some_iff.1 hfailed
  obtain ⟨b, hb⟩ := Option.isSome_iff_exists.1 hbound
  have hb' : s'.binding = none := Option.not_isSome_iff_eq_none.1 (Bool.eq_false_iff.1 hunbound)
  simp only [sending, failed, start, script] at hs hs' hanswer ⊢
  refine ⟨?_, ?_⟩
  · have h := binding_gates_io Script.transport _ _ _ _ 0 s hs
    obtain ⟨cs, hcalls, hcause⟩ := ((h.2.2 b hb).1 .endPacket _ rfl).2 hanswer
    rcases hcause with hcall | hresolver
    · exact ⟨cs, hcalls, hcall⟩
    · cases hresolver
  · have h := binding_gates_io Script.transport _ _ _ _ 0 s' hs'
    exact (h.2.1 hb').1 _ _ rfl

end Session
end Datagram
