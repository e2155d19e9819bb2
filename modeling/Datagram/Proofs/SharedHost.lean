import Datagram.Proofs.HostInStep
import Datagram.Proofs.LawfulNetwork

/-!
# Sockets over one host transport

Any number of sockets over one host transport, with calls made past them on handles of their own:
every bound socket has a handle and a port that no other has, bound by the operating system as the
socket reports it. On a bound socket sending and receiving never find the handle missing or not
bound, and no close that a socket makes fails.
-/

namespace Datagram

variable {ω : Type} {O : Os ω}

namespace Host

variable {L : O.Lawful} {s s' : Host ω} {h : Handle} {port : UInt16} {es : List Event}

/-- A handle that is bound gives its socket, if sockets can always be duplicated. -/
theorem boundSocket_of_holds (hdup : L.Duplicates) (hs : Sound L s) (hh : Holds L s h port) :
    ∃ d os, boundSocket O h s = (.ok d, { s with os }) := by
  obtain ⟨d, hentry, hbound⟩ := hh
  have hanswer := hdup s.os d _ hs.valid hbound
  refine ⟨d, (O.duplicate d s.os).2, ?_⟩
  simp only [boundSocket, hentry, hanswer]

theorem send_failure (hdup : L.Duplicates) (hs : Sound L s) (hh : Holds L s h port) {data : Bytes}
    {target : Endpoint} {answer : Result Nat}
    (htakes : (transport O).Takes s (.send h data target answer) es s') {e : Failure}
    (he : answer = .error e) : ∃ reason, e = .send reason := by
  obtain ⟨d, os, hd⟩ := boundSocket_of_holds hdup hs hh
  cases htakes
  change (send O h data target s).answer = .error e at he
  simp only [send, hd] at he
  cases hsent : (O.send d data target os).1 with
  | ok n => rw [hsent] at he; cases he
  | error f =>
    rw [hsent] at he
    cases he
    exact ⟨_, rfl⟩

theorem poll_failure (hdup : L.Duplicates) (hs : Sound L s) (hh : Holds L s h port)
    {timeout : Duration} {answer : Result Readiness}
    (htakes : (transport O).Takes s (.poll h timeout answer) es s') {e : Failure}
    (he : answer = .error e) : ∃ reason, e = .poll reason := by
  obtain ⟨d, os, hd⟩ := boundSocket_of_holds hdup hs hh
  cases htakes
  change (poll O h timeout s).answer = .error e at he
  simp only [poll, hd] at he
  cases htimed : (O.setReadTimeout d (shortestPoll.atLeast timeout) os).1 with
  | error f =>
    rw [htimed] at he
    cases he
    exact ⟨_, rfl⟩
  | ok _ =>
    rw [htimed] at he
    simp only [peek] at he
    split at he
    · cases he
    · split at he <;> cases he

theorem receive_failure (hdup : L.Duplicates) (hs : Sound L s) (hh : Holds L s h port)
    {capacity : Nat} {answer : Delivery}
    (htakes : (transport O).Takes s (.receive h capacity answer) es s') {e : Failure}
    (he : answer.outcome = .error e) : ∃ reason, e = .receive reason := by
  obtain ⟨d, os, hd⟩ := boundSocket_of_holds hdup hs hh
  cases htakes
  change (receive O h capacity s).answer.outcome = .error e at he
  simp only [receive, hd, delivery] at he
  split at he
  · cases he
    exact ⟨_, rfl⟩
  · cases he
  · cases he
    exact ⟨_, rfl⟩

end Host

/-- The handle is not there, or is not bound. -/
inductive Failure.OutOfStep : Failure → Prop
  | notBound : OutOfStep .notBound
  | invalidHandle (h : Handle) : OutOfStep (.invalidHandle h)

/-- Writing, sending and looking for a packet. -/
def SocketStep.exchanges : SocketStep → Bool
  | write _ | endPacket | parsePacket => true
  | _ => false

namespace Socket

open Host

variable {L : O.Lawful} {s : Socket} {w : World (Host ω)} {b : Binding}

theorem endPacket_in_step (hdup : L.Duplicates) (hs : Sound L w.transport)
    (hb : s.binding = some b) (hh : Holds L w.transport b.handle b.port) {e : Failure}
    (he : (s.endPacket (transport O) w).1 = .error e) : ¬ e.OutOfStep := by
  obtain ⟨cs, hsending, hcalls, -⟩ := endPacket_sending (transport O) s w
  obtain ⟨made, hmade⟩ := endPacket_evolves (transport O) s w
  have hreplays := (hmade.calls_unique hcalls).replays
  rw [he] at hsending
  generalize (s.endPacket (transport O) w).2.1 = s' at hsending
  cases hsending with
  | notBound hnone => exact absurd hnone (not_unbound hb)
  | noDestination => exact nofun
  | @failed b' target _ hb' =>
    obtain rfl : b = b' := Option.some.inj (hb.symm.trans hb')
    cases hreplays with
    | cons htakes _ =>
      obtain ⟨reason, rfl⟩ := send_failure hdup hs hh htakes rfl
      exact nofun

theorem parsePacket_in_step (hdup : L.Duplicates) (hs : Sound L w.transport)
    (hb : s.binding = some b) (hh : Holds L w.transport b.handle b.port) {e : Failure}
    (he : (s.parsePacket (transport O) w).1 = .error e) : ¬ e.OutOfStep := by
  obtain ⟨cs, hparsing, hcalls, -⟩ := parsePacket_parsing (transport O) s w
  obtain ⟨made, hmade⟩ := parsePacket_evolves (transport O) s w
  have hreplays := (hmade.calls_unique hcalls).replays
  rw [he] at hparsing
  generalize (s.parsePacket (transport O) w).2.1 = s' at hparsing
  cases hparsing with
  | notBound hnone => exact absurd hnone (not_unbound hb)
  | @pollFailed b' _ hb' =>
    obtain rfl : b = b' := Option.some.inj (hb.symm.trans hb')
    cases hreplays with
    | cons htakes _ =>
      obtain ⟨reason, rfl⟩ := poll_failure hdup hs hh htakes rfl
      exact nofun
  | @receiveFailed b' r written _ hb' hr =>
    obtain rfl : b = b' := Option.some.inj (hb.symm.trans hb')
    cases hreplays with
    | cons hpoll hreplays =>
    cases hreplays with
    | cons htakes _ =>
      -- polling keeps the handle bound, so that the receive finds it
      have hpolled := shift_of_takes L hs.valid hpoll
      obtain ⟨reason, rfl⟩ :=
        receive_failure hdup (hs.shift hpolled) (hh.keep hs hpolled rfl) htakes rfl
      exact nofun

/-- On a bound socket, writing, sending and looking for a packet never find it out of step. -/
theorem exchange_in_step (hdup : L.Duplicates) (hs : Sound L w.transport)
    (hb : s.binding = some b) (hh : Holds L w.transport b.handle b.port) {st : SocketStep}
    (hst : st.exchanges = true) :
    ∃ r, (s.perform (transport O) w st).1 = .count r ∧ ∀ e, r = .error e → ¬ e.OutOfStep := by
  cases st with
  | write bytes =>
    refine ⟨(s.write bytes w).1, rfl, ?_⟩
    intro e he
    rw [(write_of_bound w hb bytes).1] at he
    cases he
  | endPacket => exact ⟨_, rfl, fun e he => endPacket_in_step hdup hs hb hh he⟩
  | parsePacket => exact ⟨_, rfl, fun e he => parsePacket_in_step hdup hs hb hh he⟩
  | _ => cases hst

end Socket

namespace Session

open Host

/-- Over one host transport on an operating system that keeps its promises, with calls past the
sockets made only on handles created past them, the two tables agree after every run: a bound socket
has an open handle with a socket of the operating system bound to the port that it reports, which is
not zero; no two sockets share a handle or a port; the open handles are those of the bound sockets
and those opened past them. So exchanging packets on a bound socket never fails for want of a bound
handle, no close that a socket makes fails, and nothing is ever warned of. -/
theorem sockets_in_step (L : O.Lawful) (hdup : L.Duplicates) (address : Ipv4) (os : ω)
    (hvalid : L.Valid os) (tables : List SlotTable) (specs : List SocketSpec) (steps : List Step)
    (hapart : (ofTables { bindAddress := address, os } tables specs).KeepsApart (transport O)
      steps) :
    let start : Session (Host ω) := ofTables { bindAddress := address, os } tables specs
    let ss := (start.run (transport O) steps).2
    (∀ i s b, ss.socket? i = some s → s.binding = some b → b.port ≠ 0 ∧
        ∃ d, ss.world.transport.entry? b.handle = some (some d) ∧
          L.bound ss.world.transport.os d = some ⟨address, b.port⟩) ∧
      (∀ i j s s' b b', i ≠ j → ss.socket? i = some s → s.binding = some b →
        ss.socket? j = some s' → s'.binding = some b' →
          b.handle ≠ b'.handle ∧ b.port ≠ b'.port) ∧
      ss.world.transport.openSockets =
        ss.held.length + (start.rawHandles (transport O) steps).length ∧
      (∀ i s b st, ss.socket? i = some s → s.binding = some b → st.exchanges = true →
        ∃ r, (ss.step (transport O) (.socket i st)).1 = .count r ∧
          ∀ e, r = .error e → ¬ e.OutOfStep) ∧
      (∀ h answer, Call.close h answer ∈ start.socketCalls (transport O) steps →
        answer = .ok ()) ∧
      ss.world.warnings = [] := by
  intro start ss
  have hstart : InStep L address [] start := .ofTables hvalid tables specs
  obtain ⟨hstep, hcloses⟩ := hstart.run hapart
  refine ⟨?_, ?_, ?_, ?_, ?_, hstep.warnings⟩
  · intro i s b hs hb
    have hport := hstep.sound.port_ne_zero (hstep.holds i s b hs hb)
    obtain ⟨d, hentry, hbound⟩ := hstep.holds i s b hs hb
    rw [hstep.address] at hbound
    exact ⟨hport, d, hentry, hbound⟩
  · intro i j s s' b b' hij hs hb hs' hb'
    have hne : b.handle ≠ b'.handle := by
      apply gather_ne hstep.held_nodup hs hs' hij
      · rw [Socket.handle?, hb]; rfl
      · rw [Socket.handle?, hb']; rfl
    refine ⟨hne, ?_⟩
    intro hport
    have hfirst := hstep.holds i s b hs hb
    have hsecond := hstep.holds j s' b' hs' hb'
    rw [← hport] at hsecond
    exact hne (hstep.sound.port_injective hfirst hsecond)
  · have hlength := hstep.handles.length_eq
    rw [List.length_append, Host.handles, List.length_map] at hlength
    exact hlength
  · intro i s b st hs hb hst
    obtain ⟨r, hanswer, hr⟩ :=
      Socket.exchange_in_step hdup hstep.sound hb (hstep.holds i s b hs hb) hst
    refine ⟨r, ?_, hr⟩
    simp only [step, hs]
    exact hanswer
  · intro h answer hmem
    have hok := List.filterMap_eq_nil_iff.1 hcloses _ hmem
    cases answer with
    | ok _ => rfl
    | error e => cases hok

/-- Two sockets and two handles past them on the machine's network. The second socket asks for the
port of the first and does not get it, then both sockets move on, and one of the handles is closed
again. -/
def conflictSteps : List Step :=
  [.socket 0 (.begin 7000), .socket 1 (.begin 7000), .raw .create, .raw (.bind ⟨3⟩ 0),
    .socket 1 (.begin 0), .socket 0 (.begin 8000), .raw .create, .raw (.close ⟨6⟩)]

def conflictStart : Session (Host Network) :=
  ofTables { bindAddress := .localhost, os := .loopback } [.ofCapacity 2]
    [{ table := 0, txCapacity := some 2, rxCapacity := some 2 },
      { table := 0, txCapacity := some 2, rxCapacity := some 2 }]

theorem sockets_in_step_conflict :
    conflictStart.KeepsApart (transport Network.os) conflictSteps ∧
      (conflictStart.run (transport Network.os) conflictSteps).2.held = [⟨5⟩, ⟨4⟩] ∧
      conflictStart.rawHandles (transport Network.os) conflictSteps = [⟨3⟩] ∧
      (conflictStart.run (transport Network.os) conflictSteps).2.world.transport.openSockets =
        3 := by
  have hapart : conflictStart.KeepsApart (transport Network.os) conflictSteps := by
    intro before call after h hsplit hcall
    have hget : conflictSteps[before.length]? = some (.raw call) := by
      rw [hsplit, List.getElem?_append_right (Nat.le_refl _), Nat.sub_self]
      rfl
    have htake : before = conflictSteps.take before.length := by
      rw [hsplit, List.take_left]
    have hlt : before.length < 8 := (List.getElem?_eq_some_iff.1 hget).1
    rw [htake]
    generalize before.length = k at hget hlt
    match k, hlt, hget with
    | 0, _, hget | 1, _, hget | 4, _, hget | 5, _, hget => cases hget
    | 2, _, hget | 6, _, hget =>
      cases hget
      cases hcall
    | 3, _, hget | 7, _, hget =>
      cases hget
      cases hcall
      decide
  have hheld : (conflictStart.run (transport Network.os) conflictSteps).2.held = [⟨5⟩, ⟨4⟩] := by
    decide
  have hraw : conflictStart.rawHandles (transport Network.os) conflictSteps = [⟨3⟩] := by decide
  refine ⟨hapart, hheld, hraw, ?_⟩
  unfold conflictStart at *
  have hopen := (sockets_in_step (Network.lawful true) (Network.lawful_duplicates true) .localhost
    .loopback (Network.proper_empty true) [.ofCapacity 2]
    [{ table := 0, txCapacity := some 2, rxCapacity := some 2 },
      { table := 0, txCapacity := some 2, rxCapacity := some 2 }] conflictSteps hapart).2.2.1
  rw [hheld, hraw] at hopen
  exact hopen

end Session
end Datagram
