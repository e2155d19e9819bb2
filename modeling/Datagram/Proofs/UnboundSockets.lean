import Datagram.Proofs.BlankSockets
import Datagram.Proofs.Locality
import Datagram.Proofs.SentDatagrams
import Datagram.Script

/-!
# Unbound sockets are fresh

A socket that is unbound cannot be told from one just constructed, except by the sender that it
remembers: it is the same in every byte of its storage, and what it does from then on depends on
nothing but that, the slots of its table and the state of the transport.
-/

namespace Datagram

variable {σ : Type}

namespace Socket

variable {T : Transport σ} {j : Nat} {s s' : Socket} {w w' : World σ}

def answers (T : Transport σ) (s : Socket) (w : World σ) : List SocketStep → List Answer
  | [] => []
  | st :: rest =>
    (s.perform T w st).1 :: answers T (s.perform T w st).2.1 (s.perform T w st).2.2 rest

theorem Alike.answers (h : Alike j s s' w w') (ops : List SocketStep) :
    s'.answers T w' ops = (s.answers T w ops).map (·.on j) ∧
      Alike j (s.performAll T w ops).1 (s'.performAll T w' ops).1 (s.performAll T w ops).2
        (s'.performAll T w' ops).2 := by
  -- the sockets and worlds change with each operation, so the induction is over all that are alike
  induction ops generalizing s s' w w' with
  | nil => exact ⟨rfl, h⟩
  | cons st ops ih =>
    obtain rfl := h.socket
    obtain ⟨hanswer, hnext⟩ := perform_alike T h st
    obtain ⟨hanswers, hlast⟩ := ih hnext
    refine ⟨?_, hlast⟩
    rw [Socket.answers, Socket.answers, List.map_cons, hanswer, hanswers]

theorem Blank.eq_on (h : s.Blank) (h' : s'.Blank) (hconfig : s'.config = s.config)
    (hremote : s'.remote = s.remote) : s' = s.on s'.table := by
  have hon : s.on s'.table = { s with table := s'.table } := by rw [on, h.binding]; rfl
  -- both are what their constructor made, of the same configuration
  rw [hon]
  calc
    s' = { ofConfig s'.table s'.config with remote := s'.remote } := h'.eq_ofConfig
    _ = { ofConfig s'.table s.config with remote := s.remote } := by rw [hconfig, hremote]
    _ = { { ofConfig s.table s.config with remote := s.remote } with table := s'.table } := rfl
    _ = { s with table := s'.table } := by rw [← h.eq_ofConfig]

end Socket

namespace Session

/-- In every run a socket that is unbound is as constructed but for the sender that it remembers,
and stopping it does nothing at all. From slots and a transport in the same state it answers every
further sequence of operations like any other unbound socket of its configuration that remembers the
same sender, and leaves slots and transport in the same state as that one; so it makes the same
calls, since any transport may note the calls in its state. -/
theorem unbound_is_fresh (T : Transport σ) (transport : σ) (tables : List SlotTable)
    (specs : List SocketSpec) (steps : List Step) (i : Nat) (s : Socket)
    (hs : ((ofTables transport tables specs).run T steps).2.socket? i = some s)
    (hb : s.binding = none) :
    s = { Socket.ofConfig s.table s.config with remote := s.remote } ∧
      (∀ w : World σ, s.stop T w = (s, w)) ∧
      ∀ (transport' : σ) (tables' : List SlotTable) (specs' : List SocketSpec)
        (steps' : List Step) (i' : Nat) (s' : Socket),
        ((ofTables transport' tables' specs').run T steps').2.socket? i' = some s' →
        s'.binding = none → s'.config = s.config → s'.remote = s.remote →
        ∀ w w' : World σ, w.table s.table = w'.table s'.table → w.transport = w'.transport →
        ∀ ops : List SocketStep,
          s'.answers T w' ops = (s.answers T w ops).map (·.on s'.table) ∧
            (s'.performAll T w' ops).1 = (s.performAll T w ops).1.on s'.table ∧
            (s.performAll T w ops).2.table (s.performAll T w ops).1.table =
              (s'.performAll T w' ops).2.table s'.table ∧
            (s.performAll T w ops).2.transport = (s'.performAll T w' ops).2.transport := by
  have hlife := (tracks_turns T i transport tables specs steps).alive s hs
  have hblank : s.Blank := hlife.blank hb
  refine ⟨hblank.eq_ofConfig, ?_, ?_⟩
  · intro w
    rw [Socket.stop_of_unbound T hb, hblank.released]
  · intro transport' tables' specs' steps' i' s' hs' hb' hconfig hremote w w' hslots htransport ops
    have hlife' := (tracks_turns T i' transport' tables' specs' steps').alive s' hs'
    have hsame : s' = s.on s'.table := hblank.eq_on (hlife'.blank hb') hconfig hremote
    have hunbound (b : Binding) (hbound : s.binding = some b) : b.lease.table = s.table :=
      absurd hb (Socket.not_unbound hbound)
    have halike : Socket.Alike s'.table s s' w w' := ⟨hsame, hunbound, hslots, htransport⟩
    obtain ⟨hanswers, hend⟩ := halike.answers (T := T) ops
    exact ⟨hanswers, hend.socket, hend.agree.slots, hend.agree.transport⟩

/-- A socket that has received a datagram longer than its buffer, has written, and could not be
bound anew, and one over another table that has only received the datagram and was stopped. -/
theorem unbound_is_fresh_failed_rebind :
    let inbound := [Inbound.datagram [1, 2, 3] ⟨.localhost, 9⟩ none]
    let failed := ((ofTables ({ inbound, bind := [.normal, .fails (.bind 8 "in use")] } : Script)
      [.ofCapacity 1] [{ table := 0, txCapacity := some 2, rxCapacity := some 2 }]).run
        Script.transport [.socket 0 (.begin 7), .socket 0 .parsePacket,
          .socket 0 (.beginPacket ⟨.localhost, 9⟩), .socket 0 (.write [4]),
          .socket 0 (.begin 8)]).2
    let stopped := ((ofTables ({ inbound } : Script) [.ofCapacity 0, .ofCapacity 1]
      [{ table := 1, txCapacity := some 2, rxCapacity := some 2 }]).run Script.transport
        [.socket 0 (.begin 7), .socket 0 .parsePacket, .socket 0 .stop]).2
    ∃ s s', failed.socket? 0 = some s ∧ stopped.socket? 0 = some s' ∧
      s = { Socket.ofConfig s.table s.config with remote := some ⟨.localhost, 9⟩ } ∧
      s'.answers Script.transport { tables := [.ofCapacity 0, .ofCapacity 1], transport := {} }
          [.beginReply, .begin 5, .beginReply, .endPacket, .describe] =
        (s.answers Script.transport { tables := [.ofCapacity 1], transport := {} }
          [.beginReply, .begin 5, .beginReply, .endPacket, .describe]).map (·.on 1) := by
  intro inbound failed stopped
  have hunbound : (failed.socket? 0).map (fun s => (s.binding, s.remote, s.table)) =
      some (none, some ⟨.localhost, 9⟩, 0) := by decide
  have hunbound' : (stopped.socket? 0).map (fun s => (s.binding, s.remote, s.table)) =
      some (none, some ⟨.localhost, 9⟩, 1) := by decide
  have hconfigs : (stopped.socket? 0).map (·.config) = (failed.socket? 0).map (·.config) := by
    decide
  obtain ⟨s, hs, hsocket⟩ := Option.map_eq_some_iff.1 hunbound
  obtain ⟨s', hs', hsocket'⟩ := Option.map_eq_some_iff.1 hunbound'
  simp only [Prod.mk.injEq] at hsocket hsocket'
  obtain ⟨hb, hremote, htable⟩ := hsocket
  obtain ⟨hb', hremote', htable'⟩ := hsocket'
  have hsame : s'.remote = s.remote := hremote'.trans hremote.symm
  have hconfig : s'.config = s.config := by
    rw [hs, hs'] at hconfigs
    exact Option.some.inj hconfigs
  obtain ⟨hfresh, -, halike⟩ := unbound_is_fresh Script.transport _ _ _ _ 0 s hs hb
  have hanswers := (halike _ _ _ _ 0 s' hs' hb' hconfig hsame
    { tables := [.ofCapacity 1], transport := {} }
    { tables := [.ofCapacity 0, .ofCapacity 1], transport := {} }
    (by rw [htable, htable']; rfl) rfl
    [.beginReply, .begin 5, .beginReply, .endPacket, .describe]).1
  rw [hremote] at hfresh
  rw [htable'] at hanswers
  exact ⟨s, s', hs, hs', hfresh, hanswers⟩

end Session
end Datagram
