import Datagram.Proofs.Outgoing
import Datagram.Script

/-!
# Sent datagrams

A datagram that a socket sends is the outgoing packet as the turns have made it, to its destination.
How the bytes were split into writes does not matter. A send that fails, and a host that cannot be
resolved, change nothing, so that a send that succeeds after any number of failed ones sends what
the first of them would have sent.
-/

namespace Datagram

variable {σ : Type}

namespace Socket

variable (T : Transport σ)

def performAll (s : Socket) (w : World σ) : List SocketStep → Socket × World σ
  | [] => (s, w)
  | st :: rest => performAll (s.perform T w st).2.1 (s.perform T w st).2.2 rest

variable {T} {s : Socket}

theorem write_write (h : s.tx.len ≤ s.tx.capacity) (w w' : World σ) (x y : Bytes) :
    ((s.write x w).2.1.write y w').2.1 = (s.write (x ++ y) w).2.1 := by
  rcases s.binding.eq_none_or_eq_some with hb | ⟨b, hb⟩
  · rw [write_of_unbound w hb, write_of_unbound w' hb, write_of_unbound w hb]
  · have hb' : (s.write x w).2.1.binding = some b := by
      rw [(write_of_bound w hb x).2]
      exact hb
    rw [(write_of_bound w' hb' y).2, (write_of_bound w hb (x ++ y)).2, (write_of_bound w hb x).2,
      TransmitBuffer.append_append h]

theorem write_nil (s : Socket) (w : World σ) : (s.write [] w).2.1 = s := by
  rcases s.binding.eq_none_or_eq_some with hb | ⟨b, hb⟩
  · rw [write_of_unbound w hb]
  · rw [(write_of_bound w hb []).2, TransmitBuffer.append_nil]

theorem performAll_writes (h : s.tx.len ≤ s.tx.capacity) (w : World σ) (chunks : List Bytes) :
    (s.performAll T w (chunks.map .write)).1 = (s.write chunks.flatten w).2.1 := by
  induction chunks generalizing s w with
  | nil => exact (write_nil s w).symm
  | cons bytes chunks ih =>
    have hfits : (s.write bytes w).2.1.tx.len ≤ (s.write bytes w).2.1.tx.capacity := by
      rcases s.binding.eq_none_or_eq_some with hb | ⟨b, hb⟩
      · rw [write_of_unbound w hb]
        exact h
      · rw [(write_of_bound w hb bytes).2, TransmitBuffer.capacity_append]
        exact TransmitBuffer.len_append_le h bytes
    rw [List.flatten_cons, ← write_write h w (s.write bytes w).2.2]
    exact ih hfits (s.write bytes w).2.2

end Socket

namespace Turn

/-- Sending the packet, or resolving the host it should go to, has failed. -/
def fails (o : Turn) : Bool :=
  match o.step, o.answer with
  | .endPacket, .count (.error _) | .beginPacketToHost .., .asked (.error _) _ => true
  | _, _ => false

/-- What a turn sends, what is pending before it and what it answers, as the turns before it have
determined. -/
structure Follows (past : List Turn) (o : Turn) : Prop where
  sent : ∀ h data target answer, Call.send h data target answer ∈ o.calls →
    data = (written past).take o.before.config.txCapacity.toNat ∧
      destinationOf past = some target
  pending : o.before.isBound = true →
    o.before.pendingLen = ((written past).take o.before.config.txCapacity.toNat).length
  growth : ∀ bytes, o.step = .write bytes → o.before.isBound = true →
    o.before.pendingLen ≤ o.after.pendingLen ∧
      o.answer = .count (.ok (o.after.pendingLen - o.before.pendingLen))
  failed : o.fails = true → o.after = o.before

end Turn

variable {T : Transport σ} {past : List Turn} {s : Socket}

theorem Lives.pending (h : Lives T past s) (hbound : s.isBound = true) :
    s.tx.contents = (written past).take s.config.txCapacity.toNat ∧
      s.pendingLen = ((written past).take s.config.txCapacity.toNat).length ∧
      s.destination = destinationOf past := by
  obtain ⟨b, hb⟩ := Option.isSome_iff_exists.1 hbound
  obtain ⟨hcontents, hdestination⟩ := h.outgoing.bound b hb
  rw [← h.capacities.1, ← hcontents]
  exact ⟨rfl, (TransmitBuffer.length_contents h.outgoing.fits).symm, hdestination⟩

theorem Socket.Sending.eq_of_error {s' : Socket} {e : Failure} {cs : List Call}
    (h : Sending s (.error e) s' cs) : s' = s := by
  cases h <;> rfl

theorem Turn.after_of_fails (w : World σ) {st : SocketStep} (hf : (Turn.of T s w st).fails = true) :
    (Turn.of T s w st).after = s := by
  cases st with
  | endPacket =>
    obtain ⟨answer, hanswer, hsending⟩ := Turn.sending_of T s w
    cases answer with
    | error e => exact hsending.eq_of_error
    | ok count =>
      rw [Turn.fails, hanswer] at hf
      cases hf
  | beginPacketToHost host port lookup =>
    change (s.beginPacketToHost lookup.askWith host port w []).2.1 = s
    rcases s.binding.eq_none_or_eq_some with hb | ⟨b, hb⟩
    · rw [Socket.beginPacketToHost_of_unbound w lookup.askWith host port [] hb]
    · rcases Socket.beginPacketToHost_of_bound w lookup.askWith host port [] hb with
        ⟨e, -, -, hs⟩ | ⟨ip, -, hanswer, -⟩
      · exact hs
      · simp only [Turn.fails, Turn.of, Socket.perform, hanswer] at hf
        cases hf
  | _ => cases hf

theorem Lives.follows (h : Lives T past s) (w : World σ) (st : SocketStep) :
    (Turn.of T s w st).Follows past where
  sent k data target answer hc := by
    obtain ⟨hside, hlocal⟩ := Turn.calls_side T s w st _ hc
    obtain rfl := SocketStep.eq_endPacket hside.symm hlocal
    obtain ⟨result, -, hsending⟩ := Turn.sending_of T s w
    generalize (Turn.of T s w .endPacket).calls = cs, (Turn.of T s w .endPacket).after = s' at *
    cases hsending with
    | notBound | noDestination => cases hc
    | failed hb hd | sent hb hd =>
      obtain ⟨hcontents, -, hdestination⟩ := h.pending (Socket.isBound_of_binding hb)
      obtain ⟨-, rfl, rfl, -⟩ := Call.send.inj (List.mem_singleton.1 hc)
      exact ⟨hcontents, hdestination.symm.trans hd⟩
  pending hbound := (h.pending hbound).2.1
  growth bytes hstep hbound := by
    obtain rfl : st = .write bytes := hstep
    change s.isBound = true at hbound
    change s.pendingLen ≤ _ ∧ _ = Answer.count (.ok (_ - s.pendingLen))
    obtain ⟨b, hb⟩ := Option.isSome_iff_exists.1 hbound
    obtain ⟨hanswer, hafter⟩ := Socket.write_of_bound w hb bytes
    have hlen : (Turn.of T s w (.write bytes)).after.pendingLen =
        s.pendingLen + s.tx.room bytes := by
      change (s.write bytes w).2.1.pendingLen = _
      rw [hafter]
      rfl
    have hcount : (Turn.of T s w (.write bytes)).answer = .count (.ok (s.tx.room bytes)) :=
      congrArg Answer.count hanswer
    rw [hlen, hcount]
    exact ⟨Nat.le_add_right .., by rw [Nat.add_sub_cancel_left]⟩
  failed hf := Turn.after_of_fails w hf

/-- Turns that fail to send or to resolve leave the socket as it was before the first of them. -/
theorem Lives.stutter {trace failures future : List Turn} {o : Turn} (h : Lives T trace s)
    (htrace : trace = past ++ (failures ++ o :: future))
    (hfails : ∀ f ∈ failures, f.fails = true) :
    Lives T past o.before ∧ ∀ f ∈ failures, f.before = o.before := by
  induction failures generalizing past with
  | nil => exact ⟨(h.split htrace).1, List.forall_mem_nil _⟩
  | cons f failures ih =>
    obtain ⟨hpast, w, hf⟩ := h.split htrace
    have hnext : trace = (past ++ [f]) ++ (failures ++ o :: future) := by
      rw [htrace, List.append_assoc]
      rfl
    obtain ⟨hlater, hsame⟩ := ih hnext fun g hg => hfails g (List.mem_cons_of_mem f hg)
    have hkept : f.after = f.before := by
      have hfailed := hfails f (List.mem_cons_self ..)
      rw [hf] at hfailed ⊢
      exact Turn.after_of_fails w hfailed
    have hbefore : f.before = o.before := hkept.symm.trans (hlater.eq_after rfl).symm
    refine ⟨hbefore ▸ hpast, ?_⟩
    intro g hg
    rcases List.mem_cons.1 hg with rfl | hg
    · exact hbefore
    · exact hsame g hg

theorem Lives.retry {trace failures future : List Turn} {o : Turn} (h : Lives T trace s)
    (htrace : trace = past ++ (failures ++ o :: future))
    (hfails : ∀ f ∈ failures, f.fails = true) (hstep : o.step = .endPacket) {count : Nat}
    (hanswer : o.answer = .count (.ok count)) :
    ∃ k target, destinationOf past = some target ∧
      o.calls = [.send k ((written past).take o.before.config.txCapacity.toNat) target (.ok count)] ∧
      ∀ f ∈ failures, f.step = .endPacket → ∃ e, f.calls =
        [.send k ((written past).take o.before.config.txCapacity.toNat) target (.error e)] := by
  obtain ⟨hpast, hsame⟩ := h.stutter htrace hfails
  have hsending (f : Turn) (hf : f ∈ failures ++ o :: future) (hend : f.step = .endPacket) :
      ∃ answer, f.answer = .count answer ∧ Socket.Sending f.before answer f.after f.calls := by
    obtain ⟨front, back, hsplit⟩ := List.append_of_mem hf
    rw [hsplit, ← List.append_assoc] at htrace
    obtain ⟨-, w, hturn⟩ := h.split htrace
    rw [hend] at hturn
    rw [hturn]
    exact Turn.sending_of T f.before w
  obtain ⟨answer, hcount, hsent⟩ := hsending o (by simp) hstep
  obtain rfl : answer = .ok count := Answer.count.inj (hcount.symm.trans hanswer)
  generalize hcalls : o.calls = cs, o.after = s' at hsent
  cases hsent with
  | @sent b target count hb hd =>
    obtain ⟨hcontents, -, hdestination⟩ := hpast.pending (Socket.isBound_of_binding hb)
    rw [← hcontents]
    refine ⟨b.handle, target, hdestination.symm.trans hd, rfl, ?_⟩
    intro f hf hend
    obtain ⟨answer, hcount, hfailed⟩ := hsending f (List.mem_append_left _ hf) hend
    have hfails := hfails f hf
    rw [hsame f hf] at hfailed
    generalize f.calls = cs, f.after = s' at hfailed
    cases hfailed with
    | notBound hnone => exact absurd hnone (Socket.not_unbound hb)
    | noDestination _ hnone => rw [hd] at hnone; cases hnone
    | @failed b' target' e hb' hd' =>
      obtain rfl : b = b' := Option.some.inj (hb.symm.trans hb')
      obtain rfl : target = target' := Option.some.inj (hd.symm.trans hd')
      exact ⟨e, rfl⟩
    | sent =>
      rw [Turn.fails, hend, hcount] at hfails
      cases hfails

namespace Session

/-- In every run each datagram that a socket sends is what was written for it, cut to the capacity
of its buffer, and goes to the address given last within the binding. The number of pending bytes
and the answers of writes agree with that, whatever parts the bytes are written in. Failures change
nothing, and sending again after them sends the same. -/
theorem sends_what_was_written (T : Transport σ) (transport : σ) (tables : List SlotTable)
    (specs : List SocketSpec) (steps : List Step) (i : Nat) :
    let start := ofTables transport tables specs
    let trace := start.turns T i steps
    (∀ past o future, trace = past ++ o :: future → o.Follows past) ∧
      (∀ s, (start.run T steps).2.socket? i = some s →
        (s.isBound = true →
          s.pendingLen = ((written trace).take s.config.txCapacity.toNat).length) ∧
        ∀ (w : World σ) (chunks : List Bytes), (s.performAll T w (chunks.map .write)).1 =
          (s.perform T w (.write chunks.flatten)).2.1) ∧
      ∀ past failures o future count, trace = past ++ (failures ++ o :: future) →
        (∀ f ∈ failures, f.fails = true) → o.step = .endPacket → o.answer = .count (.ok count) →
        ∃ k target, destinationOf past = some target ∧
          o.calls =
            [.send k ((written past).take o.before.config.txCapacity.toNat) target (.ok count)] ∧
          ∀ f ∈ failures, f.step = .endPacket → ∃ e, f.calls =
            [.send k ((written past).take o.before.config.txCapacity.toNat) target (.error e)] := by
  intro start trace
  have htracks := tracks_turns T i transport tables specs steps
  obtain ⟨s, hlife⟩ := htracks.life
  refine ⟨?_, ?_, ?_⟩
  · intro past o future htrace
    obtain ⟨hpast, w, ho⟩ := hlife.split htrace
    rw [ho]
    exact hpast.follows w o.step
  · intro s hs
    have halive := htracks.alive s hs
    refine ⟨fun hbound => (halive.pending hbound).2.1, ?_⟩
    intro w chunks
    exact Socket.performAll_writes halive.outgoing.fits w chunks
  · intro past failures o future count htrace hfails hstep hanswer
    exact hlife.retry htrace hfails hstep hanswer

/-- Three bytes for a buffer of two, in two writes, and two sends of which the first fails. -/
def retriedTurns : List Turn :=
  (ofTables ({ send := [.fails (.send "busy")] } : Script) [.ofCapacity 1]
    [{ table := 0, txCapacity := some 2 }]).turns Script.transport 0
      [.socket 0 (.begin 7000), .socket 0 (.beginPacket ⟨.unspecified, 9⟩),
        .socket 0 (.write [1, 2]), .socket 0 (.write [3]), .socket 0 .endPacket,
        .socket 0 .endPacket]

theorem sends_what_was_written_retried :
    ∃ f o k, retriedTurns = retriedTurns.take 4 ++ ([f] ++ [o]) ∧
      written (retriedTurns.take 4) = [1, 2, 3] ∧
      o.calls = [.send k [1, 2] ⟨.unspecified, 9⟩ (.ok 2)] ∧
        ∃ e, f.calls = [.send k [1, 2] ⟨.unspecified, 9⟩ (.error e)] := by
  have h₄ : 4 < retriedTurns.length := by decide
  have h₅ : 5 < retriedTurns.length := by decide
  have hend : retriedTurns.drop 4 = [retriedTurns[4], retriedTurns[5]] := by
    rw [List.drop_eq_getElem_cons h₄, List.drop_eq_getElem_cons h₅,
      List.drop_eq_nil_of_le (by decide)]
  have htrace : retriedTurns = retriedTurns.take 4 ++ ([retriedTurns[4]] ++ [retriedTurns[5]]) := by
    rw [List.singleton_append, ← hend, List.take_append_drop]
  have hfails : retriedTurns[4].fails = true := rfl
  have hcapacity : retriedTurns[5].before.config.txCapacity.toNat = 2 := rfl
  have hwritten : written (retriedTurns.take 4) = [1, 2, 3] := rfl
  have hdestination : destinationOf (retriedTurns.take 4) = some ⟨.unspecified, 9⟩ := rfl
  obtain ⟨k, target, htarget, hsent, hfailed⟩ :=
    (sends_what_was_written Script.transport { send := [.fails (.send "busy")] } [.ofCapacity 1]
      [{ table := 0, txCapacity := some 2 }] _ 0).2.2 (retriedTurns.take 4) [retriedTurns[4]]
        retriedTurns[5] [] 2 htrace (List.forall_mem_singleton.2 hfails) rfl rfl
  obtain rfl := Option.some.inj (hdestination.symm.trans htarget)
  have hresent := hfailed retriedTurns[4] (List.mem_singleton_self _) rfl
  rw [hcapacity, hwritten] at hsent hresent
  exact ⟨_, _, k, htrace, hwritten, hsent, hresent⟩

end Session
end Datagram
