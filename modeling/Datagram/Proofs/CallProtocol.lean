import Datagram.Proofs.Capacities
import Datagram.Proofs.SocketCalls

/-!
# The protocol between sockets and transport

Over a transport that never hands out a handle twice, all that sockets say about a handle is one of
the four conversations, and only one that a living socket holds is going on. A binding that a socket
had at some moment has been closed once if the socket was stopped, dropped or bound anew
since, and not at all otherwise. Nothing is received without a poll right before it, in the same
operation and on the same handle, that did not time out.
-/

namespace Datagram

variable {σ : Type}

namespace Socket

/-- What parsing a packet asks of the transport: to poll, and then to receive into the whole buffer
if the poll says so. -/
inductive Polled (s : Socket) (b : Binding) : List Call → Prop
  | only {answer} : Polled s b [.poll b.handle s.config.pollTimeout answer]
  | received {r delivery} (hr : r = .readable ∨ r = .errored) : Polled s b
      [.poll b.handle s.config.pollTimeout (.ok r),
        .receive b.handle s.config.rxCapacity.toNat delivery]

variable {T : Transport σ} {s : Socket} {w : World σ}

theorem Parsing.polled {answer : Result Nat} {s' : Socket} {cs : List Call}
    (h : Parsing s answer s' cs) (hrx : s.rx.capacity = s.config.rxCapacity.toNat) (hcs : cs ≠ []) :
    ∃ b, s.binding = some b ∧ Polled s b cs := by
  have hready {r : Readiness} (hr : r ≠ .timedOut) : r = .readable ∨ r = .errored := by
    cases r with
    | readable => exact .inl rfl
    | errored => exact .inr rfl
    | timedOut => exact absurd rfl hr
  cases h with
  | notBound => exact absurd rfl hcs
  | pollFailed hb | timedOut hb => exact ⟨_, hb, .only⟩
  | receiveFailed hb hr | received hb hr =>
    rw [hrx]
    exact ⟨_, hb, .received (hready hr)⟩

theorem perform_polled (hrx : s.rx.capacity = s.config.rxCapacity.toNat) {st : SocketStep}
    {cs : List Call} (hcalls : (s.perform T w st).2.2.calls = w.calls ++ cs) {c : Call}
    (hc : c ∈ cs) (hside : c.side = .receiving) :
    st = .parsePacket ∧ ∃ b, s.binding = some b ∧ Polled s b cs := by
  obtain ⟨cs₁, hcalls₁, hall⟩ := perform_calls T s w st
  obtain rfl := List.append_cancel_left (hcalls.symm.trans hcalls₁)
  obtain ⟨hst, hlocal⟩ := hall c hc
  obtain rfl := SocketStep.eq_parsePacket (hst.symm.trans hside) hlocal
  obtain ⟨cs₂, hparsing, hcalls₂, -⟩ := parsePacket_parsing T s w
  obtain rfl := List.append_cancel_left (hcalls.symm.trans hcalls₂)
  exact ⟨rfl, hparsing.polled hrx (List.ne_nil_of_mem hc)⟩

end Socket

namespace Session

variable {T : Transport σ} {ss : Session σ} {i : Nat} {s : Socket} {b : Binding}

theorem step_keeps_binding (hs : ss.socket? i = some s) (hb : s.binding = some b) {st : Step}
    (hst : st.ends i = false) :
    ∃ s', (ss.step T st).2.socket? i = some s' ∧ s'.binding = some b := by
  rcases socket?_step T hs st with hkept | rfl | ⟨op, rfl, hkept⟩
  · exact ⟨s, hkept, hb⟩
  · simp [Step.ends] at hst
  · have hside : op.side ≠ .lifecycle := by
      intro hside
      cases op with
      | begin port => simp [Step.ends] at hst
      | stop => simp [Step.ends] at hst
      | _ => cases hside
    refine ⟨_, hkept, ?_⟩
    rw [Socket.perform_binding T s ss.world hside]
    exact hb

theorem madeBy_closes (hs : ss.socket? i = some s) (hb : s.binding = some b) {st : Step}
    (hst : st.ends i = true) : 0 < (ss.madeBy T st).countP (Call.closes b.handle) := by
  have hclosed {cs : List Call} {closed : Result Unit} (hraw : st.isRaw = false)
      (hcalls : (ss.step T st).2.world.calls = ss.world.calls ++ .close b.handle closed :: cs) :
      0 < (ss.madeBy T st).countP (Call.closes b.handle) := by
    rw [madeBy_eq hraw hcalls, List.countP_pos_iff]
    exact ⟨_, List.mem_cons_self .., by simp [Call.closes]⟩
  have hperformed (op : SocketStep) (hside : op.side = .lifecycle) :
      ∃ closed cs, (s.perform T ss.world op).2.2.calls =
        ss.world.calls ++ .close b.handle closed :: cs := by
    obtain ⟨closed, cs, hcalls, -⟩ := Socket.perform_closes T ss.world hb hside
    exact ⟨closed, cs, hcalls⟩
  cases st with
  | socket j op =>
    have hop : op.side = .lifecycle ∧ j = i := by
      cases op with
      | begin port => exact ⟨rfl, by simpa [Step.ends] using hst⟩
      | stop => exact ⟨rfl, by simpa [Step.ends] using hst⟩
      | _ => cases hst
    obtain ⟨hside, rfl⟩ := hop
    obtain ⟨closed, cs, hcalls⟩ := hperformed op hside
    apply hclosed rfl
    rw [step_socket hs]
    exact hcalls
  | drop j =>
    obtain rfl : j = i := by simpa [Step.ends] using hst
    obtain ⟨closed, cs, hcalls⟩ := hperformed .stop rfl
    apply hclosed rfl
    rw [step_drop hs]
    exact hcalls
  | _ => cases hst

theorem binding_kept_or_closed (hs : ss.socket? i = some s) (hb : s.binding = some b)
    (steps : List Step) :
    (steps.any (Step.ends i) = false →
        ∃ s', (ss.run T steps).2.socket? i = some s' ∧ s'.binding = some b) ∧
      (steps.any (Step.ends i) = true →
        0 < (ss.socketCalls T steps).countP (Call.closes b.handle)) := by
  induction steps generalizing ss s with
  | nil =>
    refine ⟨fun _ => ⟨s, hs, hb⟩, ?_⟩
    intro hends
    cases hends
  | cons st steps ih =>
    rw [socketCalls_cons, List.any_cons, List.countP_append]
    cases hst : st.ends i with
    | true =>
      rw [Bool.true_or]
      refine ⟨?_, fun _ => Nat.add_pos_left (madeBy_closes hs hb hst) _⟩
      intro hkept
      cases hkept
    | false =>
      obtain ⟨s', hs', hb'⟩ := step_keeps_binding (T := T) hs hb hst
      obtain ⟨hkept, hclosed⟩ := ih hs' hb'
      rw [Bool.false_or]
      exact ⟨hkept, fun hends => Nat.add_pos_right _ (hclosed hends)⟩

theorem madeBy_polled {st : Step} (hlives : ∀ i s, ss.socket? i = some s → ∃ past, Lives T past s)
    {c : Call} (hc : c ∈ ss.madeBy T st) (hside : c.side = .receiving) :
    ∃ i s b, st = .socket i .parsePacket ∧ ss.socket? i = some s ∧ s.binding = some b ∧
      Socket.Polled s b (ss.madeBy T st) := by
  have hnothing {P : Prop} (hnone : ss.madeBy T st = []) : P := by
    rw [hnone] at hc
    cases hc
  cases st with
  | socket i op =>
    cases hs : ss.socket? i with
    | none =>
      apply hnothing
      apply madeBy_eq_nil rfl
      rw [step_socket_of_none hs]
    | some s =>
      obtain ⟨past, hlife⟩ := hlives i s hs
      obtain ⟨cs, hcalls, -⟩ := Socket.perform_moves T s ss.world op
      rw [madeBy_socket hs hcalls] at hc ⊢
      obtain ⟨rfl, b, hb, hpolled⟩ := Socket.perform_polled hlife.capacities.2 hcalls hc hside
      exact ⟨i, s, b, rfl, hs, hb, hpolled⟩
  | drop i =>
    cases hs : ss.socket? i with
    | none =>
      apply hnothing
      apply madeBy_eq_nil rfl
      rw [step_drop_of_none hs]
    | some s =>
      obtain ⟨cs, hcalls, hall⟩ := Socket.perform_calls T s ss.world .stop
      rw [madeBy_drop hs hcalls] at hc
      rw [(hall c hc).1] at hside
      cases hside
  | raw call => exact hnothing rfl
  | construct spec => exact hnothing (madeBy_eq_nil rfl rfl)
  | _ => exact hnothing (madeBy_eq_nil rfl (step_calls_of_quiet rfl rfl))

/-- Over a transport that never hands out a handle twice, everything that sockets say about a handle
is one conversation, which is going on exactly while a socket holds the handle; a handle that a
socket held at some moment is closed once if the binding has ended since, and otherwise not; and
what is received was announced by a poll right before. -/
theorem sockets_keep_protocol (T : Transport σ) (transport : σ) (tables : List SlotTable)
    (specs : List SocketSpec) (steps : List Step)
    (hfresh : (((ofTables transport tables specs).run T steps).2.world.calls.filterMap
      Call.created?).Nodup) :
    let start := ofTables transport tables specs
    (∀ h, ∃ phase,
        Conversation T h phase ((start.socketCalls T steps).filter (Call.concerns h)) ∧
          (phase = .bound ↔ h ∈ (start.run T steps).2.held)) ∧
      (∀ before after i s b, steps = before ++ after →
        (start.run T before).2.socket? i = some s → s.binding = some b →
          (start.socketCalls T steps).countP (Call.closes b.handle) =
            if after.any (Step.ends i) then 1 else 0) ∧
      ∀ before st after, steps = before ++ st :: after →
        ∀ c ∈ (start.run T before).2.madeBy T st, c.side = .receiving →
          ∃ i s b, st = .socket i .parsePacket ∧ (start.run T before).2.socket? i = some s ∧
            s.binding = some b ∧ Socket.Polled s b ((start.run T before).2.madeBy T st) := by
  intro start
  have hempty : Ledger T start.held [] := by
    rw [held_ofTables]
    exact ledger_nil
  have hledger := run_ledger hempty (List.nil_sublist _) steps hfresh
  rw [List.nil_append] at hledger
  refine ⟨hledger.conversations, ?_, ?_⟩
  · intro before after i s b hsplit hs hb
    obtain ⟨honce, hopen⟩ := hledger.countP_closes b.handle
    obtain ⟨hkept, hclosed⟩ := binding_kept_or_closed (T := T) hs hb after
    cases hends : after.any (Step.ends i) with
    | false =>
      obtain ⟨s', hs', hb'⟩ := hkept hends
      have hend : (start.run T steps).2.socket? i = some s' := by
        rw [hsplit, run_append]
        exact hs'
      exact hopen (held_of_bound hend hb')
    | true =>
      have hsome : 0 < (start.socketCalls T steps).countP (Call.closes b.handle) := by
        rw [hsplit, socketCalls, callsWhere_append, List.countP_append]
        exact Nat.add_pos_right _ (hclosed hends)
      rw [if_pos rfl]
      exact Nat.le_antisymm honce hsome
  · intro before st after _ c hc hside
    apply madeBy_polled _ hc hside
    intro i s hs
    exact ⟨_, (tracks_turns T i transport tables specs before).alive s hs⟩

/-- Binding anew is refused after the first handle has been closed, with an error; neither that
close nor the one after the refusal is made again. -/
theorem sockets_keep_protocol_refused_rebind :
    let start := ofTables
      ({ bind := [.normal, .fails (.bind 7001 "in use")], close := [.fails (.close "broken")] } : Script)
      [.ofCapacity 1] [{ table := 0 }]
    let steps := [.socket 0 (.begin 7000), .socket 0 .parsePacket, .socket 0 (.begin 7001), .drop 0]
    (start.socketCalls Script.transport steps).countP (Call.closes ⟨1⟩) = 1 ∧
      ∃ phase, Conversation Script.transport ⟨2⟩ phase
        ((start.socketCalls Script.transport steps).filter (Call.concerns ⟨2⟩)) ∧
          (phase = .bound ↔ ⟨2⟩ ∈ (start.run Script.transport steps).2.held) := by
  intro start steps
  have h := sockets_keep_protocol Script.transport
    { bind := [.normal, .fails (.bind 7001 "in use")], close := [.fails (.close "broken")] }
    [.ofCapacity 1] [{ table := 0 }] steps (by decide)
  have hbound : ((start.run Script.transport [.socket 0 (.begin 7000)]).2.socket? 0).map
      (·.binding) = some (some ⟨⟨1⟩, 7000, ⟨0, 0⟩⟩) := by decide
  obtain ⟨s, hs, hb⟩ := Option.map_eq_some_iff.1 hbound
  have hcloses := h.2.1 [.socket 0 (.begin 7000)]
    [.socket 0 .parsePacket, .socket 0 (.begin 7001), .drop 0] 0 s _ rfl hs hb
  exact ⟨hcloses, h.1 ⟨2⟩⟩

end Session
end Datagram
