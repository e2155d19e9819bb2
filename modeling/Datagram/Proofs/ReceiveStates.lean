import Mathlib.Data.List.TakeDrop
import Datagram.Proofs.ParseOutcomes
import Datagram.Proofs.Reading

/-!
# The receive states of a socket

A socket is idle while it holds no packet, ready while there is something to read, and drained once
a packet has been read to its end. The state is read off the buffer, so it can only change where the
buffer does: clearing makes it idle, a datagram makes it ready unless it claims no length, and
reading the last byte makes it drained. Everything else leaves it as it is.
-/

namespace Datagram

namespace ReceiveBuffer

variable {b : ReceiveBuffer} {count : Nat}

theorem state_eq_idle_iff : b.state = .idle ↔ b.len = 0 := by
  rw [state]
  by_cases hnone : b.len = 0
  · rw [if_pos hnone]
    exact iff_of_true rfl hnone
  · rw [if_neg hnone]
    refine iff_of_false ?_ hnone
    split <;> decide

theorem state_eq_packetReady_iff : b.state = .packetReady ↔ 0 < b.available := by
  rw [state, available]
  by_cases hnone : b.len = 0
  · rw [if_pos hnone]
    exact iff_of_false (by decide) (by omega)
  · rw [if_neg hnone]
    by_cases hmore : b.cursor < b.len
    · rw [if_pos hmore]
      exact iff_of_true rfl (by omega)
    · rw [if_neg hmore]
      exact iff_of_false (by decide) (by omega)

theorem state_eq_drained_iff : b.state = .drained ↔ b.len ≠ 0 ∧ b.available = 0 := by
  have hnone : b.available = 0 ↔ ¬ 0 < b.available := by omega
  rw [ne_eq, ← state_eq_idle_iff, hnone, ← state_eq_packetReady_iff]
  cases b.state <;> decide

theorem isSome_peek_iff (h : b.len ≤ b.capacity) : b.peek.isSome = true ↔ 0 < b.available := by
  rw [peek_eq_head?, List.isSome_head?, ← length_unread h, List.length_pos_iff]

theorem skip_of_not_ready (h : b.state ≠ .packetReady) (count : Nat) : b.skip count = b := by
  apply skip_of_drained
  rw [ne_eq, state_eq_packetReady_iff] at h
  exact Nat.eq_zero_of_not_pos h

/-- Skipping drains a packet that is ready if it skips all of it. -/
theorem state_skip (h : b.state = .packetReady) (count : Nat) :
    (b.skip count).state = if b.available ≤ count then .drained else .packetReady := by
  have hmore := state_eq_packetReady_iff.1 h
  by_cases hall : b.available ≤ count
  · rw [if_pos hall, state_eq_drained_iff, available_skip]
    change b.len ≠ 0 ∧ _
    rw [available] at hmore hall ⊢
    omega
  · rw [if_neg hall, state_eq_packetReady_iff, available_skip]
    omega

theorem state_load_fill (b : ReceiveBuffer) (written : Bytes) (claim : Nat) (h : 0 < b.capacity) :
    ((b.fill written).load claim).state = if claim = 0 then .idle else .packetReady := by
  by_cases hnone : claim = 0
  · rw [if_pos hnone, state_eq_idle_iff]
    change min claim _ = 0
    rw [hnone, Nat.zero_min]
  · rw [if_neg hnone, state_eq_packetReady_iff]
    change 0 < min claim (b.fill written).capacity - 0
    rw [capacity_fill]
    omega

end ReceiveBuffer

variable {σ : Type}

/-- The operations that take bytes from a packet. -/
def SocketStep.isRead : SocketStep → Bool
  | readByte | read _ | readExact _ | readToEnd | readToString => true
  | _ => false

namespace Turn

/-- Whether a turn has polled and that failed. -/
def pollFails (o : Turn) : Bool :=
  o.calls.any fun c =>
    match c with
    | .poll _ _ (.error _) => true
    | _ => false

/-- What a turn does with the receive buffer: it clears it, receives a datagram into it, reads from
it or leaves it alone. -/
inductive Handling (o : Turn) : Prop
  | clears (hclears : o.clears = true) (hnone : o.arrival? = none)
      (hrx : o.after.rx = o.before.rx.clear)
  | receives {a} (written : Bytes) (hclears : o.clears = false) (harrival : o.arrival? = some a)
      (hstep : o.step = .parsePacket) (hanswer : o.answer = .count (.ok o.after.available))
      (hrx : o.after.rx = (o.before.rx.fill written).load a.claim)
  | reads {count} (hstep : o.step.isRead = true) (hkeeps : o.keepsPacket = true)
      (hrx : o.after.rx = o.before.rx.skip count)
      (htaken : o.taken = o.before.rx.unread.take count)
  | leaves (hstep : o.step.isRead = false) (hkeeps : o.keepsPacket = true)
      (hrx : o.after.rx = o.before.rx)

variable {T : Transport σ} {s : Socket} {w : World σ} {st : SocketStep}

theorem keepsPacket_of (hclears : (Turn.of T s w st).clears = false) (hst : st ≠ .parsePacket) :
    (Turn.of T s w st).keepsPacket = true := by
  rw [keepsPacket, hclears, arrival?_eq_none hst]
  rfl

theorem keepsPacket_of_isRead (hread : st.isRead = true) :
    (Turn.of T s w st).keepsPacket = true := by
  cases st with
  | readByte | read _ | readExact _ | readToEnd | readToString => exact keepsPacket_of rfl nofun
  | _ => cases hread

theorem handling_of_parse (T : Transport σ) (s : Socket) (w : World σ) :
    (Turn.of T s w .parsePacket).Handling := by
  obtain ⟨answer, hanswer, hparsing⟩ := parsing_of T s w
  have hstep : (Turn.of T s w .parsePacket).step = .parsePacket := rfl
  have hbefore : (Turn.of T s w .parsePacket).before = s := rfl
  have hclears : (Turn.of T s w .parsePacket).clears =
      (Turn.of T s w .parsePacket).calls.any Call.failsToReceive := rfl
  have harrival : (Turn.of T s w .parsePacket).arrival? =
      (Turn.of T s w .parsePacket).calls.findSome? Call.arrival? := rfl
  generalize Turn.of T s w .parsePacket = o at *
  have hkept (hrx : o.after = s) (hfails : o.clears = false) (hnone : o.arrival? = none) :
      o.Handling := by
    refine .leaves ?_ ?_ ?_
    · rw [hstep]
      rfl
    · rw [keepsPacket, hfails, hnone]
      rfl
    · rw [hrx, hbefore]
  generalize hafter : o.after = s', o.calls = cs at *
  cases hparsing with
  | notBound | pollFailed | timedOut => exact hkept rfl hclears harrival
  | receiveFailed =>
    refine .clears hclears harrival ?_
    rw [hafter, hbefore]
  | @received b r written =>
    refine .receives written hclears harrival hstep ?_ ?_
    · rw [hanswer, hafter]
      rfl
    · rw [hafter, hbefore]

/-- Every turn handles the receive buffer in one of these ways. -/
theorem handling_of (hfits : s.rx.len ≤ s.rx.capacity) (T : Transport σ) (w : World σ)
    (st : SocketStep) : (Turn.of T s w st).Handling := by
  have hleaves (hread : st.isRead = false) (hreads : st.reads = false)
      (hkeeps : (Turn.of T s w st).keepsPacket = true) : (Turn.of T s w st).Handling :=
    .leaves hread hkeeps (rx_of_not_reads hreads hkeeps)
  have htakes (hread : st.isRead = true) (hreads : st.reads = true) :
      (Turn.of T s w st).Handling := by
    obtain ⟨count, hrx, htaken⟩ := taken_of_reads (T := T) (w := w) hfits hreads
    exact .reads hread (keepsPacket_of_isRead hread) hrx htaken
  cases st with
  | parsePacket => exact handling_of_parse T s w
  | stop =>
    have hstopped : (Turn.of T s w .stop).after = s.released := Socket.stop_released T s w
    exact .clears rfl (arrival?_eq_none nofun) (congrArg Socket.rx hstopped)
  | flush => exact .clears rfl (arrival?_eq_none nofun) rfl
  | begin port =>
    rcases s.binding.eq_none_or_eq_some with hb | ⟨b, hb⟩
    · have hclears : (Turn.of T s w (.begin port)).clears = false := Socket.isBound_of_unbound hb
      exact hleaves rfl rfl (keepsPacket_of hclears nofun)
    · refine .clears (Socket.isBound_of_binding hb) (arrival?_eq_none nofun) ?_
      obtain ⟨base, w₀, opened, cs, hready, -, -, -, hs⟩ := Socket.begin_spec T port s w
      change (s.begin T port w).2.1.rx = s.rx.clear
      rw [hs]
      cases hready with
      | unbound hnone => exact absurd hnone (Socket.not_unbound hb)
      | stopped => rfl
  | readByte | read _ | readExact _ | readToEnd | readToString => exact htakes rfl rfl
  | config | describe => exact .leaves rfl (keepsPacket_of rfl nofun) rfl
  | beginPacket _ | beginReply | beginPacketToHost _ _ _ | write _ | endPacket =>
    exact hleaves rfl rfl (keepsPacket_of rfl nofun)

/-- Parsing that answers more than zero has received a datagram. -/
theorem arrival?_of_count (hst : st = .parsePacket) {n : Nat} (hn : 0 < n)
    (hanswer : (Turn.of T s w st).answer = .count (.ok n)) :
    (Turn.of T s w st).arrival? ≠ none := by
  subst st
  obtain ⟨answer, hparsed, hparsing⟩ := parsing_of T s w
  obtain rfl : answer = .ok n := Answer.count.inj (hparsed.symm.trans hanswer)
  rw [arrival?]
  generalize (Turn.of T s w .parsePacket).after = s', (Turn.of T s w .parsePacket).calls = cs at *
  cases hparsing with
  | timedOut => exact absurd hn (Nat.lt_irrefl 0)
  | received => exact Option.some_ne_none _

theorem eq_parsePacket_of_call {c : Call} (hc : c ∈ (Turn.of T s w st).calls)
    (hside : c.side = .receiving) : st = .parsePacket := by
  obtain ⟨hst, hlocal⟩ := calls_side T s w st c hc
  exact SocketStep.eq_parsePacket (hst.symm.trans hside) hlocal

/-- Polling that fails or times out leaves the socket as it is. -/
theorem after_of_polled
    (h : (Turn.of T s w st).timesOut = true ∨ (Turn.of T s w st).pollFails = true) :
    (Turn.of T s w st).after = s := by
  obtain rfl : st = .parsePacket := by
    rcases h with h | h
    all_goals
      obtain ⟨c, hc, hpolled⟩ := List.any_eq_true.1 h
      apply eq_parsePacket_of_call hc
      cases c with
      | poll => rfl
      | _ => cases hpolled
  obtain ⟨answer, -, hparsing⟩ := parsing_of T s w
  rw [timesOut, pollFails] at h
  generalize (Turn.of T s w .parsePacket).after = s', (Turn.of T s w .parsePacket).calls = cs at *
  cases hparsing with
  | notBound | pollFailed | timedOut => rfl
  | @receiveFailed _ r | @received _ r =>
    cases r with
    | timedOut => contradiction
    | readable | errored => rcases h with h | h <;> cases h

variable {o : Turn}

theorem keepsPacket_of_clears (h : o.clears = true) : o.keepsPacket = false := by
  rw [keepsPacket, h]
  rfl

theorem keepsPacket_of_arrival {a : Arrival} (h : o.arrival? = some a) : o.keepsPacket = false := by
  rw [keepsPacket, h]
  exact Bool.and_false _

/-- The receive state that a turn leads to. A packet that is kept is ready as before, or drained if
a read has taken all of it; else it is cleared, or replaced by the datagram that was received. -/
theorem Handling.receiveState (h : o.Handling) (hfits : o.before.rx.len ≤ o.before.rx.capacity)
    (hpos : 0 < o.before.rx.capacity) :
    (o.keepsPacket = true ∧ o.clears = false ∧ o.arrival? = none ∧
        o.after.receiveState =
          if o.step.isRead = true ∧ o.before.receiveState = .packetReady ∧
              o.taken = o.before.rx.unread then .drained
          else o.before.receiveState) ∨
      (o.keepsPacket = false ∧ o.clears = true ∧ o.arrival? = none ∧
        o.after.receiveState = .idle) ∨
      ∃ a, o.keepsPacket = false ∧ o.clears = false ∧ o.arrival? = some a ∧
        o.step = .parsePacket ∧ o.answer = .count (.ok o.after.available) ∧
        o.after.receiveState = if a.claim = 0 then .idle else .packetReady := by
  have hkept (hkeeps : o.keepsPacket = true) : o.clears = false ∧ o.arrival? = none := by
    obtain ⟨hclears, hnone⟩ := Bool.and_eq_true_iff.1 hkeeps
    rw [Bool.not_eq_true'] at hclears
    exact ⟨hclears, Option.isNone_iff_eq_none.1 hnone⟩
  cases h with
  | clears hclears hnone hrx =>
    refine .inr (.inl ⟨keepsPacket_of_clears hclears, hclears, hnone, ?_⟩)
    rw [Socket.receiveState, hrx]
    rfl
  | @receives a written hclears harrival hstep hanswer hrx =>
    refine .inr (.inr ⟨a, keepsPacket_of_arrival harrival, hclears, harrival, hstep, hanswer, ?_⟩)
    rw [Socket.receiveState, hrx, ReceiveBuffer.state_load_fill _ _ _ hpos]
  | @reads count hstep hkeeps hrx htaken =>
    obtain ⟨hclears, hnone⟩ := hkept hkeeps
    refine .inl ⟨hkeeps, hclears, hnone, ?_⟩
    rw [Socket.receiveState, Socket.receiveState, hrx, htaken, hstep]
    by_cases hready : o.before.rx.state = .packetReady
    · have hall : o.before.rx.unread.take count = o.before.rx.unread ↔
          o.before.rx.available ≤ count := by
        rw [List.take_eq_self_iff, ReceiveBuffer.length_unread hfits]
      simp only [ReceiveBuffer.state_skip hready, hready, hall, true_and]
    · rw [ReceiveBuffer.skip_of_not_ready hready, if_neg fun h => hready h.2.1]
  | leaves hstep hkeeps hrx =>
    obtain ⟨hclears, hnone⟩ := hkept hkeeps
    refine .inl ⟨hkeeps, hclears, hnone, ?_⟩
    rw [Socket.receiveState, Socket.receiveState, hrx, hstep, if_neg]
    exact fun h => Bool.false_ne_true h.1

/-- As long as a packet is kept, only one that is ready changes, and it stays ready while there is
something left to read. -/
theorem Handling.reading (h : o.Handling) (hkeeps : o.keepsPacket = true) :
    (o.before.receiveState ≠ .packetReady → o.after.rx = o.before.rx) ∧
      (0 < o.after.available →
        o.before.receiveState = .packetReady ∧ o.after.receiveState = .packetReady) := by
  have hkept (hrest : o.before.receiveState ≠ .packetReady) : o.after.rx = o.before.rx := by
    cases h with
    | clears hclears => cases hkeeps.symm.trans (keepsPacket_of_clears hclears)
    | receives _ _ harrival => cases hkeeps.symm.trans (keepsPacket_of_arrival harrival)
    | reads _ _ hrx => rw [hrx, ReceiveBuffer.skip_of_not_ready hrest]
    | leaves _ _ hrx => exact hrx
  refine ⟨hkept, fun hmore => ?_⟩
  have hafter : o.after.receiveState = .packetReady :=
    ReceiveBuffer.state_eq_packetReady_iff.2 hmore
  refine ⟨?_, hafter⟩
  by_contra hrest
  rw [Socket.receiveState, hkept hrest] at hafter
  exact hrest hafter

/-- The transitions of the receive state: when a turn leads to each of the three states, and what
leaves the state as it is. -/
structure Moves (o : Turn) : Prop where
  idle : o.after.receiveState = .idle ↔
    o.clears = true ∨ (∃ a, o.arrival? = some a ∧ a.claim = 0) ∨
      o.keepsPacket = true ∧ o.before.receiveState = .idle
  packetReady : o.after.receiveState = .packetReady ↔
    (o.step = .parsePacket ∧ ∃ n, 0 < n ∧ o.answer = .count (.ok n)) ∨
      o.keepsPacket = true ∧ o.before.receiveState = .packetReady ∧
        ¬ (o.step.isRead = true ∧ o.taken = o.before.rx.unread)
  drained : o.after.receiveState = .drained ↔
    (o.step.isRead = true ∧ o.before.receiveState = .packetReady ∧
        o.taken = o.before.rx.unread) ∨
      o.keepsPacket = true ∧ o.before.receiveState = .drained
  reading : o.step.isRead = true →
    (o.before.receiveState ≠ .packetReady → o.after.rx = o.before.rx) ∧
      (0 < o.after.available →
        o.before.receiveState = .packetReady ∧ o.after.receiveState = .packetReady)
  sending : o.step.side = .sending → o.after.receiveState = o.before.receiveState
  polling : o.timesOut = true ∨ o.pollFails = true → o.after = o.before

end Turn

variable {T : Transport σ} {past : List Turn} {s : Socket}

theorem Lives.moves (h : Lives T past s) (w : World σ) (st : SocketStep) :
    (Turn.of T s w st).Moves := by
  have hhandling := Turn.handling_of h.incoming.fits T w st
  have hstate := hhandling.receiveState h.incoming.fits h.capacity_pos
  have hready : (Turn.of T s w st).after.receiveState = .packetReady ↔
      0 < (Turn.of T s w st).after.available := ReceiveBuffer.state_eq_packetReady_iff
  have hcount {n : Nat} (hparse : (Turn.of T s w st).step = .parsePacket) (hn : 0 < n)
      (hanswer : (Turn.of T s w st).answer = .count (.ok n)) :
      (Turn.of T s w st).arrival? ≠ none := Turn.arrival?_of_count hparse hn hanswer
  have hread : (Turn.of T s w st).step.isRead = true → (Turn.of T s w st).keepsPacket = true :=
    Turn.keepsPacket_of_isRead
  have hsending (hside : st.side = .sending) :
      (Turn.of T s w st).after.receiveState = s.receiveState := by
    obtain ⟨tx, destination, hs⟩ := s.perform_sending T w hside
    have hafter : (Turn.of T s w st).after = (s.perform T w st).2.1 := rfl
    rw [hafter, hs]
    rfl
  refine ⟨?_, ?_, ?_, fun h => hhandling.reading (hread h), hsending, Turn.after_of_polled⟩
  -- each of the three ways to the next state decides both sides of all three equivalences
  all_goals
    generalize Turn.of T s w st = o at *
    rcases hstate with ⟨hkeeps, hclears, hnone, hafter⟩ | ⟨hkeeps, hclears, hnone, hafter⟩ |
      ⟨a, hkeeps, hclears, harrival, hparse, hanswer, hafter⟩
    all_goals grind

namespace Session

variable (T : Transport σ) (transport : σ) (tables : List SlotTable) (specs : List SocketSpec)

/-- In every run a socket is ready just when there is something to read, and to peek at. Its receive
state moves only as `Turn.Moves` says of its own turns, and no other step of the session changes the
socket, but dropping it, which stops it and so leaves it idle. -/
theorem receive_states_follow (steps : List Step) (i : Nat) (s : Socket)
    (hs : ((ofTables transport tables specs).run T steps).2.socket? i = some s) :
    let ss := ((ofTables transport tables specs).run T steps).2
    (s.receiveState = .packetReady ↔ 0 < s.available) ∧
      (0 < s.available ↔ s.peek.isSome = true) ∧
      (∀ st, (∀ op, st ≠ .socket i op) →
        (ss.step T st).2.socket? i = some s ∨
          st = .drop i ∧ (s.stop T ss.world).1.receiveState = .idle) ∧
      ∀ op, (ss.step T (.socket i op)).2.socket? i = some (Turn.of T s ss.world op).after ∧
        (Turn.of T s ss.world op).Moves := by
  intro ss
  have hlife := (tracks_turns T i transport tables specs steps).alive s hs
  refine ⟨ReceiveBuffer.state_eq_packetReady_iff,
    (ReceiveBuffer.isSome_peek_iff hlife.incoming.fits).symm, ?_, ?_⟩
  · intro st hother
    rcases socket?_step T hs st with hkept | rfl | ⟨op, rfl, -⟩
    · exact .inl hkept
    · refine .inr ⟨rfl, ?_⟩
      rw [Socket.stop_released]
      rfl
    · exact absurd rfl (hother op)
  · intro op
    exact ⟨socket?_step_self hs op, hlife.moves ss.world op⟩

/-- One byte is left to read. Reading it drains the packet; receiving a datagram that claims no
length makes the socket idle. -/
theorem receive_states_follow_last_byte :
    let start := ofTables
      ({ inbound := [.datagram [7] ⟨.localhost, 9⟩ none,
          .datagram [1, 2] ⟨.localhost, 9⟩ (some 0)] } : Script)
      [.ofCapacity 1] [{ table := 0, txCapacity := some 2, rxCapacity := some 4 }]
    let ss := (start.run Script.transport [.socket 0 (.begin 7000), .socket 0 .parsePacket]).2
    ∃ s read parsed, ss.socket? 0 = some s ∧ s.receiveState = .packetReady ∧
      (ss.step Script.transport (.socket 0 .readByte)).2.socket? 0 = some read ∧
      read.receiveState = .drained ∧
      (ss.step Script.transport (.socket 0 .parsePacket)).2.socket? 0 = some parsed ∧
      parsed.receiveState = .idle := by
  intro start ss
  obtain ⟨hready, -, -, hturns⟩ := receive_states_follow Script.transport _ _ _ _ 0 _
    (rfl : ss.socket? 0 = some _)
  obtain ⟨hread, hdrains⟩ := hturns .readByte
  obtain ⟨hparsed, hclears⟩ := hturns .parsePacket
  have hbefore := hready.2 (by decide)
  exact ⟨_, _, _, rfl, hbefore, hread, hdrains.drained.2 (.inl ⟨rfl, hbefore, rfl⟩), hparsed,
    hclears.idle.2 (.inr (.inl ⟨_, rfl, rfl⟩))⟩

end Session
end Datagram
