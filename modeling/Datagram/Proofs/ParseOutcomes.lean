import Datagram.Proofs.BlankSockets
import Datagram.Proofs.Incoming
import Datagram.Script

/-!
# How parsing a packet ends

Parsing polls and then perhaps receives, and the answers to these two calls decide everything: which
calls are made, what is answered, and which part of the socket changes. A timeout and an empty
datagram are both answered with zero. The remembered sender tells them apart as long as no sender
repeats itself: an empty datagram from the sender already remembered changes it no more than a
timeout does.
-/

namespace Datagram

variable {σ : Type}

namespace Socket

variable {T : Transport σ} {s : Socket} {b : Binding} {w : World σ}

/-- How parsing a packet ends for each answer to polling and receiving: the answer, the socket
afterwards, and the calls. -/
structure Parses (s : Socket) (b : Binding) (polled : Result Readiness) (delivery : Delivery)
    (answer : Result Nat) (s' : Socket) (cs : List Call) : Prop where
  frame : ∃ rx remote, s' = { s with rx, remote }
  pollFailed : ∀ e, polled = .error e →
    answer = .error e ∧ s' = s ∧ cs = [.poll b.handle s.config.pollTimeout polled]
  timedOut : polled = .ok .timedOut →
    answer = .ok 0 ∧ s' = s ∧ cs = [.poll b.handle s.config.pollTimeout polled]
  receiveFailed : ∀ r e, polled = .ok r → r ≠ .timedOut → delivery.outcome = .error e →
    answer = .error e ∧ s' = { s with rx := .ofCapacity s.rx.capacity } ∧
      s'.receiveState = .idle ∧
      cs = [.poll b.handle s.config.pollTimeout polled,
        .receive b.handle s.rx.capacity delivery]
  received : ∀ r claim source, polled = .ok r → r ≠ .timedOut →
    delivery.outcome = .ok (claim, source) →
      answer = .ok s'.available ∧ s'.available = min claim s.rx.capacity ∧
        s'.rx.cursor = 0 ∧ s'.remote = some source ∧
        cs = [.poll b.handle s.config.pollTimeout polled,
          .receive b.handle s.rx.capacity delivery]

namespace Parses

variable {r : Readiness} {e : Failure} {delivery : Delivery}

theorem of_pollFailed (s : Socket) (b : Binding) (e : Failure) (delivery : Delivery) :
    s.Parses b (.error e) delivery (.error e) s
      [.poll b.handle s.config.pollTimeout (.error e)] where
  frame := ⟨s.rx, s.remote, rfl⟩
  pollFailed e' he := by
    cases he
    exact ⟨rfl, rfl, rfl⟩
  timedOut := nofun
  receiveFailed := nofun
  received := nofun

theorem of_timedOut (s : Socket) (b : Binding) (delivery : Delivery) :
    s.Parses b (.ok .timedOut) delivery (.ok 0) s
      [.poll b.handle s.config.pollTimeout (.ok .timedOut)] where
  frame := ⟨s.rx, s.remote, rfl⟩
  pollFailed := nofun
  timedOut _ := ⟨rfl, rfl, rfl⟩
  receiveFailed _ _ hready hr := absurd (Except.ok.inj hready).symm hr
  received _ _ _ hready hr := absurd (Except.ok.inj hready).symm hr

theorem of_receiveFailed (s : Socket) (b : Binding) (hr : r ≠ .timedOut)
    (he : delivery.outcome = .error e) :
    s.Parses b (.ok r) delivery (.error e) { s with rx := s.rx.clear }
      [.poll b.handle s.config.pollTimeout (.ok r),
        .receive b.handle s.rx.capacity delivery] where
  frame := ⟨s.rx.clear, s.remote, rfl⟩
  pollFailed := nofun
  timedOut htimedOut := absurd (Except.ok.inj htimedOut) hr
  receiveFailed _ e' _ _ he' := by
    obtain rfl : e = e' := Except.error.inj (he.symm.trans he')
    exact ⟨rfl, rfl, rfl, rfl⟩
  received _ _ _ _ _ hloaded := by cases he.symm.trans hloaded

theorem of_received (s : Socket) (b : Binding) (hr : r ≠ .timedOut) {claim : Nat}
    {source : Endpoint} (hloaded : delivery.outcome = .ok (claim, source)) :
    s.Parses b (.ok r) delivery (.ok ((s.rx.fill delivery.written).load claim).available)
      { s with rx := (s.rx.fill delivery.written).load claim, remote := some source }
      [.poll b.handle s.config.pollTimeout (.ok r),
        .receive b.handle s.rx.capacity delivery] where
  frame := ⟨(s.rx.fill delivery.written).load claim, some source, rfl⟩
  pollFailed := nofun
  timedOut htimedOut := absurd (Except.ok.inj htimedOut) hr
  receiveFailed _ _ _ _ he := by cases hloaded.symm.trans he
  received _ _ _ _ _ hloaded' := by
    obtain ⟨rfl, rfl⟩ := Prod.mk.inj (Except.ok.inj (hloaded.symm.trans hloaded'))
    refine ⟨rfl, ?_, rfl, rfl, rfl⟩
    change min claim (s.rx.fill delivery.written).capacity - 0 = _
    rw [ReceiveBuffer.capacity_fill, Nat.sub_zero]

end Parses

theorem parsePacket_parses (hb : s.binding = some b) :
    let polled := T.poll b.handle s.config.pollTimeout w.transport
    let delivery := (T.receive b.handle s.rx.capacity polled.state).answer
    ∃ cs, (s.parsePacket T w).2.2.calls = w.calls ++ cs ∧
      s.Parses b polled.answer delivery (s.parsePacket T w).1 (s.parsePacket T w).2.1 cs := by
  intro polled delivery
  let w₁ := (w.poll T b.handle s.config.pollTimeout).2
  have hpoll : w.poll T b.handle s.config.pollTimeout = (polled.answer, w₁) := rfl
  obtain ⟨-, hcalls₁⟩ := World.perform_spec hpoll
  rcases parsePacket_cases T hb hpoll with ⟨e, hpolled, hs⟩ | ⟨hpolled, hs⟩ | ⟨r, hpolled, hr, hs⟩
  · rw [hpolled] at hcalls₁ ⊢
    rw [hs]
    exact ⟨_, hcalls₁, .of_pollFailed s b e delivery⟩
  · rw [hpolled] at hcalls₁ ⊢
    rw [hs]
    exact ⟨_, hcalls₁, .of_timedOut s b delivery⟩
  · let w₂ := (w₁.receive T b.handle s.rx.capacity).2
    have hreceive : w₁.receive T b.handle s.rx.capacity = (delivery, w₂) := rfl
    obtain ⟨-, hcalls₂⟩ := World.perform_spec hreceive
    rw [hpolled] at hcalls₁ ⊢
    rw [hcalls₁, List.append_assoc] at hcalls₂
    rcases receive_cases T hreceive with ⟨e, he, hreceived⟩ | ⟨claim, source, hloaded, hreceived⟩
    · rw [hs, hreceived]
      exact ⟨_, hcalls₂, .of_receiveFailed s b hr he⟩
    · rw [hs, hreceived]
      exact ⟨_, (World.calls_emit ..).trans hcalls₂, .of_received s b hr hloaded⟩

end Socket

namespace Turn

def receivesEmpty (o : Turn) (source : Endpoint) : Prop :=
  ∃ copied, o.arrival? = some ⟨copied, 0, source⟩

end Turn

variable {T : Transport σ} {past : List Turn} {s : Socket}

theorem Lives.capacity_pos (h : Lives T past s) : 0 < s.rx.capacity := by
  -- the configuration that a socket keeps is already clamped, and clamping raises zero to one
  have hclamped : (if s.config.rxCapacity ≤ 1 then 1 else s.config.rxCapacity) =
      s.config.rxCapacity := congrArg Config.rxCapacity h.wipeable.clamped
  rw [h.capacities.2]
  by_cases hone : s.config.rxCapacity ≤ 1
  · rw [if_pos hone] at hclamped
    rw [← hclamped]
    decide
  · rw [UInt64.le_iff_toNat_le] at hone
    omega

theorem Lives.parsed_zero (h : Lives T past s) (w : World σ)
    (hzero : (Turn.of T s w .parsePacket).answer = .count (.ok 0)) :
    ((Turn.of T s w .parsePacket).timesOut = true ∧ (Turn.of T s w .parsePacket).after = s ∧
        ∀ source, ¬ (Turn.of T s w .parsePacket).receivesEmpty source) ∨
      ∃ source, (Turn.of T s w .parsePacket).timesOut = false ∧
        (Turn.of T s w .parsePacket).receivesEmpty source ∧
        (Turn.of T s w .parsePacket).after.remote = some source ∧
        (Turn.of T s w .parsePacket).after.receiveState = .idle := by
  have hpos := h.capacity_pos
  obtain ⟨answer, hanswer, hparsing⟩ := Turn.parsing_of T s w
  have hok : answer = .ok 0 := Answer.count.inj (hanswer.symm.trans hzero)
  simp only [Turn.timesOut, Turn.receivesEmpty, Turn.arrival?]
  generalize (Turn.of T s w .parsePacket).after = s', (Turn.of T s w .parsePacket).calls = cs at *
  cases hparsing with
  | notBound | pollFailed | receiveFailed => cases hok
  | timedOut =>
    refine .inl ⟨rfl, rfl, ?_⟩
    rintro source ⟨copied, harrival⟩
    cases harrival
  | @received b r written claim source hb hr =>
    -- the buffer has room for a byte, so that nothing to read means that nothing was claimed
    have hclaim : claim = 0 := by
      have hmin : min claim (s.rx.fill written).capacity = 0 := Except.ok.inj hok
      rw [ReceiveBuffer.capacity_fill] at hmin
      omega
    subst claim
    refine .inr ⟨source, ?_, ⟨written.take s.rx.capacity, rfl⟩, rfl, ?_⟩
    · cases r with
      | timedOut => exact absurd rfl hr
      | readable | errored => rfl
    · have hlen : ((s.rx.fill written).load 0).len = 0 := Nat.zero_min _
      rw [Socket.receiveState, ReceiveBuffer.state, if_pos hlen]

namespace Session

/-- In every run parsing a packet on a bound socket does what the answers to polling and receiving
say. When polling fails or times out, nothing is received and the socket stays as it is. When
receiving fails, the buffer is emptied and its storage zeroed, and the sender stays known. When a
datagram is received, the answer is the number of bytes to read, which never exceeds the buffer.
Binding, slot tables and the outgoing packet stay as they are in all cases. -/
theorem parsing_touches_its_part (T : Transport σ) (transport : σ) (tables : List SlotTable)
    (specs : List SocketSpec) (steps : List Step) (i : Nat) (s : Socket) (b : Binding)
    (hs : ((ofTables transport tables specs).run T steps).2.socket? i = some s)
    (hb : s.binding = some b) :
    let ss := ((ofTables transport tables specs).run T steps).2
    let polled := T.poll b.handle s.config.pollTimeout ss.world.transport
    let delivery := (T.receive b.handle s.rx.capacity polled.state).answer
    let parsed := ss.step T (.socket i .parsePacket)
    s.rx.capacity = s.config.rxCapacity.toNat ∧ parsed.2.world.tables = ss.world.tables ∧
      ∃ answer s' cs, parsed.1 = .count answer ∧ parsed.2.socket? i = some s' ∧
        parsed.2.world.calls = ss.world.calls ++ cs ∧
        s.Parses b polled.answer delivery answer s' cs := by
  intro ss polled delivery parsed
  have hlife := (tracks_turns T i transport tables specs steps).alive s hs
  have hsocket : parsed.2.socket? i = some (s.parsePacket T ss.world).2.1 :=
    socket?_step_self hs .parsePacket
  have hworld : parsed.2.world = (s.parsePacket T ss.world).2.2 :=
    congrArg Session.world (step_socket hs .parsePacket)
  have hside : SocketStep.parsePacket.side ≠ .lifecycle := nofun
  have htables : (s.parsePacket T ss.world).2.2.tables = ss.world.tables :=
    s.perform_tables T ss.world hside
  obtain ⟨cs, hcalls, hparses⟩ := Socket.parsePacket_parses (T := T) (w := ss.world) hb
  rw [hworld]
  exact ⟨hlife.capacities.2, htables, (s.parsePacket T ss.world).1, _, cs,
    step_answer hs .parsePacket, hsocket, hcalls, hparses⟩

/-- A packet of which one byte has been read, and then a receive that fails. -/
theorem parsing_touches_its_part_failing :
    let start := ofTables
      ({ inbound := [.datagram [1, 2, 3] ⟨.localhost, 9⟩ none,
          .failure (.receive "gone")] } : Script)
      [.ofCapacity 1] [{ table := 0, txCapacity := some 2, rxCapacity := some 4 }]
    let ss := (start.run Script.transport
      [.socket 0 (.begin 7000), .socket 0 .parsePacket, .socket 0 .readByte]).2
    let parsed := ss.step Script.transport (.socket 0 .parsePacket)
    ∃ s s', ss.socket? 0 = some s ∧ s.rx.unread = [2, 3] ∧ s.remote = some ⟨.localhost, 9⟩ ∧
      parsed.1 = .count (.error (.receive "gone")) ∧ parsed.2.socket? 0 = some s' ∧
      s' = { s with rx := .ofCapacity 4 } := by
  intro start ss parsed
  have hsome : (ss.socket? 0).map
      (fun s => (s.isBound, s.config.rxCapacity, s.rx.unread, s.remote)) =
        some (true, 4, [2, 3], some ⟨.localhost, 9⟩) := by decide
  obtain ⟨s, hs, hsocket⟩ := Option.map_eq_some_iff.1 hsome
  obtain ⟨hbound, hsocket⟩ := Prod.mk.inj hsocket
  obtain ⟨hconfig, hsocket⟩ := Prod.mk.inj hsocket
  obtain ⟨hunread, hremote⟩ := Prod.mk.inj hsocket
  obtain ⟨b, hb⟩ := Option.isSome_iff_exists.1 hbound
  obtain ⟨hcapacity, -, answer, s', cs, hanswer, hs', -, hparses⟩ :=
    parsing_touches_its_part Script.transport _ _ _ _ 0 s b hs hb
  obtain ⟨hfailed, hafter, -, -⟩ :=
    hparses.receiveFailed .errored (.receive "gone") rfl nofun rfl
  rw [hcapacity, hconfig] at hafter
  rw [hfailed] at hanswer
  exact ⟨s, s', hs, hunread, hremote, hanswer, hs', hafter⟩

variable (T : Transport σ) (transport : σ) (tables : List SlotTable) (specs : List SocketSpec)

/-- In every run parsing answers zero in two cases: the poll timed out, and the socket is as before,
or an empty datagram was received, and its sender is the one remembered now. So the remembered
sender is another than before just when an empty datagram came from another. -/
theorem zero_answer_by_sender (steps : List Step) (i : Nat) :
    ∀ o ∈ (ofTables transport tables specs).turns T i steps,
      o.step = .parsePacket → o.answer = .count (.ok 0) →
        (o.timesOut = true ↔ ∀ source, ¬ o.receivesEmpty source) ∧
          (o.timesOut = true → o.after = o.before) ∧
          (∀ source, o.receivesEmpty source →
            o.after.remote = some source ∧ o.after.receiveState = .idle) ∧
          (o.after.remote ≠ o.before.remote ↔
            ∃ source, o.receivesEmpty source ∧ o.before.remote ≠ some source) := by
  intro o ho hstep hzero
  obtain ⟨past, future, hsplit⟩ := List.append_of_mem ho
  obtain ⟨s, hlife⟩ := (tracks_turns T i transport tables specs steps).life
  obtain ⟨hpast, w, hturn⟩ := hlife.split hsplit
  rw [hstep] at hturn
  have hsource {source source' : Endpoint} (h : o.receivesEmpty source)
      (h' : o.receivesEmpty source') : source = source' := by
    obtain ⟨copied, harrival⟩ := h
    obtain ⟨copied', harrival'⟩ := h'
    exact congrArg Arrival.source (Option.some.inj (harrival.symm.trans harrival'))
  have hcases := hpast.parsed_zero w (hturn ▸ hzero)
  rw [← hturn] at hcases
  rcases hcases with ⟨htimes, hafter, hnone⟩ | ⟨source, htimes, hempty, hremote, hidle⟩
  · refine ⟨iff_of_true htimes hnone, fun _ => hafter, fun source h => absurd h (hnone source), ?_⟩
    rw [hafter]
    exact iff_of_false (fun h => h rfl) fun ⟨source, h, _⟩ => hnone source h
  · rw [htimes]
    refine ⟨iff_of_false nofun fun hnone => hnone source hempty, nofun, ?_, ?_⟩
    · intro source' h
      rw [← hsource hempty h]
      exact ⟨hremote, hidle⟩
    · rw [hremote]
      constructor
      · intro hchanged
        exact ⟨source, hempty, hchanged.symm⟩
      · rintro ⟨source', h, hchanged⟩
        rw [← hsource hempty h] at hchanged
        exact hchanged.symm

def emptyTwice : List Turn :=
  (ofTables
    ({ inbound := [.datagram [] ⟨.localhost, 9⟩ none, .datagram [] ⟨.localhost, 9⟩ none] } : Script)
    [.ofCapacity 1] [{ table := 0, txCapacity := some 2, rxCapacity := some 4 }]).turns
      Script.transport 0
        [.socket 0 (.begin 7000), .socket 0 .parsePacket, .socket 0 .parsePacket,
          .socket 0 .parsePacket]

theorem zero_answer_by_sender_first :
    ∃ o ∈ emptyTwice, o.answer = .count (.ok 0) ∧ o.receivesEmpty ⟨.localhost, 9⟩ ∧
      o.timesOut = false ∧ o.before.remote = none ∧ o.after.remote = some ⟨.localhost, 9⟩ := by
  have hlength : 1 < emptyTwice.length := by decide
  have hempty : emptyTwice[1].receivesEmpty ⟨.localhost, 9⟩ := ⟨[], rfl⟩
  obtain ⟨htimes, -, hreceived, -⟩ := zero_answer_by_sender Script.transport _ _ _ _ 0
    emptyTwice[1] (List.getElem_mem hlength) rfl rfl
  refine ⟨emptyTwice[1], List.getElem_mem hlength, rfl, hempty, ?_, rfl, (hreceived _ hempty).1⟩
  exact Bool.eq_false_iff.2 fun h => htimes.1 h _ hempty

/-- The second of the two leaves the remembered sender as a timeout would. -/
theorem remote_unchanged_by_empty_datagram :
    ¬ ∀ o ∈ emptyTwice, o.step = .parsePacket → o.answer = .count (.ok 0) →
      (o.after.remote ≠ o.before.remote ↔ ∃ source, o.receivesEmpty source) ∧
        (o.after.remote = o.before.remote ↔ o.timesOut = true) := by
  intro hdecides
  have hlength : 2 < emptyTwice.length := by decide
  have hsame : emptyTwice[2].after.remote = emptyTwice[2].before.remote := rfl
  obtain ⟨hchanged, -⟩ := hdecides emptyTwice[2] (List.getElem_mem hlength) rfl rfl
  exact hchanged.2 ⟨⟨.localhost, 9⟩, [], rfl⟩ hsame

end Session
end Datagram
