import Datagram.Proofs.CallProtocol
import Datagram.Proofs.LawfulNetwork
import Datagram.Proofs.Letters

/-!
# Delivery over the loopback interface

Sockets over one host transport at the loopback address reach each other. Nothing waits for a socket
that has just been bound. From then on, until it gives up its binding, what it has loaded and what
still waits for it are together what has been posted to its port, in the order of posting. So what
it loads is a prefix of that, and all of it if polling has run out of time.
-/

namespace Datagram

variable {ω : Type} {O : Os ω} {L : O.Loopback}

/-- Where the machine has no other name, the letters that arrive are those addressed to it. -/
theorem arriving_of_names {names : Ipv4 → Bool} (h : ∀ ip, names ip = true ↔ ip = .localhost)
    (port : UInt16) (letters : List Letter) :
    arriving names port letters =
      (letters.filter fun l => l.target = ⟨.localhost, port⟩).map Letter.packet := by
  have hsame (l : Letter) : (names l.target.ip && decide (l.target.port = port)) =
      decide (l.target = ⟨.localhost, port⟩) := by
    obtain ⟨data, ⟨ip, p⟩, sender⟩ := l
    rw [Bool.eq_iff_iff]
    simp [h]
  rw [arriving]
  simp only [hsame]

namespace Socket

open Host

variable {s : Socket} {w : World (Host ω)} {b : Binding} {t t' : Host ω}

theorem opening_mail {w : World (Host ω)} {table : Nat} {port : UInt16} {tables : List SlotTable}
    {cs : List Call} (ht : Sound L.toLawful t)
    (hopening : Opening (transport O) table port w (.ok b) tables cs)
    (h : (transport O).Replays t cs t') : mail L t' b.handle = [] := by
  cases hopening with
  | @bound slot t₀ k reported hslot =>
    cases h with
    | cons hcreate h =>
    cases h with
    | cons hbind h =>
    cases h with
    | cons hask hnil =>
    have hcreated := follows_of_takes ht hcreate
    have hplaced := follows_of_takes hcreated.sound hbind
    obtain ⟨q, -, -, hq⟩ := shift_bind (shift_of_takes L.toLawful hcreated.sound.valid hbind)
    rw [hnil.eq_of_nil, mail_spared hplaced.sound hq hask rfl]
    exact mail_bound hcreated.sound hbind rfl

theorem begin_mail (hs : Sound L.toLawful w.transport) {port : UInt16}
    (hb : (s.begin (transport O) port w).2.1.binding = some b) :
    mail L (s.begin (transport O) port w).2.2.transport b.handle = [] := by
  obtain ⟨base, w₀, opened, cs, hready, hopening, hcalls, -, hsocket⟩ :=
    begin_spec (transport O) port s w
  obtain ⟨all, hevolves⟩ := begin_evolves (transport O) s w port
  have hopened : opened = .ok b := by
    rw [hsocket] at hb
    cases opened with
    | ok b' => exact congrArg Except.ok (Option.some.inj hb)
    | error e => cases hb
  subst hopened
  cases hready with
  | unbound => exact opening_mail hs hopening (hevolves.calls_unique hcalls).replays
  | @stopped b' =>
    obtain ⟨-, closed, hclose⟩ := giveBack_spec (transport O) b' (w.emit (.rebinding b'.port port))
    rw [World.calls_emit] at hclose
    rw [hclose, List.append_assoc] at hcalls
    obtain ⟨between, hfirst, hsecond⟩ := (hevolves.calls_unique hcalls).replays.of_append
    exact opening_mail (follows_of_replays hs hfirst).sound hopening hsecond

theorem mail_of_timesOut (hs : Sound L.toLawful w.transport) (hb : s.binding = some b)
    (hh : Holds L.toLawful w.transport b.handle b.port)
    (ho : (Turn.of (transport O) s w .parsePacket).timesOut = true) :
    mail L w.transport b.handle = [] := by
  obtain ⟨cs, hparsing, hcalls, -⟩ := parsePacket_parsing (transport O) s w
  obtain ⟨made, hmade⟩ := parsePacket_evolves (transport O) s w
  have hreplays := (hmade.calls_unique hcalls).replays
  have hturn : (Turn.of (transport O) s w .parsePacket).calls = cs := Turn.calls_of hcalls
  rw [Turn.timesOut, hturn] at ho
  generalize (s.parsePacket (transport O) w).1 = answer, (s.parsePacket (transport O) w).2.1 = s'
    at hparsing
  cases hparsing with
  | notBound | pollFailed => cases ho
  | @timedOut b' hb' =>
    obtain rfl : b = b' := Option.some.inj (hb.symm.trans hb')
    cases hreplays with
    | cons htakes _ => exact mail_of_timedOut hs hh htakes rfl
  | @receiveFailed b' r written e hb' hr | @received b' r written claim source hb' hr =>
    cases r with
    | timedOut => exact absurd rfl hr
    | readable | errored => cases ho

end Socket

namespace Session

open Host

variable {past : List Call} {ss : Session (Host ω)} {i : Nat} {s : Socket} {b : Binding}

theorem begin_empties (h : InStep L.toLawful .localhost past ss) {port : UInt16}
    (hs : (ss.step (transport O) (.socket i (.begin port))).2.socket? i = some s)
    (hb : s.binding = some b) :
    mail L (ss.step (transport O) (.socket i (.begin port))).2.world.transport b.handle = [] := by
  cases hi : ss.socket? i with
  | none =>
    rw [step_socket_of_none hi, hi] at hs
    cases hs
  | some s₀ =>
    rw [step_socket hi] at hs ⊢
    rw [socket?_set hi, if_pos rfl] at hs
    obtain rfl := Option.some.inj hs
    exact Socket.begin_mail h.sound hb

theorem step_keeps_receiver {T : Transport (Host ω)} (hs : ss.socket? i = some s)
    (hb : s.binding = some b) {st : Step} (hends : st.ends i = false) :
    ∃ s', (ss.step T st).2.socket? i = some s' ∧ s'.binding = some b ∧
      s'.rx.capacity = s.rx.capacity := by
  obtain ⟨s', hs', hb'⟩ := step_keeps_binding (T := T) hs hb hends
  refine ⟨s', hs', hb', ?_⟩
  rcases socket?_step T hs st with hkept | rfl | ⟨op, rfl, hkept⟩
  · rw [Option.some.inj (hs'.symm.trans hkept)]
  · simp [Step.ends] at hends
  · rw [Option.some.inj (hs'.symm.trans hkept)]
    exact (Socket.perform_capacities T s ss.world op).2

/-- What a run does to the mailbox of a socket that stays bound: the datagrams taken from it and
those that wait at the end are those that waited before and those that have arrived. -/
theorem trades_run (h : InStep L.toLawful .localhost past ss) (hs : ss.socket? i = some s)
    (hb : s.binding = some b) {steps : List Step} (hraw : ∀ st ∈ steps, st.isRaw = false)
    (hends : steps.any (Step.ends i) = false) :
    ∃ taken s' past', mail L ss.world.transport b.handle ++
          arriving L.names b.port (ss.letters (transport O) steps) =
        taken ++ mail L (ss.run (transport O) steps).2.world.transport b.handle ∧
      (ss.turns (transport O) i steps).filterMap Turn.load? =
        taken.map (Packet.cut s.rx.capacity) ∧
      InStep L.toLawful .localhost past' (ss.run (transport O) steps).2 ∧
      (ss.run (transport O) steps).2.socket? i = some s' ∧ s'.binding = some b := by
  -- induction from the front: the rest of the run starts from what the first step leaves waiting
  induction steps generalizing ss s past with
  | nil => exact ⟨[], s, past, by rw [List.nil_append]; exact List.append_nil _, rfl, h, hs, hb⟩
  | cons st steps ih =>
    obtain ⟨hfirst, hrest⟩ : st.ends i = false ∧ steps.any (Step.ends i) = false := by
      simpa [List.any_cons] using hends
    have hnot : st.isRaw = false := hraw st (List.mem_cons_self ..)
    obtain ⟨one, hwaiting, hloaded⟩ := trades_step h hs hb hnot hfirst
    obtain ⟨s₁, hs₁, hb₁, hcapacity⟩ := step_keeps_receiver (T := transport O) hs hb hfirst
    have hstep := h.step st fun call k hst => by
      rw [hst] at hnot
      cases hnot
    obtain ⟨taken, s', past', hmail, hloads, hend⟩ :=
      ih hstep hs₁ hb₁ (fun st' hst' => hraw st' (List.mem_cons_of_mem st hst')) hrest
    refine ⟨one.toList ++ taken, s', past', ?_, ?_, hend⟩
    · calc
        mail L ss.world.transport b.handle ++
              arriving L.names b.port (ss.letters (transport O) (st :: steps)) =
            (mail L ss.world.transport b.handle ++
                arriving L.names b.port (ss.letter? (transport O) st).toList) ++
              arriving L.names b.port
                ((ss.step (transport O) st).2.letters (transport O) steps) := by
          rw [letters, arriving_append, List.append_assoc]
        _ = one.toList ++ (mail L (ss.step (transport O) st).2.world.transport b.handle ++
              arriving L.names b.port
                ((ss.step (transport O) st).2.letters (transport O) steps)) := by
          rw [hwaiting, List.append_assoc]
        _ = (one.toList ++ taken) ++
              mail L (ss.run (transport O) (st :: steps)).2.world.transport b.handle := by
          rw [hmail, ← List.append_assoc]
          rfl
    · have hhead : ((turn? (transport O) i ss st).toList).filterMap Turn.load? =
          (ss.load? (transport O) i st).toList := by
        rw [load?]
        cases turn? (transport O) i ss st with
        | none => rfl
        | some o => cases ho : o.load? <;> simp [ho]
      rw [turns, List.filterMap_append, hhead, hloaded, hloads, hcapacity, List.map_append]
      cases one <;> rfl

/-- Over the loopback interface, with no calls made past the sockets, what a socket loads while it
stays bound is, in this order and each once, a prefix of what has been posted to its port since it
was bound, cut to the capacity of its buffer and with the port of the sender; and when parsing a
packet runs out of time it has loaded all of that. Posted to its port is what was addressed to it at
the loopback address, where the machine has no other name. -/
theorem delivered_in_order (L : O.Loopback) (os : ω) (hvalid : L.Valid os)
    (tables : List SlotTable) (specs : List SocketSpec) (before during : List Step) (i : Nat)
    (port : UInt16) (hraw : ∀ st ∈ before ++ during, st.isRaw = false)
    (hkept : during.any (Step.ends i) = false) :
    let start : Session (Host ω) := ofTables { bindAddress := .localhost, os } tables specs
    let begun := (start.run (transport O) (before ++ [.socket i (.begin port)])).2
    let posted := begun.letters (transport O) during
    let loaded := (begun.turns (transport O) i during).filterMap Turn.load?
    ∀ s b, begun.socket? i = some s → s.binding = some b →
      let arrived := (arriving L.names b.port posted).map (Packet.cut s.config.rxCapacity.toNat)
      loaded <+: arrived ∧
        (∀ o, turn? (transport O) i (begun.run (transport O) during).2 (.socket i .parsePacket) =
          some o → o.timesOut = true → loaded = arrived) ∧
        ((∀ ip, L.names ip = true ↔ ip = .localhost) → arriving L.names b.port posted =
          (posted.filter fun l => l.target = ⟨.localhost, b.port⟩).map Letter.packet) := by
  intro start begun posted loaded s b hs hb arrived
  have hapart : start.KeepsApart (transport O) before := by
    intro front call after h hsplit
    have hcall := hraw (.raw call) (by rw [hsplit]; simp)
    cases hcall
  have hbegun : begun = ((start.run (transport O) before).2.step (transport O)
      (.socket i (.begin port))).2 := run_append ..
  have hstart : InStep L.toLawful .localhost [] start := .ofTables hvalid tables specs
  have hbefore := (hstart.run hapart).1
  have hstep := hbefore.step (.socket i (.begin port)) (fun _ _ hcall => by cases hcall)
  have hcapacity : s.rx.capacity = s.config.rxCapacity.toNat :=
    ((tracks_turns (transport O) i _ tables specs _).alive s hs).capacities.2
  have hempty : mail L begun.world.transport b.handle = [] := by
    rw [hbegun] at hs ⊢
    exact begin_empties hbefore hs hb
  rw [← hbegun] at hstep
  obtain ⟨taken, s', past, hmail, hloaded, hend, hs', hb'⟩ :=
    trades_run hstep hs hb (fun st hst => hraw st (List.mem_append_right _ hst)) hkept
  rw [hempty, List.nil_append] at hmail
  rw [hcapacity] at hloaded
  have harrived : arrived = loaded ++ (mail L (begun.run (transport O) during).2.world.transport
      b.handle).map (Packet.cut s.config.rxCapacity.toNat) := by
    change (arriving L.names b.port posted).map _ = _
    rw [hmail, List.map_append, ← hloaded]
  refine ⟨⟨_, harrived.symm⟩, ?_, fun hnames => arriving_of_names hnames b.port posted⟩
  intro o ho htimes
  rw [turn?_socket hs'] at ho
  obtain rfl := Option.some.inj ho
  rw [harrived, Socket.mail_of_timesOut hend.sound hb' (hend.holds i s' b hs' hb') htimes]
  exact (List.append_nil _).symm

def twoSockets : Session (Host Network) :=
  ofTables { bindAddress := .localhost, os := .loopback } [.ofCapacity 2]
    [{ table := 0, txCapacity := some 4, rxCapacity := some 2 },
      { table := 0, txCapacity := some 4, rxCapacity := some 2 }]

/-- The second socket sends three bytes, is bound anew and sends a packet without any; then the
first parses two packets. -/
def twoLetters : List Step :=
  [.socket 1 (.beginPacket ⟨.localhost, 7000⟩), .socket 1 (.write [1, 2, 3]), .socket 1 .endPacket,
    .socket 1 (.begin 9000), .socket 1 (.beginPacket ⟨.localhost, 7000⟩), .socket 1 .endPacket,
    .socket 0 .parsePacket, .socket 0 .parsePacket]

def receiverBound : Session (Host Network) :=
  (twoSockets.run (transport Network.os)
    ([.socket 1 (.begin 8000)] ++ [.socket 0 (.begin 7000)])).2

theorem delivered_in_order_rebound_sender :
    (receiverBound.turns (transport Network.os) 0 twoLetters).filterMap Turn.load? =
      [⟨[1, 2], ⟨.localhost, 8000⟩⟩, ⟨[], ⟨.localhost, 9000⟩⟩] := by
  have hreceiver : (receiverBound.socket? 0).map
      (fun s => (s.binding.map (·.port), s.config.rxCapacity.toNat)) = some (some 7000, 2) := by
    decide
  obtain ⟨s, hs, hsocket⟩ := Option.map_eq_some_iff.1 hreceiver
  obtain ⟨hbinding, hcapacity⟩ := Prod.mk.inj hsocket
  obtain ⟨b, hb, hport⟩ := Option.map_eq_some_iff.1 hbinding
  have hwaits : (turn? (transport Network.os) 0
      (receiverBound.run (transport Network.os) twoLetters).2 (.socket 0 .parsePacket)).map
        Turn.timesOut = some true := by decide
  obtain ⟨o, ho, htimes⟩ := Option.map_eq_some_iff.1 hwaits
  have harrived : (arriving Network.loopbackLaws.names 7000
      (receiverBound.letters (transport Network.os) twoLetters)).map (Packet.cut 2) =
        [⟨[1, 2], ⟨.localhost, 8000⟩⟩, ⟨[], ⟨.localhost, 9000⟩⟩] := by decide
  have hall := (delivered_in_order Network.loopbackLaws .loopback (Network.proper_empty true)
    [.ofCapacity 2] _ [.socket 1 (.begin 8000)] twoLetters 0 7000 (by decide) (by decide) s b hs
    hb).2.1 o ho htimes
  rw [hport, hcapacity] at hall
  exact hall.trans harrived

end Session
end Datagram
