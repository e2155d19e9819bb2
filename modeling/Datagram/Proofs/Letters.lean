import Datagram.Proofs.HostInStep
import Datagram.Proofs.Incoming
import Datagram.Proofs.Mailbox

/-!
# Letters between sockets

A letter is what a socket sends when it ends a packet: the bytes pending, from its own port to the
address given. A step of a session posts a letter at most, and loads at most one datagram into the
receive buffer of a socket. For as long as a socket stays bound, a step adds to what waits for it
the letter posted to its port, and takes away at the front what it loads of it; everything else that
sockets do leaves its mailbox alone.
-/

namespace Datagram

variable {σ ω : Type}

structure Letter where
  data : Bytes
  target : Endpoint
  sender : UInt16
deriving DecidableEq

def Letter.packet (l : Letter) : Packet := ⟨l.data, ⟨.localhost, l.sender⟩⟩

/-- What a buffer of the capacity holds of a datagram. -/
def Packet.cut (capacity : Nat) (p : Packet) : Packet := { p with data := p.data.take capacity }

/-- The datagrams that arrive at a port, of all letters posted. -/
def arriving (names : Ipv4 → Bool) (port : UInt16) (letters : List Letter) : List Packet :=
  (letters.filter fun l => names l.target.ip && l.target.port = port).map Letter.packet

theorem arriving_append (names : Ipv4 → Bool) (port : UInt16) (xs ys : List Letter) :
    arriving names port (xs ++ ys) = arriving names port xs ++ arriving names port ys := by
  rw [arriving, List.filter_append, List.map_append]
  rfl

namespace Turn

/-- The letter that a turn has posted, if it has sent the pending packet. -/
def letter? (o : Turn) : Option Letter :=
  match o.step, o.answer, o.before.localPort, o.before.destination with
  | .endPacket, .count (.ok _), some port, some target =>
    some ⟨o.before.tx.contents, target, port⟩
  | _, _, _, _ => none

/-- The datagram that a turn has loaded: what can be read of it, and its sender. -/
def load? (o : Turn) : Option Packet :=
  match o.arrival?, o.after.remote with
  | some _, some source => some ⟨o.after.rx.unread, source⟩
  | _, _ => none

variable {T : Transport σ} {s : Socket} {w : World σ} {st : SocketStep}

theorem letter?_eq_none (hst : st ≠ .endPacket) : (Turn.of T s w st).letter? = none := by
  unfold letter?
  split
  · rename_i hstep _ _ _
    exact absurd hstep hst
  · rfl

theorem letter?_of_error {e : Failure} (he : (s.endPacket T w).1 = .error e) :
    (Turn.of T s w .endPacket).letter? = none := by
  simp only [letter?, Turn.of, Socket.perform, he]

theorem letter?_of_ok {b : Binding} {target : Endpoint} {count : Nat}
    (hb : s.binding = some b) (hd : s.destination = some target)
    (hsent : (s.endPacket T w).1 = .ok count) :
    (Turn.of T s w .endPacket).letter? = some ⟨s.tx.contents, target, b.port⟩ := by
  have hport : s.localPort = some b.port := by rw [Socket.localPort, hb]; rfl
  simp only [letter?, Turn.of, Socket.perform, hsent, hport, hd]

theorem load?_eq_none (hst : st ≠ .parsePacket) : (Turn.of T s w st).load? = none := by
  rw [load?, arrival?_eq_none hst]

end Turn

namespace Session

variable (T : Transport σ)

/-- The letter that one step posts. -/
def letter? (ss : Session σ) : Step → Option Letter
  | .socket i st => (turn? T i ss (.socket i st)).bind Turn.letter?
  | _ => none

def letters (ss : Session σ) : List Step → List Letter
  | [] => []
  | st :: rest => (letter? T ss st).toList ++ letters (ss.step T st).2 rest

/-- The datagram that one step loads into the receive buffer of socket `i`. -/
def load? (i : Nat) (ss : Session σ) (st : Step) : Option Packet :=
  (turn? T i ss st).bind Turn.load?

variable {T} {ss : Session σ} {i j : Nat} {s : Socket}

theorem letter?_eq_none {st : Step} (hst : ∀ j, st ≠ .socket j .endPacket) :
    ss.letter? T st = none := by
  cases st with
  | socket j op =>
    cases hj : ss.socket? j with
    | none => simp only [letter?, turn?, if_true, hj, Option.map_none, Option.bind_none]
    | some s =>
      rw [letter?, turn?_socket hj, Option.bind_some]
      apply Turn.letter?_eq_none
      rintro rfl
      exact hst j rfl
  | _ => rfl

theorem load?_eq_none {st : Step} (hst : st ≠ .socket i .parsePacket) :
    ss.load? T i st = none := by
  cases st with
  | socket j op =>
    by_cases hji : j = i
    · subst j
      cases hs : ss.socket? i with
      | none => simp only [load?, turn?, if_true, hs, Option.map_none, Option.bind_none]
      | some s =>
        rw [load?, turn?_socket hs, Option.bind_some]
        apply Turn.load?_eq_none
        rintro rfl
        exact hst rfl
    · simp only [load?, turn?, if_neg hji, Option.bind_none]
  | _ => rfl

end Session

namespace Socket

open Host

variable {O : Os ω} {L : O.Loopback} {s : Socket} {w : World (Host ω)} {k : Handle}

theorem perform_spares (hsound : Sound L.toLawful w.transport)
    (hb : ∀ b, s.binding = some b → Holds L.toLawful w.transport b.handle b.port)
    (hother : ∀ b, s.binding = some b → b.handle ≠ k) (hk : k ∈ w.transport.handles)
    {st : SocketStep} (hst : st ≠ .endPacket) {cs : List Call}
    (hcalls : (s.perform (transport O) w st).2.2.calls = w.calls ++ cs) :
    ∀ c ∈ cs, c.spares k = true := by
  obtain ⟨all, hevolves, hover⟩ := perform_hands hsound hb st
  obtain rfl : all = cs := List.append_cancel_left (hevolves.calls.symm.trans hcalls)
  obtain ⟨made, hmade, hsides⟩ := perform_calls (transport O) s w st
  obtain rfl := List.append_cancel_left (hmade.symm.trans hcalls)
  intro c hc
  obtain ⟨hside, hlocal⟩ := hsides c hc
  cases c with
  | send => exact absurd (SocketStep.eq_endPacket hside.symm hlocal) hst
  | receive j capacity answer =>
    -- only parsing a packet receives, and it does so on the socket's own handle
    obtain rfl := SocketStep.eq_parsePacket hside.symm hlocal
    obtain ⟨cs, hparsing, hparsed, -⟩ := parsePacket_parsing (transport O) s w
    obtain rfl := List.append_cancel_left (hparsed.symm.trans hcalls)
    have hown : ∃ b, s.binding = some b ∧ b.handle = j := by
      generalize (s.parsePacket (transport O) w).1 = r, (s.parsePacket (transport O) w).2.1 = s'
        at hparsing
      cases hparsing with
      | notBound | pollFailed | timedOut => simp at hc
      | receiveFailed hb | received hb =>
        simp only [List.mem_cons, Call.receive.injEq, reduceCtorEq, List.not_mem_nil, or_false,
          false_or] at hc
        exact ⟨_, hb, hc.1.symm⟩
    obtain ⟨b, hb, rfl⟩ := hown
    exact decide_eq_true (hother b hb)
  | close j answer =>
    -- what is closed is the socket's own handle, or one that was not open before
    apply decide_eq_true
    rintro rfl
    rcases hover.closes _ hc j (decide_eq_true rfl) with ⟨b, hb, he⟩ | hnot
    · exact hother b hb he
    · exact hnot hk
  | create | bind | poll | localPort => rfl

end Socket

namespace Session

open Host

variable {O : Os ω} {L : O.Loopback} {past : List Call} {ss : Session (Host ω)} {i j : Nat}
  {s s' : Socket} {b : Binding}

/-- What a step does to the mailbox of a bound socket: it takes what it loads from the front, and
adds the letter that arrives. -/
def Trades (L : O.Loopback) (ss : Session (Host ω)) (i : Nat) (s : Socket) (b : Binding)
    (st : Step) : Prop :=
  ∃ taken : Option Packet,
    mail L ss.world.transport b.handle ++
          arriving L.names b.port (ss.letter? (transport O) st).toList =
        taken.toList ++ mail L (ss.step (transport O) st).2.world.transport b.handle ∧
      ss.load? (transport O) i st = taken.map (Packet.cut s.rx.capacity)

theorem trades_spared (h : InStep L.toLawful .localhost past ss) (hs : ss.socket? i = some s)
    (hb : s.binding = some b) {st : Step} (hraw : st.isRaw = false)
    (hcalls : ∀ c ∈ ss.madeBy (transport O) st, c.spares b.handle = true)
    (hletter : ss.letter? (transport O) st = none) (hload : ss.load? (transport O) i st = none) :
    Trades L ss i s b st := by
  have hkept := mail_of_replays h.sound (h.holds i s b hs hb)
    (step_evolves (transport O) ss hraw).replays hcalls
  refine ⟨none, ?_, hload⟩
  rw [hkept, hletter]
  exact List.append_nil _

theorem trades_endPacket (h : InStep L.toLawful .localhost past ss) (hs : ss.socket? i = some s)
    (hb : s.binding = some b) (j : Nat) : Trades L ss i s b (.socket j .endPacket) := by
  have hload : ss.load? (transport O) i (.socket j .endPacket) = none := load?_eq_none nofun
  have hraw : (Step.socket j .endPacket).isRaw = false := rfl
  have hreplays := (step_evolves (transport O) ss hraw).replays
  have hh := h.holds i s b hs hb
  cases hj : ss.socket? j with
  | none =>
    apply trades_spared h hs hb rfl _ _ hload
    · rw [madeBy_eq_nil rfl (by rw [step_socket_of_none hj])]
      exact List.forall_mem_nil _
    · simp only [letter?, turn?, if_true, hj, Option.map_none, Option.bind_none]
  | some s' =>
    obtain ⟨cs, hsending, hcalls, -⟩ := Socket.endPacket_sending (transport O) s' ss.world
    have hmade : ss.madeBy (transport O) (.socket j .endPacket) = cs := madeBy_socket hj hcalls
    have hletter : ss.letter? (transport O) (.socket j .endPacket) =
        (Turn.of (transport O) s' ss.world .endPacket).letter? := by
      rw [letter?, turn?_socket hj, Option.bind_some]
    rw [hmade] at hreplays
    generalize hanswer : (s'.endPacket (transport O) ss.world).1 = answer,
      (s'.endPacket (transport O) ss.world).2.1 = s'' at hsending
    refine ⟨none, ?_, hload⟩
    rw [hletter]
    cases hsending with
    | notBound | noDestination =>
      rw [hreplays.eq_of_nil, Turn.letter?_of_error hanswer]
      exact List.append_nil _
    | @failed b' target e hb' hd =>
      cases hreplays with
      | cons htakes hnil =>
        have hh' := h.holds j s' b' hj hb'
        rw [hnil.eq_of_nil, Turn.letter?_of_error hanswer,
          mail_send h.sound h.address hh hh' htakes]
        rfl
    | @sent b' target count hb' hd =>
      cases hreplays with
      | cons htakes hnil =>
        have hh' := h.holds j s' b' hj hb'
        have hposted : arriving L.names b.port [⟨s'.tx.contents, target, b'.port⟩] =
            if L.names target.ip && target.port = b.port then
              [⟨s'.tx.contents, ⟨.localhost, b'.port⟩⟩] else [] := by
          rw [arriving, List.filter_cons]
          split <;> rfl
        rw [hnil.eq_of_nil, Turn.letter?_of_ok hb' hd hanswer, Option.toList_some, hposted,
          mail_send h.sound h.address hh hh' htakes]
        rfl

theorem trades_parsePacket (h : InStep L.toLawful .localhost past ss)
    (hs : ss.socket? i = some s) (hb : s.binding = some b) :
    Trades L ss i s b (.socket i .parsePacket) := by
  have hletter : ss.letter? (transport O) (.socket i .parsePacket) = none := letter?_eq_none nofun
  have hraw : (Step.socket i .parsePacket).isRaw = false := rfl
  have hreplays := (step_evolves (transport O) ss hraw).replays
  have hh := h.holds i s b hs hb
  obtain ⟨cs, hparsing, hcalls, -⟩ := Socket.parsePacket_parsing (transport O) s ss.world
  have hmade : ss.madeBy (transport O) (.socket i .parsePacket) = cs := madeBy_socket hs hcalls
  have hturn : (Turn.of (transport O) s ss.world .parsePacket).calls = cs := Turn.calls_of hcalls
  have hload : ss.load? (transport O) i (.socket i .parsePacket) =
      (Turn.of (transport O) s ss.world .parsePacket).load? := by
    rw [load?, turn?_socket hs, Option.bind_some]
  have hafter : (Turn.of (transport O) s ss.world .parsePacket).after =
      (s.parsePacket (transport O) ss.world).2.1 := rfl
  rw [hmade] at hreplays
  generalize (s.parsePacket (transport O) ss.world).1 = answer,
    (s.parsePacket (transport O) ss.world).2.1 = s' at hparsing hafter
  -- polling leaves handle and mailbox as they were for the receive that follows
  have hpolled {c : Call} {es : List Event} {t : Host ω}
      (htakes : (transport O).Takes ss.world.transport c es t) (hc : c.spares b.handle = true) :
      Sound L.toLawful t ∧ Holds L.toLawful t b.handle b.port ∧
        mail L t b.handle = mail L ss.world.transport b.handle := by
    have hshift := shift_of_takes L.toLawful h.sound.valid htakes
    exact ⟨h.sound.shift hshift, hh.keep h.sound hshift (Call.closes_of_spares hc),
      mail_spared h.sound hh htakes hc⟩
  unfold Trades
  rw [hletter, hload, Turn.load?, Turn.arrival?, hturn, hafter]
  cases hparsing with
  | notBound hnone => exact absurd hnone (Socket.not_unbound hb)
  | pollFailed | timedOut =>
    cases hreplays with
    | cons htakes hnil =>
      refine ⟨none, ?_, rfl⟩
      rw [hnil.eq_of_nil, (hpolled htakes rfl).2.2]
      exact List.append_nil _
  | @receiveFailed b' r written e hb' hr =>
    obtain rfl : b = b' := Option.some.inj (hb.symm.trans hb')
    cases hreplays with
    | cons hpoll hrest =>
    cases hrest with
    | cons htakes hnil =>
    obtain ⟨hsound, hheld, hmail⟩ := hpolled hpoll rfl
    rcases mail_receive hsound hheld htakes with ⟨-, hkept⟩ | ⟨packet, -, hgot⟩
    · refine ⟨none, ?_, rfl⟩
      rw [hnil.eq_of_nil, hkept, hmail]
      exact List.append_nil _
    · simp at hgot
  | @received b' r written claim source hb' hr =>
    obtain rfl : b = b' := Option.some.inj (hb.symm.trans hb')
    cases hreplays with
    | cons hpoll hrest =>
    cases hrest with
    | cons htakes hnil =>
    obtain ⟨hsound, hheld, hmail⟩ := hpolled hpoll rfl
    rcases mail_receive hsound hheld htakes with ⟨⟨e, he⟩, -⟩ | ⟨packet, hfront, hgot⟩
    · cases he
    · injection hgot with hwritten houtcome
      injection houtcome with hclaim
      obtain ⟨rfl, rfl⟩ := Prod.mk.inj hclaim
      have hfits : written.length ≤ s.rx.capacity := by
        rw [hwritten, List.length_take]
        exact Nat.min_le_left ..
      rw [← hwritten]
      refine ⟨some packet, ?_, ?_⟩
      · rw [hnil.eq_of_nil, ← hmail, hfront]
        exact List.append_nil _
      · change some (⟨((s.rx.fill written).load written.length).unread, packet.source⟩ : Packet) =
          some (packet.cut s.rx.capacity)
        rw [s.rx.unread_load_written hfits, hwritten]
        rfl

theorem others_spare (h : InStep L.toLawful .localhost past ss) (hs : ss.socket? i = some s)
    (hb : s.binding = some b) (hj : ss.socket? j = some s') (hij : i ≠ j) {op : SocketStep}
    (hop : op ≠ .endPacket) {cs : List Call}
    (hcalls : (s'.perform (transport O) ss.world op).2.2.calls = ss.world.calls ++ cs) :
    ∀ c ∈ cs, c.spares b.handle = true := by
  have hmember := h.mem_handles_of_held (held_of_bound hs hb)
  apply Socket.perform_spares h.sound (h.holds j s' · hj) _ hmember hop hcalls
  intro b' hb'
  apply gather_ne h.held_nodup hj hs (Ne.symm hij)
  · rw [Socket.handle?, hb']; rfl
  · rw [Socket.handle?, hb]; rfl

theorem trades_step (h : InStep L.toLawful .localhost past ss) (hs : ss.socket? i = some s)
    (hb : s.binding = some b) {st : Step} (hraw : st.isRaw = false) (hends : st.ends i = false) :
    Trades L ss i s b st := by
  have hquiet (hletter : ss.letter? (transport O) st = none)
      (hload : ss.load? (transport O) i st = none)
      (hcalls : (ss.step (transport O) st).2.world.calls = ss.world.calls) :
      Trades L ss i s b st := by
    apply trades_spared h hs hb hraw _ hletter hload
    rw [madeBy_eq_nil hraw hcalls]
    exact List.forall_mem_nil _
  cases st with
  | socket j op =>
    by_cases hop : op = .endPacket
    · subst op
      exact trades_endPacket h hs hb j
    by_cases hparse : Step.socket j op = .socket i .parsePacket
    · rw [hparse]
      exact trades_parsePacket h hs hb
    have hletter : ss.letter? (transport O) (.socket j op) = none := by
      apply letter?_eq_none
      rintro k hk
      cases hk
      exact hop rfl
    have hload : ss.load? (transport O) i (.socket j op) = none := load?_eq_none hparse
    cases hj : ss.socket? j with
    | none =>
      apply hquiet hletter hload
      rw [step_socket_of_none hj]
    | some s' =>
      by_cases hij : i = j
      -- the socket itself: what is left to it without giving up its binding makes no call
      · subst j
        have hlocal : op.isLocal = true := by
          cases op with
          | begin port | stop => simp [Step.ends] at hends
          | endPacket => exact absurd rfl hop
          | parsePacket => exact absurd rfl hparse
          | _ => rfl
        apply hquiet hletter hload
        rw [step_socket hj]
        exact (Socket.perform_local (transport O) s' ss.world hlocal).1
      · obtain ⟨cs, hcalls, -⟩ := Socket.perform_calls (transport O) s' ss.world op
        apply trades_spared h hs hb hraw _ hletter hload
        rw [madeBy_socket hj hcalls]
        exact others_spare h hs hb hj hij hop hcalls
  | drop j =>
    have hij : i ≠ j := by
      rintro rfl
      simp [Step.ends] at hends
    cases hj : ss.socket? j with
    | none =>
      apply hquiet rfl rfl
      rw [step_drop_of_none hj]
    | some s' =>
      obtain ⟨cs, hcalls, -⟩ := Socket.perform_calls (transport O) s' ss.world .stop
      apply trades_spared h hs hb hraw _ rfl rfl
      rw [madeBy_drop hj hcalls]
      refine others_spare h hs hb hj hij ?_ hcalls
      exact nofun
  | raw call => cases hraw
  | construct spec => exact hquiet rfl rfl rfl
  | _ => exact hquiet rfl rfl (step_calls_of_quiet rfl rfl)

end Session
end Datagram
