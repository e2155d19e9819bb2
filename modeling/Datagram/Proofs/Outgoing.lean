import Datagram.Proofs.Capacities

/-!
# The outgoing packet

What is pending in a bound socket is a function of the turns behind it: the first bytes, as many as
the transmit buffer holds, of all that was written since the packet was last started anew, addressed
to the destination given last within the current binding. A packet is started anew by binding, by
beginning a packet and by sending one, each if it succeeds.
-/

namespace Datagram

variable {σ : Type}

namespace Turn

def data (o : Turn) : Bytes :=
  match o.step with
  | .write bytes => bytes
  | _ => []

def binds (o : Turn) : Bool :=
  match o.step, o.answer with
  | .begin _, .unit (.ok _) => true
  | _, _ => false

/-- The address recorded by a turn that begins a packet. -/
def target? (o : Turn) : Option Endpoint :=
  match o.step, o.answer with
  | .beginPacket d, .unit (.ok _) => some d
  | .beginReply, .unit (.ok _) => some ⟨o.before.remoteIp, o.before.remotePort⟩
  | .beginPacketToHost host port lookup, .asked (.ok _) _ =>
    ((lookup.askWith host []).answer.toOption).map fun ip => ⟨ip, port⟩
  | _, _ => none

/-- Whether the turn starts the outgoing packet anew. -/
def restarts (o : Turn) : Bool :=
  match o.step, o.answer with
  | .begin _, .unit (.ok _) | .beginPacket _, .unit (.ok _) | .beginReply, .unit (.ok _)
  | .beginPacketToHost .., .asked (.ok _) _ | .endPacket, .count (.ok _) => true
  | _, _ => false

theorem restarts_of_binds {o : Turn} (h : o.binds = true) : o.restarts = true := by
  unfold binds at h
  unfold restarts
  split at h
  · rename_i hstep hanswer
    rw [hstep, hanswer]
  · cases h

theorem restarts_of_target? {o : Turn} {d : Endpoint} (h : o.target? = some d) :
    o.restarts = true := by
  unfold target? at h
  unfold restarts
  split at h
  · rename_i hstep hanswer
    rw [hstep, hanswer]
  · rename_i hstep hanswer
    rw [hstep, hanswer]
  · rename_i hstep hanswer
    rw [hstep, hanswer]
  · cases h

end Turn

/-- All bytes given to writes since the outgoing packet was last started anew. -/
def written (past : List Turn) : Bytes := (afterLast Turn.restarts past).flatMap Turn.data

/-- The address recorded last since the socket was last bound. -/
def destinationOf (past : List Turn) : Option Endpoint :=
  latest? Turn.target? (afterLast Turn.binds past)

theorem written_snoc (past : List Turn) (o : Turn) :
    written (past ++ [o]) = if o.restarts then [] else written past ++ o.data := by
  rw [written, afterLast_snoc]
  split
  · rfl
  · rw [List.flatMap_append, List.flatMap_singleton, written]

theorem destinationOf_snoc (past : List Turn) (o : Turn) :
    destinationOf (past ++ [o]) = if o.binds then none else o.target?.or (destinationOf past) := by
  rw [destinationOf, afterLast_snoc]
  split
  · rfl
  · rw [latest?_snoc, destinationOf]

/-- The outgoing packet of a socket is the one that the turns behind it have made. -/
structure Outgoing (past : List Turn) (s : Socket) : Prop where
  fits : s.tx.len ≤ s.tx.capacity
  unbound : s.binding = none → s.tx.contents = [] ∧ s.destination = none
  bound : ∀ b, s.binding = some b → s.tx.contents = (written past).take s.tx.capacity ∧
    s.destination = destinationOf past

namespace Outgoing

variable {past : List Turn} {s s' : Socket} {o : Turn}

theorem fresh (table : Nat) (config : Config) : Outgoing [] (.ofConfig table config) where
  fits := Nat.zero_le _
  unbound _ := ⟨rfl, rfl⟩
  bound _ hb := nomatch hb

/-- Turns that neither write, nor address, nor start anew leave the packet as it is. -/
theorem keep (h : Outgoing past s) (hrestarts : o.restarts = false) (hdata : o.data = [])
    (htx : s'.tx = s.tx) (hdestination : s'.destination = s.destination)
    (hbinding : s'.binding = s.binding) : Outgoing (past ++ [o]) s' := by
  have hquiet : o.binds = false ∧ o.target? = none := by
    constructor
    · cases hbinds : o.binds with
      | false => rfl
      | true => rw [Turn.restarts_of_binds hbinds] at hrestarts; cases hrestarts
    · cases htarget : o.target? with
      | none => rfl
      | some d => rw [Turn.restarts_of_target? htarget] at hrestarts; cases hrestarts
  refine ⟨?_, ?_, ?_⟩
  · rw [htx]
    exact h.fits
  · rw [htx, hdestination, hbinding]
    exact h.unbound
  · rw [htx, hdestination, hbinding, written_snoc, destinationOf_snoc, hrestarts, hdata,
      hquiet.1, hquiet.2, List.append_nil]
    exact h.bound

theorem releases (past : List Turn) (s : Socket) : Outgoing past s.released where
  fits := Nat.zero_le _
  unbound _ := ⟨rfl, rfl⟩
  bound _ hb := nomatch hb

/-- Beginning a packet empties the buffer and records the address. -/
theorem address {d : Endpoint} (htarget : o.target? = some d) (hbinds : o.binds = false)
    (past : List Turn) {s : Socket} {b : Binding} (hb : s.binding = some b) :
    Outgoing (past ++ [o]) { s with destination := some d, tx := s.tx.clear } where
  fits := Nat.zero_le _
  unbound hnone := absurd hnone (Socket.not_unbound hb)
  bound _ _ := by
    rw [written_snoc, destinationOf_snoc, Turn.restarts_of_target? htarget, hbinds, htarget]
    exact ⟨List.take_nil.symm, rfl⟩

/-- Beginning a packet does nothing to an unbound socket, and otherwise addresses a new packet. -/
theorem beginPacket (h : Outgoing past s) (d : Endpoint) (hdata : o.data = [])
    (hbinds : o.binds = false) (hfails : s.binding = none → o.restarts = false)
    (htarget : ∀ b, s.binding = some b → o.target? = some d) :
    Outgoing (past ++ [o]) (s.beginPacket d).2 := by
  rcases s.binding.eq_none_or_eq_some with hb | ⟨b, hb⟩
  · rw [Socket.beginPacket_of_unbound hb]
    exact h.keep (hfails hb) hdata rfl rfl rfl
  · rw [Socket.beginPacket_of_bound hb]
    exact address (htarget b hb) hbinds past hb

variable {T : Transport σ}

theorem begin_turn (h : Outgoing past s) (w : World σ) (port : UInt16) :
    Outgoing (past ++ [Turn.of T s w (.begin port)]) (s.begin T port w).2.1 := by
  obtain ⟨base, w₀, opened, cs, hready, -, -, hanswer, hs⟩ := Socket.begin_spec T port s w
  have hempty : base.tx.contents = [] ∧ base.destination = none ∧
      base.tx.len ≤ base.tx.capacity := by
    cases hready with
    | unbound hb => exact ⟨(h.unbound hb).1, (h.unbound hb).2, h.fits⟩
    | stopped => exact ⟨rfl, rfl, Nat.zero_le _⟩
  obtain ⟨hcontents, hdestination, hfits⟩ := hempty
  rw [hs]
  cases opened with
  | error e =>
    refine ⟨hfits, fun _ => ⟨hcontents, hdestination⟩, ?_⟩
    intro b hb
    cases hb
  | ok b =>
    have hbinds : (Turn.of T s w (.begin port)).binds = true := by
      simp only [Turn.binds, Turn.of, Socket.perform, hanswer, Except.map]
    refine ⟨hfits, ?_, ?_⟩
    · intro hb
      cases hb
    · intro _ _
      rw [written_snoc, destinationOf_snoc, Turn.restarts_of_binds hbinds, hbinds]
      exact ⟨hcontents.trans List.take_nil.symm, hdestination⟩

theorem beginPacketToHost_turn (h : Outgoing past s) (w : World σ) (host : String) (port : UInt16)
    (lookup : Lookup) :
    Outgoing (past ++ [Turn.of T s w (.beginPacketToHost host port lookup)])
      (s.beginPacketToHost lookup.askWith host port w []).2.1 := by
  rcases s.binding.eq_none_or_eq_some with hb | ⟨b, hb⟩
  · have hsame := Socket.beginPacketToHost_of_unbound w lookup.askWith host port [] hb
    rw [hsame]
    refine h.keep ?_ rfl rfl rfl rfl
    simp only [Turn.restarts, Turn.of, Socket.perform, hsame]
  · rcases Socket.beginPacketToHost_of_bound w lookup.askWith host port [] hb with
      ⟨e, -, hanswer, hs⟩ | ⟨ip, hip, hanswer, hs⟩
    · rw [hs]
      refine h.keep ?_ rfl rfl rfl rfl
      simp only [Turn.restarts, Turn.of, Socket.perform, hanswer]
    · rw [hs]
      refine address ?_ rfl past hb
      simp only [Turn.target?, Turn.of, Socket.perform, hanswer, hip]
      rfl

theorem write_turn (h : Outgoing past s) (w : World σ) (bytes : Bytes) :
    Outgoing (past ++ [Turn.of T s w (.write bytes)]) (s.write bytes w).2.1 := by
  have hdata : (Turn.of T s w (.write bytes)).data = bytes := rfl
  have hrestarts : (Turn.of T s w (.write bytes)).restarts = false := rfl
  rcases s.binding.eq_none_or_eq_some with hb | ⟨b, hb⟩
  · rw [Socket.write_of_unbound w hb]
    exact ⟨h.fits, h.unbound, fun _ hbound => absurd hb (Socket.not_unbound hbound)⟩
  · obtain ⟨hcontents, hdestination⟩ := h.bound b hb
    rw [(Socket.write_of_bound w hb bytes).2]
    refine ⟨?_, fun hnone => absurd hnone (Socket.not_unbound hb), ?_⟩
    · rw [TransmitBuffer.capacity_append]
      exact TransmitBuffer.len_append_le h.fits bytes
    · intro _ _
      rw [written_snoc, destinationOf_snoc, hrestarts, hdata, TransmitBuffer.capacity_append,
        TransmitBuffer.contents_append h.fits, hcontents]
      refine ⟨?_, hdestination⟩
      change ((written past).take s.tx.capacity ++ bytes).take s.tx.capacity =
        (written past ++ bytes).take s.tx.capacity
      rw [List.take_append, List.take_append, List.take_take, Nat.min_self, List.length_take]
      congr 2
      omega

theorem endPacket_turn (h : Outgoing past s) (w : World σ) :
    Outgoing (past ++ [Turn.of T s w .endPacket]) (s.endPacket T w).2.1 := by
  obtain ⟨answer, hanswer, hsending⟩ := Turn.sending_of T s w
  have hstep : (Turn.of T s w .endPacket).step = .endPacket := rfl
  change Outgoing _ (Turn.of T s w .endPacket).after
  generalize Turn.of T s w .endPacket = o at *
  generalize o.after = s', o.calls = cs at hsending
  have hkeep {e : Failure} (he : answer = .error e) : Outgoing (past ++ [o]) s := by
    refine h.keep ?_ ?_ rfl rfl rfl
    · simp only [Turn.restarts, hstep, hanswer, he]
    · simp only [Turn.data, hstep]
  cases hsending with
  | notBound | noDestination | failed => exact hkeep rfl
  | @sent b target count hb hd =>
    refine ⟨Nat.zero_le _, fun hnone => absurd hnone (Socket.not_unbound hb), ?_⟩
    · intro _ _
      have hrestarts : o.restarts = true := by simp only [Turn.restarts, hstep, hanswer]
      have hquiet : o.binds = false ∧ o.target? = none := by
        simp only [Turn.binds, Turn.target?, hstep, and_self]
      rw [written_snoc, destinationOf_snoc, hrestarts, hquiet.1, hquiet.2]
      exact ⟨List.take_nil.symm, (h.bound b hb).2⟩

theorem quiet_turn (h : Outgoing past s) (w : World σ) {st : SocketStep}
    (hside : st.side = .receiving ∨ st.side = .asking) :
    Outgoing (past ++ [Turn.of T s w st]) (s.perform T w st).2.1 := by
  have hsame : (s.perform T w st).2.1.tx = s.tx ∧
      (s.perform T w st).2.1.destination = s.destination ∧
      (s.perform T w st).2.1.binding = s.binding := by
    rcases hside with hside | hside
    · obtain ⟨rx, remote, hs⟩ := Socket.perform_receiving T s w hside
      rw [hs]
      exact ⟨rfl, rfl, rfl⟩
    · rw [Socket.perform_asking T s w hside]
      exact ⟨rfl, rfl, rfl⟩
  have hquiet : (Turn.of T s w st).restarts = false ∧ (Turn.of T s w st).data = [] := by
    cases st with
    | begin | stop | beginPacket | beginReply | beginPacketToHost | write | endPacket =>
      rcases hside with hside | hside <;> cases hside
    | _ => exact ⟨rfl, rfl⟩
  exact h.keep hquiet.1 hquiet.2 hsame.1 hsame.2.1 hsame.2.2

/-- Every turn leaves the outgoing packet as the turns up to it have made it. -/
theorem turn (h : Outgoing past s) (w : World σ) (st : SocketStep) :
    Outgoing (past ++ [Turn.of T s w st]) (s.perform T w st).2.1 := by
  cases st with
  | begin port => exact h.begin_turn w port
  | stop =>
    change Outgoing _ (s.stop T w).1
    rw [Socket.stop_released]
    exact releases _ s
  | beginPacket d =>
    refine h.beginPacket d rfl rfl ?_ ?_
    · intro hb
      simp only [Turn.restarts, Turn.of, Socket.perform, Socket.beginPacket_of_unbound hb]
    · intro b hb
      simp only [Turn.target?, Turn.of, Socket.perform, Socket.beginPacket_of_bound hb]
  | beginReply =>
    refine h.beginPacket ⟨s.remoteIp, s.remotePort⟩ rfl rfl ?_ ?_
    · intro hb
      simp only [Turn.restarts, Turn.of, Socket.perform, Socket.beginReply,
        Socket.beginPacket_of_unbound hb]
    · intro b hb
      simp only [Turn.target?, Turn.of, Socket.perform, Socket.beginReply,
        Socket.beginPacket_of_bound hb]
  | beginPacketToHost host port lookup => exact h.beginPacketToHost_turn w host port lookup
  | write bytes => exact h.write_turn w bytes
  | endPacket => exact h.endPacket_turn w
  | flush | parsePacket | readByte | read _ | readExact _ | readToEnd | readToString =>
    exact h.quiet_turn w (.inl rfl)
  | config | describe => exact h.quiet_turn w (.inr rfl)

end Outgoing

theorem Lives.outgoing {T : Transport σ} {past : List Turn} {s : Socket} (h : Lives T past s) :
    Outgoing past s := by
  induction h with
  | fresh table config => exact .fresh table config
  | turn w st _ ih => exact ih.turn w st

end Datagram
