import Datagram.Proofs.Capacities

/-!
# The received packet

The receive buffer of a socket is a function of the turns behind it. A turn may clear the buffer,
and a turn that receives a datagram copies the front of it over the front of the storage; the length
that the transport claims decides how much of the storage is readable. So each byte of the storage
is that of the latest datagram which reached it since the buffer was last cleared, or zero. The
remembered sender is that of the last datagram received, which nothing clears.
-/

namespace Datagram

variable {σ : Type}

/-- A datagram that was received: the bytes copied into the buffer, the length claimed and the
sender. -/
structure Arrival where
  copied : Bytes
  claim : Nat
  source : Endpoint

namespace Call

def arrival? : Call → Option Arrival
  | receive _ capacity ⟨written, .ok (claim, source)⟩ => some ⟨written.take capacity, claim, source⟩
  | _ => none

def failsToReceive : Call → Bool
  | receive _ _ ⟨_, .error _⟩ => true
  | _ => false

theorem side_of_arrival? {c : Call} {a : Arrival} (h : c.arrival? = some a) :
    c.side = .receiving := by
  cases c with
  | receive => rfl
  | _ => cases h

end Call

namespace Turn

def arrival? (o : Turn) : Option Arrival := o.calls.findSome? Call.arrival?

/-- Whether a turn has polled in vain. -/
def timesOut (o : Turn) : Bool :=
  o.calls.any fun c =>
    match c with
    | .poll _ _ (.ok .timedOut) => true
    | _ => false

def sender? (o : Turn) : Option Endpoint := o.arrival?.map (·.source)

/-- The byte at a place of the buffer that the turn has copied there. -/
def byte? (i : Nat) (o : Turn) : Option UInt8 := o.arrival?.bind (·.copied[i]?)

/-- Whether the turn clears the receive buffer: flushing, stopping, binding anew, and receiving in
vain. -/
def clears (o : Turn) : Bool :=
  match o.step with
  | .flush | .stop => true
  | .begin _ => o.before.isBound
  | .parsePacket => o.calls.any Call.failsToReceive
  | _ => false

/-- Only parsing a packet receives a datagram. -/
theorem arrival?_eq_none {T : Transport σ} {s : Socket} {w : World σ} {st : SocketStep}
    (hst : st ≠ .parsePacket) : (Turn.of T s w st).arrival? = none := by
  rw [arrival?, List.findSome?_eq_none_iff]
  intro c hc
  obtain ⟨hside, hlocal⟩ := calls_side T s w st c hc
  cases ha : c.arrival? with
  | none => rfl
  | some a =>
    rw [Call.side_of_arrival? ha] at hside
    exact absurd (SocketStep.eq_parsePacket hside.symm hlocal) hst

end Turn

/-- The byte at a place of the buffer: that of the latest datagram that reached the place since the
buffer was last cleared, or zero. -/
def image (past : List Turn) (i : Nat) : UInt8 :=
  (latest? (Turn.byte? i) (afterLast Turn.clears past)).getD 0

theorem image_snoc (past : List Turn) (o : Turn) (i : Nat) :
    image (past ++ [o]) i = if o.clears then 0 else (o.byte? i).getD (image past i) := by
  rw [image, afterLast_snoc]
  split
  · rfl
  · rw [latest?_snoc, image]
    cases o.byte? i <;> rfl

/-- The receive side of a socket is what the turns behind it have made of it. -/
structure Incoming (past : List Turn) (s : Socket) : Prop where
  fits : s.rx.len ≤ s.rx.capacity
  remote : s.remote = latest? Turn.sender? past
  storage : ∀ i < s.rx.capacity, s.rx.storage[i]? = some (image past i)

namespace Incoming

variable {past : List Turn} {s s' : Socket} {o : Turn}

theorem fresh (table : Nat) (config : Config) : Incoming [] (.ofConfig table config) where
  fits := Nat.zero_le _
  remote := rfl
  storage i hi := by
    change i < (ReceiveBuffer.ofCapacity _).capacity at hi
    rw [ReceiveBuffer.capacity_ofCapacity] at hi
    exact List.getElem?_replicate_of_lt hi

theorem remote_snoc (h : Incoming past s) (hnone : o.arrival? = none) :
    s.remote = latest? Turn.sender? (past ++ [o]) := by
  rw [latest?_snoc, Turn.sender?, hnone]
  exact h.remote

/-- Reading, and whatever does not concern the receive side, moves at most the cursor. -/
theorem keep (h : Incoming past s) (hnone : o.arrival? = none) (hclears : o.clears = false)
    (hrx : s.rx.Advances s'.rx) (hremote : s'.remote = s.remote) : Incoming (past ++ [o]) s' := by
  obtain ⟨cursor, hrx⟩ := hrx
  refine ⟨?_, ?_, ?_⟩
  · rw [hrx]
    exact h.fits
  · rw [hremote]
    exact h.remote_snoc hnone
  · intro i hi
    rw [hrx] at hi ⊢
    rw [image_snoc, hclears, Turn.byte?, hnone]
    exact h.storage i hi

theorem clear (h : Incoming past s) (hnone : o.arrival? = none) (hclears : o.clears = true)
    (hrx : s'.rx = s.rx.clear) (hremote : s'.remote = s.remote) : Incoming (past ++ [o]) s' := by
  refine ⟨?_, ?_, ?_⟩
  · rw [hrx]
    exact Nat.zero_le _
  · rw [hremote]
    exact h.remote_snoc hnone
  · intro i hi
    rw [hrx, ReceiveBuffer.capacity_clear] at hi
    rw [hrx, image_snoc, hclears]
    exact s.rx.getElem?_clear hi

/-- A datagram covers the front of the storage with its own bytes and leaves the rest. -/
theorem arrive (h : Incoming past s) {written : Bytes} {claim : Nat} {source : Endpoint}
    (harrival : o.arrival? = some ⟨written.take s.rx.capacity, claim, source⟩)
    (hclears : o.clears = false) (hrx : s'.rx = (s.rx.fill written).load claim)
    (hremote : s'.remote = some source) : Incoming (past ++ [o]) s' := by
  refine ⟨?_, ?_, ?_⟩
  · rw [hrx]
    exact Nat.min_le_right ..
  · rw [hremote, latest?_snoc, Turn.sender?, harrival]
    rfl
  · intro i hi
    rw [hrx, ReceiveBuffer.capacity_load, ReceiveBuffer.capacity_fill] at hi
    have hstorage : s'.rx.storage[i]? = (s.rx.fill written).storage[i]? := by
      rw [hrx]
      rfl
    have hbyte : o.byte? i = (written.take s.rx.capacity)[i]? := by
      rw [Turn.byte?, harrival]
      rfl
    rw [hstorage, ReceiveBuffer.getElem?_fill, image_snoc, hclears, hbyte]
    by_cases hcopied : i < (written.take s.rx.capacity).length
    · rw [if_pos hcopied, List.getElem?_eq_getElem hcopied]
      rfl
    · rw [if_neg hcopied, List.getElem?_eq_none (Nat.le_of_not_lt hcopied)]
      exact h.storage i hi

variable {T : Transport σ}

theorem parsePacket_turn (h : Incoming past s) (w : World σ) :
    Incoming (past ++ [Turn.of T s w .parsePacket]) (s.parsePacket T w).2.1 := by
  obtain ⟨answer, -, hparsing⟩ := Turn.parsing_of T s w
  have harrival : (Turn.of T s w .parsePacket).arrival? =
      (Turn.of T s w .parsePacket).calls.findSome? Call.arrival? := rfl
  have hclears : (Turn.of T s w .parsePacket).clears =
      (Turn.of T s w .parsePacket).calls.any Call.failsToReceive := rfl
  change Incoming _ (Turn.of T s w .parsePacket).after
  generalize Turn.of T s w .parsePacket = o at *
  generalize o.after = s', o.calls = cs at *
  cases hparsing with
  | notBound | pollFailed | timedOut => exact h.keep harrival hclears (.refl s.rx) rfl
  | receiveFailed => exact h.clear harrival hclears rfl rfl
  | received => exact h.arrive harrival hclears rfl rfl

theorem begin_turn (h : Incoming past s) (w : World σ) (port : UInt16) :
    Incoming (past ++ [Turn.of T s w (.begin port)]) (s.begin T port w).2.1 := by
  obtain ⟨base, w₀, opened, cs, hready, -, -, -, hs⟩ := Socket.begin_spec T port s w
  have hnone : (Turn.of T s w (.begin port)).arrival? = none := Turn.arrival?_eq_none nofun
  have hclears : (Turn.of T s w (.begin port)).clears = s.isBound := rfl
  rw [hs]
  cases hready with
  | unbound hb =>
    rw [Socket.isBound_of_unbound hb] at hclears
    exact h.keep hnone hclears (.refl s.rx) rfl
  | stopped hb =>
    rw [Socket.isBound_of_binding hb] at hclears
    exact h.clear hnone hclears rfl rfl

theorem sending_turn (h : Incoming past s) (w : World σ) {st : SocketStep}
    (hside : st.side = .sending) :
    Incoming (past ++ [Turn.of T s w st]) (s.perform T w st).2.1 := by
  have hnone : (Turn.of T s w st).arrival? = none := by
    apply Turn.arrival?_eq_none
    intro hst
    rw [hst] at hside
    cases hside
  have hclears : (Turn.of T s w st).clears = false := by
    cases st with
    | beginPacket | beginReply | beginPacketToHost | write | endPacket => rfl
    | _ => cases hside
  obtain ⟨tx, destination, hs⟩ := Socket.perform_sending T s w hside
  rw [hs]
  exact h.keep hnone hclears (.refl s.rx) rfl

/-- Every turn leaves the receive side as the turns up to it have made it. -/
theorem turn (h : Incoming past s) (w : World σ) (st : SocketStep) :
    Incoming (past ++ [Turn.of T s w st]) (s.perform T w st).2.1 := by
  cases st with
  | begin port => exact h.begin_turn w port
  | parsePacket => exact h.parsePacket_turn w
  | stop =>
    have hs : (s.perform T w .stop).2.1 = s.released := Socket.stop_released T s w
    rw [hs]
    exact h.clear (Turn.arrival?_eq_none nofun) rfl rfl rfl
  | flush => exact h.clear (Turn.arrival?_eq_none nofun) rfl rfl rfl
  | readByte => exact h.keep (Turn.arrival?_eq_none nofun) rfl s.rx.readByte_advances rfl
  | read out => exact h.keep (Turn.arrival?_eq_none nofun) rfl (s.rx.readInto_advances out) rfl
  | readExact out =>
    exact h.keep (Turn.arrival?_eq_none nofun) rfl (s.rx.fillFrom_advances out) rfl
  | readToEnd => exact h.keep (Turn.arrival?_eq_none nofun) rfl (s.rx.readToEnd_advances _) rfl
  | readToString =>
    exact h.keep (Turn.arrival?_eq_none nofun) rfl (s.rx.readToString_advances _) rfl
  | config | describe => exact h.keep (Turn.arrival?_eq_none nofun) rfl (.refl s.rx) rfl
  | beginPacket | beginReply | beginPacketToHost | write | endPacket => exact h.sending_turn w rfl

end Incoming

theorem Lives.incoming {T : Transport σ} {past : List Turn} {s : Socket} (h : Lives T past s) :
    Incoming past s := by
  induction h with
  | fresh table config => exact .fresh table config
  | turn w st _ ih => exact ih.turn w st

end Datagram
