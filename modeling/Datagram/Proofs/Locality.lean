import Datagram.Proofs.SlotBalance

/-!
# What a socket depends on

Of the world a socket sees the slots of its own table and the transport, and no history. Two worlds
agree for a socket of table `i` and one of table `j` when these tables have the same slots and the
transports are in the same state. In worlds that agree, a socket and its like on the other table
answer an operation alike, become alike, and leave worlds that agree again.
-/

namespace Datagram

variable {σ : Type}

def Binding.on (b : Binding) (table : Nat) : Binding := { b with lease := { b.lease with table } }

/-- The same socket over another table. -/
def Socket.on (s : Socket) (table : Nat) : Socket :=
  { s with table, binding := s.binding.map (·.on table) }

/-- Of all answers only the description of a socket says which table it is on. -/
def Answer.on (table : Nat) : Answer → Answer
  | .socket s => .socket (s.on table)
  | answer => answer

namespace World

structure Agree (i j : Nat) (w w' : World σ) : Prop where
  slots : w.table i = w'.table j
  transport : w.transport = w'.transport

variable {i j : Nat} {w w' w₁ : World σ} {α : Type}

theorem table_setTable {t : SlotTable} (hi : i < w.tables.length) :
    (w.setTable i t).table i = t := by
  have htable := table_set_of_lt (w := w) (t := t) hi i
  rw [if_pos rfl] at htable
  exact htable

/-- A table that does not exist is as good as one without slots. -/
theorem table_setTable_of_ge {t : SlotTable} (hi : w.tables.length ≤ i) :
    (w.setTable i t).table i = w.table i ∧ w.table i = .empty := by
  constructor
  · rw [table, tables_setTable, List.set_eq_of_length_le hi, table]
  · rw [table, List.getD_eq_getElem?_getD, List.getElem?_eq_none hi]
    rfl

theorem table_release (w : World σ) (lease : Lease) :
    (w.release lease).table lease.table = (w.table lease.table).release lease.slot := by
  change (w.setTable lease.table _).table lease.table = _
  by_cases hi : lease.table < w.tables.length
  · exact table_setTable hi
  · obtain ⟨hsame, hempty⟩ :=
      table_setTable_of_ge (t := (w.table lease.table).release lease.slot) (Nat.le_of_not_lt hi)
    rw [hsame, hempty]
    rfl

theorem table_setPort (w : World σ) (lease : Lease) (port : UInt16) :
    (w.setPort lease port).table lease.table = (w.table lease.table).setPort lease.slot port := by
  change (w.setTable lease.table _).table lease.table = _
  by_cases hi : lease.table < w.tables.length
  · exact table_setTable hi
  · obtain ⟨hsame, hempty⟩ :=
      table_setTable_of_ge (t := (w.table lease.table).setPort lease.slot port)
        (Nat.le_of_not_lt hi)
    rw [hsame, hempty]
    cases hslot : lease.slot <;> rfl

namespace Agree

theorem emit (h : Agree i j w w') (e e' : Event) : Agree i j (w.emit e) (w'.emit e') :=
  ⟨h.slots, h.transport⟩

theorem emitAll (h : Agree i j w w') (es es' : List Event) :
    Agree i j (w.emitAll es) (w'.emitAll es') := ⟨h.slots, h.transport⟩

theorem release (h : Agree i j w w') (slot : Nat) :
    Agree i j (w.release ⟨i, slot⟩) (w'.release ⟨j, slot⟩) where
  slots := by
    have hfirst := w.table_release ⟨i, slot⟩
    have hsecond := w'.table_release ⟨j, slot⟩
    rw [hfirst, hsecond, h.slots]
  transport := h.transport

theorem setPort (h : Agree i j w w') (slot : Nat) (port : UInt16) :
    Agree i j (w.setPort ⟨i, slot⟩ port) (w'.setPort ⟨j, slot⟩ port) where
  slots := by
    have hfirst := w.table_setPort ⟨i, slot⟩ port
    have hsecond := w'.table_setPort ⟨j, slot⟩ port
    rw [hfirst, hsecond, h.slots]
  transport := h.transport

/-- A call gets the same answer from transports in the same state. -/
theorem perform {call : σ → Reply σ α} {entry : α → Call} {a : α} (h : Agree i j w w')
    (hcall : w.perform call entry = (a, w₁)) :
    ∃ w₁', w'.perform call entry = (a, w₁') ∧ Agree i j w₁ w₁' := by
  cases hcall
  refine ⟨(w'.perform call entry).2, ?_, h.slots, ?_⟩
  · simp only [World.perform, h.transport]
  · simp only [World.perform, h.transport]

theorem localPort {T : Transport σ} {k : Handle} {answer : Option UInt16} (h : Agree i j w w')
    (hask : w.localPort T k = (answer, w₁)) :
    ∃ w₁', w'.localPort T k = (answer, w₁') ∧ Agree i j w₁ w₁' := by
  unfold World.localPort at hask ⊢
  cases hT : T.localPort with
  | none =>
    simp only [hT, Prod.mk.injEq] at hask
    obtain ⟨rfl, rfl⟩ := hask
    exact ⟨w', rfl, h⟩
  | some ask =>
    simp only [hT] at hask
    exact h.perform hask

theorem acquire {r : Result Lease} (h : Agree i j w w') (hacquire : w.acquire i = (r, w₁)) :
    ∃ w₁', w'.acquire j = (r.map fun l => ⟨j, l.slot⟩, w₁') ∧ Agree i j w₁ w₁' ∧
      ∀ l, r = .ok l → l.table = i := by
  have hslots := h.slots
  unfold World.acquire at hacquire ⊢
  rw [← hslots]
  cases hslot : (w.table i).acquire with
  | error e =>
    simp only [hslot, Prod.mk.injEq] at hacquire
    obtain ⟨rfl, rfl⟩ := hacquire
    exact ⟨_, rfl, h.emit _ _, nofun⟩
  | ok taken =>
    obtain ⟨slot, t⟩ := taken
    simp only [hslot, Prod.mk.injEq] at hacquire
    obtain ⟨rfl, rfl⟩ := hacquire
    have hslot' : (w'.table j).acquire = .ok (slot, t) := hslots ▸ hslot
    have hi := lt_length_of_capacity (SlotTable.acquire_eq_ok hslot).1
    have hj := lt_length_of_capacity (SlotTable.acquire_eq_ok hslot').1
    refine ⟨_, rfl, ⟨?_, h.transport⟩, ?_⟩
    · change (w.setTable i t).table i = (w'.setTable j t).table j
      rw [table_setTable hi, table_setTable hj]
    · intro l hl
      cases hl
      rfl

end Agree
end World

namespace Socket

open World

variable {T : Transport σ} {i j : Nat} {w w' w₁ : World σ} {s : Socket}

theorem giveBack_agree {b : Binding} (h : Agree b.lease.table j w w') :
    Agree b.lease.table j (giveBack T b w) (giveBack T (b.on j) w') := by
  rcases hclose : w.close T b.handle with ⟨closed, w₁⟩
  obtain ⟨w₁', hclose', h₁⟩ := h.perform hclose
  have hclose'' : w'.close T (b.on j).handle = (closed, w₁') := hclose'
  simp only [giveBack, hclose, hclose'']
  cases closed with
  | ok _ => exact (h₁.emit _ _).release b.lease.slot
  | error e => exact ((h₁.emit _ _).emit _ _).release b.lease.slot

theorem bindHandle_agree {k : Handle} {port : UInt16} {r : Result Unit} (h : Agree i j w w')
    (hbind : bindHandle T k port w = (r, w₁)) :
    ∃ w₁', bindHandle T k port w' = (r, w₁') ∧ Agree i j w₁ w₁' := by
  unfold bindHandle at hbind ⊢
  rcases hb : w.bind T k port with ⟨bound, w₂⟩
  obtain ⟨w₂', hb', h₂⟩ := h.perform hb
  have hb'' : w'.bind T k port = (bound, w₂') := hb'
  cases bound with
  | ok _ =>
    simp only [hb, Prod.mk.injEq] at hbind
    obtain ⟨rfl, rfl⟩ := hbind
    simp only [hb'']
    exact ⟨w₂', rfl, h₂⟩
  | error e =>
    rcases hclose : w₂.close T k with ⟨closed, w₃⟩
    obtain ⟨w₃', hclose', h₃⟩ := h₂.perform hclose
    have hclose'' : w₂'.close T k = (closed, w₃') := hclose'
    cases closed with
    | ok _ =>
      simp only [hb, hclose, Prod.mk.injEq] at hbind
      obtain ⟨rfl, rfl⟩ := hbind
      simp only [hb'', hclose'']
      exact ⟨w₃', rfl, h₃⟩
    | error c =>
      simp only [hb, hclose, Prod.mk.injEq] at hbind
      obtain ⟨rfl, rfl⟩ := hbind
      simp only [hb'', hclose'']
      exact ⟨_, rfl, h₃.emit _ _⟩

theorem openHandle_agree {slot : Nat} {port : UInt16} {r : Result Binding} (h : Agree i j w w')
    (hopen : openHandle T ⟨i, slot⟩ port w = (r, w₁)) :
    ∃ w₁', openHandle T ⟨j, slot⟩ port w' = (r.map (·.on j), w₁') ∧ Agree i j w₁ w₁' := by
  unfold openHandle at hopen ⊢
  rcases hcreate : w.create T with ⟨created, w₂⟩
  obtain ⟨w₂', hcreate', h₂⟩ := h.perform hcreate
  have hcreate'' : w'.create T = (created, w₂') := hcreate'
  cases created with
  | error e =>
    simp only [hcreate, Prod.mk.injEq] at hopen
    obtain ⟨rfl, rfl⟩ := hopen
    simp only [hcreate'']
    exact ⟨w₂', rfl, h₂⟩
  | ok k =>
    rcases hbind : bindHandle T k port w₂ with ⟨bound, w₃⟩
    obtain ⟨w₃', hbind', h₃⟩ := bindHandle_agree h₂ hbind
    cases bound with
    | error e =>
      simp only [hcreate, hbind, Prod.mk.injEq] at hopen
      obtain ⟨rfl, rfl⟩ := hopen
      simp only [hcreate'', hbind']
      exact ⟨w₃', rfl, h₃⟩
    | ok _ =>
      rcases hask : w₃.localPort T k with ⟨reported, w₄⟩
      obtain ⟨w₄', hask', h₄⟩ := h₃.localPort hask
      simp only [hcreate, hbind, hask, Prod.mk.injEq] at hopen
      obtain ⟨rfl, rfl⟩ := hopen
      simp only [hcreate'', hbind', hask']
      exact ⟨_, rfl, (h₄.setPort slot _).emit _ _⟩

theorem acquireBinding_agree {port : UInt16} {r : Result Binding} (h : Agree i j w w')
    (hacquire : acquireBinding T i port w = (r, w₁)) :
    ∃ w₁', acquireBinding T j port w' = (r.map (·.on j), w₁') ∧ Agree i j w₁ w₁' := by
  unfold acquireBinding at hacquire ⊢
  rcases hslot : w.acquire i with ⟨acquired, w₂⟩
  obtain ⟨w₂', hslot', h₂, htable⟩ := h.acquire hslot
  cases acquired with
  | error e =>
    simp only [hslot, Prod.mk.injEq] at hacquire
    obtain ⟨rfl, rfl⟩ := hacquire
    simp only [hslot', Except.map]
    exact ⟨w₂', rfl, h₂⟩
  | ok lease =>
    obtain ⟨table, slot⟩ := lease
    obtain rfl : table = i := htable _ rfl
    rcases hopen : openHandle T ⟨table, slot⟩ port w₂ with ⟨opened, w₃⟩
    obtain ⟨w₃', hopen', h₃⟩ := openHandle_agree h₂ hopen
    cases opened with
    | ok b =>
      simp only [hslot, hopen, Prod.mk.injEq] at hacquire
      obtain ⟨rfl, rfl⟩ := hacquire
      simp only [hslot', hopen', Except.map]
      exact ⟨w₃', rfl, h₃⟩
    | error e =>
      simp only [hslot, hopen, Prod.mk.injEq] at hacquire
      obtain ⟨rfl, rfl⟩ := hacquire
      simp only [hslot', hopen', Except.map]
      exact ⟨_, rfl, h₃.release slot⟩

/-- A socket and its like over table `j`, in worlds that agree for them. -/
structure Alike (j : Nat) (s s' : Socket) (w w' : World σ) : Prop where
  socket : s' = s.on j
  own : ∀ b, s.binding = some b → b.lease.table = s.table
  agree : Agree s.table j w w'

/-- How an operation ends on a socket and on its like: with one answer, and alike again. -/
def EndsAlike {α : Type} (j : Nat) (r r' : α × Socket × World σ) : Prop :=
  r'.1 = r.1 ∧ Alike j r.2.1 r'.2.1 r.2.2 r'.2.2

theorem on_binding {b : Binding} (hb : s.binding = some b) (j : Nat) :
    (s.on j).binding = some (b.on j) := by
  rw [on, hb]
  rfl

theorem on_unbound (hb : s.binding = none) (j : Nat) : (s.on j).binding = none := by
  rw [on, hb]
  rfl

theorem handle_on (s : Socket) (j : Nat) : (s.on j).handle = s.handle := by
  rcases s.binding.eq_none_or_eq_some with hb | ⟨b, hb⟩
  · rw [handle_of_unbound hb, handle_of_unbound (on_unbound hb j)]
  · rw [handle_of_bound hb, handle_of_bound (on_binding hb j)]
    rfl

namespace Alike

theorem stop (h : Alike j s (s.on j) w w') :
    Alike j (s.stop T w).1 ((s.on j).stop T w').1 (s.stop T w).2 ((s.on j).stop T w').2 := by
  rcases s.binding.eq_none_or_eq_some with hb | ⟨b, hb⟩
  · rw [stop_of_unbound T hb, stop_of_unbound T (on_unbound hb j)]
    exact ⟨rfl, nofun, h.agree⟩
  · rw [stop_of_bound T hb, stop_of_bound T (on_binding hb j)]
    have htable := h.own b hb
    have hagree : Agree b.lease.table j w w' := by
      rw [htable]
      exact h.agree
    have hgiven := giveBack_agree (T := T) hagree
    rw [htable] at hgiven
    exact ⟨rfl, nofun, hgiven⟩

theorem beginUnbound (h : Alike j s (s.on j) w w') (port : UInt16) :
    EndsAlike j (s.beginUnbound T port w) ((s.on j).beginUnbound T port w') := by
  rcases hopen : acquireBinding T s.table port w with ⟨opened, w₁⟩
  obtain ⟨w₁', hopen', h₁⟩ := acquireBinding_agree h.agree hopen
  have hopen'' : acquireBinding T (s.on j).table port w' = (opened.map (·.on j), w₁') := hopen'
  obtain ⟨cs, hopening, -⟩ := acquireBinding_opening T hopen
  cases opened with
  | error e =>
    simp only [Socket.beginUnbound, hopen, hopen'', Except.map]
    exact ⟨rfl, rfl, h.own, h₁⟩
  | ok b =>
    simp only [Socket.beginUnbound, hopen, hopen'', Except.map]
    refine ⟨rfl, rfl, ?_, h₁⟩
    intro b' hb'
    cases hb'
    exact hopening.table_eq

theorem begin (h : Alike j s (s.on j) w w') (port : UInt16) :
    EndsAlike j (s.begin T port w) ((s.on j).begin T port w') := by
  rcases s.binding.eq_none_or_eq_some with hb | ⟨b, hb⟩
  · simp only [Socket.begin, hb, on_unbound hb j]
    exact h.beginUnbound port
  · have hstopped : Alike j s (s.on j) (w.emit (.rebinding b.port port))
        (w'.emit (.rebinding b.port port)) := ⟨rfl, h.own, h.agree.emit _ _⟩
    have hstop := hstopped.stop (T := T)
    rw [stop_of_bound T hb, stop_of_bound T (on_binding hb j)] at hstop
    simp only [Socket.begin, hb, on_binding hb j, Socket.stop]
    exact Alike.beginUnbound hstop port

theorem beginPacket (h : Alike j s (s.on j) w w') (d : Endpoint) :
    ((s.on j).beginPacket d).1 = (s.beginPacket d).1 ∧
      Alike j (s.beginPacket d).2 ((s.on j).beginPacket d).2 w w' := by
  rcases s.binding.eq_none_or_eq_some with hb | ⟨b, hb⟩
  · rw [beginPacket_of_unbound hb, beginPacket_of_unbound (on_unbound hb j)]
    exact ⟨rfl, h⟩
  · rw [beginPacket_of_bound hb, beginPacket_of_bound (on_binding hb j)]
    exact ⟨rfl, rfl, h.own, h.agree⟩

theorem beginPacketToHost {ρ : Type} (h : Alike j s (s.on j) w w')
    (resolve : String → ρ → Reply ρ (Result Ipv4)) (host : String) (port : UInt16) (r : ρ) :
    let ends := s.beginPacketToHost resolve host port w r
    let ends' := (s.on j).beginPacketToHost resolve host port w' r
    ends'.1 = ends.1 ∧ Alike j ends.2.1 ends'.2.1 ends.2.2.1 ends'.2.2.1 ∧
      ends'.2.2.2 = ends.2.2.2 := by
  rcases s.binding.eq_none_or_eq_some with hb | ⟨b, hb⟩
  · simp only [beginPacketToHost_of_unbound _ resolve host port r hb,
      beginPacketToHost_of_unbound _ resolve host port r (on_unbound hb j)]
    exact ⟨trivial, h, trivial⟩
  · simp only [Socket.beginPacketToHost, handle_on, handle_of_bound hb]
    have hreported := h.agree.emitAll (resolve host r).events (resolve host r).events
    cases (resolve host r).answer with
    | error e => exact ⟨rfl, ⟨rfl, h.own, hreported⟩, rfl⟩
    | ok ip =>
      simp only [beginPacket_of_bound hb, beginPacket_of_bound (on_binding hb j)]
      exact ⟨trivial, ⟨rfl, h.own, hreported.emit _ _⟩, trivial⟩

theorem write (h : Alike j s (s.on j) w w') (bytes : Bytes) :
    EndsAlike j (s.write bytes w) ((s.on j).write bytes w') := by
  rcases s.binding.eq_none_or_eq_some with hb | ⟨b, hb⟩
  · rw [write_of_unbound _ hb, write_of_unbound _ (on_unbound hb j)]
    exact ⟨rfl, h⟩
  · simp only [Socket.write, handle_on, handle_of_bound hb]
    refine ⟨rfl, rfl, h.own, ?_⟩
    change Agree s.table j (if s.tx.room bytes < bytes.length then _ else w)
      (if s.tx.room bytes < bytes.length then _ else w')
    split
    · exact h.agree.emit _ _
    · exact h.agree

theorem endPacket (h : Alike j s (s.on j) w w') :
    EndsAlike j (s.endPacket T w) ((s.on j).endPacket T w') := by
  rcases s.binding.eq_none_or_eq_some with hb | ⟨b, hb⟩
  · simp only [Socket.endPacket, handle_on, handle_of_unbound hb]
    exact ⟨rfl, h⟩
  · have hd' : (s.on j).destination = s.destination := rfl
    cases hd : s.destination with
    | none =>
      simp only [Socket.endPacket, handle_on, handle_of_bound hb, hd', hd]
      exact ⟨rfl, h⟩
    | some target =>
      rcases hsend : w.send T b.handle s.tx.contents target with ⟨answer, w₁⟩
      obtain ⟨w₁', hsend', h₁⟩ := h.agree.perform hsend
      have hsend'' : w'.send T b.handle (s.on j).tx.contents target = (answer, w₁') := hsend'
      simp only [Socket.endPacket, handle_on, handle_of_bound hb, hd', hd, hsend, hsend'']
      cases answer with
      | error e => exact ⟨rfl, rfl, h.own, h₁⟩
      | ok count => exact ⟨rfl, rfl, h.own, h₁.emit _ _⟩

theorem receive (h : Alike j s (s.on j) w w') (k : Handle) :
    EndsAlike j (Socket.receive T k s w) (Socket.receive T k (s.on j) w') := by
  rcases hreceive : w.receive T k s.rx.capacity with ⟨⟨written, outcome⟩, w₁⟩
  obtain ⟨w₁', hreceive', h₁⟩ := h.agree.perform hreceive
  have hreceive'' : w'.receive T k (s.on j).rx.capacity = (⟨written, outcome⟩, w₁') := hreceive'
  simp only [Socket.receive, hreceive, hreceive'']
  cases outcome with
  | error e => exact ⟨rfl, rfl, h.own, h₁⟩
  | ok loaded => exact ⟨rfl, rfl, h.own, h₁.emit _ _⟩

theorem parsePacket (h : Alike j s (s.on j) w w') :
    EndsAlike j (s.parsePacket T w) ((s.on j).parsePacket T w') := by
  rcases s.binding.eq_none_or_eq_some with hb | ⟨b, hb⟩
  · simp only [Socket.parsePacket, handle_on, handle_of_unbound hb]
    exact ⟨rfl, h⟩
  · rcases hpoll : w.poll T b.handle s.config.pollTimeout with ⟨polled, w₁⟩
    obtain ⟨w₁', hpoll', h₁⟩ := h.agree.perform hpoll
    have hpoll'' : w'.poll T b.handle (s.on j).config.pollTimeout = (polled, w₁') := hpoll'
    have hpolled : Alike j s (s.on j) w₁ w₁' := ⟨rfl, h.own, h₁⟩
    simp only [Socket.parsePacket, handle_on, handle_of_bound hb, hpoll, hpoll'']
    cases polled with
    | error e => exact ⟨rfl, hpolled⟩
    | ok r =>
      cases hready : r.shouldReceive with
      | false =>
        simp only [hready, Bool.false_eq_true, if_false]
        exact ⟨rfl, hpolled⟩
      | true =>
        simp only [hready, if_true]
        exact hpolled.receive b.handle

end Alike

/-- A socket and its like answer every operation alike, and become alike. -/
theorem perform_alike (T : Transport σ) (h : Alike j s (s.on j) w w') (st : SocketStep) :
    ((s.on j).perform T w' st).1 = (s.perform T w st).1.on j ∧
      Alike j (s.perform T w st).2.1 ((s.on j).perform T w' st).2.1 (s.perform T w st).2.2
        ((s.on j).perform T w' st).2.2 := by
  cases st with
  | begin port =>
    obtain ⟨hanswer, halike⟩ := h.begin (T := T) port
    exact ⟨congrArg Answer.unit hanswer, halike⟩
  | stop => exact ⟨rfl, h.stop⟩
  | beginPacket d =>
    obtain ⟨hanswer, halike⟩ := h.beginPacket d
    exact ⟨congrArg Answer.unit hanswer, halike⟩
  | beginReply =>
    obtain ⟨hanswer, halike⟩ := h.beginPacket ⟨s.remoteIp, s.remotePort⟩
    exact ⟨congrArg Answer.unit hanswer, halike⟩
  | beginPacketToHost host port lookup =>
    obtain ⟨hanswer, halike, hasked⟩ := h.beginPacketToHost lookup.askWith host port []
    exact ⟨congr (congrArg Answer.asked hanswer) hasked, halike⟩
  | write bytes =>
    obtain ⟨hanswer, halike⟩ := h.write bytes
    exact ⟨congrArg Answer.count hanswer, halike⟩
  | endPacket =>
    obtain ⟨hanswer, halike⟩ := h.endPacket (T := T)
    exact ⟨congrArg Answer.count hanswer, halike⟩
  | parsePacket =>
    obtain ⟨hanswer, halike⟩ := h.parsePacket (T := T)
    exact ⟨congrArg Answer.count hanswer, halike⟩
  | flush | readByte | read _ | readExact _ | readToEnd | readToString =>
    exact ⟨rfl, rfl, h.own, h.agree⟩
  | config | describe => exact ⟨rfl, h⟩

end Socket
end Datagram
