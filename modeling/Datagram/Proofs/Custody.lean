import Datagram.Proofs.Sides

/-!
# What a socket has in hand

A socket comes to its binding in stages: it takes a slot, gets a handle, and binds the handle under
a port that it records for the slot. It gives everything up in the opposite order. `Custody` strings
together what a socket does from one moment to another: it talks to the transport only while it has
a slot, which the tables show as leased at that very moment, and it frees the slot only when it has
no handle any more. Every operation of a socket keeps to this, in all the ways in which it can end.
-/

namespace Datagram

variable {σ α : Type}

inductive Stage where
  | free
  | leased (lease : Lease)
  | opened (lease : Lease) (handle : Handle)
  | bound (binding : Binding)

namespace Stage

def ofBinding : Option Binding → Stage
  | none => free
  | some b => bound b

def lease? : Stage → Option Lease
  | free => none
  | leased lease | opened lease _ => some lease
  | bound b => some b.lease

def handle? : Stage → Option Handle
  | free | leased _ => none
  | opened _ h => some h
  | bound b => some b.handle

/-- The calls that a stage allows, and where they lead. A close ends the hold on the handle whatever
the answer, and leaves the slot. -/
inductive Allows : Stage → Call → Stage → Prop
  | createFailed {lease e} : Allows (leased lease) (.create (.error e)) (leased lease)
  | created {lease h} : Allows (leased lease) (.create (.ok h)) (opened lease h)
  | bind {lease h port answer} : Allows (opened lease h) (.bind h port answer) (opened lease h)
  | localPort {lease h answer} : Allows (opened lease h) (.localPort h answer) (opened lease h)
  | discard {lease h answer} : Allows (opened lease h) (.close h answer) (leased lease)
  | traffic {b c} (ht : c.isTraffic = true) (hh : c.handle? = some b.handle) :
      Allows (bound b) c (bound b)
  | close {b answer} : Allows (bound b) (.close b.handle answer) (leased b.lease)

end Stage

def Socket.stage (s : Socket) : Stage := .ofBinding s.binding

namespace Lease

/-- The tables after the slot of the lease has been released. -/
def freed (l : Lease) (ts : List SlotTable) : List SlotTable :=
  ts.set l.table ((ts.getD l.table .empty).release l.slot)

/-- The tables after a port has been recorded under the lease. -/
def noted (l : Lease) (port : UInt16) (ts : List SlotTable) : List SlotTable :=
  ts.set l.table ((ts.getD l.table .empty).setPort l.slot port)

end Lease

/-- One thing that a socket of the table does, with the slot tables before and after it, and the
call that it makes, if any, with the tables at that moment. -/
inductive Act (table : Nat) :
    Stage → List SlotTable → List (Call × List SlotTable) → Stage → List SlotTable → Prop
  | acquire {ts slot t} (hslot : (ts.getD table .empty).acquire = .ok (slot, t)) :
      Act table .free ts [] (.leased ⟨table, slot⟩) (ts.set table t)
  | call {x c y lease ts} (hlease : x.lease? = some lease) (hmarked : lease.marked ts = true)
      (hc : x.Allows c y) : Act table x ts [(c, ts)] y ts
  | record {lease h port ts} :
      Act table (.opened lease h) ts [] (.bound ⟨h, port, lease⟩) (lease.noted port ts)
  | release {lease ts} : Act table (.leased lease) ts [] .free (lease.freed ts)

/-- Acts of one socket, one after the other. -/
inductive Custody (table : Nat) :
    Stage → List SlotTable → List (Call × List SlotTable) → Stage → List SlotTable → Prop
  | refl (x ts) : Custody table x ts [] x ts
  | tail {x ts cs y ts' cs' z ts''} (h : Custody table x ts cs y ts')
      (ha : Act table y ts' cs' z ts'') : Custody table x ts (cs ++ cs') z ts''

/-- The tables alone, as a world to which the laws of worlds apply. -/
def World.bare (ts : List SlotTable) : World Unit := { tables := ts, transport := () }

theorem getD_set_of_lt {ts : List SlotTable} {i : Nat} {t : SlotTable} (hi : i < ts.length)
    (j : Nat) : (ts.set i t).getD j .empty = if j = i then t else ts.getD j .empty :=
  World.table_set_of_lt (w := .bare ts) hi j

namespace Lease

variable {ts : List SlotTable}

theorem marked_taken {table slot : Nat} {t : SlotTable}
    (h : (ts.getD table .empty).acquire = .ok (slot, t)) (l : Lease) :
    (l.marked (ts.set table t)).toNat = (l.marked ts).toNat + [Lease.mk table slot].count l :=
  World.marked_acquire (w := .bare ts) h l

theorem marked_noted (lease : Lease) (port : UInt16) (l : Lease) :
    l.marked (lease.noted port ts) = l.marked ts :=
  World.marked_setPort (w := .bare ts) lease port l

theorem marked_freed {lease : Lease} (held : lease.marked ts = true) (l : Lease) :
    (l.marked (lease.freed ts)).toNat + [lease].count l = (l.marked ts).toNat :=
  World.marked_release (w := .bare ts) held l

end Lease

variable {table : Nat} {x y z : Stage} {ts ts' : List SlotTable} {cs : List (Call × List SlotTable)}

theorem Stage.Allows.lease?_eq {c : Call} (h : x.Allows c y) : y.lease? = x.lease? := by
  cases h <;> rfl

/-- The slot that a socket has is marked, until it frees it. -/
theorem Act.marked (h : Act table x ts cs y ts')
    (hx : ∀ l, x.lease? = some l → l.marked ts = true) (l : Lease) (hl : y.lease? = some l) :
    l.marked ts' = true := by
  cases h with
  | acquire hslot =>
    cases hl
    exact World.marked_of_acquire (w := .bare ts) hslot
  | call hlease hmarked hc => exact hx l (hc.lease?_eq ▸ hl)
  | record =>
    rw [Lease.marked_noted]
    exact hx l hl
  | release => cases hl

theorem Custody.marked (h : Custody table x ts cs y ts')
    (hx : ∀ l, x.lease? = some l → l.marked ts = true) :
    ∀ l, y.lease? = some l → l.marked ts' = true := by
  induction h with
  | refl => exact hx
  | tail _ ha ih => exact ha.marked ih

namespace World

variable {w w₁ w₂ : World σ}

/-- The calls in the history, oldest first, with the tables at the moment of each. -/
def observed (w : World σ) : List (Call × List SlotTable) := w.history.filterMap Record.call?

theorem calls_eq_observed (w : World σ) : w.calls = w.observed.map Prod.fst := by
  rw [calls, observed, List.map_filterMap]

theorem observed_emitAll (w : World σ) (events : List Event) :
    (w.emitAll events).observed = w.observed := by
  simp [observed, emitAll, Record.call?]

theorem observed_emit (w : World σ) (e : Event) : (w.emit e).observed = w.observed :=
  observed_emitAll w [e]

theorem observed_release (w : World σ) (lease : Lease) :
    (w.release lease).observed = w.observed := observed_emit ..

theorem perform_observed {call : σ → Reply σ α} {entry : α → Call} {a : α}
    (h : w.perform call entry = (a, w₁)) : w₁.observed = w.observed ++ [(entry a, w.tables)] := by
  cases h
  simp [observed, Record.call?]

/-- From the first world to the second a socket of the table has come from one stage to another, and
nothing else has happened. -/
structure Attends (table : Nat) (x : Stage) (w : World σ) (y : Stage) (w' : World σ) : Prop where
  custody : ∃ cs, w'.observed = w.observed ++ cs ∧ Custody table x w.tables cs y w'.tables
  marked : ∀ l, y.lease? = some l → l.marked w'.tables = true

theorem attends_refl (table : Nat) (hx : ∀ l, x.lease? = some l → l.marked w.tables = true) :
    Attends table x w x w :=
  ⟨⟨[], (List.append_nil _).symm, .refl x w.tables⟩, hx⟩

namespace Attends

theorem act (h : Attends table x w y w₁) (hobserved : w₂.observed = w₁.observed ++ cs)
    (ha : Act table y w₁.tables cs z w₂.tables) : Attends table x w z w₂ where
  custody := by
    obtain ⟨before, hbefore, hcustody⟩ := h.custody
    refine ⟨before ++ cs, ?_, hcustody.tail ha⟩
    rw [hobserved, hbefore, List.append_assoc]
  marked := ha.marked h.marked

theorem silent (h : Attends table x w y w₁) (hobserved : w₂.observed = w₁.observed)
    (ha : Act table y w₁.tables [] z w₂.tables) : Attends table x w z w₂ := by
  apply h.act _ ha
  rw [hobserved, List.append_nil]

/-- What leaves calls and tables alone does not matter. -/
theorem congr (h : Attends table x w y w₁) (hobserved : w₂.observed = w₁.observed)
    (htables : w₂.tables = w₁.tables) : Attends table x w y w₂ where
  custody := by
    rw [hobserved, htables]
    exact h.custody
  marked := htables ▸ h.marked

theorem emit (h : Attends table x w y w₁) (e : Event) : Attends table x w y (w₁.emit e) :=
  h.congr (observed_emit w₁ e) rfl

theorem emitAll (h : Attends table x w y w₁) (events : List Event) :
    Attends table x w y (w₁.emitAll events) := h.congr (observed_emitAll w₁ events) rfl

theorem perform (h : Attends table x w y w₁) {call : σ → Reply σ α} {entry : α → Call} {a : α}
    (hcall : w₁.perform call entry = (a, w₂)) {lease : Lease} (hlease : y.lease? = some lease)
    (hallowed : y.Allows (entry a) z) : Attends table x w z w₂ := by
  apply h.act (perform_observed hcall)
  rw [(perform_spec hcall).1]
  exact .call hlease (h.marked lease hlease) hallowed

theorem release {lease : Lease} (h : Attends table x w (.leased lease) w₁) :
    Attends table x w .free (w₁.release lease) := h.silent (observed_release w₁ lease) .release

theorem setPort {lease : Lease} {k : Handle} (h : Attends table x w (.opened lease k) w₁)
    (port : UInt16) : Attends table x w (.bound ⟨k, port, lease⟩) (w₁.setPort lease port) :=
  h.silent rfl .record

theorem acquire (h : Attends table x w .free w₁) {acquired : Result Lease}
    (hacquire : w₁.acquire table = (acquired, w₂)) :
    Attends table x w
      (match acquired with
        | .ok lease => .leased lease
        | .error _ => .free) w₂ := by
  unfold World.acquire at hacquire
  cases hslot : (w₁.table table).acquire with
  | error e =>
    simp only [hslot, Prod.mk.injEq] at hacquire
    obtain ⟨rfl, rfl⟩ := hacquire
    exact h.emit _
  | ok taken =>
    obtain ⟨slot, t⟩ := taken
    simp only [hslot, Prod.mk.injEq] at hacquire
    obtain ⟨rfl, rfl⟩ := hacquire
    have htaken : Attends table x w (.leased ⟨table, slot⟩) (w₁.setTable table t) :=
      h.silent rfl (.acquire hslot)
    exact htaken.emit _

end Attends
end World

namespace Socket

open World

variable {T : Transport σ} {w w₁ w₂ : World σ}

theorem giveBack_attends {b : Binding} (h : Attends table x w (.bound b) w₁) :
    Attends table x w .free (giveBack T b w₁) := by
  rcases hclose : w₁.close T b.handle with ⟨closed, w₂⟩
  have hclosed : Attends table x w (.leased b.lease) w₂ := h.perform hclose rfl .close
  simp only [giveBack, hclose]
  cases closed with
  | ok _ => exact (hclosed.emit _).release
  | error e => exact ((hclosed.emit _).emit _).release

theorem bindHandle_attends {lease : Lease} {k : Handle} {port : UInt16} {answer : Result Unit}
    (h : Attends table x w (.opened lease k) w₁) (hbind : bindHandle T k port w₁ = (answer, w₂)) :
    Attends table x w
      (match answer with
        | .ok _ => .opened lease k
        | .error _ => .leased lease) w₂ := by
  unfold bindHandle at hbind
  rcases hb : w₁.bind T k port with ⟨bound, w₃⟩
  have hbound : Attends table x w (.opened lease k) w₃ := h.perform hb rfl .bind
  cases bound with
  | ok _ =>
    simp only [hb, Prod.mk.injEq] at hbind
    obtain ⟨rfl, rfl⟩ := hbind
    exact hbound
  | error e =>
    rcases hclose : w₃.close T k with ⟨closed, w₄⟩
    have hclosed : Attends table x w (.leased lease) w₄ := hbound.perform hclose rfl .discard
    cases closed with
    | ok _ =>
      simp only [hb, hclose, Prod.mk.injEq] at hbind
      obtain ⟨rfl, rfl⟩ := hbind
      exact hclosed
    | error c =>
      simp only [hb, hclose, Prod.mk.injEq] at hbind
      obtain ⟨rfl, rfl⟩ := hbind
      exact hclosed.emit _

theorem localPort_attends {lease : Lease} {k : Handle} {answer : Option UInt16}
    (h : Attends table x w (.opened lease k) w₁) (hask : w₁.localPort T k = (answer, w₂)) :
    Attends table x w (.opened lease k) w₂ := by
  unfold World.localPort at hask
  cases hT : T.localPort with
  | none =>
    simp only [hT, Prod.mk.injEq] at hask
    obtain ⟨-, rfl⟩ := hask
    exact h
  | some ask =>
    simp only [hT] at hask
    exact h.perform hask rfl .localPort

theorem openHandle_attends {lease : Lease} {port : UInt16} {answer : Result Binding}
    (h : Attends table x w (.leased lease) w₁) (hopen : openHandle T lease port w₁ = (answer, w₂)) :
    Attends table x w
      (match answer with
        | .ok b => .bound b
        | .error _ => .leased lease) w₂ := by
  unfold openHandle at hopen
  rcases hcreate : w₁.create T with ⟨created, w₃⟩
  cases created with
  | error e =>
    simp only [hcreate, Prod.mk.injEq] at hopen
    obtain ⟨rfl, rfl⟩ := hopen
    exact h.perform hcreate rfl .createFailed
  | ok k =>
    have hcreated : Attends table x w (.opened lease k) w₃ := h.perform hcreate rfl .created
    rcases hbind : bindHandle T k port w₃ with ⟨bound, w₄⟩
    have hbound := bindHandle_attends hcreated hbind
    cases bound with
    | error e =>
      simp only [hcreate, hbind, Prod.mk.injEq] at hopen
      obtain ⟨rfl, rfl⟩ := hopen
      exact hbound
    | ok _ =>
      rcases hask : w₄.localPort T k with ⟨reported, w₅⟩
      simp only [hcreate, hbind, hask, Prod.mk.injEq] at hopen
      obtain ⟨rfl, rfl⟩ := hopen
      exact ((localPort_attends hbound hask).setPort _).emit _

theorem acquireBinding_attends {port : UInt16} {answer : Result Binding}
    (h : Attends table x w .free w₁) (hacquire : acquireBinding T table port w₁ = (answer, w₂)) :
    Attends table x w (.ofBinding answer.toOption) w₂ := by
  unfold acquireBinding at hacquire
  rcases hslot : w₁.acquire table with ⟨acquired, w₃⟩
  have htaken := h.acquire hslot
  cases acquired with
  | error e =>
    simp only [hslot, Prod.mk.injEq] at hacquire
    obtain ⟨rfl, rfl⟩ := hacquire
    exact htaken
  | ok lease =>
    rcases hopen : openHandle T lease port w₃ with ⟨opened, w₄⟩
    have hopened := openHandle_attends htaken hopen
    cases opened with
    | ok b =>
      simp only [hslot, hopen, Prod.mk.injEq] at hacquire
      obtain ⟨rfl, rfl⟩ := hacquire
      exact hopened
    | error e =>
      simp only [hslot, hopen, Prod.mk.injEq] at hacquire
      obtain ⟨rfl, rfl⟩ := hacquire
      exact hopened.release

variable {s : Socket}

theorem stage_of_unbound (hb : s.binding = none) : s.stage = .free := by
  rw [stage, hb]
  rfl

theorem stage_of_bound {b : Binding} (hb : s.binding = some b) : s.stage = .bound b := by
  rw [stage, hb]
  rfl

theorem beginUnbound_attends (h : Attends s.table x w .free w₁) (hb : s.binding = none)
    (port : UInt16) :
    Attends s.table x w (s.beginUnbound T port w₁).2.1.stage (s.beginUnbound T port w₁).2.2 := by
  rcases hopen : acquireBinding T s.table port w₁ with ⟨opened, w₂⟩
  have hopened := acquireBinding_attends h hopen
  unfold beginUnbound
  rw [hopen]
  cases opened with
  | ok b => exact hopened
  | error e =>
    change Attends s.table x w s.stage w₂
    rw [stage_of_unbound hb]
    exact hopened

theorem stop_attends (h : Attends table x w s.stage w₁) :
    Attends table x w .free (s.stop T w₁).2 := by
  rcases s.binding.eq_none_or_eq_some with hb | ⟨b, hb⟩
  · rw [stop_of_unbound T hb]
    rw [stage_of_unbound hb] at h
    exact h
  · rw [stop_of_bound T hb]
    rw [stage_of_bound hb] at h
    exact giveBack_attends h

theorem begin_attends (h : Attends s.table x w s.stage w₁) (port : UInt16) :
    Attends s.table x w (s.begin T port w₁).2.1.stage (s.begin T port w₁).2.2 := by
  rcases s.binding.eq_none_or_eq_some with hb | ⟨b, hb⟩
  · simp only [begin, hb]
    rw [stage_of_unbound hb] at h
    exact beginUnbound_attends h hb port
  · simp only [begin, stop, hb]
    rw [stage_of_bound hb] at h
    exact beginUnbound_attends (s := s.released) (giveBack_attends (h.emit _)) rfl port

theorem write_attends (h : Attends table x w y w₁) (bytes : Bytes) :
    Attends table x w y (s.write bytes w₁).2.2 := by
  rcases s.binding.eq_none_or_eq_some with hb | ⟨b, hb⟩
  · rw [write_of_unbound w₁ hb]
    exact h
  · simp only [write, handle_of_bound hb]
    split
    · exact h.emit _
    · exact h

theorem beginPacketToHost_attends {ρ : Type} (resolve : String → ρ → Reply ρ (Result Ipv4))
    (host : String) (port : UInt16) (r : ρ) (h : Attends table x w y w₁) :
    Attends table x w y (s.beginPacketToHost resolve host port w₁ r).2.2.1 := by
  rcases s.binding.eq_none_or_eq_some with hb | ⟨b, hb⟩
  · rw [beginPacketToHost_of_unbound w₁ resolve host port r hb]
    exact h
  · simp only [beginPacketToHost, handle_of_bound hb]
    cases (resolve host r).answer with
    | error e => exact h.emitAll _
    | ok ip => exact (h.emitAll _).emit _

theorem endPacket_attends (h : Attends table x w s.stage w₁) :
    Attends table x w s.stage (s.endPacket T w₁).2.2 := by
  rcases s.binding.eq_none_or_eq_some with hb | ⟨b, hb⟩
  · simp only [endPacket, handle_of_unbound hb]
    exact h
  · simp only [endPacket, handle_of_bound hb]
    rw [stage_of_bound hb] at h ⊢
    cases s.destination with
    | none => exact h
    | some target =>
      rcases hsend : w₁.send T b.handle s.tx.contents target with ⟨answer, w₂⟩
      have hsent : Attends table x w (.bound b) w₂ := h.perform hsend rfl (.traffic rfl rfl)
      simp only [hsend]
      cases answer with
      | error e => exact hsent
      | ok count => exact hsent.emit _

theorem receive_attends {b : Binding} (h : Attends table x w (.bound b) w₁) :
    Attends table x w (.bound b) (s.receive T b.handle w₁).2.2 := by
  rcases hreceive : w₁.receive T b.handle s.rx.capacity with ⟨delivery, w₂⟩
  have hreceived : Attends table x w (.bound b) w₂ := h.perform hreceive rfl (.traffic rfl rfl)
  rcases receive_cases T hreceive with ⟨e, -, hs⟩ | ⟨claim, source, -, hs⟩
  · rw [hs]
    exact hreceived
  · rw [hs]
    exact hreceived.emit _

theorem parsePacket_attends (h : Attends table x w s.stage w₁) :
    Attends table x w s.stage (s.parsePacket T w₁).2.2 := by
  rcases s.binding.eq_none_or_eq_some with hb | ⟨b, hb⟩
  · simp only [parsePacket, handle_of_unbound hb]
    exact h
  · rcases hpoll : w₁.poll T b.handle s.config.pollTimeout with ⟨polled, w₂⟩
    rw [stage_of_bound hb] at h ⊢
    have hpolled : Attends table x w (.bound b) w₂ := h.perform hpoll rfl (.traffic rfl rfl)
    rcases parsePacket_cases T hb hpoll with ⟨e, -, hs⟩ | ⟨-, hs⟩ | ⟨r, -, -, hs⟩
    · rw [hs]
      exact hpolled
    · rw [hs]
      exact hpolled
    · rw [hs]
      exact receive_attends hpolled

/-- Whatever a socket does, it does it in custody, from the stage that it is in to the next. -/
theorem perform_attends (T : Transport σ) (s : Socket) (w : World σ)
    (held : ∀ l, s.stage.lease? = some l → l.marked w.tables = true) (st : SocketStep) :
    Attends s.table s.stage w (s.perform T w st).2.1.stage (s.perform T w st).2.2 := by
  have hstart : Attends s.table s.stage w s.stage w := attends_refl s.table held
  by_cases hside : st.side = .lifecycle
  · cases st with
    | begin port => exact begin_attends hstart port
    | stop =>
      have hstopped : (s.stop T w).1.stage = .free := by
        rw [stop_released]
        rfl
      change Attends s.table s.stage w (s.stop T w).1.stage _
      rw [hstopped]
      exact stop_attends hstart
    | _ => cases hside
  · rw [show (s.perform T w st).2.1.stage = s.stage by
      rw [stage, perform_binding T s w hside, stage]]
    cases st with
    | write bytes => exact write_attends hstart bytes
    | beginPacketToHost host port lookup =>
      exact beginPacketToHost_attends lookup.askWith host port [] hstart
    | endPacket => exact endPacket_attends hstart
    | parsePacket => exact parsePacket_attends hstart
    | begin _ | stop => exact absurd rfl hside
    | _ => exact hstart

end Socket
end Datagram
