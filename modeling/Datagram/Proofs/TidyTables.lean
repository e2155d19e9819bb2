import Datagram.Proofs.Locality
import Datagram.Proofs.SlotAccounting

/-!
# Free slots carry nothing

A table is tidy when its free slots are as they were at first, without a port. Ports are recorded
for leased slots only, and releasing a slot wipes it, so the tables of every session stay tidy. That
is why a slot that is acquired and released again leaves its table as it was, and why a binding that
could not be had leaves no trace in the tables.
-/

namespace Datagram

variable {σ : Type}

namespace SlotTable

def Tidy (t : SlotTable) : Prop :=
  ∀ (slot : Nat) (entry : SlotEntry), t.entries[slot]? = some entry → entry.leased = false →
    entry = .free

variable {t t' : SlotTable} {slot : Nat}

theorem tidy_ofCapacity (capacity : Nat) : (ofCapacity capacity).Tidy := by
  intro slot entry hentry _
  simp only [ofCapacity, List.getElem?_replicate] at hentry
  split at hentry
  · exact (Option.some.inj hentry).symm
  · cases hentry

theorem Tidy.put (h : t.Tidy) {entry : SlotEntry} (hentry : entry.leased = false → entry = .free)
    (slot : Nat) : (t.put slot entry).Tidy := by
  intro i old hold hfree
  by_cases hi : slot = i
  · subst i
    have hlt : slot < (t.entries.set slot entry).length := (List.getElem?_eq_some_iff.1 hold).1
    rw [List.length_set] at hlt
    simp only [SlotTable.put, List.getElem?_set_self hlt, Option.some.injEq] at hold
    subst old
    exact hentry hfree
  · simp only [SlotTable.put, List.getElem?_set_ne hi] at hold
    exact h i old hold hfree

theorem Tidy.release (h : t.Tidy) (slot : Nat) : (t.release slot).Tidy := h.put (fun _ => rfl) slot

theorem Tidy.acquire (h : t.Tidy) (hslot : t.acquire = .ok (slot, t')) : t'.Tidy := by
  obtain ⟨-, -, rfl⟩ := acquire_eq_ok hslot
  apply h.put
  intro hfree
  cases hfree

/-- A port may be recorded for a slot that is leased. -/
theorem Tidy.setPort (h : t.Tidy) (hmarked : t.marks slot = true) (port : UInt16) :
    (t.setPort slot port).Tidy := by
  intro i entry hentry hfree
  have hmarks := marks_setPort t slot port i
  simp only [marks, hentry, Option.any_some, hfree] at hmarks
  have hi : slot ≠ i := by
    rintro rfl
    rw [marks] at hmarked
    rw [hmarked] at hmarks
    cases hmarks
  simp only [SlotTable.setPort, List.getElem?_modify, if_neg hi] at hentry
  exact h i entry (by simpa using hentry) hfree

/-- Acquiring a slot and releasing it again is as if nothing had happened. -/
theorem Tidy.release_acquire (h : t.Tidy) (hslot : t.acquire = .ok (slot, t')) :
    t'.release slot = t := by
  obtain ⟨hcapacity, hmarks, rfl⟩ := acquire_eq_ok hslot
  have hlt : slot < t.entries.length := hcapacity
  have hentry : t.entries[slot]? = some t.entries[slot] := List.getElem?_eq_getElem hlt
  rw [marks, hentry] at hmarks
  have hfree : t.entries[slot] = .free := h slot _ hentry hmarks
  have hentries : (t.entries.set slot { leased := true }).set slot .free = t.entries := by
    rw [List.set_set, ← hfree, List.set_getElem_self]
  exact congrArg SlotTable.mk hentries

end SlotTable

namespace World

def Tidy (w : World σ) : Prop := ∀ t ∈ w.tables, t.Tidy

variable {w w' : World σ}

theorem Tidy.table (h : w.Tidy) (i : Nat) : (w.table i).Tidy := by
  rw [World.table, List.getD_eq_getElem?_getD]
  cases hi : w.tables[i]? with
  | none => exact SlotTable.tidy_ofCapacity 0
  | some t => exact h t (List.mem_of_getElem? hi)

theorem Tidy.congr (h : w.Tidy) (htables : w'.tables = w.tables) : w'.Tidy := by
  rw [World.Tidy, htables]
  exact h

theorem Tidy.setTable (h : w.Tidy) {t : SlotTable} (ht : t.Tidy) (i : Nat) :
    (w.setTable i t).Tidy := by
  intro t' ht'
  rcases List.mem_or_eq_of_mem_set ht' with hold | rfl
  · exact h t' hold
  · exact ht

theorem Tidy.release (h : w.Tidy) (lease : Lease) : (w.release lease).Tidy := by
  apply Tidy.congr _ (tables_emit _ (.slotReleased lease.slot))
  exact h.setTable ((h.table lease.table).release lease.slot) lease.table

theorem Tidy.acquire (h : w.Tidy) (i : Nat) : (w.acquire i).2.Tidy := by
  unfold World.acquire
  cases hslot : (w.table i).acquire with
  | error e => exact h
  | ok taken => exact (h.setTable ((h.table i).acquire hslot) i).congr rfl

theorem Tidy.setPort (h : w.Tidy) {lease : Lease} (hmarked : lease.marked w.tables = true)
    (port : UInt16) : (w.setPort lease port).Tidy :=
  h.setTable ((h.table lease.table).setPort hmarked port) lease.table

/-- A slot that was acquired and released again has changed no table. -/
theorem Tidy.tables_release_acquire (h : w.Tidy) {i slot : Nat} {t : SlotTable}
    (hslot : (w.table i).acquire = .ok (slot, t)) :
    ((w.setTable i t).release ⟨i, slot⟩).tables = w.tables := by
  have hlt : i < w.tables.length := lt_length_of_capacity (SlotTable.acquire_eq_ok hslot).1
  have hkept : w.tables.getD i .empty = w.tables[i] := by
    rw [List.getD_eq_getElem?_getD, List.getElem?_eq_getElem hlt, Option.getD_some]
  rw [tables_release, table_setTable hlt, (h.table i).release_acquire hslot, tables_setTable,
    List.set_set, World.table, hkept, List.set_getElem_self]

end World

namespace Socket

variable {T : Transport σ} {s : Socket} {w : World σ}

theorem Opening.tables_of_error {table : Nat} {port : UInt16} {e : Failure}
    {tables : List SlotTable} {cs : List Call} (htidy : w.Tidy)
    (h : Opening T table port w (.error e) tables cs) : tables = w.tables := by
  cases h with
  | noSlot => rfl
  | createFailed hslot => exact htidy.tables_release_acquire hslot
  | bindFailed hslot => exact htidy.tables_release_acquire hslot

theorem Opening.tidy {table : Nat} {port : UInt16} {answer : Result Binding} {w' : World σ}
    {cs : List Call} (htidy : w.Tidy) (h : Opening T table port w answer w'.tables cs) :
    w'.Tidy := by
  rcases answer with e | b
  · exact htidy.congr (h.tables_of_error htidy)
  · generalize htables : w'.tables = tables at h
    cases h with
    | @bound slot t handle reported hslot =>
      have htaken : (w.setTable table t).Tidy :=
        htidy.setTable ((htidy.table table).acquire hslot) table
      have hmarked := World.marked_of_acquire hslot
      exact (htaken.setPort hmarked (reported.getD port)).congr htables

theorem giveBack_tidy (h : w.Tidy) (b : Binding) : (giveBack T b w).Tidy :=
  (h.release b.lease).congr (giveBack_spec T b w).1

theorem stop_tidy (h : w.Tidy) (s : Socket) : (s.stop T w).2.Tidy := by
  rcases s.binding.eq_none_or_eq_some with hb | ⟨b, hb⟩
  · rw [stop_of_unbound T hb]
    exact h
  · rw [stop_of_bound T hb]
    exact giveBack_tidy h b

theorem begin_tidy (h : w.Tidy) (port : UInt16) (s : Socket) : (s.begin T port w).2.2.Tidy := by
  obtain ⟨base, w₀, opened, cs, hready, hopening, -⟩ := begin_spec T port s w
  have hgiven : w₀.Tidy := by
    cases hready with
    | unbound => exact h
    | @stopped b hb =>
      have hnoted : (w.emit (.rebinding b.port port)).Tidy := h
      exact giveBack_tidy hnoted b
  exact hopening.tidy hgiven

theorem perform_tidy (h : w.Tidy) (s : Socket) (st : SocketStep) :
    (s.perform T w st).2.2.Tidy := by
  by_cases hside : st.side = .lifecycle
  · cases st with
    | begin port => exact begin_tidy h port s
    | stop => exact stop_tidy h s
    | _ => cases hside
  · exact h.congr (perform_tables T s w hside)

end Socket

namespace Session

variable {T : Transport σ} {ss : Session σ}

theorem tidy_step (h : ss.world.Tidy) (hacc : Accounted ss) (st : Step) :
    (ss.step T st).2.world.Tidy := by
  cases st with
  | socket i op =>
    cases hs : ss.socket? i with
    | none => rw [step_socket_of_none hs]; exact h
    | some s => rw [step_socket hs]; exact Socket.perform_tidy h s op
  | drop i =>
    cases hs : ss.socket? i with
    | none => rw [step_drop_of_none hs]; exact h
    | some s => rw [step_drop hs]; exact Socket.stop_tidy h s
  | acquire table => exact h.acquire (ss.tableOf table)
  | release k =>
    cases hk : ss.heldLease? k with
    | none => rw [step_release_of_none hk]; exact h
    | some lease => rw [step_release hk]; exact h.release lease
  | setPort k port =>
    rcases step_setPort_cases T ss k port with hs | ⟨lease, hk, hs⟩
    · rw [hs]; exact h
    · rw [hs]; exact h.setPort (hacc.ticket_marked hk) port
  | raw call => exact h.congr (rawCall_tables T ss.world call)
  | leaseOutline k => rw [step_leaseOutline]; exact h
  | construct _ | compareSlots _ _ | portOfTicket _ _ | portOfSocket _ _ | cloneTable _ | table _ =>
    exact h

/-- The tables of a session stay tidy, from tables none of whose slots is taken at first. -/
theorem tidy_run (T : Transport σ) (transport : σ) (capacities : List Nat)
    (specs : List SocketSpec) (steps : List Step) :
    ((ofTables transport (capacities.map .ofCapacity) specs).run T steps).2.world.Tidy := by
  have hstart : Accounted (ofTables transport (capacities.map .ofCapacity) specs) ∧
      (ofTables transport (capacities.map .ofCapacity) specs).world.Tidy := by
    refine ⟨accounted_ofTables transport capacities specs, ?_⟩
    intro t ht
    obtain ⟨capacity, -, rfl⟩ := List.mem_map.1 ht
    exact SlotTable.tidy_ofCapacity capacity
  refine (run_induction T (P := fun ss => Accounted ss ∧ ss.world.Tidy) ?_ hstart).2
  intro ss st _ ⟨hacc, htidy⟩
  exact ⟨hacc.step st, tidy_step htidy hacc st⟩

end Session
end Datagram
