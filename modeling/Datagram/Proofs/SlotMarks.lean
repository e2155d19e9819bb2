import Datagram.World

/-!
# Marks of the slot tables

A slot is marked when its table shows it as leased, and a lease is marked when its slot is. All
that matters about the tables for who holds which slot is the number of marks of each lease, zero
or one: acquiring adds one mark to a lease that had none, releasing takes one away, and recording
a port changes no mark. The number of slots in use is the number of marked slots.
-/

namespace Datagram

namespace SlotTable

variable {t t' : SlotTable} {slot : Nat}

def marks (t : SlotTable) (slot : Nat) : Bool := t.entries[slot]?.any (·.leased)

@[simp] theorem marks_empty (slot : Nat) : empty.marks slot = false := by
  simp [marks, empty, ofCapacity]

theorem marks_ofCapacity (capacity slot : Nat) : (ofCapacity capacity).marks slot = false := by
  simp only [marks, ofCapacity, List.getElem?_replicate]
  split <;> rfl

theorem lt_capacity_of_marks (h : t.marks slot = true) : slot < t.capacity := by
  apply Nat.lt_of_not_le
  intro hslot
  rw [marks, List.getElem?_eq_none hslot] at h
  cases h

theorem marks_put (entry : SlotEntry) (hslot : slot < t.capacity) (i : Nat) :
    (t.put slot entry).marks i = if i = slot then entry.leased else t.marks i := by
  by_cases hi : i = slot
  · subst i
    simp only [marks, put, List.getElem?_set_self hslot, Option.any_some, if_true]
  · simp only [marks, put, List.getElem?_set_ne (Ne.symm hi), if_neg hi]

theorem marks_setPort (t : SlotTable) (slot : Nat) (port : UInt16) (i : Nat) :
    (t.setPort slot port).marks i = t.marks i := by
  simp only [marks, setPort, List.getElem?_modify]
  cases t.entries[i]? with
  | none => rfl
  | some entry => by_cases hi : slot = i <;> simp [hi]

theorem marks_release (t : SlotTable) (slot i : Nat) :
    (t.release slot).marks i = if i = slot then false else t.marks i := by
  by_cases hslot : slot < t.capacity
  · exact marks_put .free hslot i
  · have hnone : t.entries[slot]? = none := List.getElem?_eq_none (Nat.le_of_not_lt hslot)
    have hsame : t.release slot = t := by
      rw [release, put, List.set_eq_of_length_le (Nat.le_of_not_lt hslot)]
    rw [hsame]
    split
    · rename_i hi
      rw [hi, marks, hnone]
      rfl
    · rfl

/-- Acquiring finds a slot of the table that is not marked, and starts it without a port. -/
theorem acquire_eq_ok (h : t.acquire = .ok (slot, t')) :
    slot < t.capacity ∧ t.marks slot = false ∧ t' = t.put slot { leased := true } := by
  unfold acquire at h
  cases hfree : t.lowestFree? with
  | none => simp [hfree] at h
  | some i =>
    simp only [hfree, Except.ok.injEq, Prod.mk.injEq] at h
    obtain ⟨rfl, rfl⟩ := h
    obtain ⟨hlt, hentry, -⟩ := List.findIdx?_eq_some_iff_getElem.1 hfree
    refine ⟨hlt, ?_, rfl⟩
    rw [marks, List.getElem?_eq_getElem hlt]
    simpa using hentry

/-- The slot that is acquired is the lowest one that is not marked. -/
theorem marks_of_lt_acquired (h : t.acquire = .ok (slot, t')) {i : Nat} (hi : i < slot) :
    t.marks i = true := by
  unfold acquire at h
  cases hfree : t.lowestFree? with
  | none => simp [hfree] at h
  | some j =>
    simp only [hfree, Except.ok.injEq, Prod.mk.injEq] at h
    obtain ⟨rfl, -⟩ := h
    obtain ⟨hlt, -, hbelow⟩ := List.findIdx?_eq_some_iff_getElem.1 hfree
    rw [marks, List.getElem?_eq_getElem (Nat.lt_trans hi hlt)]
    simpa using hbelow i hi

/-- Acquiring fails only where all slots are marked, and says how many there are. -/
theorem acquire_eq_error {e : Failure} (h : t.acquire = .error e) :
    (∀ i < t.capacity, t.marks i = true) ∧ e = .noFreeSlot t.capacity := by
  unfold acquire at h
  cases hfree : t.lowestFree? with
  | some j => simp [hfree] at h
  | none =>
    simp only [hfree, Except.error.injEq] at h
    refine ⟨?_, h.symm⟩
    intro i hi
    have hleased := List.findIdx?_eq_none_iff.1 hfree t.entries[i] (List.getElem_mem hi)
    rw [marks, List.getElem?_eq_getElem hi]
    simpa using hleased

theorem inUse_eq_countP_marks (t : SlotTable) :
    t.inUse = (List.range t.capacity).countP t.marks := by
  have hentries : (List.range t.capacity).map (fun i => t.entries[i]?.getD .free) = t.entries := by
    apply List.ext_getElem (by simp [capacity])
    intro i hi _
    simp only [List.getElem_map, List.getElem_range]
    rw [List.getElem?_eq_getElem (by simpa [capacity] using hi)]
    rfl
  calc
    t.inUse = ((List.range t.capacity).map fun i => t.entries[i]?.getD .free).countP
        (·.leased) := by
      rw [hentries, inUse]
    _ = (List.range t.capacity).countP t.marks := by
      rw [List.countP_map]
      apply List.countP_congr
      intro i hi
      have hlt : i < t.entries.length := List.mem_range.1 hi
      simp [marks, hlt]

/-- Slots listed once for every mark of the table are as many as the slots in use. -/
theorem length_eq_inUse {slots : List Nat}
    (h : ∀ i, slots.count i = (t.marks i).toNat) : slots.length = t.inUse := by
  have hperm : slots.Perm ((List.range t.capacity).filter t.marks) := by
    rw [List.perm_iff_count]
    intro i
    rw [h i]
    cases hi : t.marks i with
    | false =>
      symm
      apply List.count_eq_zero_of_not_mem
      simp [hi]
    | true =>
      rw [List.count_filter hi, List.nodup_range.count, if_pos]
      · rfl
      · exact List.mem_range.2 (lt_capacity_of_marks hi)
  rw [hperm.length_eq, ← List.countP_eq_length_filter, inUse_eq_countP_marks]

/-- A table none of whose slots is in use shows no port. -/
theorem boundPorts_of_inUse_zero (h : t.inUse = 0) : t.boundPorts = [] := by
  rw [boundPorts, List.filterMap_eq_nil_iff]
  rintro ⟨entry, slot⟩ hmem
  have hentry : entry ∈ t.entries := List.fst_mem_of_mem_zipIdx hmem
  have hfree : ¬ entry.leased = true := List.countP_eq_zero.1 h entry hentry
  simp [SlotEntry.visiblePort, hfree]

end SlotTable

/-- Whether the table of the lease shows its slot as leased. -/
def Lease.marked (l : Lease) (tables : List SlotTable) : Bool :=
  (tables.getD l.table .empty).marks l.slot

namespace World

variable {σ : Type} {w : World σ}

@[simp] theorem tables_setTable (w : World σ) (i : Nat) (t : SlotTable) :
    (w.setTable i t).tables = w.tables.set i t := rfl

theorem tables_setPort (w : World σ) (lease : Lease) (port : UInt16) :
    (w.setPort lease port).tables =
      w.tables.set lease.table ((w.table lease.table).setPort lease.slot port) := rfl

theorem tables_release (w : World σ) (lease : Lease) :
    (w.release lease).tables =
      w.tables.set lease.table ((w.table lease.table).release lease.slot) := rfl

/-- What a release leaves of the tables depends on the tables only. -/
theorem tables_release_congr {w w' : World σ} (h : w.tables = w'.tables) (lease : Lease) :
    (w.release lease).tables = (w'.release lease).tables := by
  simp only [tables_release, table, h]

theorem tables_setPort_congr {w w' : World σ} (h : w.tables = w'.tables) (lease : Lease)
    (port : UInt16) : (w.setPort lease port).tables = (w'.setPort lease port).tables := by
  simp only [tables_setPort, table, h]

theorem table_set_of_lt {i : Nat} {t : SlotTable} (hi : i < w.tables.length) (j : Nat) :
    (w.tables.set i t).getD j .empty = if j = i then t else w.table j := by
  by_cases hj : j = i
  · subst j
    simp [List.getD_eq_getElem?_getD, hi]
  · rw [if_neg hj, List.getD_eq_getElem?_getD, List.getElem?_set_ne (Ne.symm hj),
      ← List.getD_eq_getElem?_getD, table]

/-- Only a table that exists has a slot to give. -/
theorem lt_length_of_capacity {i slot : Nat} (h : slot < (w.table i).capacity) :
    i < w.tables.length := by
  apply Nat.lt_of_not_le
  intro hi
  rw [table, List.getD_eq_getElem?_getD, List.getElem?_eq_none hi] at h
  exact Nat.not_lt_zero slot h

theorem marked_acquire {i slot : Nat} {t : SlotTable}
    (h : (w.table i).acquire = .ok (slot, t)) (l : Lease) :
    (l.marked (w.setTable i t).tables).toNat =
      (l.marked w.tables).toNat + [Lease.mk i slot].count l := by
  obtain ⟨hlt, hfree, rfl⟩ := SlotTable.acquire_eq_ok h
  obtain ⟨j, k⟩ := l
  simp only [Lease.marked, tables_setTable, table_set_of_lt (lt_length_of_capacity hlt)]
  by_cases hj : j = i
  · subst j
    rw [if_pos rfl, SlotTable.marks_put _ hlt]
    by_cases hk : k = slot
    · subst k
      rw [if_pos rfl, List.count_singleton_self]
      change 1 = ((w.table i).marks slot).toNat + 1
      rw [hfree]
      rfl
    · have hne : Lease.mk i slot ≠ ⟨i, k⟩ := by simpa using Ne.symm hk
      rw [if_neg hk, List.count_cons_of_ne hne]
      rfl
  · have hne : Lease.mk i slot ≠ ⟨j, k⟩ := by
      intro he
      cases he
      exact hj rfl
    rw [if_neg hj, List.count_cons_of_ne hne]
    rfl

theorem marked_of_acquire {i slot : Nat} {t : SlotTable}
    (h : (w.table i).acquire = .ok (slot, t)) :
    Lease.marked ⟨i, slot⟩ (w.setTable i t).tables = true := by
  have htaken := marked_acquire h ⟨i, slot⟩
  rw [List.count_singleton_self] at htaken
  cases hm : Lease.marked ⟨i, slot⟩ (w.setTable i t).tables with
  | true => rfl
  | false => rw [hm] at htaken; cases htaken

theorem marked_setPort (lease : Lease) (port : UInt16) (l : Lease) :
    l.marked (w.setPort lease port).tables = l.marked w.tables := by
  by_cases hi : lease.table < w.tables.length
  · rw [Lease.marked, tables_setPort, table_set_of_lt hi]
    split
    · rename_i he
      rw [SlotTable.marks_setPort, ← he]
      rfl
    · rfl
  · rw [tables_setPort, List.set_eq_of_length_le (Nat.le_of_not_lt hi)]

theorem marked_release {lease : Lease} (held : lease.marked w.tables = true) (l : Lease) :
    (l.marked (w.release lease).tables).toNat + [lease].count l = (l.marked w.tables).toNat := by
  obtain ⟨i, slot⟩ := lease
  obtain ⟨j, k⟩ := l
  have hlt : i < w.tables.length :=
    lt_length_of_capacity (SlotTable.lt_capacity_of_marks held)
  rw [Lease.marked, tables_release, table_set_of_lt hlt]
  by_cases hj : j = i
  · subst j
    rw [if_pos rfl, SlotTable.marks_release]
    by_cases hk : k = slot
    · subst k
      simp [held]
    · have hne : Lease.mk i slot ≠ ⟨i, k⟩ := by simpa using Ne.symm hk
      rw [if_neg hk, List.count_cons_of_ne hne]
      rfl
  · have hne : Lease.mk i slot ≠ ⟨j, k⟩ := by
      intro he
      cases he
      exact hj rfl
    rw [if_neg hj, List.count_cons_of_ne hne]
    rfl

end World
end Datagram
