import Datagram.Proofs.Custody

/-!
# The entries of the slot tables

What a table answers about the port of a slot is read off the entry of the slot, and the list of all
ports gives the same answers in the order of the slots. Taking a slot, recording a port for it and
freeing it change the entry of this one slot only. So what a socket does leaves the entries of all
leases that others hold as they are, and once the socket is bound its own entry has its port.
-/

namespace Datagram

variable {σ : Type}

namespace SlotTable

/-- The ports of all slots are in the order of the slots, each at most once. -/
theorem boundPorts_increasing (t : SlotTable) :
    (t.boundPorts.map Prod.fst).Pairwise (· < ·) := by
  have hplaces : (t.entries.zipIdx.map Prod.snd).Pairwise (· < ·) := by
    rw [List.zipIdx_map_snd]
    exact List.pairwise_lt_range'
  rw [List.pairwise_map] at hplaces ⊢
  rw [boundPorts, List.pairwise_filterMap]
  refine hplaces.imp ?_
  rintro ⟨entry, slot⟩ ⟨entry', slot'⟩ hlt p hp p' hp'
  obtain ⟨port, -, rfl⟩ := Option.map_eq_some_iff.1 hp
  obtain ⟨port', -, rfl⟩ := Option.map_eq_some_iff.1 hp'
  exact hlt

theorem mem_boundPorts {t : SlotTable} {slot : Nat} {port : UInt16} :
    (slot, port) ∈ t.boundPorts ↔ t.portFor slot = some port := by
  rw [boundPorts, List.mem_filterMap, portFor, Option.bind_eq_some_iff]
  constructor
  · rintro ⟨⟨entry, i⟩, hmem, hentry⟩
    obtain ⟨port', hvisible, hpair⟩ := Option.map_eq_some_iff.1 hentry
    cases hpair
    exact ⟨entry, List.mem_zipIdx_iff_getElem?.1 hmem, hvisible⟩
  · rintro ⟨entry, hentry, hvisible⟩
    exact ⟨(entry, slot), List.mem_zipIdx_iff_getElem?.2 hentry, by simp only [hvisible]; rfl⟩

theorem portFor_of_unmarked {t : SlotTable} {slot : Nat} (h : t.marks slot = false) :
    t.portFor slot = none := by
  rw [portFor]
  cases hentry : t.entries[slot]? with
  | none => rfl
  | some entry =>
    have hfree : entry.leased = false := by
      rw [marks, hentry] at h
      exact h
    simp [SlotEntry.visiblePort, hfree]

end SlotTable

/-- The port that an entry shows under which the given one has been recorded. -/
theorem SlotEntry.visiblePort_leased (port : UInt16) :
    visiblePort ⟨true, port⟩ = if port = 0 then none else some port := by
  by_cases hport : port = 0 <;> simp [visiblePort, hport]

namespace Lease

def cell? (l : Lease) (ts : List SlotTable) : Option SlotEntry :=
  (ts.getD l.table .empty).entries[l.slot]?

variable {ts : List SlotTable} {table slot : Nat} {t : SlotTable} {l lease : Lease}

theorem marked_eq (l : Lease) (ts : List SlotTable) : l.marked ts = (l.cell? ts).any (·.leased) :=
  rfl

theorem portFor_eq (l : Lease) (ts : List SlotTable) :
    (ts.getD l.table .empty).portFor l.slot = (l.cell? ts).bind SlotEntry.visiblePort := rfl

theorem lt_length_of_marked (h : l.marked ts = true) : l.table < ts.length :=
  World.lt_length_of_capacity (w := .bare ts) (SlotTable.lt_capacity_of_marks h)

/-- A table that differs from the former one in one slot leaves all other entries. -/
theorem cell?_set_of_ne
    (ht : ∀ i, i ≠ slot → t.entries[i]? = (ts.getD table .empty).entries[i]?)
    (hl : l ≠ ⟨table, slot⟩) : l.cell? (ts.set table t) = l.cell? ts := by
  obtain ⟨j, k⟩ := l
  by_cases hlt : table < ts.length
  · change ((ts.set table t).getD j .empty).entries[k]? = _
    rw [getD_set_of_lt hlt]
    split
    · rename_i hj
      subst j
      apply ht
      rintro rfl
      exact hl rfl
    · rfl
  · rw [List.set_eq_of_length_le (Nat.le_of_not_lt hlt)]

theorem cell?_set_self (hlt : l.table < ts.length) :
    l.cell? (ts.set l.table t) = t.entries[l.slot]? := by
  rw [cell?, getD_set_of_lt hlt, if_pos rfl]

theorem cell?_taken_self (h : (ts.getD table .empty).acquire = .ok (slot, t)) :
    cell? ⟨table, slot⟩ (ts.set table t) = some { leased := true } := by
  obtain ⟨hlt, -, rfl⟩ := SlotTable.acquire_eq_ok h
  have htable : table < ts.length := World.lt_length_of_capacity (w := .bare ts) hlt
  rw [cell?_set_self (l := ⟨table, slot⟩) htable]
  exact List.getElem?_set_self hlt

theorem cell?_taken (h : (ts.getD table .empty).acquire = .ok (slot, t))
    (hl : l.marked ts = true) : l.cell? (ts.set table t) = l.cell? ts := by
  obtain ⟨-, hfree, rfl⟩ := SlotTable.acquire_eq_ok h
  apply cell?_set_of_ne
  · intro i hi
    exact List.getElem?_set_ne (Ne.symm hi)
  · rintro rfl
    exact absurd hl (Bool.eq_false_iff.1 hfree)

theorem cell?_noted (port : UInt16) (hl : l ≠ lease) :
    l.cell? (lease.noted port ts) = l.cell? ts := by
  apply cell?_set_of_ne _ hl
  intro i hi
  exact List.getElem?_modify_ne _ _ (Ne.symm hi)

theorem cell?_noted_self (port : UInt16) (hl : l.marked ts = true) :
    l.cell? (l.noted port ts) = some ⟨true, port⟩ := by
  rw [noted, cell?_set_self (lt_length_of_marked hl), SlotTable.setPort, List.getElem?_modify_eq]
  rw [marked_eq, cell?] at hl
  cases hentry : (ts.getD l.table .empty).entries[l.slot]? with
  | none =>
    rw [hentry] at hl
    cases hl
  | some entry =>
    rw [hentry] at hl
    change some (SlotEntry.mk entry.leased port) = _
    rw [show entry.leased = true from hl]

theorem cell?_freed (hl : l ≠ lease) : l.cell? (lease.freed ts) = l.cell? ts := by
  apply cell?_set_of_ne _ hl
  intro i hi
  exact List.getElem?_set_ne (Ne.symm hi)

end Lease

/-- A socket that is bound has recorded its port. -/
def Stage.Noted (x : Stage) (ts : List SlotTable) : Prop :=
  ∀ b, x = .bound b → b.lease.cell? ts = some ⟨true, b.port⟩

variable {table : Nat} {x y : Stage} {ts ts' : List SlotTable} {cs : List (Call × List SlotTable)}
  {l : Lease}

/-- What a socket does is no concern of a lease that somebody else holds. -/
theorem Act.others (h : Act table x ts cs y ts') (hl : l.marked ts = true)
    (hx : x.lease? ≠ some l) : l.cell? ts' = l.cell? ts ∧ y.lease? ≠ some l := by
  cases h with
  | acquire hslot =>
    refine ⟨Lease.cell?_taken hslot hl, ?_⟩
    intro htaken
    cases htaken
    exact absurd hl (Bool.eq_false_iff.1 (SlotTable.acquire_eq_ok hslot).2.1)
  | call _ _ hc => exact ⟨rfl, hc.lease?_eq ▸ hx⟩
  | record => exact ⟨Lease.cell?_noted _ fun he => hx (congrArg some he.symm), hx⟩
  | release => exact ⟨Lease.cell?_freed fun he => hx (congrArg some he.symm), nofun⟩

theorem Custody.others (h : Custody table x ts cs y ts') (hl : l.marked ts = true)
    (hx : x.lease? ≠ some l) : l.cell? ts' = l.cell? ts ∧ y.lease? ≠ some l := by
  induction h with
  | refl => exact ⟨rfl, hx⟩
  | @tail _ _ ts₁ _ _ _ _ ha ih =>
    obtain ⟨hentry, hy⟩ := ih
    have hmarked : l.marked ts₁ = true := by
      rw [Lease.marked_eq, hentry]
      exact hl
    obtain ⟨hlast, hz⟩ := ha.others hmarked hy
    exact ⟨hlast.trans hentry, hz⟩

theorem Act.noted (h : Act table x ts cs y ts') (hx : x.Noted ts)
    (hmarked : ∀ l, x.lease? = some l → l.marked ts = true) : y.Noted ts' := by
  intro b hb
  cases h with
  | acquire | release => cases hb
  | call _ _ hc =>
    cases hc with
    | traffic => exact hx b hb
    | _ => cases hb
  | record =>
    cases hb
    exact Lease.cell?_noted_self _ (hmarked _ rfl)

theorem Custody.noted (h : Custody table x ts cs y ts') (hx : x.Noted ts)
    (hmarked : ∀ l, x.lease? = some l → l.marked ts = true) : y.Noted ts' := by
  induction h with
  | refl => exact hx
  | tail h ha ih => exact ha.noted ih (h.marked hmarked)

end Datagram
