import Mathlib.Data.List.Basic
import Datagram.Proofs.SlotAccounting
import Datagram.Script

/-!
# Who holds the slots of a table

The holders of a table are the leases taken outside of sockets and not given back, and the bound
sockets that use the table or a clone of it. After every run a slot is marked as leased exactly when
one holder has it, and as many slots are in use as there are holders. Once everything has been given
back no slot is in use and no port is shown, whatever the transport has answered to the closes.
-/

namespace Datagram

variable {σ : Type}

def Lease.slotIn (table : Nat) (l : Lease) : Option Nat :=
  if l.table = table then some l.slot else none

theorem Lease.count_slotIn (leases : List Lease) (table slot : Nat) :
    (leases.filterMap (Lease.slotIn table)).count slot = leases.count ⟨table, slot⟩ := by
  have hlease (l : Lease) : (Lease.slotIn table l == some slot) = (l == ⟨table, slot⟩) := by
    rw [Bool.eq_iff_iff, beq_iff_eq, beq_iff_eq, Lease.slotIn]
    constructor
    · intro he
      split at he
      · rename_i htable
        cases he
        rw [← htable]
      · cases he
    · rintro rfl
      exact if_pos rfl
  rw [List.count_filterMap]
  exact List.countP_congr fun l _ => by rw [hlease]

namespace SlotTable

/-- The holders of a table are exact: one for each slot that is leased, and none for any other. -/
structure HeldBy (t : SlotTable) (holders : List Nat) : Prop where
  nodup : holders.Nodup
  lt_capacity : ∀ slot ∈ holders, slot < t.capacity
  marks_iff : ∀ slot, t.marks slot = true ↔ holders.count slot = 1
  inUse : t.inUse = holders.length

theorem heldBy_of_count {t : SlotTable} {holders : List Nat}
    (h : ∀ slot, holders.count slot = (t.marks slot).toNat) : t.HeldBy holders where
  nodup := by
    rw [List.nodup_iff_count]
    intro slot
    rw [h slot]
    exact Bool.toNat_le _
  lt_capacity slot hslot := by
    have hpos : 0 < holders.count slot := List.count_pos_iff.2 hslot
    apply lt_capacity_of_marks
    cases hm : t.marks slot with
    | true => rfl
    | false => rw [h slot, hm] at hpos; exact absurd hpos (Nat.lt_irrefl 0)
  marks_iff slot := by
    rw [h slot]
    cases t.marks slot <;> simp
  inUse := (length_eq_inUse h).symm

end SlotTable

namespace Session

variable {T : Transport σ} {ss : Session σ}

/-- The slots of a table that are held: by leases outside of sockets, and by the bound sockets
that use the table. -/
def holders (ss : Session σ) (table : Nat) : List Nat :=
  ss.tickets.filterMap (fun k => k.lease?.bind (Lease.slotIn table)) ++
    ss.gather fun s => if s.table = table then s.slot else none

/-- Holders and marks of a table agree slot by slot. -/
theorem Accounted.count_holders (h : Accounted ss) (table slot : Nat) :
    (ss.holders table).count slot = ((ss.world.table table).marks slot).toNat := by
  have hsockets : (ss.gather Socket.lease?).filterMap (Lease.slotIn table) =
      ss.gather fun s => if s.table = table then s.slot else none := by
    rw [gather, List.filterMap_filterMap]
    apply List.filterMap_congr
    intro o ho
    cases o with
    | none => rfl
    | some s =>
      rcases s.binding.eq_none_or_eq_some with hb | ⟨b, hb⟩
      · simp [Socket.lease?, Socket.slot, hb]
      · simp [Socket.lease?, Socket.slot, Lease.slotIn, hb, h.table_eq s b ho hb]
  have hholders : ss.holders table = ss.leases.filterMap (Lease.slotIn table) := by
    rw [holders, leases, List.filterMap_append, hsockets, List.filterMap_filterMap]
  calc
    (ss.holders table).count slot = ss.leases.count ⟨table, slot⟩ := by
      rw [hholders, Lease.count_slotIn]
    _ = ((ss.world.table table).marks slot).toNat := h.count_leases ⟨table, slot⟩

/-- The tables are free of all leases and show no port. -/
def Vacant (tables : List SlotTable) : Prop :=
  ∀ i, (tables.getD i .empty).inUse = 0 ∧ (tables.getD i .empty).boundPorts = []

def Idle (i : Nat) (ss : Session σ) : Prop := ∀ s, ss.socket? i = some s → s.binding = none

def Returned (k : Nat) (ss : Session σ) : Prop := ss.heldLease? k = none

theorem Accounted.vacant (h : Accounted ss) (hidle : ∀ i, Idle i ss)
    (hreturned : ∀ k, Returned k ss) : Vacant ss.world.tables := by
  intro i
  have htickets : ss.tickets.filterMap Ticket.lease? = [] := by
    rw [List.filterMap_eq_nil_iff]
    intro ticket hticket
    obtain ⟨k, hk⟩ := List.getElem?_of_mem hticket
    have hnone := hreturned k
    rw [Returned, heldLease?, hk] at hnone
    exact hnone
  have hsockets : ss.gather Socket.lease? = [] := by
    rw [gather, List.filterMap_eq_nil_iff]
    intro o ho
    obtain ⟨k, hk⟩ := List.getElem?_of_mem ho
    cases o with
    | none => rfl
    | some s =>
      have hb := hidle k s (by rw [socket?, hk]; rfl)
      rw [Option.bind_some, Socket.lease?, hb]
      rfl
  have hfree (slot : Nat) : ([] : List Nat).count slot = ((ss.world.table i).marks slot).toNat := by
    have hcount := h.count_leases ⟨i, slot⟩
    rw [leases, htickets, hsockets] at hcount
    exact hcount
  have hzero : (ss.world.table i).inUse = 0 := (SlotTable.heldBy_of_count hfree).inUse
  exact ⟨hzero, SlotTable.boundPorts_of_inUse_zero hzero⟩

end Session

/-- Steps that only give back: stopping or dropping a socket, and dropping a lease. -/
def Step.givesBack : Step → Bool
  | .socket _ .stop | .drop _ | .release _ => true
  | _ => false

namespace Session

variable {T : Transport σ} {ss : Session σ}

theorem socket?_stop (i j : Nat) (ss : Session σ) :
    (ss.step T (.socket j .stop)).2.socket? i =
      if i = j then (ss.socket? j).map Socket.released else ss.socket? i := by
  cases hj : ss.socket? j with
  | none =>
    rw [step_socket_of_none hj]
    split
    · rename_i hi; rw [hi, hj]; rfl
    · rfl
  | some s =>
    have hs : (s.perform T ss.world .stop).2.1 = s.released := Socket.stop_released T s ss.world
    rw [step_socket hj, hs]
    exact join_getElem?_set (lt_length_of_socket? hj) (some s.released) i

theorem socket?_drop (i j : Nat) (ss : Session σ) :
    (ss.step T (.drop j)).2.socket? i = if i = j then none else ss.socket? i := by
  cases hj : ss.socket? j with
  | none =>
    rw [step_drop_of_none hj]
    split
    · rename_i hi; rw [hi, hj]
    · rfl
  | some s =>
    rw [step_drop hj]
    exact join_getElem?_set (lt_length_of_socket? hj) none i

theorem heldLease?_release (k j : Nat) (ss : Session σ) :
    (ss.step T (.release j)).2.heldLease? k = if k = j then none else ss.heldLease? k := by
  cases hj : ss.heldLease? j with
  | none =>
    rw [step_release_of_none hj]
    split
    · rename_i hk; rw [hk, hj]
    · rfl
  | some lease =>
    rw [step_release hj, heldLease?, List.getElem?_modify]
    by_cases hk : k = j
    · subst k
      cases ss.tickets[j]? <;> simp
    · simp [heldLease?, hk, Ne.symm hk]

theorem Idle.step {i : Nat} (h : Idle i ss) {st : Step} (hst : st.givesBack = true) :
    Idle i (ss.step T st).2 := by
  intro s hs
  cases st with
  | socket j op =>
    cases op with
    | stop =>
      rw [socket?_stop] at hs
      split at hs
      · obtain ⟨s₀, -, rfl⟩ := Option.map_eq_some_iff.1 hs
        rfl
      · exact h s hs
    | _ => cases hst
  | drop j =>
    rw [socket?_drop] at hs
    split at hs
    · cases hs
    · exact h s hs
  | release k =>
    rw [socket?, step_sockets rfl] at hs
    exact h s hs
  | _ => cases hst

theorem Returned.step {k : Nat} (h : Returned k ss) {st : Step} (hst : st.givesBack = true) :
    Returned k (ss.step T st).2 := by
  cases st with
  | socket j op =>
    cases hj : ss.socket? j with
    | none => rw [step_socket_of_none hj]; exact h
    | some s => rw [step_socket hj]; exact h
  | drop j =>
    cases hj : ss.socket? j with
    | none => rw [step_drop_of_none hj]; exact h
    | some s => rw [step_drop hj]; exact h
  | release j =>
    rw [Returned, heldLease?_release]
    split
    · rfl
    · exact h
  | _ => cases hst

/-- Stopping or dropping every socket and giving back every lease leaves no slot in use. -/
theorem Accounted.vacant_of_givesBack (h : Accounted ss) {ends : List Step}
    (hends : ∀ st ∈ ends, st.givesBack = true)
    (hsockets : ∀ i < ss.sockets.length, .drop i ∈ ends ∨ .socket i .stop ∈ ends)
    (htickets : ∀ k < ss.tickets.length, .release k ∈ ends) :
    Vacant (ss.run T ends).2.world.tables := by
  have hkeepIdle (i : Nat) (ss : Session σ) (st : Step) (hst : st ∈ ends)
      (hi : Idle i ss) : Idle i (ss.step T st).2 := hi.step (hends st hst)
  have hkeepReturned (k : Nat) (ss : Session σ) (st : Step) (hst : st ∈ ends)
      (hk : Returned k ss) : Returned k (ss.step T st).2 := hk.step (hends st hst)
  apply (h.run ends).vacant
  · intro i
    by_cases hi : i < ss.sockets.length
    · rcases hsockets i hi with hmem | hmem
      · apply run_of_mem T hmem (hkeepIdle i)
        intro ss s hs
        rw [socket?_drop, if_pos rfl] at hs
        cases hs
      · apply run_of_mem T hmem (hkeepIdle i)
        intro ss s hs
        rw [socket?_stop, if_pos rfl] at hs
        obtain ⟨s₀, -, rfl⟩ := Option.map_eq_some_iff.1 hs
        rfl
    · apply run_induction T (hkeepIdle i)
      intro s hs
      exact absurd (lt_length_of_socket? hs) hi
  · intro k
    by_cases hk : k < ss.tickets.length
    · apply run_of_mem T (htickets k hk) (hkeepReturned k)
      intro ss
      rw [Returned, heldLease?_release, if_pos rfl]
    · apply run_induction T (hkeepReturned k)
      rw [Returned, heldLease?, List.getElem?_eq_none (Nat.le_of_not_lt hk)]
      rfl

/-- After every run the holders account exactly for every table. Nothing held leaves nothing in use,
and that is what becomes of a session whose sockets are all stopped or dropped and whose leases are
all given back, even if every close fails. -/
theorem slots_accounted (T : Transport σ) (transport : σ) (capacities : List Nat)
    (specs : List SocketSpec) (steps : List Step) :
    let ss := ((ofTables transport (capacities.map .ofCapacity) specs).run T steps).2
    (∀ table, (ss.world.table table).HeldBy (ss.holders table)) ∧
      ((∀ i, Idle i ss) → (∀ k, Returned k ss) → Vacant ss.world.tables) ∧
      ∀ ends : List Step, (∀ st ∈ ends, st.givesBack = true) →
        (∀ i < ss.sockets.length, .drop i ∈ ends ∨ .socket i .stop ∈ ends) →
        (∀ k < ss.tickets.length, .release k ∈ ends) →
        Vacant (ss.run T ends).2.world.tables := by
  intro ss
  have h : Accounted ss := (accounted_ofTables transport capacities specs).run steps
  refine ⟨?_, h.vacant, ?_⟩
  · intro table
    exact SlotTable.heldBy_of_count (h.count_holders table)
  · intro ends hends hsockets htickets
    exact h.vacant_of_givesBack hends hsockets htickets

/-- A bound socket and a lease fill a table of two; giving both back empties it, although the close
fails. -/
theorem slots_accounted_failing_close :
    let start := ofTables ({ close := [.fails (.close "broken")] } : Script)
      ([2].map .ofCapacity) [{ table := 0 }]
    let ss := (start.run Script.transport [.socket 0 (.begin 7000), .acquire 0]).2
    ss.holders 0 = [1, 0] ∧ (ss.world.table 0).HeldBy (ss.holders 0) ∧
      Vacant (ss.run Script.transport [.drop 0, .release 0]).2.world.tables := by
  intro start ss
  have h := slots_accounted Script.transport { close := [.fails (.close "broken")] } [2]
    [{ table := 0 }] [.socket 0 (.begin 7000), .acquire 0]
  refine ⟨by decide, h.1 0, h.2.2 [.drop 0, .release 0] ?_ ?_ ?_⟩
  · intro st hst
    rcases List.mem_cons.1 hst with rfl | hst
    · rfl
    · obtain rfl := List.mem_singleton.1 hst
      rfl
  · intro i hi
    obtain rfl : i = 0 := Nat.lt_one_iff.1 hi
    exact .inl (List.mem_cons_self ..)
  · intro k hk
    obtain rfl : k = 0 := Nat.lt_one_iff.1 hk
    exact List.mem_cons_of_mem _ (List.mem_singleton_self _)

end Session
end Datagram
