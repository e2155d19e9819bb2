import Mathlib.Order.Bounds.Basic
import Datagram.Proofs.RecordedPorts
import Datagram.Proofs.TidyTables

/-!
# Taking slots and giving them back

A lease is given for the lowest slot that nobody holds. A slot that nobody holds carries nothing, so
taking leases, recording ports under them and dropping them leaves no trace once all of them are
dropped, in whatever order that happens. Dropping frees the slots of the leases that are dropped and
no others, so that its order does not matter either.
-/

namespace Datagram

variable {σ : Type}

/-- Steps that take leases, or use and drop leases that are numbered from `n` on. -/
def Step.borrows (n : Nat) : Step → Bool
  | .acquire _ => true
  | .setPort k _ | .release k => n ≤ k
  | _ => false

namespace Lease

variable {ts ts' : List SlotTable} {l lease : Lease}

theorem tables_ext (hlength : ts.length = ts'.length) (h : ∀ l : Lease, l.cell? ts = l.cell? ts') :
    ts = ts' := by
  apply List.ext_getElem hlength
  intro i hi hi'
  have hentries : ts[i].entries = ts'[i].entries := by
    apply List.ext_getElem?
    intro slot
    have hcell := h ⟨i, slot⟩
    simpa only [cell?, List.getD_eq_getElem?_getD, List.getElem?_eq_getElem hi,
      List.getElem?_eq_getElem hi', Option.getD_some] using hcell
  cases hts : ts[i]
  cases hts' : ts'[i]
  rw [hts, hts'] at hentries
  exact congrArg SlotTable.mk hentries

theorem cell?_freed_self (h : l.marked ts = true) : l.cell? (l.freed ts) = some .free := by
  rw [freed, cell?_set_self (lt_length_of_marked h)]
  exact List.getElem?_set_self (SlotTable.lt_capacity_of_marks h)

theorem length_freed (l : Lease) (ts : List SlotTable) : (l.freed ts).length = ts.length :=
  List.length_set

theorem length_noted (l : Lease) (port : UInt16) (ts : List SlotTable) :
    (l.noted port ts).length = ts.length := List.length_set

end Lease

namespace World

theorem Tidy.cell?_of_unmarked {w : World σ} (h : w.Tidy) {l : Lease}
    (hslot : l.slot < (w.table l.table).capacity) (hl : l.marked w.tables = false) :
    l.cell? w.tables = some .free := by
  have hentry : (w.table l.table).entries[l.slot]? = some (w.table l.table).entries[l.slot] :=
    List.getElem?_eq_getElem hslot
  have hfree : (w.table l.table).entries[l.slot].leased = false := by
    rw [Lease.marked_eq] at hl
    change ((w.table l.table).entries[l.slot]?).any _ = false at hl
    rw [hentry] at hl
    exact hl
  change (w.table l.table).entries[l.slot]? = _
  rw [hentry, h.table l.table l.slot _ hentry hfree]

end World

namespace Session

variable {T : Transport σ} {ss : Session σ} {l : Lease} {n : Nat} {base : List SlotTable}

theorem Accounted.mem_holders_iff (h : Accounted ss) {table slot : Nat} :
    slot ∈ ss.holders table ↔ (ss.world.table table).marks slot = true := by
  rw [← List.count_pos_iff, h.count_holders]
  cases (ss.world.table table).marks slot <;> decide

theorem heldLease?_acquire (handle k : Nat) :
    (ss.step T (.acquire handle)).2.heldLease? k =
      if k = ss.tickets.length then (ss.world.acquire (ss.tableOf handle)).1.toOption
      else ss.heldLease? k := by
  have htickets : (ss.step T (.acquire handle)).2.tickets = ss.tickets ++
      [⟨(ss.world.acquire (ss.tableOf handle)).1.toOption,
        (ss.world.acquire (ss.tableOf handle)).1.toOption.isSome⟩] := rfl
  rw [heldLease?, htickets]
  rcases Nat.lt_trichotomy k ss.tickets.length with hlt | rfl | hlt
  · rw [List.getElem?_append_left hlt, if_neg (Nat.ne_of_lt hlt)]
    rfl
  · rw [List.getElem?_concat_length, if_pos rfl]
    cases (ss.world.acquire (ss.tableOf handle)).1 <;> rfl
  · rw [if_neg (Nat.ne_of_gt hlt), heldLease?_of_length_le (Nat.le_of_lt hlt),
      List.getElem?_eq_none]
    · rfl
    · rw [List.length_append, List.length_singleton]
      exact hlt

/-- How taking a lease ends: with the lowest slot that is not held, or with a refusal because all
are. Nothing but the entry of this slot is changed. -/
theorem Accounted.acquire_cases (h : Accounted ss) (T : Transport σ) (handle : Nat) :
    let table := ss.tableOf handle
    let t := ss.world.table table
    let r := ss.step T (.acquire handle)
    (∃ slot, r.1 = .lease ss.tickets.length (.ok slot) ∧ slot < t.capacity ∧
      IsLeast {i | i ∉ ss.holders table} slot ∧
      r.2.heldLease? ss.tickets.length = some ⟨table, slot⟩ ∧
      r.2.world.tables = ss.world.tables.set table (t.put slot { leased := true })) ∨
    (r.1 = .lease ss.tickets.length (.error (.noFreeSlot t.capacity)) ∧
      (∀ i < t.capacity, i ∈ ss.holders table) ∧
      r.2.heldLease? ss.tickets.length = none ∧ r.2.world.tables = ss.world.tables) := by
  intro table t r
  have hanswer : r.1 = .lease ss.tickets.length ((ss.world.acquire table).1.map (·.slot)) := rfl
  have htables : r.2.world.tables = (ss.world.acquire table).2.tables := rfl
  have hheld : r.2.heldLease? ss.tickets.length = (ss.world.acquire table).1.toOption := by
    rw [heldLease?_acquire, if_pos rfl]
  rw [hanswer, htables, hheld]
  unfold World.acquire
  change (∃ slot, _ ∧ _ ∧ _ ∧ _) ∨ _
  cases hslot : (ss.world.table table).acquire with
  | error e =>
    obtain ⟨hfull, rfl⟩ := SlotTable.acquire_eq_error hslot
    exact .inr ⟨rfl, fun i hi => h.mem_holders_iff.2 (hfull i hi), rfl, rfl⟩
  | ok taken =>
    obtain ⟨slot, t'⟩ := taken
    obtain ⟨hlt, hfree, rfl⟩ := SlotTable.acquire_eq_ok hslot
    refine .inl ⟨slot, rfl, hlt, ⟨?_, ?_⟩, rfl, rfl⟩
    · change ¬ slot ∈ ss.holders table
      rw [h.mem_holders_iff, hfree]
      exact Bool.false_ne_true
    · intro i hi
      apply Nat.le_of_not_lt
      intro hbelow
      exact hi (h.mem_holders_iff.2 (SlotTable.marks_of_lt_acquired hslot hbelow))

/-- All that has happened to the tables is that leases numbered from `n` on have been taken, and the
slots of those that are still held were free. -/
structure Borrowed (n : Nat) (base : List SlotTable) (ss : Session σ) : Prop where
  accounted : Accounted ss
  tidy : ss.world.Tidy
  born : n ≤ ss.tickets.length
  length_eq : ss.world.tables.length = base.length
  kept : ∀ l, (∀ k, n ≤ k → ss.heldLease? k ≠ some l) → l.cell? ss.world.tables = l.cell? base
  free : ∀ k l, n ≤ k → ss.heldLease? k = some l → l.cell? base = some .free

namespace Borrowed

theorem acquire (h : Borrowed n base ss) (handle : Nat) :
    Borrowed n base (ss.step T (.acquire handle)).2 := by
  have hbefore : ss.heldLease? ss.tickets.length = none := heldLease?_of_length_le le_rfl
  have hother {k : Nat} (hk : k ≠ ss.tickets.length) :
      (ss.step T (.acquire handle)).2.heldLease? k = ss.heldLease? k := by
    rw [heldLease?_acquire, if_neg hk]
  have hlater {k : Nat} {l : Lease} (hk : ss.heldLease? k = some l) :
      (ss.step T (.acquire handle)).2.heldLease? k = some l := by
    rw [hother, hk]
    rintro rfl
    rw [hbefore] at hk
    cases hk
  have hborn := h.born.trans (length_tickets_step T ss (.acquire handle))
  have hacc := h.accounted.step (T := T) (.acquire handle)
  have htidy := tidy_step (T := T) h.tidy h.accounted (.acquire handle)
  rcases h.accounted.acquire_cases T handle with
    ⟨slot, -, hlt, hleast, hheld, htables⟩ | ⟨-, -, hnone, htables⟩
  · have hfree : Lease.marked ⟨ss.tableOf handle, slot⟩ ss.world.tables = false := by
      rw [Bool.eq_false_iff]
      exact fun hmarked => hleast.1 (h.accounted.mem_holders_iff.2 hmarked)
    refine ⟨hacc, htidy, hborn, ?_, ?_, ?_⟩
    · rw [htables, List.length_set, h.length_eq]
    · intro l hl
      have hne : l ≠ ⟨ss.tableOf handle, slot⟩ := by
        rintro rfl
        exact hl _ h.born hheld
      rw [htables, Lease.cell?_set_of_ne _ hne]
      · exact h.kept l fun k hk hkl => hl k hk (hlater hkl)
      · intro i hi
        exact List.getElem?_set_ne (Ne.symm hi)
    · intro k l hk hkl
      by_cases hnew : k = ss.tickets.length
      · -- the slot just taken was held by nobody, so that nothing had happened to it
        subst k
        obtain rfl := Option.some.inj (hheld.symm.trans hkl)
        rw [← h.kept, h.tidy.cell?_of_unmarked hlt hfree]
        intro j _ hj
        rw [h.accounted.ticket_marked hj] at hfree
        cases hfree
      · exact h.free k l hk (by rw [← hother hnew, hkl])
  · refine ⟨hacc, htidy, hborn, ?_, ?_, ?_⟩
    · rw [htables, h.length_eq]
    · intro l hl
      rw [htables]
      exact h.kept l fun k hk hkl => hl k hk (hlater hkl)
    · intro k l hk hkl
      by_cases hnew : k = ss.tickets.length
      · subst k
        rw [hnone] at hkl
        cases hkl
      · exact h.free k l hk (by rw [← hother hnew, hkl])

theorem setPort (h : Borrowed n base ss) {k : Nat} (hk : n ≤ k) (port : UInt16) :
    Borrowed n base (ss.step T (.setPort k port)).2 := by
  have hacc := h.accounted.step (T := T) (.setPort k port)
  have htidy := tidy_step (T := T) h.tidy h.accounted (.setPort k port)
  rcases step_setPort_cases T ss k port with hs | ⟨lease, hlease, hs⟩
  · rw [hs]
    exact h
  · rw [hs] at hacc htidy ⊢
    refine ⟨hacc, htidy, h.born, ?_, ?_, h.free⟩
    · exact (Lease.length_noted lease port ss.world.tables).trans h.length_eq
    · intro l hl
      have hne : l ≠ lease := by
        rintro rfl
        exact hl k hk hlease
      exact (Lease.cell?_noted port hne).trans (h.kept l hl)

theorem release (h : Borrowed n base ss) {k : Nat} (hk : n ≤ k) :
    Borrowed n base (ss.step T (.release k)).2 := by
  have hacc := h.accounted.step (T := T) (.release k)
  have htidy := tidy_step (T := T) h.tidy h.accounted (.release k)
  have hborn := h.born.trans (length_tickets_step T ss (.release k))
  cases hlease : ss.heldLease? k with
  | none =>
    rw [step_release_of_none hlease]
    exact h
  | some lease =>
    have htables : (ss.step T (.release k)).2.world.tables = lease.freed ss.world.tables := by
      rw [step_release hlease]
      rfl
    refine ⟨hacc, htidy, hborn, ?_, ?_, ?_⟩
    · rw [htables, Lease.length_freed, h.length_eq]
    · intro l hl
      rw [htables]
      by_cases hne : l = lease
      · subst l
        rw [Lease.cell?_freed_self (h.accounted.ticket_marked hlease), h.free k lease hk hlease]
      · rw [Lease.cell?_freed hne]
        apply h.kept l
        intro j hj hjl
        apply hl j hj
        rw [heldLease?_release, if_neg, hjl]
        rintro rfl
        exact hne (Option.some.inj (hjl.symm.trans hlease))
    · intro j l hj hjl
      rw [heldLease?_release] at hjl
      split at hjl
      · cases hjl
      · exact h.free j l hj hjl

theorem step (h : Borrowed n base ss) {st : Step} (hst : st.borrows n = true) :
    Borrowed n base (ss.step T st).2 := by
  cases st with
  | acquire handle => exact h.acquire handle
  | setPort k port => exact h.setPort (of_decide_eq_true hst) port
  | release k => exact h.release (of_decide_eq_true hst)
  | _ => cases hst

theorem run (h : Borrowed n base ss) {ops : List Step} (hops : ∀ st ∈ ops, st.borrows n = true) :
    Borrowed n base (ss.run T ops).2 :=
  run_induction T (fun _ st hst h => h.step (hops st hst)) h

theorem restored (h : Borrowed n base ss) (hreturned : ∀ k, n ≤ k → Returned k ss) :
    ss.world.tables = base := by
  apply Lease.tables_ext h.length_eq
  intro l
  apply h.kept l
  intro k hk
  rw [hreturned k hk]
  exact nofun

end Borrowed

theorem Accounted.borrowed (h : Accounted ss) (htidy : ss.world.Tidy) :
    Borrowed ss.tickets.length ss.world.tables ss where
  accounted := h
  tidy := htidy
  born := le_rfl
  length_eq := rfl
  kept _ _ := rfl
  free k l hk hl := by
    rw [heldLease?_of_length_le hk] at hl
    cases hl

/-- The lease that a step may use, while it is held. -/
def inHand? (ss : Session σ) (st : Step) : Option Lease := st.holder?.bind ss.leaseOf?

variable {st : Step} {x : Holder}

theorem tables_givesBack (hst : st.givesBack = true) :
    (ss.step T st).2.world.tables =
      (ss.inHand? st).elim ss.world.tables (·.freed ss.world.tables) := by
  have hstop {i : Nat} {s : Socket} (hs : ss.socket? i = some s) :
      (s.stop T ss.world).2.tables = (ss.leaseOf? (.socket i)).elim ss.world.tables
        (·.freed ss.world.tables) := by
    rw [leaseOf?, hs, Option.bind_some, Socket.lease?]
    rcases s.binding.eq_none_or_eq_some with hb | ⟨b, hb⟩
    · rw [Socket.stop_of_unbound T hb, hb]
      rfl
    · rw [Socket.stop_of_bound T hb, hb]
      exact (Socket.giveBack_spec T b ss.world).1
  have hnobody {i : Nat} (hs : ss.socket? i = none) : ss.leaseOf? (.socket i) = none := by
    rw [leaseOf?, hs]
    rfl
  cases st with
  | socket i op =>
    cases op with
    | stop =>
      rw [inHand?, Step.holder?, Option.bind_some]
      cases hs : ss.socket? i with
      | none => rw [step_socket_of_none hs, hnobody hs]; rfl
      | some s => rw [step_socket hs]; exact hstop hs
    | _ => cases hst
  | drop i =>
    rw [inHand?, Step.holder?, Option.bind_some]
    cases hs : ss.socket? i with
    | none => rw [step_drop_of_none hs, hnobody hs]; rfl
    | some s => rw [step_drop hs]; exact hstop hs
  | release k =>
    rw [inHand?, Step.holder?, Option.bind_some, leaseOf?]
    cases hk : ss.heldLease? k with
    | none => rw [step_release_of_none hk]; rfl
    | some lease => rw [step_release hk]; rfl
  | _ => cases hst

theorem leaseOf?_givesBack (T : Transport σ) (ss : Session σ) (hst : st.givesBack = true)
    (x : Holder) [Decidable (st.holder? = some x)] :
    (ss.step T st).2.leaseOf? x = if st.holder? = some x then none else ss.leaseOf? x := by
  split
  · rename_i hx
    cases st with
    | socket i op =>
      cases op with
      | stop =>
        cases hx
        rw [leaseOf?, socket?_stop, if_pos rfl]
        cases ss.socket? i <;> rfl
      | _ => cases hst
    | drop i =>
      cases hx
      rw [leaseOf?, socket?_drop, if_pos rfl]
      rfl
    | release k =>
      cases hx
      rw [leaseOf?, heldLease?_release, if_pos rfl]
    | _ => cases hst
  · rename_i hx
    apply leaseOf?_step_of_ne T hx
    rintro handle rfl
    cases hst

theorem inHand?_givesBack (hst : st.givesBack = true) (hl : ss.inHand? st ≠ some l) (st' : Step) :
    (ss.step T st).2.inHand? st' = some l ↔ ss.inHand? st' = some l := by
  rw [inHand?, inHand?]
  cases hx : st'.holder? with
  | none => rfl
  | some x =>
    classical
    rw [Option.bind_some, Option.bind_some, leaseOf?_givesBack T ss hst]
    split
    · rename_i hsame
      rw [inHand?, hsame, Option.bind_some] at hl
      exact ⟨nofun, fun he => absurd he hl⟩
    · rfl

theorem Accounted.cell?_run_givesBack (h : Accounted ss) {drops : List Step}
    (hdrops : ∀ st ∈ drops, st.givesBack = true) (l : Lease) :
    l.cell? (ss.run T drops).2.world.tables =
      if some l ∈ drops.map ss.inHand? then some .free else l.cell? ss.world.tables := by
  induction drops generalizing ss with
  | nil => rfl
  | cons st drops ih =>
    obtain ⟨hst, hrest⟩ := List.forall_mem_cons.1 hdrops
    have hrun := ih (h.step (T := T) st) hrest
    rw [tables_givesBack hst] at hrun
    change l.cell? ((ss.step T st).2.run T drops).2.world.tables = _
    by_cases hl : ss.inHand? st = some l
    · obtain ⟨x, -, hx⟩ := Option.bind_eq_some_iff.1 hl
      rw [hrun, hl, Option.elim_some, Lease.cell?_freed_self (h.marked_of_holder hx), ite_self,
        List.map_cons, if_pos (hl ▸ List.mem_cons_self)]
    · have hkept : l.cell? ((ss.inHand? st).elim ss.world.tables (·.freed ss.world.tables)) =
          l.cell? ss.world.tables := by
        cases hlease : ss.inHand? st with
        | none => rfl
        | some lease =>
          apply Lease.cell?_freed
          rintro rfl
          exact hl hlease
      have hlater : some l ∈ drops.map (ss.step T st).2.inHand? ↔
          some l ∈ (st :: drops).map ss.inHand? := by
        rw [List.map_cons, List.mem_cons, List.mem_map, List.mem_map]
        simp only [inHand?_givesBack hst hl, Ne.symm hl, false_or]
      rw [hrun, hkept]
      simp only [hlater]

theorem length_run_givesBack {drops : List Step} (hdrops : ∀ st ∈ drops, st.givesBack = true) :
    (ss.run T drops).2.world.tables.length = ss.world.tables.length := by
  refine run_induction T (P := fun ss' => ss'.world.tables.length = ss.world.tables.length) ?_ rfl
  intro ss' st hst hlength
  rw [tables_givesBack (hdrops st hst), ← hlength]
  cases ss'.inHand? st with
  | none => rfl
  | some lease => exact Lease.length_freed lease _

/-- In which order leases are given back does not matter to the tables. -/
theorem Accounted.tables_run_perm (h : Accounted ss) {drops drops' : List Step}
    (hdrops : ∀ st ∈ drops, st.givesBack = true) (hperm : drops.Perm drops') :
    (ss.run T drops).2.world.tables = (ss.run T drops').2.world.tables := by
  have hdrops' : ∀ st ∈ drops', st.givesBack = true := fun st hst =>
    hdrops st (hperm.mem_iff.2 hst)
  apply Lease.tables_ext
  · rw [length_run_givesBack hdrops, length_run_givesBack hdrops']
  · intro l
    rw [h.cell?_run_givesBack hdrops, h.cell?_run_givesBack hdrops']
    simp only [(hperm.map ss.inHand?).mem_iff]

/-- In every reachable session a lease is given for the lowest slot of its table that nobody holds,
and the entry of this slot is all that changes; it is refused, without any change, exactly when all
slots are held. Taking leases, recording ports under them and dropping them restores all tables once
none of these leases is left, whatever was held before. Dropping leases, those of sockets as well as
others, leads to the same tables in every order. -/
theorem slots_taken_and_restored (T : Transport σ) (transport : σ) (capacities : List Nat)
    (specs : List SocketSpec) (steps : List Step) :
    let ss := ((ofTables transport (capacities.map .ofCapacity) specs).run T steps).2
    (∀ handle, ∃ result,
      let table := ss.tableOf handle
      let t := ss.world.table table
      let r := ss.step T (.acquire handle)
      r.1 = .lease ss.tickets.length result ∧
        ((∃ e, result = .error e) ↔ ∀ i < t.capacity, i ∈ ss.holders table) ∧
        (∀ e, result = .error e →
          e = .noFreeSlot t.capacity ∧ r.2.world.tables = ss.world.tables) ∧
        ∀ slot, result = .ok slot → slot < t.capacity ∧ IsLeast {i | i ∉ ss.holders table} slot ∧
          r.2.heldLease? ss.tickets.length = some ⟨table, slot⟩ ∧
          r.2.world.tables = ss.world.tables.set table (t.put slot { leased := true })) ∧
    (∀ ops : List Step, (∀ st ∈ ops, st.borrows ss.tickets.length = true) →
      (∀ k, ss.tickets.length ≤ k → Returned k (ss.run T ops).2) →
      (ss.run T ops).2.world.tables = ss.world.tables) ∧
    ∀ drops drops' : List Step, (∀ st ∈ drops, st.givesBack = true) → drops.Perm drops' →
      (ss.run T drops).2.world.tables = (ss.run T drops').2.world.tables := by
  intro ss
  have h : Accounted ss := (accounted_ofTables transport capacities specs).run steps
  have htidy : ss.world.Tidy := tidy_run T transport capacities specs steps
  refine ⟨?_, ?_, ?_⟩
  · intro handle
    rcases h.acquire_cases T handle with
      ⟨slot, hanswer, hlt, hleast, hheld, htables⟩ | ⟨hanswer, hfull, -, htables⟩
    · refine ⟨.ok slot, hanswer, ⟨nofun, ?_⟩, nofun, ?_⟩
      · intro hfull
        exact absurd (hfull slot hlt) hleast.1
      · rintro _ ⟨⟩
        exact ⟨hlt, hleast, hheld, htables⟩
    · refine ⟨_, hanswer, ⟨fun _ => hfull, fun _ => ⟨_, rfl⟩⟩, ?_, nofun⟩
      rintro _ ⟨⟩
      exact ⟨rfl, htables⟩
  · intro ops hops hreturned
    exact ((h.borrowed htidy).run hops).restored hreturned
  · intro drops drops' hdrops hperm
    exact h.tables_run_perm hdrops hperm

/-- Between the slots of a socket and of a lease one is left. It is taken twice, with a refusal in
between, and given back twice. -/
theorem slots_taken_and_restored_nested :
    let start := ofTables ({} : Script) ([3].map .ofCapacity) [{ table := 0 }]
    let ss := (start.run Script.transport
      [.socket 0 (.begin 7000), .acquire 0, .setPort 0 9, .acquire 0, .release 0]).2
    let ops : List Step := [.acquire 0, .setPort 2 7001, .acquire 0, .release 2, .acquire 0,
      .release 4]
    IsLeast {i | i ∉ ss.holders 0} 1 ∧
      (ss.run Script.transport ops).2.world.tables = ss.world.tables ∧
      (ss.run Script.transport [.drop 0, .release 1]).2.world.tables =
        (ss.run Script.transport [.release 1, .drop 0]).2.world.tables := by
  intro start ss ops
  have h := slots_taken_and_restored Script.transport {} [3] [{ table := 0 }]
    [.socket 0 (.begin 7000), .acquire 0, .setPort 0 9, .acquire 0, .release 0]
  have hops : ∀ st ∈ ops, st.borrows ss.tickets.length = true := by decide
  have hlength : (ss.run Script.transport ops).2.tickets.length = 5 := by decide
  have hlow : ∀ k < 5, 2 ≤ k → (ss.run Script.transport ops).2.heldLease? k = none := by decide
  have hreturned : ∀ k, ss.tickets.length ≤ k → Returned k (ss.run Script.transport ops).2 := by
    intro k hk
    by_cases hlast : k < 5
    · exact hlow k hlast hk
    · apply heldLease?_of_length_le
      rw [hlength]
      exact Nat.le_of_not_lt hlast
  -- the steps need not be taken again to see that the tables are the same
  clear_value ops
  refine ⟨?_, ?_, ?_⟩
  · obtain ⟨result, hanswer, -, -, hslot⟩ := h.1 0
    have hone : (Answer.lease 2 (.ok 1) : Answer) = .lease 2 result := hanswer
    cases hone
    exact (hslot 1 rfl).2.1
  · exact h.2.1 ops hops hreturned
  · exact h.2.2 [.drop 0, .release 1] [.release 1, .drop 0] (by decide) (List.Perm.swap ..)

end Session
end Datagram
