import Datagram.Proofs.Bindings
import Datagram.Proofs.CoveredCalls
import Datagram.Proofs.SlotEntries

/-!
# Whose ports the tables show

A lease is held by one ticket or one socket, and only a step of this holder changes the entry of its
slot. So the entry of a slot always is what its holder has recorded last since it took the slot, and
nothing of what former holders have recorded is left in it.
-/

namespace Datagram

variable {σ : Type}

/-- What has been picked out only once has been picked out at one place. -/
theorem eq_of_nodup_filterMap {α β : Type} {l : List α} {f : α → Option β}
    (h : (l.filterMap f).Nodup) {i j : Nat} {b : β} (hi : l[i]?.bind f = some b)
    (hj : l[j]?.bind f = some b) : i = j := by
  obtain ⟨a, ha, hab⟩ := Option.bind_eq_some_iff.1 hi
  obtain ⟨a', ha', hab'⟩ := Option.bind_eq_some_iff.1 hj
  obtain ⟨hlti, rfl⟩ := List.getElem?_eq_some_iff.1 ha
  obtain ⟨hltj, rfl⟩ := List.getElem?_eq_some_iff.1 ha'
  rw [List.Nodup, List.pairwise_filterMap, List.pairwise_iff_getElem] at h
  rcases Nat.lt_trichotomy i j with hlt | heq | hlt
  · exact absurd rfl (h i j hlti hltj hlt b hab b hab')
  · exact heq
  · exact absurd rfl (h j i hltj hlti hlt b hab' b hab)

inductive Holder where
  | ticket (ticket : Nat)
  | socket (socket : Nat)

/-- The holder whose lease a step may use, record a port for or give back. -/
def Step.holder? : Step → Option Holder
  | .socket i _ | .drop i => some (.socket i)
  | .release k | .setPort k _ => some (.ticket k)
  | _ => none

/-- The steps that make or end the hold of a ticket. -/
def Step.onTickets : Step → Bool
  | .acquire _ | .release _ => true
  | _ => false

namespace Session

variable {T : Transport σ} {ss : Session σ} {st : Step} {x y : Holder} {l : Lease}

def leaseOf? (ss : Session σ) : Holder → Option Lease
  | .ticket k => ss.heldLease? k
  | .socket i => (ss.socket? i).bind Socket.lease?

theorem leaseOf?_socket (ss : Session σ) (i : Nat) :
    ss.leaseOf? (.socket i) = ss.sockets[i]?.bind (·.bind Socket.lease?) := by
  rw [leaseOf?, socket?]
  cases ss.sockets[i]? <;> rfl

theorem mem_leases : l ∈ ss.leases ↔ ∃ x, ss.leaseOf? x = some l := by
  rw [leases, gather, List.mem_append, List.mem_filterMap, List.mem_filterMap]
  constructor
  · rintro (⟨k, hmem, hk⟩ | ⟨o, hmem, ho⟩)
    · obtain ⟨i, hi⟩ := List.getElem?_of_mem hmem
      refine ⟨.ticket i, ?_⟩
      rw [leaseOf?, heldLease?, hi]
      exact hk
    · obtain ⟨i, hi⟩ := List.getElem?_of_mem hmem
      refine ⟨.socket i, ?_⟩
      rw [leaseOf?_socket, hi]
      exact ho
  · rintro ⟨k | i, hx⟩
    · obtain ⟨t, ht, hl⟩ := Option.bind_eq_some_iff.1 hx
      exact .inl ⟨t, List.mem_of_getElem? ht, hl⟩
    · rw [leaseOf?_socket] at hx
      obtain ⟨o, ho, hl⟩ := Option.bind_eq_some_iff.1 hx
      exact .inr ⟨o, List.mem_of_getElem? ho, hl⟩

theorem Accounted.marked_of_holder (h : Accounted ss) (hx : ss.leaseOf? x = some l) :
    l.marked ss.world.tables = true := h.marked_of_mem (mem_leases.2 ⟨x, hx⟩)

/-- A lease has one holder. -/
theorem Accounted.holder_eq (h : Accounted ss) (hx : ss.leaseOf? x = some l)
    (hy : ss.leaseOf? y = some l) : x = y := by
  have hnodup : ss.leases.Nodup := by
    rw [List.nodup_iff_count]
    intro l
    rw [h.count_leases l]
    exact Bool.toNat_le _
  rw [leases, List.nodup_append] at hnodup
  obtain ⟨htickets, hsockets, hapart⟩ := hnodup
  have hcross {k i : Nat} (hk : ss.leaseOf? (.ticket k) = some l)
      (hi : ss.leaseOf? (.socket i) = some l) : False := by
    rw [leaseOf?_socket] at hi
    obtain ⟨t, ht, htl⟩ := Option.bind_eq_some_iff.1 hk
    obtain ⟨o, ho, hol⟩ := Option.bind_eq_some_iff.1 hi
    have hfirst : l ∈ ss.tickets.filterMap Ticket.lease? :=
      List.mem_filterMap.2 ⟨t, List.mem_of_getElem? ht, htl⟩
    have hsecond : l ∈ ss.gather Socket.lease? :=
      List.mem_filterMap.2 ⟨o, List.mem_of_getElem? ho, hol⟩
    exact hapart l hfirst l hsecond rfl
  cases x with
  | ticket k =>
    cases y with
    | ticket k' => exact congrArg Holder.ticket (eq_of_nodup_filterMap htickets hx hy)
    | socket i => exact (hcross hx hy).elim
  | socket i =>
    cases y with
    | ticket k => exact (hcross hy hx).elim
    | socket i' =>
      rw [leaseOf?_socket] at hx hy
      exact congrArg Holder.socket (eq_of_nodup_filterMap hsockets hx hy)

/-- Steps of others do not change the entry of a lease that somebody holds. -/
theorem Accounted.entry_step (h : Accounted ss) (hx : ss.leaseOf? x = some l)
    (hst : st.holder? ≠ some x) :
    l.cell? (ss.step T st).2.world.tables = l.cell? ss.world.tables := by
  have hmarked := h.marked_of_holder hx
  have hother {y : Holder} (hy : st.holder? = some y) : ss.leaseOf? y ≠ some l := by
    intro hl
    rw [h.holder_eq hl hx] at hy
    exact hst hy
  have hactor {i : Nat} (hi : st.actor? = some i) (hholder : st.holder? = some (.socket i)) :
      l.cell? (ss.step T st).2.world.tables = l.cell? ss.world.tables := by
    cases hs : ss.socket? i with
    | none => rw [step_of_no_actor hi hs]
    | some s =>
      obtain ⟨w, x, hstep, ⟨cs, -, hcustody⟩, -⟩ := step_attends (T := T) h hi hs
      have hown : s.stage.lease? ≠ some l := by
        have hne := hother hholder
        rw [leaseOf?, hs] at hne
        rw [Socket.lease?_stage]
        exact hne
      rw [hstep]
      exact (hcustody.others hmarked hown).1
  cases st with
  | socket i op => exact hactor rfl rfl
  | drop i => exact hactor rfl rfl
  | raw call =>
    change l.cell? (rawCall T ss.world call).2.tables = _
    rw [rawCall_tables]
  | acquire handle =>
    change l.cell? (ss.world.acquire (ss.tableOf handle)).2.tables = _
    unfold World.acquire
    cases hslot : (ss.world.table (ss.tableOf handle)).acquire with
    | error e => rfl
    | ok taken => exact Lease.cell?_taken hslot hmarked
  | release k =>
    cases hk : ss.heldLease? k with
    | none => rw [step_release_of_none hk]
    | some lease =>
      rw [step_release hk]
      apply Lease.cell?_freed
      rintro rfl
      exact hother rfl hk
  | setPort k port =>
    rcases step_setPort_cases T ss k port with hk | ⟨lease, hk, hstep⟩
    · rw [hk]
    · rw [hstep]
      apply Lease.cell?_noted
      rintro rfl
      exact hother rfl hk
  | leaseOutline k => rw [step_leaseOutline]
  | _ => rfl

/-- The port that a step records under the lease of a ticket. -/
def note? (k : Nat) (ss : Session σ) : Step → Option UInt16
  | .setPort j port => if j = k then (ss.heldLease? k).map fun _ => port else none
  | _ => none

/-- The ports that a run records under the lease of a ticket. -/
def notes (T : Transport σ) (k : Nat) (ss : Session σ) : List Step → List UInt16
  | [] => []
  | st :: rest => (note? k ss st).toList ++ notes T k (ss.step T st).2 rest

theorem step_tickets (hst : st.onTickets = false) :
    (ss.step T st).2.tickets = ss.tickets := by
  cases st with
  | acquire | release => cases hst
  | socket i op =>
    cases hs : ss.socket? i with
    | none => rw [step_socket_of_none hs]
    | some s => rw [step_socket hs]
  | drop i =>
    cases hs : ss.socket? i with
    | none => rw [step_drop_of_none hs]
    | some s => rw [step_drop hs]
  | setPort k port =>
    rcases step_setPort_cases T ss k port with hk | ⟨lease, -, hk⟩ <;> rw [hk]
  | leaseOutline k => rw [step_leaseOutline]
  | _ => rfl

/-- A ticket holds what it has held before, or has just been given a slot without a port. -/
theorem heldLease?_step {k : Nat} (hk : (ss.step T st).2.heldLease? k = some l) :
    ss.heldLease? k = some l ∧ st ≠ .release k ∨
      ss.tickets.length = k ∧
        l.cell? (ss.step T st).2.world.tables = some { leased := true } := by
  cases st with
  | release j =>
    rw [heldLease?_release] at hk
    split at hk
    · cases hk
    · refine .inl ⟨hk, ?_⟩
      rintro he
      cases he
      contradiction
  | acquire handle =>
    change (ss.tickets ++ [_])[k]?.bind _ = some l at hk
    rcases Nat.lt_trichotomy k ss.tickets.length with hlt | rfl | hlt
    · rw [List.getElem?_append_left hlt] at hk
      refine .inl ⟨hk, ?_⟩
      intro he
      cases he
    · right
      refine ⟨rfl, ?_⟩
      rw [List.getElem?_concat_length] at hk
      change l.cell? (ss.world.acquire (ss.tableOf handle)).2.tables = _
      unfold World.acquire
      cases hslot : (ss.world.table (ss.tableOf handle)).acquire with
      | error e =>
        rw [hslot] at hk
        cases hk
      | ok taken =>
        rw [hslot] at hk
        cases hk
        exact Lease.cell?_taken_self hslot
    · rw [List.getElem?_eq_none] at hk
      · cases hk
      · rw [List.length_append, List.length_singleton]
        omega
  | _ =>
    rw [heldLease?, step_tickets rfl] at hk
    refine .inl ⟨hk, ?_⟩
    intro he
    cases he

/-- The ports `past` are all that has been recorded under the lease of ticket `k`. -/
structure Noted (k : Nat) (past : List UInt16) (ss : Session σ) : Prop where
  accounted : Accounted ss
  entry : ∀ l, ss.heldLease? k = some l →
    l.cell? ss.world.tables = some ⟨true, past.getLast?.getD 0⟩
  unborn : ss.tickets.length ≤ k → past = []

theorem length_tickets_step (T : Transport σ) (ss : Session σ) (st : Step) :
    ss.tickets.length ≤ (ss.step T st).2.tickets.length := by
  cases st with
  | acquire handle =>
    change _ ≤ (ss.tickets ++ [_]).length
    rw [List.length_append]
    exact Nat.le_add_right ..
  | release k =>
    cases hk : ss.heldLease? k with
    | none => rw [step_release_of_none hk]
    | some lease =>
      rw [step_release hk]
      change _ ≤ (ss.tickets.modify k _).length
      rw [List.length_modify]
  | _ => rw [step_tickets rfl]

theorem heldLease?_of_length_le {k : Nat} (h : ss.tickets.length ≤ k) : ss.heldLease? k = none := by
  rw [heldLease?, List.getElem?_eq_none h]
  rfl

theorem note?_eq_none {k : Nat} (h : st.holder? ≠ some (.ticket k) ∨ ss.heldLease? k = none) :
    note? k ss st = none := by
  cases st with
  | setPort j port =>
    rw [note?]
    split
    · rename_i hj
      subst j
      rcases h with h | h
      · exact absurd rfl h
      · rw [h, Option.map_none]
    · rfl
  | _ => rfl

theorem Noted.step {k : Nat} {past : List UInt16} (h : Noted k past ss) (st : Step) :
    Noted k (past ++ (note? k ss st).toList) (ss.step T st).2 where
  accounted := h.accounted.step st
  entry l hl := by
    rcases heldLease?_step hl with ⟨hheld, hkept⟩ | ⟨hborn, hentry⟩
    · by_cases hst : st.holder? = some (.ticket k)
      · cases st with
        | release j => cases hst; exact absurd rfl hkept
        | setPort j port =>
          cases hst
          have hnote : note? k ss (.setPort k port) = some port := by
            rw [note?, if_pos rfl, hheld, Option.map_some]
          rw [hnote, Option.toList_some, List.getLast?_concat, Option.getD_some]
          simp only [Session.step, hheld]
          exact Lease.cell?_noted_self port (h.accounted.ticket_marked hheld)
        | _ => cases hst
      · rw [note?_eq_none (.inl hst), Option.toList_none, List.append_nil]
        rw [h.accounted.entry_step (x := .ticket k) hheld hst]
        exact h.entry l hheld
    · rw [note?_eq_none (.inr (heldLease?_of_length_le hborn.le)), h.unborn hborn.le]
      exact hentry
  unborn hk := by
    have hbefore := (length_tickets_step T ss st).trans hk
    rw [note?_eq_none (.inr (heldLease?_of_length_le hbefore)), h.unborn hbefore]
    rfl

theorem Noted.run {k : Nat} {past : List UInt16} (h : Noted k past ss) (steps : List Step) :
    Noted k (past ++ ss.notes T k steps) (ss.run T steps).2 := by
  induction steps generalizing ss past with
  | nil =>
    rw [notes, List.append_nil]
    exact h
  | cons st steps ih =>
    rw [notes, ← List.append_assoc]
    exact ih (h.step st)

/-- Every bound socket has recorded its port. -/
structure Published (ss : Session σ) : Prop where
  accounted : Accounted ss
  entry : ∀ i s b, ss.socket? i = some s → s.binding = some b →
    b.lease.cell? ss.world.tables = some ⟨true, b.port⟩

theorem Published.noted (h : Published ss) {i : Nat} {s : Socket} (hs : ss.socket? i = some s) :
    s.stage.Noted ss.world.tables := by
  intro b hb
  rcases s.binding.eq_none_or_eq_some with hnone | ⟨b', hb'⟩
  · rw [Socket.stage_of_unbound hnone] at hb
    cases hb
  · rw [Socket.stage_of_bound hb'] at hb
    cases hb
    exact h.entry i s b hs hb'

/-- A socket that a step does not act on is as before, or has just been constructed. -/
theorem socket?_of_step {i : Nat} {s : Socket} (hst : st.actor? ≠ some i)
    (hs : (ss.step T st).2.socket? i = some s) : ss.socket? i = some s ∨ s.binding = none := by
  cases st with
  | socket j op =>
    left
    cases hj : ss.socket? j with
    | none => rwa [step_socket_of_none hj] at hs
    | some s' =>
      have hij : i ≠ j := fun he => hst (congrArg some he.symm)
      rw [step_socket hj, socket?, join_getElem?_set (lt_length_of_socket? hj), if_neg hij] at hs
      exact hs
  | drop j =>
    left
    cases hj : ss.socket? j with
    | none => rwa [step_drop_of_none hj] at hs
    | some s' =>
      have hij : i ≠ j := fun he => hst (congrArg some he.symm)
      rw [step_drop hj, socket?, join_getElem?_set (lt_length_of_socket? hj), if_neg hij] at hs
      exact hs
  | construct spec =>
    change ((ss.sockets ++ [_])[i]?).join = some s at hs
    by_cases hi : i < ss.sockets.length
    · rw [List.getElem?_append_left hi] at hs
      exact .inl hs
    · rw [List.getElem?_append_right (Nat.le_of_not_lt hi), List.getElem?_singleton] at hs
      split at hs
      · cases hs
        exact .inr rfl
      · cases hs
  | _ =>
    rw [socket?, step_sockets rfl] at hs
    exact .inl hs

theorem binding_step_of_ne (T : Transport σ) {i : Nat} (hst : st.actor? ≠ some i) :
    ((ss.step T st).2.socket? i).bind (·.binding) = (ss.socket? i).bind (·.binding) := by
  cases hs : ss.socket? i with
  | none =>
    cases hs' : (ss.step T st).2.socket? i with
    | none => rfl
    | some s =>
      rcases socket?_of_step hst hs' with hbefore | hunbound
      · rw [hs] at hbefore
        cases hbefore
      · exact hunbound
  | some s =>
    rcases socket?_step T hs st with hs' | rfl | ⟨op, rfl, -⟩
    · rw [hs']
    · exact absurd rfl hst
    · exact absurd rfl hst

/-- What others hold does not change, but that a new ticket may be given a lease. -/
theorem leaseOf?_step_of_ne (T : Transport σ) (hst : st.holder? ≠ some x)
    (hnew : ∀ handle, st ≠ .acquire handle) : (ss.step T st).2.leaseOf? x = ss.leaseOf? x := by
  cases x with
  | ticket k =>
    change (ss.step T st).2.heldLease? k = ss.heldLease? k
    cases st with
    | acquire handle => exact absurd rfl (hnew handle)
    | release j =>
      rw [heldLease?_release, if_neg]
      rintro rfl
      exact hst rfl
    | _ => rw [heldLease?, step_tickets rfl, ← heldLease?]
  | socket i =>
    have hactor : st.actor? ≠ some i := by
      intro hi
      cases st with
      | socket | drop => cases hi; exact hst rfl
      | _ => cases hi
    have hlease (o : Option Socket) :
        o.bind Socket.lease? = (o.bind (·.binding)).map (·.lease) := by cases o <;> rfl
    rw [leaseOf?, leaseOf?, hlease, hlease, binding_step_of_ne T hactor]

theorem Published.step (h : Published ss) (st : Step) : Published (ss.step T st).2 where
  accounted := h.accounted.step st
  entry i s b hs hb := by
    by_cases hst : st.actor? = some i
    · cases hbefore : ss.socket? i with
      | none =>
        rw [step_of_no_actor hst hbefore] at hs ⊢
        exact h.entry i s b hs hb
      | some s' =>
        obtain ⟨w, x, hstep, ⟨cs, -, hcustody⟩, -⟩ :=
          step_attends (T := T) h.accounted hst hbefore
        rw [hstep] at hs ⊢
        rw [socket?, join_getElem?_set (lt_length_of_socket? hbefore), if_pos rfl] at hs
        subst hs
        have hheld (l : Lease) (hl : s'.stage.lease? = some l) :
            l.marked ss.world.tables = true := by
          rw [Socket.lease?_stage] at hl
          exact h.accounted.held hbefore l hl
        apply hcustody.noted (h.noted hbefore) hheld
        exact Socket.stage_of_bound hb
    · rcases socket?_of_step hst hs with hbefore | hunbound
      · have hholder : st.holder? ≠ some (.socket i) := by
          intro he
          cases st with
          | socket | drop => cases he; exact hst rfl
          | _ => cases he
        have hlease : ss.leaseOf? (.socket i) = some b.lease := by
          rw [leaseOf?, hbefore, Option.bind_some, Socket.lease?, hb, Option.map_some]
        rw [h.accounted.entry_step hlease hholder]
        exact h.entry i s b hbefore hb
      · exact absurd hunbound (Socket.not_unbound hb)

theorem Published.run (h : Published ss) (steps : List Step) : Published (ss.run T steps).2 := by
  apply run_induction T _ h
  intro ss st _ h
  exact h.step st

theorem noted_ofTables (k : Nat) (transport : σ) (capacities : List Nat)
    (specs : List SocketSpec) :
    Noted k [] (ofTables transport (capacities.map .ofCapacity) specs) where
  accounted := accounted_ofTables transport capacities specs
  entry l hl := by cases hl
  unborn _ := rfl

theorem published_ofTables (transport : σ) (capacities : List Nat) (specs : List SocketSpec) :
    Published (ofTables transport (capacities.map .ofCapacity) specs) where
  accounted := accounted_ofTables transport capacities specs
  entry i s b hs hb := by
    obtain ⟨spec, -, hspec⟩ := List.mem_map.1 (mem_sockets_of_socket? hs)
    cases hspec
    cases hb

/-- A slot that has no holder, or is none, shows no port. -/
theorem Accounted.portFor_of_free (h : Accounted ss) {table slot : Nat}
    (hfree : (∀ x, ss.leaseOf? x ≠ some ⟨table, slot⟩) ∨
      (ss.world.table table).capacity ≤ slot) :
    (ss.world.table table).portFor slot = none := by
  apply SlotTable.portFor_of_unmarked
  rcases hfree with hnobody | hout
  · have hnone : ss.leases.count ⟨table, slot⟩ = 0 := by
      apply List.count_eq_zero_of_not_mem
      intro hmem
      obtain ⟨x, hx⟩ := mem_leases.1 hmem
      exact hnobody x hx
    rw [h.count_leases, Bool.toNat_eq_zero] at hnone
    exact hnone
  · rw [Bool.eq_false_iff]
    intro hmarks
    exact absurd (SlotTable.lt_capacity_of_marks hmarks) (Nat.not_lt.2 hout)

/-- In every run a slot shows the port that its holder has recorded last since it took the slot,
unless this is zero: a ticket has recorded what was asked for under its number, and a bound socket
its local port, which is the one reported in its latest begin or else the one wanted. A slot without
a holder shows none, a slot just taken shows none, and recording a port under one lease changes
nothing for other slots and tables. The list of the ports of a table says the same, slot by slot in
their order. -/
theorem ports_of_holders (T : Transport σ) (transport : σ) (capacities : List Nat)
    (specs : List SocketSpec) (steps : List Step) :
    let start := ofTables transport (capacities.map .ofCapacity) specs
    let ss := (start.run T steps).2
    (∀ k l, ss.heldLease? k = some l → (ss.world.table l.table).portFor l.slot =
      (start.notes T k steps).getLast?.filter (· != 0)) ∧
    (∀ i s slot, ss.socket? i = some s → s.slot = some slot →
      ∃ port, s.localPort = some port ∧
        (ss.world.table s.table).portFor slot = (if port = 0 then none else some port) ∧
        ∃ o wanted, latest? Turn.lifecycle? (start.turns T i steps) = some o ∧
          o.step = .begin wanted ∧ o.answer = .unit (.ok ()) ∧
          port = (latest? Call.reported? o.calls).getD wanted) ∧
    (∀ table slot, (∀ x, ss.leaseOf? x ≠ some ⟨table, slot⟩) ∨
      (ss.world.table table).capacity ≤ slot → (ss.world.table table).portFor slot = none) ∧
    (∀ handle k slot, (ss.step T (.acquire handle)).1 = .lease k (.ok slot) →
      ((ss.step T (.acquire handle)).2.world.table (ss.tableOf handle)).portFor slot = none) ∧
    (∀ k port table slot, ss.heldLease? k ≠ some ⟨table, slot⟩ →
      ((ss.step T (.setPort k port)).2.world.table table).portFor slot =
        (ss.world.table table).portFor slot) ∧
    ∀ table, ((ss.world.table table).boundPorts.map Prod.fst).Pairwise (· < ·) ∧
      ∀ slot port, (slot, port) ∈ (ss.world.table table).boundPorts ↔
        (ss.world.table table).portFor slot = some port := by
  intro start ss
  have hpublished : Published ss := (published_ofTables transport capacities specs).run steps
  refine ⟨?_, ?_, ?_, ?_, ?_, ?_⟩
  · intro k l hl
    have hnoted : Noted k (start.notes T k steps) ss :=
      (noted_ofTables k transport capacities specs).run steps
    have hport := Lease.portFor_eq l ss.world.tables
    rw [hnoted.entry l hl, Option.bind_some, SlotEntry.visiblePort_leased] at hport
    refine hport.trans ?_
    cases (start.notes T k steps).getLast? with
    | none => rfl
    | some port => by_cases hzero : port = 0 <;> simp [hzero, Option.filter]
  · intro i s slot hs hslot
    obtain ⟨b, hb, rfl⟩ := Option.map_eq_some_iff.1 hslot
    refine ⟨b.port, by rw [Socket.localPort, hb, Option.map_some], ?_, ?_⟩
    · have hport := Lease.portFor_eq b.lease ss.world.tables
      rw [hpublished.entry i s b hs hb, Option.bind_some, SlotEntry.visiblePort_leased,
        hpublished.accounted.table_eq s b (mem_sockets_of_socket? hs) hb] at hport
      exact hport
    · exact ((tracks_turns T i transport _ specs steps).alive s hs).bound_by hb
  · intro table slot hfree
    exact hpublished.accounted.portFor_of_free hfree
  · intro handle k slot hanswer
    change Answer.lease _ ((ss.world.acquire (ss.tableOf handle)).1.map (·.slot)) = _ at hanswer
    change ((ss.world.acquire (ss.tableOf handle)).2.tables.getD _ .empty).portFor slot = none
    unfold World.acquire at hanswer ⊢
    cases hslot : (ss.world.table (ss.tableOf handle)).acquire with
    | error e =>
      rw [hslot] at hanswer
      cases hanswer
    | ok taken =>
      rw [hslot] at hanswer
      cases hanswer
      have hport := Lease.portFor_eq ⟨ss.tableOf handle, taken.1⟩
        (ss.world.tables.set (ss.tableOf handle) taken.2)
      rw [Lease.cell?_taken_self hslot] at hport
      exact hport
  · intro k port table slot hother
    rcases step_setPort_cases T ss k port with hk | ⟨lease, hk, hstep⟩
    · rw [hk]
    · have hne : (⟨table, slot⟩ : Lease) ≠ lease := by
        rintro rfl
        exact hother hk
      have hbefore := Lease.portFor_eq ⟨table, slot⟩ ss.world.tables
      have hafter := Lease.portFor_eq ⟨table, slot⟩ (lease.noted port ss.world.tables)
      rw [Lease.cell?_noted port hne, ← hbefore] at hafter
      rw [hstep]
      exact hafter
  · intro table
    exact ⟨SlotTable.boundPorts_increasing _, fun slot port => SlotTable.mem_boundPorts⟩

/-- A lease and then a socket have the only slot of a table, and a lease has it again. The socket
asks for no port in particular and is told which one it got. -/
theorem ports_of_holders_recycled :
    let script : Script := { localPort := [.answers 7000] }
    let start := ofTables script ([1].map .ofCapacity)
      [{ table := 0, txCapacity := some 2, rxCapacity := some 2 }]
    let leased := (start.run Script.transport [.acquire 0, .setPort 0 5, .setPort 0 6]).2
    let bound := (start.run Script.transport
      [.acquire 0, .setPort 0 5, .setPort 0 6, .release 0, .socket 0 (.begin 0)]).2
    let again := (start.run Script.transport [.acquire 0, .setPort 0 5, .setPort 0 6, .release 0,
      .socket 0 (.begin 0), .drop 0, .acquire 0]).2
    (leased.world.table 0).portFor 0 = some 6 ∧ (bound.world.table 0).portFor 0 = some 7000 ∧
      (again.world.table 0).portFor 0 = none := by
  intro script start leased bound again
  have hleased : leased.heldLease? 0 = some ⟨0, 0⟩ := by decide
  have hagain : again.heldLease? 1 = some ⟨0, 0⟩ := by decide
  have hbound : (bound.socket? 0).map (fun s => (s.slot, s.localPort, s.table)) =
      some (some 0, some 7000, 0) := by decide
  obtain ⟨s, hs, hsocket⟩ := Option.map_eq_some_iff.1 hbound
  simp only [Prod.mk.injEq] at hsocket
  obtain ⟨hslot, hlocal, htable⟩ := hsocket
  simp only [leased, bound, again, start, script] at hleased hs hagain ⊢
  refine ⟨?_, ?_, ?_⟩
  · exact (ports_of_holders Script.transport _ _ _ _).1 0 ⟨0, 0⟩ hleased
  · obtain ⟨port, hport, hshown, -⟩ :=
      (ports_of_holders Script.transport _ _ _ _).2.1 0 s 0 hs hslot
    rw [hlocal] at hport
    cases hport
    rw [htable] at hshown
    exact hshown
  · exact (ports_of_holders Script.transport _ _ _ _).1 1 ⟨0, 0⟩ hagain

end Session
end Datagram
