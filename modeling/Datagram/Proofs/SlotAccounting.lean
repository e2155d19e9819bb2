import Datagram.Proofs.Runs
import Datagram.Proofs.SlotBalance

/-!
# Slot accounting

Leases are held by tickets that have not been given back and by bound sockets. The invariant
`Accounted` counts: every lease is held as many times as its slot is marked, so that no slot has two
holders. Every step of a session keeps it.
-/

namespace Datagram

variable {σ : Type}

def Ticket.lease? (t : Ticket) : Option Lease := if t.held then t.lease else none

namespace Session

variable {T : Transport σ} {ss : Session σ}

/-- All leases held in a session: those of tickets and those of bound sockets. -/
def leases (ss : Session σ) : List Lease :=
  ss.tickets.filterMap Ticket.lease? ++ ss.gather Socket.lease?

structure Accounted (ss : Session σ) : Prop where
  count_leases : ∀ l, ss.leases.count l = (l.marked ss.world.tables).toNat
  table_eq : ∀ s b, some s ∈ ss.sockets → s.binding = some b → b.lease.table = s.table

theorem Accounted.marked_of_mem (h : Accounted ss) {l : Lease} (hmem : l ∈ ss.leases) :
    l.marked ss.world.tables = true := by
  have hpos : 0 < (l.marked ss.world.tables).toNat := by
    rw [← h.count_leases]
    exact List.count_pos_iff.2 hmem
  cases hm : l.marked ss.world.tables with
  | true => rfl
  | false => rw [hm] at hpos; exact absurd hpos (Nat.lt_irrefl 0)

theorem Accounted.held {i : Nat} {s : Socket} (h : Accounted ss) (hs : ss.socket? i = some s)
    (l : Lease) (hl : s.lease? = some l) : l.marked ss.world.tables = true := by
  obtain ⟨rest, hperm, -⟩ := gather_perm hs Socket.lease?
  apply h.marked_of_mem
  rw [leases, List.mem_append, hperm.mem_iff, hl]
  exact .inr (List.mem_cons_self ..)

theorem Accounted.ticket_marked {k : Nat} {lease : Lease} (h : Accounted ss)
    (hk : ss.heldLease? k = some lease) : lease.marked ss.world.tables = true := by
  obtain ⟨ticket, hticket, hlease⟩ := Option.bind_eq_some_iff.1 hk
  apply h.marked_of_mem
  rw [leases, List.mem_append]
  exact .inl (List.mem_filterMap.2 ⟨ticket, List.mem_of_getElem? hticket, hlease⟩)

theorem mem_sockets_of_socket? {i : Nat} {s : Socket} (h : ss.socket? i = some s) :
    some s ∈ ss.sockets := List.mem_of_getElem? (Option.join_eq_some_iff.1 h)

/-- Marks that change by what one socket holds keep the accounts. -/
theorem Accounted.set_socket {i : Nat} {s : Socket} (h : Accounted ss)
    (hs : ss.socket? i = some s) {w : World σ} {x : Option Socket}
    (hbalance : ∀ l, (l.marked w.tables).toNat + s.lease?.toList.count l =
      (l.marked ss.world.tables).toNat + (x.bind Socket.lease?).toList.count l)
    (htable : ∀ s' b, x = some s' → s'.binding = some b → b.lease.table = s'.table) :
    Accounted { ss with world := w, sockets := ss.sockets.set i x } where
  count_leases l := by
    obtain ⟨rest, hbefore, hafter⟩ := gather_perm hs Socket.lease?
    have hcount := h.count_leases l
    have hnext := hbalance l
    rw [leases, List.count_append, hbefore.count_eq, List.count_append] at hcount
    rw [leases, List.count_append, (hafter w x).count_eq, List.count_append]
    change (ss.tickets.filterMap Ticket.lease?).count l + (_ + rest.count l) =
      (l.marked w.tables).toNat
    omega
  table_eq s' b hmem hb := by
    rcases List.mem_or_eq_of_mem_set hmem with hmem | hx
    · exact h.table_eq s' b hmem hb
    · exact htable s' b hx.symm hb

theorem Accounted.congr {ss' : Session σ} (h : Accounted ss)
    (hmarks : ∀ l, Lease.marked l ss'.world.tables = l.marked ss.world.tables)
    (hsockets : ss'.sockets = ss.sockets) (htickets : ss'.tickets = ss.tickets) :
    Accounted ss' where
  count_leases l := by
    rw [hmarks, ← h.count_leases, leases, leases, gather, gather, hsockets, htickets]
  table_eq s b hs hb := h.table_eq s b (hsockets ▸ hs) hb

theorem rawCall_tables (T : Transport σ) (w : World σ) (call : RawCall) :
    (rawCall T w call).2.tables = w.tables := by
  cases call with
  | localPort h => exact (World.localPort_spec (rfl : w.localPort T h = _)).1
  | _ => rfl

theorem Accounted.socket (h : Accounted ss) (i : Nat) (st : SocketStep) :
    Accounted (ss.step T (.socket i st)).2 := by
  cases hs : ss.socket? i with
  | none => rw [step_socket_of_none hs]; exact h
  | some s =>
    rw [step_socket hs]
    apply h.set_socket hs
    · exact Socket.perform_balance T (h.held hs) st
    · intro s' b he hb
      cases he
      exact Socket.perform_table_eq T st (h.table_eq s · (mem_sockets_of_socket? hs)) b hb

theorem Accounted.drop (h : Accounted ss) (i : Nat) : Accounted (ss.step T (.drop i)).2 := by
  cases hs : ss.socket? i with
  | none => rw [step_drop_of_none hs]; exact h
  | some s =>
    rw [step_drop hs]
    apply h.set_socket hs
    · exact Socket.stop_balance T (h.held hs)
    · intro s' b he
      cases he

theorem Accounted.construct (h : Accounted ss) (spec : SocketSpec) :
    Accounted (ss.step T (.construct spec)).2 where
  count_leases l := by
    have hfresh : (ss.step T (.construct spec)).2.leases = ss.leases := by
      simp only [leases, gather, step, List.filterMap_append]
      exact congrArg _ (List.append_nil _)
    rw [hfresh]
    exact h.count_leases l
  table_eq s b hs hb := by
    rcases List.mem_append.1 hs with hs | hs
    · exact h.table_eq s b hs hb
    · obtain rfl : s = .ofConfig _ _ := by simpa using hs
      cases hb

theorem Accounted.acquire (h : Accounted ss) (table : Nat) :
    Accounted (ss.step T (.acquire table)).2 where
  count_leases l := by
    have htickets (k : Ticket) : (ss.tickets ++ [k]).filterMap Ticket.lease? =
        ss.tickets.filterMap Ticket.lease? ++ k.lease?.toList := by
      rw [List.filterMap_append]
      cases hk : k.lease? <;> simp [hk]
    have hcount := h.count_leases l
    rw [leases, List.count_append] at hcount
    simp only [step, World.acquire, leases, htickets, List.count_append]
    cases hslot : (ss.world.table (ss.tableOf table)).acquire with
    | error e => exact hcount
    | ok taken =>
      obtain ⟨slot, t⟩ := taken
      have htaken := World.marked_acquire hslot l
      change _ + [Lease.mk (ss.tableOf table) slot].count l + _ =
        (l.marked (ss.world.setTable (ss.tableOf table) t).tables).toNat
      change _ + (ss.gather Socket.lease?).count l = _ at hcount
      change _ + _ + (ss.gather Socket.lease?).count l = _
      omega
  table_eq := h.table_eq

theorem Accounted.release (h : Accounted ss) (k : Nat) :
    Accounted (ss.step T (.release k)).2 := by
  cases hk : ss.heldLease? k with
  | none => rw [step_release_of_none hk]; exact h
  | some lease =>
    rw [step_release hk]
    obtain ⟨ticket, hticket, hlease⟩ := Option.bind_eq_some_iff.1 hk
    obtain ⟨rest, hbefore, hafter⟩ := filterMap_set_perm hticket Ticket.lease?
    have hgiven : (ss.tickets.modify k fun t => { t with held := false }) =
        ss.tickets.set k { ticket with held := false } := by
      have : Inhabited Ticket := ⟨ticket⟩
      rw [List.modify_eq_set, hticket, Option.getD_some]
    have hcounts (l : Lease) : [lease].count l + rest.count l + (ss.gather Socket.lease?).count l =
        (l.marked ss.world.tables).toNat := by
      have hcount := h.count_leases l
      rw [leases, List.count_append, hbefore.count_eq, List.count_append] at hcount
      rw [← hcount, Ticket.lease?, hlease]
      rfl
    have hmarked := h.ticket_marked hk
    refine ⟨?_, h.table_eq⟩
    intro l
    have hrelease := World.marked_release hmarked l
    have hcount := hcounts l
    rw [leases, List.count_append, hgiven, (hafter _).count_eq, List.count_append]
    change 0 + rest.count l + (ss.gather Socket.lease?).count l =
      (l.marked (ss.world.release lease).tables).toNat
    omega

theorem Accounted.step (h : Accounted ss) (st : Step) : Accounted (ss.step T st).2 := by
  cases st with
  | socket i op => exact h.socket i op
  | drop i => exact h.drop i
  | construct spec => exact h.construct spec
  | acquire table => exact h.acquire table
  | release k => exact h.release k
  | setPort k port =>
    rcases step_setPort_cases T ss k port with hs | ⟨lease, -, hs⟩
    · rw [hs]; exact h
    · rw [hs]; exact h.congr (World.marked_setPort lease port) rfl rfl
  | raw call =>
    exact h.congr (fun l => congrArg l.marked (rawCall_tables T ss.world call)) rfl rfl
  | leaseOutline k => rw [step_leaseOutline]; exact h
  | compareSlots _ _ | portOfTicket _ _ | portOfSocket _ _ | cloneTable _ | table _ =>
    exact h.congr (fun _ => rfl) rfl rfl

theorem Accounted.run (h : Accounted ss) (steps : List Step) : Accounted (ss.run T steps).2 := by
  apply run_induction T _ h
  intro ss st _ h
  exact h.step st

theorem marked_ofCapacity (capacities : List Nat) (l : Lease) :
    l.marked (capacities.map .ofCapacity) = false := by
  rw [Lease.marked, List.getD_eq_getElem?_getD, List.getElem?_map]
  cases capacities[l.table]? with
  | none => exact SlotTable.marks_empty l.slot
  | some capacity => exact SlotTable.marks_ofCapacity capacity l.slot

theorem accounted_ofTables (transport : σ) (capacities : List Nat) (specs : List SocketSpec) :
    Accounted (ofTables transport (capacities.map .ofCapacity) specs) where
  count_leases l := by
    have hnone : (ofTables transport (capacities.map .ofCapacity) specs).leases = [] := by
      simp only [leases, gather, ofTables, List.filterMap_nil, List.nil_append,
        List.filterMap_eq_nil_iff, List.mem_map]
      rintro _ ⟨spec, -, rfl⟩
      rfl
    rw [hnone]
    exact (congrArg Bool.toNat (marked_ofCapacity capacities l)).symm
  table_eq s b hs hb := by
    obtain ⟨spec, -, hspec⟩ := List.mem_map.1 hs
    cases hspec
    cases hb

end Session
end Datagram
