import Mathlib.Data.List.Infix
import Mathlib.Data.List.Induction
import Datagram.Proofs.Custody
import Datagram.Proofs.OpenHandles
import Datagram.Proofs.SlotHolders

/-!
# A slot around every call

In every run each call that a socket makes finds the socket's slot leased: the slot is acquired
before a handle is created, and freed only after the close has returned. So as long as all sockets
are on one table, all closes succeed and nobody calls the transport past the sockets, the handles
that are open at any call or between steps are no more than the slots in use, and between steps they
are as many as the bound sockets. `Tally` counts both sides at one moment inside an operation.
-/

namespace Datagram

variable {σ : Type}

/-- The handles that calls have opened and not closed again. -/
def openHandles (cs : List Call) : List Handle := cs.foldl Call.openAfter []

theorem openHandles_snoc (cs : List Call) (c : Call) :
    openHandles (cs ++ [c]) = c.openAfter (openHandles cs) := by
  rw [openHandles, List.foldl_append]
  rfl

namespace SlotTable

theorem inUse_le_capacity (t : SlotTable) : t.inUse ≤ t.capacity := List.countP_le_length

theorem capacity_put (t : SlotTable) (slot : Nat) (entry : SlotEntry) :
    (t.put slot entry).capacity = t.capacity := List.length_set

theorem capacity_setPort (t : SlotTable) (slot : Nat) (port : UInt16) :
    (t.setPort slot port).capacity = t.capacity := List.length_modify ..

theorem capacity_acquire {t t' : SlotTable} {slot : Nat} (h : t.acquire = .ok (slot, t')) :
    t'.capacity = t.capacity := by
  obtain ⟨-, -, rfl⟩ := acquire_eq_ok h
  exact capacity_put ..

end SlotTable

/-- Replacing a table by one of the same capacity changes no capacity. -/
theorem capacity_set {ts : List SlotTable} {i : Nat} {t : SlotTable}
    (h : t.capacity = (ts.getD i .empty).capacity) (j : Nat) :
    ((ts.set i t).getD j .empty).capacity = (ts.getD j .empty).capacity := by
  by_cases hi : i < ts.length
  · rw [getD_set_of_lt hi]
    split
    · rename_i hj
      rw [h, hj]
    · rfl
  · rw [List.set_eq_of_length_le (Nat.le_of_not_lt hi)]

namespace Stage

variable {x y : Stage} {c : Call} {rest : List Handle}

/-- Who has a handle has a slot. -/
theorem length_handle?_le (x : Stage) : x.handle?.toList.length ≤ x.lease?.toList.length := by
  cases x with
  | leased => exact Nat.zero_le 1
  | free | opened | bound => exact Nat.le_refl _

/-- A call that succeeds, if it is a close, opens and closes what the stages say. -/
theorem Allows.openAfter (h : x.Allows c y) (hc : c.failedClose? = none) {hs : List Handle}
    (hopen : hs.Perm (x.handle?.toList ++ rest)) :
    (c.openAfter hs).Perm (y.handle?.toList ++ rest) := by
  have herased {k : Handle} (hk : hs.Perm (k :: rest)) : (hs.erase k).Perm rest := by
    have hperm := hk.erase k
    rw [List.erase_cons_head] at hperm
    exact hperm
  cases h with
  | createFailed | bind | localPort => exact hopen
  | created => exact (hopen.append_right _).trans List.perm_append_comm
  | @discard _ _ answer | @close _ answer =>
    cases answer with
    | ok _ => exact herased hopen
    | error e => cases hc
  | @traffic b c ht =>
    cases c with
    | send | receive | poll => exact hopen
    | _ => cases ht

end Stage

theorem Act.own {table : Nat} {x y : Stage} {ts ts' : List SlotTable}
    {cs : List (Call × List SlotTable)} (h : Act table x ts cs y ts')
    (hx : ∀ l, x.lease? = some l → l.table = table) (l : Lease) (hl : y.lease? = some l) :
    l.table = table := by
  cases h with
  | acquire =>
    cases hl
    rfl
  | call _ _ hc => exact hx l (hc.lease?_eq ▸ hl)
  | record => exact hx l hl
  | release => cases hl

/-- All calls of a socket find a slot of its table leased. -/
theorem Custody.marked_calls {table : Nat} {x y : Stage} {ts ts' : List SlotTable}
    {cs : List (Call × List SlotTable)} (h : Custody table x ts cs y ts')
    (hx : ∀ l, x.lease? = some l → l.table = table) :
    (∀ l, y.lease? = some l → l.table = table) ∧
      ∀ e ∈ cs, ∃ slot, Lease.marked ⟨table, slot⟩ e.2 = true := by
  induction h with
  | refl => exact ⟨hx, List.forall_mem_nil _⟩
  | tail _ ha ih =>
    obtain ⟨hown, hmarked⟩ := ih
    refine ⟨ha.own hown, ?_⟩
    intro e he
    rcases List.mem_append.1 he with he | he
    · exact hmarked e he
    cases ha with
    | @call _ _ _ lease _ hlease hfound =>
      obtain rfl := List.mem_singleton.1 he
      refine ⟨lease.slot, ?_⟩
      rw [← hown lease hlease]
      exact hfound
    | acquire | record | release => cases he

/-- The slots of the table and the open handles at a moment at which one socket is in stage `x`,
`others` are the leases held elsewhere and `rest` the handles of all other sockets. -/
structure Tally (table capacity : Nat) (others : List Lease) (rest : List Handle) (x : Stage)
    (ts : List SlotTable) (cs : List Call) : Prop where
  count_leases : ∀ l, (x.lease?.toList ++ others).count l = (l.marked ts).toNat
  own : ∀ l, x.lease? = some l → l.table = table
  opened : (openHandles cs).Perm (x.handle?.toList ++ rest)
  few : rest.length ≤ (others.filterMap (Lease.slotIn table)).length
  capacity_eq : (ts.getD table .empty).capacity = capacity

/-- At most as many handles are open as slots of the table are in use, and those fit in it. -/
def Within (table capacity : Nat) (ts : List SlotTable) (cs : List Call) : Prop :=
  (openHandles cs).length ≤ (ts.getD table .empty).inUse ∧
    (ts.getD table .empty).inUse ≤ capacity

/-- So it is right before and right after every one of the calls. -/
def Covered (table capacity : Nat) (seen : List (Call × List SlotTable)) : Prop :=
  ∀ before c ts after, seen = before ++ (c, ts) :: after →
    Within table capacity ts (before.map Prod.fst) ∧
      Within table capacity ts (before.map Prod.fst ++ [c])

theorem covered_nil (table capacity : Nat) : Covered table capacity [] := by
  intro before c ts after hsplit
  simp at hsplit

theorem Covered.snoc {table capacity : Nat} {seen : List (Call × List SlotTable)} {c : Call}
    {ts : List SlotTable} (h : Covered table capacity seen)
    (hbefore : Within table capacity ts (seen.map Prod.fst))
    (hafter : Within table capacity ts (seen.map Prod.fst ++ [c])) :
    Covered table capacity (seen ++ [(c, ts)]) := by
  intro before c' ts' after hsplit
  rcases List.eq_nil_or_concat after with rfl | ⟨after, last, rfl⟩
  · obtain ⟨rfl, hlast⟩ := List.append_inj' hsplit rfl
    cases hlast
    exact ⟨hbefore, hafter⟩
  · rw [List.concat_eq_append, ← List.cons_append, ← List.append_assoc] at hsplit
    exact h before c' ts' after (List.append_inj' hsplit rfl).1

namespace Tally

variable {table capacity : Nat} {others : List Lease} {rest : List Handle} {x y : Stage}
  {ts ts' : List SlotTable} {cs : List Call} {seen new : List (Call × List SlotTable)}

theorem inUse_eq (h : Tally table capacity others rest x ts cs) :
    (ts.getD table .empty).inUse =
      x.lease?.toList.length + (others.filterMap (Lease.slotIn table)).length := by
  have hcount (slot : Nat) :
      ((x.lease?.toList ++ others).filterMap (Lease.slotIn table)).count slot =
        ((ts.getD table .empty).marks slot).toNat := by
    rw [Lease.count_slotIn]
    exact h.count_leases ⟨table, slot⟩
  have hown : (x.lease?.toList.filterMap (Lease.slotIn table)).length = x.lease?.toList.length := by
    cases hx : x.lease? with
    | none => rfl
    | some l => simp [Lease.slotIn, h.own l hx]
  rw [(SlotTable.heldBy_of_count hcount).inUse, List.filterMap_append, List.length_append, hown]

theorem within (h : Tally table capacity others rest x ts cs) : Within table capacity ts cs := by
  refine ⟨?_, h.capacity_eq ▸ SlotTable.inUse_le_capacity _⟩
  have hlease := x.length_handle?_le
  have hfew := h.few
  rw [h.opened.length_eq, List.length_append, h.inUse_eq]
  omega

theorem marked (h : Tally table capacity others rest x ts cs) (l : Lease)
    (hl : x.lease? = some l) : l.marked ts = true := by
  have hone := h.count_leases l
  rw [hl, Option.toList_some, List.singleton_append, List.count_cons_self] at hone
  cases hm : l.marked ts with
  | true => rfl
  | false => rw [hm] at hone; cases hone

/-- One act of the socket changes slots in use and open handles alike, if no close fails. -/
theorem act (h : Tally table capacity others rest x ts cs) (ha : Act table x ts new y ts')
    (hcloses : (new.map Prod.fst).filterMap Call.failedClose? = []) :
    Tally table capacity others rest y ts' (cs ++ new.map Prod.fst) where
  count_leases l := by
    have hcount := h.count_leases l
    have hact := ha.balance h.marked l
    rw [List.count_append] at hcount ⊢
    omega
  own := ha.own h.own
  opened := by
    have hopened := h.opened
    cases ha with
    | @call _ c _ _ _ _ _ hc =>
      have hok : c.failedClose? = none := by simpa using hcloses
      rw [List.map_singleton, openHandles_snoc]
      exact hc.openAfter hok hopened
    | acquire | record | release =>
      rw [List.map_nil, List.append_nil]
      exact hopened
  few := h.few
  capacity_eq := by
    refine Eq.trans ?_ h.capacity_eq
    cases ha with
    | acquire hslot => exact capacity_set (SlotTable.capacity_acquire hslot) table
    | call => rfl
    | record => exact capacity_set (SlotTable.capacity_setPort ..) table
    | release => exact capacity_set (SlotTable.capacity_put ..) table

theorem custody (h : Tally table capacity others rest x ts (seen.map Prod.fst))
    (hseen : Covered table capacity seen) (hcustody : Custody table x ts new y ts')
    (hcloses : (new.map Prod.fst).filterMap Call.failedClose? = []) :
    Tally table capacity others rest y ts' ((seen ++ new).map Prod.fst) ∧
      Covered table capacity (seen ++ new) := by
  induction hcustody with
  | refl =>
    rw [List.append_nil]
    exact ⟨h, hseen⟩
  | tail _ ha ih =>
    rw [List.map_append, List.filterMap_append, List.append_eq_nil_iff] at hcloses
    obtain ⟨hbefore, hcovered⟩ := ih hcloses.1
    have hafter := hbefore.act ha hcloses.2
    rw [← List.append_assoc, List.map_append]
    refine ⟨hafter, ?_⟩
    cases ha with
    | call => exact hcovered.snoc hbefore.within hafter.within
    | acquire | record | release =>
      rw [List.append_nil]
      exact hcovered

end Tally

/-- The socket that a step is an operation of. -/
def Step.actor? : Step → Option Nat
  | .socket i _ | .drop i => some i
  | _ => none

namespace World

variable {w : World σ}

theorem observed_acquire (w : World σ) (i : Nat) : (w.acquire i).2.observed = w.observed := by
  unfold acquire
  split
  · exact observed_emit ..
  · exact observed_emit ..

theorem capacity_acquire (w : World σ) (i j : Nat) :
    ((w.acquire i).2.table j).capacity = (w.table j).capacity := by
  unfold acquire
  cases hslot : (w.table i).acquire with
  | error e => rfl
  | ok taken => exact capacity_set (SlotTable.capacity_acquire hslot) j

theorem capacity_release (w : World σ) (lease : Lease) (j : Nat) :
    ((w.release lease).table j).capacity = (w.table j).capacity :=
  capacity_set (SlotTable.capacity_put ..) j

theorem capacity_setPort (w : World σ) (lease : Lease) (port : UInt16) (j : Nat) :
    ((w.setPort lease port).table j).capacity = (w.table j).capacity :=
  capacity_set (SlotTable.capacity_setPort ..) j

end World

namespace Socket

theorem handle?_stage (s : Socket) : s.stage.handle? = s.handle? := by
  rw [stage, handle?]
  cases s.binding <;> rfl

end Socket

namespace Session

variable {T : Transport σ} {ss : Session σ} {st : Step} {i table capacity : Nat} {s : Socket}

/-- The stage of a socket, which is free once it has been dropped. -/
def stageOf (ss : Session σ) (i : Nat) : Stage := .ofBinding ((ss.socket? i).bind (·.binding))

def AllOn (table : Nat) (ss : Session σ) : Prop := ∀ s, some s ∈ ss.sockets → s.table = table

instance (table : Nat) (ss : Session σ) : Decidable (AllOn table ss) :=
  decidable_of_iff (∀ o ∈ ss.sockets, ∀ s ∈ o, s.table = table)
    ⟨fun h s hs => h (some s) hs s rfl, fun h _ ho s hs => h s (hs ▸ ho)⟩

def boundSockets (ss : Session σ) : Nat := ss.sockets.countP fun o => o.any Socket.isBound

theorem length_held (ss : Session σ) : ss.held.length = ss.boundSockets := by
  rw [held, gather, List.length_filterMap_eq_countP, boundSockets]
  apply List.countP_congr
  intro o _
  cases o with
  | none => exact Iff.rfl
  | some s =>
    rw [Option.bind_some, Option.any_some, Socket.handle?, Option.isSome_map, Socket.isBound]

/-- A step of a living socket, seen from the socket. -/
theorem step_attends (hacc : Accounted ss) (hst : st.actor? = some i)
    (hs : ss.socket? i = some s) :
    ∃ w x, (ss.step T st).2 = { ss with world := w, sockets := ss.sockets.set i x } ∧
      World.Attends s.table s.stage ss.world (.ofBinding (x.bind (·.binding))) w := by
  have hheld : ∀ l, s.stage.lease? = some l → l.marked ss.world.tables = true := by
    rw [Socket.lease?_stage]
    exact hacc.held hs
  cases st with
  | socket j op =>
    cases hst
    exact ⟨_, _, step_socket hs op, Socket.perform_attends T s ss.world hheld op⟩
  | drop j =>
    cases hst
    have hstopped := Socket.perform_attends T s ss.world hheld .stop
    have hfree : (s.perform T ss.world .stop).2.1.stage = .free := by
      change (s.stop T ss.world).1.stage = .free
      rw [Socket.stop_released]
      rfl
    rw [hfree] at hstopped
    exact ⟨_, none, step_drop hs, hstopped⟩
  | _ => cases hst

theorem step_of_no_actor (hst : st.actor? = some i) (hs : ss.socket? i = none) :
    (ss.step T st).2 = ss := by
  cases st with
  | socket j op => cases hst; exact step_socket_of_none hs op
  | drop j => cases hst; exact step_drop_of_none hs
  | _ => cases hst

/-- Steps that are no operation of a socket make no call through one. -/
theorem step_observed (hraw : st.isRaw = false) (hst : st.actor? = none) :
    (ss.step T st).2.world.observed = ss.world.observed := by
  cases st with
  | socket | drop => cases hst
  | raw => cases hraw
  | acquire table => exact World.observed_acquire ..
  | release k =>
    cases hk : ss.heldLease? k with
    | none => rw [step_release_of_none hk]
    | some lease => rw [step_release hk]; exact World.observed_release ..
  | setPort k port =>
    rcases step_setPort_cases T ss k port with hk | ⟨lease, -, hk⟩ <;> rw [hk]
    rfl
  | leaseOutline k => rw [step_leaseOutline]
  | _ => rfl

theorem step_capacity (hst : st.actor? = none) (table : Nat) :
    ((ss.step T st).2.world.table table).capacity = (ss.world.table table).capacity := by
  cases st with
  | socket | drop => cases hst
  | raw call =>
    change ((rawCall T ss.world call).2.table table).capacity = _
    rw [World.table, rawCall_tables, World.table]
  | acquire i => exact World.capacity_acquire ..
  | release k =>
    cases hk : ss.heldLease? k with
    | none => rw [step_release_of_none hk]
    | some lease => rw [step_release hk]; exact World.capacity_release ..
  | setPort k port =>
    rcases step_setPort_cases T ss k port with hk | ⟨lease, -, hk⟩ <;> rw [hk]
    exact World.capacity_setPort ..
  | leaseOutline k => rw [step_leaseOutline]
  | _ => rfl

theorem held_step (hst : st.actor? = none) : (ss.step T st).2.held = ss.held := by
  cases st with
  | socket | drop => cases hst
  | construct spec => exact held_construct spec
  | _ =>
    rw [held, gather, step_sockets rfl]
    rfl

/-- What holds of a session between steps while slots cover open handles. -/
structure Sheltered (table capacity : Nat) (ss : Session σ) : Prop where
  accounted : Accounted ss
  opened : (openHandles ss.world.calls).Perm ss.held
  capacity_eq : (ss.world.table table).capacity = capacity
  covered : Covered table capacity ss.world.observed

theorem length_slotIn {leases : List Lease} (h : ∀ l ∈ leases, l.table = table) :
    (leases.filterMap (Lease.slotIn table)).length = leases.length := by
  rw [List.length_filterMap_eq_countP, List.countP_eq_length]
  intro l hl
  rw [Lease.slotIn, if_pos (h l hl)]
  rfl

theorem Accounted.table_of_mem (h : Accounted ss) (hon : AllOn table ss) (l : Lease)
    (hl : l ∈ ss.gather Socket.lease?) : l.table = table := by
  obtain ⟨o, ho, hol⟩ := List.mem_filterMap.1 hl
  obtain ⟨s, rfl, hs⟩ := Option.bind_eq_some_iff.1 hol
  obtain ⟨b, hb, rfl⟩ := Option.map_eq_some_iff.1 hs
  rw [h.table_eq s b ho hb, hon s ho]

/-- Sockets hold as many handles as slots. -/
theorem length_held_leases (ss : Session σ) :
    ss.held.length = (ss.gather Socket.lease?).length := by
  rw [held, gather, gather, List.length_filterMap_eq_countP, List.length_filterMap_eq_countP]
  apply List.countP_congr
  intro o _
  cases o with
  | none => exact Iff.rfl
  | some s => simp only [Option.bind_some, Socket.handle?, Socket.lease?, Option.isSome_map]

/-- Between steps no socket is in the middle of anything. -/
theorem Sheltered.within (h : Sheltered table capacity ss) (hon : AllOn table ss) :
    Within table capacity ss.world.tables ss.world.calls := by
  have hidle : Tally table capacity ss.leases ss.held .free ss.world.tables ss.world.calls := by
    refine ⟨h.accounted.count_leases, nofun, h.opened, ?_, h.capacity_eq⟩
    rw [leases, List.filterMap_append, List.length_append, length_held_leases,
      length_slotIn (h.accounted.table_of_mem hon)]
    exact Nat.le_add_left ..
  exact hidle.within

/-- Before a step of a socket, with what the others hold apart from what it holds itself. -/
theorem Sheltered.tally (h : Sheltered table capacity ss) (hon : AllOn table ss)
    (hs : ss.socket? i = some s) :
    ∃ others rest, Tally table capacity others rest s.stage ss.world.tables ss.world.calls ∧
      ∀ (w : World σ) (x : Option Socket),
        ({ ss with world := w, sockets := ss.sockets.set i x } : Session σ).held.Perm
          ((x.bind Socket.handle?).toList ++ rest) := by
  obtain ⟨leases, hleases, -⟩ := gather_perm hs Socket.lease?
  obtain ⟨rest, hheld, hset⟩ := gather_perm hs Socket.handle?
  refine ⟨ss.tickets.filterMap Ticket.lease? ++ leases, rest, ⟨?_, ?_, ?_, ?_, h.capacity_eq⟩, hset⟩
  · intro l
    have hcount := h.accounted.count_leases l
    rw [Session.leases, List.count_append, hleases.count_eq, List.count_append] at hcount
    rw [Socket.lease?_stage, List.count_append, List.count_append]
    omega
  · intro l hl
    rw [Socket.lease?_stage] at hl
    apply h.accounted.table_of_mem hon
    rw [hleases.mem_iff, hl]
    exact List.mem_cons_self ..
  · rw [Socket.handle?_stage]
    exact h.opened.trans hheld
  · have hown : s.handle?.toList.length = s.lease?.toList.length := by
      rw [Socket.handle?, Socket.lease?]
      cases s.binding <;> rfl
    have hall := length_held_leases ss
    rw [held, hheld.length_eq, hleases.length_eq, List.length_append, List.length_append] at hall
    have hothers : (leases.filterMap (Lease.slotIn table)).length = leases.length := by
      apply length_slotIn
      intro l hl
      exact h.accounted.table_of_mem hon l (hleases.mem_iff.2 (List.mem_append_right _ hl))
    rw [List.filterMap_append, List.length_append, hothers]
    omega

theorem Sheltered.step (h : Sheltered table capacity ss) (hon : AllOn table ss)
    (hraw : st.isRaw = false)
    (hcloses : (ss.step T st).2.world.calls.filterMap Call.failedClose? = []) :
    Sheltered table capacity (ss.step T st).2 := by
  cases hst : st.actor? with
  | none =>
    have hobserved : (ss.step T st).2.world.observed = ss.world.observed := step_observed hraw hst
    refine ⟨h.accounted.step st, ?_, ?_, ?_⟩
    · rw [World.calls_eq_observed, hobserved, ← World.calls_eq_observed, held_step hst]
      exact h.opened
    · rw [step_capacity hst]
      exact h.capacity_eq
    · rw [hobserved]
      exact h.covered
  | some i =>
    cases hs : ss.socket? i with
    | none =>
      rw [step_of_no_actor hst hs]
      exact h
    | some s =>
      obtain ⟨others, rest, htally, hset⟩ := h.tally hon hs
      obtain ⟨w, x, hstep, ⟨new, hobserved, hcustody⟩, -⟩ :=
        step_attends (T := T) h.accounted hst hs
      rw [hon s (mem_sockets_of_socket? hs)] at hcustody
      have haccounted := h.accounted.step (T := T) st
      rw [hstep] at hcloses haccounted ⊢
      change w.calls.filterMap _ = [] at hcloses
      rw [World.calls_eq_observed, hobserved, List.map_append, List.filterMap_append,
        List.append_eq_nil_iff] at hcloses
      rw [World.calls_eq_observed] at htally
      obtain ⟨hafter, hcovered⟩ := htally.custody h.covered hcustody hcloses.2
      refine ⟨haccounted, ?_, hafter.capacity_eq, ?_⟩
      · change (openHandles w.calls).Perm _
        rw [World.calls_eq_observed, hobserved]
        have hhandle : (Stage.ofBinding (x.bind (·.binding))).handle? = x.bind Socket.handle? := by
          cases x with
          | none => rfl
          | some s' => exact s'.handle?_stage
        have hopened := hafter.opened
        rw [hhandle] at hopened
        exact hopened.trans (hset w x).symm
      · change Covered table capacity w.observed
        rw [hobserved]
        exact hcovered

theorem sheltered_ofTables (table : Nat) (transport : σ) (capacities : List Nat)
    (specs : List SocketSpec) :
    Sheltered table (capacities.getD table 0)
      (ofTables transport (capacities.map .ofCapacity) specs) where
  accounted := accounted_ofTables transport capacities specs
  opened := by
    rw [held_ofTables]
    exact .rfl
  capacity_eq := by
    change ((capacities.map SlotTable.ofCapacity).getD table (SlotTable.ofCapacity 0)).capacity = _
    rw [List.getD_eq_getElem?_getD, List.getElem?_map, List.getD_eq_getElem?_getD]
    cases capacities[table]? with
    | none => rfl
    | some capacity => exact List.length_replicate
  covered := covered_nil _ _

theorem Sheltered.run (h : Sheltered table capacity ss) {steps : List Step}
    (hon : ∀ before, before <+: steps → AllOn table (ss.run T before).2)
    (hraw : ∀ st ∈ steps, st.isRaw = false)
    (hcloses : (ss.run T steps).2.world.calls.filterMap Call.failedClose? = []) :
    Sheltered table capacity (ss.run T steps).2 := by
  -- induction from the end: a close that failed stays in the history of every later session
  induction steps using List.reverseRecOn with
  | nil => exact h
  | append_singleton steps st ih =>
    have hend : (ss.run T (steps ++ [st])).2 = ((ss.run T steps).2.step T st).2 := run_append ..
    rw [hend] at hcloses ⊢
    obtain ⟨cs, hcalls, -⟩ := step_calls T (ss.run T steps).2 st
    have hbefore := hcloses
    rw [hcalls, List.filterMap_append, List.append_eq_nil_iff] at hbefore
    have hsheltered := ih (fun before hpre => hon before (hpre.trans (List.prefix_append ..)))
      (fun st' hst' => hraw st' (List.mem_append_left _ hst')) hbefore.1
    apply hsheltered.step (hon steps (List.prefix_append ..)) _ hcloses
    exact hraw st (List.mem_append_right _ (List.mem_singleton_self st))

/-- In a run without calls past the sockets the transport takes the calls of the history. -/
theorem run_evolves (T : Transport σ) (ss : Session σ) {steps : List Step}
    (hraw : ∀ st ∈ steps, st.isRaw = false) :
    ∃ cs, World.Evolves T ss.world cs (ss.run T steps).2.world := by
  induction steps generalizing ss with
  | nil => exact ⟨[], World.evolves_refl T ss.world⟩
  | cons st steps ih =>
    have hfirst := step_evolves T ss (hraw st (List.mem_cons_self ..))
    obtain ⟨cs, hrest⟩ := ih (ss.step T st).2 fun st' hst' =>
      hraw st' (List.mem_cons_of_mem st hst')
    exact ⟨_, hfirst.trans hrest⟩

/-- Whatever a socket does next in a run, it does it in custody, so that its slot is leased in its
table at every call; and nothing else but calls past the sockets reaches the transport. As long as
all sockets are on one table, no close fails and no calls are made past the sockets, at every call
and between steps at most as many handles are open as slots are in use, and between steps they are
as many as the bound sockets. The handles that the history shows as open are those that are open in
the transport, for every transport that can tell. -/
theorem slot_held_around_calls (T : Transport σ) (transport : σ) (capacities : List Nat)
    (specs : List SocketSpec) (steps : List Step) :
    let start := ofTables transport (capacities.map .ofCapacity) specs
    let ss := (start.run T steps).2
    (∀ st, st.isRaw = false →
      (∀ i s, st.actor? = some i → ss.socket? i = some s →
        ∃ cs, (ss.step T st).2.world.observed = ss.world.observed ++ cs ∧
          Custody s.table s.stage ss.world.tables cs ((ss.step T st).2.stageOf i)
            (ss.step T st).2.world.tables ∧
          ∀ e ∈ cs, ∃ slot, Lease.marked ⟨s.table, slot⟩ e.2 = true) ∧
      ((∀ i, st.actor? = some i → ss.socket? i = none) →
        (ss.step T st).2.world.observed = ss.world.observed)) ∧
    ∀ table, (∀ before, before <+: steps → AllOn table (start.run T before).2) →
      (∀ st ∈ steps, st.isRaw = false) → ss.world.calls.filterMap Call.failedClose? = [] →
      Covered table (capacities.getD table 0) ss.world.observed ∧
        Within table (capacities.getD table 0) ss.world.tables ss.world.calls ∧
        (openHandles ss.world.calls).length = ss.boundSockets ∧
        ∀ V : T.OpenView, V.Sane transport → V.handles transport = [] →
          ∀ before after, ss.world.calls = before ++ after →
            ∃ t, T.Replays transport before t ∧ T.Replays t after ss.world.transport ∧
              V.handles t = openHandles before := by
  intro start ss
  have haccounted : Accounted ss := (accounted_ofTables transport capacities specs).run steps
  refine ⟨?_, ?_⟩
  · intro st hraw
    refine ⟨?_, ?_⟩
    · intro i s hst hs
      obtain ⟨w, x, hstep, ⟨cs, hobserved, hcustody⟩, -⟩ := step_attends (T := T) haccounted hst hs
      have hstage : (ss.step T st).2.stageOf i = .ofBinding (x.bind (·.binding)) := by
        rw [hstep, stageOf, socket?, join_getElem?_set (lt_length_of_socket? hs), if_pos rfl]
      rw [hstage, hstep]
      have hown (l : Lease) (hl : s.stage.lease? = some l) : l.table = s.table := by
        rw [Socket.lease?_stage] at hl
        obtain ⟨b, hb, rfl⟩ := Option.map_eq_some_iff.1 hl
        exact haccounted.table_eq s b (mem_sockets_of_socket? hs) hb
      exact ⟨cs, hobserved, hcustody, (hcustody.marked_calls hown).2⟩
    · intro hidle
      cases hst : st.actor? with
      | none => exact step_observed hraw hst
      | some i => rw [step_of_no_actor hst (hidle i hst)]
  · intro table hon hraw hcloses
    have hsheltered : Sheltered table (capacities.getD table 0) ss :=
      (sheltered_ofTables table transport capacities specs).run hon hraw hcloses
    have hbound : (openHandles ss.world.calls).length = ss.boundSockets := by
      rw [hsheltered.opened.length_eq, length_held]
    refine ⟨hsheltered.covered, hsheltered.within (hon steps List.prefix_rfl), hbound, ?_⟩
    · intro V hsane hnone before after hsplit
      obtain ⟨cs, hevolves⟩ := run_evolves T start hraw
      have hcalls : ss.world.calls = cs := hevolves.calls
      have hreplays := hevolves.replays
      rw [← hcalls, hsplit] at hreplays
      obtain ⟨t, hbefore, hafter⟩ := hreplays.of_append
      refine ⟨t, hbefore, hafter, ?_⟩
      have hhandles := (V.replays hbefore hsane).2
      change _ = before.foldl _ (V.handles transport) at hhandles
      rw [hhandles, hnone]
      rfl

/-- Two sockets share a table through a clone of its handle. The second one cannot bind its handle
at first, and is dropped in the end. -/
theorem slot_held_around_calls_shared_table :
    let script : Script := { bind := [.normal, .fails (.bind 7001 "in use")] }
    let start := ofTables script ([2].map .ofCapacity)
      [{ table := 0, txCapacity := some 2, rxCapacity := some 2 }]
    let ss := (start.run Script.transport
      [.socket 0 (.begin 7000), .cloneTable 0,
        .construct { table := 1, txCapacity := some 2, rxCapacity := some 2 },
        .socket 1 (.begin 7001), .socket 1 (.begin 7001), .socket 0 (.begin 7002), .drop 1]).2
    (∃ cs, (ss.step Script.transport (.socket 0 .stop)).2.world.observed =
        ss.world.observed ++ cs ∧ ∀ e ∈ cs, ∃ slot, Lease.marked ⟨0, slot⟩ e.2 = true) ∧
      Covered 0 2 ss.world.observed ∧ Within 0 2 ss.world.tables ss.world.calls ∧
      (openHandles ss.world.calls).length = 1 ∧ ss.boundSockets = 1 := by
  intro script start ss
  have h := slot_held_around_calls Script.transport
    { bind := [.normal, .fails (.bind 7001 "in use")] } [2]
    [{ table := 0, txCapacity := some 2, rxCapacity := some 2 }]
    [.socket 0 (.begin 7000), .cloneTable 0,
      .construct { table := 1, txCapacity := some 2, rxCapacity := some 2 },
      .socket 1 (.begin 7001), .socket 1 (.begin 7001), .socket 0 (.begin 7002), .drop 1]
  have hone : ss.boundSockets = 1 := by decide
  have hlives : (ss.socket? 0).isSome := by decide
  obtain ⟨s, hs⟩ := Option.isSome_iff_exists.1 hlives
  have htable : s.table = 0 := by
    have hall : ∀ s ∈ ss.socket? 0, s.table = 0 := by decide
    exact hall s hs
  obtain ⟨cs, hobserved, -, hmarked⟩ := (h.1 (.socket 0 .stop) rfl).1 0 s rfl hs
  rw [htable] at hmarked
  obtain ⟨hcovered, hwithin, hopen, -⟩ := h.2 0
    (by
      intro before hpre
      rw [← List.mem_inits] at hpre
      revert before
      decide)
    (by decide) (by decide)
  simp only [ss, start, script] at hone ⊢
  exact ⟨⟨cs, hobserved, hmarked⟩, hcovered, hwithin, hopen.trans hone, hone⟩

end Session
end Datagram
