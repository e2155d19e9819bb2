import Mathlib.Data.Finset.Basic
import Mathlib.Data.Finset.Range
import Mathlib.Data.List.Induction
import Datagram.Proofs.BindingGate
import Datagram.Proofs.RecordedPorts
import Datagram.Proofs.ResourceLog
import Datagram.Proofs.UnheededCloses

/-!
# The log tells the history of resources

What the log says about one binding, or about one slot of the only table, are notices that something
has been taken or returned. They alternate, each return being of what was taken last, and what is
out according to them is what the socket has, or what the table shows as leased. So whoever replays
them knows which slots are leased.
-/

namespace Datagram

variable {σ κ : Type}

inductive Notice (κ : Type) where
  | taken (what : κ)
  | returned (what : κ)
deriving DecidableEq

/-- Notices that begin with a taking if nothing is out beforehand, go on with the return of what was
taken, and so forth. What is out is given before and after them. -/
inductive Alternating (x : Option κ) : List (Notice κ) → Option κ → Prop
  | nil : Alternating x [] x
  | taken {l} (h : Alternating x l none) (k : κ) : Alternating x (l ++ [.taken k]) (some k)
  | returned {l k} (h : Alternating x l (some k)) : Alternating x (l ++ [.returned k]) none

namespace Alternating

variable {x y z : Option κ} {l l' : List (Notice κ)}

theorem trans (h : Alternating x l y) (h' : Alternating y l' z) : Alternating x (l ++ l') z := by
  induction h' with
  | nil =>
    rw [List.append_nil]
    exact h
  | taken _ k ih =>
    rw [← List.append_assoc]
    exact ih.taken k
  | returned _ ih =>
    rw [← List.append_assoc]
    exact ih.returned

/-- What is out is what was taken by the last notice. -/
theorem getLast?_eq_taken (h : Alternating none l y) (k : κ) :
    l.getLast? = some (.taken k) ↔ y = some k := by
  cases h with
  | nil => exact ⟨nofun, nofun⟩
  | taken h k' =>
    rw [List.getLast?_concat, Option.some_inj, Option.some_inj, Notice.taken.injEq]
  | returned h =>
    rw [List.getLast?_concat, Option.some_inj]
    exact ⟨nofun, nofun⟩

end Alternating

namespace Notice

def what : Notice κ → κ
  | taken k | returned k => k

variable [DecidableEq κ]

def replay (out : Finset κ) : Notice κ → Finset κ
  | taken k => insert k out
  | returned k => out.erase k

/-- Something is out after all notices if the last one about it says so. -/
theorem mem_replay_iff (l : List (Notice κ)) (k : κ) :
    k ∈ l.foldl replay ∅ ↔ (l.filter (·.what = k)).getLast? = some (.taken k) := by
  induction l using List.reverseRecOn with
  | nil => exact ⟨nofun, nofun⟩
  | append_singleton l n ih =>
    rw [List.foldl_append, List.foldl_cons, List.foldl_nil, List.filter_append]
    by_cases hn : n.what = k
    · rw [List.filter_cons_of_pos (by simpa using hn), List.filter_nil, List.getLast?_concat,
        Option.some_inj]
      subst hn
      cases n with
      | taken k => exact ⟨fun _ => rfl, fun _ => Finset.mem_insert_self ..⟩
      | returned k => exact ⟨fun h => absurd h (Finset.notMem_erase k _), nofun⟩
    · rw [List.filter_cons_of_neg (by simpa using hn), List.filter_nil, List.append_nil, ← ih]
      cases n with
      | taken k' => rw [replay, Finset.mem_insert, or_iff_right fun he => hn he.symm]
      | returned k' => rw [replay, Finset.mem_erase, and_iff_right fun he => hn he.symm]

end Notice

namespace Event

/-- What an event says about the binding of a socket: which port and slot it gets or loses. -/
def tenure? : Event → Option (Notice (UInt16 × Nat))
  | bound _ port slot => some (.taken (port, slot))
  | stopped port slot => some (.returned (port, slot))
  | _ => none

/-- What an event says about a slot. -/
def occupancy? : Event → Option (Notice Nat)
  | slotAcquired slot => some (.taken slot)
  | slotReleased slot => some (.returned slot)
  | _ => none

theorem tenure?_of_foreign {e : Event} (he : e.ofResource = false) : e.tenure? = none := by
  cases e with
  | bound | stopped => cases he
  | _ => rfl

theorem occupancy?_of_foreign {e : Event} (he : e.ofResource = false) : e.occupancy? = none := by
  cases e with
  | slotAcquired | slotReleased => cases he
  | _ => rfl

end Event

/-- Notices given by reports of resources can be read off these reports. -/
theorem filterMap_ofResource {α : Type} {f : Event → Option α}
    (hf : ∀ e, Event.ofResource e = false → f e = none) (es : List Event) :
    (es.filter Event.ofResource).filterMap f = es.filterMap f := by
  rw [List.filterMap_filter]
  apply List.filterMap_congr
  intro e _
  cases he : e.ofResource with
  | true => rfl
  | false => exact (hf e he).symm

def Binding.tenure (b : Binding) : UInt16 × Nat := (b.port, b.lease.slot)

variable {table : Nat} {x y : Option Binding} {es es' : List Event} {ts ts' ts'' : List SlotTable}

/-- The reports of a socket say what binding it has got and given up. -/
theorem Story.tenure (h : Story table x ts es y ts') :
    Alternating (x.map Binding.tenure) (es.filterMap Event.tenure?) (y.map Binding.tenure) := by
  induction h with
  | nothing | fail => exact .nil
  | stop b ts => exact Alternating.nil.returned
  | bind hslot k port => exact Alternating.nil.taken (port, _)
  | trans _ _ ih ih' =>
    rw [List.filterMap_append]
    exact ih.trans ih'

/-- The slot itself, if the first table shows it as leased. -/
def occupant (slot : Nat) (ts : List SlotTable) : Option Nat :=
  if Lease.marked ⟨0, slot⟩ ts then some slot else none

theorem occupant_eq_some_iff (slot : Nat) (ts : List SlotTable) :
    occupant slot ts = some slot ↔ Lease.marked ⟨0, slot⟩ ts = true := by
  rw [occupant, Option.ite_none_right_eq_some, and_iff_left rfl]

theorem occupant_of_marked {slot : Nat} (h : Lease.marked ⟨0, slot⟩ ts = true) :
    occupant slot ts = some slot := if_pos h

theorem occupant_of_free {slot : Nat} (h : Lease.marked ⟨0, slot⟩ ts = false) :
    occupant slot ts = none := if_neg (Bool.eq_false_iff.1 h)

theorem occupant_congr {slot : Nat}
    (h : (Lease.marked ⟨0, slot⟩ ts').toNat = (Lease.marked ⟨0, slot⟩ ts).toNat) :
    occupant slot ts' = occupant slot ts := by
  have hmarked : Lease.marked ⟨0, slot⟩ ts' = Lease.marked ⟨0, slot⟩ ts := by
    generalize Lease.marked ⟨0, slot⟩ ts' = after, Lease.marked ⟨0, slot⟩ ts = before at h
    cases after <;> cases before <;> first | rfl | cases h
  rw [occupant, occupant, hmarked]

def slotNotices (slot : Nat) (es : List Event) : List (Notice Nat) :=
  (es.filterMap Event.occupancy?).filter (·.what = slot)

theorem slotNotices_append (slot : Nat) (es es' : List Event) :
    slotNotices slot (es ++ es') = slotNotices slot es ++ slotNotices slot es' := by
  rw [slotNotices, List.filterMap_append, List.filter_append]
  rfl

theorem slotNotices_self (slot : Nat) :
    slotNotices slot [.slotAcquired slot] = [.taken slot] ∧
      slotNotices slot [.slotReleased slot] = [.returned slot] := by
  simp [slotNotices, Event.occupancy?, Notice.what]

theorem slotNotices_of_ne {slot other : Nat} (h : slot ≠ other) :
    slotNotices other [.slotAcquired slot] = [] ∧ slotNotices other [.slotReleased slot] = [] := by
  simp [slotNotices, Event.occupancy?, Notice.what, h]

/-- The reports say how every slot of the only table has come to what it is. -/
def Recounts (ts : List SlotTable) (es : List Event) (ts' : List SlotTable) : Prop :=
  ts.length = 1 → ts'.length = 1 ∧
    ∀ slot, Alternating (occupant slot ts) (slotNotices slot es) (occupant slot ts')

namespace Recounts

theorem trans (h : Recounts ts es ts') (h' : Recounts ts' es' ts'') :
    Recounts ts (es ++ es') ts'' := by
  intro hone
  obtain ⟨hone', halternating⟩ := h hone
  obtain ⟨hone'', halternating'⟩ := h' hone'
  refine ⟨hone'', ?_⟩
  intro slot
  rw [slotNotices_append]
  exact (halternating slot).trans (halternating' slot)

/-- Nothing is to be told where no mark changes. -/
theorem of_marked_eq (hlength : ts'.length = ts.length)
    (hmarked : ∀ l, Lease.marked l ts' = l.marked ts)
    (hes : es.filterMap Event.occupancy? = []) : Recounts ts es ts' := by
  intro hone
  refine ⟨hlength.trans hone, ?_⟩
  intro slot
  rw [slotNotices, hes, occupant, occupant, hmarked]
  exact .nil

theorem refl (ts : List SlotTable) : Recounts ts [] ts := of_marked_eq rfl (fun _ => rfl) rfl

theorem taken {slot : Nat} {t : SlotTable}
    (hslot : (ts.getD table .empty).acquire = .ok (slot, t)) :
    Recounts ts [.slotAcquired slot] (ts.set table t) := by
  intro hone
  refine ⟨List.length_set.trans hone, ?_⟩
  intro other
  obtain ⟨hcapacity, hfree, -⟩ := SlotTable.acquire_eq_ok hslot
  obtain rfl : table = 0 := by
    have hlt := World.lt_length_of_capacity (w := .bare ts) hcapacity
    change table < ts.length at hlt
    omega
  by_cases ho : slot = other
  · subst other
    have hmarked : Lease.marked ⟨0, slot⟩ (ts.set 0 t) = true :=
      World.marked_of_acquire (w := .bare ts) hslot
    rw [occupant_of_free hfree, occupant_of_marked hmarked, (slotNotices_self slot).1]
    exact Alternating.nil.taken slot
  · have hmarks := Lease.marked_taken hslot ⟨0, other⟩
    rw [List.count_singleton, if_neg (by simpa using ho)] at hmarks
    rw [occupant_congr hmarks, (slotNotices_of_ne ho).1]
    exact .nil

theorem freed {lease : Lease} (hmarked : lease.marked ts = true) :
    Recounts ts [.slotReleased lease.slot] (lease.freed ts) := by
  intro hone
  refine ⟨List.length_set.trans hone, ?_⟩
  intro other
  obtain ⟨table, slot⟩ := lease
  obtain rfl : table = 0 := by
    have hlt := Lease.lt_length_of_marked hmarked
    change table < ts.length at hlt
    omega
  have hmarks := Lease.marked_freed hmarked ⟨0, other⟩
  by_cases ho : slot = other
  · subst other
    rw [hmarked, List.count_singleton_self] at hmarks
    have hfree := Bool.toNat_eq_zero.1 (Nat.succ.inj hmarks)
    rw [occupant_of_marked hmarked, occupant_of_free hfree, (slotNotices_self slot).2]
    exact Alternating.nil.returned
  · rw [List.count_singleton, if_neg (by simpa using ho)] at hmarks
    rw [occupant_congr hmarks, (slotNotices_of_ne ho).2]
    exact .nil

end Recounts
/-- A socket that has a slot, if it is bound, accounts for all that it does to the slots. -/
theorem Story.recounts (h : Story table x ts es y ts')
    (hx : ∀ b, x = some b → b.lease.marked ts = true) :
    Recounts ts es ts' ∧ ∀ b, y = some b → b.lease.marked ts' = true := by
  induction h with
  | nothing x ts => exact ⟨.refl ts, hx⟩
  | stop b ts =>
    have hstopped : Recounts ts [.stopped b.port b.lease.slot] ts :=
      .of_marked_eq rfl (fun _ => rfl) rfl
    exact ⟨hstopped.trans (.freed (hx b rfl)), nofun⟩
  | @fail ts slot t hslot =>
    have hmarked := World.marked_of_acquire (w := .bare ts) hslot
    exact ⟨(Recounts.taken hslot).trans (.freed hmarked), nofun⟩
  | @bind ts slot t hslot k port =>
    have hmarked := World.marked_of_acquire (w := .bare ts) hslot
    have hnoted (l : Lease) : l.marked (Lease.noted ⟨table, slot⟩ port (ts.set table t)) =
        l.marked (ts.set table t) := Lease.marked_noted ..
    refine ⟨(Recounts.taken hslot).trans (.of_marked_eq List.length_set hnoted rfl), ?_⟩
    rintro b hb
    cases hb
    exact (hnoted _).trans hmarked
  | trans _ _ ih ih' =>
    obtain ⟨hfirst, hheld⟩ := ih hx
    obtain ⟨hsecond, hheld'⟩ := ih' hheld
    exact ⟨hfirst.trans hsecond, hheld'⟩

theorem World.acquire_recounts (w : World σ) (i : Nat) :
    ∃ es, World.Reports w es (w.acquire i).2 ∧ Recounts w.tables es (w.acquire i).2.tables := by
  refine ⟨_, (reports_refl w).acquire rfl, ?_⟩
  unfold World.acquire
  cases hslot : (w.table i).acquire with
  | error e => exact .refl w.tables
  | ok taken => exact .taken hslot

namespace SlotTable

def leasedSlots (t : SlotTable) : Finset Nat :=
  (Finset.range t.capacity).filter fun slot => t.marks slot = true

theorem mem_leasedSlots {t : SlotTable} {slot : Nat} :
    slot ∈ t.leasedSlots ↔ t.marks slot = true := by
  rw [leasedSlots, Finset.mem_filter, Finset.mem_range, and_iff_right_iff_imp]
  exact lt_capacity_of_marks

end SlotTable

namespace Session

open World

variable {T : Transport σ} {ss : Session σ} {st : Step} {i : Nat}

/-- The port and the slot of a socket, if it is bound. -/
def tenureOf (ss : Session σ) (i : Nat) : Option (UInt16 × Nat) :=
  ((ss.socket? i).bind (·.binding)).map Binding.tenure

theorem isBound_iff_tenureOf (ss : Session σ) (i : Nat) :
    (ss.socket? i).any Socket.isBound = true ↔ ∃ p, ss.tenureOf i = some p := by
  rw [← Option.isSome_iff_exists, tenureOf, Option.isSome_map]
  cases ss.socket? i <;> rfl

theorem tenureOf_ofTables (transport : σ) (tables : List SlotTable) (specs : List SocketSpec)
    (i : Nat) : (ofTables transport tables specs).tenureOf i = none := by
  rw [tenureOf, socket?, ofTables, List.getElem?_map]
  cases specs[i]? <;> rfl

variable (T) in
/-- What is reported during a step. -/
def told (ss : Session σ) (st : Step) : List Event :=
  (ss.step T st).2.world.events.drop ss.world.events.length

variable (T) in
/-- What is reported during the steps of socket `i`. -/
def diary (i : Nat) (ss : Session σ) : List Step → List Event
  | [] => []
  | st :: rest =>
    (if st.actor? = some i then ss.told T st else []) ++ diary i (ss.step T st).2 rest

/-- Notices can be read off what a step reports of resources. -/
theorem notices_told (h : Reports ss.world es (ss.step T st).2.world) {α : Type}
    {f : Event → Option α} (hf : ∀ e, Event.ofResource e = false → f e = none) :
    (ss.told T st).filterMap f = es.filterMap f := by
  obtain ⟨all, hall, rfl⟩ := h
  rw [filterMap_ofResource hf, told, hall, List.drop_left]

theorem notices_events {w w' : World σ} (h : Reports w es w') (slot : Nat) :
    slotNotices slot w'.events = slotNotices slot w.events ++ slotNotices slot es := by
  obtain ⟨all, hall, rfl⟩ := h
  rw [hall, slotNotices_append, slotNotices, slotNotices, slotNotices,
    filterMap_ofResource fun _ => Event.occupancy?_of_foreign]

theorem step_tenure (hT : T.Discreet) (ss : Session σ) (st : Step) (i : Nat) :
    Alternating (ss.tenureOf i)
      ((if st.actor? = some i then ss.told T st else []).filterMap Event.tenure?)
      ((ss.step T st).2.tenureOf i) := by
  by_cases hst : st.actor? = some i
  · rw [if_pos hst]
    cases hs : ss.socket? i with
    | none =>
      rw [told, step_of_no_actor hst hs, List.drop_length]
      exact .nil
    | some s =>
      obtain ⟨w, x, es, hstep, hreports, hstory⟩ := step_story hT hst hs
      have hworld : (ss.step T st).2.world = w := by rw [hstep]
      have hsocket : (ss.step T st).2.socket? i = x := by
        rw [hstep]
        exact (join_getElem?_set (lt_length_of_socket? hs) x i).trans (if_pos rfl)
      rw [notices_told (hworld ▸ hreports) fun _ => Event.tenure?_of_foreign, tenureOf, tenureOf,
        hs, hsocket]
      exact hstory.tenure
  · rw [if_neg hst, tenureOf, tenureOf, binding_step_of_ne T hst]
    exact .nil

/-- All that a run reports of one socket alternates, from what it has to what it has afterwards. -/
theorem diary_alternating (hT : T.Discreet) (i : Nat) (ss : Session σ) (steps : List Step) :
    Alternating (ss.tenureOf i) ((ss.diary T i steps).filterMap Event.tenure?)
      ((ss.run T steps).2.tenureOf i) := by
  induction steps generalizing ss with
  | nil => exact .nil
  | cons st steps ih =>
    rw [diary, List.filterMap_append]
    exact (step_tenure hT ss st i).trans (ih (ss.step T st).2)

/-- Every step reports what it does to the slots. -/
theorem step_recounts (hT : T.Discreet) (hacc : Accounted ss) (st : Step) :
    ∃ es, Reports ss.world es (ss.step T st).2.world ∧
      Recounts ss.world.tables es (ss.step T st).2.world.tables := by
  have hsame : ∃ es, Reports ss.world es ss.world ∧ Recounts ss.world.tables es ss.world.tables :=
    ⟨[], reports_refl ss.world, .refl ss.world.tables⟩
  cases hst : st.actor? with
  | some i =>
    cases hs : ss.socket? i with
    | none =>
      rw [step_of_no_actor hst hs]
      exact hsame
    | some s =>
      obtain ⟨w, x, es, hstep, hreports, hstory⟩ := step_story hT hst hs
      have hheld : ∀ b, s.binding = some b → b.lease.marked ss.world.tables = true :=
        fun b hb => hacc.held hs b.lease (by rw [Socket.lease?, hb, Option.map_some])
      rw [hstep]
      exact ⟨es, hreports, (hstory.recounts hheld).1⟩
  | none =>
    cases st with
    | socket | drop => cases hst
    | raw call =>
      have htables : Recounts ss.world.tables [] (rawCall T ss.world call).2.tables := by
        rw [rawCall_tables]
        exact .refl ss.world.tables
      exact ⟨[], rawCall_reports hT ss.world call, htables⟩
    | acquire table => exact acquire_recounts ss.world (ss.tableOf table)
    | release k =>
      cases hk : ss.heldLease? k with
      | none =>
        rw [step_release_of_none hk]
        exact hsame
      | some lease =>
        rw [step_release hk]
        exact ⟨_, (reports_refl ss.world).release lease, .freed (hacc.ticket_marked hk)⟩
    | setPort k port =>
      rcases step_setPort_cases T ss k port with hs | ⟨lease, -, hs⟩
      · rw [hs]
        exact hsame
      · rw [hs]
        exact ⟨[], (reports_refl ss.world).setPort lease port,
          .of_marked_eq List.length_set (Lease.marked_noted lease port) rfl⟩
    | leaseOutline k =>
      rw [step_leaseOutline]
      exact hsame
    | construct _ | compareSlots _ _ | portOfTicket _ _ | portOfSocket _ _ | cloneTable _
    | table _ => exact hsame

/-- What holds of a session over one table: all that has been reported of a slot alternates, up to
what the table shows. -/
structure Chronicled (ss : Session σ) : Prop where
  accounted : Accounted ss
  single : ss.world.tables.length = 1
  alternating : ∀ slot,
    Alternating none (slotNotices slot ss.world.events) (occupant slot ss.world.tables)

theorem Chronicled.step (h : Chronicled ss) (hT : T.Discreet) (st : Step) :
    Chronicled (ss.step T st).2 := by
  obtain ⟨es, hreports, hrecounts⟩ := step_recounts hT h.accounted st
  obtain ⟨hsingle, halternating⟩ := hrecounts h.single
  refine ⟨h.accounted.step st, hsingle, ?_⟩
  intro slot
  rw [notices_events hreports]
  exact (h.alternating slot).trans (halternating slot)

theorem chronicled_ofTables (transport : σ) {capacities : List Nat} (hone : capacities.length = 1)
    (specs : List SocketSpec) :
    Chronicled (ofTables transport (capacities.map .ofCapacity) specs) := by
  refine ⟨accounted_ofTables transport capacities specs, (List.length_map ..).trans hone, ?_⟩
  intro slot
  change Alternating none [] (occupant slot (capacities.map .ofCapacity))
  rw [occupant_of_free (marked_ofCapacity capacities ⟨0, slot⟩)]
  exact .nil

/-- Replaying what has been reported gives the slots that are leased. -/
theorem Chronicled.replay (h : Chronicled ss) :
    (ss.world.events.filterMap Event.occupancy?).foldl Notice.replay ∅ =
      (ss.world.table 0).leasedSlots := by
  ext slot
  rw [Notice.mem_replay_iff, SlotTable.mem_leasedSlots]
  exact ((h.alternating slot).getLast?_eq_taken slot).trans (occupant_eq_some_iff slot _)

theorem step_socket_world {s : Socket} (hs : ss.socket? i = some s) (op : SocketStep) :
    (ss.step T (.socket i op)).2.world = (s.perform T ss.world op).2.2 := by rw [step_socket hs]

theorem begin_failed_iff {port : UInt16} {e : Failure} :
    (ss.step T (.socket i (.begin port))).1 = .unit (.error e) ↔
      (ss.step T (.socket i (.begin port))).1.failure? = some e := by
  cases hs : ss.socket? i with
  | none => simp only [step, hs, Answer.failure?, reduceCtorEq]
  | some s =>
    simp only [step, hs, Socket.perform]
    cases (s.begin T port ss.world).1 with
    | ok _ => simp only [Answer.failure?, Answer.unit.injEq, reduceCtorEq]
    | error e' =>
      simp only [Answer.failure?, Answer.unit.injEq, Except.error.injEq, Option.some.injEq]

/-- A begin that fails gives back the slot that it has taken, if any. -/
theorem begin_failed_notices (hT : T.Discreet) {port : UInt16} {e : Failure}
    (hfailed : (ss.step T (.socket i (.begin port))).1 = .unit (.error e)) :
    ∃ pair, (ss.told T (.socket i (.begin port))).filterMap Event.occupancy? =
        (ss.told T (.socket i .stop)).filterMap Event.occupancy? ++ pair ∧
      (pair = [] ∨ ∃ slot, pair = [.taken slot, .returned slot]) := by
  cases hs : ss.socket? i with
  | none => simp only [step, hs, reduceCtorEq] at hfailed
  | some s =>
    have hanswer : (s.begin T port ss.world).1 = .error e := by
      simpa only [step, hs, Socket.perform, Answer.unit.injEq] using hfailed
    obtain ⟨base, w₀, opened, cs, hready, -, -, hopened, hsocket⟩ :=
      Socket.begin_spec T port s ss.world
    have hunbound : (s.begin T port ss.world).2.1.binding = none := by
      rw [hsocket]
      cases opened with
      | ok b => rw [hanswer] at hopened; cases hopened
      | error e' => rfl
    have hbegun : Reports ss.world _ (s.perform T ss.world (.begin port)).2.2 :=
      Socket.begin_reports hT hready
    have hstopped : Reports ss.world _ (s.perform T ss.world .stop).2.2 :=
      Socket.stop_reports hT s ss.world
    rw [hunbound] at hbegun
    rw [← step_socket_world hs] at hbegun hstopped
    rw [notices_told hbegun fun _ => Event.occupancy?_of_foreign,
      notices_told hstopped fun _ => Event.occupancy?_of_foreign, List.filterMap_append]
    refine ⟨_, rfl, ?_⟩
    cases (w₀.table s.table).acquire with
    | error e' => exact .inl rfl
    | ok taken => exact .inr ⟨taken.1, rfl⟩

end Session

/-- The fields with which the failure of a close is reported. -/
def closeWarning (ports : PortText) : Handle × Failure → List (String × String)
  | (h, e) => [("handle", h.text), ("error", e.message ports)]

theorem warned_entries (ports : PortText) (es : List Event) :
    (((es.map (Event.entry ports)).filter (·.level = .warn)).map (·.fields)) =
      (es.filterMap Event.warning?).map (closeWarning ports) := by
  induction es with
  | nil => rfl
  | cons e es ih =>
    cases e with
    | closeFailed h e | bindCleanupFailed h e => exact congrArg (List.cons _) ih
    | _ => exact ih

theorem World.warnings_eq_events (w : World σ) :
    w.warnings = w.events.filterMap Event.warning? := by
  rw [warnings, events, List.filterMap_filterMap]

namespace Session

/-- In every run the log tells what has become of the resources. For each socket, what its steps
report of being bound and stopped alternates, each stop being of the port and the slot that were
bound last, and the socket is bound if the last of these reports says so. Over one table, what is
reported of a slot alternates, and replaying the reports gives the slots that are leased; a begin
that fails reports what stopping does, and of a slot that it took and gave back, if any. Warnings
are those of the closes of sockets that have failed, each with its handle and error, and no
operation would have ended otherwise if its closes had been answered otherwise. -/
theorem log_tells_history (T : Transport σ) (hT : T.Discreet) (transport : σ)
    (capacities : List Nat) (specs : List SocketSpec) (steps : List Step) :
    let start := ofTables transport (capacities.map .ofCapacity) specs
    let ss := (start.run T steps).2
    (∀ i,
      let notices := (start.diary T i steps).filterMap Event.tenure?
      Alternating none notices (ss.tenureOf i) ∧
        ((ss.socket? i).any Socket.isBound = true ↔ ∃ p, notices.getLast? = some (.taken p))) ∧
    (capacities.length = 1 →
      let notices := ss.world.events.filterMap Event.occupancy?
      (∀ slot, Alternating none (notices.filter (·.what = slot))
        (if (ss.world.table 0).marks slot then some slot else none)) ∧
      notices.foldl Notice.replay ∅ = (ss.world.table 0).leasedSlots) ∧
    (∀ i port e, (ss.step T (.socket i (.begin port))).1 = .unit (.error e) →
      ∃ pair, (ss.told T (.socket i (.begin port))).filterMap Event.occupancy? =
          (ss.told T (.socket i .stop)).filterMap Event.occupancy? ++ pair ∧
        (pair = [] ∨ ∃ slot, pair = [.taken slot, .returned slot])) ∧
    (∀ ports, ((ss.world.events.map (Event.entry ports)).filter (·.level = .warn)).map (·.fields) =
      ((start.socketCalls T steps).filterMap Call.failedClose?).map (closeWarning ports)) ∧
    ∀ st answer, st.isRaw = false →
      (ss.step (T.closingAs answer) st).1 = (ss.step T st).1 ∧
        (ss.step (T.closingAs answer) st).2.forget = (ss.step T st).2.forget := by
  intro start ss
  refine ⟨?_, ?_, ?_, ?_, ?_⟩
  · intro i notices
    have hunbound : start.tenureOf i = none := tenureOf_ofTables transport _ specs i
    have halternating := diary_alternating hT i start steps
    rw [hunbound] at halternating
    refine ⟨halternating, ?_⟩
    rw [isBound_iff_tenureOf]
    exact exists_congr fun p => (halternating.getLast?_eq_taken p).symm
  · intro hone notices
    have hchronicled : Chronicled ss :=
      run_induction T (fun _ st _ h => h.step hT st) (chronicled_ofTables transport hone specs)
    exact ⟨hchronicled.alternating, hchronicled.replay⟩
  · intro i port e hfailed
    exact begin_failed_notices hT hfailed
  · intro ports
    have hwarnings := run_warnings T start hT.quiet steps
    rw [warned_entries, ← World.warnings_eq_events, hwarnings]
    rfl
  · intro st answer hraw
    exact step_unheeded T answer ss hraw

/-- Two failing closes and a refused bind, between a lease outside of the socket. -/
theorem log_tells_history_failing_closes :
    let script : Script :=
      { bind := [.normal, .fails (.bind 7001 "in use"), .normal, .fails (.bind 7003 "in use")]
        close := [.fails (.close "stuck"), .fails (.close "broken")] }
    let spec : SocketSpec := { table := 0, txCapacity := some 2, rxCapacity := some 2 }
    let start := ofTables script ([2].map .ofCapacity) [spec]
    let steps : List Step := [.acquire 0, .socket 0 (.begin 7000), .socket 0 (.begin 7001),
      .release 0, .socket 0 (.begin 7002)]
    let ss := (start.run Script.transport steps).2
    let again : Step := .socket 0 (.begin 7003)
    Script.transport.Discreet ∧
      Alternating none ((start.diary Script.transport 0 steps).filterMap Event.tenure?)
        (some (7002, 0)) ∧
      (ss.world.events.filterMap Event.occupancy?).foldl Notice.replay ∅ = {0} ∧
      (∃ pair, (ss.told Script.transport again).filterMap Event.occupancy? =
          (ss.told Script.transport (.socket 0 .stop)).filterMap Event.occupancy? ++ pair ∧
        (pair = [] ∨ ∃ slot, pair = [.taken slot, .returned slot])) ∧
      ((ss.world.events.map (Event.entry .decimal)).filter (·.level = .warn)).map (·.fields) =
        [closeWarning .decimal (⟨1⟩, .close "stuck"),
          closeWarning .decimal (⟨2⟩, .close "broken")] ∧
      (ss.step (Script.transport.closingAs fun _ _ => .ok ()) again).1 =
        (ss.step Script.transport again).1 := by
  intro script spec start steps ss again
  obtain ⟨hsockets, hslots, hbegin, hwarnings, hcalm⟩ :=
    log_tells_history Script.transport Script.discreet_transport script [2] [spec] steps
  have htenure : ss.tenureOf 0 = some (7002, 0) := by decide
  have hleased : (ss.world.table 0).leasedSlots = {0} := by decide
  have hcloses : (start.socketCalls Script.transport steps).filterMap Call.failedClose? =
      [(⟨1⟩, .close "stuck"), (⟨2⟩, .close "broken")] := by decide
  have hrefused : (ss.step Script.transport again).1.failure? = some (.bind 7003 "in use") := by
    decide
  simp only [ss, start] at htenure hleased hcloses hrefused hsockets hslots hbegin hwarnings hcalm ⊢
  refine ⟨Script.discreet_transport, ?_, ?_, ?_, ?_, ?_⟩
  · rw [← htenure]
    exact (hsockets 0).1
  · rw [← hleased]
    exact (hslots rfl).2
  · exact hbegin 0 7003 (.bind 7003 "in use") (begin_failed_iff.2 hrefused)
  · exact (hwarnings .decimal).trans (congrArg (List.map (closeWarning .decimal)) hcloses)
  · exact (hcalm again (fun _ _ => .ok ()) rfl).1

end Session
end Datagram
