import Datagram.Proofs.FailedBegin
import Datagram.Proofs.RecordedPorts

/-!
# Binding anew

A bound socket that is bound anew gives back its slot before it takes one. So there is a slot to
take, in the worst case the one that was given back, and only the transport can refuse. No operation
reads the history, to which all of them append: binding anew is stopping followed by beginning, but
for the note that it is about to happen.
-/

namespace Datagram

variable {σ α : Type}

namespace World

variable {T : Transport σ}

/-- The world with a longer past. -/
def after (w : World σ) (past : List Record) : World σ := { w with history := past ++ w.history }

theorem emit_after (w : World σ) (past : List Record) (e : Event) :
    (w.after past).emit e = (w.emit e).after past := by
  rw [emit, after, List.append_assoc]
  rfl

theorem release_after (w : World σ) (past : List Record) (lease : Lease) :
    (w.after past).release lease = (w.release lease).after past :=
  emit_after (w.setTable lease.table _) past _

theorem acquire_after (w : World σ) (past : List Record) (i : Nat) :
    (w.after past).acquire i = ((w.acquire i).1, (w.acquire i).2.after past) := by
  have htable : (w.after past).table i = w.table i := rfl
  unfold acquire
  rw [htable]
  cases (w.table i).acquire with
  | error e => exact congrArg (Prod.mk _) (emit_after w past _)
  | ok taken => exact congrArg (Prod.mk _) (emit_after (w.setTable i taken.2) past _)

theorem perform_after (w : World σ) (past : List Record) (call : σ → Reply σ α)
    (entry : α → Call) :
    (w.after past).perform call entry =
      ((w.perform call entry).1, (w.perform call entry).2.after past) := by
  simp only [perform, after, List.append_assoc]

theorem localPort_after (w : World σ) (past : List Record) (h : Handle) :
    (w.after past).localPort T h = ((w.localPort T h).1, (w.localPort T h).2.after past) := by
  unfold localPort
  cases T.localPort with
  | none => rfl
  | some ask => exact perform_after w past (ask h) (.localPort h)

end World

namespace Socket

open World

variable (T : Transport σ)

theorem giveBack_after (b : Binding) (w : World σ) (past : List Record) :
    giveBack T b (w.after past) = (giveBack T b w).after past := by
  simp only [giveBack, World.close, perform_after]
  split <;> simp only [emit_after, release_after]

theorem bindHandle_after (h : Handle) (port : UInt16) (w : World σ) (past : List Record) :
    bindHandle T h port (w.after past) =
      ((bindHandle T h port w).1, (bindHandle T h port w).2.after past) := by
  simp only [bindHandle, World.bind, World.close, perform_after]
  split
  · rfl
  · split
    · rfl
    · simp only [emit_after]

theorem openHandle_after (lease : Lease) (port : UInt16) (w : World σ) (past : List Record) :
    openHandle T lease port (w.after past) =
      ((openHandle T lease port w).1, (openHandle T lease port w).2.after past) := by
  simp only [openHandle, World.create, perform_after, bindHandle_after, localPort_after]
  split
  · rfl
  · split
    · rfl
    · simp only [← emit_after]
      rfl

theorem acquireBinding_after (table : Nat) (port : UInt16) (w : World σ) (past : List Record) :
    acquireBinding T table port (w.after past) =
      ((acquireBinding T table port w).1, (acquireBinding T table port w).2.after past) := by
  simp only [acquireBinding, acquire_after, openHandle_after]
  split
  · rfl
  · split
    · rfl
    · simp only [release_after]

theorem beginUnbound_after (port : UInt16) (s : Socket) (w : World σ) (past : List Record) :
    beginUnbound T port s (w.after past) =
      ((beginUnbound T port s w).1, (beginUnbound T port s w).2.1,
        (beginUnbound T port s w).2.2.after past) := by
  simp only [beginUnbound, acquireBinding_after]
  split <;> rfl

variable {T} {s : Socket} {b : Binding} {w : World σ} {table slot : Nat} {port : UInt16}
  {e : Failure} {tables : List SlotTable} {cs : List Call}

/-- Binding anew differs from stopping and beginning in one note, and in nothing that follows. -/
theorem begin_of_bound (hb : s.binding = some b) (port : UInt16) (w : World σ) :
    ∃ (answer : Result Unit) (s' : Socket) (base : World σ),
      s.begin T port w =
        (answer, s', base.after (w.history ++ [.event (.rebinding b.port port)])) ∧
      (s.stop T w).1.begin T port (s.stop T w).2 = (answer, s', base.after w.history) := by
  have hpast (past : List Record) : giveBack T b { w with history := past } =
      (giveBack T b { w with history := [] }).after past := by
    rw [← giveBack_after, after, List.append_nil]
  have hnoted : giveBack T b (w.emit (.rebinding b.port port)) = _ := hpast _
  have hplain : giveBack T b w = _ := hpast w.history
  rcases hopen : beginUnbound T port s.released (giveBack T b { w with history := [] }) with
    ⟨answer, s', base⟩
  refine ⟨answer, s', base, ?_, ?_⟩
  · simp only [begin, stop, hb]
    rw [hnoted, beginUnbound_after, hopen]
  · rw [stop_of_bound T hb]
    change beginUnbound T port s.released (giveBack T b w) = _
    rw [hplain, beginUnbound_after, hopen]

/-- What a bound socket begins from has the slot free that the socket had. -/
theorem begin_bound_opening (hb : s.binding = some b)
    (hheld : b.lease.marked w.tables = true) (htable : b.lease.table = s.table) (port : UInt16) :
    ∃ w₀ opened cs, Opening T s.table port w₀ opened (s.begin T port w).2.2.tables cs ∧
      b.lease.slot < (w₀.table s.table).capacity ∧
      (w₀.table s.table).marks b.lease.slot = false ∧
      (∃ closed, (s.begin T port w).2.2.calls = w.calls ++ .close b.handle closed :: cs) ∧
      (s.begin T port w).1 = opened.map (fun _ => ()) ∧
      (s.begin T port w).2.1.binding = opened.toOption := by
  obtain ⟨base, w₀, opened, cs, hready, hopening, hcalls, hanswer, hs⟩ := begin_spec T port s w
  cases hready with
  | unbound hnone => exact absurd hnone (not_unbound hb)
  | @stopped b' hb' =>
    obtain rfl : b' = b := Option.some.inj (hb'.symm.trans hb)
    obtain ⟨htables, closed, hclose⟩ := giveBack_spec T b' (w.emit (.rebinding b'.port port))
    have hgiven : (giveBack T b' (w.emit (.rebinding b'.port port))).table s.table =
        (w.table s.table).release b'.lease.slot := by
      rw [← htable, ← World.table_release, World.table, htables]
      rfl
    refine ⟨_, opened, cs, hopening, ?_, ?_, ⟨closed, ?_⟩, hanswer, by rw [hs]⟩
    · rw [hgiven, SlotTable.release, SlotTable.capacity_put, ← htable]
      exact SlotTable.lt_capacity_of_marks hheld
    · rw [hgiven, SlotTable.marks_release, if_pos rfl]
    · rw [hcalls, hclose, World.calls_emit, List.append_assoc]
      rfl

/-- Where a slot is free only the transport can refuse a binding. -/
theorem Opening.refused (h : Opening T table port w (.error e) tables cs)
    (hlt : slot < (w.table table).capacity) (hfree : (w.table table).marks slot = false) :
    .create (.error e) ∈ cs ∨ ∃ h, .bind h port (.error e) ∈ cs := by
  cases h with
  | noSlot hfull =>
    have hmarked := (SlotTable.acquire_eq_error hfull).1 slot hlt
    rw [hfree] at hmarked
    cases hmarked
  | createFailed => exact .inl (List.mem_cons_self ..)
  | @bindFailed _ _ h => exact .inr ⟨h, List.mem_cons_of_mem _ (List.mem_cons_self ..)⟩

/-- The slot of a new binding is not above any that was free. -/
theorem Opening.slot_le (h : Opening T table port w (.ok b) tables cs)
    (hfree : (w.table table).marks slot = false) : b.lease.slot ≤ slot := by
  cases h with
  | bound hslot =>
    apply Nat.le_of_not_lt
    intro hlt
    have hmarked := SlotTable.marks_of_lt_acquired hslot hlt
    rw [hfree] at hmarked
    cases hmarked

end Socket

namespace Session

variable {T : Transport σ} {ss : Session σ} {i : Nat} {s : Socket} {b : Binding}

theorem step_begin_of_bound (hs : ss.socket? i = some s) (hb : s.binding = some b)
    (port : UInt16) :
    let begun := ss.step T (.socket i (.begin port))
    let again := (ss.step T (.socket i .stop)).2.step T (.socket i (.begin port))
    begun.1 = again.1 ∧ ∃ rest, again.2.world.history = ss.world.history ++ rest ∧
      begun.2 = { again.2 with
        world := { again.2.world with
          history := ss.world.history ++ .event (.rebinding b.port port) :: rest } } := by
  intro begun again
  obtain ⟨answer, s', base, hbegun, hagain⟩ := Socket.begin_of_bound (T := T) hb port ss.world
  have hstopped := socket?_step_self (T := T) hs .stop
  have hfirst : begun = (.unit answer, { ss with
      world := base.after (ss.world.history ++ [.event (.rebinding b.port port)])
      sockets := ss.sockets.set i (some s') }) := by
    simp only [begun, step, hs, Socket.perform, hbegun]
  have hsecond : again = (.unit answer, { ss with
      world := base.after ss.world.history
      sockets := ss.sockets.set i (some s') }) := by
    simp only [again]
    rw [step, hstopped]
    simp only [Socket.perform, step_socket hs, hagain, List.set_set]
  rw [hfirst, hsecond]
  refine ⟨rfl, base.history, rfl, ?_⟩
  simp only [World.after, List.append_assoc, List.singleton_append]

/-- A socket that keeps a slot, be it another one, keeps the number of slots in use. -/
theorem Accounted.inUse_set (h : Accounted ss) (hs : ss.socket? i = some s) {s' : Socket}
    {w : World σ} (hset : Accounted { ss with world := w, sockets := ss.sockets.set i (some s') })
    (htable : s'.table = s.table) (hbound : s'.isBound = s.isBound) (table : Nat) :
    (w.table table).inUse = (ss.world.table table).inUse := by
  obtain ⟨rest, hbefore, hafter⟩ := gather_perm hs fun s => if s.table = table then s.slot else none
  have hone : ((some s').bind fun s => if s.table = table then s.slot else none).toList.length =
      (if s.table = table then s.slot else none).toList.length := by
    rw [Option.bind_some, htable]
    split
    · rw [Socket.slot, Socket.slot, Option.length_toList, Option.length_toList, Option.isSome_map,
        Option.isSome_map]
      rw [Socket.isBound, Socket.isBound] at hbound
      rw [hbound]
    · rfl
  have hin : (ss.world.table table).inUse = _ :=
    (SlotTable.heldBy_of_count (h.count_holders table)).inUse
  have hin' : (w.table table).inUse = _ :=
    (SlotTable.heldBy_of_count (hset.count_holders table)).inUse
  rw [hin, hin', holders, holders, List.length_append, List.length_append, hbefore.length_eq,
    (hafter w (some s')).length_eq, List.length_append, List.length_append, hone]

/-- In every run a bound socket that is bound anew is refused by the transport or not at all. It
does what stopping it and beginning would have done, with the same answer and the same calls, and
leaves the same session but for one note in its history. If it succeeds, its slot is not above the
former one, all others have their slots and ports, and as many slots of every table are in use. -/
theorem rebinding_never_starves (T : Transport σ) (transport : σ) (capacities : List Nat)
    (specs : List SocketSpec) (steps : List Step) :
    let ss := ((ofTables transport (capacities.map .ofCapacity) specs).run T steps).2
    ∀ (i : Nat) (s : Socket) (b : Binding) (port : UInt16),
      ss.socket? i = some s → s.binding = some b →
      let begun := ss.step T (.socket i (.begin port))
      let again := (ss.step T (.socket i .stop)).2.step T (.socket i (.begin port))
      (∃ cs, begun.2.world.calls = ss.world.calls ++ cs ∧
        ∀ e, begun.1 = .unit (.error e) →
          .create (.error e) ∈ cs ∨ ∃ h, .bind h port (.error e) ∈ cs) ∧
      (begun.1 = again.1 ∧ begun.2.world.calls = again.2.world.calls ∧
        ∃ rest, again.2.world.history = ss.world.history ++ rest ∧
          begun.2 = { again.2 with
            world := { again.2.world with
              history := ss.world.history ++ .event (.rebinding b.port port) :: rest } }) ∧
      (begun.1 = .unit (.ok ()) →
        (∃ s' b', begun.2.socket? i = some s' ∧ s'.binding = some b' ∧
          b'.lease.table = b.lease.table ∧ b'.lease.slot ≤ b.lease.slot) ∧
        (∀ j, j ≠ i → begun.2.socket? j = ss.socket? j) ∧
        (∀ x l, x ≠ .socket i → ss.leaseOf? x = some l → begun.2.leaseOf? x = some l ∧
          (begun.2.world.table l.table).portFor l.slot =
            (ss.world.table l.table).portFor l.slot) ∧
        ∀ table, (begun.2.world.table table).inUse = (ss.world.table table).inUse) := by
  intro ss i s b port hs hb begun again
  have h : Accounted ss := (accounted_ofTables transport capacities specs).run steps
  have htable : b.lease.table = s.table := h.table_eq s b (mem_sockets_of_socket? hs) hb
  have hheld : b.lease.marked ss.world.tables = true :=
    h.held hs b.lease (by rw [Socket.lease?, hb, Option.map_some])
  obtain ⟨w₀, opened, cs, hopening, hlt, hfree, ⟨closed, hcalls⟩, hanswer, hbinding⟩ :=
    Socket.begin_bound_opening (T := T) hb hheld htable port
  have hbegun : begun = (.unit (opened.map fun _ => ()), { ss with
      world := (s.begin T port ss.world).2.2
      sockets := ss.sockets.set i (some (s.begin T port ss.world).2.1) }) := by
    rw [← hanswer]
    simp only [begun, step, hs, Socket.perform]
  refine ⟨?_, ?_, ?_⟩
  · refine ⟨.close b.handle closed :: cs, by rw [hbegun, hcalls], ?_⟩
    intro e he
    rw [hbegun] at he
    cases opened with
    | ok b' => cases he
    | error e' =>
      obtain rfl : e' = e := Except.error.inj (Answer.unit.inj he)
      rcases hopening.refused hlt hfree with hcreate | ⟨handle, hbind⟩
      · exact .inl (List.mem_cons_of_mem _ hcreate)
      · exact .inr ⟨handle, List.mem_cons_of_mem _ hbind⟩
  · obtain ⟨hsame, rest, hrest, hnoted⟩ := step_begin_of_bound (T := T) hs hb port
    refine ⟨hsame, ?_, rest, hrest, hnoted⟩
    rw [World.calls, World.calls, hrest, hnoted, List.filterMap_append, List.filterMap_append]
    rfl
  · intro hok
    have hothers {x : Holder} (hx : x ≠ .socket i) :
        (Step.socket i (.begin port)).holder? ≠ some x :=
      fun he => hx (Option.some.inj he).symm
    have hset : Accounted begun.2 := h.step (.socket i (.begin port))
    rw [hbegun] at hok
    cases opened with
    | error e => cases hok
    | ok b' =>
      refine ⟨⟨(s.begin T port ss.world).2.1, b', socket?_step_self hs _, hbinding, ?_, ?_⟩,
        ?_, ?_, ?_⟩
      · rw [hopening.table_eq, htable]
      · exact hopening.slot_le hfree
      · intro j hj
        rw [hbegun]
        exact (join_getElem?_set (lt_length_of_socket? hs) _ j).trans (if_neg hj)
      · intro x l hx hl
        refine ⟨(leaseOf?_step_of_ne T (hothers hx) (by rintro _ ⟨⟩)).trans hl, ?_⟩
        have hentry := h.entry_step (T := T) hl (hothers hx)
        have hbefore := Lease.portFor_eq l ss.world.tables
        rw [← hentry] at hbefore
        exact (Lease.portFor_eq l begun.2.world.tables).trans hbefore.symm
      · intro table
        rw [hbegun] at hset ⊢
        have hbound : (s.begin T port ss.world).2.1.isBound = s.isBound := by
          rw [Socket.isBound_of_binding hbinding, Socket.isBound_of_binding hb]
        have htable' : (s.begin T port ss.world).2.1.table = s.table :=
          (Socket.perform_keeps T s ss.world (.begin port)).1
        exact h.inUse_set hs hset htable' hbound table

/-- A socket over a table that is full. -/
theorem rebinding_never_starves_full :
    let ss := ((ofTables ({} : Script) ([2].map .ofCapacity) [{ table := 0 }]).run
      Script.transport [.acquire 0, .setPort 0 9, .socket 0 (.begin 7000)]).2
    let begun := (ss.step Script.transport (.socket 0 (.begin 7001))).2
    (ss.world.table 0).inUse = 2 ∧ (begun.world.table 0).inUse = 2 ∧
      (begun.world.table 0).portFor 0 = some 9 ∧
      ∃ s b, begun.socket? 0 = some s ∧ s.binding = some b ∧ b.lease.slot ≤ 1 := by
  intro ss begun
  have hbound : (ss.socket? 0).map (·.binding) = some (some ⟨⟨1⟩, 7000, ⟨0, 1⟩⟩) := by decide
  obtain ⟨s, hs, hb⟩ := Option.map_eq_some_iff.1 hbound
  obtain ⟨-, -, hsucceeds⟩ := rebinding_never_starves Script.transport {} [2] [{ table := 0 }]
    [.acquire 0, .setPort 0 9, .socket 0 (.begin 7000)] 0 s _ 7001 hs hb
  obtain ⟨⟨s', b', hs', hb', -, hslot⟩, -, hothers, hin⟩ := hsucceeds rfl
  have hport := (hothers (.ticket 0) ⟨0, 0⟩ (by rintro ⟨⟩) rfl).2
  exact ⟨by decide, (hin 0).trans (by decide), hport.trans (by decide), s', b', hs', hb', hslot⟩

end Session
end Datagram
