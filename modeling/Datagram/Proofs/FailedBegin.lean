import Datagram.Proofs.BindingGate
import Datagram.Proofs.BlankSockets
import Datagram.Proofs.OpenHandles
import Datagram.Proofs.TidyTables

/-!
# Beginning that fails is stopping

Beginning fails exactly when the slot, the creation or the bind is refused (`Refused`), and with the
failure that refused it. Then the socket and all slot tables are what stopping would have made of
them. The transport has the same handles open as after stopping, unless the handle that could not be
bound could not be closed either: then that one is left open.
-/

namespace Datagram

variable {σ : Type}

namespace Socket

/-- The slot, the creation of a handle or its bind is refused, for the reason `e`. -/
def Refused (t : SlotTable) (cs : List Call) (port : UInt16) (e : Failure) : Prop :=
  t.acquire = .error e ∨ .create (.error e) ∈ cs ∨ ∃ h, .bind h port (.error e) ∈ cs

/-- Why a stopped socket could not be bound, with the slots it found: the failure, the calls made
meanwhile, and the handle that is left open if there is one. -/
inductive Setback (t : SlotTable) (port : UInt16) : Failure → List Call → List Handle → Prop
  | noSlot {e} (hfull : t.acquire = .error e) : Setback t port e [] []
  | createFailed {slot t' e} (hslot : t.acquire = .ok (slot, t')) :
      Setback t port e [.create (.error e)] []
  | bindFailed {slot t' h e} (hslot : t.acquire = .ok (slot, t')) :
      Setback t port e [.create (.ok h), .bind h port (.error e), .close h (.ok ())] []
  | leaked {slot t' h e c} (hslot : t.acquire = .ok (slot, t')) :
      Setback t port e [.create (.ok h), .bind h port (.error e), .close h (.error c)] [h]

variable {T : Transport σ} {s base : Socket} {w w₀ : World σ} {e : Failure} {port : UInt16}
  {table : Nat} {tables : List SlotTable} {cs : List Call} {opened : Result Binding}

theorem Opening.setback (h : Opening T table port w (.error e) tables cs) :
    ∃ leaked, Setback (w.table table) port e cs leaked := by
  cases h with
  | noSlot hfull => exact ⟨[], .noSlot hfull⟩
  | createFailed hslot => exact ⟨[], .createFailed hslot⟩
  | @bindFailed slot t h e closed hslot =>
    cases closed with
    | ok _ => exact ⟨[], .bindFailed hslot⟩
    | error c => exact ⟨[h], .leaked hslot⟩

theorem Setback.refused {t : SlotTable} {leaked : List Handle}
    (h : Setback t port e cs leaked) : Refused t cs port e := by
  cases h with
  | noSlot hfull => exact .inl hfull
  | createFailed => exact .inr (.inl List.mem_cons_self)
  | bindFailed | leaked => exact .inr (.inr ⟨_, List.mem_cons_of_mem _ List.mem_cons_self⟩)

theorem Opening.eq_error_of_refused (h : Opening T table port w opened tables cs)
    (hrefused : Refused (w.table table) cs port e) : opened = .error e := by
  rcases hrefused with hfull | hcreate | ⟨h', hbind⟩
  -- each refusal leaves one way for the opening to end, which has the failure as its answer
  · cases h with
    | noSlot hfull' => rw [Except.error.inj (hfull'.symm.trans hfull)]
    | createFailed hslot | bindFailed hslot | bound hslot => cases hslot.symm.trans hfull
  · cases h with
    | noSlot => cases hcreate
    | createFailed =>
      cases List.mem_singleton.1 hcreate
      rfl
    | bindFailed => simp at hcreate
    | bound =>
      simp only [List.mem_cons, Call.create.injEq, reduceCtorEq, false_or] at hcreate
      cases Transport.eq_of_mem_portQuery hcreate
  · cases h with
    | noSlot => cases hbind
    | createFailed => simp at hbind
    | bindFailed =>
      simp only [List.mem_cons, Call.bind.injEq, Except.error.injEq, true_and, reduceCtorEq,
        List.not_mem_nil, or_false, false_or] at hbind
      rw [hbind.2]
    | bound =>
      simp only [List.mem_cons, Call.bind.injEq, and_false, reduceCtorEq, false_or] at hbind
      cases Transport.eq_of_mem_portQuery hbind

theorem Opening.eq_error_iff (h : Opening T table port w opened tables cs) :
    opened = .error e ↔ Refused (w.table table) cs port e := by
  refine ⟨?_, h.eq_error_of_refused⟩
  rintro rfl
  obtain ⟨leaked, hsetback⟩ := h.setback
  exact hsetback.refused

theorem Setback.openHandles {t : SlotTable} {leaked : List Handle} (h : Setback t port e cs leaked)
    (hs : List Handle) :
    (cs.foldl Call.openAfter hs).Perm (leaked ++ hs) := by
  cases h with
  | noSlot | createFailed => exact .rfl
  | @bindFailed slot t' h e hslot =>
    -- closing takes away the handle that was created, wherever it stands among those that are open
    have hperm : (hs ++ [h]).Perm (h :: hs) := List.perm_append_comm
    have herased := hperm.erase h
    rw [List.erase_cons_head] at herased
    exact herased
  | leaked => exact List.perm_append_comm

theorem giveBack_emit (T : Transport σ) (b : Binding) (w : World σ) (e : Event) :
    (giveBack T b (w.emit e)).tables = (giveBack T b w).tables ∧
      (giveBack T b (w.emit e)).calls = (giveBack T b w).calls := by
  have htables : ((w.emit e).release b.lease).tables = (w.release b.lease).tables :=
    World.tables_release_congr rfl b.lease
  refine ⟨?_, ?_⟩
  · rw [(giveBack_spec T b (w.emit e)).1, (giveBack_spec T b w).1, htables]
  · rcases hclose : w.close T b.handle with ⟨closed, w₁⟩
    rcases hclose' : (w.emit e).close T b.handle with ⟨closed', w₁'⟩
    have hsame : closed' = closed := by
      have hanswer : closed = ((w.emit e).close T b.handle).1 := (congrArg Prod.fst hclose).symm
      rw [hanswer, hclose']
    have hcalls := (World.perform_spec hclose).2
    have hcalls' := (World.perform_spec hclose').2
    rw [World.calls_emit] at hcalls'
    subst closed'
    simp only [giveBack, hclose, hclose']
    cases closed <;>
    simp only [World.calls_release, World.calls_emit, hcalls, hcalls']

theorem Ready.eq_stop (h : Ready T s port w base w₀) (htidy : w.Tidy)
    (hblank : s.binding = none → s.Blank) :
    base = (s.stop T w).1 ∧ base.binding = none ∧ w₀.tables = (s.stop T w).2.tables ∧
      w₀.calls = (s.stop T w).2.calls ∧ w₀.Tidy := by
  cases h with
  | unbound hb =>
    rw [stop_of_unbound T hb, (hblank hb).released]
    exact ⟨rfl, hb, rfl, rfl, htidy⟩
  | @stopped b hb =>
    -- beginning reports the rebinding before it stops, which changes neither tables nor calls
    obtain ⟨htables, hcalls⟩ := giveBack_emit T b w (.rebinding b.port port)
    rw [stop_of_bound T hb]
    refine ⟨rfl, rfl, htables, hcalls, ?_⟩
    exact (giveBack_tidy htidy b).congr htables

theorem begin_spec_of_stop (T : Transport σ) (htidy : w.Tidy)
    (hblank : s.binding = none → s.Blank) (port : UInt16) :
    ∃ cs, (s.begin T port w).2.2.calls = (s.stop T w).2.calls ++ cs ∧
      ∀ e, ((s.begin T port w).1 = .error e ↔
          Refused ((s.stop T w).2.table s.table) cs port e) ∧
        ((s.begin T port w).1 = .error e →
          (s.begin T port w).2.1 = (s.stop T w).1 ∧
          (s.begin T port w).2.2.tables = (s.stop T w).2.tables ∧
          ∃ leaked, Setback ((s.stop T w).2.table s.table) port e cs leaked) := by
  obtain ⟨base, w₀, opened, cs, hready, hopening, hcalls, hanswer, hs⟩ := begin_spec T port s w
  obtain ⟨hbase, hunbound, htables, hclose, htidy₀⟩ := hready.eq_stop htidy hblank
  have htable : w₀.table s.table = (s.stop T w).2.table s.table := by
    rw [World.table, htables, World.table]
  have hfailed (e : Failure) : (s.begin T port w).1 = .error e ↔ opened = .error e := by
    rw [hanswer]
    cases opened with
    | ok b => simp only [Except.map, reduceCtorEq]
    | error e' => simp only [Except.map, Except.error.injEq]
  refine ⟨cs, by rw [hcalls, hclose], fun e => ⟨?_, fun herror => ?_⟩⟩
  · rw [hfailed, hopening.eq_error_iff, htable]
  · obtain rfl := (hfailed e).1 herror
    obtain ⟨leaked, hsetback⟩ := hopening.setback
    rw [htable] at hsetback
    refine ⟨?_, ?_, leaked, hsetback⟩
    · rw [hs, ← hbase]
      change { base with binding := none } = base
      rw [← hunbound]
    · rw [hopening.tables_of_error htidy₀, htables]

theorem begin_failed_handles (V : T.OpenView) (hsane : V.Sane w.transport) {t : SlotTable}
    {leaked : List Handle} (hsetback : Setback t port e cs leaked)
    (hcalls : (s.begin T port w).2.2.calls = (s.stop T w).2.calls ++ cs) :
    (V.handles (s.begin T port w).2.2.transport).Perm
      (leaked ++ V.handles (s.stop T w).2.transport) := by
  obtain ⟨stopping, hstop⟩ := stop_evolves T s w
  obtain ⟨beginning, hbegin⟩ := begin_evolves T s w port
  rw [hstop.calls, List.append_assoc] at hcalls
  have hopened := (V.replays (hbegin.calls_unique hcalls).replays hsane).2
  rw [hopened, List.foldl_append, ← (V.replays hstop.replays hsane).2]
  exact hsetback.openHandles _

end Socket

namespace Session

/-- Wherever a session has got to: beginning fails exactly if, after stopping, the slot, the
creation or the bind is refused, and with the failure that refused it. Then nothing in the session
differs from what stopping the socket instead would have left, except that a handle which could be
neither bound nor closed is open in addition; and a socket that was not bound is as it was before,
like all tables. -/
theorem failed_begin_is_stop (T : Transport σ) (V : T.OpenView) (transport : σ)
    (hsane : V.Sane transport) (capacities : List Nat) (specs : List SocketSpec)
    (steps : List Step) :
    let ss := ((ofTables transport (capacities.map .ofCapacity) specs).run T steps).2
    ∀ (i : Nat) (s : Socket) (port : UInt16), ss.socket? i = some s →
      let answer := (ss.step T (.socket i (.begin port))).1
      let begun := (ss.step T (.socket i (.begin port))).2
      let stopped := (ss.step T (.socket i .stop)).2
      ∃ cs, begun.world.calls = stopped.world.calls ++ cs ∧
        ∀ e, (answer = .unit (.error e) ↔
            Socket.Refused (stopped.world.table s.table) cs port e) ∧
          (answer = .unit (.error e) →
            begun.sockets = stopped.sockets ∧ begun.world.tables = stopped.world.tables ∧
            begun.handles = stopped.handles ∧ begun.tickets = stopped.tickets ∧
            (∃ leaked, Socket.Setback (stopped.world.table s.table) port e cs leaked ∧
              (V.handles begun.world.transport).Perm
                (leaked ++ V.handles stopped.world.transport)) ∧
            (s.binding = none →
              begun.sockets = ss.sockets ∧ begun.world.tables = ss.world.tables)) := by
  intro ss i s port hs answer begun stopped
  have htidy : ss.world.Tidy := tidy_run T transport capacities specs steps
  have hsound : V.Sane ss.world.transport :=
    run_induction T (P := fun ss => V.Sane ss.world.transport)
      (fun _ st _ h => V.sane_step h st) hsane
  have hlife := (tracks_turns T i transport _ specs steps).alive s hs
  have hbegun : begun = { ss with
      world := (s.begin T port ss.world).2.2
      sockets := ss.sockets.set i (some (s.begin T port ss.world).2.1) } := step_socket hs _
  have hstopped : stopped = { ss with
      world := (s.stop T ss.world).2
      sockets := ss.sockets.set i (some (s.stop T ss.world).1) } := step_socket hs _
  have hanswer (e : Failure) :
      answer = .unit (.error e) ↔ (s.begin T port ss.world).1 = .error e := by
    simp only [answer, step, hs, Socket.perform, Answer.unit.injEq]
  obtain ⟨cs, hcalls, hfailed⟩ := Socket.begin_spec_of_stop T htidy hlife.blank port
  rw [hbegun, hstopped]
  refine ⟨cs, hcalls, fun e => ⟨?_, fun herror => ?_⟩⟩
  · rw [hanswer]
    exact (hfailed e).1
  · obtain ⟨hsocket, htables, leaked, hsetback⟩ := (hfailed e).2 ((hanswer e).1 herror)
    have hhandles := Socket.begin_failed_handles V hsound hsetback hcalls
    refine ⟨by rw [hsocket], htables, rfl, rfl, ⟨leaked, hsetback, hhandles⟩, fun hb => ?_⟩
    have hkept : ss.sockets.set i (some s) = ss.sockets := by
      obtain ⟨hlt, hentry⟩ := List.getElem?_eq_some_iff.1 (Option.join_eq_some_iff.1 hs)
      rw [← hentry, List.set_getElem_self]
    rw [Socket.stop_of_unbound T hb, (hlife.blank hb).released] at hsocket htables
    exact ⟨by rw [hsocket]; exact hkept, htables⟩

/-- A bound socket whose new handle can be neither bound nor closed. -/
theorem failed_begin_is_stop_leaking :
    let script : Script :=
      { bind := [.normal, .fails (.bind 7001 "in use")]
        close := [.normal, .fails (.close "broken")] }
    let ss := ((ofTables script ([2].map .ofCapacity)
      [{ table := 0, txCapacity := some 2, rxCapacity := some 2 }]).run Script.transport
        [.socket 0 (.begin 7000), .acquire 0]).2
    let begun := (ss.step Script.transport (.socket 0 (.begin 7001))).2
    let stopped := (ss.step Script.transport (.socket 0 .stop)).2
    (ss.step Script.transport (.socket 0 (.begin 7001))).1 =
        .unit (.error (.bind 7001 "in use")) ∧
      begun.world.calls = stopped.world.calls ++ [.create (.ok ⟨2⟩),
        .bind ⟨2⟩ 7001 (.error (.bind 7001 "in use")), .close ⟨2⟩ (.error (.close "broken"))] ∧
      begun.sockets = stopped.sockets ∧ begun.world.tables = stopped.world.tables ∧
      begun.world.transport.openHandles = [⟨2⟩] ∧ stopped.world.transport.openHandles = [] := by
  intro script ss begun stopped
  have hopen : begun.world.transport.openHandles = [⟨2⟩] ∧
      stopped.world.transport.openHandles = [] := by decide
  have hlast : begun.world.calls.getLast?.bind Call.failure? = some (.close "broken") := by decide
  obtain ⟨s, hs⟩ : ∃ s, ss.socket? 0 = some s := Option.isSome_iff_exists.1 rfl
  simp only [begun, stopped, ss, script] at hopen hlast hs ⊢
  obtain ⟨cs, hcalls, hspec⟩ :=
    failed_begin_is_stop Script.transport Script.openView
      { bind := [.normal, .fails (.bind 7001 "in use")]
        close := [.normal, .fails (.close "broken")] } trivial [2]
      [{ table := 0, txCapacity := some 2, rxCapacity := some 2 }]
      [.socket 0 (.begin 7000), .acquire 0] 0 s 7001 hs
  obtain ⟨-, hleft⟩ := hspec (.bind 7001 "in use")
  obtain ⟨hsockets, htables, -, -, ⟨leaked, hsetback, hhandles⟩, -⟩ := hleft rfl
  rw [Script.openView_handles, Script.openView_handles, hopen.1, hopen.2, List.append_nil,
    List.singleton_perm] at hhandles
  subst hhandles
  cases hsetback
  rw [hcalls, List.getLast?_append] at hlast
  cases hlast
  exact ⟨rfl, hcalls, hsockets, htables, hopen⟩

end Session
end Datagram
