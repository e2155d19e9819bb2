import Datagram.Proofs.CoveredCalls
import Datagram.Proofs.Evolution
import Datagram.Proofs.HostHandles

/-!
# What is reported of resources

Taking and giving back a slot is reported, and so is binding and stopping a socket. `Reports` says
which of these reports are made between two moments, whatever else is reported meanwhile; a
transport that is `Discreet` makes none. `Story` strings together what a socket does with its binding
and the slot tables, with what is reported of it: it stops, it takes a slot and has to give it back,
or it takes one and is bound. Every operation of a socket, in every way in which it can end, is such
a story.
-/

namespace Datagram

variable {σ α : Type}

/-- The events that report what becomes of a slot or of a binding. -/
def Event.ofResource : Event → Bool
  | slotAcquired _ | slotReleased _ | bound .. | stopped .. => true
  | _ => false

/-- A transport that reports nothing under the targets of slots and of sockets. -/
def Transport.Discreet (T : Transport σ) : Prop :=
  ∀ t c es t', T.Takes t c es t' → ∀ e ∈ es, ∀ ports,
    (Event.entry ports e).target ≠ Event.slotsTarget ∧
      (Event.entry ports e).target ≠ Event.socketTarget

theorem Event.foreign {e : Event}
    (h : ∀ ports, (e.entry ports).target ≠ slotsTarget ∧ (e.entry ports).target ≠ socketTarget) :
    e.ofResource = false ∧ e.warning? = none := by
  obtain ⟨hslots, hsocket⟩ := h .decimal
  cases e with
  | slotAcquired | slotReleased => exact absurd rfl hslots
  | bound | stopped | closeFailed | bindCleanupFailed => exact absurd rfl hsocket
  | _ => exact ⟨rfl, rfl⟩

theorem Transport.Discreet.quiet {T : Transport σ} (hT : T.Discreet) : T.Quiet :=
  fun t c es t' htakes e he => (Event.foreign (hT t c es t' htakes e he)).2

/-- Scripts report nothing. -/
theorem Script.events_of_takes {t t' : Script} {c : Call} {es : List Event}
    (htakes : transport.Takes t c es t') : es = [] := by
  cases htakes with
  | create =>
    change (performCreate t).events = []
    simp only [performCreate]
    split <;> rfl
  | bind =>
    change (performBind t).events = []
    simp only [performBind]
    split <;> rfl
  | send h data =>
    change (performSend data t).events = []
    simp only [performSend]
    split <;> rfl
  | receive h capacity =>
    change (performReceive capacity t).events = []
    simp only [performReceive]
    split
    · rfl
    · unfold take
      split <;> rfl
  | poll =>
    change (performPoll t).events = []
    simp only [performPoll]
    split <;> rfl
  | close h =>
    change (performClose h t).events = []
    simp only [performClose]
    split
    · rfl
    · split <;> rfl
  | localPort hask h =>
    cases hask
    change (performLocalPort t).events = []
    simp only [performLocalPort]
    split <;> rfl

theorem Script.discreet_transport : transport.Discreet := by
  intro t c es t' htakes e he
  rw [events_of_takes htakes] at he
  cases he

theorem Host.discreet_transport {ω : Type} (O : Os ω) : (transport O).Discreet := by
  intro t c es t' htakes e he ports
  rw [target_of_takes O htakes ports e he]
  exact Event.transportTarget_own

namespace World

/-- The events in the history, oldest first. -/
def events (w : World σ) : List Event := w.history.filterMap Record.event?

theorem events_emitAll (w : World σ) (es : List Event) :
    (w.emitAll es).events = w.events ++ es := by
  simp [events, emitAll, List.filterMap_map, Function.comp_def, Record.event?]

theorem events_emit (w : World σ) (e : Event) : (w.emit e).events = w.events ++ [e] :=
  events_emitAll w [e]

theorem events_perform {w w' : World σ} {call : σ → Reply σ α} {entry : α → Call} {a : α}
    (h : w.perform call entry = (a, w')) : w'.events = w.events ++ (call w.transport).events := by
  cases h
  rw [← events_emitAll]
  simp only [events, emitAll, List.filterMap_append]
  rfl

/-- From the first world to the second there have been reports, those of resources being `es`. -/
def Reports (w : World σ) (es : List Event) (w' : World σ) : Prop :=
  ∃ told, w'.events = w.events ++ told ∧ told.filter Event.ofResource = es

variable {T : Transport σ} {w w₁ w₂ : World σ} {es es' : List Event}

theorem reports_refl (w : World σ) : Reports w [] w := ⟨[], (List.append_nil _).symm, rfl⟩

namespace Reports

theorem congr (h : Reports w es w₁) (hhistory : w₂.history = w₁.history) : Reports w es w₂ := by
  obtain ⟨told, htold, hes⟩ := h
  refine ⟨told, ?_, hes⟩
  rw [← htold, events, events, hhistory]

theorem trans (h : Reports w es w₁) (h' : Reports w₁ es' w₂) : Reports w (es ++ es') w₂ := by
  obtain ⟨told, htold, rfl⟩ := h
  obtain ⟨told', htold', rfl⟩ := h'
  refine ⟨told ++ told', ?_, List.filter_append ..⟩
  rw [htold', htold, List.append_assoc]

/-- Reports of other things do not count. -/
theorem skip (h : Reports w es w₁) {new : List Event} (htold : w₂.events = w₁.events ++ new)
    (hnew : ∀ e ∈ new, Event.ofResource e = false) : Reports w es w₂ := by
  have hnone : new.filter Event.ofResource = [] := by
    rw [List.filter_eq_nil_iff]
    intro e he
    rw [hnew e he]
    exact Bool.false_ne_true
  have hadded := h.trans ⟨new, htold, hnone⟩
  rw [List.append_nil] at hadded
  exact hadded

theorem emit (h : Reports w es w₁) {e : Event} (he : e.ofResource = true) :
    Reports w (es ++ [e]) (w₁.emit e) :=
  h.trans ⟨[e], events_emit w₁ e, List.filter_cons_of_pos he⟩

theorem emit_of_foreign (h : Reports w es w₁) {e : Event} (he : e.ofResource = false) :
    Reports w es (w₁.emit e) := h.skip (events_emit w₁ e) (List.forall_mem_singleton.2 he)

theorem setPort (h : Reports w es w₁) (lease : Lease) (port : UInt16) :
    Reports w es (w₁.setPort lease port) := h.congr rfl

theorem release (h : Reports w es w₁) (lease : Lease) :
    Reports w (es ++ [.slotReleased lease.slot]) (w₁.release lease) := by
  have hfreed : Reports w es
      (w₁.setTable lease.table ((w₁.table lease.table).release lease.slot)) := h.congr rfl
  exact hfreed.emit rfl

theorem acquire (h : Reports w es w₁) {table : Nat} {acquired : Result Lease}
    (hacquire : w₁.acquire table = (acquired, w₂)) :
    Reports w (es ++ acquired.toOption.toList.map fun lease => .slotAcquired lease.slot) w₂ := by
  unfold World.acquire at hacquire
  cases hslot : (w₁.table table).acquire with
  | error e =>
    simp only [hslot, Prod.mk.injEq] at hacquire
    obtain ⟨rfl, rfl⟩ := hacquire
    change Reports w (es ++ []) _
    rw [List.append_nil]
    exact h.emit_of_foreign rfl
  | ok taken =>
    obtain ⟨slot, t⟩ := taken
    simp only [hslot, Prod.mk.injEq] at hacquire
    obtain ⟨rfl, rfl⟩ := hacquire
    have htaken : Reports w es (w₁.setTable table t) := h.congr rfl
    exact htaken.emit rfl

/-- A call reports nothing of resources, if the transport does not. -/
theorem perform (h : Reports w es w₁) (hT : T.Discreet) {call : σ → Reply σ α} {entry : α → Call}
    {a : α} (hcall : w₁.perform call entry = (a, w₂))
    (htakes : T.Takes w₁.transport (entry (call w₁.transport).answer) (call w₁.transport).events
      (call w₁.transport).state) : Reports w es w₂ :=
  h.skip (events_perform hcall) fun e he => (Event.foreign (hT _ _ _ _ htakes e he)).1

theorem localPort (h : Reports w es w₁) (hT : T.Discreet) {k : Handle} {answer : Option UInt16}
    (hask : w₁.localPort T k = (answer, w₂)) : Reports w es w₂ := by
  unfold World.localPort at hask
  cases hport : T.localPort with
  | none =>
    simp only [hport, Prod.mk.injEq] at hask
    obtain ⟨-, rfl⟩ := hask
    exact h
  | some ask =>
    simp only [hport] at hask
    exact h.perform hT hask (.localPort hport k)

end Reports
end World

namespace Binding

/-- What is reported when the binding is given up. -/
def parting (b : Binding) : List Event :=
  [.stopped b.port b.lease.slot, .slotReleased b.lease.slot]

end Binding

namespace Socket

open World

/-- What is reported of an attempt to bind, given the slot there was for it and what it led to. -/
def attemptNews (found : Result (Nat × SlotTable)) (binding : Option Binding) : List Event :=
  match found, binding with
  | .error _, _ => []
  | .ok (slot, _), none => [.slotAcquired slot, .slotReleased slot]
  | .ok (slot, _), some b => [.slotAcquired slot, .bound b.handle b.port b.lease.slot]

variable {T : Transport σ} {w w₁ w₂ : World σ} {es : List Event} {s : Socket} {port : UInt16}

theorem giveBack_reports (h : Reports w es w₁) (hT : T.Discreet) (b : Binding) :
    Reports w (es ++ b.parting) (giveBack T b w₁) := by
  rcases hclose : w₁.close T b.handle with ⟨closed, w₂⟩
  have hclosed : Reports w es w₂ := h.perform hT hclose (.close b.handle)
  have hparted {w₃ : World σ} (h : Reports w es w₃) :
      Reports w (es ++ b.parting) ((w₃.emit (.stopped b.port b.lease.slot)).release b.lease) := by
    rw [Binding.parting, ← List.singleton_append, ← List.append_assoc]
    exact (h.emit rfl).release b.lease
  simp only [giveBack, hclose]
  cases closed with
  | ok _ => exact hparted hclosed
  | error e => exact hparted (hclosed.emit_of_foreign rfl)

theorem bindHandle_reports (h : Reports w es w₁) (hT : T.Discreet) {k : Handle}
    {answer : Result Unit} (hbind : bindHandle T k port w₁ = (answer, w₂)) : Reports w es w₂ := by
  unfold bindHandle at hbind
  rcases hb : w₁.bind T k port with ⟨bound, w₃⟩
  have hbound : Reports w es w₃ := h.perform hT hb (.bind k port)
  cases bound with
  | ok _ =>
    simp only [hb, Prod.mk.injEq] at hbind
    obtain ⟨-, rfl⟩ := hbind
    exact hbound
  | error e =>
    rcases hclose : w₃.close T k with ⟨closed, w₄⟩
    have hclosed : Reports w es w₄ := hbound.perform hT hclose (.close k)
    cases closed with
    | ok _ =>
      simp only [hb, hclose, Prod.mk.injEq] at hbind
      obtain ⟨-, rfl⟩ := hbind
      exact hclosed
    | error c =>
      simp only [hb, hclose, Prod.mk.injEq] at hbind
      obtain ⟨-, rfl⟩ := hbind
      exact hclosed.emit_of_foreign rfl

theorem openHandle_reports (h : Reports w es w₁) (hT : T.Discreet) {lease : Lease}
    {answer : Result Binding} (hopen : openHandle T lease port w₁ = (answer, w₂)) :
    Reports w (es ++ answer.toOption.toList.map fun b => .bound b.handle b.port b.lease.slot)
      w₂ := by
  unfold openHandle at hopen
  rcases hcreate : w₁.create T with ⟨created, w₃⟩
  have hcreated : Reports w es w₃ := h.perform hT hcreate .create
  have hfailed {w₄ : World σ} (h : Reports w es w₄) : Reports w (es ++ []) w₄ := by
    rw [List.append_nil]
    exact h
  cases created with
  | error e =>
    simp only [hcreate, Prod.mk.injEq] at hopen
    obtain ⟨rfl, rfl⟩ := hopen
    exact hfailed hcreated
  | ok k =>
    rcases hbind : bindHandle T k port w₃ with ⟨bound, w₄⟩
    have hbound := bindHandle_reports hcreated hT hbind
    cases bound with
    | error e =>
      simp only [hcreate, hbind, Prod.mk.injEq] at hopen
      obtain ⟨rfl, rfl⟩ := hopen
      exact hfailed hbound
    | ok _ =>
      rcases hask : w₄.localPort T k with ⟨reported, w₅⟩
      have hasked := hbound.localPort hT hask
      simp only [hcreate, hbind, hask, Prod.mk.injEq] at hopen
      obtain ⟨rfl, rfl⟩ := hopen
      exact (hasked.setPort lease _).emit rfl

theorem acquireBinding_reports (h : Reports w es w₁) (hT : T.Discreet) {table : Nat}
    {answer : Result Binding} (hacquire : acquireBinding T table port w₁ = (answer, w₂)) :
    Reports w (es ++ attemptNews (w₁.table table).acquire answer.toOption) w₂ := by
  unfold acquireBinding at hacquire
  rcases hslot : w₁.acquire table with ⟨acquired, w₃⟩
  have htaken := h.acquire hslot
  unfold World.acquire at hslot
  cases hfound : (w₁.table table).acquire with
  | error e =>
    simp only [hfound, Prod.mk.injEq] at hslot
    obtain ⟨rfl, rfl⟩ := hslot
    simp only [World.acquire, hfound, Prod.mk.injEq] at hacquire
    obtain ⟨rfl, rfl⟩ := hacquire
    exact htaken
  | ok taken =>
    obtain ⟨slot, t⟩ := taken
    simp only [hfound, Prod.mk.injEq] at hslot
    obtain ⟨rfl, rfl⟩ := hslot
    rcases hopen : openHandle T ⟨table, slot⟩ port
      ((w₁.setTable table t).emit (.slotAcquired slot)) with ⟨opened, w₄⟩
    have hopened := openHandle_reports htaken hT hopen
    simp only [World.acquire, hfound, hopen] at hacquire
    cases opened with
    | ok b =>
      simp only [Prod.mk.injEq] at hacquire
      obtain ⟨rfl, rfl⟩ := hacquire
      rw [List.append_assoc] at hopened
      exact hopened
    | error e =>
      simp only [Prod.mk.injEq] at hacquire
      obtain ⟨rfl, rfl⟩ := hacquire
      have hreleased := hopened.release ⟨table, slot⟩
      rw [List.append_assoc, List.append_assoc] at hreleased
      exact hreleased

theorem beginUnbound_reports (h : Reports w es w₁) (hT : T.Discreet) (hb : s.binding = none) :
    Reports w
      (es ++ attemptNews (w₁.table s.table).acquire (s.beginUnbound T port w₁).2.1.binding)
      (s.beginUnbound T port w₁).2.2 := by
  rcases hopen : acquireBinding T s.table port w₁ with ⟨opened, w₂⟩
  have hopened := acquireBinding_reports h hT hopen
  unfold beginUnbound
  rw [hopen]
  cases opened with
  | ok b => exact hopened
  | error e =>
    change Reports w (es ++ attemptNews _ s.binding) w₂
    rw [hb]
    exact hopened

/-- What is reported of stopping, given the binding that there was. -/
def partingNews (binding : Option Binding) : List Event := (binding.map Binding.parting).getD []

theorem stop_reports (hT : T.Discreet) (s : Socket) (w : World σ) :
    Reports w (partingNews s.binding) (s.stop T w).2 := by
  rcases s.binding.eq_none_or_eq_some with hb | ⟨b, hb⟩
  · rw [stop_of_unbound T hb, hb]
    exact reports_refl w
  · rw [stop_of_bound T hb, hb]
    exact giveBack_reports (reports_refl w) hT b

theorem begin_reports (hT : T.Discreet) {base : Socket} {w₀ : World σ}
    (hready : Ready T s port w base w₀) :
    Reports w
      (partingNews s.binding ++
        attemptNews (w₀.table s.table).acquire (s.begin T port w).2.1.binding)
      (s.begin T port w).2.2 := by
  cases hready with
  | unbound hb =>
    simp only [begin, hb]
    exact beginUnbound_reports (reports_refl w) hT hb
  | @stopped b hb =>
    simp only [begin, stop, hb]
    have hnoted : Reports w [] (w.emit (.rebinding b.port port)) :=
      (reports_refl w).emit_of_foreign rfl
    exact beginUnbound_reports (s := s.released) (giveBack_reports hnoted hT b) hT rfl

theorem write_reports (s : Socket) (w : World σ) (bytes : Bytes) :
    Reports w [] (s.write bytes w).2.2 := by
  rcases s.binding.eq_none_or_eq_some with hb | ⟨b, hb⟩
  · rw [write_of_unbound w hb]
    exact reports_refl w
  · simp only [write, handle_of_bound hb]
    split
    · exact (reports_refl w).emit_of_foreign rfl
    · exact reports_refl w

theorem beginPacketToHost_reports (s : Socket) (w : World σ) (lookup : Lookup) (host : String)
    (port : UInt16) : Reports w [] (s.beginPacketToHost lookup.askWith host port w []).2.2.1 := by
  have hnone : (lookup.askWith host []).events = [] := by
    unfold Lookup.askWith
    cases Ipv4.ofText? host <;> rfl
  have hasked : Reports w [] (w.emitAll (lookup.askWith host []).events) := by
    rw [hnone]
    exact (reports_refl w).skip (events_emitAll w []) (List.forall_mem_nil _)
  rcases s.binding.eq_none_or_eq_some with hb | ⟨b, hb⟩
  · rw [beginPacketToHost_of_unbound w lookup.askWith host port [] hb]
    exact reports_refl w
  · simp only [beginPacketToHost, handle_of_bound hb]
    cases (lookup.askWith host []).answer with
    | error e => exact hasked
    | ok ip => exact hasked.emit_of_foreign rfl

theorem endPacket_reports (hT : T.Discreet) (s : Socket) (w : World σ) :
    Reports w [] (s.endPacket T w).2.2 := by
  rcases s.binding.eq_none_or_eq_some with hb | ⟨b, hb⟩
  · simp only [endPacket, handle_of_unbound hb]
    exact reports_refl w
  · simp only [endPacket, handle_of_bound hb]
    cases s.destination with
    | none => exact reports_refl w
    | some target =>
      rcases hsend : w.send T b.handle s.tx.contents target with ⟨answer, w₁⟩
      have hsent : Reports w [] w₁ :=
        (reports_refl w).perform hT hsend (.send b.handle s.tx.contents target)
      simp only [hsend]
      cases answer with
      | error e => exact hsent
      | ok count => exact hsent.emit_of_foreign rfl

theorem receive_reports (h : Reports w es w₁) (hT : T.Discreet) (k : Handle) :
    Reports w es (s.receive T k w₁).2.2 := by
  rcases hreceive : w₁.receive T k s.rx.capacity with ⟨delivery, w₂⟩
  have hreceived : Reports w es w₂ := h.perform hT hreceive (.receive k s.rx.capacity)
  rcases receive_cases T hreceive with ⟨e, -, hs⟩ | ⟨claim, source, -, hs⟩
  · rw [hs]
    exact hreceived
  · rw [hs]
    exact hreceived.emit_of_foreign rfl

theorem parsePacket_reports (hT : T.Discreet) (s : Socket) (w : World σ) :
    Reports w [] (s.parsePacket T w).2.2 := by
  rcases s.binding.eq_none_or_eq_some with hb | ⟨b, hb⟩
  · simp only [parsePacket, handle_of_unbound hb]
    exact reports_refl w
  · rcases hpoll : w.poll T b.handle s.config.pollTimeout with ⟨polled, w₁⟩
    have hpolled : Reports w [] w₁ :=
      (reports_refl w).perform hT hpoll (.poll b.handle s.config.pollTimeout)
    rcases parsePacket_cases T hb hpoll with ⟨e, -, hs⟩ | ⟨-, hs⟩ | ⟨r, -, -, hs⟩
    · rw [hs]
      exact hpolled
    · rw [hs]
      exact hpolled
    · rw [hs]
      exact receive_reports hpolled hT b.handle

/-- Operations that have nothing to do with the binding report nothing of resources. -/
theorem perform_reports (hT : T.Discreet) (s : Socket) (w : World σ) {st : SocketStep}
    (hside : st.side ≠ .lifecycle) : Reports w [] (s.perform T w st).2.2 := by
  cases st with
  | begin _ | stop => exact absurd rfl hside
  | write bytes => exact write_reports s w bytes
  | beginPacketToHost host port lookup => exact beginPacketToHost_reports s w lookup host port
  | endPacket => exact endPacket_reports hT s w
  | parsePacket => exact parsePacket_reports hT s w
  | _ => exact reports_refl w

end Socket

/-- What a socket of the table does with its binding and the slot tables, and what is reported of
it. -/
inductive Story (table : Nat) :
    Option Binding → List SlotTable → List Event → Option Binding → List SlotTable → Prop
  | nothing (x ts) : Story table x ts [] x ts
  | stop (b ts) : Story table (some b) ts b.parting none (b.lease.freed ts)
  | fail {ts slot t} (hslot : (ts.getD table .empty).acquire = .ok (slot, t)) :
      Story table none ts [.slotAcquired slot, .slotReleased slot] none
        (Lease.freed ⟨table, slot⟩ (ts.set table t))
  | bind {ts slot t} (hslot : (ts.getD table .empty).acquire = .ok (slot, t)) (h : Handle)
      (port : UInt16) :
      Story table none ts [.slotAcquired slot, .bound h port slot] (some ⟨h, port, ⟨table, slot⟩⟩)
        (Lease.noted ⟨table, slot⟩ port (ts.set table t))
  | trans {x ts es y ts' es' z ts''} (h : Story table x ts es y ts')
      (h' : Story table y ts' es' z ts'') : Story table x ts (es ++ es') z ts''

namespace Socket

open World

variable {T : Transport σ} {w : World σ} {port : UInt16}

theorem Opening.story {table : Nat} {opened : Result Binding} {ts : List SlotTable}
    {cs : List Call} (h : Opening T table port w opened ts cs) :
    Story table none w.tables (attemptNews (w.table table).acquire opened.toOption)
      opened.toOption ts := by
  cases h with
  | noSlot hfull =>
    rw [hfull]
    exact .nothing none w.tables
  | createFailed hslot | bindFailed hslot =>
    rw [hslot]
    exact .fail hslot
  | bound hslot =>
    rw [hslot]
    exact .bind hslot _ _

theorem giveBack_story (table : Nat) (b : Binding) (w : World σ) :
    Story table (some b) w.tables b.parting none (giveBack T b w).tables := by
  rw [(giveBack_spec T b w).1]
  exact .stop b w.tables

theorem stop_story (table : Nat) (s : Socket) (w : World σ) :
    Story table s.binding w.tables (partingNews s.binding) none (s.stop T w).2.tables := by
  rcases s.binding.eq_none_or_eq_some with hb | ⟨b, hb⟩
  · rw [stop_of_unbound T hb, hb]
    exact .nothing none w.tables
  · rw [stop_of_bound T hb, hb]
    exact giveBack_story table b w

theorem begin_story (s : Socket) (w : World σ) (hT : T.Discreet) :
    ∃ es, Reports w es (s.begin T port w).2.2 ∧
      Story s.table s.binding w.tables es (s.begin T port w).2.1.binding
        (s.begin T port w).2.2.tables := by
  obtain ⟨base, w₀, opened, cs, hready, hopening, -, -, hs⟩ := begin_spec T port s w
  have hnews := begin_reports hT hready
  have hopened := hopening.story
  rw [hs] at hnews ⊢
  refine ⟨_, hnews, .trans ?_ hopened⟩
  cases hready with
  | unbound hb =>
    rw [hb]
    exact .nothing none w.tables
  | @stopped b hb =>
    rw [hb]
    exact giveBack_story s.table b (w.emit (.rebinding b.port port))

/-- Whatever a socket does, what is reported of it tells the story of its binding and the slots. -/
theorem perform_story (hT : T.Discreet) (s : Socket) (w : World σ) (st : SocketStep) :
    ∃ es, Reports w es (s.perform T w st).2.2 ∧
      Story s.table s.binding w.tables es (s.perform T w st).2.1.binding
        (s.perform T w st).2.2.tables := by
  by_cases hside : st.side = .lifecycle
  · cases st with
    | begin port => exact begin_story s w hT
    | stop =>
      have hunbound : (s.stop T w).1.binding = none := by
        rw [stop_released]
        rfl
      refine ⟨_, stop_reports hT s w, ?_⟩
      change Story _ _ _ _ (s.stop T w).1.binding _
      rw [hunbound]
      exact stop_story s.table s w
    | _ => cases hside
  · refine ⟨[], perform_reports hT s w hside, ?_⟩
    rw [perform_binding T s w hside, perform_tables T s w hside]
    exact .nothing s.binding w.tables

end Socket

namespace Session

open World

variable {T : Transport σ} {ss : Session σ} {st : Step} {i : Nat} {s : Socket}

/-- A step of a living socket, as it is reported. -/
theorem step_story (hT : T.Discreet) (hst : st.actor? = some i) (hs : ss.socket? i = some s) :
    ∃ w x es, (ss.step T st).2 = { ss with world := w, sockets := ss.sockets.set i x } ∧
      Reports ss.world es w ∧
      Story s.table s.binding ss.world.tables es (x.bind (·.binding)) w.tables := by
  cases st with
  | socket j op =>
    cases hst
    obtain ⟨es, hreports, hstory⟩ := Socket.perform_story hT s ss.world op
    exact ⟨_, some _, es, step_socket hs op, hreports, hstory⟩
  | drop j =>
    cases hst
    exact ⟨_, none, _, step_drop hs, Socket.stop_reports hT s ss.world,
      Socket.stop_story s.table s ss.world⟩
  | _ => cases hst

/-- Calls past the sockets are reported by nobody but the transport. -/
theorem rawCall_reports (hT : T.Discreet) (w : World σ) (call : RawCall) :
    Reports w [] (rawCall T w call).2 := by
  have hcall {α : Type} {ask : σ → Reply σ α} {entry : α → Call}
      (htakes : T.Takes w.transport (entry (ask w.transport).answer) (ask w.transport).events
        (ask w.transport).state) : Reports w [] (w.perform ask entry).2 :=
    (reports_refl w).perform hT rfl htakes
  cases call with
  | create => exact hcall .create
  | bind h port => exact hcall (.bind h port)
  | send h data target => exact hcall (.send h data target)
  | receive h out => exact hcall (.receive h out.length)
  | poll h timeout => exact hcall (.poll h timeout)
  | close h => exact hcall (.close h)
  | localPort h => exact (reports_refl w).localPort hT rfl

end Session
end Datagram
