import Datagram.Proofs.SocketCalls

/-!
# How calls move the transport on

`Transport.Takes` says what one call does to a transport: the answer that it gives, what it reports,
and the state it is in afterwards. Whatever sockets do, the transport comes to its next state by the
calls that are written down meanwhile, one after the other; and they warn of exactly those of the
calls that are closes and have failed, in their order. Steps that call the transport past every
socket move it on in the same way but warn of nothing.
-/

namespace Datagram

variable {σ α : Type}

/-- The close that an event warns of, with its failure. -/
def Event.warning? : Event → Option (Handle × Failure)
  | closeFailed h e | bindCleanupFailed h e => some (h, e)
  | _ => none

def Call.failedClose? : Call → Option (Handle × Failure)
  | close h (.error e) => some (h, e)
  | _ => none

namespace Transport

/-- A transport takes a call in the state `t`: its answer is part of the call. -/
inductive Takes (T : Transport σ) (t : σ) : Call → List Event → σ → Prop
  | create : Takes T t (.create (T.create t).answer) (T.create t).events (T.create t).state
  | bind (h : Handle) (port : UInt16) : Takes T t (.bind h port (T.bind h port t).answer)
      (T.bind h port t).events (T.bind h port t).state
  | send (h : Handle) (data : Bytes) (target : Endpoint) :
      Takes T t (.send h data target (T.send h data target t).answer)
        (T.send h data target t).events (T.send h data target t).state
  | receive (h : Handle) (capacity : Nat) :
      Takes T t (.receive h capacity (T.receive h capacity t).answer)
        (T.receive h capacity t).events (T.receive h capacity t).state
  | poll (h : Handle) (timeout : Duration) :
      Takes T t (.poll h timeout (T.poll h timeout t).answer)
        (T.poll h timeout t).events (T.poll h timeout t).state
  | close (h : Handle) :
      Takes T t (.close h (T.close h t).answer) (T.close h t).events (T.close h t).state
  | localPort {ask} (hask : T.localPort = some ask) (h : Handle) :
      Takes T t (.localPort h (ask h t).answer) (ask h t).events (ask h t).state

/-- Calls taken one after the other. -/
inductive Replays (T : Transport σ) : σ → List Call → σ → Prop
  | nil (t : σ) : Replays T t [] t
  | cons {t c es t₁ cs t₂} (hc : T.Takes t c es t₁) (h : Replays T t₁ cs t₂) :
      Replays T t (c :: cs) t₂

/-- A transport whose own reports are never taken for the warnings of a socket. -/
def Quiet (T : Transport σ) : Prop :=
  ∀ t c es t', T.Takes t c es t' → ∀ e ∈ es, Event.warning? e = none

variable {T : Transport σ} {t t₁ t₂ : σ} {cs cs' : List Call}

theorem Takes.replays {c : Call} {es : List Event} (h : T.Takes t c es t₁) :
    T.Replays t [c] t₁ := .cons h (.nil t₁)

theorem Replays.eq_of_nil (h : T.Replays t [] t₁) : t₁ = t := by
  cases h
  rfl

theorem Replays.trans (h : T.Replays t cs t₁) (h' : T.Replays t₁ cs' t₂) :
    T.Replays t (cs ++ cs') t₂ := by
  induction h with
  | nil => exact h'
  | cons hc _ ih => exact .cons hc (ih h')

theorem Replays.of_append (h : T.Replays t (cs ++ cs') t₂) :
    ∃ t₁, T.Replays t cs t₁ ∧ T.Replays t₁ cs' t₂ := by
  induction cs generalizing t with
  | nil => exact ⟨t, .nil t, h⟩
  | cons c cs ih =>
    cases h with
    | cons hc h =>
      obtain ⟨t₁, hfirst, hsecond⟩ := ih h
      exact ⟨t₁, .cons hc hfirst, hsecond⟩

/-- What every one of the calls keeps holds after all of them. -/
theorem Replays.induction {P : σ → Prop} (h : T.Replays t cs t₁)
    (hstep : ∀ t c es t', c ∈ cs → T.Takes t c es t' → P t → P t') (ht : P t) : P t₁ := by
  induction h with
  | nil => exact ht
  | cons hc _ ih =>
    apply ih
    · intro t d es t' hd
      exact hstep t d es t' (List.mem_cons_of_mem _ hd)
    · exact hstep _ _ _ _ (List.mem_cons_self ..) hc ht

end Transport

namespace World

/-- The failed closes that the history warns of. -/
def warnings (w : World σ) : List (Handle × Failure) :=
  w.history.filterMap fun r => r.event?.bind Event.warning?

/-- Sockets have made the calls `cs`, which have moved the transport on, and have warned of those
of them that are failed closes. -/
structure Evolves (T : Transport σ) (w : World σ) (cs : List Call) (w' : World σ) : Prop where
  calls : w'.calls = w.calls ++ cs
  replays : T.Replays w.transport cs w'.transport
  warnings : T.Quiet → w'.warnings = w.warnings ++ cs.filterMap Call.failedClose?

variable {T : Transport σ} {w w₁ w₂ : World σ} {cs cs' : List Call}

theorem warnings_emit (w : World σ) (e : Event) :
    (w.emit e).warnings = w.warnings ++ e.warning?.toList := by
  cases he : e.warning? <;> simp [warnings, emit, Record.event?, he]

theorem warnings_emitAll {events : List Event} (h : ∀ e ∈ events, Event.warning? e = none) :
    (w.emitAll events).warnings = w.warnings := by
  have hnone : events.filterMap Event.warning? = [] := List.filterMap_eq_nil_iff.2 h
  simp only [warnings, emitAll, List.filterMap_append, List.filterMap_map]
  change _ ++ events.filterMap Event.warning? = _
  rw [hnone, List.append_nil]

theorem evolves_refl (T : Transport σ) (w : World σ) : Evolves T w [] w where
  calls := (List.append_nil _).symm
  replays := .nil w.transport
  warnings _ := (List.append_nil _).symm

/-- A call moves the transport on, and nothing that the transport reports is a warning. -/
theorem perform_moves_on {call : σ → Reply σ α} {entry : α → Call} {a : α}
    (h : w.perform call entry = (a, w₁))
    (htakes : T.Takes w.transport (entry (call w.transport).answer) (call w.transport).events
      (call w.transport).state) :
    w₁.calls = w.calls ++ [entry a] ∧ T.Replays w.transport [entry a] w₁.transport ∧
      (T.Quiet → w₁.warnings = w.warnings) := by
  have hcalls := (perform_spec h).2
  cases h
  refine ⟨hcalls, htakes.replays, ?_⟩
  intro hquiet
  have hreported := warnings_emitAll (w := w) (hquiet _ _ _ _ htakes)
  rw [← hreported]
  simp [warnings, emitAll, Record.event?]

theorem perform_evolves {call : σ → Reply σ α} {entry : α → Call} {a : α}
    (h : w.perform call entry = (a, w₁))
    (htakes : T.Takes w.transport (entry (call w.transport).answer) (call w.transport).events
      (call w.transport).state)
    (hok : (entry a).failedClose? = none) : Evolves T w [entry a] w₁ := by
  obtain ⟨hcalls, hreplays, hwarnings⟩ := perform_moves_on h htakes
  refine ⟨hcalls, hreplays, ?_⟩
  intro hquiet
  simp [hwarnings hquiet, hok]

theorem localPort_evolves {h : Handle} {answer : Option UInt16}
    (hask : w.localPort T h = (answer, w₁)) : Evolves T w (T.portQuery h answer) w₁ := by
  unfold localPort at hask
  cases hT : T.localPort with
  | none =>
    simp only [hT, Prod.mk.injEq] at hask
    obtain ⟨-, rfl⟩ := hask
    simp only [Transport.portQuery, hT, Option.isSome_none, Bool.false_eq_true, if_false]
    exact evolves_refl T w
  | some ask =>
    simp only [hT] at hask
    simp only [Transport.portQuery, hT, Option.isSome_some, if_true]
    exact perform_evolves hask (.localPort hT h) rfl

namespace Evolves

theorem trans (h : Evolves T w cs w₁) (h' : Evolves T w₁ cs' w₂) :
    Evolves T w (cs ++ cs') w₂ where
  calls := by rw [h'.calls, h.calls, List.append_assoc]
  replays := h.replays.trans h'.replays
  warnings hquiet := by
    rw [h'.warnings hquiet, h.warnings hquiet, List.filterMap_append, List.append_assoc]

/-- Which calls were made can be read off the history. -/
theorem calls_unique (h : Evolves T w cs w₁) (hcalls : w₁.calls = w.calls ++ cs') :
    Evolves T w cs' w₁ := by
  obtain rfl : cs = cs' := List.append_cancel_left (h.calls.symm.trans hcalls)
  exact h

theorem congr (h : Evolves T w cs w₁) (hhistory : w₂.history = w₁.history)
    (htransport : w₂.transport = w₁.transport) : Evolves T w cs w₂ where
  calls := by
    have hcalls := h.calls
    rw [World.calls, ← hhistory] at hcalls
    exact hcalls
  replays := htransport ▸ h.replays
  warnings hquiet := by
    have hwarnings := h.warnings hquiet
    rw [World.warnings, ← hhistory] at hwarnings
    exact hwarnings

theorem emit (h : Evolves T w cs w₁) {e : Event} (he : e.warning? = none) :
    Evolves T w cs (w₁.emit e) where
  calls := by rw [calls_emit, h.calls]
  replays := h.replays
  warnings hquiet := by
    rw [warnings_emit, he, Option.toList_none, List.append_nil]
    exact h.warnings hquiet

theorem emitAll (h : Evolves T w cs w₁) {events : List Event}
    (hevents : ∀ e ∈ events, Event.warning? e = none) : Evolves T w cs (w₁.emitAll events) where
  calls := by rw [calls_emitAll, h.calls]
  replays := h.replays
  warnings hquiet := by
    rw [warnings_emitAll hevents]
    exact h.warnings hquiet

theorem setPort (h : Evolves T w cs w₁) (lease : Lease) (port : UInt16) :
    Evolves T w cs (w₁.setPort lease port) := h.congr rfl rfl

theorem release (h : Evolves T w cs w₁) (lease : Lease) : Evolves T w cs (w₁.release lease) := by
  have htable : Evolves T w cs
      (w₁.setTable lease.table ((w₁.table lease.table).release lease.slot)) := h.congr rfl rfl
  exact htable.emit rfl

theorem acquire (h : Evolves T w cs w₁) (i : Nat) : Evolves T w cs (w₁.acquire i).2 := by
  unfold World.acquire
  cases (w₁.table i).acquire with
  | error e => exact h.emit rfl
  | ok taken =>
    have htable : Evolves T w cs (w₁.setTable i taken.2) := h.congr rfl rfl
    exact htable.emit rfl

end Evolves

/-- A close and the warning of its failure belong together. -/
theorem close_evolves {h : Handle} {closed : Result Unit} (hclose : w.close T h = (closed, w₁))
    (warn : Failure → Event) (hwarn : ∀ e, (warn e).warning? = some (h, e)) :
    Evolves T w [.close h closed]
      (match closed with
        | .ok _ => w₁
        | .error e => w₁.emit (warn e)) := by
  cases closed with
  | ok _ => exact perform_evolves hclose (.close h) rfl
  | error e =>
    obtain ⟨hcalls, hreplays, hwarnings⟩ := perform_moves_on hclose (.close h)
    refine ⟨by rw [calls_emit, hcalls], hreplays, ?_⟩
    intro hquiet
    rw [warnings_emit, hwarnings hquiet, hwarn]
    rfl

end World

namespace Socket

open World

variable {T : Transport σ} {w w' : World σ}

theorem giveBack_evolves (b : Binding) (w : World σ) :
    ∃ closed, Evolves T w [.close b.handle closed] (giveBack T b w) := by
  rcases hclose : w.close T b.handle with ⟨closed, w₁⟩
  have hclosed := close_evolves hclose (.closeFailed b.handle) fun _ => rfl
  refine ⟨closed, ?_⟩
  simp only [giveBack, hclose]
  cases closed with
  | ok _ => exact (hclosed.emit rfl).release b.lease
  | error e => exact (hclosed.emit rfl).release b.lease

theorem bindHandle_evolves {h : Handle} {port : UInt16} {answer : Result Unit}
    (hbind : bindHandle T h port w = (answer, w')) : ∃ cs, Evolves T w cs w' := by
  unfold bindHandle at hbind
  rcases hb : w.bind T h port with ⟨bound, w₁⟩
  have hbound : Evolves T w [.bind h port bound] w₁ := perform_evolves hb (.bind h port) rfl
  cases bound with
  | ok _ =>
    simp only [hb, Prod.mk.injEq] at hbind
    obtain ⟨-, rfl⟩ := hbind
    exact ⟨_, hbound⟩
  | error e =>
    rcases hclose : w₁.close T h with ⟨closed, w₂⟩
    have hclosed := close_evolves hclose (.bindCleanupFailed h) fun _ => rfl
    cases closed <;>
    · simp only [hb, hclose, Prod.mk.injEq] at hbind
      obtain ⟨-, rfl⟩ := hbind
      exact ⟨_, hbound.trans hclosed⟩

theorem openHandle_evolves {lease : Lease} {port : UInt16} {answer : Result Binding}
    (hopen : openHandle T lease port w = (answer, w')) : ∃ cs, Evolves T w cs w' := by
  unfold openHandle at hopen
  rcases hcreate : w.create T with ⟨created, w₁⟩
  have hcreated : Evolves T w [.create created] w₁ := by
    apply perform_evolves hcreate .create
    cases created <;> rfl
  cases created with
  | error e =>
    simp only [hcreate, Prod.mk.injEq] at hopen
    obtain ⟨-, rfl⟩ := hopen
    exact ⟨_, hcreated⟩
  | ok h =>
    rcases hbind : bindHandle T h port w₁ with ⟨bound, w₂⟩
    obtain ⟨cs, hbound⟩ := bindHandle_evolves hbind
    cases bound with
    | error e =>
      simp only [hcreate, hbind, Prod.mk.injEq] at hopen
      obtain ⟨-, rfl⟩ := hopen
      exact ⟨_, hcreated.trans hbound⟩
    | ok _ =>
      rcases hask : w₂.localPort T h with ⟨reported, w₃⟩
      have hasked := localPort_evolves hask
      simp only [hcreate, hbind, hask, Prod.mk.injEq] at hopen
      obtain ⟨-, rfl⟩ := hopen
      exact ⟨_, (((hcreated.trans hbound).trans hasked).setPort lease _).emit rfl⟩

theorem acquireBinding_evolves {table : Nat} {port : UInt16} {answer : Result Binding}
    (h : acquireBinding T table port w = (answer, w')) : ∃ cs, Evolves T w cs w' := by
  unfold acquireBinding at h
  rcases hacquire : w.acquire table with ⟨acquired, w₁⟩
  have hacquired : Evolves T w [] w₁ := by
    have hslot := (evolves_refl T w).acquire table
    rw [hacquire] at hslot
    exact hslot
  cases acquired with
  | error e =>
    simp only [hacquire, Prod.mk.injEq] at h
    obtain ⟨-, rfl⟩ := h
    exact ⟨_, hacquired⟩
  | ok lease =>
    rcases hopen : openHandle T lease port w₁ with ⟨opened, w₂⟩
    obtain ⟨cs, hopened⟩ := openHandle_evolves hopen
    cases opened with
    | ok b =>
      simp only [hacquire, hopen, Prod.mk.injEq] at h
      obtain ⟨-, rfl⟩ := h
      exact ⟨_, hacquired.trans hopened⟩
    | error e =>
      simp only [hacquire, hopen, Prod.mk.injEq] at h
      obtain ⟨-, rfl⟩ := h
      exact ⟨_, (hacquired.trans hopened).release lease⟩

variable (T) (s : Socket) (w : World σ)

theorem beginUnbound_evolves (port : UInt16) :
    ∃ cs, Evolves T w cs (beginUnbound T port s w).2.2 := by
  rcases hopen : acquireBinding T s.table port w with ⟨opened, w₁⟩
  obtain ⟨cs, hopened⟩ := acquireBinding_evolves hopen
  refine ⟨cs, ?_⟩
  unfold beginUnbound
  rw [hopen]
  cases opened <;> exact hopened

theorem stop_evolves : ∃ cs, Evolves T w cs (s.stop T w).2 := by
  rcases s.binding.eq_none_or_eq_some with hb | ⟨b, hb⟩
  · rw [stop_of_unbound T hb]
    exact ⟨[], evolves_refl T w⟩
  · rw [stop_of_bound T hb]
    obtain ⟨closed, hgiven⟩ := giveBack_evolves (T := T) b w
    exact ⟨_, hgiven⟩

theorem begin_evolves (port : UInt16) : ∃ cs, Evolves T w cs (s.begin T port w).2.2 := by
  rcases s.binding.eq_none_or_eq_some with hb | ⟨b, hb⟩
  · simp only [begin, hb]
    exact beginUnbound_evolves T s w port
  · simp only [begin, stop, hb]
    have hnoted : Evolves T w [] (w.emit (.rebinding b.port port)) := (evolves_refl T w).emit rfl
    obtain ⟨closed, hgiven⟩ := giveBack_evolves (T := T) b (w.emit (.rebinding b.port port))
    obtain ⟨cs, hopened⟩ := beginUnbound_evolves T s.released
      (giveBack T b (w.emit (.rebinding b.port port))) port
    exact ⟨_, (hnoted.trans hgiven).trans hopened⟩

theorem write_evolves (bytes : Bytes) : Evolves T w [] (s.write bytes w).2.2 := by
  rcases s.binding.eq_none_or_eq_some with hb | ⟨b, hb⟩
  · rw [write_of_unbound w hb]
    exact evolves_refl T w
  · simp only [write, handle_of_bound hb]
    split
    · exact (evolves_refl T w).emit rfl
    · exact evolves_refl T w

theorem beginPacketToHost_evolves {ρ : Type} (resolve : String → ρ → Reply ρ (Result Ipv4))
    (host : String) (port : UInt16) (r : ρ)
    (hquiet : ∀ e ∈ (resolve host r).events, Event.warning? e = none) :
    Evolves T w [] (s.beginPacketToHost resolve host port w r).2.2.1 := by
  rcases s.binding.eq_none_or_eq_some with hb | ⟨b, hb⟩
  · rw [beginPacketToHost_of_unbound w resolve host port r hb]
    exact evolves_refl T w
  · simp only [beginPacketToHost, handle_of_bound hb]
    cases (resolve host r).answer with
    | error e => exact (evolves_refl T w).emitAll hquiet
    | ok ip => exact ((evolves_refl T w).emitAll hquiet).emit rfl

theorem endPacket_evolves : ∃ cs, Evolves T w cs (s.endPacket T w).2.2 := by
  rcases s.binding.eq_none_or_eq_some with hb | ⟨b, hb⟩
  · simp only [endPacket, handle_of_unbound hb]
    exact ⟨[], evolves_refl T w⟩
  · simp only [endPacket, handle_of_bound hb]
    cases s.destination with
    | none => exact ⟨[], evolves_refl T w⟩
    | some target =>
      rcases hsend : w.send T b.handle s.tx.contents target with ⟨answer, w₁⟩
      have hsent : Evolves T w [.send b.handle s.tx.contents target answer] w₁ :=
        perform_evolves hsend (.send b.handle s.tx.contents target) rfl
      simp only [hsend]
      cases answer with
      | error e => exact ⟨_, hsent⟩
      | ok count => exact ⟨_, hsent.emit rfl⟩

theorem receive_evolves (h : Handle) : ∃ cs, Evolves T w cs (s.receive T h w).2.2 := by
  rcases hreceive : w.receive T h s.rx.capacity with ⟨delivery, w₁⟩
  have hreceived : Evolves T w [.receive h s.rx.capacity delivery] w₁ :=
    perform_evolves hreceive (.receive h s.rx.capacity) rfl
  rcases receive_cases T hreceive with ⟨e, -, hs⟩ | ⟨claim, source, -, hs⟩
  · rw [hs]
    exact ⟨_, hreceived⟩
  · rw [hs]
    exact ⟨_, hreceived.emit rfl⟩

theorem parsePacket_evolves : ∃ cs, Evolves T w cs (s.parsePacket T w).2.2 := by
  rcases s.binding.eq_none_or_eq_some with hb | ⟨b, hb⟩
  · simp only [parsePacket, handle_of_unbound hb]
    exact ⟨[], evolves_refl T w⟩
  · rcases hpoll : w.poll T b.handle s.config.pollTimeout with ⟨polled, w₁⟩
    have hpolled : Evolves T w [.poll b.handle s.config.pollTimeout polled] w₁ :=
      perform_evolves hpoll (.poll b.handle s.config.pollTimeout) rfl
    rcases parsePacket_cases T hb hpoll with ⟨e, -, hs⟩ | ⟨-, hs⟩ | ⟨r, -, -, hs⟩
    · rw [hs]
      exact ⟨_, hpolled⟩
    · rw [hs]
      exact ⟨_, hpolled⟩
    · rw [hs]
      obtain ⟨cs, hreceived⟩ := receive_evolves T s w₁ b.handle
      exact ⟨_, hpolled.trans hreceived⟩

/-- Whatever a socket does, the transport takes the calls that it makes. -/
theorem perform_evolves (st : SocketStep) : ∃ cs, Evolves T w cs (s.perform T w st).2.2 := by
  cases st with
  | begin port => exact begin_evolves T s w port
  | stop => exact stop_evolves T s w
  | write bytes => exact ⟨[], write_evolves T s w bytes⟩
  | beginPacketToHost host port lookup =>
    refine ⟨[], beginPacketToHost_evolves T s w lookup.askWith host port [] ?_⟩
    unfold Lookup.askWith
    cases Ipv4.ofText? host <;> exact List.forall_mem_nil _
  | endPacket => exact endPacket_evolves T s w
  | parsePacket => exact parsePacket_evolves T s w
  | _ => exact ⟨[], evolves_refl T w⟩

end Socket

/-- The handle that a call made past every socket is made on. -/
def RawCall.handle? : RawCall → Option Handle
  | create => none
  | bind h _ | send h _ _ | receive h _ | poll h _ | close h | localPort h => some h

namespace Session

open World

variable (T : Transport σ) (ss : Session σ)

/-- A step that is none of the transport's own moves it on by the calls that it makes. -/
theorem step_evolves {st : Step} (hraw : st.isRaw = false) :
    Evolves T ss.world (ss.madeBy T st) (ss.step T st).2.world := by
  have hmade {cs : List Call} (h : Evolves T ss.world cs (ss.step T st).2.world) :
      Evolves T ss.world (ss.madeBy T st) (ss.step T st).2.world := by
    rw [madeBy_eq hraw h.calls]
    exact h
  cases st with
  | socket i op =>
    cases hs : ss.socket? i with
    | none =>
      apply @hmade []
      rw [step_socket_of_none hs]
      exact evolves_refl T ss.world
    | some s =>
      obtain ⟨cs, h⟩ := Socket.perform_evolves T s ss.world op
      apply @hmade cs
      rw [step_socket hs]
      exact h
  | drop i =>
    cases hs : ss.socket? i with
    | none =>
      apply @hmade []
      rw [step_drop_of_none hs]
      exact evolves_refl T ss.world
    | some s =>
      obtain ⟨cs, h⟩ := Socket.stop_evolves T s ss.world
      apply @hmade cs
      rw [step_drop hs]
      exact h
  | raw call => cases hraw
  | acquire table => exact hmade ((evolves_refl T ss.world).acquire (ss.tableOf table))
  | release k =>
    apply @hmade []
    cases hk : ss.heldLease? k with
    | none => rw [step_release_of_none hk]; exact evolves_refl T ss.world
    | some lease => rw [step_release hk]; exact (evolves_refl T ss.world).release lease
  | setPort k port =>
    apply @hmade []
    rcases step_setPort_cases T ss k port with hs | ⟨lease, -, hs⟩
    · rw [hs]; exact evolves_refl T ss.world
    · rw [hs]; exact (evolves_refl T ss.world).setPort lease port
  | leaseOutline k =>
    apply @hmade []
    rw [step_leaseOutline]
    exact evolves_refl T ss.world
  | construct _ | compareSlots _ _ | portOfTicket _ _ | portOfSocket _ _ | cloneTable _ | table _ =>
    exact hmade (evolves_refl T ss.world)

/-- A call made past every socket moves the transport on, and nobody warns if it fails. Asking for
the port is no call at all where the transport cannot tell it. -/
theorem raw_moves_on (call : RawCall) :
    T.localPort = none ∧ (ss.step T (.raw call)).2.world = ss.world ∨
      ∃ c es, T.Takes ss.world.transport c es (ss.step T (.raw call)).2.world.transport ∧
        (ss.step T (.raw call)).2.world.calls = ss.world.calls ++ [c] ∧
        c.handle? = call.handle? ∧
        (T.Quiet → (ss.step T (.raw call)).2.world.warnings = ss.world.warnings) := by
  have hcall {α : Type} {ask : σ → Reply σ α} {entry : α → Call}
      (htakes : T.Takes ss.world.transport (entry (ask ss.world.transport).answer)
        (ask ss.world.transport).events (ask ss.world.transport).state) :
      (ss.world.perform ask entry).2.calls =
          ss.world.calls ++ [entry (ask ss.world.transport).answer] ∧
        (T.Quiet → (ss.world.perform ask entry).2.warnings = ss.world.warnings) := by
    obtain ⟨hcalls, -, hwarnings⟩ :=
      perform_moves_on (rfl : ss.world.perform ask entry = (_, _)) htakes
    exact ⟨hcalls, hwarnings⟩
  cases call with
  | create =>
    obtain ⟨hcalls, hwarnings⟩ := hcall .create
    exact .inr ⟨_, _, .create, hcalls, rfl, hwarnings⟩
  | bind h port =>
    obtain ⟨hcalls, hwarnings⟩ := hcall (.bind h port)
    exact .inr ⟨_, _, .bind h port, hcalls, rfl, hwarnings⟩
  | send h data target =>
    obtain ⟨hcalls, hwarnings⟩ := hcall (.send h data target)
    exact .inr ⟨_, _, .send h data target, hcalls, rfl, hwarnings⟩
  | receive h out =>
    obtain ⟨hcalls, hwarnings⟩ := hcall (.receive h out.length)
    exact .inr ⟨_, _, .receive h out.length, hcalls, rfl, hwarnings⟩
  | poll h timeout =>
    obtain ⟨hcalls, hwarnings⟩ := hcall (.poll h timeout)
    exact .inr ⟨_, _, .poll h timeout, hcalls, rfl, hwarnings⟩
  | close h =>
    obtain ⟨hcalls, hwarnings⟩ := hcall (.close h)
    exact .inr ⟨_, _, .close h, hcalls, rfl, hwarnings⟩
  | localPort h =>
    simp only [step, rawCall, World.localPort]
    cases hT : T.localPort with
    | none => exact .inl ⟨rfl, rfl⟩
    | some ask =>
      obtain ⟨hcalls, hwarnings⟩ := hcall (.localPort hT h)
      exact .inr ⟨_, _, .localPort hT h, hcalls, rfl, hwarnings⟩

/-- Whatever a step does, the transport takes the calls that are written down meanwhile. -/
theorem step_replays (st : Step) :
    ∃ cs, (ss.step T st).2.world.calls = ss.world.calls ++ cs ∧
      T.Replays ss.world.transport cs (ss.step T st).2.world.transport := by
  cases hraw : st.isRaw with
  | false =>
    have hevolves := step_evolves T ss hraw
    exact ⟨_, hevolves.calls, hevolves.replays⟩
  | true =>
    cases st with
    | raw call =>
      rcases raw_moves_on T ss call with ⟨-, hworld⟩ | ⟨c, es, htakes, hcalls, -⟩
      · rw [hworld]
        exact ⟨[], (List.append_nil _).symm, .nil _⟩
      · exact ⟨[c], hcalls, htakes.replays⟩
    | _ => cases hraw

theorem run_replays (steps : List Step) :
    ∃ cs, (ss.run T steps).2.world.calls = ss.world.calls ++ cs ∧
      T.Replays ss.world.transport cs (ss.run T steps).2.world.transport := by
  induction steps generalizing ss with
  | nil => exact ⟨[], (List.append_nil _).symm, .nil _⟩
  | cons st steps ih =>
    obtain ⟨cs, hcalls, hreplays⟩ := step_replays T ss st
    obtain ⟨cs', hcalls', hreplays'⟩ := ih (ss.step T st).2
    refine ⟨cs ++ cs', ?_, hreplays.trans hreplays'⟩
    change ((ss.step T st).2.run T steps).2.world.calls = _
    rw [hcalls', hcalls, List.append_assoc]

theorem step_warnings (hquiet : T.Quiet) (st : Step) :
    (ss.step T st).2.world.warnings =
      ss.world.warnings ++ (ss.madeBy T st).filterMap Call.failedClose? := by
  cases hraw : st.isRaw with
  | false => exact (step_evolves T ss hraw).warnings hquiet
  | true =>
    cases st with
    | raw call =>
      rw [madeBy_raw, List.filterMap_nil, List.append_nil]
      rcases raw_moves_on T ss call with ⟨-, hworld⟩ | ⟨c, es, -, -, -, hwarnings⟩
      · rw [hworld]
      · exact hwarnings hquiet
    | _ => cases hraw

/-- A run warns of the closes of sockets that have failed, of each of them once. -/
theorem run_warnings (hquiet : T.Quiet) (steps : List Step) :
    (ss.run T steps).2.world.warnings =
      ss.world.warnings ++ (ss.socketCalls T steps).filterMap Call.failedClose? := by
  induction steps generalizing ss with
  | nil => exact (List.append_nil _).symm
  | cons st steps ih =>
    change ((ss.step T st).2.run T steps).2.world.warnings = _
    rw [ih, step_warnings T ss hquiet, socketCalls_cons, List.filterMap_append,
      List.append_assoc]

end Session
end Datagram
