import Datagram.Proofs.Calls
import Datagram.Proofs.SlotMarks
import Datagram.Session

/-!
# What the operations of a socket come to

An operation that calls the transport is described by the ways in which it can end: its answer, the
socket afterwards, the calls it made and the slot tables it leaves. `Opening` describes taking a
slot and a bound handle, `Sending` and `Parsing` describe sending and receiving a packet, and
giving a binding back is one close followed by the release of its lease. All other operations make
no call and leave binding and tables as they are.
-/

namespace Datagram

variable {σ : Type}

namespace Socket

/-- How acquiring a binding ends. On failure the slot has been taken and released again. -/
inductive Opening (T : Transport σ) (table : Nat) (port : UInt16) (w : World σ) :
    Result Binding → List SlotTable → List Call → Prop
  | noSlot {e} (hfull : (w.table table).acquire = .error e) : Opening T table port w
      (.error e) w.tables []
  | createFailed {slot t e} (hslot : (w.table table).acquire = .ok (slot, t)) :
      Opening T table port w (.error e) ((w.setTable table t).release ⟨table, slot⟩).tables
        [.create (.error e)]
  | bindFailed {slot t h e closed} (hslot : (w.table table).acquire = .ok (slot, t)) :
      Opening T table port w (.error e) ((w.setTable table t).release ⟨table, slot⟩).tables
        [.create (.ok h), .bind h port (.error e), .close h closed]
  | bound {slot t h reported} (hslot : (w.table table).acquire = .ok (slot, t)) :
      Opening T table port w (.ok ⟨h, reported.getD port, ⟨table, slot⟩⟩)
        ((w.setTable table t).setPort ⟨table, slot⟩ (reported.getD port)).tables
        (.create (.ok h) :: .bind h port (.ok ()) :: T.portQuery h reported)

/-- How sending the pending packet ends. -/
inductive Sending (s : Socket) : Result Nat → Socket → List Call → Prop
  | notBound (hb : s.binding = none) : Sending s (.error .notBound) s []
  | noDestination {b} (hb : s.binding = some b) (hd : s.destination = none) :
      Sending s (.error .noDestination) s []
  | failed {b target e} (hb : s.binding = some b) (hd : s.destination = some target) :
      Sending s (.error e) s [.send b.handle s.tx.contents target (.error e)]
  | sent {b target count} (hb : s.binding = some b) (hd : s.destination = some target) :
      Sending s (.ok count) { s with tx := s.tx.clear }
        [.send b.handle s.tx.contents target (.ok count)]

/-- How polling for a packet and receiving it ends. -/
inductive Parsing (s : Socket) : Result Nat → Socket → List Call → Prop
  | notBound (hb : s.binding = none) : Parsing s (.error .notBound) s []
  | pollFailed {b e} (hb : s.binding = some b) :
      Parsing s (.error e) s [.poll b.handle s.config.pollTimeout (.error e)]
  | timedOut {b} (hb : s.binding = some b) :
      Parsing s (.ok 0) s [.poll b.handle s.config.pollTimeout (.ok .timedOut)]
  | receiveFailed {b r written e} (hb : s.binding = some b) (hr : r ≠ .timedOut) :
      Parsing s (.error e) { s with rx := s.rx.clear }
        [.poll b.handle s.config.pollTimeout (.ok r),
          .receive b.handle s.rx.capacity ⟨written, .error e⟩]
  | received {b r written claim source} (hb : s.binding = some b) (hr : r ≠ .timedOut) :
      Parsing s (.ok ((s.rx.fill written).load claim).available)
        { s with rx := (s.rx.fill written).load claim, remote := some source }
        [.poll b.handle s.config.pollTimeout (.ok r),
          .receive b.handle s.rx.capacity ⟨written, .ok (claim, source)⟩]

variable (T : Transport σ)

/-- Giving a binding back is one close, whatever it answers, and then the release of the lease. -/
theorem giveBack_spec (b : Binding) (w : World σ) :
    (giveBack T b w).tables = (w.release b.lease).tables ∧
      ∃ closed, (giveBack T b w).calls = w.calls ++ [.close b.handle closed] := by
  unfold giveBack
  rcases hclose : w.close T b.handle with ⟨closed, w₁⟩
  obtain ⟨htables, hcalls⟩ := World.perform_spec hclose
  cases closed with
  | ok _ =>
    refine ⟨World.tables_release_congr htables b.lease, .ok (), ?_⟩
    simp only [World.calls_release, World.calls_emit, hcalls]
  | error e =>
    refine ⟨World.tables_release_congr htables b.lease, .error e, ?_⟩
    simp only [World.calls_release, World.calls_emit, hcalls]

theorem bindHandle_spec {h : Handle} {port : UInt16} {w w' : World σ} {answer : Result Unit}
    (hbind : bindHandle T h port w = (answer, w')) :
    w'.tables = w.tables ∧
      ((answer = .ok () ∧ w'.calls = w.calls ++ [.bind h port (.ok ())]) ∨
        ∃ e closed, answer = .error e ∧
          w'.calls = w.calls ++ [.bind h port (.error e), .close h closed]) := by
  unfold bindHandle at hbind
  rcases hb : w.bind T h port with ⟨bound, w₁⟩
  obtain ⟨htables, hcalls⟩ := World.perform_spec hb
  cases bound with
  | ok _ =>
    simp only [hb, Prod.mk.injEq] at hbind
    obtain ⟨rfl, rfl⟩ := hbind
    exact ⟨htables, .inl ⟨rfl, hcalls⟩⟩
  | error e =>
    rcases hclose : w₁.close T h with ⟨closed, w₂⟩
    obtain ⟨htables₂, hcalls₂⟩ := World.perform_spec hclose
    have hcalls' : w₂.calls = w.calls ++ [.bind h port (.error e), .close h closed] := by
      rw [hcalls₂, hcalls, List.append_assoc]
      rfl
    cases closed <;>
    · simp only [hb, hclose, Prod.mk.injEq] at hbind
      obtain ⟨rfl, rfl⟩ := hbind
      exact ⟨htables₂.trans htables, .inr ⟨e, _, rfl, by simpa using hcalls'⟩⟩

theorem acquireBinding_opening {table : Nat} {port : UInt16} {w w' : World σ}
    {answer : Result Binding} (h : acquireBinding T table port w = (answer, w')) :
    ∃ cs, Opening T table port w answer w'.tables cs ∧ w'.calls = w.calls ++ cs := by
  unfold acquireBinding World.acquire at h
  cases hslot : (w.table table).acquire with
  | error e =>
    simp only [hslot, Prod.mk.injEq] at h
    obtain ⟨rfl, rfl⟩ := h
    exact ⟨[], .noSlot hslot, by simp⟩
  | ok taken =>
    obtain ⟨slot, t⟩ := taken
    simp only [hslot] at h
    rcases hcreate : ((w.setTable table t).emit (.slotAcquired slot)).create T with ⟨created, w₁⟩
    obtain ⟨htables₁, hcalls₁⟩ := World.perform_spec hcreate
    rw [World.calls_emit, World.calls_setTable] at hcalls₁
    rw [World.tables_emit] at htables₁
    cases created with
    | error e =>
      simp only [openHandle, hcreate, Prod.mk.injEq] at h
      obtain ⟨rfl, rfl⟩ := h
      rw [World.tables_release_congr htables₁]
      exact ⟨_, .createFailed hslot, by rw [World.calls_release, hcalls₁]⟩
    | ok handle =>
      rcases hbind : bindHandle T handle port w₁ with ⟨bound, w₂⟩
      obtain ⟨htables₂, hends⟩ := bindHandle_spec T hbind
      have htables := htables₂.trans htables₁
      rcases hends with ⟨rfl, hcalls₂⟩ | ⟨e, closed, rfl, hcalls₂⟩
      · rcases hask : w₂.localPort T handle with ⟨reported, w₃⟩
        obtain ⟨htables₃, hcalls₃⟩ := World.localPort_spec hask
        simp only [openHandle, hcreate, hbind, hask, Prod.mk.injEq] at h
        obtain ⟨rfl, rfl⟩ := h
        rw [World.tables_emit, World.tables_setPort_congr (htables₃.trans htables)]
        refine ⟨_, .bound hslot, ?_⟩
        rw [World.calls_emit, World.calls_setPort, hcalls₃, hcalls₂, hcalls₁]
        simp only [List.append_assoc, List.cons_append, List.nil_append]
      · simp only [openHandle, hcreate, hbind, Prod.mk.injEq] at h
        obtain ⟨rfl, rfl⟩ := h
        rw [World.tables_release_congr htables]
        refine ⟨[.create (.ok handle), .bind handle port (.error e), .close handle closed],
          .bindFailed hslot, ?_⟩
        rw [World.calls_release, hcalls₂, hcalls₁]
        simp only [List.append_assoc, List.cons_append, List.nil_append]

theorem beginUnbound_spec (port : UInt16) (s : Socket) (hb : s.binding = none) (w : World σ) :
    ∃ opened cs, Opening T s.table port w opened (beginUnbound T port s w).2.2.tables cs ∧
      (beginUnbound T port s w).2.2.calls = w.calls ++ cs ∧
      (beginUnbound T port s w).1 = opened.map (fun _ => ()) ∧
      (beginUnbound T port s w).2.1 = { s with binding := opened.toOption } := by
  rcases hopen : acquireBinding T s.table port w with ⟨opened, w'⟩
  obtain ⟨cs, hopening, hcalls⟩ := acquireBinding_opening T hopen
  unfold beginUnbound
  rw [hopen]
  cases opened with
  | ok b => exact ⟨_, cs, hopening, hcalls, rfl, rfl⟩
  | error e =>
    have hsame : s = { s with binding := none } := by rw [← hb]
    exact ⟨_, cs, hopening, hcalls, rfl, hsame⟩

variable {s : Socket}

theorem stop_of_unbound (hb : s.binding = none) (w : World σ) :
    s.stop T w = (s.released, w) := by simp only [stop, hb]

theorem stop_of_bound {b : Binding} (hb : s.binding = some b) (w : World σ) :
    s.stop T w = (s.released, giveBack T b w) := by simp only [stop, hb]

theorem stop_released (s : Socket) (w : World σ) : (s.stop T w).1 = s.released := by
  rcases s.binding.eq_none_or_eq_some with hb | ⟨b, hb⟩
  · rw [stop_of_unbound T hb]
  · rw [stop_of_bound T hb]

/-- What beginning starts from: an unbound socket as it is, and a bound one after it was stopped. -/
inductive Ready (s : Socket) (port : UInt16) (w : World σ) : Socket → World σ → Prop
  | unbound (hb : s.binding = none) : Ready s port w s w
  | stopped {b} (hb : s.binding = some b) :
      Ready s port w s.released (giveBack T b (w.emit (.rebinding b.port port)))

theorem begin_spec (port : UInt16) (s : Socket) (w : World σ) :
    ∃ base w₀ opened cs, Ready T s port w base w₀ ∧
      Opening T s.table port w₀ opened (s.begin T port w).2.2.tables cs ∧
      (s.begin T port w).2.2.calls = w₀.calls ++ cs ∧
      (s.begin T port w).1 = opened.map (fun _ => ()) ∧
      (s.begin T port w).2.1 = { base with binding := opened.toOption } := by
  rcases s.binding.eq_none_or_eq_some with hb | ⟨b, hb⟩
  · have hbegin : s.begin T port w = beginUnbound T port s w := by simp only [begin, hb]
    rw [hbegin]
    obtain ⟨opened, cs, hspec⟩ := beginUnbound_spec T port s hb w
    exact ⟨s, w, opened, cs, .unbound hb, hspec⟩
  · have hbegin : s.begin T port w =
        beginUnbound T port s.released (giveBack T b (w.emit (.rebinding b.port port))) := by
      simp only [begin, stop, hb]
    rw [hbegin]
    obtain ⟨opened, cs, hspec⟩ :=
      beginUnbound_spec T port s.released rfl (giveBack T b (w.emit (.rebinding b.port port)))
    exact ⟨s.released, _, opened, cs, .stopped hb, hspec⟩

theorem not_unbound {b : Binding} (hb : s.binding = some b) : ¬ s.binding = none := by
  rw [hb]
  exact nofun

theorem isBound_of_binding {b : Binding} (hb : s.binding = some b) : s.isBound = true := by
  rw [isBound, hb]
  rfl

theorem isBound_of_unbound (hb : s.binding = none) : s.isBound = false := by
  rw [isBound, hb]
  rfl

theorem handle_of_unbound (hb : s.binding = none) : s.handle = .error .notBound := by
  simp only [handle, hb]

theorem handle_of_bound {b : Binding} (hb : s.binding = some b) : s.handle = .ok b.handle := by
  simp only [handle, hb]

theorem endPacket_sending (s : Socket) (w : World σ) :
    ∃ cs, Sending s (s.endPacket T w).1 (s.endPacket T w).2.1 cs ∧
      (s.endPacket T w).2.2.calls = w.calls ++ cs ∧
      (s.endPacket T w).2.2.tables = w.tables := by
  cases hb : s.binding with
  | none =>
    have hend : s.endPacket T w = (.error .notBound, s, w) := by
      simp only [endPacket, handle_of_unbound hb]
    rw [hend]
    exact ⟨[], .notBound hb, (List.append_nil _).symm, rfl⟩
  | some b =>
    cases hd : s.destination with
    | none =>
      have hend : s.endPacket T w = (.error .noDestination, s, w) := by
        simp only [endPacket, handle_of_bound hb, hd]
      rw [hend]
      exact ⟨[], .noDestination hb hd, (List.append_nil _).symm, rfl⟩
    | some target =>
      rcases hsend : w.send T b.handle s.tx.contents target with ⟨answer, w₁⟩
      obtain ⟨htables, hcalls⟩ := World.perform_spec hsend
      cases answer with
      | error e =>
        have hend : s.endPacket T w = (.error e, s, w₁) := by
          simp only [endPacket, handle_of_bound hb, hd, hsend]
        rw [hend]
        exact ⟨_, .failed hb hd, hcalls, htables⟩
      | ok count =>
        have hend : s.endPacket T w =
            (.ok count, { s with tx := s.tx.clear }, w₁.emit (.sent target count)) := by
          simp only [endPacket, handle_of_bound hb, hd, hsend]
        rw [hend]
        exact ⟨_, .sent hb hd, by rw [World.calls_emit, hcalls], htables⟩

/-- Polling a bound socket decides: failing or timing out ends it, and else a packet is received. -/
theorem parsePacket_cases {s : Socket} {b : Binding} (hb : s.binding = some b) {w w₁ : World σ}
    {polled : Result Readiness}
    (hpoll : w.poll T b.handle s.config.pollTimeout = (polled, w₁)) :
    (∃ e, polled = .error e ∧ s.parsePacket T w = (.error e, s, w₁)) ∨
      (polled = .ok .timedOut ∧ s.parsePacket T w = (.ok 0, s, w₁)) ∨
      ∃ r, polled = .ok r ∧ r ≠ .timedOut ∧ s.parsePacket T w = receive T b.handle s w₁ := by
  simp only [parsePacket, handle_of_bound hb, hpoll]
  cases polled with
  | error e => exact .inl ⟨e, rfl, rfl⟩
  | ok r =>
    by_cases hr : r = .timedOut
    · subst r
      exact .inr (.inl ⟨rfl, rfl⟩)
    · have hready : r.shouldReceive = true := by simp [Readiness.shouldReceive, hr]
      exact .inr (.inr ⟨r, rfl, hr, if_pos hready⟩)

theorem receive_cases {s : Socket} {h : Handle} {w w₁ : World σ} {delivery : Delivery}
    (hreceive : w.receive T h s.rx.capacity = (delivery, w₁)) :
    (∃ e, delivery.outcome = .error e ∧
        receive T h s w = (.error e, { s with rx := s.rx.clear }, w₁)) ∨
      ∃ claim source, delivery.outcome = .ok (claim, source) ∧
        receive T h s w =
          (.ok ((s.rx.fill delivery.written).load claim).available,
            { s with rx := (s.rx.fill delivery.written).load claim, remote := some source },
            w₁.emit (.received source claim)) := by
  simp only [receive, hreceive]
  cases delivery.outcome with
  | error e =>
    have hclear : (s.rx.fill delivery.written).clear = s.rx.clear := by
      simp only [ReceiveBuffer.clear, ReceiveBuffer.capacity, ReceiveBuffer.fill,
        Bytes.length_overwrite]
    rw [hclear]
    exact .inl ⟨e, rfl, rfl⟩
  | ok loaded => exact .inr ⟨loaded.1, loaded.2, rfl, rfl⟩

theorem parsePacket_parsing (s : Socket) (w : World σ) :
    ∃ cs, Parsing s (s.parsePacket T w).1 (s.parsePacket T w).2.1 cs ∧
      (s.parsePacket T w).2.2.calls = w.calls ++ cs ∧
      (s.parsePacket T w).2.2.tables = w.tables := by
  cases hb : s.binding with
  | none =>
    have hparse : s.parsePacket T w = (.error .notBound, s, w) := by
      simp only [parsePacket, handle_of_unbound hb]
    rw [hparse]
    exact ⟨[], .notBound hb, (List.append_nil _).symm, rfl⟩
  | some b =>
    rcases hpoll : w.poll T b.handle s.config.pollTimeout with ⟨polled, w₁⟩
    obtain ⟨htables₁, hcalls₁⟩ := World.perform_spec hpoll
    rcases parsePacket_cases T hb hpoll with
      ⟨e, rfl, hparse⟩ | ⟨rfl, hparse⟩ | ⟨r, rfl, hr, hparse⟩
    · rw [hparse]
      exact ⟨_, .pollFailed hb, hcalls₁, htables₁⟩
    · rw [hparse]
      exact ⟨_, .timedOut hb, hcalls₁, htables₁⟩
    · rw [hparse]
      rcases hreceive : w₁.receive T b.handle s.rx.capacity with ⟨⟨written, outcome⟩, w₂⟩
      obtain ⟨htables₂, hcalls₂⟩ := World.perform_spec hreceive
      have htables := htables₂.trans htables₁
      rw [hcalls₁, List.append_assoc] at hcalls₂
      rcases receive_cases T hreceive with ⟨e, rfl, hs⟩ | ⟨claim, source, rfl, hs⟩
      · rw [hs]
        exact ⟨_, .receiveFailed hb hr, hcalls₂, htables⟩
      · rw [hs]
        exact ⟨_, .received hb hr, by rw [World.calls_emit, hcalls₂]; rfl, htables⟩

end Socket
end Datagram
