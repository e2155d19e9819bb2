import Datagram.Proofs.Runs

/-!
# Where a binding comes from

A socket is bound when the latest of its begins and stops is a begin that succeeded, for all other
operations leave the binding alone, and a begin that fails leaves none. The port of a binding is the
one that the transport reported when that begin asked for it, or else the one that was wanted.
-/

namespace Datagram

variable {σ : Type}

/-- The port that a call has brought. -/
def Call.reported? : Call → Option UInt16
  | localPort _ answer => answer
  | _ => none

def Turn.lifecycle? (o : Turn) : Option Turn := if o.step.side = .lifecycle then some o else none

namespace Socket

variable {T : Transport σ} {s : Socket} {w w' : World σ} {b : Binding} {port : UInt16}

theorem openHandle_port (hT : T.localPort = none) {lease : Lease}
    (hopen : openHandle T lease port w = (.ok b, w')) : b.port = port := by
  unfold openHandle at hopen
  rcases hcreate : w.create T with ⟨created, w₁⟩
  cases created with
  | error e =>
    simp only [hcreate, Prod.mk.injEq] at hopen
    cases hopen.1
  | ok k =>
    rcases hbind : bindHandle T k port w₁ with ⟨bound, w₂⟩
    cases bound with
    | error e =>
      simp only [hcreate, hbind, Prod.mk.injEq] at hopen
      cases hopen.1
    | ok _ =>
      simp only [hcreate, hbind, World.localPort, hT, Prod.mk.injEq] at hopen
      cases hopen.1
      rfl

theorem beginUnbound_port (hT : T.localPort = none) (hunbound : s.binding = none)
    (hb : (beginUnbound T port s w).2.1.binding = some b) : b.port = port := by
  unfold beginUnbound acquireBinding at hb
  rcases hslot : w.acquire s.table with ⟨acquired, w₁⟩
  cases acquired with
  | error e =>
    simp only [hslot] at hb
    exact absurd hunbound (not_unbound hb)
  | ok lease =>
    rcases hopen : openHandle T lease port w₁ with ⟨opened, w₂⟩
    cases opened with
    | error e =>
      simp only [hslot, hopen] at hb
      exact absurd hunbound (not_unbound hb)
    | ok b' =>
      simp only [hslot, hopen] at hb
      cases hb
      exact openHandle_port hT hopen

theorem begin_port (hT : T.localPort = none) (hb : (s.begin T port w).2.1.binding = some b) :
    b.port = port := by
  unfold begin at hb
  cases hbefore : s.binding with
  | none =>
    simp only [hbefore] at hb
    exact beginUnbound_port hT hbefore hb
  | some b' =>
    simp only [hbefore, stop] at hb
    exact beginUnbound_port hT rfl hb

theorem Opening.latest?_reported {table : Nat} {tables : List SlotTable} {cs : List Call}
    (h : Opening T table port w (.ok b) tables cs) (hT : T.localPort = none → b.port = port) :
    b.port = (latest? Call.reported? cs).getD port := by
  cases h with
  | @bound slot t k reported hslot =>
    cases hask : T.localPort with
    | none =>
      rw [hT hask, Transport.portQuery, hask]
      rfl
    | some ask =>
      rw [Transport.portQuery, hask]
      cases reported <;> rfl

theorem begin_bound (hb : (s.begin T port w).2.1.binding = some b) :
    (s.begin T port w).1 = .ok () ∧ ∃ cs, (s.begin T port w).2.2.calls = w.calls ++ cs ∧
      b.port = (latest? Call.reported? cs).getD port := by
  obtain ⟨base, w₀, opened, cs, hready, hopening, hcalls, hanswer, hs⟩ := begin_spec T port s w
  cases opened with
  | error e =>
    rw [hs] at hb
    cases hb
  | ok b' =>
    obtain rfl : b' = b := by
      rw [hs] at hb
      exact Option.some.inj hb
    have hport := hopening.latest?_reported fun hT => begin_port hT hb
    refine ⟨hanswer, ?_⟩
    cases hready with
    | unbound => exact ⟨cs, hcalls, hport⟩
    | @stopped old hold =>
      obtain ⟨-, closed, hclose⟩ := giveBack_spec T old (w.emit (.rebinding old.port port))
      refine ⟨.close old.handle closed :: cs, ?_, hport⟩
      rw [hcalls, hclose, World.calls_emit, List.append_assoc]
      rfl

theorem begin_ok (hanswer : (s.begin T port w).1 = .ok ()) :
    ∃ b, (s.begin T port w).2.1.binding = some b := by
  obtain ⟨base, w₀, opened, cs, -, -, -, hopened, hs⟩ := begin_spec T port s w
  rw [hanswer] at hopened
  rw [hs]
  cases opened with
  | error e => cases hopened
  | ok b => exact ⟨b, rfl⟩

end Socket

variable {T : Transport σ} {past : List Turn} {s : Socket} {b : Binding}

theorem Lives.binding_eq (h : Lives T past s) :
    s.binding = (latest? Turn.lifecycle? past).bind (·.after.binding) := by
  induction h with
  | fresh table config => rfl
  | @turn past s w st h ih =>
    rw [latest?_snoc, Turn.lifecycle?]
    change _ = ((if st.side = .lifecycle then some (Turn.of T s w st) else none).or _).bind _
    by_cases hside : st.side = .lifecycle
    · rw [if_pos hside]
      rfl
    · rw [if_neg hside, Option.none_or, ← ih, Socket.perform_binding T s w hside]

/-- The latest begin or stop is one of the turns of the socket. -/
theorem Lives.latest_turn (h : Lives T past s) {o : Turn}
    (ho : latest? Turn.lifecycle? past = some o) :
    o.step.side = .lifecycle ∧ ∃ w, o = Turn.of T o.before w o.step := by
  obtain ⟨o', hmem, ho'⟩ := List.mem_filterMap.1 (List.mem_of_getLast? ho)
  rw [Turn.lifecycle?] at ho'
  split at ho'
  · cases ho'
    obtain ⟨before, after, hsplit⟩ := List.append_of_mem hmem
    exact ⟨‹_›, (h.split hsplit).2⟩
  · cases ho'

/-- What is bound was bound by the latest begin, under the port that was reported then. -/
theorem Lives.bound_by (h : Lives T past s) (hb : s.binding = some b) :
    ∃ o port, latest? Turn.lifecycle? past = some o ∧ o.step = .begin port ∧
      o.answer = .unit (.ok ()) ∧ b.port = (latest? Call.reported? o.calls).getD port := by
  rw [h.binding_eq] at hb
  obtain ⟨o, ho, hafter⟩ := Option.bind_eq_some_iff.1 hb
  obtain ⟨hside, w, hturn⟩ := h.latest_turn ho
  cases hst : o.step with
  | begin port =>
    rw [hst] at hturn
    rw [hturn] at hafter
    have hbegun : (o.before.begin T port w).2.1.binding = some b := hafter
    obtain ⟨hanswer, cs, hcalls, hport⟩ := Socket.begin_bound hbegun
    have hmade : o.calls = cs := by
      rw [hturn]
      exact Turn.calls_of hcalls
    refine ⟨o, port, ho, hst, ?_, ?_⟩
    · rw [hturn]
      exact congrArg Answer.unit hanswer
    · rw [hmade]
      exact hport
  | stop =>
    rw [hst] at hturn
    rw [hturn] at hafter
    change (o.before.stop T w).1.binding = some b at hafter
    rw [Socket.stop_released] at hafter
    cases hafter
  | _ => rw [hst] at hside; cases hside

theorem Lives.isBound_iff (h : Lives T past s) :
    s.isBound = true ↔ ∃ o port, latest? Turn.lifecycle? past = some o ∧
      o.step = .begin port ∧ o.answer = .unit (.ok ()) := by
  constructor
  · intro hbound
    obtain ⟨b, hb⟩ := Option.isSome_iff_exists.1 hbound
    obtain ⟨o, port, ho, hst, hanswer, -⟩ := h.bound_by hb
    exact ⟨o, port, ho, hst, hanswer⟩
  · rintro ⟨o, port, ho, hst, hanswer⟩
    obtain ⟨-, w, hturn⟩ := h.latest_turn ho
    rw [hst] at hturn
    rw [hturn] at hanswer
    obtain ⟨b, hb⟩ := Socket.begin_ok (Answer.unit.inj hanswer)
    apply Socket.isBound_of_binding (b := b)
    rw [h.binding_eq, ho, Option.bind_some, hturn]
    exact hb

end Datagram
