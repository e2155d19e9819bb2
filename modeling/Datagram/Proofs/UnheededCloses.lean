import Datagram.Proofs.Rebinding

/-!
# Closing, whatever the answer

A socket reports a close that fails, and does not heed it otherwise: with any other answers to its
closes every operation gives the same answer and leaves the same session, the history apart. Binding
is the only operation that makes a close and goes on to call the transport, when a socket is bound
anew, and no operation reads the history, to which the failure has been added.
-/

namespace Datagram

variable {σ α : Type}

/-- The transport with other answers to closes, which do what they did. -/
def Transport.closingAs (T : Transport σ) (answer : Handle → σ → Result Unit) : Transport σ :=
  { T with close := fun h t => { T.close h t with answer := answer h t } }

namespace World

/-- The world without its past. -/
def forget (w : World σ) : World σ := { w with history := [] }

theorem eq_after_forget (w : World σ) : w = w.forget.after w.history := by
  rw [after, forget, List.append_nil]

theorem forget_release {w w' : World σ} (h : w'.forget = w.forget) (lease : Lease) :
    (w'.release lease).forget = (w.release lease).forget := by
  change (w'.forget.release lease).forget = (w.forget.release lease).forget
  rw [h]

end World

namespace Socket

open World

/-- Two outcomes that are the same, or the same failure in worlds with different histories. -/
inductive Unheeded : Result α × World σ → Result α × World σ → Prop
  | same (r) : Unheeded r r
  | failed (e) {w w'} (h : w'.forget = w.forget) : Unheeded (.error e, w) (.error e, w')

variable (T : Transport σ) (answer : Handle → σ → Result Unit)

theorem giveBack_unheeded (b : Binding) (w : World σ) :
    (giveBack (T.closingAs answer) b w).forget = (giveBack T b w).forget := by
  unfold giveBack
  rcases hclose : w.close T b.handle with ⟨closed, w₁⟩
  rcases hclose' : w.close (T.closingAs answer) b.handle with ⟨closed', w₁'⟩
  have hsame : w₁'.forget = w₁.forget := by
    cases hclose
    cases hclose'
    rfl
  have hreported {w₂ w₂' : World σ} (h : w₂'.forget = w₂.forget) :
      ((w₂'.emit (.stopped b.port b.lease.slot)).release b.lease).forget =
        ((w₂.emit (.stopped b.port b.lease.slot)).release b.lease).forget :=
    forget_release h b.lease
  cases closed <;> cases closed' <;> exact hreported hsame

theorem bindHandle_unheeded (h : Handle) (port : UInt16) (w : World σ) :
    Unheeded (bindHandle T h port w) (bindHandle (T.closingAs answer) h port w) := by
  have hbind : w.bind (T.closingAs answer) h port = w.bind T h port := rfl
  unfold bindHandle
  rw [hbind]
  rcases w.bind T h port with ⟨bound, w₁⟩
  cases bound with
  | ok _ => exact .same _
  | error e =>
    rcases hclose : w₁.close T h with ⟨closed, w₂⟩
    rcases hclose' : w₁.close (T.closingAs answer) h with ⟨closed', w₂'⟩
    have hsame : w₂'.forget = w₂.forget := by
      cases hclose
      cases hclose'
      rfl
    simp only [hclose, hclose']
    cases closed <;> cases closed' <;> exact .failed e hsame

theorem openHandle_unheeded (lease : Lease) (port : UInt16) (w : World σ) :
    Unheeded (openHandle T lease port w) (openHandle (T.closingAs answer) lease port w) := by
  have hcreate : w.create (T.closingAs answer) = w.create T := rfl
  unfold openHandle
  rw [hcreate]
  rcases w.create T with ⟨created, w₁⟩
  cases created with
  | error e => exact .same _
  | ok h =>
    have hbound := bindHandle_unheeded T answer h port w₁
    dsimp only
    generalize bindHandle T h port w₁ = r,
      bindHandle (T.closingAs answer) h port w₁ = r' at hbound ⊢
    cases hbound with
    | same => exact .same _
    | failed e hw => exact .failed e hw

theorem acquireBinding_unheeded (table : Nat) (port : UInt16) (w : World σ) :
    Unheeded (acquireBinding T table port w)
      (acquireBinding (T.closingAs answer) table port w) := by
  unfold acquireBinding
  rcases w.acquire table with ⟨acquired, w₁⟩
  cases acquired with
  | error e => exact .same _
  | ok lease =>
    have hopened := openHandle_unheeded T answer lease port w₁
    dsimp only
    generalize openHandle T lease port w₁ = r,
      openHandle (T.closingAs answer) lease port w₁ = r' at hopened ⊢
    cases hopened with
    | same => exact .same _
    | failed e hw => exact .failed e (forget_release hw lease)

/-- Outcomes of operations that agree but for the history. -/
def Agree (r r' : α × Socket × World σ) : Prop :=
  r'.1 = r.1 ∧ r'.2.1 = r.2.1 ∧ r'.2.2.forget = r.2.2.forget

theorem beginUnbound_unheeded (port : UInt16) (s : Socket) {w w' : World σ}
    (hw : w'.forget = w.forget) :
    Agree (beginUnbound T port s w) (beginUnbound (T.closingAs answer) port s w') := by
  have hopened := acquireBinding_unheeded T answer s.table port w.forget
  rw [eq_after_forget w, eq_after_forget w', hw]
  unfold beginUnbound
  rw [acquireBinding_after, acquireBinding_after]
  generalize acquireBinding T s.table port w.forget = r,
    acquireBinding (T.closingAs answer) s.table port w.forget = r' at hopened ⊢
  cases hopened with
  | same =>
    rcases r with ⟨opened, w₁⟩
    cases opened <;> exact ⟨rfl, rfl, rfl⟩
  | failed e hw => exact ⟨rfl, rfl, hw⟩

theorem stop_unheeded (s : Socket) (w : World σ) :
    (s.stop (T.closingAs answer) w).2.forget = (s.stop T w).2.forget := by
  rcases s.binding.eq_none_or_eq_some with hb | ⟨b, hb⟩
  · rw [stop_of_unbound T hb, stop_of_unbound (T.closingAs answer) hb]
  · rw [stop_of_bound T hb, stop_of_bound (T.closingAs answer) hb]
    exact giveBack_unheeded T answer b w

theorem begin_unheeded (port : UInt16) (s : Socket) (w : World σ) :
    Agree (s.begin T port w) (s.begin (T.closingAs answer) port w) := by
  rcases s.binding.eq_none_or_eq_some with hb | ⟨b, hb⟩
  · simp only [begin, hb]
    exact beginUnbound_unheeded T answer port s rfl
  · simp only [begin, stop, hb]
    exact beginUnbound_unheeded T answer port s.released (giveBack_unheeded T answer b _)

theorem perform_unheeded (s : Socket) (w : World σ) (st : SocketStep) :
    Agree (s.perform T w st) (s.perform (T.closingAs answer) w st) := by
  cases st with
  | begin port =>
    obtain ⟨hanswer, hsocket, hworld⟩ := begin_unheeded T answer port s w
    exact ⟨congrArg Answer.unit hanswer, hsocket, hworld⟩
  | stop =>
    refine ⟨rfl, ?_, stop_unheeded T answer s w⟩
    change (s.stop (T.closingAs answer) w).1 = (s.stop T w).1
    rw [stop_released, stop_released]
  | _ => exact ⟨rfl, rfl, rfl⟩

end Socket

namespace Session

/-- The session without the past of its world. -/
def forget (ss : Session σ) : Session σ := { ss with world := ss.world.forget }

/-- No step of a session depends on whether a close of a socket fails. -/
theorem step_unheeded (T : Transport σ) (answer : Handle → σ → Result Unit) (ss : Session σ)
    {st : Step} (hraw : st.isRaw = false) :
    (ss.step (T.closingAs answer) st).1 = (ss.step T st).1 ∧
      (ss.step (T.closingAs answer) st).2.forget = (ss.step T st).2.forget := by
  cases st with
  | raw call => cases hraw
  | socket i op =>
    cases hs : ss.socket? i with
    | none => simp only [step, hs, and_self]
    | some s =>
      obtain ⟨hanswer, hsocket, hworld⟩ := Socket.perform_unheeded T answer s ss.world op
      rw [step_answer hs, step_answer hs, step_socket hs, step_socket hs, forget, forget, hsocket,
        hworld]
      exact ⟨hanswer, rfl⟩
  | drop i =>
    cases hs : ss.socket? i with
    | none => simp only [step, hs, and_self]
    | some s =>
      have hworld := Socket.stop_unheeded T answer s ss.world
      simp only [step, hs, forget, hworld, and_self]
  | _ => exact ⟨rfl, rfl⟩

end Session
end Datagram
