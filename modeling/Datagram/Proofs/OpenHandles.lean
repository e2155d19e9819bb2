import Datagram.Proofs.Evolution

/-!
# Open handles

Creating opens a handle and closing it successfully takes it away; no other call changes which
handles are open. For a transport that keeps to this, an `OpenView` shows the handles that are open
in each of its states, and calls taken one after the other change them as the calls say.
-/

namespace Datagram

variable {σ : Type}

/-- The open handles after a call. -/
def Call.openAfter (hs : List Handle) : Call → List Handle
  | create (.ok h) => hs ++ [h]
  | close h (.ok _) => hs.erase h
  | _ => hs

/-- The open handles of a transport, in all states that it can get to from a sane one. -/
structure Transport.OpenView (T : Transport σ) where
  Sane : σ → Prop
  handles : σ → List Handle
  takes : ∀ {t c es t'}, Sane t → T.Takes t c es t' →
    Sane t' ∧ handles t' = c.openAfter (handles t)

theorem Transport.OpenView.replays {T : Transport σ} (V : T.OpenView) {t t' : σ} {cs : List Call}
    (h : T.Replays t cs t') (hsane : V.Sane t) :
    V.Sane t' ∧ V.handles t' = cs.foldl Call.openAfter (V.handles t) := by
  induction h with
  | nil => exact ⟨hsane, rfl⟩
  | cons hc _ ih =>
    obtain ⟨hafter, htaken⟩ := V.takes hsane hc
    obtain ⟨hend, hhandles⟩ := ih hafter
    refine ⟨hend, ?_⟩
    rw [hhandles, htaken, List.foldl_cons]

theorem Transport.OpenView.sane_step {T : Transport σ} (V : T.OpenView) {ss : Session σ}
    (h : V.Sane ss.world.transport) (st : Step) : V.Sane (ss.step T st).2.world.transport := by
  obtain ⟨cs, -, hreplays⟩ := Session.step_replays T ss st
  exact (V.replays hreplays h).1

/-- Scripted transports keep to it in every state. -/
def Script.openView : Script.transport.OpenView where
  Sane _ := True
  handles s := s.openHandles
  takes {t c es t'} _ htakes := by
    refine ⟨trivial, ?_⟩
    cases htakes with
    | create =>
      change (performCreate t).state.openHandles =
        Call.openAfter t.openHandles (.create (performCreate t).answer)
      rcases hnext : next t.create with ⟨outcome, rest⟩
      simp only [performCreate, hnext]
      cases outcome with
      | answers a => cases a
      | normal | fails e => rfl
    | bind =>
      change (performBind t).state.openHandles = t.openHandles
      rcases hnext : next t.bind with ⟨outcome, rest⟩
      simp only [performBind, hnext]
      cases outcome with
      | answers a => cases a
      | normal | fails e => rfl
    | send h data =>
      change (performSend data t).state.openHandles = t.openHandles
      rcases hnext : next t.send with ⟨outcome, rest⟩
      simp only [performSend, hnext]
      cases outcome <;> rfl
    | receive h capacity =>
      change (performReceive capacity t).state.openHandles = t.openHandles
      rcases hnext : next t.receive with ⟨outcome, rest⟩
      simp only [performReceive, hnext]
      cases outcome with
      | answers a => cases a
      | fails e => rfl
      | normal =>
        unfold take
        cases t.inbound with
        | nil => rfl
        | cons item rest => cases item <;> rfl
    | poll =>
      change (performPoll t).state.openHandles = t.openHandles
      rcases hnext : next t.poll with ⟨outcome, rest⟩
      simp only [performPoll, hnext]
      cases outcome <;> rfl
    | close h =>
      change (performClose h t).state.openHandles =
        Call.openAfter t.openHandles (.close h (performClose h t).answer)
      rcases hnext : next t.close with ⟨outcome, rest⟩
      simp only [performClose, hnext]
      cases outcome with
      | answers a => cases a
      | fails e => rfl
      | normal =>
        by_cases hopen : h ∈ t.openHandles
        · simp only [hopen, if_true]
          rfl
        · simp only [hopen, if_false]
          rfl
    | localPort hask h =>
      cases hask
      change (performLocalPort t).state.openHandles = t.openHandles
      rcases hnext : next t.localPort with ⟨outcome, rest⟩
      simp only [performLocalPort, hnext]
      cases outcome <;> rfl

theorem Script.openView_handles (s : Script) : openView.handles s = s.openHandles := rfl

end Datagram
