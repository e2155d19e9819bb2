import Datagram.Proofs.Evolution
import Datagram.Script

/-!
# Transports with separate sides

A side of a transport is separate when leaving all other calls out of its traffic changes none of
the answers to the calls of this side. That is so when the calls of the side depend on a part of the
transport's state which the other calls leave alone. Scripted transports have such a part for
sending, the outcomes told for it, and one for receiving.
-/

namespace Datagram

variable {σ α : Type}

namespace Transport

variable {T : Transport σ} {t t₁ t₂ u : σ} {c : Call} {cs : List Call} {es es' : List Event}
  {side : Side}

/-- A call with its answer tells what becomes of the transport. -/
theorem Takes.state_unique (h : T.Takes t c es t₁) (h' : T.Takes t c es' t₂) : t₁ = t₂ := by
  cases h with
  | @localPort ask hask k =>
    generalize hc : Call.localPort k (ask k t).answer = c at h'
    cases h' with
    | localPort hask' =>
      obtain rfl := Option.some.inj (hask.symm.trans hask')
      obtain ⟨rfl, -⟩ := Call.localPort.inj hc
      rfl
    | _ => cases hc
  | _ => cases h'; rfl

theorem Takes.send_answer {k : Handle} {data : Bytes} {target : Endpoint} {a : Result Nat}
    (h : T.Takes t (.send k data target a) es t₁) : (T.send k data target t).answer = a := by
  cases h
  rfl

theorem Takes.receive_answer {k : Handle} {capacity : Nat} {a : Delivery}
    (h : T.Takes t (.receive k capacity a) es t₁) : (T.receive k capacity t).answer = a := by
  cases h
  rfl

theorem Takes.poll_answer {k : Handle} {timeout : Duration} {a : Result Readiness}
    (h : T.Takes t (.poll k timeout a) es t₁) : (T.poll k timeout t).answer = a := by
  cases h
  rfl

theorem Replays.unique (h : T.Replays t cs t₁) (h' : T.Replays t cs t₂) : t₁ = t₂ := by
  induction h with
  | nil => exact h'.eq_of_nil.symm
  | cons hc _ ih =>
    cases h' with
    | cons hc' h' =>
      obtain rfl := hc.state_unique hc'
      exact ih h'

/-- Whatever traffic there is, the calls of the side alone would have been answered as they were. -/
def Separate (T : Transport σ) (side : Side) (t : σ) : Prop :=
  ∀ cs t', (∀ c ∈ cs, c.isTraffic = true) → T.Replays t cs t' →
    ∃ t₁, T.Replays t (cs.filter fun c => c.side = side) t₁

/-- The part of the state on which the answers to the calls of a side depend. -/
structure SideView (T : Transport σ) (side : Side) (α : Type) where
  view : σ → α
  own : ∀ {t u c es t'}, c.side = side → view t = view u → T.Takes t c es t' →
    ∃ es' u', T.Takes u c es' u' ∧ view t' = view u'
  other : ∀ {t c es t'}, c.isTraffic = true → c.side ≠ side → T.Takes t c es t' →
    view t' = view t

theorem SideView.replays (V : T.SideView side α) (htraffic : ∀ c ∈ cs, c.isTraffic = true)
    (h : T.Replays t cs t₁) (hview : V.view t = V.view u) :
    ∃ u₁, T.Replays u (cs.filter fun c => c.side = side) u₁ ∧ V.view t₁ = V.view u₁ := by
  induction h generalizing u with
  | nil => exact ⟨u, .nil u, hview⟩
  | @cons t c es t₁ cs t₂ hc _ ih =>
    have hrest : ∀ c ∈ cs, c.isTraffic = true := fun c hmem =>
      htraffic c (List.mem_cons_of_mem _ hmem)
    by_cases hside : c.side = side
    · obtain ⟨es', u₁, hown, hnext⟩ := V.own hside hview hc
      obtain ⟨u₂, hreplays, hlast⟩ := ih hrest hnext
      refine ⟨u₂, ?_, hlast⟩
      rw [List.filter_cons_of_pos (by simpa using hside)]
      exact .cons hown hreplays
    · have hkept := V.other (htraffic c (List.mem_cons_self ..)) hside hc
      rw [List.filter_cons_of_neg (by simpa using hside)]
      exact ih hrest (hkept.trans hview)

theorem SideView.separate (V : T.SideView side α) (t : σ) : T.Separate side t := by
  intro cs t' htraffic h
  obtain ⟨t₁, hreplays, -⟩ := V.replays htraffic h rfl
  exact ⟨t₁, hreplays⟩

end Transport

namespace Script

variable {s s' : Script}

theorem performSend_congr (h : s.send = s'.send) (data : Bytes) :
    (performSend data s).answer = (performSend data s').answer ∧
      (performSend data s).state.send = (performSend data s').state.send := by
  simp only [performSend, h]
  rcases next s'.send with ⟨outcome, rest⟩
  cases outcome <;> exact ⟨rfl, rfl⟩

/-- What receiving depends on. -/
def incoming (s : Script) : List Inbound × List (Outcome Empty) × List (Outcome Readiness) :=
  (s.inbound, s.receive, s.poll)

theorem take_congr (h : s.incoming = s'.incoming) (capacity : Nat) :
    (s.take capacity).answer = (s'.take capacity).answer ∧
      (s.take capacity).state.incoming = (s'.take capacity).state.incoming := by
  simp only [incoming, Prod.mk.injEq] at h
  obtain ⟨hinbound, hreceive, hpoll⟩ := h
  simp only [take, hinbound]
  cases s'.inbound with
  | nil => simp only [incoming, hinbound, hreceive, hpoll, and_self]
  | cons item rest => cases item <;> simp only [incoming, hreceive, hpoll, and_self]

theorem performReceive_congr (h : s.incoming = s'.incoming) (capacity : Nat) :
    (performReceive capacity s).answer = (performReceive capacity s').answer ∧
      (performReceive capacity s).state.incoming = (performReceive capacity s').state.incoming := by
  simp only [incoming, Prod.mk.injEq] at h
  obtain ⟨hinbound, hreceive, hpoll⟩ := h
  simp only [performReceive, hreceive]
  rcases next s'.receive with ⟨outcome, rest⟩
  have hleft : ({ s with receive := rest } : Script).incoming =
      ({ s' with receive := rest } : Script).incoming := by
    simp only [incoming, hinbound, hpoll]
  cases outcome with
  | normal => exact take_congr hleft capacity
  | fails e => exact ⟨rfl, hleft⟩
  | answers a => cases a

theorem performPoll_congr (h : s.incoming = s'.incoming) :
    (performPoll s).answer = (performPoll s').answer ∧
      (performPoll s).state.incoming = (performPoll s').state.incoming := by
  simp only [incoming, Prod.mk.injEq] at h
  obtain ⟨hinbound, hreceive, hpoll⟩ := h
  simp only [performPoll, hpoll]
  rcases next s'.poll with ⟨outcome, rest⟩
  cases outcome <;> simp only [incoming, readiness, hinbound, hreceive, and_self]

theorem performReceive_send (s : Script) (capacity : Nat) :
    (performReceive capacity s).state.send = s.send := by
  rcases hnext : next s.receive with ⟨outcome, rest⟩
  simp only [performReceive, hnext]
  cases outcome with
  | fails e => rfl
  | answers a => cases a
  | normal =>
    unfold take
    cases s.inbound with
    | nil => rfl
    | cons item rest => cases item <;> rfl

theorem performPoll_send (s : Script) : (performPoll s).state.send = s.send := by
  rcases hnext : next s.poll with ⟨outcome, rest⟩
  simp only [performPoll, hnext]
  cases outcome <;> rfl

theorem performSend_incoming (s : Script) (data : Bytes) :
    (performSend data s).state.incoming = s.incoming := by
  rcases hnext : next s.send with ⟨outcome, rest⟩
  simp only [performSend, hnext]
  cases outcome <;> rfl

def sendingView : transport.SideView .sending (List (Outcome Nat)) where
  view := Script.send
  own {t u} _ _ _ hside hview hc := by
    cases hc with
    | send h data target =>
      obtain ⟨hanswer, hnext⟩ := performSend_congr hview data
      have htakes : transport.Takes u (.send h data target (performSend data u).answer) _ _ :=
        .send h data target
      rw [← hanswer] at htakes
      exact ⟨_, _, htakes, hnext⟩
    | _ => cases hside
  other {t} _ _ _ htraffic hside hc := by
    cases hc with
    | send => exact absurd rfl hside
    | receive h capacity => exact performReceive_send t capacity
    | poll => exact performPoll_send t
    | _ => cases htraffic

def receivingView :
    transport.SideView .receiving
      (List Inbound × List (Outcome Empty) × List (Outcome Readiness)) where
  view := incoming
  own {t u} _ _ _ hside hview hc := by
    cases hc with
    | receive h capacity =>
      obtain ⟨hanswer, hnext⟩ := performReceive_congr hview capacity
      have htakes :
          transport.Takes u (.receive h capacity (performReceive capacity u).answer) _ _ :=
        .receive h capacity
      rw [← hanswer] at htakes
      exact ⟨_, _, htakes, hnext⟩
    | poll h timeout =>
      obtain ⟨hanswer, hnext⟩ := performPoll_congr hview
      have htakes : transport.Takes u (.poll h timeout (performPoll u).answer) _ _ :=
        .poll h timeout
      rw [← hanswer] at htakes
      exact ⟨_, _, htakes, hnext⟩
    | _ => cases hside
  other {t} _ _ _ htraffic hside hc := by
    cases hc with
    | send h data => exact performSend_incoming t data
    | receive | poll => exact absurd rfl hside
    | _ => cases htraffic

end Script
end Datagram
