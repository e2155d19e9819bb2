import Datagram.Proofs.Calls

/-!
# Conversations about a handle

The calls about one handle, its creation included, are a conversation: nothing at all; a bind that
was refused and the close after it; or a bind, the question for the port, and traffic, up to one
close with which the conversation ends. `Move` lists the ways in which a socket talks about the
handle that it holds, and `Ledger` says of a log of calls that all its conversations are such, where
those that are still going on are about the handles that are held. Every move keeps the ledger, as
long as no handle is created twice.
-/

namespace Datagram

variable {σ : Type}

namespace Call

/-- A call is about the handle that it is made on, or that it has created. -/
def concerns (h : Handle) (c : Call) : Bool := c.handle? = some h ∨ c.created? = some h

theorem concerns_unique {h k : Handle} {c : Call} (hh : c.concerns h = true)
    (hk : c.concerns k = true) : k = h := by
  simp only [concerns, decide_eq_true_eq] at hh hk
  cases c with
  | create answer =>
    cases answer with
    | ok j =>
      simp only [handle?, created?, reduceCtorEq, false_or, Option.some.injEq] at hh hk
      rw [← hh, ← hk]
    | error e => simp [handle?, created?] at hh
  | bind | send | receive | poll | close | localPort =>
    simp only [handle?, created?, reduceCtorEq, or_false, Option.some.injEq] at hh hk
    rw [← hh, ← hk]

theorem filter_concerns {h : Handle} {cs : List Call} (hcs : ∀ c ∈ cs, c.concerns h = true)
    (k : Handle) : cs.filter (concerns k) = if k = h then cs else [] := by
  by_cases hk : k = h
  · rw [if_pos hk, List.filter_eq_self, hk]
    exact hcs
  · rw [if_neg hk, List.filter_eq_nil_iff]
    intro c hc hck
    exact hk (concerns_unique (hcs c hc) hck)

theorem concerns_of_handle? {h : Handle} {c : Call} (hh : c.handle? = some h) :
    c.concerns h = true := by
  rw [concerns, hh]
  simp

theorem concerns_of_closes {h : Handle} {c : Call} (hc : c.closes h = true) :
    c.concerns h = true := by
  cases c with
  | close k answer =>
    apply concerns_of_handle?
    simpa [closes, handle?] using hc
  | _ => cases hc

end Call

theorem Transport.portQuery_concerns (T : Transport σ) (h : Handle) (answer : Option UInt16) :
    ∀ c ∈ T.portQuery h answer, c.concerns h = true ∧ c.closes h = false := by
  intro c hc
  obtain rfl := eq_of_mem_portQuery hc
  exact ⟨Call.concerns_of_handle? rfl, rfl⟩

inductive Phase where
  | unused
  | refused
  | bound
  | closed
deriving DecidableEq

variable (T : Transport σ)

/-- The calls about a handle, in order, and how far they have come. -/
inductive Conversation (h : Handle) : Phase → List Call → Prop
  | unused : Conversation h .unused []
  | refused {port e answer} : Conversation h .refused
      [.create (.ok h), .bind h port (.error e), .close h answer]
  | bound {port reported traffic} (ht : ∀ c ∈ traffic, c.isTraffic = true) :
      Conversation h .bound
        (.create (.ok h) :: .bind h port (.ok ()) :: (T.portQuery h reported ++ traffic))
  | closed {port reported traffic answer} (ht : ∀ c ∈ traffic, c.isTraffic = true) :
      Conversation h .closed (.create (.ok h) :: .bind h port (.ok ()) ::
        (T.portQuery h reported ++ traffic ++ [.close h answer]))

namespace Conversation

variable {T} {h : Handle} {phase : Phase} {cs : List Call}

theorem snoc_traffic (hc : Conversation T h .bound cs) {c : Call} (ht : c.isTraffic = true) :
    Conversation T h .bound (cs ++ [c]) := by
  cases hc with
  | @bound port reported traffic htraffic =>
    rw [List.cons_append, List.cons_append, List.append_assoc]
    apply Conversation.bound
    intro d hd
    rcases List.mem_append.1 hd with hd | hd
    · exact htraffic d hd
    · rw [List.mem_singleton.1 hd]
      exact ht

theorem snoc_close (hc : Conversation T h .bound cs) (answer : Result Unit) :
    Conversation T h .closed (cs ++ [.close h answer]) := by
  cases hc with
  | bound htraffic => exact .closed htraffic

/-- Nothing is said about a handle that was not created. -/
theorem eq_unused (hc : Conversation T h phase cs) (hnew : Call.create (.ok h) ∉ cs) :
    phase = .unused ∧ cs = [] := by
  cases hc with
  | unused => exact ⟨rfl, rfl⟩
  | refused | bound | closed => exact absurd (List.mem_cons_self ..) hnew

/-- A conversation has one close or none, and none while it goes on. -/
theorem countP_closes (hc : Conversation T h phase cs) :
    cs.countP (Call.closes h) ≤ 1 ∧ (phase = .bound → cs.countP (Call.closes h) = 0) := by
  have hopen {port reported} {traffic : List Call} (ht : ∀ c ∈ traffic, c.isTraffic = true) :
      (Call.create (.ok h) :: .bind h port (.ok ()) ::
        (T.portQuery h reported ++ traffic)).countP (Call.closes h) = 0 := by
    rw [List.countP_eq_zero]
    intro c hc
    rcases List.mem_cons.1 hc with rfl | hc
    · exact Bool.false_ne_true
    rcases List.mem_cons.1 hc with rfl | hc
    · exact Bool.false_ne_true
    rcases List.mem_append.1 hc with hc | hc
    · rw [(T.portQuery_concerns h reported c hc).2]
      exact Bool.false_ne_true
    · have htraffic := ht c hc
      cases c with
      | close => cases htraffic
      | _ => exact Bool.false_ne_true
  cases hc with
  | unused => exact ⟨Nat.zero_le 1, fun _ => rfl⟩
  | refused => exact ⟨by simp [Call.closes], nofun⟩
  | bound ht => exact ⟨by rw [hopen ht]; exact Nat.zero_le 1, fun _ => hopen ht⟩
  | closed ht =>
    refine ⟨?_, nofun⟩
    rw [← List.cons_append, ← List.cons_append, List.countP_append, hopen ht, Nat.zero_add]
    exact List.countP_le_length

end Conversation

/-- What a socket says in one go, with the handle it holds before and after. -/
inductive Move : Option Handle → List Call → Option Handle → Prop
  | traffic {h c} (ht : c.isTraffic = true) (hh : c.handle? = some h) : Move (some h) [c] (some h)
  | close {h answer} : Move (some h) [.close h answer] none
  | createFailed {e} : Move none [.create (.error e)] none
  | refused {h port e answer} :
      Move none [.create (.ok h), .bind h port (.error e), .close h answer] none
  | opened {h port reported} :
      Move none (.create (.ok h) :: .bind h port (.ok ()) :: T.portQuery h reported) (some h)

/-- Moves one after the other. -/
inductive Moves : Option Handle → List Call → Option Handle → Prop
  | refl (x) : Moves x [] x
  | tail {x cs y cs' z} (h : Moves x cs y) (hm : Move T y cs' z) : Moves x (cs ++ cs') z

/-- The log consists of conversations, and those about the held handles are the ones going on. -/
structure Ledger (held : List Handle) (log : List Call) : Prop where
  nodup : held.Nodup
  conversations : ∀ h, ∃ phase, Conversation T h phase (log.filter (Call.concerns h)) ∧
    (phase = .bound ↔ h ∈ held)

variable {T}

theorem Move.moves {x y : Option Handle} {cs : List Call} (h : Move T x cs y) : Moves T x cs y :=
  Moves.tail (.refl x) h

theorem Moves.trans {x y z : Option Handle} {cs cs' : List Call} (h : Moves T x cs y)
    (h' : Moves T y cs' z) : Moves T x (cs ++ cs') z := by
  induction h' with
  | refl => rw [List.append_nil]; exact h
  | tail _ hm ih => rw [← List.append_assoc]; exact ih.tail hm

theorem ledger_nil : Ledger T [] [] where
  nodup := List.nodup_nil
  conversations _ := ⟨.unused, .unused, by simp⟩

namespace Ledger

variable {held held' : List Handle} {log cs : List Call}

theorem perm (hl : Ledger T held log) (hp : held.Perm held') : Ledger T held' log where
  nodup := hp.nodup_iff.1 hl.nodup
  conversations h := by
    obtain ⟨phase, hc, hheld⟩ := hl.conversations h
    exact ⟨phase, hc, hheld.trans hp.mem_iff⟩

/-- A handle is closed at most once, and not while it is held. -/
theorem countP_closes (hl : Ledger T held log) (h : Handle) :
    log.countP (Call.closes h) ≤ 1 ∧ (h ∈ held → log.countP (Call.closes h) = 0) := by
  obtain ⟨phase, hc, hheld⟩ := hl.conversations h
  have hfilter : log.countP (Call.closes h) =
      (log.filter (Call.concerns h)).countP (Call.closes h) := by
    rw [List.countP_filter]
    apply List.countP_congr
    intro c _
    rw [Bool.and_eq_true]
    exact ⟨fun hcloses => ⟨hcloses, Call.concerns_of_closes hcloses⟩, fun hcloses => hcloses.1⟩
  rw [hfilter]
  exact ⟨hc.countP_closes.1, fun hmem => hc.countP_closes.2 (hheld.2 hmem)⟩

/-- Calls about one handle leave all other conversations alone. -/
theorem snoc_about (hl : Ledger T held log) {h : Handle} (hcs : ∀ c ∈ cs, c.concerns h = true)
    (hnodup : held'.Nodup) (hothers : ∀ k, k ≠ h → (k ∈ held' ↔ k ∈ held)) {p : Phase}
    (hc : Conversation T h p (log.filter (Call.concerns h) ++ cs))
    (hp : p = .bound ↔ h ∈ held') : Ledger T held' (log ++ cs) where
  nodup := hnodup
  conversations k := by
    rw [List.filter_append, Call.filter_concerns hcs]
    by_cases hk : k = h
    · subst k
      rw [if_pos rfl]
      exact ⟨p, hc, hp⟩
    · rw [if_neg hk, List.append_nil]
      obtain ⟨other, hother, hheld⟩ := hl.conversations k
      exact ⟨other, hother, hheld.trans (hothers k hk).symm⟩

theorem unused_of_fresh (hl : Ledger T held log) {h : Handle}
    (hfresh : ((log ++ Call.create (.ok h) :: cs).filterMap Call.created?).Nodup) :
    log.filter (Call.concerns h) = [] ∧ h ∉ held := by
  obtain ⟨phase, hc, hheld⟩ := hl.conversations h
  have hnew : Call.create (.ok h) ∉ log.filter (Call.concerns h) := by
    intro hmem
    rw [List.filterMap_append] at hfresh
    have hbefore : h ∈ log.filterMap Call.created? :=
      List.mem_filterMap.2 ⟨_, (List.mem_filter.1 hmem).1, rfl⟩
    have hafter : h ∈ (Call.create (.ok h) :: cs).filterMap Call.created? :=
      List.mem_filterMap.2 ⟨_, List.mem_cons_self .., rfl⟩
    exact (List.nodup_append.1 hfresh).2.2 h hbefore h hafter rfl
  obtain ⟨rfl, hnil⟩ := hc.eq_unused hnew
  refine ⟨hnil, ?_⟩
  intro hmem
  cases hheld.2 hmem

theorem move {x y : Option Handle} {rest : List Handle} (hl : Ledger T (x.toList ++ rest) log)
    (hm : Move T x cs y) (hfresh : ((log ++ cs).filterMap Call.created?).Nodup) :
    Ledger T (y.toList ++ rest) (log ++ cs) := by
  cases hm with
  | @traffic h c ht hh =>
    obtain ⟨phase, hc, hheld⟩ := hl.conversations h
    obtain rfl : phase = .bound := hheld.2 (List.mem_cons_self ..)
    apply hl.snoc_about (h := h) _ hl.nodup (fun _ _ => Iff.rfl) (hc.snoc_traffic ht) hheld
    intro d hd
    rw [List.mem_singleton.1 hd]
    exact Call.concerns_of_handle? hh
  | @close h answer =>
    obtain ⟨phase, hc, hheld⟩ := hl.conversations h
    obtain rfl : phase = .bound := hheld.2 (List.mem_cons_self ..)
    obtain ⟨hgone, hrest⟩ := List.nodup_cons.1 hl.nodup
    apply hl.snoc_about (h := h) _ hrest _ (hc.snoc_close answer)
    · exact ⟨nofun, fun hmem => absurd hmem hgone⟩
    · intro d hd
      rw [List.mem_singleton.1 hd]
      exact Call.concerns_of_handle? rfl
    · intro k hk
      simp [hk]
  | @createFailed e =>
    refine ⟨hl.nodup, ?_⟩
    intro h
    rw [List.filter_append]
    have hnone : [Call.create (.error e)].filter (Call.concerns h) = [] := by
      simp [Call.concerns, Call.handle?, Call.created?]
    rw [hnone, List.append_nil]
    exact hl.conversations h
  | @refused h port e answer =>
    obtain ⟨hnil, hnew⟩ := hl.unused_of_fresh hfresh
    apply hl.snoc_about (h := h) _ hl.nodup (fun _ _ => Iff.rfl) (p := .refused)
    · rw [hnil]
      exact .refused
    · exact ⟨nofun, fun hmem => absurd hmem hnew⟩
    · simp [Call.concerns, Call.handle?, Call.created?]
  | @opened h port reported =>
    obtain ⟨hnil, hnew⟩ := hl.unused_of_fresh hfresh
    apply hl.snoc_about (h := h) _ (List.nodup_cons.2 ⟨hnew, hl.nodup⟩) (p := .bound)
    · intro k hk
      simp [hk]
    · rw [hnil, List.nil_append, ← List.append_nil (T.portQuery h reported)]
      exact .bound (by simp)
    · simp
    · intro c hc
      rcases List.mem_cons.1 hc with rfl | hc
      · simp [Call.concerns, Call.created?]
      rcases List.mem_cons.1 hc with rfl | hc
      · exact Call.concerns_of_handle? rfl
      · exact (T.portQuery_concerns h reported c hc).1

theorem moves {x y : Option Handle} {rest : List Handle} (hl : Ledger T (x.toList ++ rest) log)
    (hm : Moves T x cs y) (hfresh : ((log ++ cs).filterMap Call.created?).Nodup) :
    Ledger T (y.toList ++ rest) (log ++ cs) := by
  induction hm with
  | refl =>
    rw [List.append_nil]
    exact hl
  | tail _ hm ih =>
    rw [← List.append_assoc] at hfresh ⊢
    have hbefore := List.Nodup.sublist ((List.sublist_append_left ..).filterMap _) hfresh
    exact (ih hbefore).move hm hfresh

end Ledger
end Datagram
