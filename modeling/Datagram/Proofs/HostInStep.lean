import Mathlib.Data.List.Induction
import Datagram.Proofs.Handover

/-!
# Sockets and host transport in step

Sockets that share a host transport never lose touch with it. `InStep` relates the bindings of all
sockets to the table of handles: the open handles are those that sockets hold and those opened past
the sockets and not closed again, each bound socket holds its port, and no socket holds a handle
that was created past the sockets. Every step keeps this, as long as calls past the sockets are made
on handles only that were created past them.
-/

namespace Datagram

variable {σ ω : Type}

namespace Call

variable {hs hs' held : List Handle}

theorem openAfter_perm (c : Call) (h : hs.Perm hs') : (c.openAfter hs).Perm (c.openAfter hs') := by
  cases c with
  | create answer =>
    cases answer with
    | ok k => exact h.append_right [k]
    | error e => exact h
  | close k answer =>
    cases answer with
    | ok _ => exact h.erase k
    | error e => exact h
  | _ => exact h

theorem openAfter_append {c : Call} (hc : ∀ k, c.closes k = true → k ∉ held) (hs : List Handle) :
    c.openAfter (held ++ hs) = held ++ c.openAfter hs := by
  cases c with
  | create answer =>
    cases answer with
    | ok k => exact List.append_assoc ..
    | error e => rfl
  | close k answer =>
    cases answer with
    | ok _ => exact List.erase_append_right hs (hc k (decide_eq_true rfl))
    | error e => rfl
  | _ => rfl

end Call

namespace Session

variable (T : Transport σ)

def madePast (ss : Session σ) (st : Step) : List Call := ss.stepCalls T Step.isRaw st

/-- The calls that a run makes past the sockets. -/
def rawCalls (ss : Session σ) (steps : List Step) : List Call := ss.callsWhere T Step.isRaw steps

/-- The handles that a run has opened past the sockets and not closed again. -/
def rawHandles (ss : Session σ) (steps : List Step) : List Handle :=
  (ss.rawCalls T steps).foldl Call.openAfter []

/-- Calls past the sockets are made on handles only that were created past the sockets. -/
def KeepsApart (ss : Session σ) (steps : List Step) : Prop :=
  ∀ before call after h, steps = before ++ .raw call :: after → call.handle? = some h →
    h ∈ (ss.rawCalls T before).filterMap Call.created?

variable {T} {ss : Session σ} {i j : Nat} {s s' : Socket}

theorem socket?_set (hs : ss.socket? i = some s) (w : World σ) (x : Option Socket) (j : Nat) :
    ({ ss with world := w, sockets := ss.sockets.set i x } : Session σ).socket? j =
      if j = i then x else ss.socket? j :=
  join_getElem?_set (lt_length_of_socket? hs) x j

theorem gather_ne {α : Type} {f : Socket → Option α} (hnodup : (ss.gather f).Nodup) {a b : α}
    (hi : ss.socket? i = some s) (hj : ss.socket? j = some s') (hij : i ≠ j) (ha : f s = some a)
    (hb : f s' = some b) : a ≠ b := by
  obtain ⟨rest, hperm, hothers⟩ := gather_perm hi f
  have hmem : b ∈ rest := by
    have hset := hothers ss.world none
    change List.Perm _ rest at hset
    rw [← hset.mem_iff, gather, List.mem_filterMap]
    refine ⟨some s', ?_, hb⟩
    have hkept := socket?_set hi ss.world none j
    rw [if_neg (Ne.symm hij), hj] at hkept
    exact List.mem_of_getElem? (Option.join_eq_some_iff.1 hkept)
  rw [ha] at hperm
  have hnot := (List.nodup_cons.1 (hperm.nodup_iff.1 hnodup)).1
  rintro rfl
  exact hnot hmem

end Session

namespace Session

open Host

variable {O : Os ω} (L : O.Lawful) (address : Ipv4)

/-- The sockets of a session and its host transport agree about the handles, after the calls `past`
have been made past the sockets. -/
structure InStep (past : List Call) (ss : Session (Host ω)) : Prop where
  sound : Sound L ss.world.transport
  address : ss.world.transport.bindAddress = address
  handles : ss.world.transport.handles.Perm (ss.held ++ past.foldl Call.openAfter [])
  holds : ∀ i s b, ss.socket? i = some s → s.binding = some b →
    Holds L ss.world.transport b.handle b.port
  apart : ∀ h ∈ past.filterMap Call.created?,
    h ∉ ss.held ∧ h.raw.toNat < ss.world.transport.nextHandle.toNat
  warnings : ss.world.warnings = []

variable {L address} {past : List Call} {ss : Session (Host ω)} {i : Nat} {s : Socket}

namespace InStep

theorem held_nodup (h : InStep L address past ss) : ss.held.Nodup :=
  List.Nodup.sublist (List.sublist_append_left ..) (h.handles.nodup_iff.1 h.sound.nodup)

theorem mem_handles_of_held (h : InStep L address past ss) {k : Handle} (hk : k ∈ ss.held) :
    k ∈ ss.world.transport.handles := h.handles.mem_iff.2 (List.mem_append_left _ hk)

theorem ofTables {os : ω} (hvalid : L.Valid os) (tables : List SlotTable)
    (specs : List SocketSpec) :
    InStep L address [] (ofTables { bindAddress := address, os } tables specs) where
  sound := sound_empty hvalid
  address := rfl
  handles := by
    rw [held_ofTables]
    exact .rfl
  holds i s b hs hb := by
    simp only [Session.ofTables, socket?, List.getElem?_map] at hs
    cases hspec : specs[i]? with
    | none => rw [hspec] at hs; cases hs
    | some spec =>
      rw [hspec] at hs
      cases hs
      cases hb
  apart h hmem := absurd hmem List.not_mem_nil
  warnings := rfl

theorem set_socket (h : InStep L address past ss) (hs : ss.socket? i = some s)
    {w : World (Host ω)} {x : Option Socket} {cs : List Call}
    (hevolves : World.Evolves (transport O) ss.world cs w)
    (hover : Handover L s.binding (x.bind (·.binding)) ss.world.transport cs w.transport) :
    InStep L address past { ss with world := w, sockets := ss.sockets.set i x } := by
  obtain ⟨rest, hbefore, hset⟩ := gather_perm hs Socket.handle?
  have hafter := hset w x
  have hhandle : x.bind Socket.handle? = (x.bind (·.binding)).map (·.handle) := by
    cases x <;> rfl
  rw [hhandle] at hafter
  refine ⟨hover.follows.sound, hover.follows.address.trans h.address, ?_, ?_, ?_, ?_⟩
  · obtain ⟨others, hold, hnew⟩ := hover.handles
    have hothers : others.Perm (rest ++ past.foldl Call.openAfter []) := by
      rw [← List.perm_append_left_iff, ← List.append_assoc]
      exact hold.symm.trans (h.handles.trans (hbefore.append_right _))
    refine hnew.trans ((hothers.append_left _).trans ?_)
    rw [← List.append_assoc]
    exact (hafter.append_right _).symm
  · intro j s' b hs' hb
    rw [socket?_set hs] at hs'
    split at hs'
    · subst x
      exact hover.holds b hb
    · rename_i hij
      apply hover.frame (h.holds j s' b hs' hb)
      intro b₀ hb₀
      apply gather_ne h.held_nodup hs hs' (Ne.symm hij)
      · rw [Socket.handle?, hb₀]; rfl
      · rw [Socket.handle?, hb]; rfl
  · intro k hk
    obtain ⟨hnot, hlt⟩ := h.apart k hk
    refine ⟨?_, Nat.lt_of_lt_of_le hlt hover.follows.nextHandle⟩
    intro hmem
    rcases List.mem_append.1 (hafter.mem_iff.1 hmem) with hmem | hmem
    · obtain ⟨b, hb, rfl⟩ := Option.map_eq_some_iff.1 (Option.mem_toList.1 hmem)
      rcases hover.fresh b hb with ⟨b', hb', he⟩ | hfresh
      · apply hnot
        rw [← he]
        exact held_of_bound hs hb'
      · exact absurd hlt (Nat.not_lt.2 hfresh)
    · exact hnot (hbefore.mem_iff.2 (List.mem_append_right _ hmem))
  · rw [hevolves.warnings (quiet_transport O), h.warnings, hover.succeeds]
    rfl

theorem congr {ss' : Session (Host ω)} (h : InStep L address past ss)
    (htransport : ss'.world.transport = ss.world.transport) (hsockets : ss'.sockets = ss.sockets)
    (hwarnings : ss'.world.warnings = ss.world.warnings) : InStep L address past ss' where
  sound := htransport ▸ h.sound
  address := htransport ▸ h.address
  handles := by
    rw [htransport, held, gather, hsockets]
    exact h.handles
  holds i s b hs hb := by
    rw [htransport]
    apply h.holds i s b _ hb
    rw [← hs, socket?, socket?, hsockets]
  apart k hk := by
    rw [htransport, held, gather, hsockets]
    exact h.apart k hk
  warnings := hwarnings.trans h.warnings

theorem construct (h : InStep L address past ss) (spec : SocketSpec) :
    InStep L address past (ss.step (transport O) (.construct spec)).2 where
  sound := h.sound
  address := h.address
  handles := by
    rw [held_construct]
    exact h.handles
  holds i s b hs hb := by
    by_cases hi : i < ss.sockets.length
    · apply h.holds i s b _ hb
      simpa only [step, socket?, List.getElem?_append_left hi] using hs
    · simp only [step, socket?, List.getElem?_append_right (Nat.le_of_not_lt hi),
        List.getElem?_singleton] at hs
      split at hs
      · obtain rfl : Socket.ofConfig (ss.tableOf spec.table) spec.config = s := by simpa using hs
        cases hb
      · cases hs
  apart k hk := by
    rw [held_construct]
    exact h.apart k hk
  warnings := h.warnings

theorem raw (h : InStep L address past ss) (call : RawCall)
    (hpast : ∀ k, call.handle? = some k → k ∈ past.filterMap Call.created?) :
    InStep L address (past ++ ss.madePast (transport O) (.raw call))
      (ss.step (transport O) (.raw call)).2 := by
  rcases raw_moves_on (transport O) ss call with ⟨hnone, -⟩ | ⟨c, es, htakes, hcalls, hc, hwarn⟩
  · cases hnone
  · have hmade : ss.madePast (transport O) (.raw call) = [c] := by
      rw [madePast, stepCalls, Step.isRaw, if_pos rfl, hcalls, List.drop_left]
    have hshift := shift_of_takes L h.sound.valid htakes
    have hheld : (ss.step (transport O) (.raw call)).2.held = ss.held := rfl
    have hclose (k : Handle) (hk : c.closes k = true) : k ∉ ss.held := by
      have hhandle : c.handle? = some k := by
        cases c with
        | close j answer => exact congrArg some (of_decide_eq_true hk)
        | _ => cases hk
      exact (h.apart k (hpast k (hc ▸ hhandle))).1
    rw [hmade]
    refine ⟨h.sound.shift hshift, hshift.address.trans h.address, ?_, ?_, ?_, ?_⟩
    · rw [hshift.handles h.sound, hheld, List.foldl_append, List.foldl_cons, List.foldl_nil,
        ← Call.openAfter_append hclose]
      exact Call.openAfter_perm c h.handles
    · intro i s b hs hb
      apply (h.holds i s b hs hb).keep h.sound hshift
      cases hk : c.closes b.handle with
      | false => rfl
      | true => exact absurd (held_of_bound hs hb) (hclose b.handle hk)
    · intro k hk
      rw [List.filterMap_append] at hk
      rcases List.mem_append.1 hk with hk | hk
      · obtain ⟨hnot, hlt⟩ := h.apart k hk
        exact ⟨hnot, Nat.lt_of_lt_of_le hlt hshift.nextHandle_le⟩
      · have hcreate : c = .create (.ok k) := by
          cases c with
          | create answer =>
            cases answer with
            | ok j =>
              obtain rfl : k = j := by simpa [Call.created?] using hk
              rfl
            | error e => simp [Call.created?] at hk
          | _ => simp [Call.created?] at hk
        subst hcreate
        obtain ⟨-, hnew, hentry⟩ := shift_create hshift h.sound
        refine ⟨fun hmem => hnew (h.mem_handles_of_held hmem), ?_⟩
        exact (h.sound.shift hshift).below k (mem_handles_iff.2 ⟨_, hentry⟩)
    · rw [hwarn (quiet_transport O)]
      exact h.warnings

theorem step (h : InStep L address past ss) (st : Step)
    (hpast : ∀ call k, st = .raw call → call.handle? = some k →
      k ∈ past.filterMap Call.created?) :
    InStep L address (past ++ ss.madePast (transport O) st) (ss.step (transport O) st).2 := by
  cases hraw : st.isRaw with
  | true =>
    cases st with
    | raw call => exact h.raw call fun k => hpast call k rfl
    | _ => cases hraw
  | false =>
    have hmade : ss.madePast (transport O) st = [] := by
      rw [madePast, stepCalls, hraw]
      rfl
    rw [hmade, List.append_nil]
    cases honsockets : st.onSockets with
    | false =>
      have hevolves := step_evolves (transport O) ss hraw
      rw [madeBy_eq_nil hraw (step_calls_of_quiet honsockets hraw)] at hevolves
      have hwarnings := hevolves.warnings (quiet_transport O)
      rw [List.filterMap_nil, List.append_nil] at hwarnings
      exact h.congr hevolves.replays.eq_of_nil (step_sockets honsockets) hwarnings
    | true =>
      cases st with
      | socket i op =>
        cases hs : ss.socket? i with
        | none => rw [step_socket_of_none hs]; exact h
        | some s =>
          obtain ⟨cs, hevolves, hover⟩ := Socket.perform_hands h.sound (h.holds i s · hs) op
          rw [step_socket hs]
          exact h.set_socket hs hevolves hover
      | drop i =>
        cases hs : ss.socket? i with
        | none => rw [step_drop_of_none hs]; exact h
        | some s =>
          obtain ⟨cs, hevolves, hover⟩ := Socket.stop_hands h.sound (h.holds i s · hs)
          rw [step_drop hs]
          rw [Socket.stop_released] at hover
          exact h.set_socket hs hevolves hover
      | construct spec => exact h.construct spec
      | _ => cases honsockets

/-- In a run, no close that sockets make fails, and sockets and transport are in step at its end. -/
theorem run (h : InStep L address [] ss) {steps : List Step}
    (hapart : ss.KeepsApart (transport O) steps) :
    InStep L address (ss.rawCalls (transport O) steps) (ss.run (transport O) steps).2 ∧
      (ss.socketCalls (transport O) steps).filterMap Call.failedClose? = [] := by
  -- induction from the end: which handles a call may be made on depends on all that came before
  induction steps using List.reverseRecOn with
  | nil => exact ⟨h, rfl⟩
  | append_singleton steps st ih =>
    obtain ⟨hbefore, hcloses⟩ := ih fun before call after k hsplit => by
      apply hapart before call (after ++ [st])
      rw [hsplit, List.append_assoc, List.cons_append]
    have hstep := hbefore.step st fun call k hst => by
      apply hapart steps call []
      rw [hst]
    have hend : (ss.run (transport O) (steps ++ [st])).2 =
        ((ss.run (transport O) steps).2.step (transport O) st).2 := run_append ..
    rw [socketCalls] at hcloses ⊢
    rw [hend, rawCalls, callsWhere_concat, callsWhere_concat, List.filterMap_append, hcloses,
      List.nil_append]
    refine ⟨hstep, ?_⟩
    cases hraw : st.isRaw with
    | true =>
      rw [stepCalls, hraw]
      rfl
    | false =>
      have hwarnings := (step_evolves (transport O) (ss.run (transport O) steps).2 hraw).warnings
        (quiet_transport O)
      rw [hstep.warnings, hbefore.warnings] at hwarnings
      exact hwarnings.symm

end InStep
end Session
end Datagram
