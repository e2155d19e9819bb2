import Datagram.Host
import Datagram.Proofs.OpenHandles
import Datagram.Proofs.OsLaws

/-!
# The table of a host transport

Over a lawful operating system every call shifts the table of handles in one of four ways: a handle
is created, a handle is bound, a handle is closed, or table and bound sockets stay as they are. So
the table stays sound: handles are listed once and below the next one, those that are bound have a
socket at the transport's address and at a port of their own, and only a close takes away what a
handle holds.
-/

namespace Datagram

variable {ω : Type} {O : Os ω}

namespace Host

def handles (s : Host ω) : List Handle := s.sockets.map (·.1)

variable {s s' : Host ω} {h k : Handle} {port : UInt16} {c : Call} {es : List Event}

theorem mem_handles_iff : h ∈ s.handles ↔ ∃ entry, s.entry? h = some entry := by
  rw [← Option.isSome_iff_exists, entry?, List.lookup_isSome_iff, handles, List.mem_map]
  constructor
  · rintro ⟨p, hp, rfl⟩
    exact ⟨p, hp, beq_self_eq_true p.1⟩
  · rintro ⟨p, hp, he⟩
    exact ⟨p, hp, (eq_of_beq he).symm⟩

theorem entry?_eq_none_iff : s.entry? h = none ↔ h ∉ s.handles := by
  rw [mem_handles_iff]
  cases s.entry? h <;> simp

theorem entry?_setEntry (s : Host ω) (h k : Handle) (entry : Option Descriptor) :
    entry? (s.setEntry h entry) k =
      if k = h then Option.map (fun _ => entry) <| s.entry? h else s.entry? k := by
  obtain ⟨address, os, next, sockets⟩ := s
  simp only [setEntry, Host.entry?]
  induction sockets with
  | nil => simp
  | cons a sockets ih =>
    obtain ⟨j, old⟩ := a
    rw [List.map_cons, List.lookup_cons, List.lookup_cons, List.lookup_cons]
    by_cases hj : j = h
    · subst j
      by_cases hk : k = h
      · simp [hk]
      · have hne : (k == h) = false := by simpa using hk
        simp only [if_true, hne, if_neg hk] at ih ⊢
        exact ih
    · have hne : (h == j) = false := by simpa using Ne.symm hj
      simp only [if_neg hj, hne]
      by_cases hk : k = j
      · subst k
        simp [hj]
      · have hne' : (k == j) = false := by simpa using hk
        rw [hne']
        exact ih

theorem entry?_remove (s : Host ω) (h k : Handle) :
    entry? (s.remove h) k = if k = h then none else s.entry? k := by
  obtain ⟨address, os, next, sockets⟩ := s
  simp only [remove, Host.entry?]
  induction sockets with
  | nil => simp
  | cons a sockets ih =>
    obtain ⟨j, old⟩ := a
    by_cases hj : j = h
    · subst j
      rw [List.filter_cons_of_neg (by simp), ih, List.lookup_cons]
      by_cases hk : k = h
      · simp [hk]
      · have hne : (k == h) = false := by simpa using hk
        rw [if_neg hk, if_neg hk, hne]
    · rw [List.filter_cons_of_pos (by simpa using hj), List.lookup_cons, List.lookup_cons, ih]
      by_cases hk : k = j
      · subst k
        simp [hj]
      · have hne : (k == j) = false := by simpa using hk
        rw [hne]

theorem handles_setEntry (s : Host ω) (h : Handle) (entry : Option Descriptor) :
    (s.setEntry h entry).handles = s.handles := by
  simp only [handles, setEntry, List.map_map]
  apply List.map_congr_left
  rintro ⟨k, old⟩ _
  change (if k = h then (k, entry) else (k, old)).1 = k
  split <;> rfl

theorem handles_remove (hnodup : s.handles.Nodup) (h : Handle) :
    (s.remove h).handles = s.handles.erase h := by
  rw [hnodup.erase_eq_filter, handles, handles, remove, List.filter_map]
  congr 1
  apply List.filter_congr
  rintro ⟨k, old⟩ _
  by_cases hk : k = h <;> simp [hk]

variable (L : O.Lawful)

/-- The handle is bound to the port, by a socket at the address of the transport. -/
def Holds (s : Host ω) (h : Handle) (port : UInt16) : Prop :=
  ∃ d, s.entry? h = some (some d) ∧ L.bound s.os d = some ⟨s.bindAddress, port⟩

structure Sound (s : Host ω) : Prop where
  valid : L.Valid s.os
  nodup : s.handles.Nodup
  below : ∀ h ∈ s.handles, h.raw.toNat < s.nextHandle.toNat
  bound : ∀ h d, s.entry? h = some (some d) → ∃ port, port ≠ 0 ∧
    L.bound s.os d = some ⟨s.bindAddress, port⟩
  apart : ∀ h k d d', s.entry? h = some (some d) → s.entry? k = some (some d') →
    L.bound s.os d = L.bound s.os d' → h = k

/-- What the operating system has lost with an entry of the table. -/
def Loses (s : ω) : Option Descriptor → ω → Prop
  | none, s' => s' = s
  | some d, s' => L.Removes s d s'

/-- What a call does to the table of handles and to the sockets that are bound. -/
inductive Shift (s : Host ω) : Call → Host ω → Prop
  | created (hlast : s.nextHandle ≠ lastHandle) : Shift s (.create (.ok ⟨s.nextHandle⟩))
      { s with
        nextHandle := s.nextHandle + 1
        sockets := s.sockets ++ [(⟨s.nextHandle⟩, none)] }
  | bound {h port os d q} (hentry : s.entry? h = some none) (hq : q ≠ 0)
      (hport : port ≠ 0 → q = port) (hos : L.Adds s.os d ⟨s.bindAddress, q⟩ os) :
      Shift s (.bind h port (.ok ())) (({ s with os } : Host ω).setEntry h (some d))
  | closed {h entry os} (hentry : s.entry? h = some entry) (hos : Loses L s.os entry os) :
      Shift s (.close h (.ok ())) (({ s with os } : Host ω).remove h)
  | stays {c os} (hos : L.Keeps s.os os) (hopen : ∀ hs, c.openAfter hs = hs)
      (hbind : ∀ h port, c ≠ .bind h port (.ok ()))
      (hclose : ∀ h answer, c = .close h answer → s.entry? h = none)
      (hask : ∀ h answer, c = .localPort h answer → answer = s.portOf? O h) :
      Shift s c { s with os }

theorem keeps_refl (hvalid : L.Valid s.os) : L.Keeps s.os s.os := ⟨hvalid, rfl⟩

/-- Finding the socket of a handle fails at once, or comes down to duplicating it. -/
theorem boundSocket_cases (s : Host ω) (h : Handle) :
    (∃ e, boundSocket O h s = (.error e, s)) ∨
      ∃ d answer, s.entry? h = some (some d) ∧ (∀ d', answer = .ok d' → d' = d) ∧
        boundSocket O h s = (answer, { s with os := (O.duplicate d s.os).2 }) := by
  unfold boundSocket
  cases hentry : s.entry? h with
  | none => exact .inl ⟨_, rfl⟩
  | some entry =>
    cases entry with
    | none => exact .inl ⟨_, rfl⟩
    | some d =>
      right
      cases hanswer : (O.duplicate d s.os).1 with
      | error e => exact ⟨d, .error (.io e), rfl, nofun, by simp only [hanswer]⟩
      | ok _ =>
        refine ⟨d, .ok d, rfl, ?_, by simp only [hanswer]⟩
        intro d' hd'
        exact (Except.ok.inj hd').symm

theorem boundSocket_keeps (hvalid : L.Valid s.os) (h : Handle) :
    ∃ bound os, boundSocket O h s = (bound, { s with os }) ∧ L.Keeps s.os os := by
  rcases boundSocket_cases (O := O) s h with ⟨e, he⟩ | ⟨d, answer, -, -, hd⟩
  · exact ⟨.error e, s.os, he, keeps_refl L hvalid⟩
  · exact ⟨answer, _, hd, L.duplicate d hvalid⟩

theorem send_keeps (hvalid : L.Valid s.os) (h : Handle) (data : Bytes) (target : Endpoint) :
    ∃ os, (send O h data target s).state = { s with os } ∧ L.Keeps s.os os := by
  obtain ⟨bound, os, hd, hkept⟩ := boundSocket_keeps L hvalid h
  simp only [send, hd]
  cases bound with
  | error e => exact ⟨os, rfl, hkept⟩
  | ok d => exact ⟨_, rfl, hkept.trans (L.send d data target hkept.valid)⟩

theorem receive_keeps (hvalid : L.Valid s.os) (h : Handle) (capacity : Nat) :
    ∃ os, (receive O h capacity s).state = { s with os } ∧ L.Keeps s.os os := by
  obtain ⟨bound, os, hd, hkept⟩ := boundSocket_keeps L hvalid h
  simp only [receive, hd]
  cases bound with
  | error e => exact ⟨os, rfl, hkept⟩
  | ok d => exact ⟨_, rfl, hkept.trans (L.receive d capacity hkept.valid)⟩

theorem peek_keeps (hvalid : L.Valid s.os) (h : Handle) (d : Descriptor) :
    ∃ os, (peek O h d s).state = { s with os } ∧ L.Keeps s.os os := by
  refine ⟨(O.peek d s.os).2, ?_, L.peek d hvalid⟩
  unfold peek
  simp only
  cases (O.peek d s.os).1 with
  | ok _ => rfl
  | error e => simp only; split <;> rfl

theorem poll_keeps (hvalid : L.Valid s.os) (h : Handle) (timeout : Duration) :
    ∃ os, (poll O h timeout s).state = { s with os } ∧ L.Keeps s.os os := by
  obtain ⟨bound, os, hd, hkept⟩ := boundSocket_keeps L hvalid h
  simp only [poll, hd]
  cases bound with
  | error e => exact ⟨os, rfl, hkept⟩
  | ok d =>
    have htimed := hkept.trans (L.setReadTimeout d (shortestPoll.atLeast timeout) hkept.valid)
    simp only
    cases (O.setReadTimeout d (shortestPoll.atLeast timeout) os).1 with
    | error e => exact ⟨_, rfl, htimed⟩
    | ok _ =>
      obtain ⟨os', hpeeked, hpeek⟩ := peek_keeps (O := O) L
        (s := { s with os := (O.setReadTimeout d (shortestPoll.atLeast timeout) os).2 })
        htimed.valid h d
      exact ⟨os', hpeeked, htimed.trans hpeek⟩

/-- Every call shifts the table in one of the four ways. -/
theorem shift_of_takes (hvalid : L.Valid s.os) (htakes : (transport O).Takes s c es s') :
    Shift L s c s' := by
  cases htakes with
  | create =>
    change Shift L s (.create s.create.answer) s.create.state
    unfold create
    by_cases hlast : s.nextHandle = lastHandle
    · rw [if_pos hlast]
      exact .stays (keeps_refl L hvalid) (fun _ => rfl) nofun nofun nofun
    · rw [if_neg hlast]
      exact .created hlast
  | bind h port =>
    change Shift L s (.bind h port (bind O h port s).answer) (bind O h port s).state
    unfold bind
    cases hentry : s.entry? h with
    | none => exact .stays (keeps_refl L hvalid) (fun _ => rfl) nofun nofun nofun
    | some entry =>
      cases entry with
      | some d => exact .stays (keeps_refl L hvalid) (fun _ => rfl) nofun nofun nofun
      | none =>
        rcases hbind : O.bind s.bindAddress port s.os with ⟨answer, os⟩
        cases answer with
        | error e =>
          exact .stays (L.bind_error hvalid hbind) (fun _ => rfl) nofun nofun nofun
        | ok d =>
          obtain ⟨q, hq, hport, hadds⟩ := L.bind_ok hvalid hbind
          exact .bound hentry hq hport hadds
  | send h data target =>
    obtain ⟨os, hstate, hkept⟩ := send_keeps L hvalid h data target
    change Shift L s _ (send O h data target s).state
    rw [hstate]
    exact .stays hkept (fun _ => rfl) nofun nofun nofun
  | receive h capacity =>
    obtain ⟨os, hstate, hkept⟩ := receive_keeps L hvalid h capacity
    change Shift L s _ (receive O h capacity s).state
    rw [hstate]
    exact .stays hkept (fun _ => rfl) nofun nofun nofun
  | poll h timeout =>
    obtain ⟨os, hstate, hkept⟩ := poll_keeps L hvalid h timeout
    change Shift L s _ (poll O h timeout s).state
    rw [hstate]
    exact .stays hkept (fun _ => rfl) nofun nofun nofun
  | close h =>
    change Shift L s (.close h (close O h s).answer) (close O h s).state
    unfold close
    cases hentry : s.entry? h with
    | none =>
      refine .stays (keeps_refl L hvalid) (fun _ => rfl) nofun ?_ nofun
      intro k answer hc
      cases hc
      exact hentry
    | some entry =>
      cases entry with
      | none => exact .closed hentry rfl
      | some d => exact .closed hentry (L.close d hvalid)
  | localPort hask h =>
    cases hask
    refine .stays (keeps_refl L hvalid) (fun _ => rfl) nofun nofun ?_
    intro k answer hc
    cases hc
    rfl

end Host
end Datagram
