import Datagram.Proofs.BindingGate
import Datagram.Proofs.HostHandles
import Datagram.Proofs.LawfulNetwork

/-!
# Failed calls on a host transport

Whether a handle is open and whether it is bound decides which calls on it are refused at once,
without the operating system. A call that fails, be it so or because the system refuses it, leaves
the table of handles as it was and the system in a state that cannot be told from the former one. So
everything goes on as if the call had not been made.
-/

namespace Datagram

variable {ω α : Type} {O : Os ω}

/-- In states that are alike the operation gives the same answer, and leaves states alike. -/
def Os.Respects (like : ω → ω → Prop) (operation : ω → α × ω) : Prop :=
  ∀ ⦃s s'⦄, like s s' →
    (operation s).1 = (operation s').1 ∧ like (operation s).2 (operation s').2

theorem Os.Respects.apart {like : ω → ω → Prop} {operation : ω → α × ω}
    (h : Respects like operation) {s s' : ω} (hs : like s s') :
    ∃ answer t t', operation s = (answer, t) ∧ operation s' = (answer, t') ∧ like t t' := by
  obtain ⟨hanswer, hlike⟩ := h hs
  exact ⟨(operation s).1, (operation s).2, (operation s').2, rfl, Prod.ext hanswer.symm rfl, hlike⟩

/-- Which states of an operating system cannot be told apart by what is asked of it. What it refuses
to do leaves it alike, and so does a duplicate, which is closed again. -/
structure Os.Likeness (O : Os ω) where
  like : ω → ω → Prop
  equivalence : Equivalence like
  queue : ω → Descriptor → List Packet
  queue_eq : ∀ {s s'}, like s s' → queue s = queue s'
  localPort_eq : ∀ {s s'} d, like s s' → O.localPort d s = O.localPort d s'
  bind : ∀ address port, Respects like (O.bind address port)
  duplicate : ∀ d, Respects like (O.duplicate d)
  setReadTimeout : ∀ d timeout, Respects like (O.setReadTimeout d timeout)
  peek : ∀ d, Respects like (O.peek d)
  send : ∀ d data target, Respects like (O.send d data target)
  receive : ∀ d capacity, Respects like (O.receive d capacity)
  close : ∀ {s s'} d, like s s' → like (O.close d s) (O.close d s')
  duplicated : ∀ d s, like s (O.duplicate d s).2
  bind_refused : ∀ {address port s s' e}, O.bind address port s = (.error e, s') → like s s'
  setReadTimeout_refused : ∀ {d timeout s s' e},
    O.setReadTimeout d timeout s = (.error e, s') → like s s'
  send_refused : ∀ {d data target s s' e}, O.send d data target s = (.error e, s') → like s s'

def Call.receives : Call → Bool
  | receive .. => true
  | _ => false

/-- Failures that tell what is wrong with a handle. -/
def Failure.isAboutHandle : Failure → Bool
  | invalidHandle _ | notBound => true
  | _ => false

namespace Host

variable {s s' t : Host ω} {h k : Handle} {c : Call} {cs : List Call} {es : List Event} {os : ω}
  {e : Failure}

section

variable (L : O.Likeness)

structure Like (s s' : Host ω) : Prop where
  address : s'.bindAddress = s.bindAddress
  next : s'.nextHandle = s.nextHandle
  sockets : s'.sockets = s.sockets
  os : L.like s.os s'.os

structure LikeReply (r r' : Reply (Host ω) α) : Prop where
  answer : r'.answer = r.answer
  events : r'.events = r.events
  state : Like L r.state r'.state

end

variable {L : O.Likeness}

theorem Like.of_os (s : Host ω) {os os' : ω} (hos : L.like os os') :
    Like L { s with os } { s with os := os' } := ⟨rfl, rfl, rfl, hos⟩

theorem Like.symm (hs : Like L s s') : Like L s' s :=
  ⟨hs.address.symm, hs.next.symm, hs.sockets.symm, L.equivalence.symm hs.os⟩

theorem Like.exists_os (hs : Like L s s') : ∃ os, s' = { s with os } ∧ L.like s.os os := by
  obtain ⟨address, os, next, sockets⟩ := s'
  obtain ⟨rfl, rfl, rfl, hos⟩ := hs
  exact ⟨os, rfl, hos⟩

theorem LikeReply.same (s : Host ω) {os os' : ω} (hos : L.like os os') (answer : α)
    (events : List Event) :
    LikeReply L { answer, state := { s with os }, events }
      { answer, state := { s with os := os' }, events } := ⟨rfl, rfl, .of_os s hos⟩

section

variable (hos : L.like s.os os)

include hos

theorem create_like : LikeReply L s.create (create { s with os }) := by
  unfold create
  change LikeReply L _ (if s.nextHandle = lastHandle then _ else _)
  split
  · exact .same s hos _ _
  · exact ⟨rfl, rfl, rfl, rfl, rfl, hos⟩

theorem bind_like (h : Handle) (port : UInt16) :
    LikeReply L (bind O h port s) (bind O h port { s with os }) := by
  have hentry : entry? { s with os } h = s.entry? h := rfl
  simp only [bind, hentry]
  cases s.entry? h with
  | none => exact .same s hos _ _
  | some entry =>
    cases entry with
    | some d => exact .same s hos _ _
    | none =>
      obtain ⟨answer, os₁, os₁', hbind, hbind', hlike⟩ := (L.bind s.bindAddress port).apart hos
      simp only [hbind, hbind']
      cases answer with
      | error e => exact .same s hlike _ _
      | ok d => exact ⟨rfl, rfl, rfl, rfl, rfl, hlike⟩

theorem boundSocket_like (h : Handle) :
    ∃ bound os₁ os₁', boundSocket O h s = (bound, { s with os := os₁ }) ∧
      boundSocket O h { s with os } = (bound, { s with os := os₁' }) ∧ L.like os₁ os₁' := by
  have hentry : entry? { s with os } h = s.entry? h := rfl
  simp only [boundSocket, hentry]
  cases s.entry? h with
  | none => exact ⟨_, _, _, rfl, rfl, hos⟩
  | some entry =>
    cases entry with
    | none => exact ⟨_, _, _, rfl, rfl, hos⟩
    | some d =>
      obtain ⟨answer, os₁, os₁', hdup, hdup', hlike⟩ := (L.duplicate d).apart hos
      simp only [hdup, hdup']
      cases answer <;> exact ⟨_, _, _, rfl, rfl, hlike⟩

theorem send_like (h : Handle) (data : Bytes) (target : Endpoint) :
    LikeReply L (send O h data target s) (send O h data target { s with os }) := by
  obtain ⟨bound, os₁, os₁', hbound, hbound', hlike⟩ := boundSocket_like (O := O) hos h
  simp only [send, hbound, hbound']
  cases bound with
  | error e => exact .same s hlike _ _
  | ok d =>
    obtain ⟨answer, os₂, os₂', hsend, hsend', hsent⟩ := (L.send d data target).apart hlike
    simp only [hsend, hsend']
    exact .same s hsent _ _

theorem receive_like (h : Handle) (capacity : Nat) :
    LikeReply L (receive O h capacity s) (receive O h capacity { s with os }) := by
  obtain ⟨bound, os₁, os₁', hbound, hbound', hlike⟩ := boundSocket_like (O := O) hos h
  simp only [receive, hbound, hbound']
  cases bound with
  | error e => exact .same s hlike _ _
  | ok d =>
    obtain ⟨answer, os₂, os₂', hreceive, hreceive', htaken⟩ := (L.receive d capacity).apart hlike
    simp only [hreceive, hreceive']
    exact .same s htaken _ _

theorem peek_like (h : Handle) (d : Descriptor) :
    LikeReply L (peek O h d s) (peek O h d { s with os }) := by
  obtain ⟨answer, os₁, os₁', hpeek, hpeek', hlike⟩ := (L.peek d).apart hos
  simp only [peek, hpeek, hpeek']
  cases answer with
  | ok _ => exact .same s hlike _ _
  | error e =>
    simp only
    split <;> exact .same s hlike _ _

theorem poll_like (h : Handle) (timeout : Duration) :
    LikeReply L (poll O h timeout s) (poll O h timeout { s with os }) := by
  obtain ⟨bound, os₁, os₁', hbound, hbound', hlike⟩ := boundSocket_like (O := O) hos h
  simp only [poll, hbound, hbound']
  cases bound with
  | error e => exact .same s hlike _ _
  | ok d =>
    obtain ⟨answer, os₂, os₂', hset, hset', htimed⟩ :=
      (L.setReadTimeout d (shortestPoll.atLeast timeout)).apart hlike
    simp only [hset, hset']
    cases answer with
    | error e => exact .same s htimed _ _
    | ok _ => exact peek_like (s := { s with os := os₂ }) htimed h d

theorem close_like (h : Handle) :
    LikeReply L (close O h s) (close O h { s with os }) := by
  have hentry : entry? { s with os } h = s.entry? h := rfl
  simp only [close, hentry]
  cases s.entry? h with
  | none => exact .same s hos _ _
  | some entry =>
    cases entry with
    | none => exact ⟨rfl, rfl, rfl, rfl, rfl, hos⟩
    | some d => exact ⟨rfl, rfl, rfl, rfl, rfl, L.close d hos⟩

theorem portOf?_like (h : Handle) : portOf? O h { s with os } = portOf? O h s := by
  have hentry : entry? { s with os } h = s.entry? h := rfl
  simp only [portOf?, hentry]
  cases s.entry? h with
  | none => rfl
  | some entry =>
    cases entry with
    | none => rfl
    | some d => exact (L.localPort_eq d hos).symm

end

theorem LikeReply.takes {r r' : Reply (Host ω) α} (hr : LikeReply L r r') (entry : α → Call)
    (h : (transport O).Takes s' (entry r'.answer) r'.events r'.state) :
    ∃ t', (transport O).Takes s' (entry r.answer) r.events t' ∧ Like L r.state t' := by
  rw [hr.answer, hr.events] at h
  exact ⟨r'.state, h, hr.state⟩

/-- Alike hosts take the same calls, with the same answers, and become alike. -/
theorem Like.takes (hs : Like L s s') (htakes : (transport O).Takes s c es t) :
    ∃ t', (transport O).Takes s' c es t' ∧ Like L t t' := by
  obtain ⟨os, rfl, hos⟩ := hs.exists_os
  cases htakes with
  | create => exact (create_like hos).takes Call.create .create
  | bind h port => exact (bind_like hos h port).takes (Call.bind h port) (.bind h port)
  | send h data target =>
    exact (send_like hos h data target).takes (Call.send h data target) (.send h data target)
  | receive h capacity =>
    exact (receive_like hos h capacity).takes (Call.receive h capacity) (.receive h capacity)
  | poll h timeout => exact (poll_like hos h timeout).takes (Call.poll h timeout) (.poll h timeout)
  | close h => exact (close_like hos h).takes (Call.close h) (.close h)
  | localPort hask h =>
    have hasked := Transport.Takes.localPort (T := transport O) (t := { s with os }) hask h
    cases hask
    have hsame : LikeReply L { answer := portOf? O h s, state := s }
        { answer := portOf? O h { s with os }, state := { s with os } } :=
      ⟨portOf?_like hos h, rfl, .of_os s hos⟩
    exact hsame.takes (Call.localPort h) hasked

theorem Like.replays (hs : Like L s s') (hcs : (transport O).Replays s cs t) :
    ∃ t', (transport O).Replays s' cs t' ∧ Like L t t' := by
  induction hcs generalizing s' with
  | nil => exact ⟨s', .nil s', hs⟩
  | cons htakes _ ih =>
    obtain ⟨s₁', htakes', hs₁⟩ := hs.takes htakes
    obtain ⟨t', hreplays, ht⟩ := ih hs₁
    exact ⟨t', .cons htakes' hreplays, ht⟩

theorem Like.replays_iff (hs : Like L s s') (cs : List Call) :
    (∃ t, (transport O).Replays s cs t) ↔ ∃ t, (transport O).Replays s' cs t := by
  constructor
  · rintro ⟨t, ht⟩
    obtain ⟨t', ht', -⟩ := hs.replays ht
    exact ⟨t', ht'⟩
  · rintro ⟨t, ht⟩
    obtain ⟨t', ht', -⟩ := hs.symm.replays ht
    exact ⟨t', ht'⟩

/-- Why a handle cannot carry traffic. -/
def refusal? (s : Host ω) (h : Handle) : Option Failure :=
  match s.entry? h with
  | none => some (.invalidHandle h)
  | some none => some .notBound
  | some (some _) => none

/-- Finding the socket of a handle is refused at once, or left to the system. -/
theorem boundSocket_ends (O : Os ω) (s : Host ω) (h : Handle) :
    (∃ e, s.refusal? h = some e ∧ boundSocket O h s = (.error e, s)) ∨
      s.refusal? h = none ∧ ∃ bound os, boundSocket O h s = (bound, { s with os }) ∧
        (∀ e, bound = .error e → e.isAboutHandle = false) ∧ ∀ L : O.Likeness, L.like s.os os := by
  unfold refusal? boundSocket
  cases hentry : s.entry? h with
  | none => exact .inl ⟨_, rfl, rfl⟩
  | some entry =>
    cases entry with
    | none => exact .inl ⟨_, rfl, rfl⟩
    | some d =>
      rcases hdup : O.duplicate d s.os with ⟨answer, os⟩
      have hlike (L : O.Likeness) : L.like s.os os := by
        have hduplicated := L.duplicated d s.os
        rw [hdup] at hduplicated
        exact hduplicated
      cases answer with
      | error failure =>
        refine .inr ⟨rfl, .error (.io failure), os, by simp only [hdup], ?_, hlike⟩
        intro e he
        cases he
        rfl
      | ok _ => exact .inr ⟨rfl, .ok d, os, by simp only [hdup], nofun, hlike⟩

/-- What peeking finds is never a failure of polling. -/
theorem peek_ends (s : Host ω) (h : Handle) (d : Descriptor) :
    ∃ readiness os, (peek O h d s).answer = .ok readiness ∧
      (peek O h d s).state = { s with os } := by
  unfold peek
  simp only
  cases (O.peek d s.os).1 with
  | ok _ => exact ⟨_, _, rfl, rfl⟩
  | error e =>
    simp only
    split <;> exact ⟨_, _, rfl, rfl⟩

/-- How traffic on a handle ends: it is refused without the system, or fails there, or succeeds. -/
inductive TrafficEnds (O : Os ω) (s : Host ω) (h : Handle) (c : Call) :
    List Event → Host ω → Prop
  | refused {e : Failure} (hr : s.refusal? h = some e) (he : c.failure? = some e) :
      TrafficEnds O s h c [] s
  | failed {e : Failure} {os : ω} (hr : s.refusal? h = none) (he : c.failure? = some e)
      (hsystem : e.isAboutHandle = false)
      (hlike : c.receives = false → ∀ L : O.Likeness, L.like s.os os) :
      TrafficEnds O s h c [] { s with os }
  | succeeded {es : List Event} {os : ω} (hr : s.refusal? h = none) (he : c.failure? = none) :
      TrafficEnds O s h c es { s with os }

/-- Traffic on a handle whose socket is not found ends with that failure, whichever call it is. -/
theorem traffic_of_refused {e : Failure} {s₁ : Host ω}
    (htakes : (transport O).Takes s c es s') (hc : c.isTraffic = true) (hh : c.handle? = some h)
    (hbound : boundSocket O h s = (.error e, s₁)) : c.failure? = some e ∧ es = [] ∧ s' = s₁ := by
  cases htakes with
  | send k data target =>
    cases hh
    have hreply : (transport O).send h data target s = { answer := .error e, state := s₁ } := by
      simp only [transport, send, hbound]
    rw [hreply]
    exact ⟨rfl, rfl, rfl⟩
  | receive k capacity =>
    cases hh
    have hreply : (transport O).receive h capacity s =
        { answer := ⟨[], .error e⟩, state := s₁ } := by
      simp only [transport, receive, hbound]
    rw [hreply]
    exact ⟨rfl, rfl, rfl⟩
  | poll k timeout =>
    cases hh
    have hreply : (transport O).poll h timeout s = { answer := .error e, state := s₁ } := by
      simp only [transport, poll, hbound]
    rw [hreply]
    exact ⟨rfl, rfl, rfl⟩
  | _ => cases hc

theorem traffic_of_found {d : Descriptor} {os : ω} (htakes : (transport O).Takes s c es s')
    (hc : c.isTraffic = true) (hh : c.handle? = some h) (hr : s.refusal? h = none)
    (hbound : boundSocket O h s = (.ok d, { s with os }))
    (hlike : ∀ L : O.Likeness, L.like s.os os) : TrafficEnds O s h c es s' := by
  cases htakes with
  | send k data target =>
    cases hh
    rcases hsend : O.send d data target os with ⟨answer, os₁⟩
    simp only [transport, send, hbound, hsend]
    cases answer with
    | error e =>
      refine .failed hr rfl rfl ?_
      intro _ L
      exact L.equivalence.trans (hlike L) (L.send_refused hsend)
    | ok count => exact .succeeded hr rfl
  | receive k capacity =>
    cases hh
    rcases hreceive : O.receive d capacity os with ⟨⟨written, outcome⟩, os₁⟩
    simp only [transport, receive, hbound, hreceive, delivery]
    cases outcome with
    | error e => exact .failed hr rfl rfl (by rintro ⟨⟩)
    | ok received =>
      obtain ⟨count, source⟩ := received
      cases source with
      | v4 source => exact .succeeded hr rfl
      | v6 source => exact .failed hr rfl rfl (by rintro ⟨⟩)
  | poll k timeout =>
    cases hh
    rcases hset : O.setReadTimeout d (shortestPoll.atLeast timeout) os with ⟨answer, os₁⟩
    simp only [transport, poll, hbound, hset]
    cases answer with
    | error e =>
      refine .failed hr rfl rfl ?_
      intro _ L
      exact L.equivalence.trans (hlike L) (L.setReadTimeout_refused hset)
    | ok _ =>
      obtain ⟨readiness, os₂, hready, hstate⟩ := peek_ends (O := O) { s with os := os₁ } h d
      rw [hready, hstate]
      exact .succeeded hr rfl
  | _ => cases hc

theorem traffic_ends (htakes : (transport O).Takes s c es s') (hc : c.isTraffic = true)
    (hh : c.handle? = some h) : TrafficEnds O s h c es s' := by
  rcases boundSocket_ends O s h with ⟨e, hr, hbound⟩ | ⟨hr, bound, os, hbound, hsystem, hlike⟩
  · obtain ⟨he, rfl, rfl⟩ := traffic_of_refused htakes hc hh hbound
    exact .refused hr he
  · cases bound with
    | error e =>
      obtain ⟨he, rfl, rfl⟩ := traffic_of_refused htakes hc hh hbound
      exact .failed hr he (hsystem e rfl) fun _ => hlike
    | ok d => exact traffic_of_found htakes hc hh hr hbound hlike

theorem handle?_of_traffic (hc : c.isTraffic = true) : ∃ h, c.handle? = some h := by
  cases c with
  | send h | receive h | poll h => exact ⟨h, rfl⟩
  | _ => cases hc

/-- Calls that fail, receiving apart, report nothing and leave the host alike. -/
theorem alike_of_failed (htakes : (transport O).Takes s c es s') (he : c.failure? = some e)
    (hreceives : c.receives = false) :
    es = [] ∧ ∃ os, s' = { s with os } ∧ ∀ L : O.Likeness, L.like s.os os := by
  have hunchanged : ∃ os, s = { s with os } ∧ ∀ L : O.Likeness, L.like s.os os :=
    ⟨s.os, rfl, fun L => L.equivalence.refl s.os⟩
  by_cases hc : c.isTraffic = true
  · obtain ⟨h, hh⟩ := handle?_of_traffic hc
    cases traffic_ends htakes hc hh with
    | refused => exact ⟨rfl, hunchanged⟩
    | failed _ _ _ hlike => exact ⟨rfl, _, rfl, hlike hreceives⟩
    | succeeded _ hok => rw [hok] at he; cases he
  · cases htakes with
    | create =>
      simp only [transport, create] at he ⊢
      split at he
      · rename_i hlast
        rw [if_pos hlast]
        exact ⟨rfl, hunchanged⟩
      · cases he
    | bind h port =>
      simp only [transport, bind] at he ⊢
      cases hentry : s.entry? h with
      | none => exact ⟨rfl, hunchanged⟩
      | some entry =>
        cases entry with
        | some d => exact ⟨rfl, hunchanged⟩
        | none =>
          rcases hbind : O.bind s.bindAddress port s.os with ⟨answer, os⟩
          simp only [hentry, hbind] at he ⊢
          cases answer with
          | error _ => exact ⟨rfl, os, rfl, fun L => L.bind_refused hbind⟩
          | ok d => cases he
    | close h =>
      simp only [transport, close] at he ⊢
      cases hentry : s.entry? h with
      | none => exact ⟨rfl, hunchanged⟩
      | some entry => rw [hentry] at he; cases he
    | localPort hask h => cases he
    | _ => exact absurd rfl hc

/-- Traffic never touches the table. -/
theorem traffic_table (htakes : (transport O).Takes s c es s') (hc : c.isTraffic = true) :
    ∃ os, s' = { s with os } := by
  obtain ⟨h, hh⟩ := handle?_of_traffic hc
  cases traffic_ends htakes hc hh with
  | refused => exact ⟨s.os, rfl⟩
  | failed | succeeded => exact ⟨_, rfl⟩

/-- A handle without a socket stays so until it is bound or closed. -/
theorem unbound_of_takes (htakes : (transport O).Takes s c es s') (hentry : s.entry? h = some none)
    (hopen : c.closes h = false) (hunbound : ∀ port, c ≠ .bind h port (.ok ())) :
    s'.entry? h = some none := by
  have htraffic (hc : c.isTraffic = true) : s'.entry? h = some none := by
    obtain ⟨os, rfl⟩ := traffic_table htakes hc
    exact hentry
  cases htakes with
  | create =>
    change entry? s.create.state h = some none
    unfold create
    split
    · exact hentry
    · rw [entry?_created, hentry, Option.some_or]
  | bind k port =>
    change entry? (bind O k port s).state h = some none
    have hanswer : k = h → (bind O k port s).answer ≠ .ok () := by
      rintro rfl hok
      apply hunbound port
      change Call.bind k port (bind O k port s).answer = _
      rw [hok]
    unfold bind at hanswer ⊢
    cases hk : s.entry? k with
    | none => exact hentry
    | some entry =>
      cases entry with
      | some d => exact hentry
      | none =>
        rcases hbind : O.bind s.bindAddress port s.os with ⟨answer, os⟩
        simp only [hk, hbind] at hanswer ⊢
        cases answer with
        | error e => exact hentry
        | ok d =>
          have hne : h ≠ k := fun he => hanswer he.symm rfl
          rw [entry?_setEntry, if_neg hne]
          exact hentry
  | send | receive | poll => exact htraffic rfl
  | close k =>
    have hne : h ≠ k := by
      rintro rfl
      simp [Call.closes] at hopen
    change entry? (close O k s).state h = some none
    unfold close
    cases hk : s.entry? k with
    | none => exact hentry
    | some entry =>
      simp only
      rw [entry?_remove, if_neg hne]
      exact hentry
  | localPort hask k =>
    cases hask
    exact hentry

theorem unbound_of_replays (hcs : (transport O).Replays s cs t) (hentry : s.entry? h = some none)
    (hopen : ∀ c ∈ cs, c.closes h = false ∧ ∀ port, c ≠ .bind h port (.ok ())) :
    t.entry? h = some none := by
  refine hcs.induction (P := fun s => s.entry? h = some none) ?_ hentry
  intro s c es s' hmem htakes hs
  exact unbound_of_takes htakes hs (hopen c hmem).1 (hopen c hmem).2

theorem bind_of_unbound (hentry : s.entry? h = some none) (port : UInt16) :
    (bind O h port s).answer = .ok () ↔ ∃ d, (O.bind s.bindAddress port s.os).1 = .ok d := by
  unfold bind
  simp only [hentry]
  cases (O.bind s.bindAddress port s.os).1 with
  | error e => exact ⟨nofun, nofun⟩
  | ok d => exact ⟨fun _ => ⟨d, rfl⟩, fun _ => rfl⟩

theorem bind_invalid_iff (h : Handle) (port : UInt16) :
    (bind O h port s).answer = .error (.invalidHandle h) ↔ h ∉ s.handles := by
  rw [← entry?_eq_none_iff]
  unfold bind
  cases s.entry? h with
  | none => exact ⟨fun _ => rfl, fun _ => rfl⟩
  | some entry =>
    cases entry with
    | some d => exact ⟨nofun, nofun⟩
    | none =>
      simp only
      cases (O.bind s.bindAddress port s.os).1 with
      | error e => exact ⟨nofun, nofun⟩
      | ok d => exact ⟨nofun, nofun⟩

/-- In every state of a host, and whatever the operating system answers: traffic on a handle is
refused as invalid exactly if the handle is not open, and as not bound exactly if it is open but not
bound, and neither touches the system. Binding is refused as invalid exactly if the handle is not
open; a handle that is bound already keeps its socket; and one that the system has refused to bind
stays open and unbound, so that the system alone decides about later attempts. A call that fails,
receiving apart, leaves the table as it was, and all handles their ports and queues, and every
further sequence of calls is answered as without it. -/
theorem failed_calls_change_nothing (O : Os ω) (s : Host ω) (h : Handle) :
    (∀ c es s', (transport O).Takes s c es s' → c.isTraffic = true → c.handle? = some h →
      (c.failure? = some (.invalidHandle h) ↔ h ∉ s.handles) ∧
      (c.failure? = some .notBound ↔ s.entry? h = some none) ∧
      (h ∉ s.handles ∨ s.entry? h = some none → s' = s ∧ es = [])) ∧
    (∀ port, ((bind O h port s).answer = .error (.invalidHandle h) ↔ h ∉ s.handles) ∧
      (∀ d, s.entry? h = some (some d) →
        bind O h port s = { answer := .error (.bind port "socket already bound"), state := s }) ∧
      ∀ e os, s.entry? h = some none → O.bind s.bindAddress port s.os = (.error e, os) →
        bind O h port s =
          { answer := .error (.bind port e.message), state := { s with os } } ∧
        ∀ cs t, (transport O).Replays { s with os } cs t →
          (∀ c ∈ cs, c.closes h = false ∧ ∀ port, c ≠ .bind h port (.ok ())) →
          t.entry? h = some none ∧ ∀ port, (bind O h port t).answer = .ok () ↔
            ∃ d, (O.bind t.bindAddress port t.os).1 = .ok d) ∧
    ∀ c es s' e, (transport O).Takes s c es s' → c.failure? = some e → c.receives = false →
      es = [] ∧ s'.sockets = s.sockets ∧ s'.nextHandle = s.nextHandle ∧
        s'.bindAddress = s.bindAddress ∧
        ∀ L : O.Likeness, (∀ k, s'.portOf? O k = s.portOf? O k) ∧
          L.queue s'.os = L.queue s.os ∧
          ∀ cs, (∃ t, (transport O).Replays s' cs t) ↔ ∃ t, (transport O).Replays s cs t := by
  refine ⟨?_, ?_, ?_⟩
  · intro c es s' htakes hc hh
    have hends := traffic_ends htakes hc hh
    rw [← entry?_eq_none_iff]
    cases hentry : s.entry? h with
    | none =>
      have hr : s.refusal? h = some (.invalidHandle h) := by rw [refusal?, hentry]
      cases hends with
      | refused hr' he =>
        rw [he, ← hr', hr]
        exact ⟨⟨fun _ => rfl, fun _ => rfl⟩, ⟨nofun, nofun⟩, fun _ => ⟨rfl, rfl⟩⟩
      | failed hr' | succeeded hr' => rw [hr'] at hr; cases hr
    | some entry =>
      cases entry with
      | none =>
        have hr : s.refusal? h = some .notBound := by rw [refusal?, hentry]
        cases hends with
        | refused hr' he =>
          rw [he, ← hr', hr]
          exact ⟨⟨nofun, nofun⟩, ⟨fun _ => rfl, fun _ => rfl⟩, fun _ => ⟨rfl, rfl⟩⟩
        | failed hr' | succeeded hr' => rw [hr'] at hr; cases hr
      | some d =>
        have hr : s.refusal? h = none := by rw [refusal?, hentry]
        have hsystem {e : Failure} (he : c.failure? = some e) : e.isAboutHandle = false := by
          cases hends with
          | refused hr' => rw [hr'] at hr; cases hr
          | failed _ he' hsystem => rw [he] at he'; rw [Option.some.inj he']; exact hsystem
          | succeeded _ hok => rw [hok] at he; cases he
        refine ⟨⟨fun he => ?_, nofun⟩, ⟨fun he => ?_, nofun⟩, nofun⟩
        · cases hsystem he
        · cases hsystem he
  · intro port
    refine ⟨bind_invalid_iff h port, ?_, ?_⟩
    · intro d hentry
      simp only [bind, hentry]
    · intro e os hentry hbind
      refine ⟨by simp only [bind, hentry, hbind], ?_⟩
      intro cs t hcs hopen
      have hlater : t.entry? h = some none := unbound_of_replays hcs hentry hopen
      exact ⟨hlater, bind_of_unbound hlater⟩
  · intro c es s' e htakes he hreceives
    obtain ⟨hes, os, rfl, hlike⟩ := alike_of_failed htakes he hreceives
    refine ⟨hes, rfl, rfl, rfl, ?_⟩
    intro L
    have halike : Like L s { s with os } := ⟨rfl, rfl, rfl, hlike L⟩
    refine ⟨portOf?_like (hlike L), (L.queue_eq (hlike L)).symm, ?_⟩
    intro cs
    exact (halike.replays_iff cs).symm

end Host

namespace Network

/-- What this system refuses to do leaves nothing behind. -/
theorem bind_answers (address : Ipv4) (port : UInt16) (n : Network) :
    (∃ e, bind address port n = (.error e, n)) ∨ ∃ d n', bind address port n = (.ok d, n') := by
  unfold bind
  split
  · exact .inl ⟨_, rfl⟩
  split
  · cases n.pick? address with
    | none => exact .inl ⟨_, rfl⟩
    | some q => exact .inr ⟨_, _, rfl⟩
  split
  · exact .inl ⟨_, rfl⟩
  split
  · exact .inl ⟨_, rfl⟩
  · exact .inr ⟨_, _, rfl⟩

/-- States of this system can be told apart unless they are the same. -/
def likeness : os.Likeness where
  like := Eq
  equivalence := ⟨fun _ => rfl, Eq.symm, Eq.trans⟩
  queue := queueOf
  queue_eq := congrArg queueOf
  localPort_eq d h := congrArg (os.localPort d) h
  bind address port _ _ h := by rw [h]; exact ⟨rfl, rfl⟩
  duplicate d _ _ h := by rw [h]; exact ⟨rfl, rfl⟩
  setReadTimeout d timeout _ _ h := by rw [h]; exact ⟨rfl, rfl⟩
  peek d _ _ h := by rw [h]; exact ⟨rfl, rfl⟩
  send d data target _ _ h := by rw [h]; exact ⟨rfl, rfl⟩
  receive d capacity _ _ h := by rw [h]; exact ⟨rfl, rfl⟩
  close d h := congrArg (os.close d) h
  duplicated _ _ := rfl
  bind_refused {address port n n' e} h := by
    change bind address port n = _ at h
    rcases bind_answers address port n with ⟨e', hbind⟩ | ⟨d, n₁, hbind⟩
    · rw [hbind] at h
      exact congrArg Prod.snd h
    · rw [hbind] at h
      cases h
  setReadTimeout_refused h := by cases h
  send_refused {d data target n n' e} h := by
    change send d data target n = _ at h
    rcases send_cases d data target n with ⟨e', hsend⟩ | ⟨b, -, hsend⟩
    · rw [hsend] at h
      exact congrArg Prod.snd h
    · rw [hsend] at h
      cases h

end Network

namespace Host

/-- Two handles, the first of which is bound to the port that the second one wants. The second one
can have it once the first is closed. -/
theorem failed_calls_change_nothing_refused_bind :
    let O := Network.os
    let start : Host Network := { bindAddress := .localhost, os := .loopback }
    let s := (bind O ⟨1⟩ 7000 start.create.state.create.state).state
    let refused := bind O ⟨2⟩ 7000 s
    let sent := send O ⟨2⟩ [1] ⟨.localhost, 7000⟩ s
    refused.answer = .error (.bind 7000 Network.addressInUse.message) ∧
      refused.state.sockets = s.sockets ∧
      Network.queueOf refused.state.os = Network.queueOf s.os ∧
      (bind O ⟨2⟩ 7000 (close O ⟨1⟩ refused.state).state).answer = .ok () ∧ sent.state = s := by
  intro O start s refused sent
  have hunbound : s.entry? ⟨2⟩ = some none := by decide
  have hbind : O.bind s.bindAddress 7000 s.os = (.error Network.addressInUse, s.os) := rfl
  have h := failed_calls_change_nothing O s ⟨2⟩
  obtain ⟨hrefused, hlater⟩ := (h.2.1 7000).2.2 Network.addressInUse s.os hunbound hbind
  have hanswer : refused.answer = .error (.bind 7000 Network.addressInUse.message) :=
    congrArg Reply.answer hrefused
  obtain ⟨-, htable, -, -, hlike⟩ := h.2.2 _ _ refused.state
    (.bind 7000 Network.addressInUse.message) (.bind ⟨2⟩ 7000)
    (congrArg (fun answer => (Call.bind ⟨2⟩ 7000 answer).failure?) hanswer) rfl
  obtain ⟨-, hqueues, -⟩ := hlike Network.likeness
  have hclosed := Transport.Takes.close (T := transport O) (t := { s with os := s.os }) ⟨1⟩
  obtain ⟨-, hbinds⟩ := hlater _ _ hclosed.replays (by
    intro c hc
    rw [List.mem_singleton.1 hc]
    exact ⟨rfl, nofun⟩)
  have hsent := (h.1 _ _ sent.state (.send ⟨2⟩ [1] ⟨.localhost, 7000⟩) rfl rfl).2.2 (.inr hunbound)
  refine ⟨hanswer, htable, hqueues, ?_, hsent.1⟩
  change (bind O ⟨2⟩ 7000 (close O ⟨1⟩ (bind O ⟨2⟩ 7000 s).state).state).answer = .ok ()
  rw [hrefused]
  exact (hbinds 7000).2 ⟨⟨1⟩, rfl⟩

end Host
end Datagram
