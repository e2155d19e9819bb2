import Datagram.Proofs.HostHandles
import Datagram.Proofs.LoopbackLaws

/-!
# The mailboxes of a host transport

What waits at a bound handle is the queue of its socket. On a loopback interface a send that
succeeds adds its datagram at the end of the mailbox that it is addressed to, a receive takes the
front of its own, and apart from closing the handle no other call changes what waits there. Polling
runs out of time at an empty mailbox only, and that of a handle which has just been bound is empty.
-/

namespace Datagram

variable {ω : Type} {O : Os ω}

/-- Whether a call leaves alone what waits at the handle. -/
def Call.spares (h : Handle) : Call → Bool
  | send .. => false
  | receive k .. | close k _ => k ≠ h
  | _ => true

theorem Call.closes_of_spares {h : Handle} {c : Call} (hc : c.spares h = true) :
    c.closes h = false := by
  cases c with
  | close k answer => simpa [Call.closes, Call.spares] using hc
  | _ => rfl

namespace Host

variable (L : O.Loopback)

def mail (s : Host ω) (h : Handle) : List Packet :=
  match s.entry? h with
  | some (some d) => L.queue s.os d
  | _ => []

variable {L} {s s' : Host ω} {h k : Handle} {port q : UInt16} {d : Descriptor} {c : Call}
  {cs : List Call} {es : List Event}

theorem mail_eq (hentry : s.entry? h = some (some d)) : mail L s h = L.queue s.os d := by
  rw [mail, hentry]

theorem boundSocket_quiet (hvalid : L.Valid s.os) (h : Handle) :
    ∃ bound os, boundSocket O h s = (bound, { s with os }) ∧ L.Keeps s.os os ∧
      L.queue os = L.queue s.os ∧ ∀ d, bound = .ok d → s.entry? h = some (some d) := by
  rcases boundSocket_cases (O := O) s h with ⟨e, he⟩ | ⟨d, answer, hentry, hfound, hd⟩
  · exact ⟨.error e, s.os, he, keeps_refl L.toLawful hvalid, rfl, nofun⟩
  · refine ⟨answer, _, hd, L.duplicate d hvalid, L.duplicate_queue d hvalid, ?_⟩
    intro d' hd'
    rw [hfound d' hd']
    exact hentry

theorem poll_queue (hvalid : L.Valid s.os) (h : Handle) (timeout : Duration) :
    L.queue (poll O h timeout s).state.os = L.queue s.os := by
  obtain ⟨bound, os, hd, hkept, hqueue, -⟩ := boundSocket_quiet hvalid h
  simp only [poll, hd]
  cases bound with
  | error e => exact hqueue
  | ok d =>
    have htimed := L.setReadTimeout d (shortestPoll.atLeast timeout) hkept.valid
    have htimedQueue := L.setReadTimeout_queue d (shortestPoll.atLeast timeout) hkept.valid
    simp only
    cases (O.setReadTimeout d (shortestPoll.atLeast timeout) os).1 with
    | error e => exact htimedQueue.trans hqueue
    | ok _ =>
      have hpeeked := L.peek_queue d htimed.valid
      simp only [peek]
      split
      · exact hpeeked.trans (htimedQueue.trans hqueue)
      · split <;> exact hpeeked.trans (htimedQueue.trans hqueue)

theorem mail_spared (hs : Sound L.toLawful s) (hh : Holds L.toLawful s h port)
    (htakes : (transport O).Takes s c es s') (hc : c.spares h = true) :
    mail L s' h = mail L s h := by
  obtain ⟨d, hentry, hbound⟩ := hh
  have hshift := shift_of_takes L.toLawful hs.valid htakes
  have hentry' := (hshift.keeps_entry hs hentry (Call.closes_of_spares hc)).1
  -- handles have a socket each, so that what happens to another one is no concern of this queue
  have hother {k : Handle} {d' : Descriptor} (hk : s.entry? k = some (some d')) (hne : k ≠ h) :
      d ≠ d' := by
    rintro rfl
    exact hne (hs.apart k h d d hk hentry rfl)
  rw [mail_eq hentry, mail_eq hentry']
  cases htakes with
  | create =>
    change L.queue s.create.state.os d = _
    unfold create
    split <;> rfl
  | bind k p =>
    change L.queue (bind O k p s).state.os d = _
    unfold bind
    split
    · rfl
    · rfl
    · rcases hbind : O.bind s.bindAddress p s.os with ⟨answer, os⟩
      cases answer with
      | error e => exact congrFun (L.bind_refused hs.valid hbind) d
      | ok d' =>
        obtain ⟨q, -, -, hadds⟩ := L.bind_ok hs.valid hbind
        apply (L.bind_empty hs.valid hbind).2
        rintro rfl
        rw [hadds.fresh] at hbound
        cases hbound
  | send => cases hc
  | receive k capacity =>
    obtain ⟨bound, os, hd, hkept, hqueue, hk⟩ := boundSocket_quiet hs.valid k
    change L.queue (receive O k capacity s).state.os d = _
    simp only [receive, hd]
    cases bound with
    | error e => exact congrFun hqueue d
    | ok d' =>
      have hne : k ≠ h := of_decide_eq_true hc
      have hothers := L.receive_others d' capacity hkept.valid d (hother (hk d' rfl) hne)
      exact hothers.trans (congrFun hqueue d)
  | poll k timeout => exact congrFun (poll_queue hs.valid k timeout) d
  | close k =>
    change L.queue (close O k s).state.os d = _
    unfold close
    cases hk : s.entry? k with
    | none => rfl
    | some entry =>
      cases entry with
      | none => rfl
      | some d' =>
        have hne : k ≠ h := of_decide_eq_true hc
        exact L.close_others d' hs.valid d (hother hk hne)
  | localPort hask k =>
    cases hask
    rfl

theorem mail_of_replays (hs : Sound L.toLawful s) (hh : Holds L.toLawful s h port)
    (hreplays : (transport O).Replays s cs s') (hcs : ∀ c ∈ cs, c.spares h = true) :
    mail L s' h = mail L s h := by
  have hkept : Sound L.toLawful s' ∧ Holds L.toLawful s' h port ∧ mail L s' h = mail L s h := by
    apply hreplays.induction (P := fun t =>
      Sound L.toLawful t ∧ Holds L.toLawful t h port ∧ mail L t h = mail L s h)
    · intro t c es t' hc htakes ⟨ht, hth, hmail⟩
      have hshift := shift_of_takes L.toLawful ht.valid htakes
      have hspares := hcs c hc
      exact ⟨ht.shift hshift, hth.keep ht hshift (Call.closes_of_spares hspares),
        (mail_spared ht hth htakes hspares).trans hmail⟩
    · exact ⟨hs, hh, rfl⟩
  exact hkept.2.2

/-- A datagram that a bound handle sends waits last where it is addressed to; if sending fails
nothing is added anywhere. -/
theorem mail_send (hs : Sound L.toLawful s) (haddress : s.bindAddress = .localhost)
    (hh : Holds L.toLawful s h port) (hk : Holds L.toLawful s k q) {data : Bytes}
    {target : Endpoint} {answer : Result Nat}
    (htakes : (transport O).Takes s (.send k data target answer) es s') :
    mail L s' h = mail L s h ++
      if answer.isOk && (L.names target.ip && target.port = port) then
        [⟨data, ⟨.localhost, q⟩⟩] else [] := by
  obtain ⟨d, hentry, hbound⟩ := hh
  obtain ⟨d', hentryk, hboundk⟩ := hk
  have hshift := shift_of_takes L.toLawful hs.valid htakes
  have hentry' := (hshift.keeps_entry hs hentry rfl).1
  obtain ⟨bound, os, hd, hkept, hqueue, hfound⟩ := boundSocket_quiet hs.valid k
  rw [mail_eq hentry, mail_eq hentry']
  cases htakes
  change L.queue (send O k data target s).state.os d = L.queue s.os d ++
    if (send O k data target s).answer.isOk && (L.names target.ip && target.port = port) then
      [⟨data, ⟨.localhost, q⟩⟩] else []
  simp only [send, hd]
  cases bound with
  | error e =>
    rw [hqueue]
    exact (List.append_nil _).symm
  | ok d'' =>
    obtain rfl : d' = d'' := by simpa [hentryk] using hfound d'' rfl
    rw [haddress, ← hkept.same] at hbound hboundk
    rw [← hqueue]
    cases hsent : (O.send d' data target os).1 with
    | error e =>
      simp only [hsent, L.send_failed d' data target hkept.valid hsent]
      exact (List.append_nil _).symm
    | ok n =>
      simp only [hsent]
      exact L.send_ok data target hkept.valid hboundk hsent hbound

/-- Receiving fails and takes nothing, or takes what waits first and hands out what the buffer holds
of it. -/
theorem mail_receive (hs : Sound L.toLawful s) (hh : Holds L.toLawful s h port) {capacity : Nat}
    {answer : Delivery} (htakes : (transport O).Takes s (.receive h capacity answer) es s') :
    (∃ e, answer.outcome = .error e) ∧ mail L s' h = mail L s h ∨
      ∃ packet, mail L s h = packet :: mail L s' h ∧
        answer = ⟨packet.data.take capacity,
          .ok ((packet.data.take capacity).length, packet.source)⟩ := by
  obtain ⟨d, hentry, hbound⟩ := hh
  have hshift := shift_of_takes L.toLawful hs.valid htakes
  have hentry' := (hshift.keeps_entry hs hentry rfl).1
  obtain ⟨bound, os, hd, hkept, hqueue, hfound⟩ := boundSocket_quiet hs.valid h
  rw [mail_eq hentry, mail_eq hentry']
  cases htakes
  change (∃ e, (receive O h capacity s).answer.outcome = .error e) ∧
    L.queue (receive O h capacity s).state.os d = _ ∨
      ∃ packet, _ = packet :: L.queue (receive O h capacity s).state.os d ∧
        (receive O h capacity s).answer = _
  simp only [receive, hd]
  cases bound with
  | error e => exact .inl ⟨⟨e, rfl⟩, congrFun hqueue d⟩
  | ok d' =>
    obtain rfl : d = d' := by simpa [hentry] using hfound d' rfl
    rw [← hkept.same] at hbound
    rw [← hqueue]
    cases hwaiting : L.queue os d with
    | nil =>
      obtain ⟨⟨e, he⟩, hempty⟩ := L.receive_empty capacity hkept.valid hwaiting
      refine .inl ⟨⟨.receive e.message, ?_⟩, hempty⟩
      simp only [delivery, he]
    | cons packet rest =>
      obtain ⟨hgot, hrest⟩ := L.receive_front capacity hkept.valid hbound hwaiting
      refine .inr ⟨packet, ?_, ?_⟩
      · simp only [hrest]
      · simp only [delivery, hgot]

theorem mail_of_timedOut (hs : Sound L.toLawful s) (hh : Holds L.toLawful s h port)
    {timeout : Duration} {answer : Result Readiness}
    (htakes : (transport O).Takes s (.poll h timeout answer) es s')
    (hanswer : answer = .ok .timedOut) : mail L s h = [] := by
  obtain ⟨d, hentry, hbound⟩ := hh
  obtain ⟨bound, os, hd, hkept, hqueue, hfound⟩ := boundSocket_quiet hs.valid h
  rw [mail_eq hentry, ← hqueue]
  cases htakes
  change (poll O h timeout s).answer = .ok .timedOut at hanswer
  simp only [poll, hd] at hanswer
  cases bound with
  | error e => cases hanswer
  | ok d' =>
    obtain rfl : d = d' := by simpa [hentry] using hfound d' rfl
    have htimed := L.setReadTimeout d (shortestPoll.atLeast timeout) hkept.valid
    have htimedQueue := L.setReadTimeout_queue d (shortestPoll.atLeast timeout) hkept.valid
    rw [← hkept.same, ← htimed.same] at hbound
    cases hwaiting : L.queue os d with
    | nil => rfl
    | cons packet rest =>
      have hfilled := L.peek_filled htimed.valid hbound
        (by rw [htimedQueue, hwaiting]; exact List.cons_ne_nil packet rest)
      simp only [peek, hfilled] at hanswer
      split at hanswer
      · cases hanswer
      · cases hanswer

theorem mail_bound (hs : Sound L.toLawful s) {answer : Result Unit}
    (htakes : (transport O).Takes s (.bind h port answer) es s') (hanswer : answer = .ok ()) :
    mail L s' h = [] := by
  cases htakes
  change (bind O h port s).answer = .ok () at hanswer
  change mail L (bind O h port s).state h = []
  unfold bind at hanswer ⊢
  cases hentry : s.entry? h with
  | none => simp only [hentry, reduceCtorEq] at hanswer
  | some entry =>
    cases entry with
    | some d => simp only [hentry, reduceCtorEq] at hanswer
    | none =>
      rcases hbind : O.bind s.bindAddress port s.os with ⟨bound, os⟩
      cases bound with
      | error e => simp only [hentry, hbind, reduceCtorEq] at hanswer
      | ok d =>
        have hset : entry? (({ s with os } : Host ω).setEntry h (some d)) h = some (some d) := by
          rw [entry?_setEntry, if_pos rfl]
          change Option.map _ ( s.entry? h) = _
          rw [hentry]
          rfl
        simp only
        rw [mail_eq hset]
        exact (L.bind_empty hs.valid hbind).1

end Host
end Datagram
