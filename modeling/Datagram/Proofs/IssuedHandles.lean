import Datagram.Network
import Datagram.Proofs.BindingGate
import Datagram.Proofs.HostTable

/-!
# The handles that a host transport gives out

Whatever the operating system answers, successful creates give out the handles one, two, three and
so on until none is left, and every handle given out is either open or has been closed. So no handle
comes back: one that was closed is never given out again, and all calls on it fail from then on,
before the operating system is asked for anything.
-/

namespace Datagram

variable {ω : Type} {O : Os ω}

namespace Call

def closed? : Call → Option Handle
  | close h (.ok _) => some h
  | _ => none

/-- The handles that creates have given out, oldest first. -/
def issued (cs : List Call) : List Handle := cs.filterMap created?

/-- The handles that closes have taken away, oldest first. -/
def retired (cs : List Call) : List Handle := cs.filterMap closed?

theorem filterMap_snoc {α β : Type} (f : α → Option β) (l : List α) (a : α) :
    (l ++ [a]).filterMap f = l.filterMap f ++ (f a).toList := by
  rw [List.filterMap_append]
  cases ha : f a <;> simp [ha]

theorem issued_snoc (cs : List Call) (c : Call) :
    issued (cs ++ [c]) = issued cs ++ c.created?.toList := filterMap_snoc ..

theorem retired_snoc (cs : List Call) (c : Call) :
    retired (cs ++ [c]) = retired cs ++ c.closed?.toList := filterMap_snoc ..

end Call

namespace Host

variable {s s' : Host ω} {h : Handle} {c : Call} {cs cs' : List Call} {es : List Event}

/-- What a call does to the handles, whatever the operating system does. -/
inductive Turnover (s : Host ω) : Call → Host ω → Prop
  | created {s' : Host ω} (hlast : s.nextHandle ≠ lastHandle)
      (hnext : s'.nextHandle = s.nextHandle + 1)
      (hhandles : s'.handles = s.handles ++ [⟨s.nextHandle⟩]) :
      Turnover s (.create (.ok ⟨s.nextHandle⟩)) s'
  | closed {h : Handle} {s' : Host ω} (hopen : h ∈ s.handles) (hnext : s'.nextHandle = s.nextHandle)
      (hhandles : s.handles.Nodup → s'.handles = s.handles.erase h) :
      Turnover s (.close h (.ok ())) s'
  | stays {c : Call} {s' : Host ω} (hcreated : c.created? = none) (hclosed : c.closed? = none)
      (hnext : s'.nextHandle = s.nextHandle) (hhandles : s'.handles = s.handles) : Turnover s c s'

/-- Sending, receiving and polling change nothing but the state of the operating system. -/
theorem os_of_traffic (htakes : (transport O).Takes s c es s') (hc : c.isTraffic = true) :
    ∃ os, s' = { s with os } := by
  have hfound (h : Handle) : ∃ bound os, boundSocket O h s = (bound, { s with os }) := by
    rcases boundSocket_cases (O := O) s h with ⟨e, he⟩ | ⟨d, answer, -, -, hd⟩
    · exact ⟨_, s.os, he⟩
    · exact ⟨_, _, hd⟩
  cases htakes with
  | send h data target =>
    obtain ⟨bound, os, hd⟩ := hfound h
    change ∃ os, (send O h data target s).state = _
    simp only [send, hd]
    cases bound <;> exact ⟨_, rfl⟩
  | receive h capacity =>
    obtain ⟨bound, os, hd⟩ := hfound h
    change ∃ os, (receive O h capacity s).state = _
    simp only [receive, hd]
    cases bound <;> exact ⟨_, rfl⟩
  | poll h timeout =>
    obtain ⟨bound, os, hd⟩ := hfound h
    change ∃ os, (poll O h timeout s).state = _
    simp only [poll, hd]
    cases bound with
    | error e => exact ⟨_, rfl⟩
    | ok d =>
      simp only [peek]
      split
      · exact ⟨_, rfl⟩
      · split
        · exact ⟨_, rfl⟩
        · split <;> exact ⟨_, rfl⟩
  | _ => cases hc

theorem turnover_of_takes (htakes : (transport O).Takes s c es s') : Turnover s c s' := by
  cases hc : c.isTraffic with
  | true =>
    obtain ⟨os, rfl⟩ := os_of_traffic htakes hc
    cases c with
    | send | receive | poll => exact .stays rfl rfl rfl rfl
    | _ => cases hc
  | false =>
    cases htakes with
    | create =>
      change Turnover s (.create s.create.answer) s.create.state
      unfold create
      by_cases hlast : s.nextHandle = lastHandle
      · rw [if_pos hlast]
        exact .stays rfl rfl rfl rfl
      · rw [if_neg hlast]
        exact .created hlast rfl (List.map_append ..)
    | bind h port =>
      change Turnover s (.bind h port (bind O h port s).answer) (bind O h port s).state
      unfold bind
      split
      · exact .stays rfl rfl rfl rfl
      · exact .stays rfl rfl rfl rfl
      · rcases O.bind s.bindAddress port s.os with ⟨answer, os⟩
        cases answer with
        | error e => exact .stays rfl rfl rfl rfl
        | ok d => exact .stays rfl rfl rfl (handles_setEntry ..)
    | close h =>
      change Turnover s (.close h (close O h s).answer) (close O h s).state
      unfold close
      cases hentry : s.entry? h with
      | none => exact .stays rfl rfl rfl rfl
      | some entry =>
        exact .closed (mem_handles_iff.2 ⟨entry, hentry⟩) rfl fun hnodup => handles_remove hnodup h
    | localPort hask h =>
      cases hask
      exact .stays rfl rfl rfl rfl
    | _ => cases hc

/-- The calls so far have given out the handles up to the next one, and those of them that they have
not taken away are open. -/
structure Issued (cs : List Call) (s : Host ω) : Prop where
  next : s.nextHandle.toNat = (Call.issued cs).length + 1
  counted : (Call.issued cs).map (·.raw.toNat) = List.range' 1 (Call.issued cs).length
  parted : (s.handles ++ Call.retired cs).Perm (Call.issued cs)

namespace Issued

theorem start (address : Ipv4) (os : ω) : Issued [] ({ bindAddress := address, os } : Host ω) where
  next := rfl
  counted := rfl
  parted := .nil

/-- No handle is given out twice. -/
theorem nodup (hs : Issued cs s) : (Call.issued cs).Nodup := by
  have hraw : ((Call.issued cs).map (·.raw.toNat)).Nodup := by
    rw [hs.counted]
    exact List.nodup_range'
  exact List.Pairwise.of_map (·.raw.toNat)
    (fun h k hne heq => hne (congrArg (·.raw.toNat) heq)) hraw

theorem open_nodup (hs : Issued cs s) : (s.handles ++ Call.retired cs).Nodup :=
  hs.parted.nodup_iff.2 hs.nodup

theorem not_open (hs : Issued cs s) (hh : h ∈ Call.retired cs) : h ∉ s.handles := by
  intro hopen
  exact (List.nodup_append.1 hs.open_nodup).2.2 h hopen h hh rfl

theorem mem_issued_iff (hs : Issued cs s) :
    h ∈ Call.issued cs ↔ 1 ≤ h.raw.toNat ∧ h.raw.toNat < s.nextHandle.toNat := by
  have hraw : h.raw.toNat ∈ (Call.issued cs).map (·.raw.toNat) ↔
      1 ≤ h.raw.toNat ∧ h.raw.toNat < s.nextHandle.toNat := by
    rw [hs.counted, List.mem_range'_1, hs.next, Nat.add_comm 1]
  rw [← hraw, List.mem_map]
  constructor
  · intro hh
    exact ⟨h, hh, rfl⟩
  · rintro ⟨⟨k⟩, hk, hsame⟩
    obtain rfl : k = h.raw := UInt32.toNat_inj.1 hsame
    exact hk

theorem below (hs : Issued cs s) (hh : h ∈ s.handles) : h.raw < s.nextHandle :=
  UInt32.lt_iff_toNat_lt.2
    (hs.mem_issued_iff.1 (hs.parted.subset (List.mem_append_left _ hh))).2

theorem openSockets (hs : Issued cs s) :
    s.openSockets + (Call.retired cs).length = (Call.issued cs).length := by
  rw [← hs.parted.length_eq, List.length_append, handles, List.length_map]
  rfl

theorem length_le (hs : Issued cs s) : (Call.issued cs).length ≤ UInt32.size - 2 := by
  have hlt : s.nextHandle.toNat < UInt32.size := s.nextHandle.toNat_lt
  have hnext := hs.next
  omega

/-- Once the last handle has been given out, creating fails and changes nothing. -/
theorem create_exhausted (hs : Issued cs s) (hall : (Call.issued cs).length = UInt32.size - 2) :
    s.create = { answer := .error (.create "handle space exhausted"), state := s } := by
  have hnext := hs.next
  have hsize : UInt32.size = lastHandle.toNat + 1 := rfl
  have hpos : lastHandle.toNat ≠ 0 := by decide
  have hlast : s.nextHandle = lastHandle := by
    apply UInt32.toNat_inj.1
    omega
  rw [Host.create, if_pos hlast]

theorem create_answer (hs : Issued cs s) (hmore : (Call.issued cs).length < UInt32.size - 2) :
    s.create.answer = .ok ⟨s.nextHandle⟩ := by
  have hnext := hs.next
  have hsize : UInt32.size = lastHandle.toNat + 1 := rfl
  have hlast : s.nextHandle ≠ lastHandle := by
    intro hlast
    have hraw := congrArg UInt32.toNat hlast
    omega
  rw [Host.create, if_neg hlast]

/-- One more handle is given out, which is the next number. -/
theorem create (hs : Issued cs s) (hlast : s.nextHandle ≠ lastHandle)
    (hnext : s'.nextHandle = s.nextHandle + 1)
    (hhandles : s'.handles = s.handles ++ [⟨s.nextHandle⟩]) :
    Issued (cs ++ [.create (.ok ⟨s.nextHandle⟩)]) s' := by
  have hne : s.nextHandle.toNat ≠ 4294967295 := fun he => hlast (UInt32.toNat_inj.1 he)
  have hlt := s.nextHandle.toNat_lt
  have hissued : Call.issued (cs ++ [.create (.ok ⟨s.nextHandle⟩)]) =
      Call.issued cs ++ [⟨s.nextHandle⟩] := Call.issued_snoc ..
  have hretired : Call.retired (cs ++ [.create (.ok ⟨s.nextHandle⟩)]) = Call.retired cs :=
    (Call.retired_snoc ..).trans (List.append_nil _)
  refine ⟨?_, ?_, ?_⟩
  · have hsucc : (s.nextHandle + 1).toNat = s.nextHandle.toNat + 1 := by
      rw [UInt32.toNat_add]
      change (s.nextHandle.toNat + 1) % 4294967296 = _
      omega
    rw [hnext, hsucc, hs.next, hissued, List.length_append]
    rfl
  · rw [hissued, List.map_append, hs.counted, List.length_append, List.length_singleton,
      List.range'_concat, List.map_singleton, hs.next]
    simp only [Nat.one_mul, Nat.add_comm]
  · rw [hissued, hretired, hhandles]
    have hmoved (h : Handle) : (s.handles ++ [h] ++ Call.retired cs).Perm
        (s.handles ++ Call.retired cs ++ [h]) := by
      rw [List.append_assoc, List.append_assoc]
      exact List.perm_append_comm.append_left _
    exact (hmoved _).trans (hs.parted.append_right _)

/-- An open handle is taken away. -/
theorem close (hs : Issued cs s) (hopen : h ∈ s.handles) (hnext : s'.nextHandle = s.nextHandle)
    (hhandles : s'.handles = s.handles.erase h) : Issued (cs ++ [.close h (.ok ())]) s' := by
  have hissued : Call.issued (cs ++ [.close h (.ok ())]) = Call.issued cs :=
    (Call.issued_snoc ..).trans (List.append_nil _)
  have hretired : Call.retired (cs ++ [.close h (.ok ())]) = Call.retired cs ++ [h] :=
    Call.retired_snoc ..
  refine ⟨?_, ?_, ?_⟩
  · rw [hnext, hissued]
    exact hs.next
  · rw [hissued]
    exact hs.counted
  · rw [hissued, hretired, hhandles, ← List.append_assoc]
    have hmoved := List.perm_append_singleton h (s.handles.erase h ++ Call.retired cs)
    have hback := (List.perm_cons_erase hopen).symm.append_right (Call.retired cs)
    exact (hmoved.trans hback).trans hs.parted

theorem snoc (hs : Issued cs s) (hc : Turnover s c s') : Issued (cs ++ [c]) s' := by
  cases hc with
  | created hlast hnext hhandles => exact hs.create hlast hnext hhandles
  | closed hopen hnext hhandles =>
    exact hs.close hopen hnext (hhandles (List.nodup_append.1 hs.open_nodup).1)
  | stays hcreated hclosed hnext hhandles =>
    have hissued : Call.issued (cs ++ [c]) = Call.issued cs := by
      rw [Call.issued_snoc, hcreated, Option.toList_none, List.append_nil]
    have hretired : Call.retired (cs ++ [c]) = Call.retired cs := by
      rw [Call.retired_snoc, hclosed, Option.toList_none, List.append_nil]
    refine ⟨?_, ?_, ?_⟩
    · rw [hnext, hissued]
      exact hs.next
    · rw [hissued]
      exact hs.counted
    · rw [hhandles, hissued, hretired]
      exact hs.parted

theorem replays (hs : Issued cs s) (h : (transport O).Replays s cs' s') :
    Issued (cs ++ cs') s' := by
  induction h generalizing cs with
  | nil =>
    rw [List.append_nil]
    exact hs
  | @cons t c es t₁ cs' t₂ hc _ ih =>
    have hlater := ih (hs.snoc (turnover_of_takes hc))
    rw [List.append_assoc] at hlater
    exact hlater

end Issued

/-- Every call on the handle fails and leaves everything as it is. -/
structure Refuses (O : Os ω) (s : Host ω) (h : Handle) : Prop where
  bind : ∀ port, Host.bind O h port s = { answer := .error (.invalidHandle h), state := s }
  send : ∀ data target,
    Host.send O h data target s = { answer := .error (.invalidHandle h), state := s }
  receive : ∀ capacity,
    Host.receive O h capacity s = { answer := ⟨[], .error (.invalidHandle h)⟩, state := s }
  poll : ∀ timeout, Host.poll O h timeout s = { answer := .error (.invalidHandle h), state := s }
  close : Host.close O h s = { answer := .error (.invalidHandle h), state := s }
  port : portOf? O h s = none

theorem refuses_of_not_open (O : Os ω) (hh : h ∉ s.handles) : Refuses O s h := by
  have hentry : s.entry? h = none := entry?_eq_none_iff.2 hh
  have hbound : boundSocket O h s = (.error (.invalidHandle h), s) := by
    simp only [boundSocket, hentry]
  refine ⟨?_, ?_, ?_, ?_, ?_, ?_⟩
  · intro port
    simp only [Host.bind, hentry]
  · intro data target
    simp only [Host.send, hbound]
  · intro capacity
    simp only [Host.receive, hbound]
  · intro timeout
    simp only [Host.poll, hbound]
  · simp only [Host.close, hentry]
  · simp only [portOf?, hentry]

theorem close_answer (O : Os ω) (hopen : h ∈ s.handles) : (Host.close O h s).answer = .ok () := by
  obtain ⟨entry, hentry⟩ := mem_handles_iff.1 hopen
  simp only [Host.close, hentry]

/-- A call on a handle that is refused says so, and asking for its port gives none. -/
theorem Refuses.answer (hr : Refuses O s h) (htakes : (transport O).Takes s c es s')
    (hc : c.handle? = some h) :
    c.failure? = some (.invalidHandle h) ∨ c = .localPort h none := by
  cases htakes with
  | create => cases hc
  | bind k port =>
    cases hc
    left
    change (Call.bind h port (Host.bind O h port s).answer).failure? = _
    rw [hr.bind]
    rfl
  | send k data target =>
    cases hc
    left
    change (Call.send h data target (Host.send O h data target s).answer).failure? = _
    rw [hr.send]
    rfl
  | receive k capacity =>
    cases hc
    left
    change (Call.receive h capacity (Host.receive O h capacity s).answer).failure? = _
    rw [hr.receive]
    rfl
  | poll k timeout =>
    cases hc
    left
    change (Call.poll h timeout (Host.poll O h timeout s).answer).failure? = _
    rw [hr.poll]
    rfl
  | close k =>
    cases hc
    left
    change (Call.close h (Host.close O h s).answer).failure? = _
    rw [hr.close]
    rfl
  | localPort hask k =>
    cases hask
    cases hc
    right
    change Call.localPort h (portOf? O h s) = _
    rw [hr.port]

theorem Issued.refuses (hs : Issued cs s) (hh : h ∈ Call.retired cs) : Refuses O s h :=
  refuses_of_not_open O (hs.not_open hh)

/-- A handle that was closed is refused by all later calls. -/
theorem Issued.later_answer (hs : Issued cs s) (hh : h ∈ Call.retired cs)
    (hlater : (transport O).Replays s cs' s') (hmem : c ∈ cs') (hc : c.handle? = some h) :
    c.failure? = some (.invalidHandle h) ∨ c = .localPort h none := by
  obtain ⟨before, after, rfl⟩ := List.append_of_mem hmem
  obtain ⟨t, hbefore, hrest⟩ := hlater.of_append
  have hretired : h ∈ Call.retired (cs ++ before) := by
    rw [Call.retired, List.filterMap_append]
    exact List.mem_append_left _ hh
  cases hrest with
  | cons htakes _ => exact ((hs.replays hbefore).refuses hretired).answer htakes hc

end Host

namespace Session

open Host

variable (O : Os ω) (address : Ipv4) (os : ω) (tables : List SlotTable) (specs : List SocketSpec)

/-- The calls of every run, whoever makes them, account for the handles at its end. -/
theorem issued_run (steps : List Step) :
    let start : Session (Host ω) := ofTables { bindAddress := address, os } tables specs
    let w := (start.run (transport O) steps).2.world
    (transport O).Replays start.world.transport w.calls w.transport ∧
      Issued w.calls w.transport := by
  intro start w
  obtain ⟨cs, hcalls, hreplays⟩ := run_replays (transport O) start steps
  have hall : w.calls = cs := hcalls
  rw [hall]
  exact ⟨hreplays, (Issued.start address os).replays hreplays⟩

/-- In every run over a host transport, with calls past the sockets on handles of all kinds and
whatever the operating system answers: the creates that succeed give out the handles one, two, three
and so on; once a handle was closed, every call on it fails because the handle is not valid; open
handles are below the next one, and as many as were given out and not closed. The next handle counts
those given out and never wraps, since creating fails and changes nothing once all are given out,
and succeeds before. -/
theorem handles_never_reused (steps : List Step) :
    let start : Session (Host ω) := ofTables { bindAddress := address, os } tables specs
    let w := (start.run (transport O) steps).2.world
    let s := w.transport
    (Call.issued w.calls).map (·.raw.toNat) = List.range' 1 (Call.issued w.calls).length ∧
      (∀ before h after, w.calls = before ++ .close h (.ok ()) :: after →
        Refuses O s h ∧ ∀ c ∈ after, c.handle? = some h →
          c.failure? = some (.invalidHandle h) ∨ c = .localPort h none) ∧
      (∀ h ∈ s.handles, h.raw < s.nextHandle) ∧
      s.openSockets + (Call.retired w.calls).length = (Call.issued w.calls).length ∧
      s.nextHandle.toNat = (Call.issued w.calls).length + 1 ∧
      (Call.issued w.calls).length ≤ UInt32.size - 2 ∧
      ((Call.issued w.calls).length < UInt32.size - 2 → s.create.answer = .ok ⟨s.nextHandle⟩) ∧
      ((Call.issued w.calls).length = UInt32.size - 2 →
        s.create = { answer := .error (.create "handle space exhausted"), state := s }) := by
  intro start w s
  obtain ⟨hreplays, hissued⟩ := issued_run O address os tables specs steps
  refine ⟨hissued.counted, ?_, fun h hh => hissued.below hh, hissued.openSockets, hissued.next,
    hissued.length_le, hissued.create_answer, hissued.create_exhausted⟩
  intro before h after hsplit
  have hmem : h ∈ Call.retired w.calls := by
    rw [hsplit, Call.retired]
    exact List.mem_filterMap.2 ⟨_, List.mem_append_right _ (List.mem_cons_self ..), rfl⟩
  refine ⟨hissued.refuses hmem, ?_⟩
  intro c hc hk
  change (transport O).Replays start.world.transport w.calls s at hreplays
  rw [hsplit] at hreplays
  obtain ⟨t, hbefore, hrest⟩ := hreplays.of_append
  cases hrest with
  | cons hclose hafter =>
    have hclosed := ((Issued.start address os).replays hbefore).snoc (turnover_of_takes hclose)
    refine hclosed.later_answer ?_ hafter hc hk
    rw [Call.retired_snoc]
    exact List.mem_append_right _ (List.mem_singleton.2 rfl)

/-- As many creates in a row give out as many handles, up to the last. -/
theorem creates_in_a_row {ss : Session (Host ω)} (count : Nat)
    (hs : Issued ss.world.calls ss.world.transport)
    (hcount : (Call.issued ss.world.calls).length + count ≤ UInt32.size - 2) :
    let w := (ss.run (transport O) (List.replicate count (.raw .create))).2.world
    Issued w.calls w.transport ∧
      (Call.issued w.calls).length = (Call.issued ss.world.calls).length + count ∧
      Call.retired w.calls = Call.retired ss.world.calls := by
  induction count generalizing ss with
  | zero => exact ⟨hs, rfl, rfl⟩
  | succ count ih =>
    have hanswer := hs.create_answer (by omega)
    have hcalls : (ss.step (transport O) (.raw .create)).2.world.calls =
        ss.world.calls ++ [.create ss.world.transport.create.answer] :=
      (World.perform_spec rfl).2
    have hnext : Issued (ss.step (transport O) (.raw .create)).2.world.calls
        (ss.step (transport O) (.raw .create)).2.world.transport := by
      rw [hcalls]
      exact hs.snoc (turnover_of_takes (O := O) .create)
    rw [hanswer] at hcalls
    have hissued : (Call.issued (ss.step (transport O) (.raw .create)).2.world.calls).length =
        (Call.issued ss.world.calls).length + 1 := by
      rw [hcalls, Call.issued_snoc, List.length_append]
      rfl
    have hretired : Call.retired (ss.step (transport O) (.raw .create)).2.world.calls =
        Call.retired ss.world.calls := by
      rw [hcalls, Call.retired_snoc]
      exact List.append_nil _
    obtain ⟨hend, hlength, hgone⟩ := ih hnext (by omega)
    refine ⟨hend, ?_, hgone.trans hretired⟩
    change (Call.issued (((ss.step (transport O) (.raw .create)).2.run (transport O)
      (List.replicate count (.raw .create))).2.world.calls)).length = _
    omega

theorem calls_close_open {ss : Session (Host ω)} {h : Handle}
    (hopen : h ∈ ss.world.transport.handles) :
    (ss.step (transport O) (.raw (.close h))).2.world.calls =
      ss.world.calls ++ [.close h (.ok ())] := by
  rw [← close_answer O hopen]
  exact (World.perform_spec rfl).2

/-- Creates in a row, and then the first of the handles is closed. -/
def createThenClose (count : Nat) : List Step :=
  List.replicate count (.raw .create) ++ [.raw (.close ⟨1⟩)]

/-- All handles are given out. -/
theorem handles_never_reused_exhausted :
    let start : Session (Host Network) := ofTables { bindAddress := .localhost, os := .loopback }
      [] []
    let w := (start.run (transport Network.os) (createThenClose (UInt32.size - 2))).2.world
    (Call.issued w.calls).length = UInt32.size - 2 ∧ Call.retired w.calls = [⟨1⟩] ∧
      Refuses Network.os w.transport ⟨1⟩ ∧
      w.transport.create =
        { answer := .error (.create "handle space exhausted"), state := w.transport } := by
  -- the number is made a variable, lest it be counted down to
  generalize hcount : UInt32.size - 2 = count
  intro start w
  obtain ⟨ss, hss⟩ : ∃ ss, ss = (start.run (transport Network.os)
    (List.replicate count (.raw .create))).2 := ⟨_, rfl⟩
  have hstart : Issued start.world.calls start.world.transport :=
    Issued.start .localhost Network.loopback
  have hroom : (Call.issued start.world.calls).length + count ≤ UInt32.size - 2 := by
    rw [hcount]
    exact Nat.le_of_eq (Nat.zero_add count)
  obtain ⟨hissued, hlength, hretired⟩ := creates_in_a_row Network.os count hstart hroom
  rw [← hss] at hissued hlength hretired
  have hnone : Call.issued start.world.calls = [] ∧ Call.retired start.world.calls = [] :=
    ⟨rfl, rfl⟩
  rw [hnone.1, List.length_nil, Nat.zero_add] at hlength
  rw [hnone.2] at hretired
  have hopen : (⟨1⟩ : Handle) ∈ ss.world.transport.handles := by
    have hparted := hissued.parted
    rw [hretired, List.append_nil] at hparted
    have hnext : 1 < ss.world.transport.nextHandle.toNat := by
      have hmany : 0 < count := by
        rw [← hcount]
        decide
      rw [hissued.next, hlength]
      omega
    exact hparted.mem_iff.2 (hissued.mem_issued_iff.2 ⟨Nat.le_refl 1, hnext⟩)
  have hcalls : w.calls = ss.world.calls ++ [.close ⟨1⟩ (.ok ())] := by
    rw [← calls_close_open Network.os hopen, hss]
    exact congrArg (fun ss : Session (Host Network) => ss.world.calls) (run_append ..)
  have hall : (Call.issued w.calls).length = count := by
    rw [hcalls, Call.issued_snoc, List.length_append, hlength]
    rfl
  have hclosed : Call.retired w.calls = [⟨1⟩] := by
    rw [hcalls, Call.retired_snoc, hretired]
    rfl
  obtain ⟨-, hgone, -, -, -, -, -, hexhausted⟩ :=
    handles_never_reused Network.os .localhost Network.loopback [] [] (createThenClose count)
  exact ⟨hall, hclosed, (hgone ss.world.calls ⟨1⟩ [] hcalls).1, hexhausted (hall.trans hcount.symm)⟩

end Session
end Datagram
