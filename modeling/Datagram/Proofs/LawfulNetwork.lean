import Datagram.Proofs.LoopbackLaws

/-!
# The machine's own network keeps its promises

`Network.os` is lawful, whether its loopback interface is up or down, and with the interface up it
delivers as `Os.Loopback` says. What makes it so is `Network.Proper`: descriptors come from below
the next one, and no two sockets want the same datagrams, so that the first socket that accepts one
is the only one.
-/

namespace Datagram

namespace Network

structure Proper (up : Bool) (n : Network) : Prop where
  interface : n.loopbackUp = up
  below : ∀ b ∈ n.bound, b.descriptor.raw < n.nextDescriptor
  apart : n.bound.Pairwise fun b b' => b.port = b'.port → overlaps b.address b'.address = false
  picks : firstPicked ≤ n.nextPort ∧ n.nextPort ≤ lastPicked

variable {up : Bool} {n n' : Network} {address : Ipv4} {port q : UInt16} {d : Descriptor}

theorem overlaps_self (address : Ipv4) : overlaps address address = true := by
  simp [overlaps]

theorem taken_eq_false (h : n.taken address port = false) {b : BoundPort} (hb : b ∈ n.bound)
    (hport : b.port = port) : overlaps b.address address = false := by
  have hall := List.any_eq_false.1 h b hb
  simpa [hport] using hall

theorem picks_following (h : firstPicked ≤ port ∧ port ≤ lastPicked) :
    firstPicked ≤ following port ∧ following port ≤ lastPicked := by
  unfold following
  by_cases hlast : port = lastPicked
  · rw [if_pos hlast]
    decide
  · rw [if_neg hlast]
    have hne : port.toNat ≠ 60999 := fun he => hlast (UInt16.toNat_inj.1 he)
    simp only [UInt16.le_iff_toNat_le] at *
    change 32768 ≤ port.toNat ∧ port.toNat ≤ 60999 at h
    have hnext : (port + 1).toNat = port.toNat + 1 := by
      rw [UInt16.toNat_add]
      change (port.toNat + 1) % 65536 = _
      omega
    change 32768 ≤ (port + 1).toNat ∧ (port + 1).toNat ≤ 60999
    omega

/-- A port that is picked is free, and one that the system picks from. -/
theorem pickFrom_spec {count : Nat} (hport : firstPicked ≤ port ∧ port ≤ lastPicked)
    (h : n.pickFrom address port count = some q) :
    n.taken address q = false ∧ firstPicked ≤ q ∧ q ≤ lastPicked := by
  induction count generalizing port with
  | zero => cases h
  | succ count ih =>
    rw [pickFrom] at h
    split at h
    · exact ih (picks_following hport) h
    · rename_i hfree
      obtain rfl := Option.some.inj h
      exact ⟨Bool.eq_false_iff.2 hfree, hport⟩

/-- Binding fails and changes nothing, or adds a socket at a free port. -/
theorem bind_cases (h : n.Proper up) (address : Ipv4) (port : UInt16) :
    (∃ e, bind address port n = (.error e, n)) ∨
      ∃ q next, q ≠ 0 ∧ (port ≠ 0 → q = port) ∧ n.taken address q = false ∧
        (firstPicked ≤ next ∧ next ≤ lastPicked) ∧
        bind address port n =
          (.ok ⟨n.nextDescriptor⟩, (({ n with nextPort := next } : Network).add address q).2) := by
  unfold bind
  split
  · exact .inl ⟨_, rfl⟩
  split
  · rename_i hzero
    cases hpick : n.pick? address with
    | none => exact .inl ⟨_, rfl⟩
    | some q =>
      obtain ⟨hfree, hpicked⟩ := pickFrom_spec h.picks hpick
      refine .inr ⟨q, following q, ?_, absurd hzero, hfree, picks_following hpicked, rfl⟩
      rintro rfl
      exact absurd hpicked.1 (by decide)
  split
  · exact .inl ⟨_, rfl⟩
  split
  · exact .inl ⟨_, rfl⟩
  · rename_i hport _ hfree
    exact .inr ⟨port, n.nextPort, hport, fun _ => rfl, Bool.eq_false_iff.2 hfree, h.picks, rfl⟩

def endpoint? (n : Network) (d : Descriptor) : Option Endpoint :=
  (n.find? d).map fun b => ⟨b.address, b.port⟩

def queueOf (n : Network) (d : Descriptor) : List Packet := ((n.find? d).map (·.queue)).getD []

theorem find?_next (h : n.Proper up) : n.find? ⟨n.nextDescriptor⟩ = none := by
  rw [find?, List.find?_eq_none]
  intro b hb
  have hlt := h.below b hb
  simp only [decide_eq_true_eq]
  intro he
  rw [he] at hlt
  exact absurd hlt (Nat.lt_irrefl _)

theorem find?_add (h : n.Proper up) (next : UInt16) (d : Descriptor) :
    (({ n with nextPort := next } : Network).add address q).2.find? d =
      if d = ⟨n.nextDescriptor⟩ then some ⟨⟨n.nextDescriptor⟩, address, q, []⟩ else n.find? d := by
  simp only [add, find?, List.find?_append]
  by_cases hd : d = ⟨n.nextDescriptor⟩
  · subst d
    have hnone := find?_next h
    rw [find?] at hnone
    rw [hnone, if_pos rfl]
    simp
  · have hne : (⟨n.nextDescriptor⟩ : Descriptor) ≠ d := Ne.symm hd
    simp [hne, hd]

theorem proper_add (h : n.Proper up) {next : UInt16}
    (hnext : firstPicked ≤ next ∧ next ≤ lastPicked) (hfree : n.taken address q = false) :
    (({ n with nextPort := next } : Network).add address q).2.Proper up where
  interface := h.interface
  below b hb := by
    change b.descriptor.raw < n.nextDescriptor + 1
    rcases List.mem_append.1 hb with hb | hb
    · exact Nat.lt_succ_of_lt (h.below b hb)
    · rw [List.mem_singleton.1 hb]
      exact Nat.lt_succ_self _
  apart := by
    refine List.pairwise_append.2 ⟨h.apart, List.pairwise_singleton _ _, ?_⟩
    intro b hb b' hb' hport
    rw [List.mem_singleton.1 hb'] at hport ⊢
    exact taken_eq_false hfree hb hport
  picks := hnext

theorem free_of_taken (h : n.taken address q = false) (d : Descriptor) :
    n.endpoint? d ≠ some ⟨address, q⟩ := by
  intro he
  obtain ⟨b, hfound, hb⟩ := Option.map_eq_some_iff.1 he
  injection hb with haddress hport
  have hclash := taken_eq_false h (List.mem_of_find?_eq_some hfound) hport
  rw [haddress, overlaps_self] at hclash
  cases hclash

/-- The same sockets with other queues. -/
def mapQueues (n : Network) (f : BoundPort → List Packet) : Network :=
  { n with bound := n.bound.map fun b => { b with queue := f b } }

theorem mapQueues_queue (n : Network) : n.mapQueues (·.queue) = n := by
  have hsame : (fun b : BoundPort => { b with queue := b.queue }) = id := rfl
  rw [mapQueues, hsame, List.map_id]

theorem find?_mapQueues (n : Network) (f : BoundPort → List Packet) (d : Descriptor) :
    (n.mapQueues f).find? d = (n.find? d).map fun b => { b with queue := f b } := by
  simp only [find?, mapQueues, List.find?_map]
  rfl

theorem endpoint?_mapQueues (n : Network) (f : BoundPort → List Packet) :
    (n.mapQueues f).endpoint? = n.endpoint? := by
  funext d
  rw [endpoint?, find?_mapQueues, Option.map_map]
  rfl

theorem proper_mapQueues (h : n.Proper up) (f : BoundPort → List Packet) :
    (n.mapQueues f).Proper up where
  interface := h.interface
  below b hb := by
    obtain ⟨b', hb', rfl⟩ := List.mem_map.1 hb
    exact h.below b' hb'
  apart := List.pairwise_map.2 h.apart
  picks := h.picks

theorem setQueue_eq (n : Network) (d : Descriptor) (queue : List Packet) :
    n.setQueue d queue = n.mapQueues fun b => if b.descriptor = d then queue else b.queue := by
  simp only [setQueue, mapQueues]
  congr 1
  apply List.map_congr_left
  intro b _
  split <;> rfl

theorem orLocalhost_ne (ip : Ipv4) : orLocalhost ip ≠ .unspecified := by
  unfold orLocalhost
  split
  · decide
  · assumption

/-- Two sockets that accept the same datagram want the same datagrams. -/
theorem overlaps_of_accepts {target : Endpoint} {b b' : BoundPort} (hb : accepts target b = true)
    (hb' : accepts target b' = true) : b.port = b'.port ∧ overlaps b.address b'.address = true := by
  have hne := orLocalhost_ne target.ip
  simp only [accepts, overlaps, Bool.and_eq_true, Bool.or_eq_true, decide_eq_true_eq] at *
  obtain ⟨hport, hwants⟩ := hb
  obtain ⟨hport', hwants'⟩ := hb'
  refine ⟨hport.trans hport'.symm, ?_⟩
  rcases hwants with (h | h) | h
  · rcases hwants' with (h' | h') | h'
    · exact .inl (.inl (h.trans h'.symm))
    · exact .inr h'
    · exact absurd h' hne
  · exact .inl (.inr h)
  · exact absurd h hne

/-- As no two sockets want the same datagrams, each that accepts one gets it. -/
theorem enqueue_eq_map {bound : List BoundPort}
    (h : bound.Pairwise fun b b' => b.port = b'.port → overlaps b.address b'.address = false)
    (packet : Packet) (target : Endpoint) :
    enqueue packet target bound = bound.map fun b =>
      { b with queue := if accepts target b then b.queue ++ [packet] else b.queue } := by
  induction bound with
  | nil => rfl
  | cons b rest ih =>
    obtain ⟨hfirst, hrest⟩ := List.pairwise_cons.1 h
    rw [enqueue, List.map_cons]
    by_cases hb : accepts target b = true
    -- nobody behind the first socket that accepts the datagram accepts it too
    · have hothers : ∀ b' ∈ rest, accepts target b' = false := by
        intro b' hb'
        rw [← Bool.not_eq_true]
        intro haccepts
        obtain ⟨hport, hclash⟩ := overlaps_of_accepts hb haccepts
        rw [hfirst b' hb' hport] at hclash
        cases hclash
      have hsame : (rest.map fun b' =>
          { b' with queue := if accepts target b' then b'.queue ++ [packet] else b'.queue }) =
          rest := by
        rw [List.map_congr_left (g := id), List.map_id]
        intro b' hb'
        rw [hothers b' hb']
        rfl
      rw [if_pos hb, if_pos hb, hsame]
    · rw [if_neg hb, if_neg hb, ih hrest]

theorem deliver_eq (h : n.Proper up) (packet : Packet) (target : Endpoint) :
    n.deliver packet target = n.mapQueues fun b =>
      if n.loopbackUp && accepts target b then b.queue ++ [packet] else b.queue := by
  unfold deliver
  by_cases hup : n.loopbackUp = true
  · rw [if_pos hup, enqueue_eq_map h.apart, mapQueues, hup]
    simp only [Bool.true_and]
  · have hdown : n.loopbackUp = false := Bool.eq_false_iff.2 hup
    rw [if_neg hup, hdown]
    simp only [Bool.false_and]
    exact (mapQueues_queue n).symm

/-- Sending fails and changes nothing, or delivers the datagram with the address of its sender. -/
theorem send_cases (d : Descriptor) (data : Bytes) (target : Endpoint) (n : Network) :
    (∃ e, send d data target n = (.error e, n)) ∨
      ∃ b, n.find? d = some b ∧ send d data target n =
        (.ok data.length, n.deliver ⟨data, ⟨orLocalhost b.address, b.port⟩⟩ target) := by
  unfold send
  split
  · exact .inl ⟨_, rfl⟩
  rename_i b hfound
  split
  · exact .inl ⟨_, rfl⟩
  split
  · exact .inl ⟨_, rfl⟩
  split
  · exact .inl ⟨_, rfl⟩
  split
  · exact .inl ⟨_, rfl⟩
  · exact .inr ⟨b, hfound, rfl⟩

/-- Receiving fails and changes nothing where nothing is queued, or takes the front of the queue. -/
theorem receive_cases (d : Descriptor) (capacity : Nat) (n : Network) :
    (n.queueOf d = [] ∧ ∃ e, receive d capacity n = (⟨[], .error e⟩, n)) ∨
      ∃ packet rest, n.queueOf d = packet :: rest ∧ receive d capacity n =
        (⟨packet.data.take capacity,
          .ok ((packet.data.take capacity).length, .v4 packet.source)⟩, n.setQueue d rest) := by
  rw [queueOf, receive]
  cases n.find? d with
  | none => exact .inl ⟨rfl, _, rfl⟩
  | some b =>
    cases hqueue : b.queue with
    | nil => exact .inl ⟨hqueue, nothingQueued, by simp only [hqueue]⟩
    | cons packet rest => exact .inr ⟨packet, rest, hqueue, by simp only [hqueue]⟩

/-- Sending and receiving change queues at most. -/
theorem send_eq (h : n.Proper up) (d : Descriptor) (data : Bytes) (target : Endpoint) :
    ∃ f, (send d data target n).2 = n.mapQueues f := by
  rcases send_cases d data target n with ⟨e, he⟩ | ⟨b, -, hok⟩
  · rw [he]
    exact ⟨_, (mapQueues_queue n).symm⟩
  · rw [hok]
    exact ⟨_, deliver_eq h _ _⟩

theorem receive_eq (n : Network) (d : Descriptor) (capacity : Nat) :
    ∃ f, (receive d capacity n).2 = n.mapQueues f := by
  rcases receive_cases d capacity n with ⟨-, e, he⟩ | ⟨packet, rest, -, hok⟩
  · rw [he]
    exact ⟨_, (mapQueues_queue n).symm⟩
  · rw [hok]
    exact ⟨_, setQueue_eq ..⟩

theorem find?_close (n : Network) {d d' : Descriptor} (hd : d' ≠ d) :
    (n.close d).find? d' = n.find? d' := by
  simp only [find?, close, List.find?_filter]
  congr 1
  funext b
  by_cases hb : b.descriptor = d'
  · simp [hb, hd]
  · simp [hb]

theorem proper_close (h : n.Proper up) (d : Descriptor) : (n.close d).Proper up where
  interface := h.interface
  below b hb := h.below b (List.mem_filter.1 hb).1
  apart := h.apart.filter _
  picks := h.picks

def places (up : Bool) : Os.Places Network where
  Valid := Proper up
  bound := endpoint?

theorem keeps_refl (h : n.Proper up) : (places up).Keeps n n := ⟨h, rfl⟩

theorem keeps_mapQueues (h : n.Proper up) (f : BoundPort → List Packet) :
    (places up).Keeps n (n.mapQueues f) := ⟨proper_mapQueues h f, endpoint?_mapQueues n f⟩

/-- Sockets of the machine's own network keep to their ports, be the interface up or down. -/
def lawful (up : Bool) : os.Lawful where
  toPlaces := places up
  bind_ok {n n' address port d} h hbind := by
    rcases bind_cases h address port with ⟨e, he⟩ | ⟨q, next, hq, hport, hfree, hnext, hok⟩
    · cases he.symm.trans hbind
    · cases hok.symm.trans hbind
      refine ⟨q, hq, hport, proper_add h hnext hfree, ?_, free_of_taken hfree, ?_, ?_⟩
      · change Option.map _ _ = none
        rw [find?_next h]
        rfl
      · change Option.map _ _ = some _
        rw [find?_add h, if_pos rfl]
        rfl
      · intro d' hd'
        change Option.map _ _ = Option.map _ _
        rw [find?_add h, if_neg hd']
  bind_error {n n' address port e} h hbind := by
    rcases bind_cases h address port with ⟨e', he⟩ | ⟨q, next, -, -, -, -, hok⟩
    · cases he.symm.trans hbind
      exact keeps_refl h
    · cases hok.symm.trans hbind
  duplicate _ h := keeps_refl h
  setReadTimeout _ _ h := keeps_refl h
  peek {n} d h := by
    have hsame : (peek d n).2 = n := by
      unfold peek
      split <;> rfl
    change (places up).Keeps n (peek d n).2
    rw [hsame]
    exact keeps_refl h
  send {n} d data target h := by
    obtain ⟨f, hf⟩ := send_eq h d data target
    change (places up).Keeps n (send d data target n).2
    rw [hf]
    exact keeps_mapQueues h f
  receive {n} d capacity h := by
    obtain ⟨f, hf⟩ := receive_eq n d capacity
    change (places up).Keeps n (receive d capacity n).2
    rw [hf]
    exact keeps_mapQueues h f
  localPort {n d e} _ hbound := by
    obtain ⟨b, hfound, rfl⟩ := Option.map_eq_some_iff.1 hbound
    change (n.find? d).map (·.port) = _
    rw [hfound]
    rfl
  close {n} d h := by
    refine ⟨proper_close h d, ?_⟩
    intro d' hd'
    change Option.map _ ((n.close d).find? d') = Option.map _ _
    rw [find?_close n hd']

theorem lawful_duplicates (up : Bool) : (lawful up).Duplicates := fun _ _ _ _ _ => rfl

theorem proper_empty (up : Bool) : ({ loopbackUp := up } : Network).Proper up where
  interface := rfl
  below b hb := absurd hb List.not_mem_nil
  apart := .nil
  picks := ⟨Nat.le_refl 32768, show (32768 : UInt16) ≤ 60999 by decide⟩

variable {b : BoundPort}

theorem descriptor_of_find (h : n.find? d = some b) : b.descriptor = d := by
  have hd := List.find?_some h
  exact of_decide_eq_true hd

theorem find?_of_endpoint {e : Endpoint} (h : n.endpoint? d = some e) :
    ∃ b, n.find? d = some b ∧ b.address = e.ip ∧ b.port = e.port ∧ n.queueOf d = b.queue := by
  obtain ⟨b, hfound, rfl⟩ := Option.map_eq_some_iff.1 h
  exact ⟨b, hfound, rfl, rfl, by rw [queueOf, hfound]; rfl⟩

theorem queueOf_mapQueues (n : Network) (f : BoundPort → List Packet) (d : Descriptor) :
    (n.mapQueues f).queueOf d = ((n.find? d).map f).getD [] := by
  rw [queueOf, find?_mapQueues, Option.map_map]
  rfl

theorem queueOf_setQueue (n : Network) (d : Descriptor) (queue : List Packet) {d' : Descriptor}
    (hd : d' ≠ d) : (n.setQueue d queue).queueOf d' = n.queueOf d' := by
  rw [setQueue_eq, queueOf_mapQueues, queueOf]
  cases hfound : n.find? d' with
  | none => rfl
  | some b =>
    have hne : b.descriptor ≠ d := by
      rw [descriptor_of_find hfound]
      exact hd
    simp only [Option.map_some, if_neg hne]

/-- At the loopback address a datagram is accepted if it names that address and the port. -/
theorem accepts_localhost {target : Endpoint} (hb : b.address = .localhost) :
    accepts target b =
      (decide (orLocalhost target.ip = .localhost) && decide (target.port = b.port)) := by
  have hne := orLocalhost_ne target.ip
  have hself : Ipv4.localhost ≠ .unspecified := by decide
  rw [accepts, overlaps, hb, Bool.and_comm, decide_eq_false hne, decide_eq_false hself,
    Bool.or_false, Bool.or_false]
  simp only [eq_comm]

/-- With its loopback interface up, the machine's own network delivers. The unspecified address is
another name for the loopback address. -/
def loopbackLaws : os.Loopback where
  toLawful := lawful true
  queue := queueOf
  names ip := orLocalhost ip = .localhost
  names_localhost := by decide
  bind_empty {n n' address port d} h hbind := by
    rcases bind_cases h address port with ⟨e, he⟩ | ⟨q, next, -, -, -, -, hok⟩
    · cases he.symm.trans hbind
    · cases hok.symm.trans hbind
      constructor
      · rw [queueOf, find?_add h, if_pos rfl]
        rfl
      · intro d' hd'
        rw [queueOf, queueOf, find?_add h, if_neg hd']
  bind_refused {n n' address port e} h hbind := by
    rcases bind_cases h address port with ⟨e', he⟩ | ⟨q, next, -, -, -, -, hok⟩
    · cases he.symm.trans hbind
      rfl
    · cases hok.symm.trans hbind
  duplicate_queue _ _ := rfl
  setReadTimeout_queue _ _ _ := rfl
  peek_queue {n} d _ := by
    change (peek d n).2.queueOf = n.queueOf
    unfold peek
    split <;> rfl
  peek_filled {n d e} _ hbound hfilled := by
    obtain ⟨b, hfound, -, -, hqueue⟩ := find?_of_endpoint hbound
    rw [hqueue] at hfilled
    change (peek d n).1 = _
    unfold peek
    rw [hfound]
    simp [hfilled]
  receive_empty {n d} capacity _ hempty := by
    change (∃ e, (receive d capacity n).1.outcome = .error e) ∧
      (receive d capacity n).2.queueOf d = []
    rcases receive_cases d capacity n with ⟨hqueue, e, he⟩ | ⟨packet, rest, hqueue, -⟩
    · rw [he]
      exact ⟨⟨e, rfl⟩, hqueue⟩
    · cases hqueue.symm.trans hempty
  receive_front {n d e packet rest} capacity _ hbound hfront := by
    obtain ⟨b, hfound, -, -, -⟩ := find?_of_endpoint hbound
    change (receive d capacity n).1 = _ ∧ (receive d capacity n).2.queueOf d = rest
    rcases receive_cases d capacity n with ⟨hqueue, -⟩ | ⟨first, others, hqueue, hok⟩
    · cases hqueue.symm.trans hfront
    · obtain ⟨rfl, rfl⟩ := List.cons.inj (hqueue.symm.trans hfront)
      rw [hok]
      refine ⟨rfl, ?_⟩
      rw [setQueue_eq, queueOf_mapQueues, hfound]
      simp [descriptor_of_find hfound]
  receive_others {n} d capacity _ d' hd' := by
    change (receive d capacity n).2.queueOf d' = n.queueOf d'
    rcases receive_cases d capacity n with ⟨-, e, he⟩ | ⟨packet, rest, -, hok⟩
    · rw [he]
    · rw [hok]
      exact queueOf_setQueue n d rest hd'
  send_ok {n d q} data target h hbound count hsent d' port hbound' := by
    obtain ⟨b, hfound, haddress, hport, -⟩ := find?_of_endpoint hbound
    obtain ⟨b', hfound', haddress', hport', hqueue'⟩ := find?_of_endpoint hbound'
    rcases send_cases d data target n with ⟨e, he⟩ | ⟨_, hsender, hok⟩
    · change (send d data target n).1 = _ at hsent
      rw [he] at hsent
      cases hsent
    · obtain rfl := Option.some.inj (hfound.symm.trans hsender)
      change (send d data target n).2.queueOf d' = n.queueOf d' ++ _
      have hup : n.loopbackUp = true := h.interface
      have hsource : orLocalhost b.address = .localhost := by
        rw [haddress]
        rfl
      have hgets : (true && accepts target b') =
          (decide (orLocalhost target.ip = .localhost) && decide (target.port = port)) := by
        rw [Bool.true_and, accepts_localhost haddress', hport']
      rw [hok, deliver_eq h, queueOf_mapQueues, hfound', hqueue', Option.map_some,
        Option.getD_some, hup, hgets, hsource, hport]
      split
      · rfl
      · exact (List.append_nil _).symm
  send_failed {n} d data target _ e hsent := by
    rcases send_cases d data target n with ⟨e', he⟩ | ⟨b, -, hok⟩
    · change (send d data target n).2.queueOf = n.queueOf
      rw [he]
    · change (send d data target n).1 = _ at hsent
      rw [hok] at hsent
      cases hsent
  close_others {n} d _ d' hd' := by
    change (n.close d).queueOf d' = _
    rw [queueOf, queueOf, find?_close n hd']

end Network
end Datagram
