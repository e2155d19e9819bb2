import Datagram.Proofs.HostHandles

/-!
# What sockets do to a host transport

An operation of a socket hands the table of handles over from the binding that the socket had to the
one it has afterwards: the handle of the old one is closed if it is given up, a new one comes with a
handle that nobody had before and is bound to the port that the socket reports, and all that others
have bound stays bound. No close fails on the way.
-/

namespace Datagram

variable {ω : Type} {O : Os ω}

namespace Host

variable (L : O.Lawful)

/-- What a sequence of calls keeps, and the handles that it leaves open. -/
structure Follows (t : Host ω) (cs : List Call) (t' : Host ω) : Prop where
  sound : Sound L t'
  handles : t'.handles = cs.foldl Call.openAfter t.handles
  address : t'.bindAddress = t.bindAddress
  nextHandle : t.nextHandle.toNat ≤ t'.nextHandle.toNat
  keeps : ∀ k port, Holds L t k port → (∀ c ∈ cs, c.closes k = false) → Holds L t' k port

variable {L} {t t₁ t₂ : Host ω} {cs cs' : List Call} {c : Call} {es : List Event}

theorem follows_refl (hs : Sound L t) : Follows L t [] t :=
  ⟨hs, rfl, rfl, Nat.le_refl _, fun _ _ hk _ => hk⟩

theorem Shift.follows (hc : Shift L t c t₁) (hs : Sound L t) : Follows L t [c] t₁ where
  sound := hs.shift hc
  handles := hc.handles hs
  address := hc.address
  nextHandle := hc.nextHandle_le
  keeps _ _ hk hopen := hk.keep hs hc (hopen c (List.mem_singleton_self c))

theorem Follows.trans (h : Follows L t cs t₁) (h' : Follows L t₁ cs' t₂) :
    Follows L t (cs ++ cs') t₂ where
  sound := h'.sound
  handles := by rw [h'.handles, h.handles, List.foldl_append]
  address := h'.address.trans h.address
  nextHandle := Nat.le_trans h.nextHandle h'.nextHandle
  keeps k port hk hopen := by
    have hfirst := h.keeps k port hk fun c hc => hopen c (List.mem_append_left _ hc)
    exact h'.keeps k port hfirst fun c hc => hopen c (List.mem_append_right _ hc)

theorem follows_of_takes (hs : Sound L t) (htakes : (transport O).Takes t c es t₁) :
    Follows L t [c] t₁ := (shift_of_takes L hs.valid htakes).follows hs

theorem follows_of_replays (hs : Sound L t) (h : (transport O).Replays t cs t₁) :
    Follows L t cs t₁ := by
  induction h with
  | nil t => exact follows_refl hs
  | cons hc _ ih =>
    have hfirst := follows_of_takes hs hc
    exact hfirst.trans (ih hfirst.sound)

variable (L)

/-- The calls `cs` have given up the binding `x` for the binding `y`. -/
structure Handover (x y : Option Binding) (t : Host ω) (cs : List Call) (t' : Host ω) : Prop where
  follows : Follows L t cs t'
  holds : ∀ b, y = some b → Holds L t' b.handle b.port
  closes : ∀ c ∈ cs, ∀ k, c.closes k = true → (∃ b, x = some b ∧ b.handle = k) ∨ k ∉ t.handles
  handles : ∃ rest, t.handles.Perm ((x.map (·.handle)).toList ++ rest) ∧
    t'.handles.Perm ((y.map (·.handle)).toList ++ rest)
  fresh : ∀ b, y = some b → (∃ b', x = some b' ∧ b'.handle = b.handle) ∨
    t.nextHandle.toNat ≤ b.handle.raw.toNat
  succeeds : cs.filterMap Call.failedClose? = []

variable {L} {x y z : Option Binding} {b : Binding}

theorem Handover.frame (h : Handover L x y t cs t₁) {k : Handle} {port : UInt16}
    (hk : Holds L t k port) (hothers : ∀ b, x = some b → b.handle ≠ k) : Holds L t₁ k port := by
  apply h.follows.keeps k port hk
  intro c hc
  cases hclose : c.closes k with
  | false => rfl
  | true =>
    rcases h.closes c hc k hclose with ⟨b, hb, he⟩ | hnot
    · exact absurd he (hothers b hb)
    · exact absurd hk.mem_handles hnot

theorem Handover.trans (h : Handover L x y t cs t₁) (hs : Sound L t)
    (h' : Handover L y z t₁ cs' t₂) : Handover L x z t (cs ++ cs') t₂ := by
  obtain ⟨rest, hbefore, hbetween⟩ := h.handles
  obtain ⟨rest', hbetween', hafter⟩ := h'.handles
  have hrest : rest'.Perm rest :=
    (List.perm_append_left_iff _).1 (hbetween'.symm.trans hbetween)
  refine ⟨h.follows.trans h'.follows, h'.holds, ?_, ?_, ?_, ?_⟩
  · intro c hc k hclose
    rcases List.mem_append.1 hc with hc | hc
    · exact h.closes c hc k hclose
    rcases h'.closes c hc k hclose with ⟨b, hb, rfl⟩ | hnot
    · rcases h.fresh b hb with hold | hnew
      · exact .inl hold
      · right
        intro hmem
        exact absurd (hs.below _ hmem) (Nat.not_lt.2 hnew)
    · by_cases hx : ∃ b, x = some b ∧ b.handle = k
      · exact .inl hx
      · right
        intro hmem
        rcases List.mem_append.1 (hbefore.mem_iff.1 hmem) with hmem | hmem
        · obtain ⟨b, hb, he⟩ := Option.map_eq_some_iff.1 (Option.mem_toList.1 hmem)
          exact hx ⟨b, hb, he⟩
        · exact hnot (hbetween.mem_iff.2 (List.mem_append_right _ hmem))
  · exact ⟨rest, hbefore, hafter.trans (hrest.append_left _)⟩
  · intro b hb
    rcases h'.fresh b hb with ⟨b', hb', he⟩ | hnew
    · rw [← he]
      exact h.fresh b' hb'
    · exact .inr (Nat.le_trans h.follows.nextHandle hnew)
  · rw [List.filterMap_append, h.succeeds, h'.succeeds]
    rfl

theorem Follows.handover (h : Follows L t cs t₁)
    (hx : ∀ b, x = some b → Holds L t b.handle b.port)
    (hopen : ∀ c ∈ cs, ∀ hs, c.openAfter hs = hs) (hclose : ∀ c ∈ cs, ∀ k, c.closes k = false) :
    Handover L x x t cs t₁ := by
  have hhandles : t₁.handles = t.handles := by
    have hsame : ∀ hs, cs.foldl Call.openAfter hs = hs := by
      clear h
      induction cs with
      | nil => exact fun _ => rfl
      | cons c cs ih =>
        intro hs
        rw [List.foldl_cons, hopen c (List.mem_cons_self ..)]
        exact ih (fun d hd => hopen d (List.mem_cons_of_mem c hd))
          (fun d hd => hclose d (List.mem_cons_of_mem c hd)) hs
    rw [h.handles, hsame]
  refine ⟨h, ?_, ?_, ?_, ?_, ?_⟩
  · intro b hb
    exact h.keeps _ _ (hx b hb) fun c hc => hclose c hc b.handle
  · intro c hc k hk
    rw [hclose c hc k] at hk
    cases hk
  · rw [hhandles]
    cases x with
    | none => exact ⟨t.handles, .rfl, .rfl⟩
    | some b =>
      have hperm := List.perm_cons_erase (hx b rfl).mem_handles
      exact ⟨t.handles.erase b.handle, hperm, hperm⟩
  · intro b hb
    exact .inl ⟨b, hb, rfl⟩
  · rw [List.filterMap_eq_nil_iff]
    intro c hc
    cases c with
    | close k answer =>
      have hk := hclose _ hc k
      simp [Call.closes] at hk
    | _ => rfl

theorem close_handover {answer : Result Unit} (hs : Sound L t) (hb : Holds L t b.handle b.port)
    (h : (transport O).Replays t [.close b.handle answer] t₁) :
    Handover L (some b) none t [.close b.handle answer] t₁ := by
  have hfollows := follows_of_replays hs h
  cases h with
  | cons hc hnil =>
    cases hnil
    obtain rfl := shift_close (shift_of_takes L hs.valid hc) hb.mem_handles
    have hhandles : t₁.handles = t.handles.erase b.handle := hfollows.handles
    refine ⟨hfollows, nofun, ?_, ?_, nofun, rfl⟩
    · intro c hc k hclose
      rw [List.mem_singleton.1 hc] at hclose
      exact .inl ⟨b, rfl, of_decide_eq_true hclose⟩
    · exact ⟨t.handles.erase b.handle, List.perm_cons_erase hb.mem_handles, .of_eq hhandles⟩

/-- A handle that is created, refused and closed again leaves no trace among the handles. -/
theorem bindFailed_handover {k : Handle} {port : UInt16} {e : Failure} {closed : Result Unit}
    (hs : Sound L t) (h : (transport O).Replays t
      [.create (.ok k), .bind k port (.error e), .close k closed] t₁) :
    Handover L none none t [.create (.ok k), .bind k port (.error e), .close k closed] t₁ := by
  have hfollows := follows_of_replays hs h
  cases h with
  | @cons _ _ _ created _ _ hcreate h =>
  cases h with
  | @cons _ _ _ refused _ _ hbind h =>
  cases h with
  | cons hclose hnil =>
  cases hnil
  have hcreated := follows_of_takes hs hcreate
  have hrefused := follows_of_takes hcreated.sound hbind
  have hnew : k ∉ t.handles := (shift_create (shift_of_takes L hs.valid hcreate) hs).2.1
  have hhandles : refused.handles = t.handles ++ [k] :=
    hrefused.handles.trans hcreated.handles
  have hopen : k ∈ refused.handles := by
    rw [hhandles]
    exact List.mem_append_right _ (List.mem_singleton_self k)
  obtain rfl := shift_close (shift_of_takes L hrefused.sound.valid hclose) hopen
  have hleft : t₁.handles = t.handles := by
    have herased : t₁.handles = (t.handles ++ [k]).erase k := hfollows.handles
    rw [herased, List.erase_append_right _ hnew, List.erase_cons_head, List.append_nil]
  refine ⟨hfollows, nofun, ?_, ⟨t.handles, .rfl, .of_eq hleft⟩, nofun, rfl⟩
  intro c hc j hj
  simp only [List.mem_cons, List.not_mem_nil, or_false] at hc
  rcases hc with rfl | rfl | rfl
  · cases hj
  · cases hj
  · rw [← show k = j from of_decide_eq_true hj]
    exact .inr hnew

theorem bound_handover {k : Handle} {port : UInt16} {reported : Option UInt16} {lease : Lease}
    (hs : Sound L t) (h : (transport O).Replays t
      [.create (.ok k), .bind k port (.ok ()), .localPort k reported] t₁) :
    Handover L none (some ⟨k, reported.getD port, lease⟩) t
      [.create (.ok k), .bind k port (.ok ()), .localPort k reported] t₁ := by
  have hfollows := follows_of_replays hs h
  cases h with
  | @cons _ _ _ created _ _ hcreate h =>
  cases h with
  | @cons _ _ _ placed _ _ hbind h =>
  cases h with
  | cons hask hnil =>
  cases hnil
  have hcreated := follows_of_takes hs hcreate
  have hplaced := follows_of_takes hcreated.sound hbind
  obtain ⟨hraw, hnew, -⟩ := shift_create (shift_of_takes L hs.valid hcreate) hs
  obtain ⟨q, -, -, hq⟩ := shift_bind (shift_of_takes L hcreated.sound.valid hbind)
  have hasked := shift_of_takes L hplaced.sound.valid hask
  have hreported : reported = some q := shift_localPort hasked hplaced.sound hq
  refine ⟨hfollows, ?_, ?_, ⟨t.handles, .rfl, ?_⟩, ?_, rfl⟩
  · intro b hb
    cases hb
    rw [hreported]
    exact hq.keep hplaced.sound hasked rfl
  · intro c hc j hj
    simp only [List.mem_cons, List.not_mem_nil, or_false] at hc
    rcases hc with rfl | rfl | rfl <;> cases hj
  · have hhandles : t₁.handles = t.handles ++ [k] := hfollows.handles
    rw [hhandles]
    exact List.perm_append_comm
  · intro b hb
    cases hb
    exact .inr (Nat.le_of_eq (congrArg UInt32.toNat hraw.symm))

theorem opening_handover {w : World (Host ω)} {table : Nat} {port : UInt16}
    {opened : Result Binding} {tables : List SlotTable} (hs : Sound L t)
    (hopening : Socket.Opening (transport O) table port w opened tables cs)
    (h : (transport O).Replays t cs t₁) : Handover L none opened.toOption t cs t₁ := by
  have hfollows := follows_of_replays hs h
  have hunbound (b : Binding) (hb : none = some b) : Holds L t b.handle b.port := by cases hb
  cases hopening with
  | noSlot =>
    exact hfollows.handover hunbound (List.forall_mem_nil _) (List.forall_mem_nil _)
  | createFailed =>
    apply hfollows.handover hunbound
    · intro c hc hs
      rw [List.mem_singleton.1 hc]
      rfl
    · intro c hc k
      rw [List.mem_singleton.1 hc]
      rfl
  | bindFailed => exact bindFailed_handover hs h
  | bound => exact bound_handover hs h

end Host

namespace Socket

open Host

variable {L : O.Lawful} {s : Socket} {w : World (Host ω)}

theorem traffic_of_side {c : Call} (hc : c.side ≠ .lifecycle) :
    (∀ hs, c.openAfter hs = hs) ∧ ∀ k, c.closes k = false := by
  cases c with
  | send | receive | poll => exact ⟨fun _ => rfl, fun _ => rfl⟩
  | _ => exact absurd rfl hc

/-- A socket hands the transport over from the binding that it had to the one that it has. -/
def Hands (L : O.Lawful) (s s' : Socket) (w w' : World (Host ω)) : Prop :=
  ∃ cs, World.Evolves (transport O) w cs w' ∧
    Handover L s.binding s'.binding w.transport cs w'.transport

theorem stop_hands (hs : Sound L w.transport)
    (hb : ∀ b, s.binding = some b → Holds L w.transport b.handle b.port) :
    Hands L s (s.stop (transport O) w).1 w (s.stop (transport O) w).2 := by
  rw [Hands, stop_released]
  rcases s.binding.eq_none_or_eq_some with hnone | ⟨b, hsome⟩
  · rw [stop_of_unbound _ hnone, hnone]
    refine ⟨[], World.evolves_refl _ w, ?_⟩
    apply (follows_refl hs).handover
    · exact nofun
    · exact List.forall_mem_nil _
    · exact List.forall_mem_nil _
  · rw [stop_of_bound _ hsome, hsome]
    obtain ⟨closed, hgiven⟩ := giveBack_evolves (T := transport O) b w
    exact ⟨_, hgiven, close_handover hs (hb b hsome) hgiven.replays⟩

theorem begin_hands (hs : Sound L w.transport)
    (hb : ∀ b, s.binding = some b → Holds L w.transport b.handle b.port) (port : UInt16) :
    Hands L s (s.begin (transport O) port w).2.1 w (s.begin (transport O) port w).2.2 := by
  obtain ⟨base, w₀, opened, cs, hready, hopening, hcalls, -, hsocket⟩ :=
    begin_spec (transport O) port s w
  obtain ⟨all, hevolves⟩ := begin_evolves (transport O) s w port
  have hbinding : (s.begin (transport O) port w).2.1.binding = opened.toOption := by rw [hsocket]
  rw [Hands, hbinding]
  cases hready with
  | unbound hnone =>
    have hopened := hevolves.calls_unique hcalls
    rw [hnone]
    exact ⟨cs, hopened, opening_handover hs hopening hopened.replays⟩
  | @stopped b hsome =>
    obtain ⟨-, closed, hclose⟩ := giveBack_spec (transport O) b (w.emit (.rebinding b.port port))
    rw [World.calls_emit] at hclose
    rw [hclose, List.append_assoc] at hcalls
    have hboth := hevolves.calls_unique hcalls
    obtain ⟨between, hfirst, hsecond⟩ := hboth.replays.of_append
    have hclosed := close_handover hs (hb b hsome) hfirst
    have hopened := opening_handover hclosed.follows.sound hopening hsecond
    rw [hsome]
    exact ⟨_, hboth, hclosed.trans hs hopened⟩

theorem perform_hands (hs : Sound L w.transport)
    (hb : ∀ b, s.binding = some b → Holds L w.transport b.handle b.port) (st : SocketStep) :
    Hands L s (s.perform (transport O) w st).2.1 w (s.perform (transport O) w st).2.2 := by
  by_cases hside : st.side = .lifecycle
  · cases st with
    | begin port => exact begin_hands hs hb port
    | stop => exact stop_hands hs hb
    | _ => cases hside
  · obtain ⟨cs, hcalls, hall⟩ := perform_calls (transport O) s w st
    obtain ⟨made, hevolves⟩ := perform_evolves (transport O) s w st
    have hmade := hevolves.calls_unique hcalls
    have htraffic (c : Call) (hc : c ∈ cs) : c.side ≠ .lifecycle := by
      rw [(hall c hc).1]
      exact hside
    rw [Hands, perform_binding (transport O) s w hside]
    refine ⟨cs, hmade, (follows_of_replays hs hmade.replays).handover hb ?_ ?_⟩
    · exact fun c hc => (traffic_of_side (htraffic c hc)).1
    · exact fun c hc => (traffic_of_side (htraffic c hc)).2

end Socket
end Datagram
