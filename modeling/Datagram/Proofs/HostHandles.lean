import Datagram.Proofs.HostTable

/-!
# What host handles stand for

A handle of a sound table that is bound to a port stays so until it is closed, whatever else is
called. Closing an open handle succeeds, binding succeeds at a port of its own, and asking a bound
handle for its port gives that port. The open handles are those listed in the table.
-/

namespace Datagram

variable {ω : Type} {O : Os ω}

theorem Event.transportTarget_own :
    transportTarget ≠ slotsTarget ∧ transportTarget ≠ socketTarget := by decide

namespace Host

variable {L : O.Lawful} {s s' : Host ω} {h k : Handle} {port : UInt16} {c : Call} {es : List Event}

theorem Holds.mem_handles (hh : Holds L s h port) : h ∈ s.handles := by
  obtain ⟨d, hentry, -⟩ := hh
  exact mem_handles_iff.2 ⟨_, hentry⟩

/-- A handle is bound to one port at most, and never to port zero. -/
theorem Sound.port_ne_zero (hs : Sound L s) (hh : Holds L s h port) : port ≠ 0 := by
  obtain ⟨d, hentry, hbound⟩ := hh
  obtain ⟨q, hq, hbound'⟩ := hs.bound h d hentry
  have hsame : q = port := by
    rw [hbound] at hbound'
    injection hbound' with he
    injection he with _ hport
    exact hport.symm
  rw [← hsame]
  exact hq

/-- Different handles are bound to different ports. -/
theorem Sound.port_injective (hs : Sound L s) (hh : Holds L s h port) (hk : Holds L s k port) :
    h = k := by
  obtain ⟨d, hentry, hbound⟩ := hh
  obtain ⟨d', hentry', hbound'⟩ := hk
  exact hs.apart h k d d' hentry hentry' (hbound.trans hbound'.symm)

theorem entry?_created (s : Host ω) (k : Handle) :
    entry? { s with
        nextHandle := s.nextHandle + 1
        sockets := s.sockets ++ [(⟨s.nextHandle⟩, none)] } k =
      Option.or ( s.entry? k) (if k = ⟨s.nextHandle⟩ then some none else none) := by
  simp only [Host.entry?, List.lookup_append]
  congr 1
  by_cases hk : k = ⟨s.nextHandle⟩
  · simp [hk]
  · have hne : (k == ⟨s.nextHandle⟩) = false := by simpa using hk
    simp [List.lookup_cons, hne, hk]

namespace Shift

theorem address (hc : Shift L s c s') : s'.bindAddress = s.bindAddress := by
  cases hc <;> rfl

theorem nextHandle_le (hc : Shift L s c s') : s.nextHandle.toNat ≤ s'.nextHandle.toNat := by
  cases hc with
  | created hlast =>
    change s.nextHandle.toNat ≤ (s.nextHandle + 1).toNat
    have hne : s.nextHandle.toNat ≠ 4294967295 := fun he => hlast (UInt32.toNat_inj.1 he)
    have hlt := s.nextHandle.toNat_lt
    rw [UInt32.toNat_add]
    change s.nextHandle.toNat ≤ (s.nextHandle.toNat + 1) % 4294967296
    omega
  | bound | closed | stays => exact Nat.le_refl _

theorem handles (hc : Shift L s c s') (hs : Sound L s) : s'.handles = c.openAfter s.handles := by
  cases hc with
  | created =>
    simp only [Host.handles, List.map_append]
    rfl
  | bound => exact handles_setEntry _ _ _
  | closed => exact handles_remove hs.nodup _
  | stays _ hopen => exact (hopen s.handles).symm

/-- What is bound stays bound unless it is closed. -/
theorem keeps_entry (hc : Shift L s c s') (hs : Sound L s) {d : Descriptor}
    (hentry : s.entry? k = some (some d)) (hopen : c.closes k = false) :
    s'.entry? k = some (some d) ∧ L.bound s'.os d = L.bound s.os d := by
  obtain ⟨q, -, hbound⟩ := hs.bound k d hentry
  cases hc with
  | created =>
    rw [entry?_created, hentry]
    exact ⟨rfl, rfl⟩
  | @bound j p os d' _ hfree _ _ hos =>
    have hne : k ≠ j := by
      rintro rfl
      rw [hfree] at hentry
      cases hentry
    have hother : d ≠ d' := by
      rintro rfl
      rw [hos.fresh] at hbound
      cases hbound
    rw [entry?_setEntry, if_neg hne]
    exact ⟨hentry, hos.others d hother⟩
  | @closed j entry os hclosed hos =>
    have hne : k ≠ j := by
      rintro rfl
      simp [Call.closes] at hopen
    rw [entry?_remove, if_neg hne]
    refine ⟨hentry, ?_⟩
    cases entry with
    | none => exact congrArg (L.bound · d) hos
    | some d' =>
      apply hos.others
      rintro rfl
      exact hne (hs.apart k j d d hentry hclosed rfl)
  | stays hos => exact ⟨hentry, congrFun hos.same d⟩

/-- What is bound after a call either was bound already or is bound by the call, to a port where
nothing was bound. -/
theorem entry_cases (hc : Shift L s c s') (hs : Sound L s) {d : Descriptor}
    (hentry : s'.entry? k = some (some d)) :
    s.entry? k = some (some d) ∧ L.bound s'.os d = L.bound s.os d ∨
      ∃ p q, c = .bind k p (.ok ()) ∧ q ≠ 0 ∧ (p ≠ 0 → q = p) ∧
        L.bound s'.os d = some ⟨s.bindAddress, q⟩ ∧
        ∀ d', L.bound s.os d' ≠ some ⟨s.bindAddress, q⟩ := by
  have hold (hbefore : s.entry? k = some (some d)) (hopen : c.closes k = false) :
      s.entry? k = some (some d) ∧ L.bound s'.os d = L.bound s.os d :=
    ⟨hbefore, (hc.keeps_entry hs hbefore hopen).2⟩
  cases hc with
  | created =>
    rw [entry?_created] at hentry
    cases hk : s.entry? k with
    | none =>
      rw [hk, Option.none_or] at hentry
      split at hentry <;> cases hentry
    | some entry =>
      rw [hk, Option.some_or] at hentry
      exact .inl ⟨hentry, rfl⟩
  | @bound j p os d' q hfree hq hport hos =>
    rw [entry?_setEntry] at hentry
    by_cases hk : k = j
    · subst k
      change (if j = j then Option.map (fun _ => some d') <| s.entry? j else s.entry? j) = _
        at hentry
      rw [if_pos rfl, hfree] at hentry
      obtain rfl : d' = d := by simpa using hentry
      exact .inr ⟨p, q, rfl, hq, hport, hos.added, hos.free⟩
    · rw [if_neg hk] at hentry
      exact .inl (hold hentry rfl)
  | @closed j entry os hclosed hos =>
    rw [entry?_remove] at hentry
    by_cases hk : k = j
    · rw [if_pos hk] at hentry
      cases hentry
    · rw [if_neg hk] at hentry
      exact .inl (hold hentry (by simpa [Call.closes] using Ne.symm hk))
  | stays hos => exact .inl ⟨hentry, congrFun hos.same d⟩

end Shift

theorem Holds.keep (hh : Holds L s k port) (hs : Sound L s) (hc : Shift L s c s')
    (hopen : c.closes k = false) : Holds L s' k port := by
  obtain ⟨d, hentry, hbound⟩ := hh
  obtain ⟨hentry', hbound'⟩ := hc.keeps_entry hs hentry hopen
  refine ⟨d, hentry', ?_⟩
  rw [hbound', hbound, hc.address]

theorem Sound.shift (hs : Sound L s) (hc : Shift L s c s') : Sound L s' where
  valid := by
    cases hc with
    | created => exact hs.valid
    | bound _ _ _ hos => exact hos.valid
    | @closed h entry os _ hos =>
      cases entry with
      | none =>
        obtain rfl : os = s.os := hos
        exact hs.valid
      | some d => exact Os.Places.Removes.valid hos
    | stays hos => exact hos.valid
  nodup := by
    rw [hc.handles hs]
    cases hc with
    | created =>
      refine List.nodup_append.2 ⟨hs.nodup, List.pairwise_singleton _ _, ?_⟩
      intro h hmem k hk
      rw [List.mem_singleton.1 hk]
      rintro rfl
      exact absurd (hs.below _ hmem) (Nat.lt_irrefl _)
    | bound => exact hs.nodup
    | closed => exact hs.nodup.erase _
    | stays _ hopen => rw [hopen]; exact hs.nodup
  below h hmem := by
    have hle := hc.nextHandle_le
    rw [hc.handles hs] at hmem
    cases hc with
    | created hlast =>
      change h.raw.toNat < (s.nextHandle + 1).toNat
      have hnext : (s.nextHandle + 1).toNat = s.nextHandle.toNat + 1 := by
        have hne : s.nextHandle.toNat ≠ 4294967295 := fun he => hlast (UInt32.toNat_inj.1 he)
        have hlt := s.nextHandle.toNat_lt
        rw [UInt32.toNat_add]
        change (s.nextHandle.toNat + 1) % 4294967296 = _
        omega
      rw [hnext]
      rcases List.mem_append.1 hmem with hmem | hmem
      · exact Nat.lt_succ_of_lt (hs.below h hmem)
      · rw [List.mem_singleton.1 hmem]
        exact Nat.lt_succ_self _
    | bound => exact hs.below h hmem
    | closed => exact hs.below h (List.mem_of_mem_erase hmem)
    | stays _ hopen =>
      rw [hopen] at hmem
      exact hs.below h hmem
  bound h d hentry := by
    rw [hc.address]
    rcases hc.entry_cases hs hentry with ⟨hbefore, hsame⟩ | ⟨p, q, -, hq, -, hbound, -⟩
    · rw [hsame]
      exact hs.bound h d hbefore
    · exact ⟨q, hq, hbound⟩
  apart h k d d' hentry hentry' hbound := by
    rcases hc.entry_cases hs hentry with ⟨hh, hsame⟩ | ⟨p, q, hcall, -, -, hnew, hfree⟩
    · rcases hc.entry_cases hs hentry' with ⟨hk, hsame'⟩ | ⟨p, q, -, -, -, hnew, hfree⟩
      · exact hs.apart h k d d' hh hk (by rw [← hsame, ← hsame', hbound])
      · rw [hsame, hnew] at hbound
        exact absurd hbound (hfree d)
    · rcases hc.entry_cases hs hentry' with ⟨hk, hsame'⟩ | ⟨p', q', hcall', -⟩
      · rw [hnew, hsame'] at hbound
        exact absurd hbound.symm (hfree d')
      · rw [hcall] at hcall'
        cases hcall'
        rfl

/-- A table without handles is sound. -/
theorem sound_empty {address : Ipv4} {os : ω} (hvalid : L.Valid os) :
    Sound L { bindAddress := address, os } where
  valid := hvalid
  nodup := List.nodup_nil
  below h hmem := absurd hmem List.not_mem_nil
  bound h d hentry := by cases hentry
  apart h k d d' hentry := by cases hentry

theorem shift_create {h : Handle} (hc : Shift L s (.create (.ok h)) s') (hs : Sound L s) :
    h.raw = s.nextHandle ∧ h ∉ s.handles ∧ s'.entry? h = some none := by
  cases hc with
  | created hlast =>
    have hnew : (⟨s.nextHandle⟩ : Handle) ∉ s.handles := by
      intro hmem
      exact absurd (hs.below _ hmem) (Nat.lt_irrefl _)
    refine ⟨rfl, hnew, ?_⟩
    rw [entry?_created, entry?_eq_none_iff.2 hnew, if_pos rfl]
    rfl
  | stays _ hopen => exact absurd (hopen []) (List.cons_ne_nil _ _)

theorem shift_bind (hc : Shift L s (.bind h port (.ok ())) s') :
    ∃ q, q ≠ 0 ∧ (port ≠ 0 → q = port) ∧ Holds L s' h q := by
  cases hc with
  | @bound _ _ os d q hentry hq hport hos =>
    refine ⟨q, hq, hport, d, ?_, hos.added⟩
    rw [entry?_setEntry, if_pos rfl]
    change Option.map _ ( s.entry? h) = _
    rw [hentry]
    rfl
  | stays _ _ hbind => exact absurd rfl (hbind h port)

/-- Closing fails only for handles that are not open. -/
theorem shift_close {answer : Result Unit} (hc : Shift L s (.close h answer) s')
    (hopen : h ∈ s.handles) : answer = .ok () := by
  cases hc with
  | closed => rfl
  | stays _ _ _ hclose => exact absurd hopen (entry?_eq_none_iff.1 (hclose h answer rfl))

theorem shift_localPort {answer : Option UInt16} (hc : Shift L s (.localPort h answer) s')
    (hs : Sound L s) (hh : Holds L s h port) : answer = some port := by
  cases hc with
  | stays _ _ _ _ hask =>
    obtain ⟨d, hentry, hbound⟩ := hh
    rw [hask h answer rfl, portOf?, hentry]
    exact L.localPort hs.valid hbound

variable (L)

/-- The handles in the table are the open ones. -/
def openView : (transport O).OpenView where
  Sane := Sound L
  handles := handles
  takes hs htakes :=
    have hc := shift_of_takes L hs.valid htakes
    ⟨hs.shift hc, hc.handles hs⟩

variable (O)

/-- All that a host transport reports is reported under the target of transports. -/
theorem target_of_takes (htakes : (transport O).Takes s c es s') (ports : PortText) :
    ∀ e ∈ es, (Event.entry ports e).target = Event.transportTarget := by
  intro e he
  cases htakes with
  | create =>
    change e ∈ s.create.events at he
    unfold create at he
    split at he
    · cases he
    · rw [List.mem_singleton.1 he]
      rfl
  | bind h port =>
    change e ∈ (bind O h port s).events at he
    unfold bind at he
    split at he
    · cases he
    · cases he
    · rcases hbind : O.bind s.bindAddress port s.os with ⟨answer, os⟩
      rw [hbind] at he
      cases answer with
      | error _ => cases he
      | ok d =>
        rw [List.mem_singleton.1 he]
        rfl
  | send h data target =>
    change e ∈ (send O h data target s).events at he
    unfold send at he
    rcases hd : boundSocket O h s with ⟨bound, s₁⟩
    rw [hd] at he
    cases bound <;> cases he
  | receive h capacity =>
    change e ∈ (receive O h capacity s).events at he
    unfold receive at he
    rcases hd : boundSocket O h s with ⟨bound, s₁⟩
    rw [hd] at he
    cases bound <;> cases he
  | poll h timeout =>
    change e ∈ (poll O h timeout s).events at he
    unfold poll at he
    rcases hd : boundSocket O h s with ⟨bound, s₁⟩
    rw [hd] at he
    cases bound with
    | error _ => cases he
    | ok d =>
      rcases ht : O.setReadTimeout d (shortestPoll.atLeast timeout) s₁.os with ⟨answer, os⟩
      simp only [ht] at he
      cases answer with
      | error _ => cases he
      | ok _ =>
        simp only [peek] at he
        split at he
        · cases he
        · split at he
          · cases he
          · rw [List.mem_singleton.1 he]
            rfl
  | close h =>
    change e ∈ (close O h s).events at he
    unfold close at he
    split at he
    · cases he
    · rw [List.mem_singleton.1 he]
      rfl
  | localPort hask h =>
    cases hask
    cases he

/-- Nothing that a host transport reports is a warning of a socket. -/
theorem quiet_transport : (transport O).Quiet := by
  intro s c es s' htakes e he
  have htarget := target_of_takes O htakes .decimal e he
  cases e with
  | closeFailed | bindCleanupFailed => exact absurd htarget.symm Event.transportTarget_own.2
  | _ => rfl

end Host
end Datagram
