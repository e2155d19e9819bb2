import Datagram.Proofs.Incoming
import Datagram.Script

/-!
# Reading a packet

All ways of reading move one cursor over the unread bytes. Each of them hands out the next bytes, as
many as it has room for or all that there are, and skips those. So what is handed out between two
packets, in whichever ways and portions, followed by what is still unread, is the packet.
-/

namespace Datagram

def Bytes.utf8 (text : String) : Bytes := text.toUTF8.data.toList

theorem Bytes.fromUTF8?_cases (bytes : Bytes) :
    (∃ text, utf8 text = bytes ∧ String.fromUTF8? ⟨bytes.toArray⟩ = some text) ∨
      (∀ text, utf8 text ≠ bytes) ∧ String.fromUTF8? ⟨bytes.toArray⟩ = none := by
  by_cases hvalid : ByteArray.IsValidUTF8 ⟨bytes.toArray⟩
  · left
    refine ⟨String.fromUTF8 ⟨bytes.toArray⟩ hvalid, rfl, ?_⟩
    rw [String.fromUTF8?, dif_pos hvalid]
  · right
    constructor
    -- the encoding of a text would be valid
    · rintro text rfl
      apply hvalid
      rw [utf8, Array.toArray_toList]
      exact text.isValidUTF8
    · rw [String.fromUTF8?, dif_neg hvalid]

namespace ReceiveBuffer

variable {b : ReceiveBuffer}

theorem readToString_cases {chunk : Nat} (hchunk : 0 < chunk) (h : b.len ≤ b.capacity) :
    (∃ text, Bytes.utf8 text = b.unread ∧
        b.readToString chunk = (.ok (b.unread.length, text), b.skip b.unread.length)) ∨
      (∀ text, Bytes.utf8 text ≠ b.unread) ∧
        b.readToString chunk = (.error .invalidUtf8, b.skip b.unread.length) := by
  rcases Bytes.fromUTF8?_cases b.unread with ⟨text, htext, hdecoded⟩ | ⟨hnone, hdecoded⟩
  · left
    refine ⟨text, htext, ?_⟩
    simp only [readToString, readToEnd_eq hchunk h, hdecoded]
  · right
    refine ⟨hnone, ?_⟩
    simp only [readToString, readToEnd_eq hchunk h, hdecoded]

end ReceiveBuffer

variable {σ : Type}

namespace SocketStep

def reads : SocketStep → Bool
  | readByte | read _ | readExact _ | readToEnd | readToString | config | describe => true
  | _ => false

end SocketStep

namespace Socket

variable {T : Transport σ} {s : Socket}

/-- What every way of reading hands out of the unread bytes, and how many of them it skips. -/
structure Reads (T : Transport σ) (s : Socket) : Prop where
  available : s.available = s.rx.unread.length
  peek : s.peek = s.rx.unread.head?
  rest : ∀ count, (s.rx.skip count).unread = s.rx.unread.drop count
  byte : ∀ w, s.perform T w .readByte = (.byte s.peek, { s with rx := s.rx.skip 1 }, w)
  bytes : ∀ w out, s.perform T w (.read out) =
    (.bytes (min out.length s.rx.unread.length)
        (s.rx.unread.take out.length ++ out.drop s.rx.unread.length),
      { s with rx := s.rx.skip out.length }, w)
  exact : ∀ w out, s.perform T w (.readExact out) =
    (.exact (if out.length ≤ s.rx.unread.length then .ok () else .error .unexpectedEof)
        (s.rx.unread.take out.length ++ out.drop s.rx.unread.length),
      { s with rx := s.rx.skip out.length }, w)
  chunks : ∀ chunk, 0 < chunk →
    s.rx.readToEnd chunk = (s.rx.unread, s.rx.skip s.rx.unread.length)
  toEnd : ∀ w, s.perform T w .readToEnd =
    (.bytes s.rx.unread.length s.rx.unread,
      { s with rx := s.rx.skip s.rx.unread.length }, w)
  text : ∀ w,
    (∃ text, Bytes.utf8 text = s.rx.unread ∧ s.perform T w .readToString =
      (.string (.ok (s.rx.unread.length, text)),
        { s with rx := s.rx.skip s.rx.unread.length }, w)) ∨
    (∀ text, Bytes.utf8 text ≠ s.rx.unread) ∧ s.perform T w .readToString =
      (.string (.error .invalidUtf8), { s with rx := s.rx.skip s.rx.unread.length }, w)

theorem streamChunk_pos : 0 < streamChunk := by decide

theorem reads_of_fits (T : Transport σ) (h : s.rx.len ≤ s.rx.capacity) : Reads T s where
  available := (ReceiveBuffer.length_unread h).symm
  peek := s.rx.peek_eq_head?
  rest := s.rx.unread_skip
  byte w := by
    simp only [perform, readByte, ReceiveBuffer.readByte_eq h, Socket.peek,
      ReceiveBuffer.peek_eq_head?]
  bytes w out := by simp only [perform, read, ReceiveBuffer.readInto_eq h]
  exact w out := by simp only [perform, ReceiveBuffer.readExact, ReceiveBuffer.fillFrom_eq h]
  chunks chunk hchunk := ReceiveBuffer.readToEnd_eq hchunk h
  toEnd w := by simp only [perform, ReceiveBuffer.readToEnd_eq streamChunk_pos h]
  text w := by
    rcases ReceiveBuffer.readToString_cases streamChunk_pos h with
      ⟨text, htext, hread⟩ | ⟨hnone, hread⟩
    · exact .inl ⟨text, htext, by simp only [perform, hread]⟩
    · exact .inr ⟨hnone, by simp only [perform, hread]⟩

end Socket

namespace Turn

/-- The bytes that a turn has taken from the packet. A read that fails has taken what it has
skipped. -/
def taken (o : Turn) : Bytes :=
  match o.answer with
  | .byte byte => byte.toList
  | .bytes count out => out.take count
  | .exact (.ok _) out => out
  | .string (.ok (_, text)) => .utf8 text
  | .exact (.error _) _ | .string (.error _) =>
    o.before.rx.unread.take (o.before.available - o.after.available)
  | _ => []

def keepsPacket (o : Turn) : Bool := !o.clears && o.arrival?.isNone

variable {T : Transport σ} {s : Socket} {w : World σ} {st : SocketStep}

theorem taken_of_not_reads (hst : st.reads = false) : (Turn.of T s w st).taken = [] := by
  cases st with
  | readByte | read _ | readExact _ | readToEnd | readToString | config | describe => cases hst
  | _ => rfl

theorem rx_of_not_reads (hst : st.reads = false)
    (hkeeps : (Turn.of T s w st).keepsPacket = true) : (Turn.of T s w st).after.rx = s.rx := by
  obtain ⟨hclears, hnone⟩ := Bool.and_eq_true_iff.1 hkeeps
  have hsending (hside : st.side = .sending) : (s.perform T w st).2.1.rx = s.rx := by
    obtain ⟨tx, destination, hs⟩ := s.perform_sending T w hside
    rw [hs]
  cases st with
  | begin port =>
    obtain ⟨base, w₀, opened, cs, hready, -, -, -, hs⟩ := Socket.begin_spec T port s w
    change (s.begin T port w).2.1.rx = s.rx
    rw [hs]
    cases hready with
    | unbound => rfl
    | stopped hb =>
      -- binding anew clears the packet, which the turn does not
      have hbound : (!s.isBound) = true := hclears
      rw [Socket.isBound_of_binding hb] at hbound
      cases hbound
  | parsePacket =>
    obtain ⟨answer, -, hparsing⟩ := Turn.parsing_of T s w
    rw [arrival?] at hnone
    have hfails : (!(Turn.of T s w .parsePacket).calls.any Call.failsToReceive) = true := hclears
    generalize (Turn.of T s w .parsePacket).after = s', (Turn.of T s w .parsePacket).calls = cs at *
    cases hparsing with
    | notBound | pollFailed | timedOut => rfl
    | receiveFailed => cases hfails
    | received => cases hnone
  | beginPacket | beginReply | beginPacketToHost | write | endPacket => exact hsending rfl
  | stop | flush => cases hclears
  | _ => cases hst

theorem taken_of_reads (hfits : s.rx.len ≤ s.rx.capacity) (hst : st.reads = true) :
    ∃ count, (Turn.of T s w st).after.rx = s.rx.skip count ∧
      (Turn.of T s w st).taken = s.rx.unread.take count := by
  have h := Socket.reads_of_fits T hfits
  -- the packet without what is left of it, when a read fails
  have hskipped (count : Nat) :
      s.rx.unread.take (s.available - (s.rx.skip count).available) = s.rx.unread.take count := by
    rw [ReceiveBuffer.available_skip, List.take_eq_take_iff, h.available]
    change min (s.rx.unread.length - (s.available - count)) _ = _
    rw [h.available]
    omega
  cases st with
  | readByte =>
    obtain ⟨hanswer, hafter⟩ := of_perform (h.byte w)
    refine ⟨1, by rw [hafter], ?_⟩
    simp only [taken, hanswer, h.peek, List.take_one]
  | read out =>
    obtain ⟨hanswer, hafter⟩ := of_perform (h.bytes w out)
    refine ⟨out.length, by rw [hafter], ?_⟩
    simp only [taken, hanswer]
    exact List.take_left' List.length_take
  | readExact out =>
    obtain ⟨hanswer, hafter⟩ := of_perform (h.exact w out)
    refine ⟨out.length, by rw [hafter], ?_⟩
    by_cases hall : out.length ≤ s.rx.unread.length
    · rw [if_pos hall] at hanswer
      simp only [taken, hanswer, List.drop_eq_nil_of_le hall, List.append_nil]
    · rw [if_neg hall] at hanswer
      simp only [taken, hanswer, hafter]
      exact hskipped out.length
  | readToEnd =>
    obtain ⟨hanswer, hafter⟩ := of_perform (h.toEnd w)
    refine ⟨s.rx.unread.length, by rw [hafter], ?_⟩
    simp only [taken, hanswer]
  | readToString =>
    rcases h.text w with ⟨text, htext, hread⟩ | ⟨-, hread⟩
    · obtain ⟨hanswer, hafter⟩ := of_perform hread
      refine ⟨s.rx.unread.length, by rw [hafter], ?_⟩
      simp only [taken, hanswer, htext, List.take_length]
    · obtain ⟨hanswer, hafter⟩ := of_perform hread
      refine ⟨s.rx.unread.length, by rw [hafter], ?_⟩
      simp only [taken, hanswer, hafter]
      exact hskipped s.rx.unread.length
  | config | describe => exact ⟨0, s.rx.skip_zero.symm, rfl⟩
  | _ => cases hst

theorem taken_append_unread (hfits : s.rx.len ≤ s.rx.capacity)
    (hkeeps : st.reads = true ∨ (Turn.of T s w st).keepsPacket = true) :
    (Turn.of T s w st).after.rx.len ≤ (Turn.of T s w st).after.rx.capacity ∧
      (Turn.of T s w st).taken ++ (Turn.of T s w st).after.rx.unread = s.rx.unread := by
  cases hst : st.reads with
  | true =>
    obtain ⟨count, hafter, htaken⟩ := taken_of_reads (T := T) (w := w) hfits hst
    rw [hafter, htaken, ReceiveBuffer.unread_skip, List.take_append_drop]
    exact ⟨hfits, rfl⟩
  | false =>
    have hafter := rx_of_not_reads hst (hkeeps.resolve_left (Bool.eq_false_iff.1 hst))
    rw [hafter, taken_of_not_reads hst]
    exact ⟨hfits, rfl⟩

end Turn

namespace Session

variable {T : Transport σ} {ss : Session σ} {i : Nat} {s : Socket}

theorem step_taken (hs : ss.socket? i = some s) (hfits : s.rx.len ≤ s.rx.capacity) {st : Step}
    (hdrop : st ≠ .drop i)
    (hkeeps : ∀ o, turn? T i ss st = some o → o.step.reads = true ∨ o.keepsPacket = true) :
    ∃ s', (ss.step T st).2.socket? i = some s' ∧ s'.rx.len ≤ s'.rx.capacity ∧
      (turn? T i ss st).toList.flatMap Turn.taken ++ s'.rx.unread = s.rx.unread := by
  by_cases hmine : ∃ op, st = .socket i op
  · obtain ⟨op, rfl⟩ := hmine
    have hturn := turn?_socket (T := T) hs op
    obtain ⟨hfits', htaken⟩ := Turn.taken_append_unread hfits (hkeeps _ hturn)
    refine ⟨_, socket?_step_self hs op, hfits', ?_⟩
    rw [hturn, Option.toList_some, List.flatMap_singleton]
    exact htaken
  · have hturn : turn? T i ss st = none := by
      cases st with
      | socket j op =>
        have hj : j ≠ i := fun hj => hmine ⟨op, by rw [hj]⟩
        simp only [turn?, if_neg hj]
      | _ => rfl
    rw [hturn]
    rcases socket?_step T hs st with hkept | hgone | ⟨op, hop, -⟩
    · exact ⟨s, hkept, hfits, rfl⟩
    · exact absurd hgone hdrop
    · exact absurd ⟨op, hop⟩ hmine

theorem run_taken (hs : ss.socket? i = some s) (hfits : s.rx.len ≤ s.rx.capacity)
    (steps : List Step) (hdrop : Step.drop i ∉ steps)
    (hkeeps : ∀ o ∈ ss.turns T i steps, o.step.reads = true ∨ o.keepsPacket = true) :
    ∃ s', (ss.run T steps).2.socket? i = some s' ∧
      (ss.turns T i steps).flatMap Turn.taken ++ s'.rx.unread = s.rx.unread := by
  induction steps generalizing ss s with
  | nil => exact ⟨s, hs, rfl⟩
  | cons st steps ih =>
    rw [turns] at hkeeps ⊢
    obtain ⟨hfirst, hrest⟩ := not_or.1 (mt List.mem_cons.2 hdrop)
    obtain ⟨s₁, hs₁, hfits₁, htaken₁⟩ := step_taken hs hfits (Ne.symm hfirst) fun o ho =>
      hkeeps o (List.mem_append_left _ (Option.mem_toList.2 ho))
    obtain ⟨s', hs', htaken⟩ := ih hs₁ hfits₁ hrest fun o ho =>
      hkeeps o (List.mem_append_right _ ho)
    refine ⟨s', hs', ?_⟩
    rw [List.flatMap_append, List.append_assoc, htaken, htaken₁]

/-- In every run reading a socket hands out its unread bytes, in whichever way: each read hands out
the next ones, as many as it has room for or all that there are, and fails only where it wants more
than these or a text that they do not encode. Over all further steps in which the socket is only
read, whatever happens to the others, the bytes taken followed by those left are the unread ones. -/
theorem reading_loses_nothing (T : Transport σ) (transport : σ) (tables : List SlotTable)
    (specs : List SocketSpec) (steps : List Step) (i : Nat) (s : Socket)
    (hs : ((ofTables transport tables specs).run T steps).2.socket? i = some s) :
    let ss := ((ofTables transport tables specs).run T steps).2
    s.Reads T ∧
      ∀ more, Step.drop i ∉ more → (∀ st, Step.socket i st ∈ more → st.reads = true) →
        ∃ s', (ss.run T more).2.socket? i = some s' ∧
          (ss.turns T i more).flatMap Turn.taken ++ s'.rx.unread = s.rx.unread := by
  intro ss
  have hlife := (tracks_turns T i transport tables specs steps).alive s hs
  have hfits : s.rx.len ≤ s.rx.capacity := hlife.incoming.fits
  refine ⟨Socket.reads_of_fits T hfits, ?_⟩
  intro more hdrop hreads
  apply run_taken hs hfits more hdrop
  intro o ho
  exact .inl (hreads o.step (mem_of_mem_turns ho))

/-- A zero byte, a letter of two bytes and a byte that no text has. Two reads take the first three;
what is left cannot be read as a text, and is gone after that. -/
theorem reading_loses_nothing_undecodable :
    let start := ofTables
      ({ inbound := [.datagram [0, 195, 169, 255] ⟨.localhost, 9⟩ none] } : Script)
      [.ofCapacity 1] [{ table := 0, txCapacity := some 2, rxCapacity := some 8 }]
    let ss := (start.run Script.transport [.socket 0 (.begin 7000), .socket 0 .parsePacket]).2
    let more := [.socket 0 .readByte, .socket 0 (.read []), .socket 0 (.readExact [1, 2]),
      .socket 0 .readToString]
    ∃ s s', ss.socket? 0 = some s ∧ s.peek = some 0 ∧ s.available = 4 ∧
      (∀ w, (s.perform Script.transport w (.readExact [1, 2, 3, 4, 5])).1 =
        .exact (.error .unexpectedEof) [0, 195, 169, 255, 5]) ∧
      (ss.run Script.transport more).2.socket? 0 = some s' ∧
      (ss.turns Script.transport 0 more).flatMap Turn.taken ++ s'.rx.unread =
        [0, 195, 169, 255] := by
  intro start ss more
  have hsome : (ss.socket? 0).map (·.rx.unread) = some [0, 195, 169, 255] := by decide
  obtain ⟨s, hs, hunread⟩ := Option.map_eq_some_iff.1 hsome
  obtain ⟨hreads, hlater⟩ := reading_loses_nothing Script.transport _ _ _ _ 0 s hs
  have hmore : ∀ st, Step.socket 0 st ∈ more → st.reads = true := by
    intro st hst
    simp only [more, List.mem_cons, Step.socket.injEq, List.not_mem_nil, or_false] at hst
    rcases hst with ⟨-, rfl⟩ | ⟨-, rfl⟩ | ⟨-, rfl⟩ | ⟨-, rfl⟩ <;> rfl
  have hkept : Step.drop 0 ∉ more := by
    simp only [more, List.mem_cons, List.not_mem_nil, reduceCtorEq, or_false, not_false_eq_true]
  obtain ⟨s', hs', htaken⟩ := hlater more hkept hmore
  rw [hunread] at htaken
  refine ⟨s, s', hs, ?_, ?_, ?_, hs', htaken⟩
  · rw [hreads.peek, hunread]
    rfl
  · rw [hreads.available, hunread]
    rfl
  · intro w
    rw [hreads.exact, hunread]
    rfl

end Session
end Datagram
