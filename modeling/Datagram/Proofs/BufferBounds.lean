import Mathlib.Data.List.Induction
import Datagram.Proofs.ReceiveStates

/-!
# The bounds of the buffers

A machine checks each step of a buffer operation: a difference wants its numbers in order, a length
or a cursor must not grow past the capacity, a run of bytes must lie within its storage, and copying
wants as many bytes as it replaces. The operations `append?`, `readInto?` and so on perform these
checks and come to nothing where one of them fails.

A transmit buffer keeps its length within its capacity and all bytes past it zero; a receive buffer
keeps its cursor within its length and its length within its capacity, whatever is written into its
storage and whatever length is claimed. So from a new buffer on no check ever fails, and every
operation comes to what it is without checks. The buffers of a socket are only ever changed by these
operations.
-/

namespace Datagram

/-- The difference of two numbers that are in order. -/
def difference? (a b : Nat) : Option Nat := if b ≤ a then some (a - b) else none

/-- The sum of two numbers, if it is within the limit. -/
def sumWithin? (limit a b : Nat) : Option Nat := if a + b ≤ limit then some (a + b) else none

theorem difference?_of_le {a b : Nat} (h : b ≤ a) : difference? a b = some (a - b) := if_pos h

theorem sumWithin?_of_le {limit a b : Nat} (h : a + b ≤ limit) :
    sumWithin? limit a b = some (a + b) := if_pos h

namespace Bytes

variable {storage bytes : Bytes} {start stop : Nat}

/-- The bytes from `start` up to `stop`, if the storage has all of them. -/
def slice? (storage : Bytes) (start stop : Nat) : Option Bytes :=
  if start ≤ stop ∧ stop ≤ storage.length then some ((storage.take stop).drop start) else none

/-- The storage with the bytes from `start` up to `stop` replaced by just as many. -/
def replace? (storage : Bytes) (start stop : Nat) (bytes : Bytes) : Option Bytes :=
  if start ≤ stop ∧ stop ≤ storage.length ∧ bytes.length = stop - start then
    some (storage.overwrite start bytes)
  else none

theorem slice?_of_le (hstart : start ≤ stop) (hstop : stop ≤ storage.length) :
    storage.slice? start stop = some ((storage.take stop).drop start) := if_pos ⟨hstart, hstop⟩

theorem replace?_of_length (hstart : start ≤ stop) (hstop : stop ≤ storage.length)
    (hlength : bytes.length = stop - start) :
    storage.replace? start stop bytes = some (storage.overwrite start bytes) :=
  if_pos ⟨hstart, hstop, hlength⟩

end Bytes

namespace TransmitBuffer

variable {b : TransmitBuffer}

def append? (b : TransmitBuffer) (bytes : Bytes) : Option (Nat × TransmitBuffer) := do
  let room ← difference? b.capacity b.len
  let count := min bytes.length room
  let len ← sumWithin? b.capacity b.len count
  let front ← bytes.slice? 0 count
  let storage ← b.storage.replace? b.len len front
  return (count, ⟨storage, len⟩)

def contents? (b : TransmitBuffer) : Option Bytes := b.storage.slice? 0 b.len

def clear? (b : TransmitBuffer) : Option TransmitBuffer := do
  let storage ← b.storage.replace? 0 b.len (.zeros b.len)
  return ⟨storage, 0⟩

/-- No check fails: every operation comes to what it is without checks. -/
structure Safe (b : TransmitBuffer) : Prop where
  append : ∀ bytes, b.append? bytes = some (b.append bytes)
  contents : b.contents? = some b.contents
  clear : b.clear? = some b.clear

inductive Change
  | append (bytes : Bytes)
  | clear

def apply (b : TransmitBuffer) : Change → TransmitBuffer
  | .append bytes => (b.append bytes).2
  | .clear => b.clear

def applyAll (b : TransmitBuffer) (changes : List Change) : TransmitBuffer := changes.foldl apply b

theorem applyAll_snoc (b : TransmitBuffer) (changes : List Change) (c : Change) :
    b.applyAll (changes ++ [c]) = (b.applyAll changes).apply c := by
  rw [applyAll, applyAll, List.foldl_append, List.foldl_cons, List.foldl_nil]

theorem ZeroPast.safe (h : b.ZeroPast) : b.Safe where
  append bytes := by
    have hfits := h.fits
    have hroom : min bytes.length (b.capacity - b.len) = b.room bytes := rfl
    have hlen : b.len + b.room bytes ≤ b.capacity := by
      rw [← hroom]
      omega
    have hfront : bytes.slice? 0 (b.room bytes) = some (bytes.take (b.room bytes)) :=
      Bytes.slice?_of_le (Nat.zero_le _) (Nat.min_le_left ..)
    have hstorage := Bytes.replace?_of_length (Nat.le_add_right ..) hlen
      ((b.length_take_room bytes).trans (Nat.add_sub_cancel_left ..).symm)
    simp only [append?, difference?_of_le hfits, hroom, sumWithin?_of_le hlen, hfront, hstorage,
      Option.bind_eq_bind, Option.bind_some]
    rfl
  contents := Bytes.slice?_of_le (Nat.zero_le _) h.fits
  clear := by
    have hzeros : (Bytes.zeros b.len).length = b.len - 0 := List.length_replicate
    simp only [clear?, Bytes.replace?_of_length (Nat.zero_le _) h.fits hzeros,
      Option.bind_eq_bind, Option.bind_some]
    rfl

theorem ZeroPast.getElem? (h : b.ZeroPast) {i : Nat} (hi : b.len ≤ i) (hlt : i < b.capacity) :
    b.storage[i]? = some 0 := by
  obtain ⟨k, rfl⟩ := Nat.exists_eq_add_of_le hi
  rw [← List.getElem?_drop, h.rest]
  apply List.getElem?_replicate_of_lt
  omega

theorem ZeroPast.apply (h : b.ZeroPast) (c : Change) : (b.apply c).ZeroPast := by
  cases c with
  | append bytes => exact h.append bytes
  | clear => exact h.clear

theorem capacity_apply (b : TransmitBuffer) (c : Change) : (b.apply c).capacity = b.capacity := by
  cases c with
  | append bytes => exact b.capacity_append bytes
  | clear => exact b.capacity_clear

theorem zeroPast_applyAll (capacity : Nat) (changes : List Change) :
    ((ofCapacity capacity).applyAll changes).ZeroPast ∧
      ((ofCapacity capacity).applyAll changes).capacity = capacity := by
  induction changes using List.reverseRecOn with
  | nil => exact ⟨zeroPast_ofCapacity capacity, capacity_ofCapacity capacity⟩
  | append_singleton changes c ih =>
    rw [applyAll_snoc, capacity_apply]
    exact ⟨ih.1.apply c, ih.2⟩

end TransmitBuffer

namespace ReceiveBuffer

variable {b : ReceiveBuffer}

def available? (b : ReceiveBuffer) : Option Nat := difference? b.len b.cursor

def peek? (b : ReceiveBuffer) : Option (Option UInt8) :=
  if b.cursor < b.len then b.storage[b.cursor]?.map some else some none

def readByte? (b : ReceiveBuffer) : Option (Option UInt8 × ReceiveBuffer) := do
  match ← b.peek? with
  | none => return (none, b)
  | some byte =>
    let cursor ← sumWithin? b.capacity b.cursor 1
    return (some byte, { b with cursor })

def readInto? (b : ReceiveBuffer) (out : Bytes) : Option (Nat × Bytes × ReceiveBuffer) := do
  let available ← b.available?
  let count := min out.length available
  let cursor ← sumWithin? b.capacity b.cursor count
  let bytes ← b.storage.slice? b.cursor cursor
  let out ← out.replace? 0 count bytes
  return (count, out, { b with cursor })

/-- No check fails: every operation comes to what it is without checks. -/
structure Safe (b : ReceiveBuffer) : Prop where
  available : b.available? = some b.available
  peek : b.peek? = some b.peek
  readByte : b.readByte? = some b.readByte
  readInto : ∀ out, b.readInto? out = some (b.readInto out)

/-- A transport may write any bytes anywhere in the storage. -/
def write (b : ReceiveBuffer) (start : Nat) (bytes : Bytes) : ReceiveBuffer :=
  { b with storage := b.storage.overwrite start bytes }

inductive Change
  | write (start : Nat) (bytes : Bytes)
  | load (claim : Nat)
  | readByte
  | read (out : Bytes)
  | clear

def apply (b : ReceiveBuffer) : Change → ReceiveBuffer
  | .write start bytes => b.write start bytes
  | .load claim => b.load claim
  | .readByte => b.readByte.2
  | .read out => (b.readInto out).2.2
  | .clear => b.clear

def applyAll (b : ReceiveBuffer) (changes : List Change) : ReceiveBuffer := changes.foldl apply b

theorem applyAll_append (b : ReceiveBuffer) (changes more : List Change) :
    b.applyAll (changes ++ more) = (b.applyAll changes).applyAll more := List.foldl_append ..

theorem capacity_write (b : ReceiveBuffer) (start : Nat) (bytes : Bytes) :
    (b.write start bytes).capacity = b.capacity := Bytes.length_overwrite ..

structure Bounded (b : ReceiveBuffer) : Prop where
  cursor_le : b.cursor ≤ b.len
  len_le : b.len ≤ b.capacity

theorem bounded_ofCapacity (capacity : Nat) : (ofCapacity capacity).Bounded where
  cursor_le := Nat.zero_le _
  len_le := Nat.zero_le _

namespace Bounded

theorem peek? (h : b.Bounded) : b.peek? = some b.peek := by
  rw [ReceiveBuffer.peek?, peek]
  by_cases hmore : b.cursor < b.len
  · have hlt : b.cursor < b.storage.length := Nat.lt_of_lt_of_le hmore h.len_le
    rw [if_pos hmore, if_pos hmore, List.getElem?_eq_getElem hlt]
    rfl
  · rw [if_neg hmore, if_neg hmore]

theorem readByte? (h : b.Bounded) : b.readByte? = some b.readByte := by
  simp only [ReceiveBuffer.readByte?, h.peek?, Option.bind_eq_bind, Option.bind_some, readByte]
  cases hbyte : b.peek with
  | none => rfl
  | some byte =>
    have hmore : b.cursor < b.len := by
      apply Nat.lt_of_not_le
      intro hnone
      rw [peek, if_neg (Nat.not_lt.2 hnone)] at hbyte
      cases hbyte
    have hlimit : b.cursor + 1 ≤ b.capacity := Nat.le_trans hmore h.len_le
    simp only [sumWithin?_of_le hlimit, Option.bind_some]
    rfl

theorem readInto? (h : b.Bounded) (out : Bytes) : b.readInto? out = some (b.readInto out) := by
  obtain ⟨hcursor, hlen⟩ := h
  have hlimit : b.cursor + min out.length b.available ≤ b.capacity := by
    rw [available]
    omega
  have hbytes : b.storage.slice? b.cursor (b.cursor + min out.length b.available) =
      some ((b.storage.drop b.cursor).take (min out.length b.available)) := by
    rw [Bytes.slice?_of_le (Nat.le_add_right ..) hlimit, List.drop_take, Nat.add_sub_cancel_left]
  have hcount : ((b.storage.drop b.cursor).take (min out.length b.available)).length =
      min out.length b.available - 0 := by
    have hstorage : b.storage.length = b.capacity := rfl
    rw [List.length_take, List.length_drop, hstorage]
    omega
  have hout := Bytes.replace?_of_length (Nat.zero_le _) (Nat.min_le_left out.length b.available)
    hcount
  have havailable : b.available? = some b.available := difference?_of_le hcursor
  simp only [ReceiveBuffer.readInto?, havailable, sumWithin?_of_le hlimit, hbytes, hout,
    Option.bind_eq_bind, Option.bind_some]
  rfl

theorem safe (h : b.Bounded) : b.Safe where
  available := difference?_of_le h.cursor_le
  peek := h.peek?
  readByte := h.readByte?
  readInto := h.readInto?

theorem skip (h : b.Bounded) (count : Nat) : (b.skip count).Bounded where
  cursor_le := by
    have hcursor := h.cursor_le
    change b.cursor + min count (b.len - b.cursor) ≤ b.len
    omega
  len_le := h.len_le

theorem apply (h : b.Bounded) (c : Change) : (b.apply c).Bounded := by
  cases c with
  | write start bytes =>
    refine ⟨h.cursor_le, ?_⟩
    change b.len ≤ (b.write start bytes).capacity
    rw [capacity_write]
    exact h.len_le
  | load claim => exact ⟨Nat.zero_le _, Nat.min_le_right ..⟩
  | readByte =>
    change b.readByte.2.Bounded
    rw [readByte_eq h.len_le]
    exact h.skip 1
  | read out => exact h.skip out.length
  | clear => exact bounded_ofCapacity b.capacity

end Bounded

theorem capacity_apply (b : ReceiveBuffer) (c : Change) : (b.apply c).capacity = b.capacity := by
  cases c with
  | write start bytes => exact b.capacity_write start bytes
  | readByte =>
    obtain ⟨cursor, h⟩ := b.readByte_advances
    change b.readByte.2.capacity = b.capacity
    rw [h]
    rfl
  | clear => exact b.capacity_clear
  | load _ | read _ => rfl

theorem bounded_applyAll (capacity : Nat) (changes : List Change) :
    ((ofCapacity capacity).applyAll changes).Bounded ∧
      ((ofCapacity capacity).applyAll changes).capacity = capacity := by
  induction changes using List.reverseRecOn with
  | nil => exact ⟨bounded_ofCapacity capacity, capacity_ofCapacity capacity⟩
  | append_singleton changes c ih =>
    rw [applyAll_append]
    change (ReceiveBuffer.apply _ c).Bounded ∧ (ReceiveBuffer.apply _ c).capacity = capacity
    rw [capacity_apply]
    exact ⟨ih.1.apply c, ih.2⟩

end ReceiveBuffer

variable {σ : Type} {T : Transport σ} {past : List Turn} {s : Socket}

theorem Lives.tx_changes (h : Lives T past s) :
    ∃ changes, s.tx = (TransmitBuffer.ofCapacity s.config.txCapacity.toNat).applyAll changes := by
  induction h with
  | fresh table config => exact ⟨[], rfl⟩
  | @turn past s w st _ ih =>
    obtain ⟨changes, hchanges⟩ := ih
    rw [(Socket.perform_keeps T s w st).2]
    rcases Socket.perform_tx T s w st with htx | htx | ⟨bytes, htx⟩
    · exact ⟨changes, htx.trans hchanges⟩
    · refine ⟨changes ++ [.clear], ?_⟩
      rw [TransmitBuffer.applyAll_snoc, ← hchanges, htx]
      rfl
    · refine ⟨changes ++ [.append bytes], ?_⟩
      rw [TransmitBuffer.applyAll_snoc, ← hchanges, htx]
      rfl

theorem Turn.Handling.rx_changes {o : Turn} (h : o.Handling) :
    ∃ changes, o.after.rx = o.before.rx.applyAll changes := by
  cases h with
  | clears _ _ hrx => exact ⟨[.clear], hrx⟩
  | @receives a written _ _ _ _ hrx => exact ⟨[.write 0 written, .load a.claim], hrx⟩
  | @reads count _ _ hrx =>
    refine ⟨[.read (.zeros count)], ?_⟩
    have hlength : (Bytes.zeros count).length = count := List.length_replicate
    change _ = o.before.rx.skip (Bytes.zeros count).length
    rw [hrx, hlength]
  | leaves _ _ hrx => exact ⟨[], hrx⟩

theorem Lives.rx_changes (h : Lives T past s) :
    ∃ changes, s.rx = (ReceiveBuffer.ofCapacity s.config.rxCapacity.toNat).applyAll changes := by
  induction h with
  | fresh table config => exact ⟨[], rfl⟩
  | @turn past s w st _ ih =>
    obtain ⟨changes, hchanges⟩ := ih
    have hfits : s.rx.len ≤ s.rx.capacity := by
      rw [hchanges]
      exact (ReceiveBuffer.bounded_applyAll ..).1.len_le
    obtain ⟨more, hmore⟩ := (Turn.handling_of hfits T w st).rx_changes
    refine ⟨changes ++ more, ?_⟩
    rw [(Socket.perform_keeps T s w st).2, ReceiveBuffer.applyAll_append, ← hchanges]
    exact hmore

/-- From a new buffer of any capacity on, whatever is appended, written by a transport, claimed,
read and cleared: lengths and cursor keep their bounds, the storage keeps its length, all bytes of
the transmit buffer that are not in use are zero, and no check of any operation ever fails. The
buffers of all sockets in all runs are such. -/
theorem buffers_never_overrun :
    (∀ (capacity : Nat) (changes : List TransmitBuffer.Change),
      let b := (TransmitBuffer.ofCapacity capacity).applyAll changes
      b.Safe ∧ b.storage.length = capacity ∧ b.len ≤ capacity ∧
        ∀ i, b.len ≤ i → i < capacity → b.storage[i]? = some 0) ∧
    (∀ (capacity : Nat) (changes : List ReceiveBuffer.Change),
      let b := (ReceiveBuffer.ofCapacity capacity).applyAll changes
      b.Safe ∧ b.storage.length = capacity ∧ b.cursor ≤ b.len ∧ b.len ≤ capacity) ∧
    ∀ (σ : Type) (T : Transport σ) (transport : σ) (tables : List SlotTable)
      (specs : List SocketSpec) (steps : List Step) (i : Nat) (s : Socket),
      ((Session.ofTables transport tables specs).run T steps).2.socket? i = some s →
      (∃ changes, s.tx = (TransmitBuffer.ofCapacity s.config.txCapacity.toNat).applyAll changes) ∧
      ∃ changes, s.rx = (ReceiveBuffer.ofCapacity s.config.rxCapacity.toNat).applyAll changes := by
  refine ⟨?_, ?_, ?_⟩
  · intro capacity changes b
    obtain ⟨hzero, hcapacity⟩ := TransmitBuffer.zeroPast_applyAll capacity changes
    refine ⟨hzero.safe, hcapacity, Nat.le_trans hzero.fits (Nat.le_of_eq hcapacity), ?_⟩
    intro i hi hlt
    exact hzero.getElem? hi (Nat.lt_of_lt_of_eq hlt hcapacity.symm)
  · intro capacity changes b
    obtain ⟨hbounded, hcapacity⟩ := ReceiveBuffer.bounded_applyAll capacity changes
    exact ⟨hbounded.safe, hcapacity, hbounded.cursor_le,
      Nat.le_trans hbounded.len_le (Nat.le_of_eq hcapacity)⟩
  · intro σ T transport tables specs steps i s hs
    have hlife := (Session.tracks_turns T i transport tables specs steps).alive s hs
    exact ⟨hlife.tx_changes, hlife.rx_changes⟩

/-- A write that is cut off, a claim far past the capacity, and a socket to which both happen. -/
theorem buffers_never_overrun_overclaimed :
    let b := (TransmitBuffer.ofCapacity 2).applyAll [.append [1, 2, 3], .clear, .append [9]]
    let r := (ReceiveBuffer.ofCapacity 2).applyAll
      [.write 0 [1, 2, 3], .load (UInt64.size - 1), .readByte]
    let script : Script := { inbound := [.datagram [1, 2, 3] ⟨.localhost, 9⟩ (some (UInt64.size - 1))] }
    let ss := ((Session.ofTables script [.ofCapacity 1]
      [{ table := 0, txCapacity := some 2, rxCapacity := some 2 }]).run Script.transport
        [.socket 0 (.begin 7000), .socket 0 (.write [1, 2, 3]), .socket 0 .parsePacket]).2
    b.storage[1]? = some 0 ∧ b.append? [7, 8] = some (1, ⟨[9, 7], 2⟩) ∧
      r.readInto? [0, 0, 0] = some (1, [2, 0, 0], ⟨[1, 2], 2, 2⟩) ∧
      ∃ s changes, ss.socket? 0 = some s ∧ s.rx = (ReceiveBuffer.ofCapacity 2).applyAll changes ∧
        s.rx.len = 2 := by
  intro b r script ss
  obtain ⟨htransmit, hreceive, hsockets⟩ := buffers_never_overrun
  obtain ⟨hsafe, -, -, hzero⟩ := htransmit 2 [.append [1, 2, 3], .clear, .append [9]]
  have hsocket : (ss.socket? 0).map (fun s => (s.config.rxCapacity.toNat, s.rx.len)) =
      some (2, 2) := by decide
  obtain ⟨s, hs, hmade⟩ := Option.map_eq_some_iff.1 hsocket
  obtain ⟨hcapacity, hlen⟩ := Prod.mk.inj hmade
  obtain ⟨-, changes, hchanges⟩ := hsockets Script Script.transport script _ _ _ 0 s hs
  rw [hcapacity] at hchanges
  refine ⟨hzero 1 (by decide) (by decide), (hsafe.append [7, 8]).trans rfl, ?_, ?_⟩
  · exact ((hreceive 2 _).1.readInto [0, 0, 0]).trans rfl
  · exact ⟨s, changes, hs, hchanges, hlen⟩

end Datagram
