import Datagram.Buffer.Stream
import Datagram.Buffer.Transmit

/-!
# The two buffers

Bytes appended to the transmit buffer are kept as far as they fit, so that its contents are the
first bytes of all that was appended, and its bytes past those in use are always zero, so that
clearing leaves it as new. Filling the receive buffer replaces the front of its storage
and keeps the rest; reading from it, in whichever way, hands out the next unread bytes and moves the
cursor past them, and nothing else. No buffer ever changes its capacity.
-/

namespace Datagram

namespace TransmitBuffer

variable {b : TransmitBuffer}

@[simp] theorem capacity_ofCapacity (capacity : Nat) : (ofCapacity capacity).capacity = capacity :=
  List.length_replicate

@[simp] theorem capacity_append (b : TransmitBuffer) (bytes : Bytes) :
    (b.append bytes).2.capacity = b.capacity := Bytes.length_overwrite ..

@[simp] theorem capacity_clear (b : TransmitBuffer) : b.clear.capacity = b.capacity :=
  Bytes.length_overwrite ..

theorem length_contents (h : b.len ≤ b.capacity) : b.contents.length = b.len := by
  rw [contents, List.length_take]
  exact Nat.min_eq_left h

theorem len_append_le (h : b.len ≤ b.capacity) (bytes : Bytes) :
    (b.append bytes).2.len ≤ b.capacity := by
  change b.len + min bytes.length (b.capacity - b.len) ≤ b.capacity
  omega

theorem length_take_room (b : TransmitBuffer) (bytes : Bytes) :
    (bytes.take (b.room bytes)).length = b.room bytes := by
  rw [List.length_take]
  exact Nat.min_eq_left (Nat.min_le_left ..)

theorem storage_append (b : TransmitBuffer) (bytes : Bytes) :
    (b.append bytes).2.storage =
      b.contents ++ bytes.take (b.room bytes) ++ b.storage.drop (b.len + b.room bytes) := by
  have hfits : (bytes.take (b.room bytes)).take (b.storage.length - b.len) =
      bytes.take (b.room bytes) := by
    rw [List.take_of_length_le]
    rw [length_take_room]
    exact Nat.min_le_right ..
  change Bytes.overwrite b.storage b.len (bytes.take (b.room bytes)) = _
  rw [Bytes.overwrite, hfits, length_take_room]
  rfl

theorem contents_append_room (h : b.len ≤ b.capacity) (bytes : Bytes) :
    (b.append bytes).2.contents = b.contents ++ bytes.take (b.room bytes) := by
  rw [contents, storage_append]
  apply List.take_left'
  rw [List.length_append, length_contents h, length_take_room]
  rfl

/-- Appending keeps the first bytes of old contents and new bytes together. -/
theorem contents_append (h : b.len ≤ b.capacity) (bytes : Bytes) :
    (b.append bytes).2.contents = (b.contents ++ bytes).take b.capacity := by
  have hold : b.contents.length = b.len := length_contents h
  have hwhole : b.contents.take b.capacity = b.contents := by
    apply List.take_of_length_le
    rw [hold]
    exact h
  have hroom : bytes.take (b.room bytes) = bytes.take (b.capacity - b.len) := by
    rw [room, List.take_eq_take_iff]
    omega
  rw [contents_append_room h, List.take_append, hold, hroom, hwhole]

theorem append_nil (b : TransmitBuffer) : (b.append []).2 = b := by
  have hroom : b.room [] = 0 := Nat.zero_min _
  have hstorage : (b.append []).2.storage = b.storage := by
    rw [storage_append, hroom, Nat.add_zero, List.take_nil, List.append_nil, contents,
      List.take_append_drop]
  calc
    (b.append []).2 = ⟨(b.append []).2.storage, b.len + b.room []⟩ := rfl
    _ = b := by rw [hstorage, hroom, Nat.add_zero]

theorem room_append (b : TransmitBuffer) (x y : Bytes) :
    b.room x + (b.append x).2.room y = b.room (x ++ y) := by
  change min x.length (b.capacity - b.len) + min y.length
    ((b.append x).2.capacity - (b.len + min x.length (b.capacity - b.len))) =
      min (x ++ y).length (b.capacity - b.len)
  rw [capacity_append, List.length_append]
  omega

/-- What is accepted of two parts is what is accepted of both at once. -/
theorem take_room_append (b : TransmitBuffer) (x y : Bytes) :
    x.take (b.room x) ++ y.take ((b.append x).2.room y) = (x ++ y).take (b.room (x ++ y)) := by
  have hx : b.room x ≤ x.length := Nat.min_le_left ..
  rw [List.take_append, ← b.room_append]
  by_cases hlt : b.room x < x.length
  -- Where the first part did not fit, nothing is left for the second.
  · have hfull : (b.append x).2.room y = 0 := by
      change min x.length (b.capacity - b.len) < x.length at hlt
      change min y.length
        ((b.append x).2.capacity - (b.len + min x.length (b.capacity - b.len))) = 0
      rw [capacity_append]
      omega
    rw [hfull, Nat.add_zero, Nat.sub_eq_zero_of_le hx]
  · have hall : b.room x = x.length := Nat.le_antisymm hx (Nat.le_of_not_lt hlt)
    rw [hall, List.take_length, List.take_of_length_le (Nat.le_add_right ..),
      Nat.add_sub_cancel_left]

/-- Appending bytes in two parts is appending them at once. -/
theorem append_append (h : b.len ≤ b.capacity) (x y : Bytes) :
    ((b.append x).2.append y).2 = (b.append (x ++ y)).2 := by
  have hlen : ((b.append x).2.append y).2.len = (b.append (x ++ y)).2.len := by
    change b.len + b.room x + (b.append x).2.room y = b.len + b.room (x ++ y)
    rw [Nat.add_assoc, b.room_append]
  have hrest : (b.append x).2.storage.drop ((b.append x).2.len + (b.append x).2.room y) =
      b.storage.drop (b.len + b.room (x ++ y)) := by
    have hfront : (b.contents ++ x.take (b.room x)).length = (b.append x).2.len := by
      rw [List.length_append, length_contents h, length_take_room]
      rfl
    rw [storage_append, ← hfront, List.drop_append, List.drop_eq_nil_of_le (Nat.le_add_right ..),
      Nat.add_sub_cancel_left, List.nil_append, List.drop_drop, Nat.add_assoc, b.room_append]
  have hstorage : ((b.append x).2.append y).2.storage = (b.append (x ++ y)).2.storage := by
    rw [storage_append, hrest, contents_append_room h, List.append_assoc b.contents,
      b.take_room_append, storage_append]
  calc
    ((b.append x).2.append y).2 =
        ⟨((b.append x).2.append y).2.storage, ((b.append x).2.append y).2.len⟩ := rfl
    _ = (b.append (x ++ y)).2 := by rw [hstorage, hlen]

/-- A buffer whose bytes past those in use are zero. -/
structure ZeroPast (b : TransmitBuffer) : Prop where
  fits : b.len ≤ b.capacity
  rest : b.storage.drop b.len = Bytes.zeros (b.capacity - b.len)

theorem zeroPast_ofCapacity (capacity : Nat) : (ofCapacity capacity).ZeroPast where
  fits := Nat.zero_le _
  rest := by
    rw [capacity_ofCapacity]
    exact List.drop_zero

theorem ZeroPast.append (h : b.ZeroPast) (bytes : Bytes) : (b.append bytes).2.ZeroPast where
  fits := by
    rw [capacity_append]
    exact len_append_le h.fits bytes
  rest := by
    have hlen : (b.append bytes).2.len = b.len + b.room bytes := rfl
    have hfront : (b.contents ++ bytes.take (b.room bytes)).length = b.len + b.room bytes := by
      rw [List.length_append, length_contents h.fits, length_take_room]
    have hdrop : (b.append bytes).2.storage.drop (b.len + b.room bytes) =
        b.storage.drop (b.len + b.room bytes) := by
      rw [storage_append, ← hfront, List.drop_left]
    rw [capacity_append, hlen, hdrop, ← List.drop_drop, h.rest, Bytes.zeros, Bytes.zeros,
      List.drop_replicate, Nat.sub_sub]

/-- Clearing zeroes only the bytes in use, which leaves no byte of the storage that is not zero. -/
theorem ZeroPast.clear_eq (h : b.ZeroPast) : b.clear = ofCapacity b.capacity := by
  have hfits : (Bytes.zeros b.len).take b.storage.length = Bytes.zeros b.len := by
    apply List.take_of_length_le
    rw [Bytes.zeros, List.length_replicate]
    exact h.fits
  have hstorage : b.storage.overwrite 0 (Bytes.zeros b.len) = Bytes.zeros b.capacity := by
    have hsum : b.len + (b.capacity - b.len) = b.capacity := Nat.add_sub_cancel' h.fits
    rw [Bytes.overwrite, List.take_zero, List.nil_append, Nat.sub_zero, Nat.zero_add, hfits,
      Bytes.zeros, List.length_replicate, h.rest, Bytes.zeros, List.replicate_append_replicate, hsum,
      Bytes.zeros]
  rw [clear, ofCapacity, hstorage]

theorem ZeroPast.clear (h : b.ZeroPast) : b.clear.ZeroPast := by
  rw [h.clear_eq]
  exact zeroPast_ofCapacity b.capacity

end TransmitBuffer

namespace ReceiveBuffer

variable {b b' b'' : ReceiveBuffer}

@[simp] theorem capacity_ofCapacity (capacity : Nat) : (ofCapacity capacity).capacity = capacity :=
  List.length_replicate

@[simp] theorem capacity_clear (b : ReceiveBuffer) : b.clear.capacity = b.capacity :=
  capacity_ofCapacity b.capacity

@[simp] theorem capacity_fill (b : ReceiveBuffer) (written : Bytes) :
    (b.fill written).capacity = b.capacity := Bytes.length_overwrite ..

@[simp] theorem capacity_load (b : ReceiveBuffer) (claim : Nat) :
    (b.load claim).capacity = b.capacity := rfl

/-- What was written replaces the front of the storage, as far as the storage reaches. -/
theorem getElem?_fill (b : ReceiveBuffer) (written : Bytes) (i : Nat) :
    (b.fill written).storage[i]? =
      if i < (written.take b.capacity).length then (written.take b.capacity)[i]?
      else b.storage[i]? := by
  have hstorage : (b.fill written).storage =
      written.take b.capacity ++ b.storage.drop written.length := by
    simp only [fill, Bytes.overwrite, capacity, List.take_zero, List.nil_append, Nat.sub_zero,
      Nat.zero_add]
  rw [hstorage]
  by_cases hi : i < (written.take b.capacity).length
  · rw [if_pos hi, List.getElem?_append_left hi]
  · rw [if_neg hi, List.getElem?_append_right (Nat.le_of_not_lt hi), List.getElem?_drop]
    rw [List.length_take] at hi ⊢
    by_cases hlong : written.length ≤ b.capacity
    · rw [Nat.min_eq_right hlong, Nat.add_sub_cancel' (by omega)]
    · have hend : b.storage.length ≤ i := by
        change b.capacity ≤ i
        omega
      rw [List.getElem?_eq_none hend, List.getElem?_eq_none]
      omega

/-- A claim within what was written leaves the front of that to read. -/
theorem unread_load_fill (b : ReceiveBuffer) (written : Bytes) {claim : Nat}
    (hclaim : min claim b.capacity ≤ (written.take b.capacity).length) :
    ((b.fill written).load claim).unread =
      (written.take b.capacity).take (min claim b.capacity) := by
  change (b.fill written).storage.take (min claim (b.fill written).capacity) = _
  rw [capacity_fill]
  apply List.ext_getElem?
  intro i
  by_cases hi : i < min claim b.capacity
  · rw [List.getElem?_take_of_lt hi, List.getElem?_take_of_lt hi, getElem?_fill,
      if_pos (Nat.lt_of_lt_of_le hi hclaim)]
  · rw [List.getElem?_take_eq_none (Nat.le_of_not_lt hi),
      List.getElem?_take_eq_none (Nat.le_of_not_lt hi)]

/-- A claim of just what was written leaves that to read. -/
theorem unread_load_written (b : ReceiveBuffer) {written : Bytes}
    (hfits : written.length ≤ b.capacity) :
    ((b.fill written).load written.length).unread = written := by
  have hwhole : written.take b.capacity = written := List.take_of_length_le hfits
  have hclaim : min written.length b.capacity ≤ (written.take b.capacity).length := by
    rw [hwhole]
    exact Nat.min_le_left ..
  rw [unread_load_fill b written hclaim, hwhole, Nat.min_eq_left hfits, List.take_length]

theorem getElem?_clear (b : ReceiveBuffer) {i : Nat} (hi : i < b.capacity) :
    b.clear.storage[i]? = some 0 := List.getElem?_replicate_of_lt hi

theorem length_unread (h : b.len ≤ b.capacity) : b.unread.length = b.available := by
  rw [unread, List.length_drop, List.length_take]
  change min b.len b.capacity - b.cursor = b.len - b.cursor
  rw [Nat.min_eq_left h]

/-- The unread bytes are those of the storage from the cursor up to the length. -/
theorem getElem?_unread (b : ReceiveBuffer) {i : Nat} (hi : i < b.available) :
    b.unread[i]? = b.storage[b.cursor + i]? := by
  rw [unread, List.getElem?_drop, List.getElem?_take_of_lt]
  rw [available] at hi
  omega

/-- The buffer after reading from it: only the cursor may have moved. -/
def Advances (b b' : ReceiveBuffer) : Prop := ∃ cursor, b' = { b with cursor }

theorem Advances.refl (b : ReceiveBuffer) : Advances b b := ⟨b.cursor, rfl⟩

theorem Advances.trans (h : Advances b b') (h' : Advances b' b'') : Advances b b'' := by
  obtain ⟨_, rfl⟩ := h
  obtain ⟨cursor, rfl⟩ := h'
  exact ⟨cursor, rfl⟩

theorem readInto_advances (b : ReceiveBuffer) (out : Bytes) : Advances b (b.readInto out).2.2 :=
  ⟨_, rfl⟩

/-- The buffer once the next bytes have been read, or all if there are fewer. -/
def skip (b : ReceiveBuffer) (count : Nat) : ReceiveBuffer :=
  { b with cursor := b.cursor + min count b.available }

theorem skip_zero (b : ReceiveBuffer) : b.skip 0 = b := by
  rw [skip, Nat.zero_min, Nat.add_zero]

theorem skip_of_drained (h : b.available = 0) (count : Nat) : b.skip count = b := by
  rw [skip, h, Nat.min_zero, Nat.add_zero]

theorem available_skip (b : ReceiveBuffer) (count : Nat) :
    (b.skip count).available = b.available - count := by
  simp only [skip, available]
  omega

theorem skip_skip (b : ReceiveBuffer) (m n : Nat) : (b.skip m).skip n = b.skip (m + n) := by
  have hcursor : (b.skip m).cursor + min n (b.skip m).available =
      b.cursor + min (m + n) b.available := by
    rw [available_skip]
    change b.cursor + min m b.available + _ = _
    omega
  rw [skip, hcursor]
  rfl

/-- Nothing is skipped past the end. -/
theorem skip_of_le {count : Nat} (h : b.available ≤ count) : b.skip count = b.skip b.available := by
  rw [skip, skip, Nat.min_eq_right h, Nat.min_self]

theorem unread_skip (b : ReceiveBuffer) (count : Nat) :
    (b.skip count).unread = b.unread.drop count := by
  change (b.storage.take b.len).drop (b.cursor + min count b.available) = _
  rw [unread, List.drop_drop]
  by_cases hcount : count ≤ b.available
  · rw [Nat.min_eq_left hcount]
  · have hlength : (b.storage.take b.len).length ≤ b.len := List.length_take_le ..
    rw [available] at hcount ⊢
    rw [List.drop_eq_nil_of_le, List.drop_eq_nil_of_le] <;> omega

theorem peek_eq_head? (b : ReceiveBuffer) : b.peek = b.unread.head? := by
  rw [unread, List.head?_drop, peek]
  by_cases hmore : b.cursor < b.len
  · rw [if_pos hmore, List.getElem?_take_of_lt hmore]
  · rw [if_neg hmore, List.getElem?_take_eq_none (Nat.le_of_not_lt hmore)]

theorem readByte_eq (h : b.len ≤ b.capacity) : b.readByte = (b.unread.head?, b.skip 1) := by
  rw [← b.peek_eq_head?, readByte]
  by_cases hmore : b.cursor < b.len
  · obtain ⟨byte, hbyte⟩ : ∃ byte, b.peek = some byte := by
      rw [peek, if_pos hmore]
      exact ⟨_, List.getElem?_eq_getElem (Nat.lt_of_lt_of_le hmore h)⟩
    have hone : min 1 b.available = 1 := by
      rw [available]
      omega
    rw [hbyte, skip, hone]
  · have hnone : b.peek = none := by rw [peek, if_neg hmore]
    have hdrained : b.available = 0 := by
      rw [available]
      omega
    rw [hnone, skip_of_drained hdrained]

theorem unread_eq (b : ReceiveBuffer) :
    b.unread = (b.storage.drop b.cursor).take b.available := List.drop_take ..

/-- One read hands out the next bytes that fit the caller's, whose rest it leaves. -/
theorem readInto_eq (h : b.len ≤ b.capacity) (out : Bytes) :
    b.readInto out = (min out.length b.unread.length,
      b.unread.take out.length ++ out.drop b.unread.length, b.skip out.length) := by
  have hread : (b.storage.drop b.cursor).take (min out.length b.available) =
      b.unread.take out.length := by rw [unread_eq, List.take_take]
  have hout : out.overwrite 0 (b.unread.take out.length) =
      b.unread.take out.length ++ out.drop b.unread.length := by
    rw [Bytes.overwrite, List.take_zero, List.nil_append, Nat.sub_zero, Nat.zero_add,
      List.take_take, Nat.min_self, List.length_take]
    by_cases hmore : out.length ≤ b.unread.length
    · rw [Nat.min_eq_left hmore, List.drop_length, List.drop_eq_nil_of_le hmore]
    · rw [Nat.min_eq_right (Nat.le_of_not_le hmore)]
  rw [readInto, hread, hout, length_unread h]
  rfl

/-- A read that hands out nothing leaves the buffer as it is. -/
theorem readInto_none {out : Bytes} (hread : (b.readInto out).1 = 0) :
    (b.readInto out).2.2 = b := by
  change { b with cursor := b.cursor + (b.readInto out).1 } = b
  rw [hread, Nat.add_zero]

theorem readToEnd_done {chunk : Nat} (hread : (b.readInto (Bytes.zeros chunk)).1 = 0) :
    b.readToEnd chunk = ([], b) := by
  rw [readToEnd]
  simp only [dif_pos hread, readInto_none hread]

theorem readToEnd_more {chunk : Nat} (hread : (b.readInto (Bytes.zeros chunk)).1 ≠ 0) :
    b.readToEnd chunk =
      let r := b.readInto (Bytes.zeros chunk)
      let rest := r.2.2.readToEnd chunk
      (r.2.1.take r.1 ++ rest.1, rest.2) := by
  rw [readToEnd]
  exact dif_neg hread

/-- Reading to the end hands out all unread bytes, in chunks of whatever size. -/
theorem readToEnd_eq {chunk : Nat} (hchunk : 0 < chunk) (h : b.len ≤ b.capacity) :
    b.readToEnd chunk = (b.unread, b.skip b.unread.length) := by
  induction b using readToEnd.induct chunk with
  | case1 b r hnone =>
    have hread : min (Bytes.zeros chunk).length b.available = 0 := hnone
    have hlength : b.unread.length = 0 := by
      rw [length_unread h]
      rw [Bytes.zeros, List.length_replicate] at hread
      omega
    rw [readToEnd_done hnone, hlength, skip_zero, List.length_eq_zero_iff.1 hlength]
  | case2 b r hsome ih =>
    have hr : r.2.2 = b.skip (Bytes.zeros chunk).length := rfl
    have hrest := ih h
    rw [hr] at hrest
    have hfront : (b.unread.take (Bytes.zeros chunk).length).length =
        min (Bytes.zeros chunk).length b.unread.length := List.length_take ..
    have hpast : b.available ≤ (Bytes.zeros chunk).length +
        (b.unread.drop (Bytes.zeros chunk).length).length := by
      rw [List.length_drop, length_unread h]
      omega
    rw [readToEnd_more hsome, readInto_eq h]
    simp only [hrest, ← hfront, List.take_left, unread_skip, List.take_append_drop]
    rw [skip_skip, skip_of_le hpast, length_unread h]

theorem readByte_of_drained (h : b.available = 0) : b.readByte.2 = b := by
  have hcursor : ¬ b.cursor < b.len := by
    rw [available] at h
    omega
  rw [readByte, peek, if_neg hcursor]

theorem readInto_of_drained (h : b.available = 0) (out : Bytes) :
    (b.readInto out).1 = 0 ∧ (b.readInto out).2.2 = b := by
  have hcount : (b.readInto out).1 = 0 := by
    change min out.length b.available = 0
    rw [h, Nat.min_zero]
  exact ⟨hcount, readInto_none hcount⟩

theorem fillFrom_nil (b : ReceiveBuffer) : b.fillFrom [] = (.ok (), [], b) := by
  rw [fillFrom]
  exact if_pos rfl

theorem fillFrom_eof (h : b.available = 0) {out : Bytes} (hout : out ≠ []) :
    b.fillFrom out = (.error .unexpectedEof, out, b) := by
  have hmore : ¬ out.isEmpty = true := fun hempty => hout (List.isEmpty_iff.1 hempty)
  rw [fillFrom, if_neg hmore]
  exact dif_pos (readInto_of_drained h out).1

theorem fillFrom_more {out : Bytes} (hread : (b.readInto out).1 ≠ 0) :
    b.fillFrom out =
      let r := b.readInto out
      let rest := r.2.2.fillFrom (r.2.1.drop r.1)
      (rest.1, r.2.1.take r.1 ++ rest.2.1, rest.2.2) := by
  have hmore : ¬ out.isEmpty = true := by
    intro hempty
    obtain rfl := List.isEmpty_iff.1 hempty
    exact hread (Nat.zero_min _)
  rw [fillFrom, if_neg hmore]
  exact dif_neg hread

theorem fillFrom_of_drained (h : b.available = 0) (out : Bytes) : (b.fillFrom out).2.2 = b := by
  by_cases hempty : out = []
  · rw [hempty, fillFrom_nil]
  · rw [fillFrom_eof h hempty]

/-- Filling hands out what one read does, and fails if that did not fill the caller's bytes. -/
theorem fillFrom_eq (h : b.len ≤ b.capacity) (out : Bytes) :
    b.fillFrom out = (if out.length ≤ b.unread.length then .ok () else .error .unexpectedEof,
      b.unread.take out.length ++ out.drop b.unread.length, b.skip out.length) := by
  by_cases hempty : out = []
  · subst out
    rw [fillFrom_nil, List.length_nil, if_pos (Nat.zero_le _), skip_zero, List.drop_nil]
    rfl
  by_cases hdrained : b.available = 0
  · have hnone : b.unread = [] := by
      rw [← List.length_eq_zero_iff, length_unread h, hdrained]
    have hshort : ¬ out.length ≤ ([] : Bytes).length := by
      rw [List.length_nil, Nat.le_zero, List.length_eq_zero_iff]
      exact hempty
    rw [fillFrom_eof hdrained hempty, hnone, if_neg hshort, List.take_nil, skip_of_drained hdrained]
    rfl
  -- One read either fills the caller's bytes or drains the buffer; the next ends the loop.
  have hread : (b.readInto out).1 ≠ 0 := by
    have hlength : out.length ≠ 0 := fun hzero => hempty (List.length_eq_zero_iff.1 hzero)
    change min out.length b.available ≠ 0
    omega
  have hfront : (b.unread.take out.length).length = min out.length b.unread.length :=
    List.length_take ..
  rw [fillFrom_more hread, readInto_eq h]
  simp only [← hfront, List.take_left, List.drop_left]
  by_cases hall : out.length ≤ b.unread.length
  · rw [List.drop_eq_nil_of_le hall, fillFrom_nil, if_pos hall]
  · have hrest : out.drop b.unread.length ≠ [] := by
      rw [Ne, List.drop_eq_nil_iff]
      exact hall
    have hend : (b.skip out.length).available = 0 := by
      rw [available_skip, ← length_unread h]
      omega
    rw [fillFrom_eof hend hrest, if_neg hall]

theorem readToEnd_of_drained (h : b.available = 0) (chunk : Nat) : (b.readToEnd chunk).2 = b := by
  rw [readToEnd_done (readInto_of_drained h (Bytes.zeros chunk)).1]

theorem readByte_advances (b : ReceiveBuffer) : Advances b b.readByte.2 := by
  unfold readByte
  split
  · exact ⟨_, rfl⟩
  · exact .refl b

theorem fillFrom_advances (b : ReceiveBuffer) (out : Bytes) : Advances b (b.fillFrom out).2.2 := by
  induction b, out using fillFrom.induct with
  | case1 b out hempty =>
    rw [List.isEmpty_iff.1 hempty, fillFrom_nil]
    exact .refl b
  | case2 b out hmore r hnone =>
    have hstop : b.fillFrom out = (.error .unexpectedEof, out, b) := by
      rw [fillFrom, if_neg hmore]
      exact dif_pos hnone
    rw [hstop]
    exact .refl b
  | case3 b out hmore r hsome ih =>
    rw [fillFrom_more hsome]
    exact (b.readInto_advances out).trans ih

theorem readToEnd_advances (chunk : Nat) (b : ReceiveBuffer) :
    Advances b (b.readToEnd chunk).2 := by
  induction b using readToEnd.induct chunk with
  | case1 b r hnone =>
    rw [readToEnd_done hnone]
    exact .refl b
  | case2 b r hsome ih =>
    rw [readToEnd_more hsome]
    exact (b.readInto_advances _).trans ih

theorem readToString_snd (chunk : Nat) (b : ReceiveBuffer) :
    (b.readToString chunk).2 = (b.readToEnd chunk).2 := by
  rcases hbytes : b.readToEnd chunk with ⟨bytes, b'⟩
  simp only [readToString, hbytes]
  split <;> rfl

theorem readToString_advances (chunk : Nat) (b : ReceiveBuffer) :
    Advances b (b.readToString chunk).2 := by
  rw [readToString_snd]
  exact b.readToEnd_advances chunk

end ReceiveBuffer
end Datagram
