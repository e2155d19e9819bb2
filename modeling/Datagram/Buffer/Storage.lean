/-!
# Storage

Storage is a run of bytes whose length never changes. `overwrite` replaces the bytes from a position
on, as far as the storage reaches.
-/

namespace Datagram

abbrev Bytes := List UInt8

def Bytes.zeros (count : Nat) : Bytes := List.replicate count 0

/-- The storage with `bytes` written from position `start` on; bytes past its end are dropped. -/
def Bytes.overwrite (storage : Bytes) (start : Nat) (bytes : Bytes) : Bytes :=
  storage.take start ++ bytes.take (storage.length - start) ++
    storage.drop (start + bytes.length)

theorem Bytes.length_overwrite (storage : Bytes) (start : Nat) (bytes : Bytes) :
    (Bytes.overwrite storage start bytes).length = storage.length := by
  simp only [Bytes.overwrite, List.length_append, List.length_take, List.length_drop]
  omega

end Datagram
