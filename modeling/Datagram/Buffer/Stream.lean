import Datagram.Buffer.Receive

/-!
# Reading the receive buffer as a stream

The reads of a byte stream, each made of repeated `readInto` until that returns zero: `readExact`
fills a buffer or fails, `readToEnd` takes everything in chunks of any size, and `readToString` does
the same and wants the bytes to be UTF-8. What a failing read has consumed stays consumed.
-/

namespace Datagram

inductive StreamFailure where
  | unexpectedEof
  | invalidUtf8
deriving DecidableEq

namespace StreamFailure

def name : StreamFailure → String
  | unexpectedEof => "UnexpectedEof"
  | invalidUtf8 => "InvalidData"

def message : StreamFailure → String
  | unexpectedEof => "failed to fill whole buffer"
  | invalidUtf8 => "stream did not contain valid UTF-8"

end StreamFailure

namespace ReceiveBuffer

theorem available_readInto_lt {b : ReceiveBuffer} {out : Bytes} (h : (b.readInto out).1 ≠ 0) :
    (b.readInto out).2.2.available < b.available := by
  simp only [readInto, available] at *
  omega

/-- Fills `out` from the front for as long as reads return bytes. -/
def fillFrom (b : ReceiveBuffer) (out : Bytes) : Except StreamFailure Unit × Bytes × ReceiveBuffer :=
  if out.isEmpty then (.ok (), out, b)
  else
    let r := b.readInto out
    if _more : r.1 = 0 then (.error .unexpectedEof, out, b)
    else
      let rest := fillFrom r.2.2 (r.2.1.drop r.1)
      (rest.1, r.2.1.take r.1 ++ rest.2.1, rest.2.2)
termination_by b.available
decreasing_by exact available_readInto_lt _more

def readExact (b : ReceiveBuffer) (out : Bytes) :
    Except StreamFailure Unit × Bytes × ReceiveBuffer :=
  b.fillFrom out

/-- All that successive reads into `chunk` bytes hand out, until one hands out nothing. -/
def readToEnd (chunk : Nat) (b : ReceiveBuffer) : Bytes × ReceiveBuffer :=
  let r := b.readInto (Bytes.zeros chunk)
  if _more : r.1 = 0 then ([], r.2.2)
  else
    let rest := readToEnd chunk r.2.2
    (r.2.1.take r.1 ++ rest.1, rest.2)
termination_by b.available
decreasing_by exact available_readInto_lt _more

def readToString (chunk : Nat) (b : ReceiveBuffer) :
    Except StreamFailure (Nat × String) × ReceiveBuffer :=
  let (bytes, b) := b.readToEnd chunk
  match String.fromUTF8? ⟨bytes.toArray⟩ with
  | some text => (.ok (bytes.length, text), b)
  | none => (.error .invalidUtf8, b)

end ReceiveBuffer
end Datagram
