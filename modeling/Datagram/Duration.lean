/-!
# Durations

A duration is a number of whole seconds below `2 ^ 64` and a rest of nanoseconds below one second.
`toNanos` is its length as one number. `scale` multiplies by a 32-bit factor and stops at the
longest duration, `carry?` accepts a rest of a second or more by moving it into the seconds.

The written form (`text`) uses the largest of the units s, ms, µs and ns that leaves a whole part,
and drops the zeros at the end of the fraction.
-/

namespace Datagram

def nanosPerSec : Nat := 1000000000

structure Duration where
  secs : UInt64
  nanos : UInt32
  nanos_lt : nanos.toNat < nanosPerSec := by decide
deriving DecidableEq

namespace Duration

def zero : Duration := ⟨0, 0, by decide⟩

def longest : Duration := ⟨UInt64.ofNat (UInt64.size - 1), 999999999, by decide⟩

def toNanos (d : Duration) : Nat := d.secs.toNat * nanosPerSec + d.nanos.toNat

private theorem nanos_rest_lt (n : Nat) :
    (UInt32.ofNat (n % nanosPerSec)).toNat < nanosPerSec := by
  have h : n % nanosPerSec < nanosPerSec := Nat.mod_lt n (by decide)
  rw [UInt32.toNat_ofNat']
  exact Nat.lt_of_le_of_lt (Nat.mod_le _ _) h

/-- The duration of `secs` seconds and `nanos` nanoseconds, if its seconds fit in 64 bits. -/
def carry? (secs : UInt64) (nanos : Nat) : Option Duration :=
  let whole := secs.toNat + nanos / nanosPerSec
  if whole < UInt64.size then
    some ⟨UInt64.ofNat whole, UInt32.ofNat (nanos % nanosPerSec), nanos_rest_lt nanos⟩
  else none

def ofSecs (secs : UInt64) : Duration := ⟨secs, 0, by decide⟩

def ofMillis (ms : Nat) : Duration :=
  ⟨UInt64.ofNat (ms / 1000), UInt32.ofNat (ms * 1000000 % nanosPerSec), nanos_rest_lt _⟩

/-- `k` times the duration, or the longest one where the seconds leave 64 bits. -/
def scale (d : Duration) (k : UInt32) : Duration :=
  let nanos := d.nanos.toNat * k.toNat
  let secs := d.secs.toNat * k.toNat
  if secs < UInt64.size then (carry? (UInt64.ofNat secs) nanos).getD longest else longest

/-- The longer of two durations. -/
def atLeast (least d : Duration) : Duration :=
  if d.toNanos < least.toNanos then least else d

/-- The digits of `n / 10 ^ width` after the point, without zeros at the end. -/
def fraction (width n : Nat) : List Char :=
  let digits := Nat.toDigits 10 n
  let padded := List.replicate (width - digits.length) '0' ++ digits
  (padded.reverse.dropWhile (· = '0')).reverse

/-- `whole` and `rest / 10 ^ width` in decimal, followed by the unit. -/
def decimal (whole width rest : Nat) (unit : String) : String :=
  let digits := fraction width rest
  toString whole ++ (if digits.isEmpty then "" else "." ++ String.ofList digits) ++ unit

def text (d : Duration) : String :=
  let n := d.nanos.toNat
  if d.secs ≠ 0 then decimal d.secs.toNat 9 n "s"
  else if 1000000 ≤ n then decimal (n / 1000000) 6 (n % 1000000) "ms"
  else if 1000 ≤ n then decimal (n / 1000) 3 (n % 1000) "µs"
  else decimal n 0 0 "ns"

end Duration
end Datagram
