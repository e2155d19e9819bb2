import Datagram.Text.Digits

/-!
# Punycode

ASCII text for text beyond it. The ASCII characters come first, with a hyphen behind them if there
are any. The others follow in increasing order, each as the number of positions and code points that
were passed over to get to it. Such a distance is written in 36 digits, low ones first; a digit below
its threshold ends it. Thresholds follow a bias that adapts to the distances seen so far.
-/

namespace Datagram.Dns.Punycode

def base : Nat := 36

def firstBias : Nat := 72

def firstCode : Nat := 0x80

def isAscii (c : Char) : Bool := c.toNat < firstCode

/-- The threshold of the digit whose place is `place` digits behind the first, times the base. -/
def threshold (place bias : Nat) : Nat := max 1 (min 26 (place + base - bias))

theorem one_le_threshold (place bias : Nat) : 1 ≤ threshold place bias := Nat.le_max_left _ _

/-- Divides a distance until it is small, and counts the divisions times the base. -/
def damped (places distance : Nat) : Nat :=
  if 455 < distance then damped (places + base) (distance / (base - 1))
  else places + base * distance / (distance + 38)
termination_by distance
decreasing_by exact Nat.div_lt_self (by omega) (by decide)

/-- The bias after a distance, with `count` characters written so far. -/
def adapted (isFirst : Bool) (distance count : Nat) : Nat :=
  let distance := if isFirst then distance / 700 else distance / 2
  damped 0 (distance + distance / count)

def digit (value : Nat) : Char :=
  if value < 26 then Char.ofNat ('a'.toNat + value) else Char.ofNat ('0'.toNat + (value - 26))

def value? (c : Char) : Option Nat :=
  if 'a' ≤ c ∧ c ≤ 'z' then some (c.toNat - 'a'.toNat)
  else if c.isDigit then some (c.toNat - '0'.toNat + 26)
  else none

def digits (bias place distance : Nat) : List Char :=
  let t := threshold place bias
  if distance < t then [digit distance]
  else
    digit (t + (distance - t) % (base - t)) ::
      digits bias (place + base) ((distance - t) / (base - t))
termination_by distance
decreasing_by
  exact Nat.lt_of_le_of_lt (Nat.div_le_self _ _)
    (Nat.sub_lt_self (one_le_threshold place bias) (Nat.le_of_not_lt (by assumption)))

/-- A text that is being written: its digits, the distance passed over so far, the bias, and the
number of characters that are written. -/
structure Encoder where
  digits : List Char := []
  distance : Nat := 0
  bias : Nat := firstBias
  count : Nat

namespace Encoder

/-- Passes over `c` on the way through the text for characters with the code `n`. -/
def pass (ascii n : Nat) (e : Encoder) (c : Char) : Encoder :=
  if c.toNat < n then { e with distance := e.distance + 1 }
  else if c.toNat = n then
    { digits := e.digits ++ Punycode.digits e.bias 0 e.distance
      distance := 0
      bias := adapted (e.count = ascii) e.distance (e.count + 1)
      count := e.count + 1 }
  else e

/-- Writes all characters with the code `n`, coming from the code `previous`. -/
def write (text : List Char) (ascii previous n : Nat) (e : Encoder) : Encoder :=
  let e := { e with distance := e.distance + (n - previous) * (e.count + 1) }
  let e := text.foldl (pass ascii n) e
  { e with distance := e.distance + 1 }

def writeAll (text : List Char) (ascii : Nat) : Nat → List Nat → Encoder → Encoder
  | _, [], e => e
  | previous, n :: rest, e => writeAll text ascii (n + 1) rest (write text ascii previous n e)

end Encoder

def encode (text : List Char) : List Char :=
  let ascii := text.filter isAscii
  let codes := ((text.filter fun c => !isAscii c).map Char.toNat).eraseDups.mergeSort
  let e := Encoder.writeAll text ascii.length firstCode codes { count := ascii.length }
  ascii ++ (if ascii.isEmpty then [] else ['-']) ++ e.digits

/-- A text that is being read: what is read so far, the code and position of the character read
last, the bias, and the distance that is being read with the place and weight of its next digit. -/
structure Decoder where
  text : List Char
  code : Nat := firstCode
  position : Nat := 0
  bias : Nat := firstBias
  distance : Nat := 0
  place : Nat := 0
  weight : Nat := 1

namespace Decoder

/-- Goes on by the distance and inserts the character found there. -/
def insert (d : Decoder) (distance : Nat) : Option Decoder :=
  let count := d.text.length + 1
  let passed := d.position + distance
  let code := d.code + passed / count
  let position := passed % count
  if code.isValidChar then
    some
      { text := d.text.insertIdx position (Char.ofNat code)
        code
        position := position + 1
        bias := adapted (d.position = 0) distance count }
  else none

def step (d : Decoder) (c : Char) : Option Decoder := do
  let value ← value? c
  let distance := d.distance + value * d.weight
  let t := threshold d.place d.bias
  if value < t then d.insert distance
  else some { d with distance, place := d.place + base, weight := d.weight * (base - t) }

/-- What has been read, if no distance is open. -/
def finish? (d : Decoder) : Option (List Char) := if d.place = 0 then some d.text else none

end Decoder

/-- The ASCII characters in front of the last hyphen, and the digits behind it. -/
def divided (cs : List Char) : List Char × List Char :=
  let rest := cs.reverse.dropWhile (· ≠ '-')
  match rest with
  | [] | ['-'] => ([], cs)
  | _ :: ascii => (ascii.reverse, cs.drop rest.length)

def decode? (cs : List Char) : Option (List Char) := do
  let (ascii, rest) := divided cs
  guard (ascii.all isAscii)
  let d ← rest.foldlM Decoder.step { text := ascii }
  d.finish?

end Datagram.Dns.Punycode
