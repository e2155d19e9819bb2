/-!
# Digits

Reading a number from its digits. `readDigits` wants at least one digit and nothing else;
`decimalAtMost` adds a limit on the value and keeps out leading zeros, so that no number has two
spellings.
-/

namespace Datagram.Text

def digitValue? (base : Nat) (c : Char) : Option Nat :=
  let value :=
    if c.isDigit then some (c.toNat - '0'.toNat)
    else if 'a' ≤ c ∧ c ≤ 'z' then some (c.toNat - 'a'.toNat + 10)
    else if 'A' ≤ c ∧ c ≤ 'Z' then some (c.toNat - 'A'.toNat + 10)
    else none
  value.filter (· < base)

/-- The value of the digits behind what has been read so far. -/
def readDigitsFrom (base : Nat) (value : Nat) : List Char → Option Nat
  | [] => some value
  | c :: rest =>
    match digitValue? base c with
    | some digit => readDigitsFrom base (value * base + digit) rest
    | none => none

def readDigits (base : Nat) : List Char → Option Nat
  | [] => none
  | digits => readDigitsFrom base 0 digits

def startsWithSpareZero : List Char → Bool
  | '0' :: _ :: _ => true
  | _ => false

def decimalAtMost (limit : Nat) (digits : List Char) : Option Nat :=
  if startsWithSpareZero digits then none
  else (readDigits 10 digits).filter (· ≤ limit)

end Datagram.Text
