import Datagram.Document
import Datagram.Toml.Lexeme

/-!
# Single values of a TOML text

Numbers, truth values, strings, dates and times. Integers are written in decimal, with a sign if need
be, or behind `0x`, `0o` or `0b`; they have 64 bits and underscores may stand between their digits.
Of all values only integers from zero on are numbers to a document.
-/

namespace Datagram.Toml

/-- Further digits, each perhaps behind one underscore, without the underscores. -/
def moreDigits (digit : Char → Bool) : List Char → List Char × List Char
  | '_' :: c :: rest =>
    if digit c then
      let (digits, rest) := moreDigits digit rest
      (c :: digits, rest)
    else ([], '_' :: c :: rest)
  | c :: rest =>
    if digit c then
      let (digits, rest) := moreDigits digit rest
      (c :: digits, rest)
    else ([], c :: rest)
  | [] => ([], [])

/-- One digit or more, zeros in front allowed. -/
def digitRun (digit : Char → Bool) : Parser (List Char)
  | c :: rest =>
    if digit c then
      let (digits, rest) := moreDigits digit rest
      some (c :: digits, rest)
    else none
  | [] => none

def sign : List Char → Bool × List Char
  | '-' :: rest => (true, rest)
  | '+' :: rest => (false, rest)
  | cs => (false, cs)

/-- The digits of a decimal whole number: a zero stands alone. -/
def wholeDigits : Parser (List Char)
  | '0' :: rest => some (['0'], rest)
  | cs => digitRun Char.isDigit cs

def largestInteger : Nat := UInt64.size / 2 - 1

def integer? (negative : Bool) (base : Nat) (digits : List Char) : Option Document :=
  (Text.readDigits base digits).bind fun n =>
    if negative then
      if n = 0 then some (.natural 0) else if n ≤ largestInteger + 1 then some .other else none
    else if n ≤ largestInteger then some (.natural n) else none

def isDigitOf (base : Nat) (c : Char) : Bool := (Text.digitValue? base c).isSome

def basedInteger (base : Nat) (cs : List Char) : Option (Document × List Char) := do
  let (digits, rest) ← digitRun (isDigitOf base) cs
  let value ← integer? false base digits
  pure (value, rest)

/-- The exponent behind its letter, as a sign and digits. -/
def exponent (cs : List Char) : Option ((Bool × Nat) × List Char) := do
  let (negative, cs) := sign cs
  let (digits, rest) ← digitRun Char.isDigit cs
  let value ← Text.readDigits 10 digits
  pure ((negative, value), rest)

def optionalExponent : Parser (Bool × Nat)
  | 'e' :: rest | 'E' :: rest => exponent rest
  | cs => some ((false, 0), cs)

/-- Half a unit in the last place above the largest binary fraction of 64 bits. -/
def fractionLimit : Nat := Nat.pow 2 1024 - Nat.pow 2 970

/-- Whether `digits / 10 ^ places` times the power of ten is beyond what 64 bits can hold. A number
with more than 400 digits before the point is, one with as many zeros behind it is not. -/
def overflows (digits : List Char) (places : Nat) (negative : Bool) (power : Nat) : Bool :=
  let n := (Text.readDigits 10 digits).getD 0
  let size := (Nat.toDigits 10 n).length
  if n = 0 then false
  else if negative then
    if size + 400 < power then false else fractionLimit * Nat.pow 10 (power + places) ≤ n
  else if places + 400 < size + power then true
  else fractionLimit * Nat.pow 10 places ≤ n * Nat.pow 10 power

/-- A decimal number. A point or an exponent makes it a fraction, and a positive fraction that is too
large is refused. -/
def decimal (cs : List Char) : Option (Document × List Char) := do
  let (negative, cs) := sign cs
  let (whole, rest) ← wholeDigits cs
  let fraction := fun (digits : List Char) (places : Nat) (rest : List Char) => do
    let ((down, power), rest) ← optionalExponent rest
    guard (negative || !overflows digits places down power)
    pure (Document.other, rest)
  match rest with
  | '.' :: behind =>
    let (digits, rest) ← digitRun Char.isDigit behind
    fraction (whole ++ digits) digits.length rest
  | 'e' :: _ | 'E' :: _ => fraction whole 0 rest
  | rest =>
    let value ← integer? negative 10 whole
    pure (value, rest)

def stripWord (word : String) (cs : List Char) : Option (List Char) :=
  if word.toList.isPrefixOf cs then some (cs.drop word.length) else none

def word (words : List String) (cs : List Char) : Option (Document × List Char) :=
  (words.findSome? fun word => stripWord word cs).map fun rest => (.other, rest)

def number (cs : List Char) : Option (Document × List Char) :=
  match cs with
  | '0' :: 'x' :: rest => basedInteger 16 rest
  | '0' :: 'o' :: rest => basedInteger 8 rest
  | '0' :: 'b' :: rest => basedInteger 2 rest
  | cs => (word ["inf", "nan"] (sign cs).2).orElse fun _ => decimal cs

/-- A number of exactly `count` digits within bounds. -/
def fixedDigits (count low high : Nat) (cs : List Char) : Option (Nat × List Char) := do
  let digits := cs.take count
  guard (digits.length = count && digits.all Char.isDigit)
  let value ← Text.readDigits 10 digits
  guard (low ≤ value && value ≤ high)
  pure (value, cs.drop count)

def isLeapYear (year : Nat) : Bool := year % 4 = 0 && (year % 100 ≠ 0 || year % 400 = 0)

def daysOfMonth (year month : Nat) : Nat :=
  if month = 2 then if isLeapYear year then 29 else 28
  else if [4, 6, 9, 11].contains month then 30
  else 31

def mark (c : Char) : List Char → Option (List Char)
  | d :: rest => if c = d then some rest else none
  | [] => none

def date (cs : List Char) : Option (List Char) := do
  let (year, cs) ← fixedDigits 4 0 9999 cs
  let cs ← mark '-' cs
  let (month, cs) ← fixedDigits 2 1 12 cs
  let cs ← mark '-' cs
  let (_, cs) ← fixedDigits 2 1 (daysOfMonth year month) cs
  pure cs

def secondFraction : List Char → Option (List Char)
  | '.' :: rest =>
    if (rest.takeWhile Char.isDigit).isEmpty then none else some (rest.dropWhile Char.isDigit)
  | cs => some cs

/-- Hours, minutes and seconds, where a minute may have a sixty-first second. -/
def time (cs : List Char) : Option (List Char) := do
  let (_, cs) ← fixedDigits 2 0 23 cs
  let cs ← mark ':' cs
  let (_, cs) ← fixedDigits 2 0 59 cs
  let cs ← mark ':' cs
  let (_, cs) ← fixedDigits 2 0 60 cs
  secondFraction cs

def numericOffset (cs : List Char) : Option (List Char) := do
  let (_, cs) ← fixedDigits 2 0 23 cs
  let cs ← mark ':' cs
  let (_, cs) ← fixedDigits 2 0 59 cs
  pure cs

def offset : List Char → Option (List Char)
  | 'Z' :: rest | 'z' :: rest => some rest
  | '+' :: rest | '-' :: rest => numericOffset rest
  | cs => some cs

/-- A time behind a date, if one follows. -/
def timeOfDate : List Char → Option (List Char)
  | 'T' :: rest | 't' :: rest | ' ' :: rest => (time rest).bind offset
  | _ => none

def dateOrTime (cs : List Char) : Option (List Char) :=
  match date cs with
  | some rest => some ((timeOfDate rest).getD rest)
  | none => time cs

def scalar (cs : List Char) : Option (Document × List Char) :=
  match cs with
  | '"' :: _ | '\'' :: _ => (anyString cs).map fun rest => (.other, rest)
  | 't' :: _ | 'f' :: _ => word ["true", "false"] cs
  | _ =>
    match dateOrTime cs with
    | some rest => some (.other, rest)
    | none => number cs

end Datagram.Toml
