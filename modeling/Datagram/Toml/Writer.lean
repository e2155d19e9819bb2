import Datagram.Toml.Scalar

/-!
# Writing TOML

Sheets as TOML texts: a line for each number, and for each table an empty line, a header and the
lines of its numbers. TOML has signed integers of 64 bits: a sheet with a larger number has no text.
Names stand as they are, so they must not need quotes.
-/

namespace Datagram.Toml

def numberLines : List (String × Nat) → List Char
  | [] => []
  | (name, n) :: rest =>
    name.toList ++ ' ' :: '=' :: ' ' :: (Nat.toDigits 10 n ++ '\n' :: numberLines rest)

def tableLines : List (String × List (String × Nat)) → List Char
  | [] => []
  | (name, numbers) :: rest =>
    '\n' :: '[' :: (name.toList ++ ']' :: '\n' :: (numberLines numbers ++ tableLines rest))

def sheetText (s : Sheet) : List Char := numberLines s.numbers ++ tableLines s.tables

def fit (ms : List (String × Nat)) : Bool := ms.all fun m => m.2 ≤ largestInteger

def write? (d : Document) : Option String :=
  d.sheet?.bind fun s =>
    if fit s.numbers && s.tables.all fun m => fit m.2 then some (.ofList (sheetText s)) else none

end Datagram.Toml
