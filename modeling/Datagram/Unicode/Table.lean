import Datagram.Text.Digits

/-!
# Tables of code points

Properties of characters are kept as texts: entries with blanks between them, and all numbers in
hexadecimal. In a table of ranges an entry is a code point or the two ends of a range, `300-36F`.

In a table of replacements `391-3A1=3B1` moves a range to where its image starts, and `100-12E/2=101`
does so with every second code point of a range. `AE=72,AF,20.308` lists the replacements of
consecutive code points, each of them code points with points between, or nothing.
-/

namespace Datagram.Unicode

abbrev Ranges := List (Nat × Nat)

inductive Replacement where
  | shift (first last step image : Nat)
  | each (first : Nat) (images : List (List Nat))

def isGap (c : Char) : Bool := c = ' ' || c = '\n'

def entries (text : String) : List (List Char) :=
  (text.toList.splitOnP isGap).filter fun entry => !entry.isEmpty

def code (digits : List Char) : Nat := (Text.readDigits 16 digits).getD 0

namespace Ranges

def ofEntry (entry : List Char) : Nat × Nat :=
  match entry.splitOn '-' with
  | [first, last] => (code first, code last)
  | _ => (code entry, code entry)

def ofText (text : String) : Ranges := (entries text).map ofEntry

def has (ranges : Ranges) (c : Char) : Bool :=
  ranges.any fun range => range.1 ≤ c.toNat && c.toNat ≤ range.2

end Ranges

namespace Replacement

def image (digits : List Char) : List Nat :=
  if digits.isEmpty then [] else (digits.splitOn '.').map code

def ofRange (range image step : List Char) : Replacement :=
  let (first, last) := Ranges.ofEntry range
  .shift first last (code step) (code image)

def ofEntry (entry : List Char) : Replacement :=
  match entry.splitOn '=' with
  | [source, target] =>
    match source.splitOn '/' with
    | [range, step] => ofRange range target step
    | _ =>
      if source.contains '-' then ofRange source target ['1']
      else .each (code source) ((target.splitOn ',').map image)
  | _ => .each 0 []

def ofText (text : String) : List Replacement := (entries text).map ofEntry

def image? (n : Nat) : Replacement → Option (List Nat)
  | shift first last step image =>
    if first ≤ n ∧ n ≤ last ∧ (n - first) % step = 0 then some [image + (n - first)] else none
  | each first images => if first ≤ n then images[n - first]? else none

/-- The images of consecutive code points, each with its code point. -/
def pairs : Replacement → List (Nat × List Nat)
  | shift .. => []
  | each first images => images.zipIdx.map fun (image, i) => (first + i, image)

end Replacement
end Datagram.Unicode
