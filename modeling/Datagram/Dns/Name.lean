import Datagram.Dns.Label
import Datagram.Unicode.Numeric

/-!
# Host names

A host name is written as labels with points between them; a point at its end changes nothing. A
backslash takes the character behind it into the label, whatever it is, or the one with the code
that three octal digits give. An escape that the text ends in is dropped. Blanks and control
characters have to be escaped.

Some names are never looked up. `localhost`, the reverse names of the loopback addresses and all
names below these stand for the machine itself, and those below `invalid` and `onion` for nothing.
-/

namespace Datagram.Dns

structure Name where
  labels : List Label
deriving DecidableEq

namespace Name

def longest : Nat := 255

/-- Labels that are complete, the one that is being written, and the digits of an open escape. -/
structure Draft where
  complete : List (List Char) := []
  label : List Char := []
  escape : Option (List Char) := none

namespace Draft

def push (d : Draft) (c : Char) : Draft := { d with label := d.label ++ [c], escape := none }

/-- Space, control characters and the separators beyond ASCII. -/
def isBlank (c : Char) : Bool :=
  let n := c.toNat
  n ≤ 0x20 || (0x7F ≤ n && n ≤ 0xA0) || (0x2000 ≤ n && n ≤ 0x200A) ||
    [0x1680, 0x2028, 0x2029, 0x202F, 0x205F, 0x3000].contains n

/-- The next character behind a backslash and the digits that followed it. -/
def escaped (d : Draft) (digits : List Char) (c : Char) : Option Draft :=
  if (Text.digitValue? 8 c).isSome then
    let digits := digits ++ [c]
    if digits.length < 3 then some { d with escape := some digits }
    else (Text.readDigits 8 digits).map fun code => d.push (Char.ofNat code)
  else if digits.isEmpty && !Unicode.isNumeric c then some (d.push c)
  else none

def step (d : Draft) (c : Char) : Option Draft :=
  match d.escape with
  | some digits => d.escaped digits c
  | none =>
    if c = '.' then some { d with complete := d.complete ++ [d.label], label := [] }
    else if c = '\\' then some { d with escape := some [] }
    else if isBlank c then none
    else some (d.push c)

def labels (d : Draft) : List (List Char) :=
  if d.label.isEmpty then d.complete else d.complete ++ [d.label]

end Draft

/-- Whether all labels with their lengths and an end fit a message. -/
def fits (labels : List Label) : Bool :=
  labels.foldr (fun label total => label.length + 1 + total) 1 ≤ longest

def root : Name := ⟨[]⟩

def ofText? (text : String) : Option Name :=
  if text = "." then some root
  else do
    let draft ← text.toList.foldlM Draft.step {}
    let labels ← draft.labels.mapM Label.ofWritten?
    if fits labels then some ⟨labels⟩ else none

/-- The labels of a name without escapes. -/
def zone (text : String) : List Label := text.toList.splitOn '.'

def isBelow (name : Name) (zones : List (List Label)) : Bool :=
  zones.any fun zone => zone.isSuffixOf name.labels

def isMachine (name : Name) : Bool :=
  name.isBelow
    [zone "localhost", zone "127.in-addr.arpa",
      ['1'] :: List.replicate 31 ['0'] ++ zone "ip6.arpa"]

def isReserved (name : Name) : Bool := name.isBelow [zone "invalid", zone "onion"]

end Name
end Datagram.Dns
