import Datagram.Json.Reader
import Datagram.Json.Writer
import Datagram.Serialization
import Datagram.Toml.Reader
import Datagram.Toml.Writer

/-!
# A serialization library to run on

A record is read from a table by its members, of which those of other names do not matter, or from a
list by its items in the order of the fields. A name that is given twice is a failure, and so is a
value that does not fit. A duration is a table of exactly `secs` and `nanos`, or a list of both.

JSON and TOML differ, apart from their texts, in one thing: whether a list may have items beyond
those that are wanted.
-/

namespace Datagram

namespace SpareItems

def accepts (spare : SpareItems) (rest : List Document) : Bool :=
  spare = .ignored || rest.isEmpty

end SpareItems

namespace Document

def natural? (bound : Nat) : Document → Option Nat
  | .natural n => if n < bound then some n else none
  | _ => none

def u64? (d : Document) : Option UInt64 := (d.natural? UInt64.size).map UInt64.ofNat

def timeoutOf? (secs nanos : Document) : Option Duration := do
  let secs ← secs.u64?
  let nanos ← nanos.natural? UInt32.size
  Duration.carry? secs nanos

def timeout? (spare : SpareItems) : Document → Option Duration
  | .list (secs :: nanos :: rest) => if spare.accepts rest then timeoutOf? secs nanos else none
  | .table [(first, a), (second, b)] =>
    if first = "secs" ∧ second = "nanos" then timeoutOf? a b
    else if first = "nanos" ∧ second = "secs" then timeoutOf? b a
    else none
  | _ => none

end Document

namespace Runnable

def word : Codec UInt64 where
  document n := .natural n.toNat
  read? _ := Document.u64?

def duration : Codec Duration where
  document t := .table [("secs", .natural t.secs.toNat), ("nanos", .natural t.nanos.toNat)]
  read? := Document.timeout?

section Records

variable {α : Type} (fields : List (Field α)) (standard : α) (spare : SpareItems)

def ofMembers? : List (String × Document) → Option α
  | [] => some standard
  | (name, d) :: rest =>
    match fields.find? (·.name = name) with
    | none => ofMembers? rest
    | some field =>
      if (rest.map Prod.fst).contains name then none
      else (ofMembers? rest).bind (field.set? spare d)

def ofItems? : List (Field α) → List Document → α → Option α
  | field :: fields, d :: rest, a => (field.set? spare d a).bind (ofItems? fields rest)
  | [], rest, a => if spare.accepts rest then some a else none
  | _, [], a => some a

def record : Codec α where
  document a := .table (fields.map fun field => (field.name, field.document a))
  read? spare
    | .table members => ofMembers? fields standard spare members
    | .list items => ofItems? spare fields items standard
    | _ => none

end Records

end Runnable

def Serialization.runnable : Serialization where
  word := Runnable.word
  duration := Runnable.duration
  record := Runnable.record
  json := { spare := .refused, write? := Json.write?, read? := Json.read? }
  toml := { spare := .ignored, write? := Toml.write?, read? := Toml.read? }

end Datagram
