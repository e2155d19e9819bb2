/-!
# Documents

What a text says, whichever format it is written in: natural numbers, lists, and tables with named
members in the order of the text. Everything that no setting can be made of, such as text, fractions
and truth values, is one kind of value (`other`). A table may name a member twice; it is for the
format to refuse that, or for whoever wants that member.

A sheet is a table of numbers, followed by tables of numbers.
-/

namespace Datagram

inductive Document where
  | natural (n : Nat)
  | list (items : List Document)
  | table (members : List (String × Document))
  | other

structure Sheet where
  numbers : List (String × Nat)
  tables : List (String × List (String × Nat))

namespace Sheet

def numberMembers (ms : List (String × Nat)) : List (String × Document) :=
  ms.map fun m => (m.1, .natural m.2)

def tableMembers (ms : List (String × List (String × Nat))) : List (String × Document) :=
  ms.map fun m => (m.1, .table (numberMembers m.2))

def document (s : Sheet) : Document := .table (numberMembers s.numbers ++ tableMembers s.tables)

end Sheet

namespace Document

def number? : Document → Option Nat
  | .natural n => some n
  | _ => none

/-- The members of a table, if each is what is wanted. -/
def membersBy? {α : Type} (read? : Document → Option α) :
    List (String × Document) → Option (List (String × α))
  | [] => some []
  | (name, d) :: rest => do
    let a ← read? d
    let rest ← membersBy? read? rest
    pure ((name, a) :: rest)

def numberTable? : Document → Option (List (String × Nat))
  | .table members => membersBy? number? members
  | _ => none

def sheet? : Document → Option Sheet
  | .table members => do
    let isNumber := fun (m : String × Document) => m.2.number?.isSome
    let numbers ← membersBy? number? (members.takeWhile isNumber)
    let tables ← membersBy? numberTable? (members.dropWhile isNumber)
    pure { numbers, tables }
  | _ => none

end Document
end Datagram
