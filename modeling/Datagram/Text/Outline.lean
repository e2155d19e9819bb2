/-!
# Outlines of values

An outline is the written structure of a value: a finished piece of text, a record of named
fields, a case with its arguments, or a list. `onLine` writes it on one line; `onLines` gives every
field, argument and item a line of its own, four blanks deeper than what holds it and followed by
a comma. A record without fields and a list without items look the same both ways.
-/

namespace Datagram

inductive Outline where
  | leaf (text : String)
  | record (name : String) (fields : List (String × Outline))
  | case (name : String) (arguments : List Outline)
  | list (items : List Outline)

namespace Outline

def ofNat (n : Nat) : Outline := .leaf (toString n)

def ofOption (f : α → Outline) : Option α → Outline
  | none => .leaf "None"
  | some a => .case "Some" [f a]

def commaSeparated (items : List String) : String := ", ".intercalate items

mutual

def onLine : Outline → String
  | .leaf text => text
  | .record name [] => name
  | .record name fields => name ++ " \x7b " ++ commaSeparated (fieldsOnLine fields) ++ " \x7d"
  | .case name arguments => name ++ "(" ++ commaSeparated (itemsOnLine arguments) ++ ")"
  | .list items => "[" ++ commaSeparated (itemsOnLine items) ++ "]"

def fieldsOnLine : List (String × Outline) → List String
  | [] => []
  | (name, value) :: rest => (name ++ ": " ++ value.onLine) :: fieldsOnLine rest

def itemsOnLine : List Outline → List String
  | [] => []
  | item :: rest => item.onLine :: itemsOnLine rest

end

/-- Every line after the first moves four blanks to the right. -/
def deeper (text : String) : String :=
  String.ofList (text.toList.flatMap fun c => if c = '\n' then "\n    ".toList else [c])

def block (opening : String) (lines : List String) (closing : String) : String :=
  opening ++ deeper (String.join (lines.map fun line => "\n" ++ line ++ ",")) ++ "\n" ++ closing

mutual

def onLines : Outline → String
  | .leaf text => text
  | .record name [] => name
  | .record name fields => block (name ++ " \x7b") (fieldsOnLines fields) "\x7d"
  | .case name arguments => block (name ++ "(") (itemsOnLines arguments) ")"
  | .list [] => "[]"
  | .list items => block "[" (itemsOnLines items) "]"

def fieldsOnLines : List (String × Outline) → List String
  | [] => []
  | (name, value) :: rest => (name ++ ": " ++ value.onLines) :: fieldsOnLines rest

def itemsOnLines : List Outline → List String
  | [] => []
  | item :: rest => item.onLines :: itemsOnLines rest

end

end Outline
end Datagram
