import Datagram.Document

/-!
# Writing JSON

Sheets as JSON texts without blanks. Names stand as they are, so they must not need escapes.
-/

namespace Datagram.Json

def memberText (name : String) (value : List Char) : List Char :=
  '"' :: (name.toList ++ '"' :: ':' :: value)

def tableText (members : List (List Char)) : List Char :=
  '\x7b' :: ([','].intercalate members ++ ['\x7d'])

def numberTexts (ms : List (String × Nat)) : List (List Char) :=
  ms.map fun m => memberText m.1 (Nat.toDigits 10 m.2)

def tableTexts (ms : List (String × List (String × Nat))) : List (List Char) :=
  ms.map fun m => memberText m.1 (tableText (numberTexts m.2))

def sheetText (s : Sheet) : List Char := tableText (numberTexts s.numbers ++ tableTexts s.tables)

def write? (d : Document) : Option String := d.sheet?.map fun s => .ofList (sheetText s)

end Datagram.Json
