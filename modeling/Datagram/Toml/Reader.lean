import Datagram.Toml.Scalar
import Datagram.Toml.Tree

/-!
# Reading TOML

A TOML text is a sequence of lines: headers, assignments, comments and empty lines. Values nest in
brackets and braces, brackets over several lines. What is assigned goes into the tree of tables,
which refuses names that are taken.
-/

namespace Datagram.Toml

/-- The last name of a key and those before it. -/
def splitKey (names : List String) : Option (List String × String) :=
  names.getLast?.map fun name => (names.dropLast, name)

/-- The items of a list behind its bracket, at most `limit`. -/
def listItems (item : Parser Document) : Nat → Parser (List Document)
  | 0, _ => none
  | limit + 1, cs =>
    match skipAllLines cs with
    | ']' :: rest => some ([], rest)
    | cs => do
      let (first, rest) ← item cs
      match skipAllLines rest with
      | ']' :: rest => pure ([first], rest)
      | ',' :: rest =>
        let (others, rest) ← listItems item limit rest
        pure (first :: others, rest)
      | _ => none

/-- One assignment: a key, an equals sign and a value. -/
def assignment (value : Parser Document) (cs : List Char) :
    Option ((List String × String × Document) × List Char) := do
  let (names, rest) ← key cs
  let (path, name) ← splitKey names
  match rest with
  | '=' :: rest =>
    let (document, rest) ← value (skipBlanks rest)
    pure ((path, name, document), rest)
  | _ => none

/-- The members of a table behind its brace, at most `limit`, added to those before. -/
def braceMembers (value : Parser Document) : Nat → Members → Parser Members
  | 0, _, _ => none
  | limit + 1, members, cs => do
    let ((path, name, document), rest) ← assignment value cs
    let members ← Members.addValue path name (.value document) ⟨.explicit, members⟩
    match skipBlanks rest with
    | '\x7d' :: rest => pure (members, rest)
    | ',' :: rest => braceMembers value limit members rest
    | _ => none

def braceTable (value : Parser Document) (cs : List Char) : Option (Document × List Char) :=
  match skipBlanks cs with
  | '\x7d' :: rest => some (.table [], rest)
  | cs => do
    let (members, rest) ← braceMembers value (cs.length + 1) [] cs
    pure (.table (Node.memberDocuments members), rest)

/-- A value with at most `depth` open lists and tables. -/
def value : Nat → Parser Document
  | 0, cs => scalar cs
  | depth + 1, cs =>
    match cs with
    | '[' :: rest =>
      (listItems (value depth) (rest.length + 1) rest).map fun (items, rest) => (.list items, rest)
    | '\x7b' :: rest => braceTable (value depth) rest
    | cs => scalar cs

/-- The tree so far and the table that the last header has opened. -/
structure Reading where
  root : Members := []
  header : List String := []

def assign (r : Reading) (cs : List Char) : Option (Reading × List Char) := do
  let ((path, name, document), rest) ← assignment (value deepest) cs
  let root ← Members.addUnder r.header path name (.value document) r.root
  pure ({ r with root }, rest)

def tableHeader (r : Reading) (cs : List Char) : Option (Reading × List Char) := do
  let (names, rest) ← key cs
  let (path, name) ← splitKey names
  match rest with
  | ']' :: rest =>
    let root ← Members.addTable path name r.root
    pure (⟨root, names⟩, rest)
  | _ => none

def elementHeader (r : Reading) (cs : List Char) : Option (Reading × List Char) := do
  let (names, rest) ← key cs
  let (path, name) ← splitKey names
  match rest with
  | ']' :: ']' :: rest =>
    let root ← Members.addElement path name r.root
    pure (⟨root, names⟩, rest)
  | _ => none

/-- One line that is neither empty nor a comment. -/
def expression (r : Reading) (cs : List Char) : Option (Reading × List Char) :=
  match cs with
  | '[' :: '[' :: rest => elementHeader r rest
  | '[' :: rest => tableHeader r rest
  | cs => assign r cs

/-- All lines, of which at most `limit` hold an expression. -/
def expressions : Nat → Reading → List Char → Option Reading
  | 0, _, _ => none
  | limit + 1, r, cs =>
    match skipAllLines cs with
    | [] => some r
    | cs => do
      let (r, rest) ← expression r cs
      let rest ← lineRest? rest
      expressions limit r rest

/-- A text may begin with a byte order mark. -/
def skipMark : List Char → List Char
  | '\uFEFF' :: rest => rest
  | cs => cs

def readChars? (cs : List Char) : Option Document :=
  (expressions (cs.length + 1) {} (skipMark cs)).map fun r => .table (Node.memberDocuments r.root)

def read? (text : String) : Option Document := readChars? text.toList

end Datagram.Toml
