import Datagram.Document

/-!
# The tables of a TOML text

Tables may be written in pieces: headers open them, and dotted keys make tables on their way. A tree
remembers how each of its tables came about, since that decides what may still be added to it.

- A table with a header of its own, or in braces, is complete apart from later headers below it.
- A table that a header passes through is implied; it may get a header of its own once.
- A table that a dotted key makes can only grow by further dotted keys from the same place.
-/

namespace Datagram.Toml

inductive Origin where
  | explicit
  | implied
  | dotted
deriving DecidableEq

inductive Node where
  | value (document : Document)
  | table (origin : Origin) (members : List (String × Node))
  | tables (elements : List (List (String × Node)))

abbrev Members := List (String × Node)

namespace Node

mutual

def document : Node → Document
  | .value d => d
  | .table _ members => .table (memberDocuments members)
  | .tables elements => .list (tableDocuments elements)

def memberDocuments : List (String × Node) → List (String × Document)
  | [] => []
  | (name, node) :: rest => (name, node.document) :: memberDocuments rest

def tableDocuments : List (List (String × Node)) → List Document
  | [] => []
  | members :: rest => .table (memberDocuments members) :: tableDocuments rest

end

end Node

namespace Members

/-- Replaces the node of a name, or adds it at the end. -/
def put (name : String) (node : Node) : Members → Members
  | [] => [(name, node)]
  | (k, old) :: rest => if k = name then (k, node) :: rest else (k, old) :: put name node rest

/-- A table on the way of a path, with how it came about. -/
structure Place where
  origin : Origin
  members : Members

/-- Changes the table at the end of a path. A dotted path makes tables of its kind and does not enter
complete ones; a header's path implies tables and enters the last element of a list of tables. -/
def update (dotted : Bool) (change : Place → Option Members) :
    List String → Place → Option Members
  | [], place => change place
  | name :: path, place =>
    match place.members.lookup name with
    | none => do
      let origin := if dotted then .dotted else .implied
      let members ← update dotted change path ⟨origin, []⟩
      pure (put name (.table origin members) place.members)
    | some (.value _) => none
    | some (.table origin members) =>
      if dotted && origin = .explicit then none
      else do
        let members ← update dotted change path ⟨origin, members⟩
        pure (put name (.table origin members) place.members)
    | some (.tables elements) =>
      match elements.reverse with
      | [] => none
      | last :: before => do
        let last ← update dotted change path ⟨.explicit, last⟩
        pure (put name (.tables (last :: before).reverse) place.members)

/-- Adds a value under a new name. A key with several names ends in a table of dotted keys. -/
def addValue (path : List String) (name : String) (node : Node) (place : Place) : Option Members :=
  update true (fun last =>
    if decide (last.origin = .dotted) = path.isEmpty then none
    else if (last.members.lookup name).isSome then none
    else some (put name node last.members)) path place

/-- Opens a table by its header. -/
def addTable (path : List String) (name : String) (root : Members) : Option Members :=
  update false (fun last =>
    match last.members.lookup name with
    | none => some (put name (.table .explicit []) last.members)
    | some (.table .implied members) => some (put name (.table .explicit members) last.members)
    | some _ => none) path ⟨.explicit, root⟩

/-- Opens the next element of a list of tables. -/
def addElement (path : List String) (name : String) (root : Members) : Option Members :=
  update false (fun last =>
    match last.members.lookup name with
    | none => some (put name (.tables [[]]) last.members)
    | some (.tables elements) => some (put name (.tables (elements ++ [[]])) last.members)
    | some _ => none) path ⟨.explicit, root⟩

/-- Adds a value to the table that the last header has opened. -/
def addUnder (header path : List String) (name : String) (node : Node) (root : Members) :
    Option Members :=
  update false (addValue path name node) header ⟨.explicit, root⟩

end Members
end Datagram.Toml
