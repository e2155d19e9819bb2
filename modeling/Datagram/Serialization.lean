import Datagram.Document
import Datagram.Duration

/-!
# Serialization

Values go into texts and come out of them by way of documents. The codec of a type says which
document a value is and which value a document is; a format writes documents as texts and reads
them. `Serialization` is what records expect of a library for this: the codecs of the types that
their fields have, the codec that a record gets from the list of its fields, and the formats.
-/

namespace Datagram

/-- How many items a list may have beyond those that are wanted. -/
inductive SpareItems where
  | refused
  | ignored
deriving DecidableEq

structure Codec (α : Type) where
  document : α → Document
  read? : SpareItems → Document → Option α

/-- A field of a record: its name, its part of the record as a document, and the record with that
part read from a document. -/
structure Field (α : Type) where
  name : String
  document : α → Document
  set? : SpareItems → Document → α → Option α

def Field.of {α β : Type} (name : String) (codec : Codec β) (get : α → β) (set : α → β → α) :
    Field α where
  name
  document a := codec.document (get a)
  set? spare d a := (codec.read? spare d).map (set a)

structure Format where
  spare : SpareItems
  write? : Document → Option String
  read? : String → Option Document

/-- A record without some of its fields is read with those of a standard value. -/
structure Serialization where
  word : Codec UInt64
  duration : Codec Duration
  record : {α : Type} → (fields : List (Field α)) → (standard : α) → Codec α
  json : Format
  toml : Format

namespace Codec

variable {α : Type} (codec : Codec α) (f : Format)

def write? (a : α) : Option String := f.write? (codec.document a)

def ofText? (text : String) : Option α := (f.read? text).bind (codec.read? f.spare)

end Codec
end Datagram
