import Datagram.Proofs.JsonGrammar
import Datagram.Proofs.TomlTexts
import Datagram.Serialization

/-!
# The laws of a serialization library

What is relied on about codecs and formats. A word is its number, and a duration its seconds and
nanoseconds. A record is read member by member, or item by item in the order of its fields, from the
standard value on. JSON texts are read by the grammar of JSON, and of TOML texts the plain ones are.
Sheets have texts in both formats, which say the sheets, as long as there are integers for them.
-/

namespace Datagram

namespace Document

/-- Seconds and nanoseconds say how long a timeout is. There may be more nanoseconds than make a
second. -/
def Lasts (secs nanos : Document) (t : Duration) : Prop :=
  ∃ s n, secs = .natural s ∧ nanos = .natural n ∧ s < UInt64.size ∧ n < UInt32.size ∧
    t.toNanos = s * nanosPerSec + n

/-- Says how long a timeout is: a list of both numbers, or a table of both and nothing else. -/
inductive IsTimeout : Document → Duration → Prop
  | pair {secs nanos t} (h : Lasts secs nanos t) : IsTimeout (.list [secs, nanos]) t
  | secsFirst {secs nanos t} (h : Lasts secs nanos t) :
      IsTimeout (.table [("secs", secs), ("nanos", nanos)]) t
  | nanosFirst {secs nanos t} (h : Lasts secs nanos t) :
      IsTimeout (.table [("nanos", nanos), ("secs", secs)]) t

end Document

namespace Codec

structure IsWord (codec : Codec UInt64) : Prop where
  document : ∀ n, codec.document n = .natural n.toNat
  read? : ∀ spare d n, codec.read? spare d = some n ↔ d = .natural n.toNat

/-- Where spare items are ignored, a list of a duration may have some, too. -/
structure IsDuration (codec : Codec Duration) : Prop where
  document : ∀ t, codec.document t =
    .table [("secs", .natural t.secs.toNat), ("nanos", .natural t.nanos.toNat)]
  read? : ∀ spare d t, d.IsTimeout t → codec.read? spare d = some t
  isTimeout : ∀ d t, codec.read? .refused d = some t → d.IsTimeout t

/-- Each law but the first is about one member or item more. -/
structure IsRecord {α : Type} (fields : List (Field α)) (standard : α) (codec : Codec α) :
    Prop where
  document : ∀ a, codec.document a = .table (fields.map fun field => (field.name, field.document a))
  noMembers : ∀ spare, codec.read? spare (.table []) = some standard
  unknown : ∀ spare name d rest, name ∉ fields.map Field.name →
    codec.read? spare (.table ((name, d) :: rest)) = codec.read? spare (.table rest)
  once : ∀ spare, ∀ field ∈ fields, ∀ d rest, field.name ∉ rest.map Prod.fst →
    codec.read? spare (.table ((field.name, d) :: rest)) =
      (codec.read? spare (.table rest)).bind (field.set? spare d)
  twice : ∀ spare, ∀ field ∈ fields, ∀ d rest, field.name ∈ rest.map Prod.fst →
    codec.read? spare (.table ((field.name, d) :: rest)) = none
  noItems : ∀ spare, codec.read? spare (.list []) = some standard
  item : ∀ spare items d field, fields[items.length]? = some field →
    codec.read? spare (.list (items ++ [d])) =
      (codec.read? spare (.list items)).bind (field.set? spare d)

end Codec

namespace Format

structure IsJson (f : Format) : Prop where
  spare : f.spare = .refused
  read? : ∀ text d, Json.Spells text.toList (.element d) → f.read? text = some d
  write? : ∀ s : Sheet, s.Tidy → s.Below UInt64.size → (f.write? s.document).isSome = true
  spells : ∀ (s : Sheet) text, s.Tidy → f.write? s.document = some text →
    Json.Spells text.toList (.element s.document)

structure IsToml (f : Format) : Prop where
  read? : ∀ text s, s.Tidy → Toml.Spells text.toList s → f.read? text = some s.document
  write? : ∀ s : Sheet, s.Tidy → s.Below (Toml.largestInteger + 1) →
    (f.write? s.document).isSome = true
  spells : ∀ (s : Sheet) text, s.Tidy → f.write? s.document = some text → Toml.Spells text.toList s

end Format

namespace Serialization

structure Lawful (S : Serialization) : Prop where
  word : S.word.IsWord
  duration : S.duration.IsDuration
  record : ∀ {α : Type} (fields : List (Field α)) (standard : α),
    (fields.map Field.name).Nodup → (S.record fields standard).IsRecord fields standard
  json : S.json.IsJson
  toml : S.toml.IsToml

end Serialization
end Datagram
