import Datagram.Config.Reading
import Datagram.Config.Writing
import Datagram.Proofs.PartialConfigs

/-!
# Configurations as they are written

A configuration is a sheet: a number for each capacity, and a table of two numbers for the timeout.
It is read back from its JSON text, and from its TOML text, too, unless a number of it is beyond the
integers of TOML: then there is no such text.
-/

namespace Datagram.Config

open Document

variable {S : Serialization} (c : Config)

def sheet : Sheet where
  numbers := [("tx_capacity", c.txCapacity.toNat), ("rx_capacity", c.rxCapacity.toNat)]
  tables := [("poll_timeout",
    [("secs", c.pollTimeout.secs.toNat), ("nanos", c.pollTimeout.nanos.toNat)])]

/-- All settings of a configuration. -/
def whole : Overlay := fun s => some (s.get c)

theorem tidy_sheet : c.sheet.Tidy where
  names := by
    change ["tx_capacity", "rx_capacity", "poll_timeout"].Nodup
    decide
  tables := by
    rintro t ht
    obtain rfl := List.mem_singleton.1 ht
    change ["secs", "nanos"].Nodup
    decide
  bare := by
    change ∀ name ∈ ["tx_capacity", "rx_capacity", "poll_timeout", "tx_capacity", "rx_capacity",
      "secs", "nanos"], Toml.Bare name.toList
    decide

theorem below_sheet_iff (bound : Nat) : c.sheet.Below bound ↔
    c.txCapacity.toNat < bound ∧ c.rxCapacity.toNat < bound ∧
      c.pollTimeout.secs.toNat < bound ∧ c.pollTimeout.nanos.toNat < bound := by
  rw [Sheet.Below]
  change (∀ m ∈ [("tx_capacity", c.txCapacity.toNat), ("rx_capacity", c.rxCapacity.toNat),
    ("secs", c.pollTimeout.secs.toNat), ("nanos", c.pollTimeout.nanos.toNat)], m.2 < bound) ↔ _
  simp only [List.forall_mem_cons, List.not_mem_nil, false_implies, implies_true, and_true]

/-- The document of a configuration is its sheet. -/
theorem document_eq (hS : S.Lawful) : (codec S).document c = c.sheet.document := by
  have htx := hS.word.document c.txCapacity
  have hrx := hS.word.document c.rxCapacity
  have htimeout := hS.duration.document c.pollTimeout
  rw [(isRecord hS).document]
  change Document.table [("tx_capacity", S.word.document c.txCapacity),
    ("rx_capacity", S.word.document c.rxCapacity),
    ("poll_timeout", S.duration.document c.pollTimeout)] = _
  rw [htx, hrx, htimeout]
  rfl

theorem whole_givenBy : c.whole.GivenBy
    (Sheet.numberMembers c.sheet.numbers ++ Sheet.tableMembers c.sheet.tables)
  | .txCapacity | .rxCapacity => .once rfl rfl
  | .pollTimeout => .once rfl (.secsFirst
    ⟨_, _, rfl, rfl, c.pollTimeout.secs.toNat_lt, c.pollTimeout.nanos.toNat_lt, rfl⟩)

/-- A configuration is what its sheet says. -/
theorem read?_sheet (hS : S.Lawful) (spare : SpareItems) :
    (codec S).read? spare c.sheet.document = some c :=
  c.whole_givenBy.read? hS spare

/-- Every configuration is read back from its JSON text. It has a TOML text, from which it is read
back, too, unless a capacity or the seconds of the timeout are beyond the integers of TOML. -/
theorem written_configs_read_back (S : Serialization) (hS : S.Lawful) (c : Config) :
    (∃ text, (codec S).write? S.json c = some text ∧ (codec S).ofText? S.json text = some c) ∧
      (c.txCapacity.toNat < Nat.pow 2 63 → c.rxCapacity.toNat < Nat.pow 2 63 →
        c.pollTimeout.secs.toNat < Nat.pow 2 63 →
          ∃ text, (codec S).write? S.toml c = some text ∧
            (codec S).ofText? S.toml text = some c) ∧
      (Nat.pow 2 63 ≤ c.txCapacity.toNat ∨ Nat.pow 2 63 ≤ c.rxCapacity.toNat ∨
        Nat.pow 2 63 ≤ c.pollTimeout.secs.toNat → (codec S).write? S.toml c = none) := by
  have htidy := c.tidy_sheet
  have hlargest : Nat.pow 2 63 = Toml.largestInteger + 1 := by decide
  have hwrite (f : Format) : (codec S).write? f c = f.write? c.sheet.document :=
    congrArg f.write? (c.document_eq hS)
  have hread (f : Format) {text : String} (htext : f.read? text = some c.sheet.document) :
      (codec S).ofText? f text = some c := by
    rw [Codec.ofText?, htext, Option.bind_some, c.read?_sheet hS]
  have hnanos : c.pollTimeout.nanos.toNat < Nat.pow 2 63 :=
    Nat.lt_trans c.pollTimeout.nanos_lt (by decide)
  refine ⟨?_, ?_, ?_⟩
  · have hbelow : c.sheet.Below UInt64.size := (c.below_sheet_iff _).2
      ⟨c.txCapacity.toNat_lt, c.rxCapacity.toNat_lt, c.pollTimeout.secs.toNat_lt,
        Nat.lt_trans hnanos (by decide)⟩
    obtain ⟨text, htext⟩ := Option.isSome_iff_exists.1 (hS.json.write? _ htidy hbelow)
    have hspells := hS.json.spells _ text htidy htext
    exact ⟨text, (hwrite _).trans htext, hread _ (hS.json.read? text _ hspells)⟩
  · intro htx hrx hsecs
    have hbelow : c.sheet.Below (Nat.pow 2 63) :=
      (c.below_sheet_iff _).2 ⟨htx, hrx, hsecs, hnanos⟩
    obtain ⟨text, htext⟩ := Option.isSome_iff_exists.1 (hS.toml.write? _ htidy (hlargest ▸ hbelow))
    have hspells := hS.toml.spells _ text htidy htext
    exact ⟨text, (hwrite _).trans htext, hread _ (hS.toml.read? text _ htidy hspells)⟩
  · intro hlarge
    rw [hwrite, Option.eq_none_iff_forall_ne_some]
    intro text htext
    have hbelow := (hS.toml.spells _ text htidy htext).below
    rw [← hlargest, below_sheet_iff] at hbelow
    omega

/-- The largest capacity that has a TOML text, and the next one. -/
theorem written_configs_read_back_largest :
    let c : Config := { txCapacity := 9223372036854775807 }
    let c' : Config := { txCapacity := 9223372036854775808 }
    (∃ text, c.toml? = some text ∧ ofToml? text = some c) ∧ c'.toml? = none ∧
      ofJson? c'.json = some c' := by
  intro c c'
  have hlawful := Serialization.runnable_lawful
  obtain ⟨-, hfits, -⟩ := written_configs_read_back .runnable hlawful c
  obtain ⟨⟨text, htext, hjson⟩, -, hlarge⟩ := written_configs_read_back .runnable hlawful c'
  refine ⟨hfits (by decide) (by decide) (by decide), hlarge (.inl (by decide)), ?_⟩
  rw [json, htext]
  exact hjson

end Datagram.Config
