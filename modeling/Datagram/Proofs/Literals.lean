import Datagram.Dns.Resolver
import Datagram.Proofs.Decimals
import Datagram.Proofs.Operations

/-!
# Addresses in place of host names

An address has one spelling, the text that it is written as, and nothing else is read as an address.
Resolvers take such a text for the address that it spells, so that a packet to it is a packet to the
address, and give every other text to their lookup.
-/

namespace Datagram

namespace Ipv4

variable {cs : List Char} {ip ip' : Ipv4} {n : UInt8}

def SpellsOctet (cs : List Char) (n : UInt8) : Prop :=
  Text.Canonical cs ∧ Nat.ofDigitChars 10 cs 0 = n.toNat

/-- Four numbers up to 255 without spare zeros, and one point between each two of them. -/
def Spells (cs : List Char) (ip : Ipv4) : Prop :=
  ∃ w x y z, SpellsOctet w ip.a ∧ SpellsOctet x ip.b ∧ SpellsOctet y ip.c ∧ SpellsOctet z ip.d ∧
    cs = w ++ '.' :: x ++ '.' :: y ++ '.' :: z

theorem spellsOctet_iff : SpellsOctet cs n ↔ cs = octetText n := by
  constructor
  · rintro ⟨hcanonical, hvalue⟩
    rw [octetText, ← hvalue, hcanonical.toDigits_eq]
  · rintro rfl
    exact ⟨Text.canonical_toDigits n.toNat, Nat.ofDigitChars_ten_toDigits⟩

theorem spells_iff : Spells cs ip ↔ cs = ip.chars := by
  constructor
  · rintro ⟨w, x, y, z, hw, hx, hy, hz, rfl⟩
    rw [spellsOctet_iff.1 hw, spellsOctet_iff.1 hx, spellsOctet_iff.1 hy, spellsOctet_iff.1 hz,
      chars]
  · intro h
    exact ⟨_, _, _, _, spellsOctet_iff.2 rfl, spellsOctet_iff.2 rfl, spellsOctet_iff.2 rfl,
      spellsOctet_iff.2 rfl, h⟩

theorem octet?_eq_some_iff : octet? cs = some n ↔ cs = octetText n := by
  rw [octet?, Option.map_eq_some_iff, octetText]
  constructor
  · rintro ⟨m, hread, rfl⟩
    obtain ⟨hm, hle⟩ := Text.decimalAtMost_eq_some_iff.1 hread
    rw [UInt8.toNat_ofNat_of_lt' (Nat.lt_succ_of_le hle), hm]
  · intro h
    refine ⟨n.toNat, Text.decimalAtMost_eq_some_iff.2 ⟨h, ?_⟩, UInt8.ofNat_toNat⟩
    exact Nat.le_of_lt_succ n.toNat_lt

theorem point_not_mem_octetText (n : UInt8) : '.' ∉ octetText n := by
  intro h
  have hdigit := Nat.isDigit_of_mem_toDigits (by decide) (by decide) h
  cases hdigit

theorem chars_eq_intercalate (ip : Ipv4) :
    ['.'].intercalate [octetText ip.a, octetText ip.b, octetText ip.c, octetText ip.d] =
      ip.chars := by
  simp only [List.intercalate_cons_cons, List.intercalate_singleton, chars, List.append_assoc,
    List.cons_append, List.nil_append]

/-- What is read as an address is what the address is written as. -/
theorem ofChars?_eq_some_iff : ofChars? cs = some ip ↔ cs = ip.chars := by
  have hsplit : cs.splitOn '.' =
      [octetText ip.a, octetText ip.b, octetText ip.c, octetText ip.d] ↔ cs = ip.chars := by
    rw [← chars_eq_intercalate]
    constructor
    · intro h
      rw [← h, List.intercalate_splitOn]
    · rintro rfl
      apply List.splitOn_intercalate '.' _ (List.cons_ne_nil _ _)
      simp only [List.mem_cons, List.not_mem_nil, or_false, forall_eq_or_imp, forall_eq,
        point_not_mem_octetText, not_false_eq_true, and_self]
  rw [← hsplit, ofChars?]
  constructor
  · intro h
    split at h
    · rename_i w x y z heq
      simp only [bind, Option.bind_eq_some_iff, octet?_eq_some_iff, pure, Option.some.injEq] at h
      obtain ⟨a, rfl, b, rfl, c, rfl, d, rfl, rfl⟩ := h
      exact heq
    · cases h
  · intro h
    rw [h]
    simp only [octet?_eq_some_iff.2 rfl, bind, Option.bind_some]
    rfl

theorem ofText?_eq_some_iff {s : String} : ofText? s = some ip ↔ s = ip.text := by
  rw [ofText?, ofChars?_eq_some_iff, text]
  constructor
  · intro h
    rw [← h, String.ofList_toList]
  · rintro rfl
    exact String.toList_ofList

theorem text_injective (h : ip.text = ip'.text) : ip = ip' :=
  Option.some.inj ((ofText?_eq_some_iff.2 rfl).symm.trans (ofText?_eq_some_iff.2 h))

theorem spells_toList_iff {s : String} : Spells s.toList ip ↔ s = ip.text := by
  rw [spells_iff, ← ofChars?_eq_some_iff]
  exact ofText?_eq_some_iff

theorem ofText?_eq_none_iff {s : String} : ofText? s = none ↔ ∀ ip, ¬ Spells s.toList ip := by
  simp only [spells_toList_iff, ← ofText?_eq_some_iff, Option.eq_none_iff_forall_ne_some, ne_eq]

end Ipv4

namespace Lookup

variable (lookup : Lookup) (asked : List String)

theorem askWith_text (ip : Ipv4) :
    lookup.askWith ip.text asked = { answer := .ok ip, state := asked } := by
  rw [askWith, Ipv4.ofText?_eq_some_iff.2 rfl]

theorem askWith_of_not_spells {host : String} (h : ∀ ip, ¬ Ipv4.Spells host.toList ip) :
    lookup.askWith host asked = { answer := lookup host, state := asked ++ [host] } := by
  rw [askWith, Ipv4.ofText?_eq_none_iff.2 h]

/-- The lookup is left out for the text of an address only. -/
theorem askWith_unasked_iff {host : String} {ip : Ipv4} :
    (lookup.askWith host asked).answer = .ok ip ∧ (lookup.askWith host asked).state = asked ↔
      Ipv4.Spells host.toList ip := by
  constructor
  · rintro ⟨hanswer, hstate⟩
    cases hread : Ipv4.ofText? host with
    | none =>
      rw [askWith, hread] at hstate
      have hnone := List.append_cancel_left (hstate.trans (List.append_nil asked).symm)
      exact absurd hnone (List.cons_ne_nil host [])
    | some found =>
      rw [askWith, hread] at hanswer
      obtain rfl : found = ip := Except.ok.inj hanswer
      exact Ipv4.spells_toList_iff.2 (Ipv4.ofText?_eq_some_iff.1 hread)
  · intro h
    rw [Ipv4.spells_toList_iff.1 h, askWith_text]
    exact ⟨rfl, rfl⟩

end Lookup

namespace Dns.NameService

variable {ρ : Type} (N : NameService ρ) (r : ρ) (ip : Ipv4)

theorem resolveAll_text : N.resolveAll ip.text r = { answer := .ok [ip], state := r } := by
  rw [resolveAll, Ipv4.ofText?_eq_some_iff.2 rfl]

theorem resolve_text : N.resolve ip.text r = { answer := .ok ip, state := r } := by
  rw [resolve, resolveAll_text]
  rfl

end Dns.NameService

namespace Socket

variable {σ ρ : Type} {s : Socket} {b : Binding}

/-- A resolver that knows the host at once makes a packet to the host one to its address. -/
theorem beginPacketToHost_of_known (hb : s.binding = some b)
    {resolve : String → ρ → Reply ρ (Result Ipv4)} {host : String} {ip : Ipv4} {r : ρ}
    (hr : resolve host r = { answer := .ok ip, state := r }) (port : UInt16) (w : World σ) :
    s.beginPacketToHost resolve host port w r = ((s.beginPacket ⟨ip, port⟩).1,
      (s.beginPacket ⟨ip, port⟩).2, w.emit (.destinationResolved host ip), r) := by
  have hworld : w.emitAll [] = w := by
    rw [World.emitAll, List.map_nil, List.append_nil]
  simp only [beginPacketToHost, handle_of_bound hb, hr, hworld]

end Socket

namespace Ipv4

/-- Resolvers take a host for an address, without a lookup, exactly if it is four numbers up to 255
without spare zeros and with points between them, which is how that address is written; for every
other host the lookup is asked once, and its answer is the result. Addresses that are written alike
are the same. All resolvers agree on the texts of addresses, and a packet to such a text is a packet
to the address, noted as resolved. -/
theorem literals_bypass_lookup {σ ρ : Type} :
    (∀ (lookup : Lookup) (host : String) (asked : List String),
      (∀ ip, (lookup.askWith host asked).answer = .ok ip ∧
          (lookup.askWith host asked).state = asked ↔ Spells host.toList ip) ∧
        ((∀ ip, ¬ Spells host.toList ip) →
          lookup.askWith host asked = { answer := lookup host, state := asked ++ [host] })) ∧
    (∀ (host : String) (ip : Ipv4), Spells host.toList ip ↔ host = ip.text) ∧
    (∀ ip ip' : Ipv4, ip.text = ip'.text → ip = ip') ∧
    (∀ (ip : Ipv4) (lookup : Lookup) (asked : List String) (N : Dns.NameService ρ) (r : ρ),
      lookup.askWith ip.text asked = { answer := .ok ip, state := asked } ∧
        N.resolve ip.text r = { answer := .ok ip, state := r } ∧
        N.resolveAll ip.text r = { answer := .ok [ip], state := r }) ∧
    ∀ (s : Socket) (b : Binding) (ip : Ipv4) (port : UInt16) (w : World σ) (lookup : Lookup)
      (asked : List String) (N : Dns.NameService ρ) (r : ρ), s.binding = some b →
      let (answer, s') := s.beginPacket ⟨ip, port⟩
      let noted := w.emit (.destinationResolved ip.text ip)
      s.beginPacketToHost lookup.askWith ip.text port w asked = (answer, s', noted, asked) ∧
        s.beginPacketToHost N.resolve ip.text port w r = (answer, s', noted, r) := by
  refine ⟨?_, fun _ _ => spells_toList_iff, fun _ _ => text_injective, ?_, ?_⟩
  · intro lookup host asked
    exact ⟨fun _ => lookup.askWith_unasked_iff asked, lookup.askWith_of_not_spells asked⟩
  · intro ip lookup asked N r
    exact ⟨lookup.askWith_text asked ip, N.resolve_text r ip, N.resolveAll_text r ip⟩
  · intro s b ip port w lookup asked N r hb
    exact ⟨Socket.beginPacketToHost_of_known hb (lookup.askWith_text asked ip) port w,
      Socket.beginPacketToHost_of_known hb (N.resolve_text r ip) port w⟩

/-- One text that is an address, and one that is not because of a spare zero. -/
theorem literals_bypass_lookup_spare_zero :
    let lookup : Lookup := fun host => .error (.resolve host "unknown host")
    let s := { Socket.ofConfig 0 .standard with binding := some ⟨⟨1⟩, 7000, ⟨0, 0⟩⟩ }
    let w : World Unit := { tables := [], transport := () }
    let ip : Ipv4 := ⟨192, 168, 0, 1⟩
    lookup.askWith "192.168.0.01" [] =
        { answer := lookup "192.168.0.01", state := ["192.168.0.01"] } ∧
      s.beginPacketToHost lookup.askWith "192.168.0.1" 9 w [] =
        ((s.beginPacket ⟨ip, 9⟩).1, (s.beginPacket ⟨ip, 9⟩).2,
          w.emit (.destinationResolved "192.168.0.1" ip), []) := by
  intro lookup s w ip
  have hnone : ofText? "192.168.0.01" = none := by decide
  have htext : ip.text = "192.168.0.1" := by decide
  have h := @literals_bypass_lookup Unit Dns.Resolver
  refine ⟨(h.1 lookup "192.168.0.01" []).2 (ofText?_eq_none_iff.1 hnone), ?_⟩
  rw [← htext]
  exact (h.2.2.2.2 s _ ip 9 w lookup [] (Dns.Resolver.service .nowhere)
    { settings := .system, server := .nowhere } rfl).1

end Ipv4
end Datagram
