import Mathlib.Data.List.Induction
import Mathlib.Logic.Function.Basic
import Datagram.Config.Fields
import Datagram.Proofs.RunnableLibrary

/-!
# Partial configurations

A configuration text gives some of the settings, and the others keep their standard values. Which
members of other names stand beside them does not matter, nor does the order; a list gives the
settings at its front. A setting that is given badly, or twice, is never replaced by its standard.
-/

namespace Datagram

namespace Document

/-- What the members of a name give: nothing if there are none, or the value of the only one. -/
inductive Gives {α : Type} (valid : Document → α → Prop) (name : String)
    (members : List (String × Document)) : Option α → Prop
  | absent (h : members.filter (fun m => m.1 = name) = []) : Gives valid name members none
  | once {value a} (h : members.filter (fun m => m.1 = name) = [(name, value)])
      (hvalid : valid value a) : Gives valid name members (some a)

variable {α : Type} {valid : Document → α → Prop} {name name' : String} {d : Document}
  {members members' : List (String × Document)} {given : Option α}

theorem filter_name_eq_nil_iff :
    members.filter (fun m => m.1 = name) = [] ↔ name ∉ members.map Prod.fst := by
  rw [List.filter_eq_nil_iff, List.mem_map]
  constructor
  · rintro h ⟨m, hm, rfl⟩
    exact h m hm (decide_eq_true rfl)
  · intro h m hm hname
    exact h ⟨m, hm, of_decide_eq_true hname⟩

theorem filter_name_cons_of_ne (h : name' ≠ name) (d : Document)
    (members : List (String × Document)) : ((name', d) :: members).filter (fun m => m.1 = name) =
      members.filter (fun m => m.1 = name) := by
  rw [List.filter_cons_of_neg]
  rw [decide_eq_true_eq]
  exact h

theorem filter_name_cons_self :
    ((name, d) :: members).filter (fun m => m.1 = name) =
      (name, d) :: members.filter (fun m => m.1 = name) := by
  rw [List.filter_cons_of_pos]
  exact decide_eq_true rfl

theorem Gives.of_nil (h : Gives valid name [] given) : given = none := by
  cases h with
  | absent => rfl
  | once h => cases h

theorem gives_none_iff : Gives valid name members none ↔ name ∉ members.map Prod.fst := by
  rw [← filter_name_eq_nil_iff]
  constructor
  · rintro ⟨h⟩
    exact h
  · exact .absent

theorem gives_cons_of_ne (h : name' ≠ name) :
    Gives valid name ((name', d) :: members) given ↔ Gives valid name members given := by
  have hfilter := filter_name_cons_of_ne h d members
  constructor
  · rintro (⟨habsent⟩ | ⟨honce, hvalid⟩)
    · exact .absent (hfilter ▸ habsent)
    · exact .once (hfilter ▸ honce) hvalid
  · rintro (⟨habsent⟩ | ⟨honce, hvalid⟩)
    · exact .absent (hfilter.trans habsent)
    · exact .once (hfilter.trans honce) hvalid

theorem gives_cons_self : Gives valid name ((name, d) :: members) given ↔
    name ∉ members.map Prod.fst ∧ ∃ a, valid d a ∧ given = some a := by
  rw [← filter_name_eq_nil_iff]
  constructor
  · rintro (⟨h⟩ | ⟨h, hvalid⟩)
    · rw [filter_name_cons_self] at h
      cases h
    · rw [filter_name_cons_self] at h
      obtain ⟨hvalue, hnil⟩ := List.cons.inj h
      cases hvalue
      exact ⟨hnil, _, hvalid, rfl⟩
  · rintro ⟨hnil, a, hvalid, rfl⟩
    apply Gives.once _ hvalid
    rw [filter_name_cons_self, hnil]

theorem Gives.exists_valid (h : Gives valid name members given) {value : Document}
    (hvalue : (name, value) ∈ members) : ∃ a, valid value a := by
  have hmem : (name, value) ∈ members.filter (fun m => m.1 = name) :=
    List.mem_filter.2 ⟨hvalue, decide_eq_true rfl⟩
  cases h with
  | absent h =>
    rw [h] at hmem
    cases hmem
  | @once value' a h hvalid =>
    rw [h, List.mem_singleton] at hmem
    cases hmem
    exact ⟨a, hvalid⟩

theorem Gives.length_le (h : Gives valid name members given) :
    (members.filter (fun m => m.1 = name)).length ≤ 1 := by
  cases h with
  | absent h => rw [h]; exact Nat.zero_le 1
  | once h => rw [h]; exact Nat.le_refl 1

theorem Gives.perm (h : Gives valid name members given)
    (hperm : (members.filter (fun m => m.1 = name)).Perm
      (members'.filter (fun m => m.1 = name))) : Gives valid name members' given := by
  cases h with
  | absent h =>
    rw [h] at hperm
    exact .absent hperm.nil_eq.symm
  | once h hvalid =>
    rw [h] at hperm
    exact .once hperm.singleton_eq.symm hvalid

end Document

namespace Config

open Document

inductive Setting where
  | txCapacity
  | rxCapacity
  | pollTimeout
deriving DecidableEq

namespace Setting

def name : Setting → String
  | txCapacity => "tx_capacity"
  | rxCapacity => "rx_capacity"
  | pollTimeout => "poll_timeout"

def order : List Setting := [txCapacity, rxCapacity, pollTimeout]

def Value : Setting → Type
  | txCapacity | rxCapacity => UInt64
  | pollTimeout => Duration

def Valid : (s : Setting) → Document → s.Value → Prop
  | txCapacity, d, (n : UInt64) | rxCapacity, d, (n : UInt64) => d = .natural n.toNat
  | pollTimeout, d, t => d.IsTimeout t

def Accepts (d : Document) (s : Setting) : Prop := ∃ a, s.Valid d a

def get : (s : Setting) → Config → s.Value
  | txCapacity => Config.txCapacity
  | rxCapacity => Config.rxCapacity
  | pollTimeout => Config.pollTimeout

def put : (s : Setting) → s.Value → Config → Config
  | txCapacity, n, c => { c with txCapacity := n }
  | rxCapacity, n, c => { c with rxCapacity := n }
  | pollTimeout, t, c => { c with pollTimeout := t }

def codec (S : Serialization) : (s : Setting) → Codec s.Value
  | txCapacity | rxCapacity => S.word
  | pollTimeout => S.duration

def field (S : Serialization) (s : Setting) : Field Config :=
  .of s.name (s.codec S) s.get fun c a => s.put a c

theorem mem_order (s : Setting) : s ∈ order := by cases s <;> decide

theorem name_inj {s s' : Setting} (h : s.name = s'.name) : s = s' := by
  revert h
  cases s <;> cases s' <;> decide

end Setting

/-- Some of the settings. -/
abbrev Overlay := (s : Setting) → Option s.Value

namespace Overlay

def onto (o : Overlay) (c : Config) : Config :=
  { txCapacity := (o .txCapacity).getD c.txCapacity
    rxCapacity := (o .rxCapacity).getD c.rxCapacity
    pollTimeout := (o .pollTimeout).getD c.pollTimeout }

/-- The members give these settings, each at most once, and no others. -/
def GivenBy (members : List (String × Document)) (o : Overlay) : Prop :=
  ∀ s : Setting, Gives s.Valid s.name members (o s)

/-- The same overlay but for one setting. -/
def setTo (o : Overlay) (s : Setting) (given : Option s.Value) : Overlay :=
  Function.update o s given

end Overlay

/-- The members that a document gives, with a list as the table of the settings in their order. A
table says nothing if a name in it has no text, so it gives no members either. -/
inductive Lists : Document → List (String × Document) → Prop
  | table (members) : Lists (.table members) members
  | list {items} (h : items.length ≤ 3) :
      Lists (.list items) ((Setting.order.map Setting.name).zip items)

variable {S : Serialization} {s : Setting} {spare : SpareItems} {d : Document} {name : String}
  {members members' : List (String × Document)} {o : Overlay} {c c' : Config}

section Overlays

theorem Overlay.onto_setTo (o : Overlay) (s : Setting) (a : s.Value) (c : Config) :
    (o.setTo s (some a)).onto c = s.put a (o.onto c) := by
  cases s <;> rfl

theorem Overlay.GivenBy.cons (h : o.GivenBy members) (hs : s.name ∉ members.map Prod.fst)
    {a : s.Value} (ha : s.Valid d a) : (o.setTo s (some a)).GivenBy ((s.name, d) :: members) := by
  intro s'
  by_cases heq : s' = s
  · subst s'
    rw [Overlay.setTo, Function.update_self]
    exact gives_cons_self.2 ⟨hs, a, ha, rfl⟩
  · rw [Overlay.setTo, Function.update_of_ne heq]
    exact (gives_cons_of_ne fun hname => heq (Setting.name_inj hname).symm).2 (h s')

theorem Overlay.GivenBy.of_cons (h : o.GivenBy ((s.name, d) :: members)) :
    s.name ∉ members.map Prod.fst ∧ (o.setTo s none).GivenBy members ∧
      ∃ a, s.Valid d a ∧ o = (o.setTo s none).setTo s (some a) := by
  obtain ⟨hs, a, ha, hgiven⟩ := gives_cons_self.1 (h s)
  refine ⟨hs, ?_, a, ha, ?_⟩
  · intro s'
    by_cases heq : s' = s
    · subst s'
      rw [Overlay.setTo, Function.update_self]
      exact gives_none_iff.2 hs
    · rw [Overlay.setTo, Function.update_of_ne heq]
      exact (gives_cons_of_ne fun hname => heq (Setting.name_inj hname).symm).1 (h s')
  · rw [Overlay.setTo, Overlay.setTo, Function.update_idem, ← hgiven, Function.update_eq_self]

theorem Overlay.givenBy_cons_of_unknown (hname : ∀ s : Setting, s.name ≠ name) :
    o.GivenBy ((name, d) :: members) ↔ o.GivenBy members :=
  forall_congr' fun s => gives_cons_of_ne (hname s).symm

/-- Only the members of known names matter, and not their order. -/
theorem Overlay.GivenBy.perm (h : o.GivenBy members)
    (hperm : (members.filter (fun m => m.1 ∈ Setting.order.map Setting.name)).Perm
      (members'.filter (fun m => m.1 ∈ Setting.order.map Setting.name))) : o.GivenBy members' := by
  intro s
  have hname : s.name ∈ Setting.order.map Setting.name := List.mem_map_of_mem s.mem_order
  have hfilter (ms : List (String × Document)) :
      (ms.filter (fun m => m.1 ∈ Setting.order.map Setting.name)).filter
        (fun m => m.1 = s.name) = ms.filter (fun m => m.1 = s.name) := by
    rw [List.filter_filter]
    apply List.filter_congr
    intro m _
    by_cases hm : m.1 = s.name
    · simp only [hm, hname, decide_true, Bool.and_true]
    · simp only [hm, decide_false, Bool.false_and]
  apply (h s).perm
  rw [← hfilter members, ← hfilter members']
  exact hperm.filter _

end Overlays

section Items

variable {names : List String} {items : List Document}

theorem zip_concat (h : names[items.length]? = some name) :
    names.zip (items ++ [d]) = names.zip items ++ [(name, d)] := by
  induction items generalizing names with
  | nil =>
    cases names with
    | nil => cases h
    | cons first names =>
      cases h
      rw [List.nil_append, List.zip_cons_cons, List.zip_nil_right, List.zip_nil_right,
        List.nil_append]
  | cons item items ih =>
    cases names with
    | nil => cases h
    | cons first names => exact congrArg ((first, item) :: ·) (ih h)

theorem not_mem_zip_of_getElem? (hnames : names.Nodup) (h : names[items.length]? = some name) :
    name ∉ (names.zip items).map Prod.fst := by
  induction items generalizing names with
  | nil =>
    rw [List.zip_nil_right]
    exact List.not_mem_nil
  | cons item items ih =>
    cases names with
    | nil => cases h
    | cons first names =>
      obtain ⟨hfirst, hnames⟩ := List.nodup_cons.1 hnames
      have hmem : name ∈ names := List.mem_of_getElem? h
      rw [List.zip_cons_cons, List.map_cons, List.mem_cons, not_or]
      refine ⟨?_, ih hnames h⟩
      rintro rfl
      exact hfirst hmem

end Items

section Records

theorem mem_fields (s : Setting) : s.field S ∈ fields S := List.mem_map_of_mem s.mem_order

variable (hS : S.Lawful)

include hS

theorem isRecord : (codec S).IsRecord (fields S) standard := by
  apply hS.record
  change (Setting.order.map Setting.name).Nodup
  decide

theorem Setting.read?_of_valid {a : s.Value} (h : s.Valid d a) (spare : SpareItems) :
    (s.codec S).read? spare d = some a := by
  cases s with
  | txCapacity | rxCapacity => exact (hS.word.read? spare d a).2 h
  | pollTimeout => exact hS.duration.read? spare d a h

theorem Setting.valid_of_read? {a : s.Value} (h : (s.codec S).read? .refused d = some a) :
    s.Valid d a := by
  cases s with
  | txCapacity | rxCapacity => exact (hS.word.read? .refused d a).1 h
  | pollTimeout => exact hS.duration.isTimeout d a h

theorem read?_unknown (hname : ∀ s : Setting, s.name ≠ name) :
    (codec S).read? spare (.table ((name, d) :: members)) =
      (codec S).read? spare (.table members) := by
  apply (isRecord hS).unknown
  change name ∉ Setting.order.map Setting.name
  rw [List.mem_map]
  rintro ⟨s, -, hs⟩
  exact hname s hs

theorem read?_twice (hs : s.name ∈ members.map Prod.fst) :
    (codec S).read? spare (.table ((s.name, d) :: members)) = none :=
  (isRecord hS).twice spare _ (mem_fields s) d members hs

theorem read?_once (hs : s.name ∉ members.map Prod.fst) :
    (codec S).read? spare (.table ((s.name, d) :: members)) =
      ((codec S).read? spare (.table members)).bind fun c =>
        ((s.codec S).read? spare d).map fun a => s.put a c :=
  (isRecord hS).once spare _ (mem_fields s) d members hs

/-- Members are read as what they give. -/
theorem Overlay.GivenBy.read? (h : o.GivenBy members) (spare : SpareItems) :
    (codec S).read? spare (.table members) = some (o.onto standard) := by
  induction members generalizing o with
  | nil =>
    obtain rfl : o = fun _ => none := funext fun s => (h s).of_nil
    exact (isRecord hS).noMembers spare
  | cons m members ih =>
    obtain ⟨name, d⟩ := m
    by_cases hname : ∃ s : Setting, s.name = name
    · obtain ⟨s, rfl⟩ := hname
      obtain ⟨hs, hrest, a, ha, ho⟩ := h.of_cons
      rw [read?_once hS hs, ih hrest, Option.bind_some, Setting.read?_of_valid hS ha,
        Option.map_some, ho, Overlay.onto_setTo, ← ho]
    · have hunknown : ∀ s : Setting, s.name ≠ name := not_exists.1 hname
      rw [read?_unknown hS hunknown]
      exact ih ((Overlay.givenBy_cons_of_unknown hunknown).1 h)

/-- Whatever is read of members is given by them. -/
theorem givenBy_of_read? (h : (codec S).read? .refused (.table members) = some c) :
    ∃ o : Overlay, o.GivenBy members ∧ c = o.onto standard := by
  induction members generalizing c with
  | nil =>
    rw [(isRecord hS).noMembers] at h
    exact ⟨fun _ => none, fun _ => .absent rfl, (Option.some.inj h).symm⟩
  | cons m members ih =>
    obtain ⟨name, d⟩ := m
    by_cases hname : ∃ s : Setting, s.name = name
    · obtain ⟨s, rfl⟩ := hname
      by_cases hs : s.name ∈ members.map Prod.fst
      · rw [read?_twice hS hs] at h
        cases h
      · rw [read?_once hS hs] at h
        obtain ⟨c', hc', h⟩ := Option.bind_eq_some_iff.1 h
        obtain ⟨a, ha, rfl⟩ := Option.map_eq_some_iff.1 h
        obtain ⟨o, ho, rfl⟩ := ih hc'
        exact ⟨o.setTo s (some a), ho.cons hs (Setting.valid_of_read? hS ha),
          (o.onto_setTo s a standard).symm⟩
    · have hunknown : ∀ s : Setting, s.name ≠ name := not_exists.1 hname
      rw [read?_unknown hS hunknown] at h
      obtain ⟨o, ho, rfl⟩ := ih h
      exact ⟨o, (Overlay.givenBy_cons_of_unknown hunknown).2 ho, rfl⟩

theorem read?_eq_some_iff : (codec S).read? .refused (.table members) = some c ↔
    ∃ o : Overlay, o.GivenBy members ∧ c = o.onto standard := by
  refine ⟨givenBy_of_read? hS, ?_⟩
  rintro ⟨o, ho, rfl⟩
  exact ho.read? hS .refused

theorem read?_perm
    (hperm : (members.filter (fun m => m.1 ∈ Setting.order.map Setting.name)).Perm
      (members'.filter (fun m => m.1 ∈ Setting.order.map Setting.name))) :
    (codec S).read? .refused (.table members') = (codec S).read? .refused (.table members) := by
  apply Option.ext
  intro c
  rw [read?_eq_some_iff hS, read?_eq_some_iff hS]
  constructor
  · rintro ⟨o, ho, rfl⟩
    exact ⟨o, ho.perm hperm.symm, rfl⟩
  · rintro ⟨o, ho, rfl⟩
    exact ⟨o, ho.perm hperm, rfl⟩

/-- A list of settings is read as a table of them. -/
theorem read?_list {items : List Document} (h : items.length ≤ 3) :
    (codec S).read? .refused (.list items) =
      (codec S).read? .refused (.table ((Setting.order.map Setting.name).zip items)) := by
  induction items using List.reverseRecOn with
  | nil => exact ((isRecord hS).noItems _).trans ((isRecord hS).noMembers _).symm
  | append_singleton items d ih =>
    rw [List.length_append, List.length_singleton] at h
    obtain ⟨s, hs⟩ : ∃ s, Setting.order[items.length]? = some s :=
      ⟨_, List.getElem?_eq_getElem h⟩
    have hname : (Setting.order.map Setting.name)[items.length]? = some s.name := by
      rw [List.getElem?_map, hs, Option.map_some]
    have hfield : (fields S)[items.length]? = some (s.field S) := by
      change (Setting.order.map (Setting.field S))[items.length]? = _
      rw [List.getElem?_map, hs, Option.map_some]
    have hfresh : s.name ∉ ((Setting.order.map Setting.name).zip items).map Prod.fst :=
      not_mem_zip_of_getElem? (by decide) hname
    -- What is put last is the last item of a list, but the first member of a table.
    have hperm := List.perm_append_singleton (s.name, d)
      ((Setting.order.map Setting.name).zip items)
    rw [(isRecord hS).item .refused items d _ hfield, ih (Nat.le_of_succ_le h), zip_concat hname,
      read?_perm hS (hperm.symm.filter _), read?_once hS hfresh]
    rfl

theorem ofText?_of_lists {text : String} (htext : Json.Spells text.toList (.element d))
    (h : Lists d members) :
    (codec S).ofText? S.json text = (codec S).read? .refused (.table members) := by
  rw [Codec.ofText?, hS.json.read? text d htext, Option.bind_some, hS.json.spare]
  cases h with
  | table => rfl
  | list h => exact read?_list hS h

end Records

/-- A text that gives some of the settings, in a table with anything else or at the front of a list,
is read as the standard configuration with these replaced. A value that its setting does not accept
makes reading fail, and so does giving a setting twice. What is read depends on the members of known
names only, and not on their order. -/
theorem partial_configs_overlay_standard (S : Serialization) (hS : S.Lawful) (text : String)
    (d : Document) (members : List (String × Document))
    (htext : Json.Spells text.toList (.element d)) (hd : Lists d members) :
    (∀ o : Overlay, o.GivenBy members →
        (codec S).ofText? S.json text = some (o.onto standard)) ∧
      (∀ setting : Setting, ∀ value, (setting.name, value) ∈ members → ¬ setting.Accepts value →
        (codec S).ofText? S.json text = none) ∧
      (∀ setting : Setting, 1 < (members.filter (fun m => m.1 = setting.name)).length →
        (codec S).ofText? S.json text = none) ∧
      ∀ text' d' members', Json.Spells text'.toList (.element d') → Lists d' members' →
        (members.filter (fun m => m.1 ∈ Setting.order.map Setting.name)).Perm
          (members'.filter (fun m => m.1 ∈ Setting.order.map Setting.name)) →
        (codec S).ofText? S.json text' = (codec S).ofText? S.json text := by
  have hread := ofText?_of_lists hS htext hd
  have hfails (h : ∀ o : Overlay, ¬ o.GivenBy members) :
      (codec S).ofText? S.json text = none := by
    rw [hread, Option.eq_none_iff_forall_ne_some]
    intro c hc
    obtain ⟨o, ho, -⟩ := givenBy_of_read? hS hc
    exact h o ho
  refine ⟨?_, ?_, ?_, ?_⟩
  · intro o ho
    rw [hread]
    exact ho.read? hS .refused
  · intro setting value hvalue hrejected
    exact hfails fun o ho => hrejected ((ho setting).exists_valid hvalue)
  · intro setting htwice
    exact hfails fun o ho => absurd (ho setting).length_le (Nat.not_le.2 htwice)
  · intro text' d' members' htext' hd' hperm
    rw [hread, ofText?_of_lists hS htext' hd']
    exact read?_perm hS hperm

/-- Two settings out of order, with something else between them, and a list of the same two. -/
theorem partial_configs_overlay_standard_unordered :
    let read? := (codec .runnable).ofText? Serialization.runnable.json
    read? "\x7b\"rx_capacity\":7,\"x\":[null],\"tx_capacity\":1\x7d" =
        some { txCapacity := 1, rxCapacity := 7 } ∧
      read? "[1,7]" = read? "\x7b\"rx_capacity\":7,\"x\":[null],\"tx_capacity\":1\x7d" := by
  let members := [("rx_capacity", natural 7), ("x", list [.other]), ("tx_capacity", natural 1)]
  let given : Overlay
    | .txCapacity => some (1 : UInt64)
    | .rxCapacity => some (7 : UInt64)
    | .pollTimeout => none
  have hgiven : given.GivenBy members
    | .txCapacity | .rxCapacity => .once rfl rfl
    | .pollTimeout => .absent rfl
  have hone : Json.Spells ['1'] (.element (.natural 1)) := (Json.Spells.word (.natural 1)).bare
  have hseven : Json.Spells ['7'] (.element (.natural 7)) := (Json.Spells.word (.natural 7)).bare
  have hnull : Json.Spells "null".toList (.element .other) :=
    (Json.Spells.word (.name (by decide))).bare
  have hrx := hseven.plainMember "rx_capacity" (by decide)
  have hunknown := (Json.Spells.list (.item hnull)).bare.plainMember "x" (by decide)
  have htx := hone.plainMember "tx_capacity" (by decide)
  have htable := (Json.Spells.table (.members hrx (.members hunknown htx))).bare
  have hlist : Json.Spells "[1,7]".toList (.element (.list [.natural 1, .natural 7])) :=
    (Json.Spells.list (.items hone (.item hseven))).bare
  obtain ⟨hoverlay, -, -, hsame⟩ := partial_configs_overlay_standard .runnable
    Serialization.runnable_lawful "\x7b\"rx_capacity\":7,\"x\":[null],\"tx_capacity\":1\x7d"
    (.table members) members htable (.table members)
  refine ⟨hoverlay given hgiven, ?_⟩
  exact hsame "[1,7]" _ _ hlist (.list (by decide)) (.swap _ _ [])

end Config
end Datagram
