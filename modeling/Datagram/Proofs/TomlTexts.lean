import Mathlib.Data.List.Nodup
import Datagram.Proofs.TomlLines

/-!
# Plain TOML texts

`Toml.Spells` is a small part of the grammar of TOML, with the sheet that each text says: numbers
under bare names, and then such numbers under headers, with empty lines wherever they may stand. No
number is beyond the integers of TOML. Every text of a tidy sheet is read as that sheet.
-/

namespace Datagram

namespace Sheet

def names (s : Sheet) : List String := s.numbers.map Prod.fst ++ s.tables.map Prod.fst

/-- All numbers, of the sheet and of its tables. -/
def rows (s : Sheet) : List (String × Nat) := s.numbers ++ s.tables.flatMap Prod.snd

def Below (bound : Nat) (s : Sheet) : Prop := ∀ m ∈ s.rows, m.2 < bound

/-- No name stands for two things at one place, and none needs quotes. -/
structure Tidy (s : Sheet) : Prop where
  names : s.names.Nodup
  tables : ∀ t ∈ s.tables, (t.2.map Prod.fst).Nodup
  bare : ∀ name ∈ s.names ++ s.rows.map Prod.fst, Toml.Bare name.toList

namespace Tidy

variable {s : Sheet} {m : String × Nat} {t : String × List (String × Nat)}

theorem bare_row (h : s.Tidy) (hm : m ∈ s.rows) : Toml.Bare m.1.toList :=
  h.bare _ (List.mem_append_right _ (List.mem_map_of_mem hm))

theorem bare_number (h : s.Tidy) (hm : m ∈ s.numbers) : Toml.Bare m.1.toList :=
  h.bare_row (List.mem_append_left _ hm)

theorem bare_within (h : s.Tidy) (ht : t ∈ s.tables) (hm : m ∈ t.2) : Toml.Bare m.1.toList :=
  h.bare_row (List.mem_append_right _ (List.mem_flatMap_of_mem ht hm))

theorem bare_table (h : s.Tidy) (ht : t ∈ s.tables) : Toml.Bare t.1.toList :=
  h.bare _ (List.mem_append_left _ (List.mem_append_right _ (List.mem_map_of_mem ht)))

end Tidy

end Sheet

namespace Toml

/-- Lines of numbers. -/
inductive Assigns : List Char → List (String × Nat) → Prop
  | nil : Assigns [] []
  | blank {cs ms} (h : Assigns cs ms) : Assigns ('\n' :: cs) ms
  | line {name : String} {n cs ms} (hname : Bare name.toList) (hn : n ≤ largestInteger)
      (h : Assigns cs ms) :
      Assigns (name.toList ++ ' ' :: '=' :: ' ' :: (Nat.toDigits 10 n ++ '\n' :: cs))
        ((name, n) :: ms)

/-- Headers, each with lines of numbers behind it. -/
inductive Headed : List Char → List (String × List (String × Nat)) → Prop
  | nil : Headed [] []
  | blank {cs ts} (h : Headed cs ts) : Headed ('\n' :: cs) ts
  | table {name : String} {cs ms rest ts} (hname : Bare name.toList) (h : Assigns cs ms)
      (hrest : Headed rest ts) :
      Headed ('[' :: (name.toList ++ ']' :: '\n' :: (cs ++ rest))) ((name, ms) :: ts)

def Spells (cs : List Char) (s : Sheet) : Prop :=
  ∃ lines tables, Assigns lines s.numbers ∧ Headed tables s.tables ∧ cs = lines ++ tables

section Steps

variable {cs cs' rest name : List Char} {r r' r'' : Reading} {root : Members} {n : Nat}

/-- Reading comes from one text to what is left of it, however many lines may follow. -/
def Leads (cs : List Char) (r : Reading) (rest : List Char) (r' : Reading) : Prop :=
  ∃ lines, lines + rest.length ≤ cs.length ∧
    ∀ limit, expressions (limit + lines + 1) r cs = expressions (limit + 1) r' rest

theorem Leads.refl (cs : List Char) (r : Reading) : Leads cs r cs r :=
  ⟨0, Nat.le_of_eq (Nat.zero_add _), fun _ => rfl⟩

theorem Leads.trans (h : Leads cs r cs' r') (h' : Leads cs' r' rest r'') :
    Leads cs r rest r'' := by
  obtain ⟨lines, hlines, hread⟩ := h
  obtain ⟨lines', hlines', hread'⟩ := h'
  refine ⟨lines' + lines, by omega, fun limit => ?_⟩
  rw [← Nat.add_assoc, hread, hread']

theorem leads_blank (cs : List Char) (r : Reading) : Leads ('\n' :: cs) r cs r :=
  ⟨0, by rw [Nat.zero_add]; exact Nat.le_succ _, fun limit => expressions_blank limit r cs⟩

theorem leads_assignment (hname : Bare name) (hn : n ≤ largestInteger)
    (hroot : Members.addUnder r.header [] (String.ofList name) (.value (.natural n)) r.root =
      some root) (rest : List Char) :
    Leads (name ++ ' ' :: '=' :: ' ' :: (Nat.toDigits 10 n ++ '\n' :: rest)) r rest
      ⟨root, r.header⟩ := by
  refine ⟨1, ?_, fun limit => expressions_assignment (limit + 1) hname hn hroot⟩
  simp only [List.length_append, List.length_cons]
  omega

theorem leads_header (hname : Bare name)
    (hroot : Members.addTable [] (String.ofList name) r.root = some root) (rest : List Char) :
    Leads ('[' :: (name ++ ']' :: '\n' :: rest)) r rest ⟨root, [String.ofList name]⟩ := by
  refine ⟨1, ?_, fun limit => expressions_header (limit + 1) hname hroot⟩
  simp only [List.length_append, List.length_cons]
  omega

/-- A text has enough characters for its lines. -/
theorem Leads.expressions_eq (h : Leads cs r [] r') :
    expressions (cs.length + 1) r cs = some r' := by
  obtain ⟨lines, hlines, hread⟩ := h
  obtain ⟨limit, hlimit⟩ := Nat.exists_eq_add_of_le' hlines
  rw [hlimit]
  exact hread limit

end Steps

section Trees

variable {past root inner : Members} {name header : String} {node old : Node}

theorem Members.put_append (h : name ∉ past.map Prod.fst) (node : Node) (rest : Members) :
    Members.put name node (past ++ rest) = past ++ Members.put name node rest := by
  induction past with
  | nil => rfl
  | cons m past ih =>
    obtain ⟨hm, hpast⟩ := List.ne_and_not_mem_of_not_mem_cons h
    rw [List.cons_append, Members.put, if_neg (Ne.symm hm), ih hpast, List.cons_append]

theorem Members.lookup_fresh (h : name ∉ root.map Prod.fst) : root.lookup name = none := by
  rw [List.lookup_eq_none_iff]
  intro m hm
  apply bne_iff_ne.2
  rintro rfl
  exact h (List.mem_map_of_mem hm)

theorem Members.lookup_last (h : name ∉ past.map Prod.fst) :
    (past ++ [(name, node)]).lookup name = some node := by
  rw [List.lookup_append, Members.lookup_fresh h, Option.none_or, List.lookup_cons_self]

theorem Members.addValue_fresh (h : name ∉ root.map Prod.fst) :
    Members.addValue [] name node ⟨.explicit, root⟩ = some (root ++ [(name, node)]) := by
  have hput := Members.put_append h node []
  rw [List.append_nil] at hput
  have hlookup : ¬ (root.lookup name).isSome = true := by
    rw [Members.lookup_fresh h]
    exact Bool.false_ne_true
  change (if (root.lookup name).isSome then none else some (Members.put name node root)) = _
  rw [if_neg hlookup, hput]
  rfl

theorem Members.addTable_fresh (h : name ∉ root.map Prod.fst) :
    Members.addTable [] name root = some (root ++ [(name, .table .explicit [])]) := by
  have hput := Members.put_append h (.table .explicit []) []
  rw [List.append_nil] at hput
  rw [Members.addTable, Members.update, Members.lookup_fresh h]
  exact congrArg some hput

/-- Where the lines behind a header put their numbers: into a table of the root, or into the root
itself. -/
def Opens (header : List String) (place : Members → Members) : Prop :=
  ∀ inner name node, name ∉ inner.map Prod.fst →
    Members.addUnder header [] name node (place inner) = some (place (inner ++ [(name, node)]))

theorem opens_root : Opens [] id := fun _ _ _ h => Members.addValue_fresh h

theorem opens_table (h : header ∉ past.map Prod.fst) :
    Opens [header] fun inner => past ++ [(header, .table .explicit inner)] := by
  intro inner name node hname
  rw [Members.addUnder, Members.update, Members.lookup_last h]
  change (Members.addValue [] name node ⟨.explicit, inner⟩).bind _ = _
  rw [Members.addValue_fresh hname, Option.bind_some]
  change some (Members.put header _ (past ++ _)) = _
  rw [Members.put_append h, Members.put, if_pos rfl]

def numberNodes (ms : List (String × Nat)) : Members :=
  ms.map fun m => (m.1, .value (.natural m.2))

def tableNodes (ts : List (String × List (String × Nat))) : Members :=
  ts.map fun t => (t.1, .table .explicit (numberNodes t.2))

theorem memberDocuments_eq_map (root : Members) :
    Node.memberDocuments root = root.map fun m => (m.1, m.2.document) := by
  induction root with
  | nil => rfl
  | cons m root ih => rw [Node.memberDocuments, ih, List.map_cons]

theorem memberDocuments_numberNodes (ms : List (String × Nat)) :
    Node.memberDocuments (numberNodes ms) = Sheet.numberMembers ms := by
  rw [memberDocuments_eq_map, numberNodes, List.map_map]
  rfl

theorem memberDocuments_tableNodes (ts : List (String × List (String × Nat))) :
    Node.memberDocuments (tableNodes ts) = Sheet.tableMembers ts := by
  rw [memberDocuments_eq_map, tableNodes, List.map_map]
  apply List.map_congr_left
  intro t _
  exact congrArg (fun ms => (t.1, Document.table ms)) (memberDocuments_numberNodes t.2)

end Trees

section Texts

variable {cs rest : List Char} {ms : List (String × Nat)}
  {ts : List (String × List (String × Nat))} {header : List String} {place : Members → Members}
  {s : Sheet}

theorem not_mem_of_nodup {name : String} {before behind : List String}
    (h : (before ++ name :: behind).Nodup) : name ∉ before :=
  fun hmem => (List.nodup_append.1 h).2.2 name hmem name List.mem_cons_self rfl

theorem Assigns.leads (h : Assigns cs ms) (hplace : Opens header place) (inner : Members)
    (hfresh : (inner.map Prod.fst ++ ms.map Prod.fst).Nodup) (rest : List Char) :
    Leads (cs ++ rest) ⟨place inner, header⟩ rest ⟨place (inner ++ numberNodes ms), header⟩ := by
  -- `inner` grows by what each line says, and the names still to come stay new to it.
  induction h generalizing inner with
  | nil =>
    rw [numberNodes, List.map_nil, List.append_nil]
    exact .refl _ _
  | blank h ih => exact (leads_blank _ _).trans (ih inner hfresh)
  | @line name n cs ms hname hn h ih =>
    have hname' : name ∉ inner.map Prod.fst := not_mem_of_nodup hfresh
    have hline := leads_assignment (r := ⟨place inner, header⟩) hname hn
      (hplace inner _ _ (String.ofList_toList ▸ hname')) (cs ++ rest)
    have hrest := ih (inner ++ [(name, .value (.natural n))])
      (by rwa [List.map_append, List.append_assoc])
    rw [List.append_assoc] at hrest
    rw [String.ofList_toList] at hline
    simp only [List.append_assoc, List.cons_append]
    exact hline.trans hrest

theorem Headed.leads (h : Headed cs ts) (root : Members) (header : List String)
    (hfresh : (root.map Prod.fst ++ ts.map Prod.fst).Nodup)
    (htables : ∀ t ∈ ts, (t.2.map Prod.fst).Nodup) :
    ∃ header', Leads cs ⟨root, header⟩ [] ⟨root ++ tableNodes ts, header'⟩ := by
  induction h generalizing root header with
  | nil =>
    refine ⟨header, ?_⟩
    rw [tableNodes, List.map_nil, List.append_nil]
    exact .refl _ _
  | blank h ih =>
    obtain ⟨header', hlead⟩ := ih root header hfresh htables
    exact ⟨header', (leads_blank _ _).trans hlead⟩
  | @table name cs ms rest ts hname h hrest ih =>
    obtain ⟨hms, hts⟩ := List.forall_mem_cons.1 htables
    have hname' : name ∉ root.map Prod.fst := not_mem_of_nodup hfresh
    have hheader := leads_header (r := ⟨root, header⟩) hname
      (Members.addTable_fresh (String.ofList_toList ▸ hname')) (cs ++ rest)
    have hlines := h.leads (opens_table hname') [] hms rest
    obtain ⟨header', htail⟩ := ih (root ++ [(name, .table .explicit (numberNodes ms))]) [name]
      (by rwa [List.map_append, List.append_assoc]) hts
    rw [List.append_assoc] at htail
    rw [String.ofList_toList] at hheader
    exact ⟨header', hheader.trans (hlines.trans htail)⟩

theorem ne_mark_of_bare {name : List Char} (hname : Bare name) :
    ∀ c ∈ (name ++ rest).head?, c ≠ '\uFEFF' := by
  obtain ⟨c, cs, rfl, hc⟩ := hname.cons
  rintro _ ⟨⟩
  exact ne_of_bare hc (by decide)

theorem Assigns.ne_mark (h : Assigns cs ms) : ∀ c ∈ cs.head?, c ≠ '\uFEFF' := by
  cases h with
  | nil => exact nofun
  | blank h =>
    rintro _ ⟨⟩
    decide
  | line hname hn h => exact ne_mark_of_bare hname

theorem Headed.ne_mark (h : Headed cs ts) : ∀ c ∈ cs.head?, c ≠ '\uFEFF' := by
  cases h with
  | nil => exact nofun
  | blank h | table hname h hrest =>
    rintro _ ⟨⟩
    decide

theorem Spells.skipMark (h : Spells cs s) : skipMark cs = cs := by
  obtain ⟨lines, tables, hlines, htables, rfl⟩ := h
  have hhead : ∀ c ∈ (lines ++ tables).head?, c ≠ '\uFEFF' := by
    cases lines with
    | nil => exact htables.ne_mark
    | cons c lines => exact hlines.ne_mark
  generalize lines ++ tables = cs at *
  unfold Toml.skipMark
  split
  · exact absurd rfl (hhead _ rfl)
  · rfl

theorem Assigns.le_largest (h : Assigns cs ms) : ∀ m ∈ ms, m.2 ≤ largestInteger := by
  induction h with
  | nil => exact List.forall_mem_nil _
  | blank h ih => exact ih
  | line hname hn h ih => exact List.forall_mem_cons.2 ⟨hn, ih⟩

theorem Headed.le_largest (h : Headed cs ts) : ∀ t ∈ ts, ∀ m ∈ t.2, m.2 ≤ largestInteger := by
  induction h with
  | nil => exact List.forall_mem_nil _
  | blank h ih => exact ih
  | table hname h hrest ih => exact List.forall_mem_cons.2 ⟨h.le_largest, ih⟩

/-- A sheet with a larger number has no text. -/
theorem Spells.below (h : Spells cs s) : s.Below (largestInteger + 1) := by
  obtain ⟨lines, tables, hlines, htables, -⟩ := h
  intro m hm
  rw [Nat.lt_succ_iff]
  rcases List.mem_append.1 hm with hm | hm
  · exact hlines.le_largest m hm
  · obtain ⟨t, ht, hm⟩ := List.mem_flatMap.1 hm
    exact htables.le_largest t ht m hm

/-- A text is read as its sheet. -/
theorem readChars?_of_spells (h : Spells cs s) (htidy : s.Tidy) :
    readChars? cs = some s.document := by
  have hmark := h.skipMark
  obtain ⟨lines, tables, hlines, htables, rfl⟩ := h
  have hlead := hlines.leads opens_root [] (List.Nodup.of_append_left htidy.names) tables
  have hnames : ((numberNodes s.numbers).map Prod.fst ++ s.tables.map Prod.fst).Nodup := by
    rw [numberNodes, List.map_map]
    exact htidy.names
  obtain ⟨header, htail⟩ := htables.leads (numberNodes s.numbers) [] hnames htidy.tables
  have hread : expressions _ {} (lines ++ tables) = _ := (hlead.trans htail).expressions_eq
  rw [readChars?, hmark, hread, Option.map_some, memberDocuments_eq_map, List.map_append,
    ← memberDocuments_eq_map, ← memberDocuments_eq_map, memberDocuments_numberNodes,
    memberDocuments_tableNodes]
  rfl

end Texts

end Toml
end Datagram
