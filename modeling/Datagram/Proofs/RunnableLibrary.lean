import Mathlib.Data.List.Forall2
import Datagram.Proofs.Durations
import Datagram.Proofs.SerializationLaws
import Datagram.Serialization.Runnable

/-!
# The runnable library is lawful

Its codecs read numbers, durations and records as the laws say, and both of its formats read and
write the texts of their grammars.
-/

namespace Datagram

theorem SpareItems.accepts_nil (spare : SpareItems) : spare.accepts [] = true := by
  cases spare <;> rfl

namespace Document

variable {d secs nanos : Document} {bound n : Nat} {capacity : UInt64} {t : Duration}

theorem natural?_eq_some_iff : d.natural? bound = some n ↔ d = .natural n ∧ n < bound := by
  cases d with
  | natural m =>
    rw [natural?, Option.ite_none_right_eq_some, Option.some.injEq, natural.injEq]
    constructor
    · rintro ⟨hm, rfl⟩
      exact ⟨rfl, hm⟩
    · rintro ⟨rfl, hm⟩
      exact ⟨hm, rfl⟩
  | _ => exact ⟨nofun, fun h => nomatch h.1⟩

theorem u64?_eq_some_iff : d.u64? = some capacity ↔ d = .natural capacity.toNat := by
  rw [u64?, Option.map_eq_some_iff]
  constructor
  · rintro ⟨n, hn, rfl⟩
    obtain ⟨rfl, hlt⟩ := natural?_eq_some_iff.1 hn
    rw [UInt64.toNat_ofNat_of_lt' hlt]
  · rintro rfl
    exact ⟨capacity.toNat, natural?_eq_some_iff.2 ⟨rfl, capacity.toNat_lt⟩, UInt64.ofNat_toNat⟩

theorem timeoutOf?_eq_some_iff : timeoutOf? secs nanos = some t ↔ Lasts secs nanos t := by
  simp only [timeoutOf?, bind, Option.bind_eq_some_iff, natural?_eq_some_iff, u64?_eq_some_iff,
    Duration.carry?_eq_some_iff]
  constructor
  · rintro ⟨s, rfl, n, ⟨rfl, hn⟩, ht⟩
    exact ⟨s.toNat, n, rfl, rfl, s.toNat_lt, hn, ht⟩
  · rintro ⟨s, n, rfl, rfl, hs, hn, ht⟩
    rw [← UInt64.toNat_ofNat_of_lt' hs] at ht ⊢
    exact ⟨.ofNat s, rfl, n, ⟨rfl, hn⟩, ht⟩

theorem timeout?_of_isTimeout (h : IsTimeout d t) (spare : SpareItems) :
    timeout? spare d = some t := by
  cases h with
  | pair h => rw [timeout?, if_pos spare.accepts_nil, timeoutOf?_eq_some_iff.2 h]
  | secsFirst h => exact timeoutOf?_eq_some_iff.2 h
  | nanosFirst h => exact timeoutOf?_eq_some_iff.2 h

theorem isTimeout_of_timeout? (h : timeout? .refused d = some t) : IsTimeout d t := by
  unfold timeout? at h
  split at h
  · rename_i secs nanos rest
    cases rest with
    | nil => exact .pair (timeoutOf?_eq_some_iff.1 h)
    | cons _ _ => cases h
  · rename_i first a second b
    split at h
    · rename_i hnames
      obtain ⟨rfl, rfl⟩ := hnames
      exact .secsFirst (timeoutOf?_eq_some_iff.1 h)
    · split at h
      · rename_i hnames
        obtain ⟨rfl, rfl⟩ := hnames
        exact .nanosFirst (timeoutOf?_eq_some_iff.1 h)
      · cases h
  · cases h

end Document

namespace Runnable

section Records

variable {α : Type} {fields : List (Field α)} {field : Field α} {standard a : α}
  {spare : SpareItems} {name : String} {d : Document} {rest : List (String × Document)}
  {items : List Document}

theorem find?_field (hnames : (fields.map Field.name).Nodup) (h : field ∈ fields) :
    fields.find? (·.name = field.name) = some field := by
  induction fields with
  | nil => cases h
  | cons first fields ih =>
    obtain ⟨hfirst, hfields⟩ := List.nodup_cons.1 hnames
    rcases List.mem_cons.1 h with rfl | h
    · exact List.find?_cons_of_pos (decide_eq_true rfl)
    · rw [List.find?_cons_of_neg, ih hfields h]
      rw [decide_eq_true_eq]
      intro heq
      exact hfirst (heq ▸ List.mem_map_of_mem h)

theorem ofMembers?_unknown (h : name ∉ fields.map Field.name) :
    ofMembers? fields standard spare ((name, d) :: rest) =
      ofMembers? fields standard spare rest := by
  have hnone : fields.find? (·.name = name) = none := by
    rw [List.find?_eq_none]
    rintro field hfield hname
    exact h (of_decide_eq_true hname ▸ List.mem_map_of_mem hfield)
  rw [ofMembers?, hnone]

theorem ofMembers?_known (hnames : (fields.map Field.name).Nodup) (h : field ∈ fields) :
    ofMembers? fields standard spare ((field.name, d) :: rest) =
      if (rest.map Prod.fst).contains field.name then none
      else (ofMembers? fields standard spare rest).bind (field.set? spare d) := by
  rw [ofMembers?, find?_field hnames h]

theorem ofItems?_nil : ofItems? spare fields [] a = some a := by
  cases fields with
  | nil => rw [ofItems?, if_pos spare.accepts_nil]
  | cons field fields => rw [ofItems?]; exact nofun

/-- One item more. -/
theorem ofItems?_concat (h : fields[items.length]? = some field) :
    ofItems? spare fields (items ++ [d]) a =
      (ofItems? spare fields items a).bind (field.set? spare d) := by
  induction items generalizing fields a with
  | nil =>
    cases fields with
    | nil => cases h
    | cons first fields =>
      cases h
      rw [ofItems?_nil, Option.bind_some, List.nil_append, ofItems?]
      exact (congrArg _ (funext fun _ => ofItems?_nil)).trans (Option.bind_fun_some _)
  | cons item items ih =>
    cases fields with
    | nil => cases h
    | cons first fields =>
      rw [List.cons_append, ofItems?, ofItems?, Option.bind_assoc]
      exact congrArg _ (funext fun _ => ih h)

theorem isRecord_record (hnames : (fields.map Field.name).Nodup) (standard : α) :
    (record fields standard).IsRecord fields standard where
  document _ := rfl
  noMembers _ := rfl
  unknown _ _ _ _ h := ofMembers?_unknown h
  once spare field hfield d rest h := by
    refine (ofMembers?_known hnames hfield).trans (if_neg ?_)
    rwa [List.contains_iff_mem]
  twice spare field hfield d rest h :=
    (ofMembers?_known hnames hfield).trans (if_pos (List.contains_iff_mem.2 h))
  noItems _ := ofItems?_nil
  item _ _ _ _ h := ofItems?_concat h

end Records

theorem isWord_word : word.IsWord where
  document _ := rfl
  read? _ _ _ := Document.u64?_eq_some_iff

theorem isDuration_duration : duration.IsDuration where
  document _ := rfl
  read? spare _ _ h := Document.timeout?_of_isTimeout h spare
  isTimeout _ _ := Document.isTimeout_of_timeout?

end Runnable

namespace Document

theorem membersBy?_map {α : Type} {read? : Document → Option α} (document : α → Document)
    (h : ∀ a, read? (document a) = some a) (ms : List (String × α)) :
    membersBy? read? (ms.map fun m => (m.1, document m.2)) = some ms := by
  induction ms with
  | nil => rfl
  | cons m ms ih =>
    rw [List.map_cons, membersBy?, h, ih]
    rfl

theorem numberTable?_table (ms : List (String × Nat)) :
    numberTable? (.table (Sheet.numberMembers ms)) = some ms :=
  membersBy?_map .natural (fun _ => rfl) ms

/-- The document of a sheet says the sheet. -/
theorem sheet?_document (s : Sheet) : s.document.sheet? = some s := by
  have hnumbers : ∀ m ∈ Sheet.numberMembers s.numbers, m.2.number?.isSome = true := by
    intro m hm
    obtain ⟨_, _, rfl⟩ := List.mem_map.1 hm
    rfl
  have htake : (Sheet.tableMembers s.tables).takeWhile (fun m => m.2.number?.isSome) = [] := by
    cases s.tables <;> rfl
  have hdrop : (Sheet.tableMembers s.tables).dropWhile (fun m => m.2.number?.isSome) =
      Sheet.tableMembers s.tables := by
    cases s.tables <;> rfl
  have hrows : membersBy? number? (Sheet.numberMembers s.numbers) = some s.numbers :=
    membersBy?_map .natural (fun _ => rfl) _
  have htables : membersBy? numberTable? (Sheet.tableMembers s.tables) = some s.tables :=
    membersBy?_map (fun ms => .table (Sheet.numberMembers ms)) numberTable?_table _
  rw [Sheet.document, sheet?]
  simp only [List.takeWhile_append_of_pos hnumbers, List.dropWhile_append_of_pos hnumbers, htake,
    hdrop, List.append_nil, hrows, htables, bind, Option.bind_some, pure]

end Document

namespace Json

variable {texts : List (List Char)} {ms : List (String × Document)} {s : Sheet}

/-- Texts that say one member each say all of them. -/
theorem spells_members {text : List Char} {m : String × Document}
    (htext : Spells text (.members [(some m.1, m.2)]))
    (h : List.Forall₂ (fun text m => Spells text (.members [(some m.1, m.2)])) texts ms) :
    Spells ([','].intercalate (text :: texts))
      (.members ((m :: ms).map fun m => (some m.1, m.2))) := by
  induction h generalizing text m with
  | nil => rwa [List.intercalate_singleton]
  | cons hnext h ih =>
    rw [List.intercalate_cons_cons, List.append_assoc]
    exact htext.members (ih hnext)

theorem tableOf_named (ms : List (String × Document)) :
    tableOf (ms.map fun m => (some m.1, m.2)) = .table ms := by
  have hnamed : (ms.map fun m => (some m.1, m.2)).all (·.1.isSome) = true := by
    rw [List.all_map]
    exact List.all_eq_true.2 fun _ _ => rfl
  have hknown : known (ms.map fun m => (some m.1, m.2)) = ms := by
    rw [known, List.filterMap_map]
    exact List.filterMap_some
  rw [tableOf, if_pos hnamed, hknown]

theorem spells_tableText
    (h : List.Forall₂ (fun text m => Spells text (.members [(some m.1, m.2)])) texts ms) :
    Spells (tableText texts) (.value (.table ms)) := by
  cases h with
  | nil => exact .emptyTable (List.forall_mem_nil _)
  | cons hfirst h =>
    rw [← tableOf_named]
    exact .table (spells_members hfirst h)

theorem not_bareKey_of_control : ∀ code < 0x20, Toml.isBareKey (Char.ofNat code) = false := by
  decide

theorem plain_of_bare {cs : List Char} (h : Toml.Bare cs) : Plain cs := by
  intro c hc
  have hbare := h.2 c hc
  refine ⟨Toml.ne_of_bare hbare (by decide), Toml.ne_of_bare hbare (by decide), ?_⟩
  rw [← Nat.not_lt]
  intro hcontrol
  have hnot := not_bareKey_of_control c.toNat hcontrol
  rw [Char.ofNat_toNat, hbare] at hnot
  cases hnot

theorem spells_numberTexts {ms : List (String × Nat)} (h : ∀ m ∈ ms, Toml.Bare m.1.toList) :
    List.Forall₂ (fun text m => Spells text (.members [(some m.1, m.2)])) (numberTexts ms)
      (Sheet.numberMembers ms) := by
  induction ms with
  | nil => exact .nil
  | cons m ms ih =>
    obtain ⟨hm, hms⟩ := List.forall_mem_cons.1 h
    exact .cons ((Spells.word (.natural m.2)).bare.plainMember m.1 (plain_of_bare hm)) (ih hms)

theorem spells_tableTexts {ts : List (String × List (String × Nat))}
    (h : ∀ t ∈ ts, Toml.Bare t.1.toList ∧ ∀ m ∈ t.2, Toml.Bare m.1.toList) :
    List.Forall₂ (fun text m => Spells text (.members [(some m.1, m.2)])) (tableTexts ts)
      (Sheet.tableMembers ts) := by
  induction ts with
  | nil => exact .nil
  | cons t ts ih =>
    obtain ⟨⟨ht, hms⟩, hts⟩ := List.forall_mem_cons.1 h
    have htable := (spells_tableText (spells_numberTexts hms)).bare
    exact .cons (htable.plainMember t.1 (plain_of_bare ht)) (ih hts)

theorem spells_sheetText (h : s.Tidy) : Spells (sheetText s) (.value s.document) := by
  apply spells_tableText
  apply List.rel_append
  · exact spells_numberTexts fun _ hm => h.bare_number hm
  · exact spells_tableTexts fun t ht => ⟨h.bare_table ht, fun m hm => h.bare_within ht hm⟩

theorem write?_document (s : Sheet) : Json.write? s.document = some (.ofList (sheetText s)) := by
  rw [Json.write?, Document.sheet?_document, Option.map_some]

theorem isJson : Serialization.runnable.json.IsJson where
  spare := rfl
  read? _ _ h := read?_of_spells h
  write? s _ _ := congrArg Option.isSome (write?_document s)
  spells s text htidy h := by
    obtain rfl := Option.some.inj ((write?_document s).symm.trans h)
    rw [String.toList_ofList]
    exact (spells_sheetText htidy).bare

end Json

namespace Toml

variable {ms : List (String × Nat)} {ts : List (String × List (String × Nat))}

theorem fit_iff : fit ms = true ↔ ∀ m ∈ ms, m.2 ≤ largestInteger := by
  simp only [fit, List.all_eq_true, decide_eq_true_eq]

theorem fit_tables_iff :
    (ts.all fun t => fit t.2) = true ↔ ∀ t ∈ ts, ∀ m ∈ t.2, m.2 ≤ largestInteger := by
  simp only [List.all_eq_true, fit_iff]

theorem assigns_numberLines (h : ∀ m ∈ ms, Bare m.1.toList)
    (hfit : ∀ m ∈ ms, m.2 ≤ largestInteger) : Assigns (numberLines ms) ms := by
  induction ms with
  | nil => exact .nil
  | cons m ms ih =>
    obtain ⟨hm, hms⟩ := List.forall_mem_cons.1 h
    obtain ⟨hn, hrest⟩ := List.forall_mem_cons.1 hfit
    exact .line hm hn (ih hms hrest)

theorem headed_tableLines (h : ∀ t ∈ ts, Bare t.1.toList ∧ ∀ m ∈ t.2, Bare m.1.toList)
    (hfit : ∀ t ∈ ts, ∀ m ∈ t.2, m.2 ≤ largestInteger) : Headed (tableLines ts) ts := by
  induction ts with
  | nil => exact .nil
  | cons t ts ih =>
    obtain ⟨⟨ht, hms⟩, hts⟩ := List.forall_mem_cons.1 h
    obtain ⟨hn, hrest⟩ := List.forall_mem_cons.1 hfit
    exact .blank (.table ht (assigns_numberLines hms hn) (ih hts hrest))

theorem write?_document (s : Sheet) : Toml.write? s.document =
    if fit s.numbers && s.tables.all fun t => fit t.2 then some (.ofList (sheetText s))
    else none := by
  rw [Toml.write?, Document.sheet?_document, Option.bind_some]

theorem isToml : Serialization.runnable.toml.IsToml where
  read? _ _ htidy h := readChars?_of_spells h htidy
  write? s _ hbelow := by
    have hfit : (fit s.numbers && s.tables.all fun t => fit t.2) = true := by
      rw [Bool.and_eq_true, fit_iff, fit_tables_iff]
      exact ⟨fun m hm => Nat.le_of_lt_succ (hbelow m (List.mem_append_left _ hm)),
        fun t ht m hm => Nat.le_of_lt_succ
          (hbelow m (List.mem_append_right _ (List.mem_flatMap_of_mem ht hm)))⟩
    exact congrArg Option.isSome ((write?_document s).trans (if_pos hfit))
  spells s text htidy h := by
    obtain ⟨hfit, htext⟩ := Option.ite_none_right_eq_some.1 ((write?_document s).symm.trans h)
    obtain rfl := Option.some.inj htext
    obtain ⟨hnumbers, htables⟩ := Bool.and_eq_true_iff.1 hfit
    rw [String.toList_ofList]
    exact ⟨_, _, assigns_numberLines (fun _ hm => htidy.bare_number hm) (fit_iff.1 hnumbers),
      headed_tableLines (fun _ ht => ⟨htidy.bare_table ht, fun _ hm => htidy.bare_within ht hm⟩)
        (fit_tables_iff.1 htables), rfl⟩

end Toml

theorem Serialization.runnable_lawful : Serialization.runnable.Lawful where
  word := Runnable.isWord_word
  duration := Runnable.isDuration_duration
  record _ standard hnames := Runnable.isRecord_record hnames standard
  json := Json.isJson
  toml := Toml.isToml

end Datagram
