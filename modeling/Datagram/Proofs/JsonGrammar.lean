import Datagram.Proofs.JsonTokens

/-!
# The grammar of JSON

`Spells` is the grammar of JSON, with what each text says as a document. Every text that it allows
is read, however deep it is, and read as what it says.
-/

namespace Datagram.Json

/-- What a part of a text stands for. An element is a value with blanks around it; the members of a
table have their names, as far as these have a text. -/
inductive Phrase where
  | value (d : Document)
  | element (d : Document)
  | items (ds : List Document)
  | members (ms : List (Option String × Document))

def known (ms : List (Option String × Document)) : List (String × Document) :=
  ms.filterMap fun m => m.1.map (·, m.2)

/-- A table says nothing if a name of it has no text. -/
def tableOf (ms : List (Option String × Document)) : Document :=
  if ms.all (·.1.isSome) then .table (known ms) else .other

inductive Spells : List Char → Phrase → Prop
  | word {cs d} (h : Word cs d) : Spells cs (.value d)
  | string {cs units} (h : Literal cs units) : Spells ('"' :: (cs ++ ['"'])) (.value .other)
  | emptyList {blanks} (h : Blanks blanks) : Spells ('[' :: (blanks ++ [']'])) (.value (.list []))
  | list {cs ds} (h : Spells cs (.items ds)) : Spells ('[' :: (cs ++ [']'])) (.value (.list ds))
  | emptyTable {blanks} (h : Blanks blanks) :
      Spells ('\x7b' :: (blanks ++ ['\x7d'])) (.value (.table []))
  | table {cs ms} (h : Spells cs (.members ms)) :
      Spells ('\x7b' :: (cs ++ ['\x7d'])) (.value (tableOf ms))
  | element {lead cs trail d} (hlead : Blanks lead) (h : Spells cs (.value d))
      (htrail : Blanks trail) : Spells (lead ++ (cs ++ trail)) (.element d)
  | item {cs d} (h : Spells cs (.element d)) : Spells cs (.items [d])
  | items {cs rest d ds} (h : Spells cs (.element d)) (hrest : Spells rest (.items ds)) :
      Spells (cs ++ ',' :: rest) (.items (d :: ds))
  | member {lead literal trail cs units name d} (hlead : Blanks lead)
      (hliteral : Literal literal units) (hname : Names units name) (htrail : Blanks trail)
      (h : Spells cs (.element d)) :
      Spells (lead ++ '"' :: (literal ++ '"' :: (trail ++ ':' :: cs))) (.members [(name, d)])
  | members {cs rest m ms} (h : Spells cs (.members [m])) (hrest : Spells rest (.members ms)) :
      Spells (cs ++ ',' :: rest) (.members (m :: ms))

/-- What tokens do to a reading that wants a phrase. -/
def Phrase.Reads : Phrase → List Token → Prop
  | .value d, tokens | .element d, tokens => ∀ stack first,
    tokens.foldlM readToken ⟨stack, .value first⟩ = some (place d stack)
  | .items ds, tokens => ∀ stack first past,
    tokens.foldlM readToken ⟨.list past :: stack, .value first⟩ =
      some ⟨.list (ds.reverse ++ past) :: stack, .more⟩
  | .members ms, tokens => ∀ stack first past names name,
    tokens.foldlM readToken ⟨.table past names name :: stack, .name first⟩ =
      some ⟨.table ((known ms).reverse ++ past) (names && ms.all (·.1.isSome)) none :: stack,
        .more⟩

variable {cs : List Char} {d : Document} {ds : List Document} {m : Option String × Document}
  {ms : List (Option String × Document)} {tokens more : List Token} {p : Phrase}

theorem known_cons (m : Option String × Document) (ms : List (Option String × Document)) :
    known (m :: ms) = known [m] ++ known ms := by
  rw [known, known, known, ← List.filterMap_append, List.singleton_append]

/-- Reading two runs of tokens one after the other. -/
theorem foldlM_readToken {r r' : Reading} (h : tokens.foldlM readToken r = some r')
    (more : List Token) : (tokens ++ more).foldlM readToken r = more.foldlM readToken r' := by
  rw [List.foldlM_append, h, Option.bind_eq_bind, Option.bind_some]

theorem reads_string (name : Option String) : (Phrase.value .other).Reads [.string name] :=
  fun _ _ => rfl

theorem reads_word (h : wordDocument? cs = some d) : (Phrase.value d).Reads [.word cs] := by
  intro stack first
  have hstep : readToken ⟨stack, .value first⟩ (.word cs) = some (place d stack) := by
    change (wordDocument? cs).map _ = _
    rw [h, Option.map_some]
  rw [List.foldlM_cons, hstep]
  rfl

theorem reads_emptyList : (Phrase.value (.list [])).Reads [.beginList, .endList] := fun _ _ => rfl

theorem reads_emptyTable : (Phrase.value (.table [])).Reads [.beginTable, .endTable] :=
  fun _ _ => rfl

theorem reads_list (h : (Phrase.items ds).Reads tokens) :
    (Phrase.value (.list ds)).Reads (.beginList :: (tokens ++ [.endList])) := by
  intro stack first
  change (tokens ++ [Token.endList]).foldlM readToken ⟨.list [] :: stack, .value true⟩ = _
  rw [foldlM_readToken (h stack true []), List.append_nil]
  change some (place (.list ds.reverse.reverse) stack) = _
  rw [List.reverse_reverse]

theorem reads_table (h : (Phrase.members ms).Reads tokens) :
    (Phrase.value (tableOf ms)).Reads (.beginTable :: (tokens ++ [.endTable])) := by
  intro stack first
  change (tokens ++ [Token.endTable]).foldlM readToken
    ⟨.table [] true none :: stack, .name true⟩ = _
  rw [foldlM_readToken (h stack true [] true none), List.append_nil, Bool.true_and, tableOf]
  change some (place (if _ then .table (known ms).reverse.reverse else .other) stack) = _
  rw [List.reverse_reverse]

theorem reads_item (h : (Phrase.element d).Reads tokens) : (Phrase.items [d]).Reads tokens :=
  fun stack first past => h (.list past :: stack) first

theorem reads_items (h : (Phrase.element d).Reads tokens) (hmore : (Phrase.items ds).Reads more) :
    (Phrase.items (d :: ds)).Reads (tokens ++ .comma :: more) := by
  intro stack first past
  rw [foldlM_readToken (reads_item h stack first past), @List.reverse_cons _ d ds,
    List.append_assoc]
  exact hmore stack false (d :: past)

theorem reads_member (name : Option String) (h : (Phrase.element d).Reads tokens) :
    (Phrase.members [(name, d)]).Reads (.string name :: .colon :: tokens) := by
  intro stack first past names name'
  change tokens.foldlM readToken
    ⟨.table past (names && name.isSome) name :: stack, .value false⟩ = _
  rw [h, List.all_cons, List.all_nil, Bool.and_true]
  cases name with
  | none => rfl
  | some name => rfl

theorem reads_members (h : (Phrase.members [m]).Reads tokens)
    (hmore : (Phrase.members ms).Reads more) :
    (Phrase.members (m :: ms)).Reads (tokens ++ .comma :: more) := by
  intro stack first past names name
  rw [foldlM_readToken (h stack first past names name), known_cons m ms, List.reverse_append,
    List.append_assoc, List.all_cons, List.all_nil, Bool.and_true, List.all_cons, ← Bool.and_assoc]
  exact hmore stack false ((known [m]).reverse ++ past) (names && m.1.isSome) none

/-- Every text of the grammar is made of tokens that are read as what the text stands for. -/
theorem Spells.reads (h : Spells cs p) : ∃ tokens, Token.Tokenizes cs tokens ∧ p.Reads tokens := by
  have hmark {c : Char} {token : Token} (hc : Token.mark? c = some token) :
      Token.Tokenizes [c] [token] := Token.Tokenizes.nil.mark hc
  induction h with
  | word h =>
    obtain ⟨hne, hchars⟩ := h.chars
    exact ⟨_, .word hne hchars, reads_word (wordDocument?_of_word h)⟩
  | string h => exact ⟨_, Token.Tokenizes.nil.literal h, reads_string _⟩
  | emptyList h => exact ⟨_, .mark rfl (.blanks h (hmark rfl)), reads_emptyList⟩
  | list h ih =>
    obtain ⟨tokens, htokens, hreads⟩ := ih
    exact ⟨_, .mark rfl (htokens.append rfl (hmark rfl)), reads_list hreads⟩
  | emptyTable h => exact ⟨_, .mark rfl (.blanks h (hmark rfl)), reads_emptyTable⟩
  | table h ih =>
    obtain ⟨tokens, htokens, hreads⟩ := ih
    exact ⟨_, .mark rfl (htokens.append rfl (hmark rfl)), reads_table hreads⟩
  | element hlead h htrail ih =>
    obtain ⟨tokens, htokens, hreads⟩ := ih
    exact ⟨_, .blanks hlead (htokens.trailing htrail), hreads⟩
  | item h ih =>
    obtain ⟨tokens, htokens, hreads⟩ := ih
    exact ⟨_, htokens, reads_item hreads⟩
  | items h hrest ih ihrest =>
    obtain ⟨tokens, htokens, hreads⟩ := ih
    obtain ⟨more, hmore, hreadsMore⟩ := ihrest
    exact ⟨_, htokens.append rfl (.mark rfl hmore), reads_items hreads hreadsMore⟩
  | member hlead hliteral hname htrail h ih =>
    obtain ⟨tokens, htokens, hreads⟩ := ih
    have hcolon := Token.Tokenizes.blanks htrail (htokens.mark (c := ':') rfl)
    refine ⟨_, .blanks hlead (hcolon.literal hliteral), ?_⟩
    rw [hliteral.textOf? hname]
    exact reads_member _ hreads
  | members h hrest ih ihrest =>
    obtain ⟨tokens, htokens, hreads⟩ := ih
    obtain ⟨more, hmore, hreadsMore⟩ := ihrest
    exact ⟨_, htokens.append rfl (.mark rfl hmore), reads_members hreads hreadsMore⟩

/-- Every text of the grammar is read as what it says. -/
theorem read?_of_spells {text : String} (h : Spells text.toList (.element d)) :
    read? text = some d := by
  obtain ⟨tokens, htokens, hreads⟩ := h.reads
  rw [read?, htokens.scan?, Option.bind_some, ofTokens?]
  rw [hreads]
  rfl

theorem Spells.bare (h : Spells cs (.value d)) : Spells cs (.element d) := by
  have hnothing : Blanks [] := List.forall_mem_nil _
  have helement := h.element hnothing hnothing
  rwa [List.nil_append, List.append_nil] at helement

/-- Characters that stand for themselves between quotes. -/
def Plain (cs : List Char) : Prop := ∀ c ∈ cs, c ≠ '"' ∧ c ≠ '\\' ∧ 0x20 ≤ c.toNat

instance : DecidablePred Plain := fun cs => List.decidableBAll _ cs

theorem literal_of_plain (h : Plain cs) : Literal cs (cs.map Char.toNat) := by
  induction cs with
  | nil => exact .nil
  | cons c cs ih =>
    obtain ⟨⟨hquote, hescape, hcontrol⟩, hrest⟩ := List.forall_mem_cons.1 h
    exact .plain hquote hescape hcontrol (ih hrest)

theorem encodes_map_toNat (cs : List Char) : Encodes (cs.map Char.toNat) cs := by
  induction cs with
  | nil => exact .nil
  | cons c cs ih => exact .single ih

theorem Spells.plainMember (name : String) (hname : Plain name.toList)
    (h : Spells cs (.element d)) :
    Spells ('"' :: (name.toList ++ '"' :: ':' :: cs)) (.members [(some name, d)]) := by
  have hnothing : Blanks [] := List.forall_mem_nil _
  have hnames : Names (name.toList.map Char.toNat) (some name) := encodes_map_toNat name.toList
  exact .member hnothing (literal_of_plain hname) hnames hnothing h

end Datagram.Json
