import Mathlib.Data.Option.Basic
import Datagram.Proofs.Decimals
import Datagram.Toml.Reader

/-!
# Plain lines of a TOML text

The lines that a configuration is written in: a bare name and a number, a bare name in brackets, and
nothing. Each of them is read as what it says, whatever follows on the next line.
-/

namespace Datagram.Toml

variable {cs rest name digits : List Char} {c m : Char} {n : Nat}

section Numbers

/-- Digits up to the end of their line. -/
def DigitLine (cs : List Char) : Prop :=
  ∃ digits rest, (∀ c ∈ digits, c.isDigit = true) ∧ cs = digits ++ '\n' :: rest

theorem digitLine_toDigits (n : Nat) (rest : List Char) :
    DigitLine (Nat.toDigits 10 n ++ '\n' :: rest) :=
  ⟨_, rest, (Text.canonical_toDigits n).digits, rfl⟩

/-- Whatever is neither a digit nor a line end does not come next. -/
theorem DigitLine.ne_head (h : DigitLine (c :: cs)) (hm : m.isDigit = false) (hend : m ≠ '\n') :
    c ≠ m := by
  obtain ⟨digits, rest, hdigits, hcs⟩ := h
  rintro rfl
  cases digits with
  | nil => exact hend (List.cons.inj hcs).1
  | cons d digits =>
    rw [(List.cons.inj hcs).1, hdigits d List.mem_cons_self] at hm
    cases hm

theorem DigitLine.tail (h : DigitLine (c :: cs)) (hc : c.isDigit = true) : DigitLine cs := by
  obtain ⟨digits, rest, hdigits, hcs⟩ := h
  cases digits with
  | nil =>
    rw [(List.cons.inj hcs).1] at hc
    cases hc
  | cons d digits =>
    exact ⟨digits, rest, (List.forall_mem_cons.1 hdigits).2, (List.cons.inj hcs).2⟩

theorem DigitLine.mark (h : DigitLine cs) (hm : m.isDigit = false) (hend : m ≠ '\n') :
    mark m cs = none := by
  cases cs with
  | nil => rfl
  | cons c cs => exact if_neg (h.ne_head hm hend).symm

theorem fixedDigits_spec {count low high value : Nat}
    (h : fixedDigits count low high cs = some (value, rest)) :
    (∀ c ∈ cs.take count, c.isDigit = true) ∧ rest = cs.drop count := by
  obtain ⟨_, hdigits, h⟩ := Option.bind_eq_some_iff.1 h
  obtain ⟨_, _, h⟩ := Option.bind_eq_some_iff.1 h
  obtain ⟨_, _, h⟩ := Option.bind_eq_some_iff.1 h
  rw [Option.guard_eq_some', Bool.and_eq_true, List.all_eq_true] at hdigits
  exact ⟨hdigits.2, (Prod.mk.inj (Option.some.inj h)).2.symm⟩

/-- Taking a number of some digits does not go beyond the line. -/
theorem DigitLine.fixedDigits (h : DigitLine cs) {count low high value : Nat}
    (htaken : fixedDigits count low high cs = some (value, rest)) : DigitLine rest := by
  obtain ⟨digits, tail, hdigits, rfl⟩ := h
  obtain ⟨hall, rfl⟩ := fixedDigits_spec htaken
  have hcount : count ≤ digits.length := by
    by_contra hmore
    have hend : '\n' ∈ (digits ++ '\n' :: tail).take count := by
      rw [List.take_append, List.mem_append]
      obtain ⟨k, hk⟩ : ∃ k, count - digits.length = k + 1 := ⟨count - digits.length - 1, by omega⟩
      rw [hk, List.take_succ_cons]
      exact .inr List.mem_cons_self
    cases hall '\n' hend
  refine ⟨digits.drop count, tail, fun c hc => hdigits c (List.mem_of_mem_drop hc), ?_⟩
  exact List.drop_append_of_le_length hcount

theorem DigitLine.dateOrTime (h : DigitLine cs) : dateOrTime cs = none := by
  have hdate : date cs = none := by
    rw [date]
    rcases htaken : Toml.fixedDigits 4 0 9999 cs with _ | ⟨year, rest⟩
    · rfl
    · have hmark := (h.fixedDigits htaken).mark (m := '-') rfl (by decide)
      simp only [bind, Option.bind_some, hmark, Option.bind_none]
  have htime : time cs = none := by
    rw [time]
    rcases htaken : Toml.fixedDigits 2 0 23 cs with _ | ⟨hours, rest⟩
    · rfl
    · have hmark := (h.fixedDigits htaken).mark (m := ':') rfl (by decide)
      simp only [bind, Option.bind_some, hmark, Option.bind_none]
  rw [Toml.dateOrTime, hdate, htime]

theorem moreDigits_line (hdigits : ∀ c ∈ digits, c.isDigit = true) (rest : List Char) :
    moreDigits Char.isDigit (digits ++ '\n' :: rest) = (digits, '\n' :: rest) := by
  induction digits with
  | nil => rfl
  | cons c digits ih =>
    obtain ⟨hc, hrest⟩ := List.forall_mem_cons.1 hdigits
    rw [List.cons_append, moreDigits, if_pos hc, ih hrest]
    intro d tail hunderscore _
    rw [hunderscore] at hc
    cases hc

theorem wholeDigits_line (n : Nat) (rest : List Char) :
    wholeDigits (Nat.toDigits 10 n ++ '\n' :: rest) =
      some (Nat.toDigits 10 n, '\n' :: rest) := by
  have hcanonical := Text.canonical_toDigits n
  generalize Nat.toDigits 10 n = digits at *
  cases digits with
  | nil => exact absurd rfl hcanonical.nonempty
  | cons c digits =>
    obtain ⟨hc, hrest⟩ := List.forall_mem_cons.1 hcanonical.digits
    by_cases hzero : c = '0'
    · subst c
      obtain rfl : digits = [] := (List.cons.inj (hcanonical.leading rfl)).2
      rfl
    · rw [List.cons_append, wholeDigits, digitRun, if_pos hc, moreDigits_line hrest]
      exact fun _ h => hzero (List.cons.inj h).1

theorem sign_line (h : DigitLine cs) : sign cs = (false, cs) := by
  unfold sign
  split
  · exact absurd rfl (h.ne_head (m := '-') rfl (by decide))
  · exact absurd rfl (h.ne_head (m := '+') rfl (by decide))
  · rfl

theorem integer?_toDigits (hn : n ≤ largestInteger) :
    integer? false 10 (Nat.toDigits 10 n) = some (.natural n) := by
  rw [integer?, Text.readDigits_toDigits, Option.bind_some, if_neg Bool.false_ne_true, if_pos hn]

theorem decimal_line (hn : n ≤ largestInteger) (rest : List Char) :
    decimal (Nat.toDigits 10 n ++ '\n' :: rest) = some (.natural n, '\n' :: rest) := by
  have hline := digitLine_toDigits n rest
  simp only [decimal, sign_line hline, wholeDigits_line, bind, Option.bind_some,
    integer?_toDigits hn, pure]
  rfl

theorem DigitLine.skipBlanks (h : DigitLine cs) : skipBlanks cs = cs := by
  cases cs with
  | nil => rfl
  | cons c cs =>
    have hspace : c ≠ ' ' := h.ne_head rfl (by decide)
    have htab : c ≠ '\t' := h.ne_head rfl (by decide)
    rw [Toml.skipBlanks, List.dropWhile_cons_of_neg]
    rw [isBlank, decide_eq_false hspace, decide_eq_false htab]
    exact Bool.false_ne_true

theorem stripWord_line (h : DigitLine cs) (letter : Char) (letters : List Char)
    (hletter : letter.isDigit = false) (hend : letter ≠ '\n') :
    stripWord (String.ofList (letter :: letters)) cs = none := by
  rw [stripWord, String.toList_ofList, if_neg]
  cases cs with
  | nil => exact Bool.false_ne_true
  | cons c cs =>
    have hc : letter ≠ c := (h.ne_head hletter hend).symm
    rw [List.isPrefixOf, beq_false_of_ne hc]
    exact Bool.false_ne_true

theorem number_line (hn : n ≤ largestInteger) (rest : List Char) :
    number (Nat.toDigits 10 n ++ '\n' :: rest) = some (.natural n, '\n' :: rest) := by
  have hline := digitLine_toDigits n rest
  rw [← decimal_line hn]
  generalize Nat.toDigits 10 n ++ '\n' :: rest = cs at *
  have hword : word ["inf", "nan"] cs = none := by
    have hinf : stripWord "inf" cs = none :=
      stripWord_line hline 'i' ['n', 'f'] rfl (by decide)
    have hnan : stripWord "nan" cs = none :=
      stripWord_line hline 'n' ['a', 'n'] rfl (by decide)
    rw [word, List.findSome?_cons, hinf, List.findSome?_cons, hnan]
    rfl
  unfold number
  split
  · exact absurd rfl ((hline.tail rfl).ne_head (m := 'x') rfl (by decide))
  · exact absurd rfl ((hline.tail rfl).ne_head (m := 'o') rfl (by decide))
  · exact absurd rfl ((hline.tail rfl).ne_head (m := 'b') rfl (by decide))
  · rw [sign_line hline, hword]
    rfl

theorem scalar_line (hn : n ≤ largestInteger) (rest : List Char) :
    scalar (Nat.toDigits 10 n ++ '\n' :: rest) = some (.natural n, '\n' :: rest) := by
  have hline := digitLine_toDigits n rest
  rw [← number_line hn]
  generalize Nat.toDigits 10 n ++ '\n' :: rest = cs at *
  unfold scalar
  split
  · exact absurd rfl (hline.ne_head (m := '"') rfl (by decide))
  · exact absurd rfl (hline.ne_head (m := '\'') rfl (by decide))
  · exact absurd rfl (hline.ne_head (m := 't') rfl (by decide))
  · exact absurd rfl (hline.ne_head (m := 'f') rfl (by decide))
  · rw [hline.dateOrTime]

/-- A number is read up to the end of its line. -/
theorem value_line (depth : Nat) (hn : n ≤ largestInteger) (rest : List Char) :
    value depth (Nat.toDigits 10 n ++ '\n' :: rest) = some (.natural n, '\n' :: rest) := by
  have hline := digitLine_toDigits n rest
  rw [← scalar_line hn]
  generalize Nat.toDigits 10 n ++ '\n' :: rest = cs at *
  cases depth with
  | zero => rfl
  | succ depth =>
    unfold value
    split
    · exact absurd rfl (hline.ne_head (m := '[') rfl (by decide))
    · exact absurd rfl (hline.ne_head (m := '\x7b') rfl (by decide))
    · rfl

end Numbers

section Keys

/-- A name that needs no quotes. -/
def Bare (name : List Char) : Prop := name ≠ [] ∧ ∀ c ∈ name, isBareKey c = true

instance : DecidablePred Bare := fun name =>
  have : Decidable (∀ c ∈ name, isBareKey c = true) := List.decidableBAll _ name
  instDecidableAnd

theorem ne_of_bare (hc : isBareKey c = true) (hm : isBareKey m = false) : c ≠ m := by
  rintro rfl
  rw [hm] at hc
  cases hc

theorem Bare.cons (h : Bare name) : ∃ c cs, name = c :: cs ∧ isBareKey c = true := by
  obtain ⟨hne, hbare⟩ := h
  cases name with
  | nil => exact absurd rfl hne
  | cons c cs => exact ⟨c, cs, rfl, hbare c List.mem_cons_self⟩

theorem simpleKey_of_bare (hname : Bare name) (htail : ∀ c ∈ rest.head?, isBareKey c = false) :
    simpleKey (name ++ rest) = some (String.ofList name, rest) := by
  obtain ⟨htaken, hdropped⟩ := Text.takeWhile_run hname.2 htail
  have hempty : name.isEmpty = false := List.isEmpty_eq_false_iff.2 hname.1
  obtain ⟨c, cs, rfl, hc⟩ := hname.cons
  unfold simpleKey
  split
  · rename_i heq
    exact absurd (List.cons.inj heq).1 (ne_of_bare hc rfl)
  · rename_i heq
    exact absurd (List.cons.inj heq).1 (ne_of_bare hc rfl)
  · simp only [htaken, hdropped, hempty, Bool.false_eq_true, if_false]

theorem skipBlanks_of_not_blank (hc : isBlank c = false) (cs : List Char) :
    skipBlanks (c :: cs) = c :: cs := by
  rw [skipBlanks, List.dropWhile_cons_of_neg (Bool.eq_false_iff.1 hc)]

theorem not_blank_of_bare (hc : isBareKey c = true) : isBlank c = false := by
  rw [isBlank, decide_eq_false (ne_of_bare hc rfl), decide_eq_false (ne_of_bare hc rfl)]
  rfl

theorem key_of_bare (hname : Bare name) (htail : ∀ c ∈ rest.head?, isBareKey c = false)
    (hpoint : ∀ tail, skipBlanks rest ≠ '.' :: tail) :
    key (name ++ rest) = some ([String.ofList name], skipBlanks rest) := by
  have hskip : skipBlanks (name ++ rest) = name ++ rest := by
    obtain ⟨c, cs, rfl, hc⟩ := hname.cons
    exact skipBlanks_of_not_blank (not_blank_of_bare hc) (cs ++ rest)
  rw [key, deepest, dottedKey, hskip, simpleKey_of_bare hname htail]
  simp only [bind, Option.bind_some]
  rfl

end Keys

section Lines

variable {r r' : Reading} {root : Members} {behind : List Char} (limit : Nat)

theorem skipLines_of_start (hblank : isBlank c = false) (hcomment : c ≠ '#') (hline : c ≠ '\n')
    (hreturn : c ≠ '\r') : skipLines limit (c :: cs) = c :: cs := by
  cases limit with
  | zero => rfl
  | succ limit =>
    have hskip : skipComment (c :: cs) = c :: cs := by
      unfold skipComment
      split
      · rename_i heq
        exact absurd (List.cons.inj heq).1 hcomment
      · rfl
    have hend : lineEnd? (c :: cs) = none := by
      unfold lineEnd?
      split
      · rename_i heq
        exact absurd (List.cons.inj heq).1 hline
      · rename_i heq
        exact absurd (List.cons.inj heq).1 hreturn
      · rfl
    simp only [skipLines, skipBlanks_of_not_blank hblank, hskip, hend]

theorem skipLines_of_bare (hc : isBareKey c = true) : skipLines limit (c :: cs) = c :: cs :=
  skipLines_of_start limit (not_blank_of_bare hc) (ne_of_bare hc rfl) (ne_of_bare hc rfl)
    (ne_of_bare hc rfl)

theorem expressions_succ (hstart : skipAllLines cs = c :: rest)
    (hexpression : expression r (c :: rest) = some (r', '\n' :: behind)) :
    expressions (limit + 1) r cs = expressions limit r' behind := by
  have hend : lineRest? ('\n' :: behind) = some behind := rfl
  simp only [expressions, hstart, hexpression, bind, Option.bind_some, hend]

theorem expression_of_bare (hc : isBareKey c = true) :
    expression r (c :: cs) = assign r (c :: cs) := by
  have hbracket : c ≠ '[' := ne_of_bare hc rfl
  unfold expression
  split
  · rename_i heq
    exact absurd (List.cons.inj heq).1 hbracket
  · rename_i heq
    exact absurd (List.cons.inj heq).1 hbracket
  · rfl

theorem expression_of_bracket (hc : isBareKey c = true) :
    expression r ('[' :: c :: cs) = tableHeader r (c :: cs) := by
  have hbracket : c ≠ '[' := ne_of_bare hc rfl
  unfold expression
  split
  · rename_i heq
    exact absurd (List.cons.inj (List.cons.inj heq).2).1 hbracket
  · rename_i heq
    rw [(List.cons.inj heq).2]
  · rename_i hother
    exact absurd rfl (hother _)

theorem assign_line (hname : Bare name) (hn : n ≤ largestInteger)
    (hroot : Members.addUnder r.header [] (String.ofList name) (.value (.natural n)) r.root =
      some root) (rest : List Char) :
    assign r (name ++ ' ' :: '=' :: ' ' :: (Nat.toDigits 10 n ++ '\n' :: rest)) =
      some (⟨root, r.header⟩, '\n' :: rest) := by
  have hkey : key (name ++ ' ' :: '=' :: ' ' :: (Nat.toDigits 10 n ++ '\n' :: rest)) =
      some ([String.ofList name], '=' :: ' ' :: (Nat.toDigits 10 n ++ '\n' :: rest)) := by
    apply key_of_bare hname
    · rintro c ⟨⟩
      rfl
    · exact nofun
  have hskip : skipBlanks (' ' :: (Nat.toDigits 10 n ++ '\n' :: rest)) =
      Nat.toDigits 10 n ++ '\n' :: rest := (digitLine_toDigits n rest).skipBlanks
  simp only [assign, assignment, hkey, bind, Option.bind_some, splitKey, List.getLast?_singleton,
    Option.map_some, List.dropLast_singleton, hskip, value_line deepest hn, pure, hroot]

/-- A line that assigns a number to a name. -/
theorem expressions_assignment (hname : Bare name) (hn : n ≤ largestInteger)
    (hroot : Members.addUnder r.header [] (String.ofList name) (.value (.natural n)) r.root =
      some root) :
    expressions (limit + 1) r
        (name ++ ' ' :: '=' :: ' ' :: (Nat.toDigits 10 n ++ '\n' :: rest)) =
      expressions limit ⟨root, r.header⟩ rest := by
  have hassign := assign_line hname hn hroot rest
  obtain ⟨c, cs, rfl, hc⟩ := hname.cons
  apply expressions_succ limit
  · exact skipLines_of_bare _ hc
  · rw [← hassign]
    exact expression_of_bare hc

/-- A line that opens a table. -/
theorem expressions_header (hname : Bare name)
    (hroot : Members.addTable [] (String.ofList name) r.root = some root) :
    expressions (limit + 1) r ('[' :: (name ++ ']' :: '\n' :: rest)) =
      expressions limit ⟨root, [String.ofList name]⟩ rest := by
  have hkey : key (name ++ ']' :: '\n' :: rest) =
      some ([String.ofList name], ']' :: '\n' :: rest) := by
    apply key_of_bare hname
    · rintro c ⟨⟩
      rfl
    · exact nofun
  have hheader : tableHeader r (name ++ ']' :: '\n' :: rest) =
      some (⟨root, [String.ofList name]⟩, '\n' :: rest) := by
    simp only [tableHeader, hkey, bind, Option.bind_some, splitKey, List.getLast?_singleton,
      Option.map_some, List.dropLast_singleton, hroot, pure]
  obtain ⟨c, cs, rfl, hc⟩ := hname.cons
  apply expressions_succ limit
  · exact skipLines_of_start _ rfl (by decide) (by decide) (by decide)
  · rw [← hheader]
    exact expression_of_bracket hc

theorem expressions_blank (limit : Nat) (r : Reading) (cs : List Char) :
    expressions (limit + 1) r ('\n' :: cs) = expressions (limit + 1) r cs := by
  have hskip : skipAllLines ('\n' :: cs) = skipAllLines cs := rfl
  rw [expressions, expressions, hskip]

end Lines

end Datagram.Toml
