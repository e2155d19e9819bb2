import Mathlib.Data.List.Basic
import Datagram.Json.Reader
import Datagram.Proofs.Decimals

/-!
# The tokens of a JSON text by its grammar

The grammar of JSON says what blanks, string literals and words are. Whatever is made of these and
of punctuation is scanned as what it is made of, as long as no word runs into the next one.

A literal spells 16-bit units, and these encode a text unless half of a surrogate pair stands alone.
-/

namespace Datagram.Json

def Blanks (cs : List Char) : Prop := ∀ c ∈ cs, c ∈ [' ', '\t', '\n', '\r']

/-- What stands between the quotes of a string, and its units. A character that stands for itself is
one unit, whichever it is. -/
inductive Literal : List Char → List Nat → Prop
  | nil : Literal [] []
  | plain {c cs units} (hquote : c ≠ '"') (hescape : c ≠ '\\') (hcontrol : 0x20 ≤ c.toNat)
      (hrest : Literal cs units) : Literal (c :: cs) (c.toNat :: units)
  | escape {c unit cs units} (hunit : Token.escaped? c = some unit) (hrest : Literal cs units) :
      Literal ('\\' :: c :: cs) (unit :: units)
  | code {p q r s unit cs units} (hunit : Text.readDigits 16 [p, q, r, s] = some unit)
      (hrest : Literal cs units) : Literal ('\\' :: 'u' :: p :: q :: r :: s :: cs) (unit :: units)

/-- A character is encoded by itself, or as a pair of surrogates. -/
inductive Encodes : List Nat → List Char → Prop
  | nil : Encodes [] []
  | single {c units cs} (hrest : Encodes units cs) : Encodes (c.toNat :: units) (c :: cs)
  | pair {c high low units cs} (hhigh : Token.isHighHalf high = true)
      (hlow : Token.isLowHalf low = true)
      (hc : c.toNat = 0x10000 + (high - 0xD800) * 0x400 + (low - 0xDC00))
      (hrest : Encodes units cs) : Encodes (high :: low :: units) (c :: cs)

/-- The text that units encode, if there is one. -/
def Names (units : List Nat) : Option String → Prop
  | some text => Encodes units text.toList
  | none => ∀ cs, ¬ Encodes units cs

def Digits (cs : List Char) : Prop := cs ≠ [] ∧ ∀ c ∈ cs, c.isDigit = true

def Fraction (cs : List Char) : Prop := cs = [] ∨ ∃ digits, Digits digits ∧ cs = '.' :: digits

def Exponent (cs : List Char) : Prop :=
  cs = [] ∨ ∃ e sign digits, (e = 'e' ∨ e = 'E') ∧ (sign = [] ∨ sign = ['+'] ∨ sign = ['-']) ∧
    Digits digits ∧ cs = e :: (sign ++ digits)

/-- Words are numbers and the three names. A number is natural if it is written in digits alone. -/
inductive Word : List Char → Document → Prop
  | natural (n : Nat) : Word (Nat.toDigits 10 n) (.natural n)
  | number {sign fraction exponent} (n : Nat) (hsign : sign = [] ∨ sign = ['-'])
      (hfraction : Fraction fraction) (hexponent : Exponent exponent)
      (hmore : sign ++ fraction ++ exponent ≠ []) :
      Word (sign ++ Nat.toDigits 10 n ++ (fraction ++ exponent)) .other
  | name {text : String} (htext : text ∈ ["true", "false", "null"]) : Word text.toList .other

section Units

open Token

variable {cs : List Char} {units : List Nat} {c : Char} {unit : Nat}

theorem toNat_valid (c : Char) : c.toNat < 0xD800 ∨ 0xDFFF < c.toNat ∧ c.toNat < 0x110000 :=
  c.valid

theorem toNat_ofNat (h : unit < 0xD800 ∨ 0xDFFF < unit ∧ unit < 0x110000) :
    (Char.ofNat unit).toNat = unit := by
  have hvalid : unit.isValidChar := h
  rw [Char.ofNat, dif_pos hvalid]
  rfl

/-- A unit that is not half of a pair stands for a character. -/
theorem codePoints?_cons (hhigh : isHighHalf unit = false) (hlow : isLowHalf unit = false) :
    codePoints? (unit :: units) = (codePoints? units).map (Char.ofNat unit :: ·) := by
  cases units with
  | nil => simp [codePoints?, hhigh, hlow]
  | cons low rest => simp [codePoints?, hhigh, hlow]

theorem codePoints?_of_encodes (h : Encodes units cs) : codePoints? units = some cs := by
  induction h with
  | nil => rfl
  | @single c units cs _ ih =>
    have hvalid := toNat_valid c
    have hhigh : isHighHalf c.toNat = false := by
      simp only [isHighHalf, Bool.and_eq_false_iff, decide_eq_false_iff_not]
      omega
    have hlow : isLowHalf c.toNat = false := by
      simp only [isLowHalf, Bool.and_eq_false_iff, decide_eq_false_iff_not]
      omega
    rw [codePoints?_cons hhigh hlow, ih, Option.map_some, Char.ofNat_toNat]
  | @pair c high low units cs hhigh hlow hc _ ih =>
    rw [codePoints?, if_pos hhigh, if_pos hlow, ih, Option.map_some, ← hc, Char.ofNat_toNat]

theorem Encodes.ofNat (hunit : unit < 0x110000) (hhigh : ¬ isHighHalf unit = true)
    (hlow : ¬ isLowHalf unit = true) (hrest : Encodes units cs) :
    Encodes (unit :: units) (Char.ofNat unit :: cs) := by
  simp only [isHighHalf, isLowHalf, Bool.and_eq_true, decide_eq_true_eq] at hhigh hlow
  have hvalid : (Char.ofNat unit).toNat = unit := toNat_ofNat (by omega)
  have hsingle := hrest.single (c := Char.ofNat unit)
  rwa [hvalid] at hsingle

theorem encodes_of_codePoints? (hunits : ∀ unit ∈ units, unit < 0x110000)
    (h : codePoints? units = some cs) : Encodes units cs := by
  fun_induction codePoints? units generalizing cs with
  | case1 =>
    obtain rfl : [] = cs := Option.some.inj h
    exact .nil
  | case2 high low rest hhigh hlow ih =>
    obtain ⟨cs, hrest, rfl⟩ := Option.map_eq_some_iff.1 h
    obtain ⟨-, hbounds⟩ := List.forall_mem_cons.1 hunits
    refine .pair hhigh hlow ?_ (ih (List.forall_mem_cons.1 hbounds).2 hrest)
    simp only [isHighHalf, isLowHalf, Bool.and_eq_true, decide_eq_true_eq] at hhigh hlow
    exact toNat_ofNat (by omega)
  | case3 | case4 | case6 => cases h
  | case5 high low rest hhigh hlow ih =>
    obtain ⟨cs, hrest, rfl⟩ := Option.map_eq_some_iff.1 h
    obtain ⟨hunit, hbounds⟩ := List.forall_mem_cons.1 hunits
    exact .ofNat hunit hhigh hlow (ih hbounds hrest)
  | case7 unit hwhole =>
    obtain rfl : [Char.ofNat unit] = cs := Option.some.inj h
    obtain ⟨hhigh, hlow⟩ := not_or.1 (mt Bool.or_eq_true_iff.2 hwhole)
    exact .ofNat (hunits unit (List.mem_singleton_self unit)) hhigh hlow .nil

theorem digitValue?_lt {base : Nat} (h : Text.digitValue? base c = some unit) : unit < base :=
  of_decide_eq_true (Option.filter_eq_some_iff.1 h).2

theorem readDigitsFrom_cons_eq_some {base value n : Nat}
    (h : Text.readDigitsFrom base value (c :: cs) = some n) :
    ∃ digit, Text.digitValue? base c = some digit ∧
      Text.readDigitsFrom base (value * base + digit) cs = some n := by
  rw [Text.readDigitsFrom] at h
  cases hdigit : Text.digitValue? base c with
  | none =>
    rw [hdigit] at h
    cases h
  | some digit =>
    rw [hdigit] at h
    exact ⟨digit, rfl, h⟩

/-- The four digits of a code. -/
theorem digits_of_code {p q r s : Char} (h : Text.readDigits 16 [p, q, r, s] = some unit) :
    ∃ w x y z, Text.digitValue? 16 p = some w ∧ Text.digitValue? 16 q = some x ∧
      Text.digitValue? 16 r = some y ∧ Text.digitValue? 16 s = some z ∧
      unit = ((w * 16 + x) * 16 + y) * 16 + z := by
  obtain ⟨w, hw, h⟩ := readDigitsFrom_cons_eq_some h
  obtain ⟨x, hx, h⟩ := readDigitsFrom_cons_eq_some h
  obtain ⟨y, hy, h⟩ := readDigitsFrom_cons_eq_some h
  obtain ⟨z, hz, h⟩ := readDigitsFrom_cons_eq_some h
  refine ⟨w, x, y, z, hw, hx, hy, hz, ?_⟩
  rw [← Option.some.inj h, Nat.zero_mul, Nat.zero_add]

theorem Literal.units_lt (h : Literal cs units) : ∀ unit ∈ units, unit < 0x110000 := by
  induction h with
  | nil => exact List.forall_mem_nil _
  | @plain c _ _ _ _ _ _ ih =>
    have hvalid := toNat_valid c
    exact List.forall_mem_cons.2 ⟨by omega, ih⟩
  | @escape c unit _ _ hunit _ ih =>
    refine List.forall_mem_cons.2 ⟨?_, ih⟩
    unfold escaped? at hunit
    split at hunit
    all_goals
      cases hunit
      try decide
  | code hunit _ ih =>
    obtain ⟨w, x, y, z, hw, hx, hy, hz, rfl⟩ := digits_of_code hunit
    have hw := digitValue?_lt hw
    have hx := digitValue?_lt hx
    have hy := digitValue?_lt hy
    have hz := digitValue?_lt hz
    exact List.forall_mem_cons.2 ⟨by omega, ih⟩

/-- The text that is read of a literal is the one that its units encode. -/
theorem Literal.textOf? (h : Literal cs units) {name : Option String} (hname : Names units name) :
    textOf? units.reverse = name := by
  rw [Token.textOf?, List.reverse_reverse]
  cases name with
  | some text =>
    rw [codePoints?_of_encodes hname, Option.map_some, String.ofList_toList]
  | none =>
    rw [Option.map_eq_none_iff, Option.eq_none_iff_forall_ne_some]
    intro cs hcs
    exact hname cs (encodes_of_codePoints? h.units_lt hcs)

end Units

section Words

variable {cs sign digits fraction exponent : List Char} {d : Document} {n : Nat}

theorem isDigitRun_of_digits (h : Digits cs) : isDigitRun cs = true := by
  rw [isDigitRun, Bool.and_eq_true, Bool.not_eq_true', List.isEmpty_eq_false_iff, List.all_eq_true]
  exact h

/-- What is behind digits begins with something else. -/
def Ends (cs : List Char) : Prop := ∀ c ∈ cs.head?, c.isDigit = false

theorem Exponent.ends (h : Exponent exponent) : Ends exponent := by
  rcases h with rfl | ⟨e, sign, digits, rfl | rfl, -, -, rfl⟩
  · exact nofun
  all_goals
    rintro c ⟨⟩
    rfl

theorem ends_of_parts (hfraction : Fraction fraction) (hexponent : Exponent exponent) :
    Ends (fraction ++ exponent) := by
  rcases hfraction with rfl | ⟨digits, -, rfl⟩
  · exact hexponent.ends
  · rintro c ⟨⟩
    rfl

theorem isExponent_of_sign (hsign : sign = [] ∨ sign = ['+'] ∨ sign = ['-']) (h : Digits digits) :
    isExponent (sign ++ digits) = true := by
  rcases hsign with rfl | rfl | rfl
  · rw [List.nil_append]
    unfold isExponent
    split
    · cases h.2 '+' List.mem_cons_self
    · cases h.2 '-' List.mem_cons_self
    · exact isDigitRun_of_digits h
  · exact isDigitRun_of_digits h
  · exact isDigitRun_of_digits h

theorem isNumberRest_of_parts (hfraction : Fraction fraction) (hexponent : Exponent exponent) :
    isNumberRest (fraction ++ exponent) = true := by
  rcases hfraction with rfl | ⟨digits, hdigits, rfl⟩
  · rcases hexponent with rfl | ⟨e, sign, digits, rfl | rfl, hsign, hdigits, rfl⟩
    · rfl
    all_goals exact isExponent_of_sign hsign hdigits
  · obtain ⟨htaken, hdropped⟩ := Text.takeWhile_run hdigits.2 hexponent.ends
    simp only [List.cons_append, isNumberRest, htaken, hdropped, isDigitRun_of_digits hdigits,
      Bool.true_and]
    rcases hexponent with rfl | ⟨e, sign, digits, rfl | rfl, hsign, hdigits, rfl⟩
    · rfl
    all_goals exact isExponent_of_sign hsign hdigits

theorem digits_toDigits (n : Nat) : Digits (Nat.toDigits 10 n) :=
  ⟨(Text.canonical_toDigits n).nonempty, (Text.canonical_toDigits n).digits⟩

theorem isUnsignedNumber_of_parts (n : Nat) (hfraction : Fraction fraction)
    (hexponent : Exponent exponent) :
    isUnsignedNumber (Nat.toDigits 10 n ++ (fraction ++ exponent)) = true := by
  obtain ⟨htaken, hdropped⟩ :=
    Text.takeWhile_run (digits_toDigits n).2 (ends_of_parts hfraction hexponent)
  rw [isUnsignedNumber, htaken, hdropped, isDigitRun_of_digits (digits_toDigits n),
    (Text.canonical_toDigits n).startsWithSpareZero, isNumberRest_of_parts hfraction hexponent]
  rfl

theorem isNumber_of_parts (hsign : sign = [] ∨ sign = ['-']) (n : Nat)
    (hfraction : Fraction fraction) (hexponent : Exponent exponent) :
    isNumber (sign ++ Nat.toDigits 10 n ++ (fraction ++ exponent)) = true := by
  have hunsigned := isUnsignedNumber_of_parts n hfraction hexponent
  rcases hsign with rfl | rfl
  · rw [List.nil_append]
    unfold isNumber
    split
    · rename_i rest heq
      obtain ⟨hne, hdigits⟩ := digits_toDigits n
      have hhead : '-' ∈ Nat.toDigits 10 n := by
        apply List.mem_of_mem_head?
        rw [← List.head?_append_of_ne_nil _ hne, heq, List.head?_cons]
        rfl
      cases hdigits '-' hhead
    · exact hunsigned
  · exact hunsigned

theorem not_all_isDigit (hsign : sign = [] ∨ sign = ['-']) (hfraction : Fraction fraction)
    (hexponent : Exponent exponent) (hmore : sign ++ fraction ++ exponent ≠ [])
    (digits : List Char) :
    ¬ (sign ++ digits ++ (fraction ++ exponent)).all Char.isDigit = true := by
  rw [List.all_eq_true]
  intro hall
  rcases hsign with rfl | rfl
  · rw [List.nil_append] at hmore
    obtain ⟨c, hc⟩ := Option.ne_none_iff_exists'.1 (mt List.head?_eq_none_iff.1 hmore)
    have hdigit := hall c (List.mem_append_right _ (List.mem_of_mem_head? hc))
    rw [ends_of_parts hfraction hexponent c hc] at hdigit
    cases hdigit
  · cases hall '-' List.mem_cons_self

theorem wordDocument?_of_word (h : Word cs d) : wordDocument? cs = some d := by
  cases h with
  | natural n =>
    have hnumber := isNumber_of_parts (.inl rfl) n (.inl rfl) (.inl rfl)
    rw [List.nil_append, List.append_nil, List.append_nil] at hnumber
    have hdigits := digits_toDigits n
    rw [wordDocument?, if_pos hnumber, if_pos (List.all_eq_true.2 hdigits.2),
      Text.readDigits_toDigits, Option.map_some]
  | @number sign fraction exponent n hsign hfraction hexponent hmore =>
    rw [wordDocument?, if_pos (isNumber_of_parts hsign n hfraction hexponent),
      if_neg (not_all_isDigit hsign hfraction hexponent hmore _)]
  | @name text htext =>
    simp only [List.mem_cons, List.not_mem_nil, or_false] at htext
    rcases htext with rfl | rfl | rfl
    all_goals rfl

theorem Digits.isWordChar (h : Digits cs) : ∀ c ∈ cs, Token.isWordChar c = true := by
  intro c hc
  simp only [Token.isWordChar, Char.isAlphanum, h.2 c hc, Bool.or_true, Bool.true_or]

theorem Fraction.isWordChar (h : Fraction fraction) :
    ∀ c ∈ fraction, Token.isWordChar c = true := by
  rcases h with rfl | ⟨digits, hdigits, rfl⟩
  · exact List.forall_mem_nil _
  · exact List.forall_mem_cons.2 ⟨rfl, hdigits.isWordChar⟩

theorem Exponent.isWordChar (h : Exponent exponent) :
    ∀ c ∈ exponent, Token.isWordChar c = true := by
  rcases h with rfl | ⟨e, sign, digits, he, hsign, hdigits, rfl⟩
  · exact List.forall_mem_nil _
  · refine List.forall_mem_cons.2 ⟨?_, List.forall_mem_append.2 ⟨?_, hdigits.isWordChar⟩⟩
    · rcases he with rfl | rfl <;> rfl
    · rcases hsign with rfl | rfl | rfl <;> exact List.all_eq_true.1 rfl

/-- A word has characters, and no blanks or punctuation among them. -/
theorem Word.chars (h : Word cs d) : cs ≠ [] ∧ ∀ c ∈ cs, Token.isWordChar c = true := by
  cases h with
  | natural n => exact ⟨(digits_toDigits n).1, (digits_toDigits n).isWordChar⟩
  | @number sign fraction exponent n hsign hfraction hexponent hmore =>
    have hdigits := digits_toDigits n
    constructor
    · simp only [ne_eq, List.append_eq_nil_iff, hdigits.1, and_false, false_and, not_false_eq_true]
    · refine List.forall_mem_append.2 ⟨List.forall_mem_append.2 ⟨?_, hdigits.isWordChar⟩,
        List.forall_mem_append.2 ⟨hfraction.isWordChar, hexponent.isWordChar⟩⟩
      rcases hsign with rfl | rfl <;> exact List.all_eq_true.1 rfl
  | @name text htext =>
    simp only [List.mem_cons, List.not_mem_nil, or_false] at htext
    rcases htext with rfl | rfl | rfl
    all_goals exact ⟨nofun, List.all_eq_true.1 rfl⟩

end Words

namespace Token

/-- The scan has read the tokens, in reverse, though the last one may be a word still running. -/
inductive Settled : List Token → Scan → Prop
  | between {done : List Token} : Settled done ⟨done, .between⟩
  | word {done : List Token} {chars : List Char} :
      Settled (.word chars.reverse :: done) ⟨done, .word chars⟩

/-- Whatever has been scanned before, the text gives these tokens. -/
def Tokenizes (cs : List Char) (tokens : List Token) : Prop :=
  ∀ done, ∃ s, cs.foldlM scanChar ⟨done, .between⟩ = some s ∧ Settled (tokens.reverse ++ done) s

variable {cs rest chars : List Char} {units : List Nat} {tokens more done : List Token}
  {c : Char} {token : Token} {s : Scan}

theorem foldlM_literal (h : Literal cs units) (done : List Token) (acc : List Nat) :
    cs.foldlM scanChar ⟨done, .string acc⟩ = some ⟨done, .string (units.reverse ++ acc)⟩ := by
  induction h generalizing acc with
  | nil => rfl
  | @plain c cs units hquote hescape hcontrol _ ih =>
    have hstep : scanChar ⟨done, .string acc⟩ c = some ⟨done, .string (c.toNat :: acc)⟩ := by
      simp only [scanChar, if_neg hquote, if_neg hescape, if_neg (Nat.not_lt.2 hcontrol)]
    rw [List.foldlM_cons, hstep, List.reverse_cons, List.append_assoc]
    exact ih (c.toNat :: acc)
  | @escape c unit cs units hunit _ ih =>
    have hc : c ≠ 'u' := by
      rintro rfl
      cases hunit
    have hstep : scanChar ⟨done, .escape acc⟩ c = some ⟨done, .string (unit :: acc)⟩ := by
      simp only [scanChar, if_neg hc, hunit, Option.map_some]
    have hescape : scanChar ⟨done, .string acc⟩ '\\' = some ⟨done, .escape acc⟩ := rfl
    rw [List.foldlM_cons, hescape, List.reverse_cons, List.append_assoc]
    change List.foldlM scanChar ⟨done, .escape acc⟩ (c :: cs) = _
    rw [List.foldlM_cons, hstep]
    exact ih (unit :: acc)
  | @code p q r s unit cs units hunit _ ih =>
    obtain ⟨w, x, y, z, hw, hx, hy, hz, rfl⟩ := digits_of_code hunit
    have hsteps : ('\\' :: 'u' :: p :: q :: r :: s :: cs).foldlM scanChar ⟨done, .string acc⟩ =
        cs.foldlM scanChar ⟨done, .string ((((w * 16 + x) * 16 + y) * 16 + z) :: acc)⟩ := by
      simp [List.foldlM_cons, scanChar, hw, hx, hy, hz]
    rw [hsteps, List.reverse_cons, List.append_assoc]
    exact ih _

theorem isWordChar_of_blank (h : c ∈ [' ', '\t', '\n', '\r']) : isWordChar c = false := by
  simp only [List.mem_cons, List.not_mem_nil, or_false] at h
  rcases h with rfl | rfl | rfl | rfl <;> rfl

theorem isBlank_iff : isBlank c = true ↔ c ∈ [' ', '\t', '\n', '\r'] := by
  simp only [isBlank, Bool.or_eq_true, decide_eq_true_eq, List.mem_cons, List.not_mem_nil, or_false,
    or_assoc]

theorem startAt_mark (h : mark? c = some token) (done : List Token) :
    startAt done c = some ⟨token :: done, .between⟩ := by
  unfold mark? at h
  split at h
  all_goals cases h
  all_goals rfl

theorem startAt_word (h : isWordChar c = true) (done : List Token) :
    startAt done c = some ⟨done, .word [c]⟩ := by
  have hblank : ¬ isBlank c = true := fun hblank => by
    rw [isWordChar_of_blank (isBlank_iff.1 hblank)] at h
    cases h
  have hquote : c ≠ '"' := by
    rintro rfl
    cases h
  rw [startAt, if_neg hblank, if_neg hquote, if_pos h]

theorem foldlM_word (hchars : ∀ c ∈ chars, isWordChar c = true) (done : List Token)
    (acc : List Char) :
    chars.foldlM scanChar ⟨done, .word acc⟩ = some ⟨done, .word (chars.reverse ++ acc)⟩ := by
  induction chars generalizing acc with
  | nil => rfl
  | cons c chars ih =>
    obtain ⟨hc, hrest⟩ := List.forall_mem_cons.1 hchars
    have hstep : scanChar ⟨done, .word acc⟩ c = some ⟨done, .word (c :: acc)⟩ := by
      simp only [scanChar, hc, if_true]
    rw [List.foldlM_cons, hstep, List.reverse_cons, List.append_assoc]
    exact ih hrest (c :: acc)

theorem Settled.scanChar (h : Settled done s) (hc : isWordChar c = false) :
    scanChar s c = startAt done c := by
  cases h with
  | between => rfl
  | word => simp only [Token.scanChar, hc, Bool.false_eq_true, if_false]

namespace Tokenizes

theorem scan? (h : Tokenizes cs tokens) : scan? cs = some tokens := by
  obtain ⟨s, hs, hsettled⟩ := h []
  rw [Token.scan?, hs]
  change finish s = _
  rw [← tokens.reverse_reverse]
  rw [List.append_nil] at hsettled
  generalize tokens.reverse = reversed at *
  cases hsettled with
  | between => rfl
  | word => rfl

protected theorem nil : Tokenizes [] [] := fun _ => ⟨_, rfl, .between⟩

theorem mark (hc : mark? c = some token) (h : Tokenizes rest tokens) :
    Tokenizes (c :: rest) (token :: tokens) := by
  intro done
  obtain ⟨s, hs, hsettled⟩ := h (token :: done)
  rw [List.reverse_cons, List.append_assoc]
  refine ⟨s, ?_, hsettled⟩
  rw [List.foldlM_cons]
  change (startAt done c).bind _ = _
  rw [startAt_mark hc, Option.bind_some, hs]

theorem blanks (hcs : Blanks cs) (h : Tokenizes rest tokens) : Tokenizes (cs ++ rest) tokens := by
  induction cs with
  | nil => exact h
  | cons c cs ih =>
    obtain ⟨hc, hrest⟩ := List.forall_mem_cons.1 hcs
    intro done
    obtain ⟨s, hs, hsettled⟩ := ih hrest done
    refine ⟨s, ?_, hsettled⟩
    have hstep : startAt done c = some ⟨done, .between⟩ := by
      rw [startAt, if_pos (isBlank_iff.2 hc)]
    rw [List.cons_append, List.foldlM_cons]
    change (startAt done c).bind _ = _
    rw [hstep, Option.bind_some, hs]

theorem literal (hcs : Literal cs units) (h : Tokenizes rest tokens) :
    Tokenizes ('"' :: (cs ++ '"' :: rest)) (.string (textOf? units.reverse) :: tokens) := by
  intro done
  obtain ⟨s, hs, hsettled⟩ := h (.string (textOf? units.reverse) :: done)
  rw [List.reverse_cons, List.append_assoc]
  refine ⟨s, ?_, hsettled⟩
  have hopen : scanChar ⟨done, .between⟩ '"' = some ⟨done, .string []⟩ := rfl
  have hclose : scanChar ⟨done, .string units.reverse⟩ '"' =
      some ⟨.string (textOf? units.reverse) :: done, .between⟩ := rfl
  rw [List.foldlM_cons, hopen]
  change List.foldlM scanChar ⟨done, .string []⟩ (cs ++ '"' :: rest) = _
  rw [List.foldlM_append, foldlM_literal hcs, List.append_nil]
  change List.foldlM scanChar ⟨done, .string units.reverse⟩ ('"' :: rest) = _
  rw [List.foldlM_cons, hclose]
  exact hs

theorem word (hne : chars ≠ []) (hchars : ∀ c ∈ chars, isWordChar c = true) :
    Tokenizes chars [.word chars] := by
  intro done
  cases chars with
  | nil => exact absurd rfl hne
  | cons c chars =>
    obtain ⟨hc, hrest⟩ := List.forall_mem_cons.1 hchars
    have hsettled : Settled (.word (chars.reverse ++ [c]).reverse :: done)
        ⟨done, .word (chars.reverse ++ [c])⟩ := .word
    rw [List.reverse_append, List.reverse_reverse] at hsettled
    refine ⟨_, ?_, hsettled⟩
    rw [List.foldlM_cons]
    change (startAt done c).bind _ = _
    rw [startAt_word hc, Option.bind_some, foldlM_word hrest]

/-- Texts are scanned one after the other if no word runs into the second one. -/
theorem append (h : Tokenizes cs tokens) (hc : isWordChar c = false)
    (hrest : Tokenizes (c :: rest) more) : Tokenizes (cs ++ c :: rest) (tokens ++ more) := by
  intro done
  obtain ⟨s, hs, hsettled⟩ := h done
  obtain ⟨s', hs', hsettled'⟩ := hrest (tokens.reverse ++ done)
  rw [List.reverse_append, List.append_assoc]
  refine ⟨s', ?_, hsettled'⟩
  rw [List.foldlM_append, hs]
  change List.foldlM scanChar s (c :: rest) = _
  rw [← hs', List.foldlM_cons, List.foldlM_cons, hsettled.scanChar hc]
  rfl

theorem trailing (h : Tokenizes cs tokens) (hblanks : Blanks rest) :
    Tokenizes (cs ++ rest) tokens := by
  cases rest with
  | nil => rwa [List.append_nil]
  | cons c rest =>
    have hc := isWordChar_of_blank (hblanks c List.mem_cons_self)
    have hnothing := Tokenizes.nil.blanks hblanks
    rw [List.append_nil] at hnothing
    rw [← List.append_nil tokens]
    exact h.append hc hnothing

end Tokenizes
end Token
end Datagram.Json
