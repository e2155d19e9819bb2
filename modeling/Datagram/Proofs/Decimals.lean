import Mathlib.Data.List.Basic
import Datagram.Address

/-!
# Decimal numbers

Reading digits gives the number that they spell. A spelling without spare zeros is the one that its
number is written with, so that with these kept out reading and writing are inverse to each other.
-/

namespace Datagram

namespace Text

/-- Spells a number as it is written: in digits, at least one, without zeros in front of others. -/
structure Canonical (cs : List Char) : Prop where
  nonempty : cs ≠ []
  digits : ∀ c ∈ cs, c.isDigit = true
  leading : cs.head? = some '0' → cs = ['0']

variable {cs : List Char} {c : Char} {n limit value : Nat}

/-- A run of characters of one kind ends where another kind begins. -/
theorem takeWhile_run {p : Char → Bool} {run rest : List Char} (hrun : ∀ c ∈ run, p c = true)
    (hrest : ∀ c ∈ rest.head?, p c = false) :
    (run ++ rest).takeWhile p = run ∧ (run ++ rest).dropWhile p = rest := by
  rw [List.takeWhile_append_of_pos hrun, List.dropWhile_append_of_pos hrun]
  cases rest with
  | nil => exact ⟨List.append_nil run, rfl⟩
  | cons c rest =>
    have hc : ¬ p c = true := Bool.eq_false_iff.1 (hrest c rfl)
    rw [List.takeWhile_cons_of_neg hc, List.dropWhile_cons_of_neg hc]
    exact ⟨List.append_nil run, rfl⟩

theorem digit_lt_of_isDigit (h : c.isDigit = true) : c.toNat - '0'.toNat < 10 := by
  have hnine : c.toNat ≤ 57 := (Char.isDigit_iff_toNat.1 h).2
  change c.toNat - 48 < 10
  omega

theorem digitChar_of_isDigit (h : c.isDigit = true) : (c.toNat - '0'.toNat).digitChar = c := by
  have hzero : 48 ≤ c.toNat := (Char.isDigit_iff_toNat.1 h).1
  rw [← Char.toNat_inj, Nat.toNat_digitChar_of_lt_ten (digit_lt_of_isDigit h)]
  exact Nat.add_sub_cancel' hzero

theorem digitValue?_of_isDigit (h : c.isDigit = true) :
    digitValue? 10 c = some (c.toNat - '0'.toNat) := by
  simp only [digitValue?, h, if_true, Option.filter, decide_eq_true (digit_lt_of_isDigit h)]

/-- Letters are digits of higher bases only. -/
theorem digitValue?_of_not_isDigit (h : ¬ c.isDigit = true) : digitValue? 10 c = none := by
  simp only [digitValue?, if_neg h]
  split
  · simp [Option.filter]
  · split
    · simp [Option.filter]
    · rfl

theorem readDigitsFrom_eq_some_iff : readDigitsFrom 10 value cs = some n ↔
    (∀ c ∈ cs, c.isDigit = true) ∧ Nat.ofDigitChars 10 cs value = n := by
  induction cs generalizing value with
  | nil => simp [readDigitsFrom]
  | cons c cs ih =>
    by_cases hc : c.isDigit = true
    · rw [readDigitsFrom, digitValue?_of_isDigit hc]
      change readDigitsFrom 10 _ cs = some n ↔ _
      rw [ih, List.forall_mem_cons, Nat.ofDigitChars_cons, Nat.mul_comm]
      exact and_congr_left fun _ => (and_iff_right hc).symm
    · rw [readDigitsFrom, digitValue?_of_not_isDigit hc, List.forall_mem_cons]
      exact ⟨nofun, fun h => absurd h.1.1 hc⟩

theorem readDigits_eq_some_iff : readDigits 10 cs = some n ↔
    cs ≠ [] ∧ (∀ c ∈ cs, c.isDigit = true) ∧ Nat.ofDigitChars 10 cs 0 = n := by
  cases cs with
  | nil => exact ⟨nofun, fun h => absurd rfl h.1⟩
  | cons c cs =>
    rw [readDigits, readDigitsFrom_eq_some_iff]
    · exact (and_iff_right (List.cons_ne_nil c cs)).symm
    · exact List.cons_ne_nil c cs

/-- Digits that follow a number which is not zero are part of how the whole is written. -/
theorem toDigits_append (hcs : ∀ c ∈ cs, c.isDigit = true) (hvalue : 0 < value) :
    Nat.toDigits 10 value ++ cs = Nat.toDigits 10 (Nat.ofDigitChars 10 cs value) := by
  induction cs generalizing value with
  | nil => rw [List.append_nil, Nat.ofDigitChars_nil]
  | cons c cs ih =>
    obtain ⟨hc, hrest⟩ := List.forall_mem_cons.1 hcs
    have hdigit := digit_lt_of_isDigit hc
    have hwritten := Nat.toDigits_append_toDigits (b := 10) (by decide) hvalue hdigit
    rw [Nat.toDigits_of_lt_base hdigit, digitChar_of_isDigit hc] at hwritten
    calc
      Nat.toDigits 10 value ++ c :: cs = Nat.toDigits 10 value ++ [c] ++ cs := by
        rw [List.append_assoc, List.singleton_append]
      _ = Nat.toDigits 10 (10 * value + (c.toNat - '0'.toNat)) ++ cs := by rw [hwritten]
      _ = Nat.toDigits 10 (Nat.ofDigitChars 10 (c :: cs) value) := by
        rw [ih hrest (by omega), Nat.ofDigitChars_cons]

/-- A number is written as it is spelled without spare zeros. -/
theorem Canonical.toDigits_eq (h : Canonical cs) :
    Nat.toDigits 10 (Nat.ofDigitChars 10 cs 0) = cs := by
  cases cs with
  | nil => exact absurd rfl h.nonempty
  | cons c cs =>
    obtain ⟨hc, hrest⟩ := List.forall_mem_cons.1 h.digits
    have hfirst : Nat.toDigits 10 (c.toNat - '0'.toNat) = [c] := by
      rw [Nat.toDigits_of_lt_base (digit_lt_of_isDigit hc), digitChar_of_isDigit hc]
    rw [Nat.ofDigitChars_cons, Nat.mul_zero, Nat.zero_add]
    by_cases hzero : c.toNat - '0'.toNat = 0
    · have hchar : c = '0' := by rw [← digitChar_of_isDigit hc, hzero]; rfl
      obtain rfl : cs = [] := (List.cons.inj (h.leading (congrArg some hchar))).2
      exact hfirst
    · rw [← toDigits_append hrest (Nat.pos_of_ne_zero hzero), hfirst, List.singleton_append]

theorem canonical_toDigits (n : Nat) : Canonical (Nat.toDigits 10 n) where
  nonempty := Nat.toDigits_ne_nil
  digits c hc := Nat.isDigit_of_mem_toDigits (by decide) (by decide) hc
  leading := by
    induction n using Nat.strongRecOn with
    | ind n ih =>
      intro hzero
      by_cases hn : n < 10
      · rw [Nat.toDigits_of_lt_base hn] at hzero ⊢
        rw [Option.some.inj hzero]
      · -- the digits in front of the last one are those of a smaller number, which is not zero
        have hle : 10 ≤ n := Nat.le_of_not_lt hn
        have hsmaller : n / 10 < n := Nat.div_lt_self (by omega) (by decide)
        rw [Nat.toDigits_of_base_le (by decide) hle,
          List.head?_append_of_ne_nil _ Nat.toDigits_ne_nil] at hzero
        have hfront := ih (n / 10) hsmaller hzero
        have hvalue := congrArg (Nat.ofDigitChars 10 · 0) hfront
        rw [Nat.ofDigitChars_ten_toDigits] at hvalue
        change n / 10 = 0 at hvalue
        omega

theorem readDigits_toDigits (n : Nat) : readDigits 10 (Nat.toDigits 10 n) = some n :=
  readDigits_eq_some_iff.2 ⟨(canonical_toDigits n).nonempty, (canonical_toDigits n).digits,
    Nat.ofDigitChars_ten_toDigits⟩

theorem Canonical.startsWithSpareZero (h : Canonical cs) : startsWithSpareZero cs = false := by
  unfold Text.startsWithSpareZero
  split
  · cases h.leading rfl
  · rfl

theorem Canonical.of_digits (hne : cs ≠ []) (hdigits : ∀ c ∈ cs, c.isDigit = true)
    (hspare : Text.startsWithSpareZero cs = false) : Canonical cs where
  nonempty := hne
  digits := hdigits
  leading hzero := by
    match cs, hspare with
    | [c], _ => rw [Option.some.inj hzero]
    | c :: d :: rest, hspare =>
      obtain rfl : c = '0' := Option.some.inj hzero
      cases hspare

/-- The numbers that are read are those that are written so. -/
theorem decimalAtMost_eq_some_iff :
    decimalAtMost limit cs = some n ↔ cs = Nat.toDigits 10 n ∧ n ≤ limit := by
  rw [decimalAtMost]
  constructor
  · intro h
    split at h
    · cases h
    · rename_i hspare
      obtain ⟨hread, hn⟩ := Option.filter_eq_some_iff.1 h
      obtain ⟨hne, hdigits, hvalue⟩ := readDigits_eq_some_iff.1 hread
      have hcanonical := Canonical.of_digits hne hdigits (Bool.eq_false_iff.2 hspare)
      rw [← hvalue, hcanonical.toDigits_eq, hvalue]
      exact ⟨rfl, of_decide_eq_true hn⟩
  · rintro ⟨rfl, hn⟩
    rw [(canonical_toDigits n).startsWithSpareZero, if_neg Bool.false_ne_true,
      Option.filter_eq_some_iff]
    exact ⟨readDigits_toDigits n, decide_eq_true hn⟩

end Text
end Datagram
