import FormLetter.Proofs.Except
import FormLetter.Text.Integer
import Mathlib.Algebra.Group.Int.Defs

/-!
# Integers in writing

An integer of a range is spelled by digits, with a sign before them or without. A text that spells
one is read as that integer, and of any other text it is told what is wrong with it. An integer is
written with the fewest digits, and so is read back in every range that it lies in.
-/

namespace FormLetter

theorem toList_repr_ofNat (n : Nat) : (Int.ofNat n).repr.toList = Nat.toDigits 10 n := by
  rw [Int.repr_eq_if]
  simp [Nat.repr_eq_ofList_toDigits]

theorem toList_repr_negSucc (n : Nat) :
    (Int.negSucc n).repr.toList = '-' :: Nat.toDigits 10 (n + 1) := by
  rw [Int.repr_eq_if]
  simp [Nat.repr_eq_ofList_toDigits]

theorem isDigit_of_mem_toDigits {n : Nat} {c : Char} (h : c ∈ Nat.toDigits 10 n) :
    c.isDigit = true :=
  Nat.isDigit_of_mem_toDigits (by decide) (by decide) h

/-- Digits that spell a number; there has to be one, and zeros may come first. -/
structure IsNumeral (digits : List Char) (n : Nat) : Prop where
  ne_nil : digits ≠ []
  isDigit : ∀ c ∈ digits, c.isDigit = true
  value : Nat.ofDigitChars 10 digits 0 = n

/-- What is wrong with a text that does not spell a number up to a bound. Reading ends with the
first character that is no digit, or with the digit that takes the number beyond the bound. -/
inductive NumeralFault (bound : Nat) (beyond : IntegerFault) : List Char → IntegerFault → Prop where
  | empty : NumeralFault bound beyond [] .invalidDigit
  | stray {digits rest : List Char} {c : Char} (isDigit : ∀ d ∈ digits, d.isDigit = true)
      (le_bound : Nat.ofDigitChars 10 digits 0 ≤ bound) (not_digit : c.isDigit = false) :
      NumeralFault bound beyond (digits ++ c :: rest) .invalidDigit
  | tooGreat {digits rest : List Char} (isDigit : ∀ d ∈ digits, d.isDigit = true)
      (bound_lt : bound < Nat.ofDigitChars 10 digits 0) :
      NumeralFault bound beyond (digits ++ rest) beyond

theorem IsNumeral.head?_ne {digits : List Char} {n : Nat} (h : IsNumeral digits n) {c : Char}
    (hc : c.isDigit = false) : digits.head? ≠ some c := by
  intro hhead
  rw [h.isDigit c (List.mem_of_mem_head? hhead)] at hc
  exact Bool.noConfusion hc

namespace IntegerRange

/-- The spellings of an integer of the range: digits, with a plus before them or without, or with a
minus if some integers of the range are negative. -/
inductive Spells (range : IntegerRange) : List Char → Int → Prop where
  | unsigned {digits : List Char} {n : Nat} (numeral : IsNumeral digits n)
      (le_greatest : n ≤ range.greatest) : Spells range digits n
  | plus {digits : List Char} {n : Nat} (numeral : IsNumeral digits n)
      (le_greatest : n ≤ range.greatest) : Spells range ('+' :: digits) n
  | minus {digits : List Char} {n : Nat} (negative : range.least < 0)
      (numeral : IsNumeral digits n) (least_le : range.least ≤ -n) :
      Spells range ('-' :: digits) (-n)

/-- Why a text spells no integer of the range. -/
inductive Misspells (range : IntegerRange) : List Char → IntegerFault → Prop where
  | empty : Misspells range [] .empty
  | unsigned {text : List Char} {fault : IntegerFault} (ne_nil : text ≠ [])
      (no_plus : text.head? ≠ some '+') (no_minus : text.head? = some '-' → 0 ≤ range.least)
      (numeral : NumeralFault range.greatest.toNat .tooLarge text fault) :
      Misspells range text fault
  | plus {digits : List Char} {fault : IntegerFault}
      (numeral : NumeralFault range.greatest.toNat .tooLarge digits fault) :
      Misspells range ('+' :: digits) fault
  | minus {digits : List Char} {fault : IntegerFault} (negative : range.least < 0)
      (numeral : NumeralFault (-range.least).toNat .tooSmall digits fault) :
      Misspells range ('-' :: digits) fault

theorem zero_le_greatest_unsigned (bits : Nat) : 0 ≤ (unsigned bits).greatest :=
  Int.le_sub_one_of_lt (Int.natCast_pos.mpr (Nat.two_pow_pos bits))

theorem le_ofDigitChars (digits : List Char) (value : Nat) :
    value ≤ Nat.ofDigitChars 10 digits value := by
  induction digits generalizing value with
  | nil => exact Nat.le_refl value
  | cons c digits ih =>
      rw [Nat.ofDigitChars_cons]
      have hrest := ih (10 * value + (c.toNat - '0'.toNat))
      omega

section Digits

variable {bound value result : Nat} {beyond fault : IntegerFault} {digits rest : List Char}

theorem readDigits_cons_of_isDigit {c : Char} (hdigit : c.isDigit = true)
    (hroom : 10 * value + (c.toNat - '0'.toNat) ≤ bound) :
    readDigits bound beyond value (c :: rest) =
      readDigits bound beyond (10 * value + (c.toNat - '0'.toNat)) rest := by
  rw [readDigits, hdigit]
  exact if_neg (Nat.not_lt.mpr hroom)

theorem readDigits_cons_of_lt {c : Char} (hdigit : c.isDigit = true)
    (hbeyond : bound < 10 * value + (c.toNat - '0'.toNat)) :
    readDigits bound beyond value (c :: rest) = .error beyond := by
  rw [readDigits, hdigit]
  exact if_pos hbeyond

theorem readDigits_cons_of_not_isDigit {c : Char} (hdigit : c.isDigit = false) :
    readDigits bound beyond value (c :: rest) = .error .invalidDigit := by
  rw [readDigits, hdigit]
  rfl

/-- Digits are read past where the number that they spell stays within the bound: so do then the
numbers that the first of them spell. -/
theorem readDigits_append (hdigits : ∀ c ∈ digits, c.isDigit = true)
    (hbound : Nat.ofDigitChars 10 digits value ≤ bound) :
    readDigits bound beyond value (digits ++ rest) =
      readDigits bound beyond (Nat.ofDigitChars 10 digits value) rest := by
  induction digits generalizing value with
  | nil => rfl
  | cons c digits ih =>
      obtain ⟨hdigit, hdigits⟩ := List.forall_mem_cons.mp hdigits
      rw [Nat.ofDigitChars_cons] at hbound ⊢
      have hroom := Nat.le_trans (le_ofDigitChars digits _) hbound
      rw [List.cons_append, readDigits_cons_of_isDigit hdigit hroom, ih hdigits hbound]

theorem readDigits_append_of_lt (hvalue : value ≤ bound)
    (hdigits : ∀ c ∈ digits, c.isDigit = true)
    (hbound : bound < Nat.ofDigitChars 10 digits value) :
    readDigits bound beyond value (digits ++ rest) = .error beyond := by
  induction digits generalizing value with
  | nil => exact absurd hvalue (Nat.not_le.mpr hbound)
  | cons c digits ih =>
      obtain ⟨hdigit, hdigits⟩ := List.forall_mem_cons.mp hdigits
      rw [Nat.ofDigitChars_cons] at hbound
      rw [List.cons_append]
      by_cases hroom : 10 * value + (c.toNat - '0'.toNat) ≤ bound
      · rw [readDigits_cons_of_isDigit hdigit hroom]
        exact ih hroom hdigits hbound
      · exact readDigits_cons_of_lt hdigit (Nat.lt_of_not_le hroom)

/-- A text is all digits within the bound, or there is a first character at which that ends: one
that is no digit, or a digit that takes the number beyond the bound. -/
theorem digits_cases (hvalue : value ≤ bound) (text : List Char) :
    ((∀ c ∈ text, c.isDigit = true) ∧ Nat.ofDigitChars 10 text value ≤ bound) ∨
      (∃ digits c rest, text = digits ++ c :: rest ∧ (∀ d ∈ digits, d.isDigit = true) ∧
        Nat.ofDigitChars 10 digits value ≤ bound ∧ c.isDigit = false) ∨
      ∃ digits rest, text = digits ++ rest ∧ (∀ d ∈ digits, d.isDigit = true) ∧
        bound < Nat.ofDigitChars 10 digits value := by
  -- The number that is spelled so far stays within the bound, so the next character decides.
  induction text generalizing value with
  | nil => exact Or.inl ⟨List.forall_mem_nil _, hvalue⟩
  | cons c text ih =>
      cases hdigit : c.isDigit with
      | false =>
          exact Or.inr (Or.inl ⟨[], c, text, rfl, List.forall_mem_nil _, hvalue, hdigit⟩)
      | true =>
          by_cases hroom : 10 * value + (c.toNat - '0'.toNat) ≤ bound
          · rcases ih hroom with ⟨hdigits, hbound⟩ |
              ⟨digits, d, rest, rfl, hdigits, hbound, hd⟩ | ⟨digits, rest, rfl, hdigits, hbound⟩
            · exact Or.inl ⟨List.forall_mem_cons.mpr ⟨hdigit, hdigits⟩, hbound⟩
            · exact Or.inr (Or.inl ⟨c :: digits, d, rest, rfl,
                List.forall_mem_cons.mpr ⟨hdigit, hdigits⟩, hbound, hd⟩)
            · exact Or.inr (Or.inr ⟨c :: digits, rest, rfl,
                List.forall_mem_cons.mpr ⟨hdigit, hdigits⟩, hbound⟩)
          · exact Or.inr (Or.inr ⟨[c], text, rfl, List.forall_mem_singleton.mpr hdigit,
              Nat.lt_of_not_le hroom⟩)

theorem readMagnitude_eq_readDigits (hne : digits ≠ []) :
    readMagnitude bound beyond digits = readDigits bound beyond 0 digits := by
  rw [readMagnitude, if_neg (mt List.isEmpty_iff.mp hne)]

theorem readMagnitude_of_isNumeral (hnumeral : IsNumeral digits result) (hbound : result ≤ bound) :
    readMagnitude bound beyond digits = .ok result := by
  obtain ⟨hne, hdigits, rfl⟩ := hnumeral
  rw [readMagnitude_eq_readDigits hne, ← List.append_nil digits,
    readDigits_append hdigits hbound, List.append_nil]
  rfl

theorem readMagnitude_of_numeralFault (h : NumeralFault bound beyond digits fault) :
    readMagnitude bound beyond digits = .error fault := by
  cases h with
  | empty => rfl
  | stray hdigits hbound hstray =>
      rw [readMagnitude_eq_readDigits (by simp), readDigits_append hdigits hbound]
      exact readDigits_cons_of_not_isDigit hstray
  | tooGreat hdigits hbound =>
      rw [readMagnitude_eq_readDigits ?_]
      · exact readDigits_append_of_lt (Nat.zero_le bound) hdigits hbound
      · intro hempty
        rw [(List.append_eq_nil_iff.mp hempty).1] at hbound
        exact Nat.not_lt_zero bound hbound

theorem isNumeral_or_numeralFault (bound : Nat) (beyond : IntegerFault) (digits : List Char) :
    (∃ n, IsNumeral digits n ∧ n ≤ bound) ∨ ∃ fault, NumeralFault bound beyond digits fault := by
  by_cases hne : digits = []
  · subst hne
    exact Or.inr ⟨_, .empty⟩
  · rcases digits_cases (Nat.zero_le bound) digits with ⟨hdigits, hbound⟩ |
      ⟨first, c, rest, rfl, hfirst, hbound, hstray⟩ | ⟨first, rest, rfl, hfirst, hbound⟩
    · exact Or.inl ⟨_, ⟨hne, hdigits, rfl⟩, hbound⟩
    · exact Or.inr ⟨_, .stray hfirst hbound hstray⟩
    · exact Or.inr ⟨_, .tooGreat hfirst hbound⟩

end Digits

section Reading

variable {range : IntegerRange} {text digits : List Char} {value : Int} {fault : IntegerFault}

theorem readChars_plus : range.readChars ('+' :: digits) =
    (readMagnitude range.greatest.toNat .tooLarge digits).map Int.ofNat :=
  rfl

theorem readChars_minus (h : range.least < 0) : range.readChars ('-' :: digits) =
    (readMagnitude (-range.least).toNat .tooSmall digits).map fun n : Nat => -(n : Int) := by
  rw [readChars, if_neg (Int.not_le.mpr h)]
  cases readMagnitude (-range.least).toNat .tooSmall digits <;> rfl

/-- A minus that is no sign is a character among others, and no digit. -/
theorem readChars_unsigned (hne : text ≠ []) (hplus : text.head? ≠ some '+')
    (hminus : text.head? = some '-' → 0 ≤ range.least) :
    range.readChars text =
      (readMagnitude range.greatest.toNat .tooLarge text).map Int.ofNat := by
  rw [readChars.eq_def]
  split
  next => exact absurd rfl hne
  next => exact absurd rfl hplus
  next =>
    rw [if_pos (hminus rfl)]
    rfl
  next => rfl

/-- The three ways in which a text that is not empty begins. -/
theorem sign_cases (range : IntegerRange) {text : List Char} (hne : text ≠ []) :
    (∃ digits, text = '+' :: digits) ∨ (range.least < 0 ∧ ∃ digits, text = '-' :: digits) ∨
      (text.head? ≠ some '+' ∧ (text.head? = some '-' → 0 ≤ range.least)) := by
  cases text with
  | nil => exact absurd rfl hne
  | cons c digits =>
      rw [List.head?_cons, ne_eq, Option.some.injEq, Option.some.injEq]
      by_cases hplus : c = '+'
      · exact Or.inl ⟨digits, hplus ▸ rfl⟩
      · by_cases hnegative : range.least < 0
        · by_cases hminus : c = '-'
          · exact Or.inr (Or.inl ⟨hnegative, digits, hminus ▸ rfl⟩)
          · exact Or.inr (Or.inr ⟨hplus, fun h => absurd h hminus⟩)
        · exact Or.inr (Or.inr ⟨hplus, fun _ => Int.not_lt.mp hnegative⟩)

theorem Spells.readChars_eq (h : range.Spells text value) : range.readChars text = .ok value := by
  cases h with
  | @unsigned _ n hnumeral hbound =>
      have hplus : text.head? ≠ some '+' := hnumeral.head?_ne rfl
      have hminus : text.head? ≠ some '-' := hnumeral.head?_ne rfl
      rw [readChars_unsigned hnumeral.ne_nil hplus fun h => absurd h hminus,
        readMagnitude_of_isNumeral hnumeral (by omega)]
      rfl
  | plus hnumeral hbound =>
      rw [readChars_plus, readMagnitude_of_isNumeral hnumeral (by omega)]
      rfl
  | minus hnegative hnumeral hbound =>
      rw [readChars_minus hnegative, readMagnitude_of_isNumeral hnumeral (by omega)]
      rfl

theorem Misspells.readChars_eq (h : range.Misspells text fault) :
    range.readChars text = .error fault := by
  cases h with
  | empty => rfl
  | unsigned hne hplus hminus hnumeral =>
      rw [readChars_unsigned hne hplus hminus, readMagnitude_of_numeralFault hnumeral]
      rfl
  | plus hnumeral =>
      rw [readChars_plus, readMagnitude_of_numeralFault hnumeral]
      rfl
  | minus hnegative hnumeral =>
      rw [readChars_minus hnegative, readMagnitude_of_numeralFault hnumeral]
      rfl

theorem spells_or_misspells (hgreatest : 0 ≤ range.greatest) (text : List Char) :
    (∃ value, range.Spells text value) ∨ ∃ fault, range.Misspells text fault := by
  by_cases hne : text = []
  · subst hne
    exact Or.inr ⟨_, .empty⟩
  · rcases range.sign_cases hne with ⟨digits, rfl⟩ | ⟨hnegative, digits, rfl⟩ | ⟨hplus, hminus⟩
    · rcases isNumeral_or_numeralFault range.greatest.toNat .tooLarge digits with
        ⟨n, hnumeral, hbound⟩ | ⟨fault, hfault⟩
      · exact Or.inl ⟨_, .plus hnumeral (by omega)⟩
      · exact Or.inr ⟨fault, .plus hfault⟩
    · rcases isNumeral_or_numeralFault (-range.least).toNat .tooSmall digits with
        ⟨n, hnumeral, hbound⟩ | ⟨fault, hfault⟩
      · exact Or.inl ⟨_, .minus hnegative hnumeral (by omega)⟩
      · exact Or.inr ⟨fault, .minus hnegative hfault⟩
    · rcases isNumeral_or_numeralFault range.greatest.toNat .tooLarge text with
        ⟨n, hnumeral, hbound⟩ | ⟨fault, hfault⟩
      · exact Or.inl ⟨_, .unsigned hnumeral (by omega)⟩
      · exact Or.inr ⟨fault, .unsigned hne hplus hminus hfault⟩

/-- **A text is read as what it spells, and what is told of all others is what is wrong with
them.** -/
theorem readChars_eq_iff (hgreatest : 0 ≤ range.greatest) (text : List Char) :
    (∀ value, range.readChars text = .ok value ↔ range.Spells text value) ∧
      ∀ fault, range.readChars text = .error fault ↔ range.Misspells text fault :=
  except_eq_iff_of_cases (fun _ => Spells.readChars_eq) (fun _ => Misspells.readChars_eq)
    (spells_or_misspells hgreatest text)

theorem Spells.bounds (hleast : range.least ≤ 0) (hgreatest : 0 ≤ range.greatest)
    (h : range.Spells text value) : range.least ≤ value ∧ value ≤ range.greatest := by
  cases h with
  | unsigned hnumeral hbound => omega
  | plus hnumeral hbound => omega
  | minus hnegative hnumeral hbound => omega

end Reading

end IntegerRange

end FormLetter
