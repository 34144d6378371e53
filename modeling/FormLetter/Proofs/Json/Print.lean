import FormLetter.Json.Value
import FormLetter.Proofs.Integer
import FormLetter.Proofs.Json.Scan

/-!
# Printing values

The compact form of a value is JSON, and spells the value wherever it stands.
-/

namespace FormLetter.Json

/-- The text of the value spells the node, whatever comes after it. -/
def Prints (value : Value) (node : Node) : Prop :=
  ∀ rest, Grammar.Value (value.chars.map .char ++ rest) node rest

theorem Prints.spells {value : Value} {node : Node} (h : Prints value node) :
    Spells value.text node := by
  have hvalue := h []
  rw [List.append_nil] at hvalue
  rw [Spells, Symbol.ofText, Value.text, String.toList_ofList]
  exact .mk (.refl _) hvalue (.refl [])

/-! ## Strings -/

namespace Grammar

theorem hexCode?_control : ∀ code < 0x20,
    hexCode? (.char '0') (.char '0') (.char (Nat.digitChar (code / 16)))
      (.char (Nat.digitChar (code % 16))) = some code := by
  decide

theorem character_escapeChar (c : Char) (rest : List Symbol) :
    Character ((escapeChar c).map .char ++ rest) c rest := by
  by_cases hquote : c = '"'
  · exact hquote ▸ .escaped (by decide)
  by_cases hbackslash : c = '\\'
  · exact hbackslash ▸ .escaped (by decide)
  by_cases hbackspace : c = '\x08'
  · exact hbackspace ▸ .escaped (by decide)
  by_cases htab : c = '\t'
  · exact htab ▸ .escaped (by decide)
  by_cases hnewline : c = '\n'
  · exact hnewline ▸ .escaped (by decide)
  by_cases hformFeed : c = '\x0c'
  · exact hformFeed ▸ .escaped (by decide)
  by_cases hreturn : c = '\r'
  · exact hreturn ▸ .escaped (by decide)
  simp only [escapeChar, if_neg hquote, if_neg hbackslash, if_neg hbackspace, if_neg htab,
    if_neg hnewline, if_neg hformFeed, if_neg hreturn]
  split
  next hcontrol => exact .code (hexCode?_control c.toNat hcontrol)
  next hcontrol => exact .plain (Nat.not_lt.mp hcontrol) hquote hbackslash

theorem characters_flatMap_escapeChar (chars : List Char) (rest : List Symbol) :
    Characters ((chars.flatMap escapeChar ++ ['"']).map .char ++ rest) chars rest := by
  induction chars with
  | nil => exact .done
  | cons c chars ih =>
      rw [List.flatMap_cons, List.append_assoc, List.map_append, List.append_assoc]
      exact .cons (character_escapeChar c _) ih

end Grammar

theorem Prints.string (text : String) : Prints (.string text) (.string (.ok text)) := by
  intro rest
  have hstring := Grammar.Value.string (Grammar.characters_flatMap_escapeChar text.toList rest)
  rw [String.ofList_toList] at hstring
  exact hstring

/-! ## Integers -/

/-- An integer, written without a fraction and without an exponent. -/
def Numeral.ofInt (value : Int) : Numeral where
  negative := value < 0
  integral := true
  magnitude := ⟨value.natAbs, 0⟩
  exponent := 0

theorem Numeral.ofInt_ofNat (n : Nat) : ofInt (.ofNat n) = ⟨false, true, ⟨n, 0⟩, 0⟩ := by
  have hnonnegative : ¬Int.ofNat n < 0 := Int.not_lt.mpr (Int.natCast_nonneg n)
  rw [ofInt, decide_eq_false hnonnegative]
  rfl

theorem Numeral.ofInt_negSucc (n : Nat) : ofInt (.negSucc n) = ⟨true, true, ⟨n + 1, 0⟩, 0⟩ := by
  rw [ofInt, decide_eq_true (Int.negSucc_lt_zero n)]
  rfl

theorem Numeral.number?_ofInt {value : Int} (hleast : -(2 ^ 63 : Int) ≤ value)
    (hgreatest : value < 2 ^ 64) : (ofInt value).number? = some (.integer value) := by
  cases value with
  | ofNat n =>
      have hfits : n < Nat.pow 2 64 := by
        have hpow : Nat.pow 2 64 = 18446744073709551616 := rfl
        rw [Int.ofNat_eq_natCast] at hgreatest
        omega
      rw [ofInt_ofNat, number?]
      exact if_pos (decide_eq_true hfits)
  | negSucc n =>
      have hfits : n + 1 ≤ Nat.pow 2 63 := by
        have hpow : Nat.pow 2 63 = 9223372036854775808 := rfl
        rw [Int.negSucc_eq] at hleast
        omega
      rw [ofInt_negSucc, number?]
      refine (if_neg Bool.false_ne_true).trans (if_pos ?_)
      rw [Bool.and_eq_true]
      exact ⟨decide_eq_true (Nat.succ_pos n), decide_eq_true hfits⟩

theorem digitsValue_map_char (digits : List Char) :
    digitsValue (digits.map .char) = Nat.ofDigitChars 10 digits 0 := by
  rw [digitsValue, List.foldl_map, Nat.ofDigitChars_eq_foldl]
  rfl

theorem eq_nil_of_toDigits_eq_cons {n : Nat} {more : List Char}
    (h : Nat.toDigits 10 n = '0' :: more) : more = [] := by
  induction n using Nat.strongRecOn generalizing more with
  | ind n ih =>
      rw [Nat.toDigits_eq_if (by decide)] at h
      split at h
      · exact (List.cons.inj h).2.symm
      next hlarge =>
        -- The digits before the last one would be a zero too.
        rcases hfront : Nat.toDigits 10 (n / 10) with _ | ⟨digit, front⟩
        · exact absurd hfront Nat.toDigits_ne_nil
        · rw [hfront, List.cons_append] at h
          rw [(List.cons.inj h).1] at hfront
          rw [ih (n / 10) (by omega) hfront] at hfront
          have hvalue := @Nat.ofDigitChars_ten_toDigits (n / 10)
          rw [hfront] at hvalue
          have hzero : n / 10 = 0 := hvalue.symm
          omega

theorem Grammar.whole_toDigits (n : Nat) : Whole ((Nat.toDigits 10 n).map .char) where
  ne_nil := by simp
  isDigit := by
    simp only [List.mem_map]
    rintro _ ⟨c, hc, rfl⟩
    exact isDigit_of_mem_toDigits hc
  eq_nil_of_zero := by
    intro more hmore
    obtain ⟨digit, digits, hdigits, hdigit, rfl⟩ := List.map_eq_cons_iff.mp hmore
    cases hdigit
    rw [eq_nil_of_toDigits_eq_cons hdigits, List.map_nil]

theorem Grammar.magnitude_toDigits (negative : Bool) (n : Nat) :
    Magnitude negative ((Nat.toDigits 10 n).map .char) ⟨negative, true, ⟨n, 0⟩, 0⟩ := by
  have hmagnitude := @Magnitude.mk negative _ _ _ _ _ (whole_toDigits n) .absent .absent
  simpa [digitsValue_map_char] using hmagnitude

theorem Prints.integer (value : Int) :
    Prints (.number (.integer value)) (.number (.ofInt value)) := by
  intro rest
  refine .number ?_
  cases value with
  | ofNat n =>
      rw [Value.chars, Number.chars, toList_repr_ofNat, Numeral.ofInt_ofNat]
      exact .plain (Grammar.magnitude_toDigits false n)
  | negSucc n =>
      rw [Value.chars, Number.chars, toList_repr_negSucc, Numeral.ofInt_negSucc]
      exact .negative (Grammar.magnitude_toDigits true (n + 1))

/-! ## Objects -/

/-- The members, one by one, print as the nodes under their keys. -/
inductive PrintsMembers :
    List (String × Value) → List (Except Stop String × Node) → Prop where
  | nil : PrintsMembers [] []
  | cons (key : String) {value : Value} {node : Node} {members : List (String × Value)}
      {nodes : List (Except Stop String × Node)} (hvalue : Prints value node)
      (hmembers : PrintsMembers members nodes) :
      PrintsMembers ((key, value) :: members) ((.ok key, node) :: nodes)

theorem Prints.element {value : Value} {node : Node} (h : Prints value node) (rest : List Symbol) :
    Grammar.Element (value.chars.map .char ++ rest) node rest :=
  .mk (.refl _) (h rest) (.refl rest)

theorem Grammar.key_quote (key : String) (rest : List Symbol) :
    Key ((quote key).map .char ++ .char ':' :: rest) key.toList rest :=
  .mk (.refl _) (characters_flatMap_escapeChar key.toList _) (.refl _)

theorem PrintsMembers.members {members : List (String × Value)}
    {nodes : List (Except Stop String × Node)} (h : PrintsMembers members nodes)
    (hne : members ≠ []) (rest : List Symbol) :
    Grammar.Members ((membersChars members ++ ['\x7d']).map .char ++ rest) nodes rest := by
  induction h with
  | nil => exact absurd rfl hne
  | cons key hvalue hmembers ih =>
      have hkey := Grammar.key_quote key
      cases hmembers with
      | nil =>
          have hlast := Grammar.Members.last (hkey _) (hvalue.element (.char '\x7d' :: rest))
          rw [String.ofList_toList] at hlast
          simpa [membersChars] using hlast
      | cons other hother hothers =>
          have hcons :=
            Grammar.Members.cons (hkey _) (hvalue.element _) (ih (List.cons_ne_nil _ _))
          rw [String.ofList_toList] at hcons
          simpa [membersChars] using hcons

theorem Prints.object {members : List (String × Value)} {nodes : List (Except Stop String × Node)}
    (h : PrintsMembers members nodes) : Prints (.object members) (.object nodes none) := by
  intro rest
  cases h with
  | nil => exact .emptyObject (.refl _)
  | cons key hvalue hmembers =>
      have hall := PrintsMembers.cons key hvalue hmembers
      exact .object (hall.members (List.cons_ne_nil _ _) rest)

end FormLetter.Json
