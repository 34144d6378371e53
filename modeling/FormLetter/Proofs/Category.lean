import FormLetter.Proofs.Except
import FormLetter.Proofs.Recasing
import FormLetter.Proofs.Respacing
import FormLetter.Service.Templates

/-!
# Categories by name

A category is asked for by its label, with any blanks around it and with its letters in any case. To
ask for nothing is to ask for the category of last resort. Any other text names no category, and is
kept as it was given. What is found under a text is found again under its own label.
-/

namespace FormLetter

/-! ## Blanks are no letters -/

theorem isBlank_eq_false_of_toNat {c : Char} (hleast : 65 ≤ c.toNat) (hgreatest : c.toNat ≤ 122) :
    isBlank c = false := by
  simp only [isBlank, Bool.or_eq_false_iff, Bool.and_eq_false_iff, decide_eq_false_iff_not,
    beq_eq_false_iff_ne]
  omega

theorem isBlank_toLower (c : Char) : isBlank c.toLower = isBlank c := by
  by_cases hupper : c.isUpper = true
  · obtain ⟨hleast, hgreatest⟩ := isUpper_iff_toNat.mp hupper
    have hlower := toNat_toLower_of_isUpper hupper
    rw [isBlank_eq_false_of_toNat (by omega) (by omega),
      isBlank_eq_false_of_toNat hleast (by omega)]
  · rw [toLower_of_not_isUpper hupper]

theorem trimChars_map_toLower (text : List Char) :
    trimChars (text.map Char.toLower) = (trimChars text).map Char.toLower := by
  have hblank : isBlank ∘ Char.toLower = isBlank := funext isBlank_toLower
  have hdrop : ∀ text : List Char, (text.map Char.toLower).dropWhile isBlank =
      (text.dropWhile isBlank).map Char.toLower := by
    intro text
    rw [List.dropWhile_map, hblank]
  rw [trimChars, hdrop, ← List.map_reverse, hdrop, ← List.map_reverse, trimChars]

/-! ## Labels -/

namespace Category

/-- The text is the label of the category, but for the blanks around it and the case of letters. -/
def IsCalled (category : Category) (text : String) : Prop :=
  Recased (trimChars text.toList) category.label.toList

theorem foldCase_trim (text : String) :
    foldCase (trim text) = (trimChars text.toList).map Char.toLower := by
  rw [foldCase, trim, String.toList_ofList]

/-- Neither the case of letters nor blanks around the text are left in what a label is compared
with. -/
theorem foldCase_trim_eq {text other : String} {core : List Char}
    (hcore : Recased text.toList core) (hother : Padded core other.toList) :
    foldCase (trim other) = foldCase (trim text) := by
  rw [foldCase_trim, foldCase_trim, hother.trimChars_eq, ← trimChars_map_toLower,
    ← trimChars_map_toLower, recased_iff.mp hcore]

theorem isBlankText_iff_foldCase {text : String} :
    IsBlankText text ↔ foldCase (trim text) = [] := by
  rw [foldCase_trim, List.map_eq_nil_iff, trimChars_eq_nil, IsBlankText]

theorem isCalled_iff {category : Category} {text : String} :
    category.IsCalled text ↔ foldCase category.label = foldCase (trim text) := by
  rw [IsCalled, recased_iff, foldCase_trim, eq_comm, foldCase]

theorem mem_all (category : Category) : category ∈ all := by
  cases category <;> decide

theorem eq_of_foldCase_label_eq {left right : Category}
    (h : foldCase left.label = foldCase right.label) : left = right := by
  have hnodup : (all.map fun category => foldCase category.label).Nodup := by decide +kernel
  exact List.inj_on_of_nodup_map hnodup (mem_all left) (mem_all right) h

theorem isCalled_label (category : Category) : category.IsCalled category.label := by
  rw [isCalled_iff]
  cases category <;> decide +kernel

theorem ofLabel?_eq_some_iff {text : String} {category : Category} :
    ofLabel? text = some category ↔ category.IsCalled text := by
  rw [isCalled_iff]
  constructor
  · intro h
    exact beq_iff_eq.mp (List.find?_some h :)
  · intro h
    cases hfind : ofLabel? text with
    | none =>
        have hnone := List.find?_eq_none.mp hfind category (mem_all category)
        exact absurd (beq_iff_eq.mpr h) hnone
    | some found =>
        have hfound : foldCase found.label = foldCase (trim text) :=
          beq_iff_eq.mp (List.find?_some hfind :)
        rw [eq_of_foldCase_label_eq (hfound.trans h.symm)]

theorem IsCalled.not_isBlankText {category : Category} {text : String}
    (h : category.IsCalled text) : ¬IsBlankText text := by
  intro hblank
  rw [IsCalled, trimChars_eq_nil.mpr hblank] at h
  have hempty : category.label.toList = [] := List.forall₂_nil_left_iff.mp h
  cases category <;> cases hempty

/-- What is asked for: a category by its label, or the one of last resort by nothing or blanks. -/
inductive AskedFor : Option String → Category → Prop where
  | absent : AskedFor none .other
  | blank {text : String} (blank : IsBlankText text) : AskedFor (some text) .other
  | label {text : String} {category : Category} (called : category.IsCalled text) :
      AskedFor (some text) category

theorem AskedFor.congr {text other : String} (h : foldCase (trim other) = foldCase (trim text))
    {category : Category} (hasked : AskedFor (some text) category) :
    AskedFor (some other) category := by
  cases hasked with
  | blank hblank =>
      rw [isBlankText_iff_foldCase, ← h, ← isBlankText_iff_foldCase] at hblank
      exact .blank hblank
  | label hcalled =>
      rw [isCalled_iff, ← h, ← isCalled_iff] at hcalled
      exact .label hcalled

end Category

open Category

namespace CategoryChoice

theorem ofText_of_isBlankText {text : String} (h : IsBlankText text) :
    ofText (some text) = .known .other :=
  if_pos h

theorem ofText_of_not_isBlankText {text : String} (h : ¬IsBlankText text) :
    ofText (some text) = (ofLabel? text).elim (.raw text) .known := by
  rw [ofText, if_neg h]
  cases ofLabel? text <;> rfl

theorem ofText_of_isCalled {text : String} {category : Category} (h : category.IsCalled text) :
    ofText (some text) = .known category := by
  rw [ofText_of_not_isBlankText h.not_isBlankText, ofLabel?_eq_some_iff.mpr h, Option.elim_some]

theorem ofText_of_askedFor {given : Option String} {category : Category}
    (h : AskedFor given category) : ofText given = .known category := by
  cases h with
  | absent => rfl
  | blank hblank => exact ofText_of_isBlankText hblank
  | label hcalled => exact ofText_of_isCalled hcalled

/-- Either a category is asked for and chosen, or the text is kept. -/
theorem ofText_cases (given : Option String) :
    (∃ category, AskedFor given category ∧ ofText given = .known category) ∨
      ∃ text, given = some text ∧ (∀ category, ¬AskedFor given category) ∧
        ofText given = .raw text := by
  cases given with
  | none => exact Or.inl ⟨.other, .absent, rfl⟩
  | some text =>
      by_cases hblank : IsBlankText text
      · exact Or.inl ⟨.other, .blank hblank, ofText_of_isBlankText hblank⟩
      · rw [ofText_of_not_isBlankText hblank]
        cases hlabel : ofLabel? text with
        | some category =>
            exact Or.inl ⟨category, .label (ofLabel?_eq_some_iff.mp hlabel), rfl⟩
        | none =>
            refine Or.inr ⟨text, rfl, fun category hasked => ?_, rfl⟩
            cases hasked with
            | blank hempty => exact hblank hempty
            | label hcalled =>
                rw [ofLabel?_eq_some_iff.mpr hcalled] at hlabel
                cases hlabel

theorem ofText_eq_known_iff {given : Option String} {category : Category} :
    ofText given = .known category ↔ AskedFor given category := by
  refine ⟨fun h => ?_, ofText_of_askedFor⟩
  rcases ofText_cases given with ⟨chosen, hasked, hchosen⟩ | ⟨text, -, -, hraw⟩
  · rw [hchosen] at h
    cases h
    exact hasked
  · rw [hraw] at h
    cases h

theorem ofText_eq_raw_iff {given : Option String} {text : String} :
    ofText given = .raw text ↔ given = some text ∧ ∀ category, ¬AskedFor given category := by
  rcases ofText_cases given with ⟨chosen, hasked, hchosen⟩ | ⟨kept, rfl, hnone, hraw⟩
  · rw [hchosen]
    exact iff_of_false (fun h => nomatch h) fun h => h.2 chosen hasked
  · rw [hraw, CategoryChoice.raw.injEq, Option.some.injEq]
    exact (and_iff_left hnone).symm

theorem ofText_text (given : Option String) : ofText (some (ofText given).text) = ofText given := by
  rcases ofText_cases given with ⟨category, -, hchosen⟩ | ⟨text, rfl, -, hraw⟩
  · rw [hchosen]
    exact ofText_of_isCalled category.isCalled_label
  · rw [hraw]
    exact hraw

theorem known?_eq_ok_iff {choice : CategoryChoice} {category : Category} :
    choice.known? = .ok category ↔ choice = .known category := by
  cases choice with
  | known chosen => rw [known?, Except.ok.injEq, known.injEq]
  | raw text => exact iff_of_false (fun h => nomatch h) fun h => nomatch h

theorem known?_eq_error_iff {choice : CategoryChoice} {text : String} :
    choice.known? = .error text ↔ choice = .raw text := by
  cases choice with
  | known chosen => exact iff_of_false (fun h => nomatch h) fun h => nomatch h
  | raw kept => rw [known?, Except.error.injEq, raw.injEq]

end CategoryChoice

namespace Templates

theorem chooseCategory_eq_ok_iff {given : Option String} {category : Category} :
    chooseCategory given = .ok category ↔ AskedFor given category := by
  rw [chooseCategory, except_mapError_eq_ok_iff, CategoryChoice.known?_eq_ok_iff,
    CategoryChoice.ofText_eq_known_iff]

theorem chooseCategory_eq_error_iff {given : Option String} {failure : Failure} :
    chooseCategory given = .error failure ↔
      ∃ text, CategoryChoice.ofText given = .raw text ∧
        failure = .invalidCategory text Category.allowed := by
  rw [chooseCategory, except_mapError_eq_error_iff]
  simp only [CategoryChoice.known?_eq_error_iff]

end Templates

namespace CategoryChoice

/-- **A category is known by its label.** A category is chosen exactly when it is asked for, and any
other text is kept as it is. What has been chosen or kept is chosen or kept again under its own
text. Texts that differ in the case of letters and in blanks around them ask for the same category
or all for none. Just the known categories pass, and of a text that is kept the complaint quotes
all. -/
theorem choice_settled_by_label :
    (∀ given category, ofText given = .known category ↔ AskedFor given category) ∧
    (∀ given text, ofText given = .raw text ↔
      given = some text ∧ ∀ category, ¬AskedFor given category) ∧
    (∀ text (left right : Category), left.IsCalled text → right.IsCalled text → left = right) ∧
    (∀ given, ofText (some (ofText given).text) = ofText given) ∧
    (∀ (text other : String) core, Recased text.toList core → Padded core other.toList →
      (∃ category, ofText (some text) = .known category ∧ ofText (some other) = .known category) ∨
        ofText (some text) = .raw text ∧ ofText (some other) = .raw other) ∧
    (∀ (choice : CategoryChoice) category,
      choice.known? = .ok category ↔ choice = .known category) ∧
    ∀ given,
      (∀ category, Templates.chooseCategory given = .ok category ↔
        ofText given = .known category) ∧
      ∀ failure, Templates.chooseCategory given = .error failure ↔
        ∃ text, ofText given = .raw text ∧ failure = .invalidCategory text Category.allowed := by
  refine ⟨fun _ _ => ofText_eq_known_iff, fun _ _ => ofText_eq_raw_iff, fun text left right => ?_,
    ofText_text, fun text other core hcore hother => ?_, fun _ _ => known?_eq_ok_iff, fun given =>
    ⟨fun _ => ?_, fun _ => Templates.chooseCategory_eq_error_iff⟩⟩
  · intro hleft hright
    rw [isCalled_iff] at hleft hright
    exact eq_of_foldCase_label_eq (hleft.trans hright.symm)
  · have heq := foldCase_trim_eq hcore hother
    rcases ofText_cases (some text) with ⟨category, hasked, hchosen⟩ | ⟨kept, hkept, hnone, hraw⟩
    · exact Or.inl ⟨category, hchosen, ofText_of_askedFor (hasked.congr heq)⟩
    · cases hkept
      refine Or.inr ⟨hraw, ofText_eq_raw_iff.mpr ⟨rfl, fun category hasked => ?_⟩⟩
      exact hnone category (hasked.congr heq.symm)
  · rw [Templates.chooseCategory_eq_ok_iff, ofText_eq_known_iff]

/-- Blanks that are no blanks of ASCII are blanks here, but only letters of ASCII have two cases. -/
example : ofText (some "\u2003LANDING page\n") = .known .landingPage ∧
    ofText (some "Bl\u00f6g") = .raw "Bl\u00f6g" := by
  decide +kernel

end CategoryChoice

end FormLetter
