import FormLetter.Content
import FormLetter.Proofs.SortedMap

/-!
# Contents fit for use

The checks accept a content exactly when it has a text, no text of it is blank, and every token in
it names a variable. So in a content that has been checked no token goes without a name, and the
names that are told are those of its tokens.
-/

namespace FormLetter

/-- A check that may refuse first passes when it does not refuse and the rest passes. -/
theorem ite_error_eq_ok_iff {ε α : Type} {P : Prop} [Decidable P] {e : ε} {rest : Except ε α}
    {a : α} : (if P then .error e else rest) = .ok a ↔ ¬P ∧ rest = .ok a := by
  by_cases h : P
  · rw [if_pos h]
    exact iff_of_false (fun heq => nomatch heq) fun hrest => hrest.1 h
  · rw [if_neg h]
    exact (and_iff_right h).symm

theorem Name.not_isDotted_empty : ¬Name.IsDotted "" := by
  decide

theorem checkText_eq_ok_iff {text : String} :
    checkText text = .ok () ↔
      ¬IsBlankText text ∧ ∀ p ∈ Placeholder.all text, Name.IsDotted p.name := by
  rw [checkText, ite_error_eq_ok_iff]
  refine and_congr_right fun _ => ?_
  split
  next p hp =>
    have hname : p.name = "" := by simpa using List.find?_some hp
    refine iff_of_false (fun h => nomatch h) fun h => Name.not_isDotted_empty ?_
    rw [← hname]
    exact h p (List.mem_of_find?_eq_some hp)
  next =>
    split
    next p hp =>
      have hbad : ¬Name.IsDotted p.name := by simpa using List.find?_some hp
      exact iff_of_false (fun h => nomatch h) fun h => hbad (h p (List.mem_of_find?_eq_some hp))
    next hnone =>
      refine iff_of_true rfl fun p hp => ?_
      simpa using List.find?_eq_none.mp hnone p hp

theorem mem_variableNames {text name : String} :
    name ∈ variableNames text ↔ name ≠ "" ∧ ∃ p ∈ Placeholder.all text, p.name = name := by
  rw [variableNames, mem_sortedNames, List.mem_filter, List.mem_map, bne_iff_ne, and_comm]

namespace Content

theorem checkParts_eq_ok_iff {parts : List (Option String × String)} :
    checkParts parts = .ok () ↔ ∀ part ∈ parts, checkText part.2 = .ok () := by
  induction parts with
  | nil => simp [checkParts]
  | cons part rest ih =>
      rw [checkParts, List.forall_mem_cons]
      split
      next hok => rw [ih, hok, eq_self_iff_true, true_and]
      next fault hfault =>
        rw [hfault]
        exact iff_of_false (fun h => nomatch h) fun h => nomatch h.1

theorem check_eq_ok_iff {content : Content} :
    content.check = .ok () ↔
      content.parts ≠ [] ∧ ∀ part ∈ content.parts, checkText part.2 = .ok () := by
  rw [check, ite_error_eq_ok_iff, checkParts_eq_ok_iff, List.isEmpty_iff]

/-- There is a text, none is blank, and every token in one names a variable by dotted words. -/
structure IsFit (content : Content) : Prop where
  parts_ne_nil : content.parts ≠ []
  not_blank : ∀ part ∈ content.parts, ¬IsBlankText part.2
  isDotted_name : ∀ part ∈ content.parts, ∀ p ∈ Placeholder.all part.2, Name.IsDotted p.name

/-- The checks refuse no content that is fit, and let none pass that is not. -/
theorem check_eq_ok_iff_isFit {content : Content} : content.check = .ok () ↔ content.IsFit := by
  rw [check_eq_ok_iff]
  constructor
  · rintro ⟨hne, hparts⟩
    exact ⟨hne, fun part hpart => (checkText_eq_ok_iff.mp (hparts part hpart)).1,
      fun part hpart => (checkText_eq_ok_iff.mp (hparts part hpart)).2⟩
  · rintro ⟨hne, hblank, hdotted⟩
    exact ⟨hne, fun part hpart => checkText_eq_ok_iff.mpr ⟨hblank part hpart, hdotted part hpart⟩⟩

theorem mem_variableNames {content : Content} {name : String} :
    name ∈ content.variableNames ↔
      name ≠ "" ∧ ∃ part ∈ content.parts, ∃ p ∈ Placeholder.all part.2, p.name = name := by
  rw [variableNames, mem_sortedNames, List.mem_flatMap]
  simp only [FormLetter.mem_variableNames]
  constructor
  · rintro ⟨part, hpart, hne, hp⟩
    exact ⟨hne, part, hpart, hp⟩
  · rintro ⟨hne, part, hpart, hp⟩
    exact ⟨part, hpart, hne, hp⟩

/-- In a fit content the name of every token is told. -/
theorem IsFit.name_mem_variableNames {content : Content} (h : content.IsFit)
    {part : Option String × String} (hpart : part ∈ content.parts) {p : Placeholder}
    (hp : p ∈ Placeholder.all part.2) : p.name ∈ content.variableNames := by
  have hne : p.name ≠ "" := fun heq =>
    Name.not_isDotted_empty (heq ▸ h.isDotted_name part hpart p hp)
  exact mem_variableNames.mpr ⟨hne, part, hpart, p, hp, rfl⟩

end Content

end FormLetter
