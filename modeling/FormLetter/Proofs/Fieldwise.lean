import FormLetter.Proofs.ByteOrder
import FormLetter.Proofs.Fitness
import FormLetter.Render

/-!
# Contents field by field

What is done with a content is done with each of its texts alone. The texts are looked at in the
order of the bytes of their names, so of several faulty texts the one whose name comes first is told
of, and what is wrong with it, whatever is wrong with those after it.
-/

namespace FormLetter

theorem sortedNames_of_sorted {names : List String}
    (h : names.Pairwise (fun left right => left < right)) : sortedNames names = names :=
  eq_of_sorted_of_mem_iff (pairwise_sortedNames names) h fun _ => mem_sortedNames

namespace Content

/-- The bytes of the name under which a text stands. -/
def nameBytes (part : Option String × String) : List UInt8 :=
  Utf8.encode (part.1.getD "")

theorem pairwise_nameBytes (content : Content) :
    content.parts.Pairwise fun earlier later => nameBytes earlier < nameBytes later := by
  cases content with
  | plain text => exact List.pairwise_singleton _ _
  | fields texts => exact List.pairwise_map.mpr (texts.sorted.imp Utf8.encode_lt_encode)

theorem checkParts_append {before parts : List (Option String × String)}
    (h : ∀ other ∈ before, checkText other.2 = .ok ()) :
    checkParts (before ++ parts) = checkParts parts := by
  induction before with
  | nil => rfl
  | cons head before ih =>
      obtain ⟨hhead, hbefore⟩ := List.forall_mem_cons.mp h
      rw [List.cons_append, checkParts, hhead]
      exact ih hbefore

theorem checkParts_eq_error_iff {parts : List (Option String × String)} {fault : TextFault} :
    checkParts parts = .error fault ↔
      ∃ before part after, parts = before ++ part :: after ∧ checkText part.2 = .error fault ∧
        ∀ other ∈ before, checkText other.2 = .ok () := by
  constructor
  · intro h
    induction parts with
    | nil => cases h
    | cons head rest ih =>
        rw [checkParts] at h
        split at h
        next hhead =>
          obtain ⟨before, part, after, rfl, hfault, hbefore⟩ := ih h
          exact ⟨head :: before, part, after, rfl, hfault,
            List.forall_mem_cons.mpr ⟨hhead, hbefore⟩⟩
        next first hhead =>
          cases h
          exact ⟨[], head, rest, rfl, hhead, List.forall_mem_nil _⟩
  · rintro ⟨before, part, after, rfl, hfault, hbefore⟩
    rw [checkParts_append hbefore, checkParts, hfault]

/-- Among parts in the order of their names, the first faulty one is the one with the least name. -/
theorem exists_first_iff_exists_least {parts : List (Option String × String)}
    (hsorted : parts.Pairwise fun earlier later => nameBytes earlier < nameBytes later)
    {fault : TextFault} :
    (∃ before part after, parts = before ++ part :: after ∧ checkText part.2 = .error fault ∧
        ∀ other ∈ before, checkText other.2 = .ok ()) ↔
      ∃ part ∈ parts, checkText part.2 = .error fault ∧
        ∀ other ∈ parts, checkText other.2 ≠ .ok () → nameBytes part ≤ nameBytes other := by
  constructor
  · rintro ⟨before, part, after, rfl, hfault, hbefore⟩
    refine ⟨part, by simp, hfault, fun other hother hbad => ?_⟩
    rcases List.mem_append.mp hother with hother | hother
    · exact absurd (hbefore other hother) hbad
    · rcases List.mem_cons.mp hother with rfl | hother
      · exact List.le_refl _
      · have hafter := (List.pairwise_cons.mp (List.pairwise_append.mp hsorted).2.1).1
        exact List.le_of_lt (hafter other hother)
  · rintro ⟨part, hpart, hfault, hleast⟩
    obtain ⟨before, after, rfl⟩ := List.append_of_mem hpart
    refine ⟨before, part, after, rfl, hfault, fun other hother => ?_⟩
    have hlt : nameBytes other < nameBytes part :=
      (List.pairwise_append.mp hsorted).2.2 other hother part List.mem_cons_self
    by_contra hbad
    exact hleast other (List.mem_append_left _ hother) hbad hlt

theorem check_eq_error_iff {content : Content} {fault : TextFault} :
    content.check = .error fault ↔
      (content.parts = [] ∧ fault = .empty) ∨
        ∃ part ∈ content.parts, checkText part.2 = .error fault ∧
          ∀ other ∈ content.parts, checkText other.2 ≠ .ok () →
            nameBytes part ≤ nameBytes other := by
  rw [← exists_first_iff_exists_least content.pairwise_nameBytes, ← checkParts_eq_error_iff, check]
  cases hparts : content.parts with
  | nil => simp [checkParts, eq_comm]
  | cons part rest => simp

/-- What comes of rendering a content is decided by its check. -/
theorem renderChecked_eq_map_check (content : Content) (values : Variables) :
    content.renderChecked values =
      content.check.map fun _ => ⟨content.render values, content.variableNames⟩ := by
  rw [renderChecked]
  cases content.check <;> rfl

theorem parts_render (content : Content) (values : Variables) :
    (content.render values).parts =
      content.parts.map fun part => (part.1, FormLetter.render part.2 values) := by
  cases content with
  | plain text => rfl
  | fields texts => simp [render, map, parts, SortedMap.map, Function.comp_def]

theorem pairwise_variableNames (content : Content) :
    content.variableNames.Pairwise (fun left right => left < right) :=
  pairwise_sortedNames _

theorem mem_variableNames_iff {content : Content} {name : String} :
    name ∈ content.variableNames ↔
      ∃ part ∈ content.parts, name ∈ FormLetter.variableNames part.2 := by
  rw [variableNames, mem_sortedNames, List.mem_flatMap]

section Single

variable {content : Content} {name? : Option String} {text : String}

theorem check_of_single (h : content.parts = [(name?, text)]) : content.check = checkText text := by
  rw [check, h, List.isEmpty_cons, if_neg Bool.false_ne_true, checkParts]
  cases checkText text <;> rfl

theorem variableNames_of_single (h : content.parts = [(name?, text)]) :
    content.variableNames = FormLetter.variableNames text := by
  rw [variableNames, h, List.flatMap_singleton]
  exact sortedNames_of_sorted (pairwise_sortedNames _)

theorem renderChecked_of_single (h : content.parts = [(name?, text)]) (values : Variables) :
    content.renderChecked values =
      (checkText text).map fun _ => ⟨content.render values, FormLetter.variableNames text⟩ := by
  rw [renderChecked_eq_map_check, check_of_single h, variableNames_of_single h]

end Single

/-- **Contents are handled field by field.** A content is fit when it has a text and each text is
fit. Otherwise it has no text and is empty, or it has the fault of the faulty text whose name comes
first in the order of the bytes. Where it is fit, each text is rendered alone under its own name and
the names of all texts are told, each once and in order; where it is not, its fault is all that
comes of it. One text under a name is handled as the plain text. -/
theorem content_is_handled_by_fields (content : Content) (values : Variables) :
    (content.check = .ok () ↔
      content.parts ≠ [] ∧ ∀ part ∈ content.parts, checkText part.2 = .ok ()) ∧
    (∀ fault, content.check = .error fault ↔
      (content.parts = [] ∧ fault = .empty) ∨
        ∃ part ∈ content.parts, checkText part.2 = .error fault ∧
          ∀ other ∈ content.parts, checkText other.2 ≠ .ok () →
            nameBytes part ≤ nameBytes other) ∧
    (content.check = .ok () → ∃ rendering, content.renderChecked values = .ok rendering ∧
      (rendering.content.parts =
        content.parts.map fun part => (part.1, FormLetter.render part.2 values)) ∧
      rendering.names.Pairwise (fun left right => left < right) ∧
      ∀ name, name ∈ rendering.names ↔
        ∃ part ∈ content.parts, name ∈ FormLetter.variableNames part.2) ∧
    (∀ fault, content.check = .error fault → content.renderChecked values = .error fault) ∧
    ∀ texts name text, content = .fields texts → texts.entries = [(name, text)] →
      content.check = checkText text ∧ (plain text).check = checkText text ∧
      (content.render values).parts = [(some name, FormLetter.render text values)] ∧
      content.renderChecked values = (checkText text).map (fun _ =>
        ⟨content.render values, FormLetter.variableNames text⟩) ∧
      (plain text).renderChecked values = (checkText text).map fun _ =>
        ⟨.plain (FormLetter.render text values), FormLetter.variableNames text⟩ := by
  refine ⟨check_eq_ok_iff, fun fault => check_eq_error_iff, fun hok => ?_, fun fault hfault => ?_,
    fun texts name text hcontent hentries => ?_⟩
  · refine ⟨⟨content.render values, content.variableNames⟩, ?_, parts_render content values,
      pairwise_variableNames content, fun name => mem_variableNames_iff⟩
    rw [renderChecked_eq_map_check, hok]
    rfl
  · rw [renderChecked_eq_map_check, hfault]
    rfl
  · have hparts : content.parts = [(some name, text)] := by
      rw [hcontent, parts, hentries]
      rfl
    have hplain : (plain text).parts = [(none, text)] := rfl
    refine ⟨check_of_single hparts, check_of_single hplain, ?_,
      renderChecked_of_single hparts values, renderChecked_of_single hplain values⟩
    rw [parts_render, hparts]
    rfl

/-- The nameless token of the later field is not told of, though in one text it would come first. -/
example : (fields (SortedMap.ofList
    [("subject", "{{ | none }}"), ("body", "{{ 1st }}"), ("greeting", "Hello")])).check =
      .error (.badName "1st") := by
  decide +kernel

end Content

end FormLetter
