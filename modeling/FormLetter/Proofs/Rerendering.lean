import FormLetter.Proofs.Dependence

/-!
# Rendering what has been rendered

Rendering without values takes the tokens out of a text, and what stood on the two sides of a token
then stands side by side. So braces that a token held apart may close up to a token of their own,
which the next rendering would fill. It finds nothing to fill exactly where the text outside the
tokens has no token in it.
-/

namespace FormLetter

open Placeholder Segment

/-- What a segment holds outside the tokens. -/
def Segment.outside : Segment → List Char
  | .literal c => [c]
  | .token _ => []

/-- A text without its tokens. -/
def textOutside (text : String) : String :=
  String.ofList ((scan text.toList).flatMap Segment.outside)

theorem exists_occurs_of_mem_all {text : String} {p : Placeholder} (h : p ∈ all text) :
    ∃ start body, Occurs text.toList start body := by
  rw [all, filterMap_ofSegment? _ 0, List.mem_map] at h
  obtain ⟨⟨_, body⟩, hplace, -⟩ := h
  obtain ⟨start, -, hoccurs⟩ := mem_placed_scan_iff.mp hplace
  exact ⟨start, body, hoccurs⟩

theorem Segment.Occurs.mem_of_mem_tokenText {text body : List Char} {start : Nat}
    (h : Occurs text start body) {c : Char} (hc : c ∈ tokenText body) : c ∈ text :=
  List.mem_of_mem_drop (h.stands.mem hc)

/-- There is no token where no brace opens or none closes. -/
theorem all_eq_nil_of_brace_not_mem {text : String}
    (h : '{' ∉ text.toList ∨ '}' ∉ text.toList) : all text = [] := by
  refine List.eq_nil_iff_forall_not_mem.mpr fun p hp => ?_
  obtain ⟨start, body, hoccurs⟩ := exists_occurs_of_mem_all hp
  rcases h with hopen | hclose
  · exact hopen (hoccurs.mem_of_mem_tokenText (by simp [tokenText]))
  · exact hclose (hoccurs.mem_of_mem_tokenText (by simp [tokenText]))

/-- A text that no values change has no token. -/
theorem forall_render_eq_self_iff {text : String} :
    (∀ values, render text values = text) ↔ all text = [] := by
  constructor
  · intro h
    refine List.eq_nil_iff_forall_not_mem.mpr fun p hp => ?_
    apply render_loneValue_ne hp
    rw [h, h]
  · intro h values
    exact render_of_all_eq_nil h values

theorem fill_empty_of_bare {p : Placeholder} (h : p.default? = none) : p.fill .empty = "" := by
  have hbecomes : p.Becomes SortedMap.empty "" := .nothing (Or.inl rfl) h
  exact hbecomes.fill_eq

theorem render_empty_of_bare {text : String} (h : ∀ p ∈ all text, p.default? = none) :
    render text .empty = textOutside text := by
  rw [render, textOutside, List.flatMap_def, List.flatMap_def]
  refine congrArg (fun parts => String.ofList parts.flatten) (List.map_congr_left ?_)
  intro segment hsegment
  cases segment with
  | literal c => rfl
  | token body =>
      have hfill := fill_empty_of_bare (h (ofBody body) (ofBody_mem_all hsegment))
      rw [Segment.fill, hfill]
      rfl

/-- **Rendering again changes nothing where no token closes up.** Of a text whose tokens have no
defaults, rendering without values leaves what stands outside the tokens. Rendering that once more
changes nothing, whatever the values are, exactly if no token stands in it, and so it is where no
brace opens outside the tokens or none closes there. -/
theorem rerendering_changes_nothing_iff (text : String)
    (hbare : ∀ p ∈ all text, p.default? = none) :
    render text .empty = textOutside text ∧
    ((∀ values, render (render text .empty) values = render text .empty) ↔
      all (textOutside text) = []) ∧
    ('{' ∉ (textOutside text).toList ∨ '}' ∉ (textOutside text).toList →
      ∀ values, render (render text .empty) values = render text .empty) := by
  have hrender := render_empty_of_bare hbare
  rw [hrender]
  refine ⟨rfl, forall_render_eq_self_iff, fun hbrace => ?_⟩
  exact forall_render_eq_self_iff.mpr (all_eq_nil_of_brace_not_mem hbrace)

theorem letter_rendered_again :
    let letter := "Dear {{ name }} \x7b ref {{ id }}"
    (∀ p ∈ all letter, p.default? = none) ∧
      ∀ values, render (render letter .empty) values = render letter .empty := by
  intro letter
  have hbare : ∀ p ∈ all letter, p.default? = none := by decide +kernel
  have hclose : '}' ∉ (textOutside letter).toList := by decide +kernel
  exact ⟨hbare, (rerendering_changes_nothing_iff letter hbare).2.2 (Or.inr hclose)⟩

/-- A text that is fit for use, and whose tokens have no defaults, may be rendered to a text with a
token: here the braces around the first token close up when it goes. -/
theorem braces_close_up_around_token :
    let text := "{{{a}}{b}}"
    checkText text = .ok () ∧ (∀ p ∈ all text, p.default? = none) ∧
      render text .empty = "{{b}}" ∧
      render (render text .empty) (loneValue "b" "X") = "X" ∧
      render (render text .empty) (loneValue "b" "X") ≠ render text .empty := by
  decide +kernel

end FormLetter
