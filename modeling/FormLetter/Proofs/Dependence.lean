import FormLetter.Proofs.Substitution
import Mathlib.Algebra.Order.BigOperators.Group.List
import Mathlib.Algebra.Order.Group.Nat

/-!
# What a rendering depends on

The names that are told of a fit content are the names on which its rendering depends: values under
other names make no difference, and under each of the names there are values that do. A token
without a name would be filled from the value under the empty name, which is never told; a fit
content has none.
-/

namespace FormLetter

/-- The value that a token gets for a name, a null being as good as none. -/
def givenValue? (values : Variables) (name : String) : Option Json.Value :=
  match values.get? name with
  | some .null => none
  | found => found

def AgreeOn (names : List String) (left right : Variables) : Prop :=
  ∀ name ∈ names, givenValue? left name = givenValue? right name

theorem bind_valueText?_givenValue? (values : Variables) (name : String) :
    (givenValue? values name).bind valueText? = (values.get? name).bind valueText? := by
  rw [givenValue?]
  split
  next hnull => rw [hnull]; rfl
  next => rfl

namespace Placeholder

theorem fill_congr {left right : Variables} {p : Placeholder}
    (h : givenValue? left p.name = givenValue? right p.name) : p.fill left = p.fill right := by
  rw [fill, fill, ← bind_valueText?_givenValue?, h, bind_valueText?_givenValue?]

theorem ofBody_mem_all {text : String} {body : List Char}
    (h : .token body ∈ Segment.scan text.toList) : ofBody body ∈ all text :=
  List.mem_filterMap.mpr ⟨.token body, h, rfl⟩

end Placeholder

theorem render_congr {text : String} {left right : Variables}
    (h : ∀ p ∈ Placeholder.all text, p.fill left = p.fill right) :
    render text left = render text right := by
  rw [render, render, List.flatMap_def, List.flatMap_def]
  refine congrArg (fun parts => String.ofList parts.flatten) (List.map_congr_left ?_)
  intro segment hsegment
  cases segment with
  | literal c => rfl
  | token body => exact congrArg String.toList (h _ (Placeholder.ofBody_mem_all hsegment))

/-- A text grows when no token gets less and one gets more. -/
theorem length_render_lt {text : String} {left right : Variables}
    (hle : ∀ p ∈ Placeholder.all text, (p.fill left).length ≤ (p.fill right).length)
    (hlt : ∃ p ∈ Placeholder.all text, (p.fill left).length < (p.fill right).length) :
    (render text left).length < (render text right).length := by
  rw [render, render, String.length_ofList, String.length_ofList, List.length_flatMap,
    List.length_flatMap]
  apply List.sum_lt_sum
  · intro segment hsegment
    cases segment with
    | literal c => exact Nat.le_refl _
    | token body => exact hle _ (Placeholder.ofBody_mem_all hsegment)
  · obtain ⟨p, hp, hless⟩ := hlt
    obtain ⟨segment, hsegment, hbody⟩ := List.mem_filterMap.mp hp
    cases segment with
    | literal c => cases hbody
    | token body =>
        cases hbody
        exact ⟨.token body, hsegment, hless⟩

/-- The values that give one name the text and no other name anything. -/
def loneValue (name text : String) : Variables :=
  SortedMap.empty.insert name (.string text)

theorem get?_loneValue (name text other : String) :
    (loneValue name text).get? other = if other = name then some (.string text) else none := by
  rw [loneValue, SortedMap.get?_insert, SortedMap.get?_empty]

theorem fill_loneValue_self (p : Placeholder) (text : String) :
    p.fill (loneValue p.name text) = text := by
  rw [Placeholder.fill, get?_loneValue, if_pos rfl]
  rfl

theorem fill_loneValue_of_ne {p : Placeholder} {name : String} (h : p.name ≠ name)
    (left right : String) : p.fill (loneValue name left) = p.fill (loneValue name right) := by
  apply Placeholder.fill_congr
  rw [givenValue?, givenValue?, get?_loneValue, get?_loneValue, if_neg h, if_neg h]

theorem render_loneValue_ne {text : String} {p : Placeholder} (hp : p ∈ Placeholder.all text) :
    render text (loneValue p.name "") ≠ render text (loneValue p.name "x") := by
  intro heq
  have hlt : (render text (loneValue p.name "")).length <
      (render text (loneValue p.name "x")).length := by
    refine length_render_lt (fun q _ => ?_) ⟨p, hp, ?_⟩
    · by_cases hname : q.name = p.name
      · rw [← hname, fill_loneValue_self, fill_loneValue_self]
        decide
      · exact Nat.le_of_eq (congrArg String.length (fill_loneValue_of_ne hname "" "x"))
    · rw [fill_loneValue_self, fill_loneValue_self]
      decide
  exact Nat.ne_of_lt hlt (congrArg String.length heq)

namespace Content

theorem map_eq_map_iff {content : Content} {f g : String → String} :
    content.map f = content.map g ↔ ∀ part ∈ content.parts, f part.2 = g part.2 := by
  cases content with
  | plain text => simp [map, parts]
  | fields texts =>
      rw [map, map, fields.injEq, SortedMap.ext_iff, SortedMap.map, SortedMap.map,
        List.map_inj_left, parts, List.forall_mem_map]
      simp only [Prod.mk.injEq, true_and]

/-- **The names that are told are the names that matter.** -/
theorem render_depends_on_variableNames (content : Content) (h : content.check = .ok ()) :
    (∀ values, content.renderChecked values =
      .ok { content := content.render values, names := content.variableNames }) ∧
    (∀ left right, AgreeOn content.variableNames left right →
      content.render left = content.render right) ∧
    ∀ name ∈ content.variableNames, ∃ left right : Variables,
      (∀ other, other ≠ name → left.get? other = right.get? other) ∧
      content.render left ≠ content.render right := by
  have hfit := check_eq_ok_iff_isFit.mp h
  refine ⟨fun values => ?_, fun left right hagree => ?_, fun name hname => ?_⟩
  · rw [renderChecked, h]
  · refine map_eq_map_iff.mpr fun part hpart => render_congr fun p hp => ?_
    exact Placeholder.fill_congr (hagree p.name (hfit.name_mem_variableNames hpart hp))
  · obtain ⟨-, part, hpart, p, hp, rfl⟩ := mem_variableNames.mp hname
    refine ⟨loneValue p.name "", loneValue p.name "x", fun other hother => ?_, fun heq => ?_⟩
    · rw [get?_loneValue, get?_loneValue, if_neg hother, if_neg hother]
    · exact render_loneValue_ne hp (map_eq_map_iff.mp heq part hpart)

theorem order_depends_on_item :
    let order : Content := .fields (SortedMap.ofList
      [("subject", "Order {{ id }}"), ("body", "{{ item | nothing }} for {{ name }}")])
    order.check = .ok () ∧ ∃ left right : Variables,
      (∀ other, other ≠ "item" → left.get? other = right.get? other) ∧
      order.render left ≠ order.render right := by
  intro order
  have hcheck : order.check = .ok () := by decide +kernel
  have hname : "item" ∈ order.variableNames := by decide +kernel
  exact ⟨hcheck, (render_depends_on_variableNames order hcheck).2.2 "item" hname⟩

end Content

end FormLetter
