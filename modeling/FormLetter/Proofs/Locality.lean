import FormLetter.Proofs.Rerendering

/-!
# Texts put together from pieces

Where no token reaches over the boundary between two pieces of a text, each piece is read as if it
stood alone. Then the names of the whole are those of the pieces, whatever their order is and
however often one of them comes, and each piece is rendered to the same text wherever it stands. Not
every boundary is of that kind, since braces on its two sides may close up to a token; but where all
braces that open belong to tokens, none can.
-/

namespace FormLetter

open Placeholder Segment

section Seam

variable {left right : String}

theorem Placeholder.all_append (h : Seam left.toList right.toList) :
    all (left ++ right) = all left ++ all right := by
  rw [all, String.toList_append, scan_append h, List.filterMap_append]
  rfl

theorem render_append (h : Seam left.toList right.toList) (values : Variables) :
    render (left ++ right) values = render left values ++ render right values := by
  rw [render, String.toList_append, scan_append h, List.flatMap_append, String.ofList_append]
  rfl

theorem mem_variableNames_append (h : Seam left.toList right.toList) {name : String} :
    name ∈ variableNames (left ++ right) ↔
      name ∈ variableNames left ∨ name ∈ variableNames right := by
  simp only [mem_variableNames, all_append h, List.mem_append, or_and_right, exists_or, and_or_left]

end Seam

theorem pairwise_variableNames (text : String) :
    (variableNames text).Pairwise (fun left right => left < right) :=
  pairwise_sortedNames _

/-- At none of the boundaries between the pieces does a token reach from one side to the other. -/
def CutAtSeams (pieces : List String) : Prop :=
  ∀ before after, pieces = before ++ after →
    Seam (String.join before).toList (String.join after).toList

namespace CutAtSeams

variable {piece : String} {pieces : List String}

theorem seam_head (h : CutAtSeams (piece :: pieces)) :
    Seam piece.toList (String.join pieces).toList := by
  have hseam := h [piece] pieces rfl
  rwa [String.join_cons, String.join_nil, String.append_empty] at hseam

theorem tail (h : CutAtSeams (piece :: pieces)) : CutAtSeams pieces := by
  intro before after hpieces
  have hseam := h (piece :: before) after (congrArg (piece :: ·) hpieces)
  rw [String.join_cons, String.toList_append] at hseam
  exact hseam.of_append _

theorem render_join (h : CutAtSeams pieces) (values : Variables) :
    render (String.join pieces) values =
      String.join (pieces.map fun piece => render piece values) := by
  induction pieces with
  | nil => simp [render, scan]
  | cons piece pieces ih =>
      rw [String.join_cons, render_append h.seam_head, ih h.tail, List.map_cons, String.join_cons]

theorem mem_variableNames_join (h : CutAtSeams pieces) {name : String} :
    name ∈ variableNames (String.join pieces) ↔ ∃ piece ∈ pieces, name ∈ variableNames piece := by
  induction pieces with
  | nil => simp [mem_variableNames, all, scan]
  | cons piece pieces ih =>
      rw [String.join_cons, mem_variableNames_append h.seam_head, ih h.tail]
      simp

end CutAtSeams

/-- No token reaches out of the text, whatever comes after it. -/
def Segment.IsClosed (text : List Char) : Prop :=
  ∀ rest, Seam text rest

theorem Segment.IsClosed.append {left right : List Char} (hleft : IsClosed left)
    (hright : IsClosed right) : IsClosed (left ++ right) := by
  intro rest start body hoccurs hlt
  rw [List.append_assoc] at hoccurs
  rw [List.length_append] at hlt ⊢
  by_cases hstart : start < left.length
  · have hle := hleft (right ++ rest) start body hoccurs hstart
    omega
  · obtain ⟨later, rfl⟩ := Nat.exists_eq_add_of_le (Nat.le_of_not_lt hstart)
    have hlater := (occurs_append_left_iff left).mp hoccurs
    have hle := hright rest later body hlater (by omega)
    omega

/-- A text is closed where all braces that open belong to its tokens. -/
theorem Segment.isClosed_of_no_open_outside {text : List Char}
    (h : '{' ∉ (scan text).flatMap outside) : IsClosed text := by
  intro rest start body hoccurs hlt
  fun_induction scan text generalizing start with
  | case1 => cases hlt
  | case2 c text inner after hat ih =>
      obtain ⟨hinner, htext⟩ := tokenAt?_eq_some_iff.mp hat
      rw [htext, List.append_assoc] at hoccurs
      rw [htext, List.length_append] at hlt ⊢
      rcases (occurs_tokenText_append_iff hinner).mp hoccurs with
        ⟨rfl, rfl⟩ | ⟨later, rfl, hlater⟩
      · omega
      · have hle := ih h later hlater (by omega)
        omega
  | case3 c text hnone ih =>
      obtain ⟨hne, houtside⟩ := not_or.mp (mt List.mem_cons.mpr h)
      cases start with
      | zero =>
          have hfirst : some c = some '{' := hoccurs.getElem?_eq.1
          exact absurd (Option.some.inj hfirst).symm hne
      | succ start =>
          have hlater : Occurs (text ++ rest) start body := occurs_cons_succ_iff.mp hoccurs
          have hle := ih houtside start hlater (Nat.lt_of_succ_lt_succ hlt)
          rw [List.length_cons]
          omega

theorem cutAtSeams_of_no_open_outside {pieces : List String}
    (h : ∀ piece ∈ pieces, '{' ∉ (textOutside piece).toList) : CutAtSeams pieces := by
  rintro before after rfl
  suffices hclosed : IsClosed (String.join before).toList from hclosed _
  induction before with
  | nil => exact fun _ _ _ _ hlt => absurd hlt (Nat.not_lt_zero _)
  | cons piece before ih =>
      obtain ⟨hpiece, hrest⟩ := List.forall_mem_cons.mp h
      rw [textOutside, String.toList_ofList] at hpiece
      rw [String.join_cons, String.toList_append]
      exact (isClosed_of_no_open_outside hpiece).append (ih hrest)

/-- **Reading is local.** Where no token goes over from one text into the next, the placeholders,
the names and the renderings of the two put together are those of each of them. So for texts that
are cut at such boundaries, changing the order of the pieces or taking some of them several times
changes neither the names nor what each piece is rendered to; and where all braces that open in the
pieces belong to tokens, the pieces may be put together in any way. -/
theorem reading_is_local :
    (∀ left right : String, Seam left.toList right.toList →
      all (left ++ right) = all left ++ all right ∧
      variableNames (left ++ right) = sortedNames (variableNames left ++ variableNames right) ∧
      ∀ values, render (left ++ right) values = render left values ++ render right values) ∧
    (∀ pieces : List String, CutAtSeams pieces → ∀ values,
      render (String.join pieces) values =
        String.join (pieces.map fun piece => render piece values)) ∧
    (∀ pieces others : List String, CutAtSeams pieces → CutAtSeams others →
      (∀ piece, piece ∈ others ↔ piece ∈ pieces) →
      variableNames (String.join others) = variableNames (String.join pieces)) ∧
    ∀ pieces : List String, (∀ piece ∈ pieces, '{' ∉ (textOutside piece).toList) →
      CutAtSeams pieces := by
  refine ⟨fun left right hseam => ⟨all_append hseam, ?_, render_append hseam⟩,
    fun pieces hpieces => hpieces.render_join, fun pieces others hpieces hothers hsame => ?_,
    fun _ => cutAtSeams_of_no_open_outside⟩
  · refine eq_of_sorted_of_mem_iff (pairwise_variableNames _) (pairwise_sortedNames _) ?_
    intro name
    rw [mem_variableNames_append hseam, mem_sortedNames, List.mem_append]
  · refine eq_of_sorted_of_mem_iff (pairwise_variableNames _) (pairwise_variableNames _) ?_
    intro name
    simp only [hothers.mem_variableNames_join, hpieces.mem_variableNames_join, hsame]

/-- A brace before the boundary and one after the token behind it make no other token. -/
theorem letter_read_in_pieces :
    let left := "Dear {{ name }}, \x7b"
    let right := "{{ item | it }}\x7d is {{ state }}"
    let pieces := ["{{ name }} has ", "{{ item }}, ", "\x7d\x7d {{ name | all }} "]
    let others := ["\x7d\x7d {{ name | all }} ", "{{ item }}, ", "{{ name }} has ", "{{ item }}, "]
    Seam left.toList right.toList ∧ all (left ++ right) = all left ++ all right ∧
      CutAtSeams pieces ∧ CutAtSeams others ∧
      variableNames (String.join others) = variableNames (String.join pieces) := by
  intro left right pieces others
  have hbody : BraceFree " item | it ".toList := by decide +kernel
  have hright : right.toList = tokenText " item | it ".toList ++ "\x7d is {{ state }}".toList := by
    decide
  have hseam : Seam left.toList right.toList := hright ▸ seam_tokenText_right hbody _ _
  obtain ⟨hlocal, -, hnames, hclosed⟩ := reading_is_local
  have hpieces : CutAtSeams pieces := hclosed pieces (by decide +kernel)
  have hothers : CutAtSeams others := hclosed others (by decide +kernel)
  have hsame : ∀ piece, piece ∈ others ↔ piece ∈ pieces := by
    intro piece
    simp only [pieces, others, List.mem_cons, List.not_mem_nil, or_false]
    tauto
  exact ⟨hseam, (hlocal left right hseam).1, hpieces, hothers,
    hnames pieces others hpieces hothers hsame⟩

/-- In the other order the pieces close up to a token. -/
example : variableNames (" name \x7d\x7d" ++ "\x7b\x7b") = [] ∧
    variableNames ("\x7b\x7b" ++ " name \x7d\x7d") = ["name"] := by
  decide +kernel

end FormLetter
