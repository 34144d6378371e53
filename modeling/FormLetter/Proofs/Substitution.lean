import FormLetter.Proofs.Fitness
import FormLetter.Proofs.Seam
import FormLetter.Render

/-!
# What rendering replaces

A text is its tokens and the gaps between them. Rendering puts a text in the place of every token
and keeps the gaps. Nothing that has been put in is looked at again, since what is cut into tokens
is the text that was given and never the text that results.
-/

namespace FormLetter

/-- The first gap, and then every placeholder, put as the function says, with the gap after it. -/
def weave (put : Placeholder → String) : String → List (Placeholder × String) → String
  | first, [] => first
  | first, (p, gap) :: rest => first ++ put p ++ weave put gap rest

theorem weave_append_left (put : Placeholder → String) (before first : String)
    (pieces : List (Placeholder × String)) :
    weave put (before ++ first) pieces = before ++ weave put first pieces := by
  cases pieces with
  | nil => rfl
  | cons piece rest => simp only [weave, String.append_assoc]

namespace Segment

theorem filterMap_ofSegment?_eq_nil_iff {segments : List Segment} :
    segments.filterMap Placeholder.ofSegment? = [] ↔
      ∀ segment ∈ segments, ∃ c, segment = .literal c := by
  rw [List.filterMap_eq_nil_iff]
  refine forall₂_congr fun segment _ => ?_
  cases segment with
  | literal c => exact iff_of_true rfl ⟨c, rfl⟩
  | token body => exact iff_of_false (fun h => nomatch h) fun ⟨_, h⟩ => nomatch h

/-- Every list of segments is tokens with gaps between them. -/
theorem exists_weave (segments : List Segment) :
    ∃ first pieces, pieces.map Prod.fst = segments.filterMap Placeholder.ofSegment? ∧
      String.ofList (segments.flatMap source) = weave Placeholder.token first pieces := by
  induction segments with
  | nil => exact ⟨"", [], rfl, rfl⟩
  | cons segment rest ih =>
      obtain ⟨first, pieces, hpieces, htext⟩ := ih
      cases segment with
      | literal c =>
          refine ⟨String.ofList [c] ++ first, pieces, hpieces, ?_⟩
          rw [List.flatMap_cons, String.ofList_append, htext, weave_append_left]
          rfl
      | token body =>
          refine ⟨"", (Placeholder.ofBody body, first) :: pieces, ?_, ?_⟩
          · exact congrArg (Placeholder.ofBody body :: ·) hpieces
          · rw [List.flatMap_cons, String.ofList_append, htext, weave, String.empty_append]
            rfl

end Segment

namespace Placeholder

open Segment

/-- What is put in the place of a token: its value where it has one that is not null, else its
default, else nothing. -/
inductive Becomes (values : Variables) (p : Placeholder) : String → Prop where
  | value {value : Json.Value} {text : String} (found : values.get? p.name = some value)
      (written : valueText? value = some text) : Becomes values p text
  | default {text : String}
      (absent : values.get? p.name = none ∨ values.get? p.name = some .null)
      (written : p.default? = some text) : Becomes values p text
  | nothing (absent : values.get? p.name = none ∨ values.get? p.name = some .null)
      (bare : p.default? = none) : Becomes values p ""

theorem valueText?_eq_none_iff {value : Json.Value} : valueText? value = none ↔ value = .null := by
  cases value <;> simp [valueText?]

theorem bind_valueText?_eq_none_iff {found : Option Json.Value} :
    found.bind valueText? = none ↔ found = none ∨ found = some .null := by
  cases found with
  | none => simp
  | some value => simp [valueText?_eq_none_iff]

theorem becomes_fill (values : Variables) (p : Placeholder) : p.Becomes values (p.fill values) := by
  rw [fill]
  split
  next text htext =>
    obtain ⟨value, hfound, hwritten⟩ := Option.bind_eq_some_iff.mp htext
    exact .value hfound hwritten
  next hnone =>
    have habsent := bind_valueText?_eq_none_iff.mp hnone
    cases hdefault : p.default? with
    | none => exact .nothing habsent hdefault
    | some text => exact .default habsent hdefault

theorem Becomes.fill_eq {values : Variables} {p : Placeholder} {text : String}
    (h : p.Becomes values text) : p.fill values = text := by
  cases h with
  | value found written => rw [fill, found, Option.bind_some, written]
  | default absent written => rw [fill, bind_valueText?_eq_none_iff.mpr absent, written]; rfl
  | nothing absent bare => rw [fill, bind_valueText?_eq_none_iff.mpr absent, bare]; rfl

theorem becomes_iff {values : Variables} {p : Placeholder} {text : String} :
    p.Becomes values text ↔ p.fill values = text :=
  ⟨Becomes.fill_eq, fun h => h ▸ becomes_fill values p⟩

/-- A placeholder that is read off a token. -/
def IsToken (p : Placeholder) : Prop :=
  ∃ body, BraceFree body ∧ p = ofBody body

theorem isToken_of_mem_all {text : String} {p : Placeholder} (h : p ∈ all text) : p.IsToken := by
  rw [all, filterMap_ofSegment? _ 0, List.mem_map] at h
  obtain ⟨place, hplace, rfl⟩ := h
  obtain ⟨_, -, hoccurs⟩ := mem_placed_scan_iff.mp hplace
  exact ⟨place.2, hoccurs.braceFree, rfl⟩

theorem scan_append_token_append {body : List Char} (hbody : BraceFree body)
    (left rest : String) :
    scan (left ++ (ofBody body).token ++ rest).toList =
      scan left.toList ++ .token body :: scan rest.toList := by
  rw [String.append_assoc, String.toList_append, String.toList_append, toList_token_ofBody,
    scan_append_tokenText_append hbody]

theorem IsToken.all_append_append {p : Placeholder} (h : p.IsToken) (left rest : String) :
    all (left ++ p.token ++ rest) = all left ++ p :: all rest := by
  obtain ⟨body, hbody, rfl⟩ := h
  rw [all, scan_append_token_append hbody, List.filterMap_append]
  rfl

theorem IsToken.render_append_append {p : Placeholder} (h : p.IsToken) (left rest : String)
    (values : Variables) :
    render (left ++ p.token ++ rest) values =
      render left values ++ p.fill values ++ render rest values := by
  obtain ⟨body, hbody, rfl⟩ := h
  rw [render, scan_append_token_append hbody, List.flatMap_append, List.flatMap_cons,
    String.ofList_append, String.ofList_append, Segment.fill, String.ofList_toList,
    String.append_assoc]
  rfl

theorem IsToken.length_all_weave {p : Placeholder} (h : p.IsToken) (first gap : String)
    (rest : List (Placeholder × String)) :
    (all (weave token first ((p, gap) :: rest))).length =
      (all first).length + ((all (weave token gap rest)).length + 1) := by
  rw [weave, h.all_append_append, List.length_append, List.length_cons]

end Placeholder

open Segment Placeholder

theorem render_of_all_eq_nil {text : String} (h : all text = []) (values : Variables) :
    render text values = text := by
  have hliterals := filterMap_ofSegment?_eq_nil_iff.mp h
  have hfill : (scan text.toList).flatMap (Segment.fill values) =
      (scan text.toList).flatMap source := by
    rw [List.flatMap_def, List.flatMap_def]
    refine congrArg List.flatten (List.map_congr_left fun segment hsegment => ?_)
    obtain ⟨c, rfl⟩ := hliterals segment hsegment
    rfl
  rw [render, hfill, flatMap_source_scan, String.ofList_toList]

/-- Every token that is woven in is found again. -/
theorem length_le_length_all_weave {pieces : List (Placeholder × String)}
    (hpieces : ∀ piece ∈ pieces, piece.1.IsToken) (first : String) :
    pieces.length ≤ (all (weave token first pieces)).length := by
  induction pieces generalizing first with
  | nil => exact Nat.zero_le _
  | cons piece rest ih =>
      obtain ⟨p, gap⟩ := piece
      obtain ⟨hp, hrest⟩ := List.forall_mem_cons.mp hpieces
      have hle := ih hrest gap
      rw [hp.length_all_weave, List.length_cons]
      omega

/-- Where all tokens of a text are among the pieces, the gaps have none and stay as they are. -/
theorem render_weave {first : String} {pieces : List (Placeholder × String)}
    (hpieces : ∀ piece ∈ pieces, piece.1.IsToken)
    (hlength : (all (weave token first pieces)).length ≤ pieces.length) (values : Variables) :
    render (weave token first pieces) values = weave (fill values) first pieces := by
  induction pieces generalizing first with
  | nil =>
      have hnil : all first = [] := List.eq_nil_of_length_eq_zero (Nat.le_zero.mp hlength)
      exact render_of_all_eq_nil hnil values
  | cons piece rest ih =>
      obtain ⟨p, gap⟩ := piece
      obtain ⟨hp, hrest⟩ := List.forall_mem_cons.mp hpieces
      -- The later pieces use up all the tokens that there are, so none is left for this gap.
      have hfound := length_le_length_all_weave hrest gap
      rw [hp.length_all_weave, List.length_cons] at hlength
      have hfirst : all first = [] := List.eq_nil_of_length_eq_zero (by omega)
      rw [weave, hp.render_append_append, render_of_all_eq_nil hfirst, ih hrest (by omega), weave]

/-- **Rendering replaces the tokens and nothing else.** A text is its placeholders with gaps between
them, and however it is taken apart so, rendering puts in the place of each placeholder what it
becomes and keeps the gaps. The placeholders are those that the checks judge and whose names are
told. -/
theorem render_replaces_placeholders (text : String) (values : Variables) :
    (∃ first pieces, pieces.map Prod.fst = all text ∧ text = weave token first pieces) ∧
    (∀ first pieces, pieces.map Prod.fst = all text → text = weave token first pieces →
      render text values = weave (fill values) first pieces) ∧
    (∀ (p : Placeholder) substitute, p.Becomes values substitute ↔ p.fill values = substitute) ∧
    (checkText text = .ok () ↔ ¬IsBlankText text ∧ ∀ p ∈ all text, Name.IsDotted p.name) ∧
    ∀ name, name ∈ variableNames text ↔ name ≠ "" ∧ ∃ p ∈ all text, p.name = name := by
  refine ⟨?_, ?_, fun _ _ => becomes_iff, checkText_eq_ok_iff, fun _ => mem_variableNames⟩
  · obtain ⟨first, pieces, hpieces, htext⟩ := exists_weave (scan text.toList)
    rw [flatMap_source_scan, String.ofList_toList] at htext
    exact ⟨first, pieces, hpieces, htext⟩
  · intro first pieces hpieces htext
    have htokens : ∀ piece ∈ pieces, piece.1.IsToken := by
      intro piece hpiece
      have hmem : piece.1 ∈ all text := hpieces ▸ List.mem_map_of_mem hpiece
      exact isToken_of_mem_all hmem
    have hlength : (all (weave token first pieces)).length ≤ pieces.length := by
      rw [← htext, ← hpieces, List.length_map]
    rw [htext]
    exact render_weave htokens hlength values

end FormLetter
