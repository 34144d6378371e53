import FormLetter.Text.Blank
import FormLetter.Text.Split
import FormLetter.Text.Symbol
import Mathlib.Data.List.TakeWhile

/-!
# Texts taken apart

Splitting, trimming and decoding undo what put a text together.
-/

namespace FormLetter

theorem dropWhile_of_head? {α : Type} {p : α → Bool} {list : List α}
    (h : ∀ a ∈ list.head?, p a = false) : list.dropWhile p = list := by
  cases list with
  | nil => rfl
  | cons a list => exact List.dropWhile_cons_of_neg (by simp [h a rfl])

/-- What follows the last mark has no mark in it. -/
theorem splitAtLast?_append {mark : Char} {before after : List Char} (h : mark ∉ after) :
    splitAtLast? mark (before ++ mark :: after) = some (before, after) := by
  have hafter : ∀ c ∈ after.reverse, (c != mark) = true := by
    intro c hc
    rw [bne_iff_ne]
    rintro rfl
    exact h (List.mem_reverse.mp hc)
  have hreverse : (before ++ mark :: after).reverse = after.reverse ++ mark :: before.reverse := by
    simp
  rw [splitAtLast?, hreverse, List.dropWhile_append_of_pos hafter,
    List.takeWhile_append_of_pos hafter]
  simp

/-- Nothing else is split off than what stands around the last mark. -/
theorem splitAtLast?_eq_some_iff {mark : Char} {text before after : List Char} :
    splitAtLast? mark text = some (before, after) ↔
      text = before ++ mark :: after ∧ mark ∉ after := by
  constructor
  · intro h
    have hparts : text.reverse.takeWhile (· != mark) ++ text.reverse.dropWhile (· != mark) =
        text.reverse := List.takeWhile_append_dropWhile
    rw [splitAtLast?] at h
    split at h
    next => cases h
    next c rest hdrop =>
      cases h
      have hc : c = mark := by
        have hnot := List.head?_dropWhile_not (· != mark) text.reverse
        rw [hdrop] at hnot
        simpa using hnot
      rw [hdrop, hc] at hparts
      refine ⟨?_, ?_⟩
      · have htext := congrArg List.reverse hparts
        simpa using htext.symm
      · intro hmem
        have hne := List.mem_takeWhile_imp (List.mem_reverse.mp hmem)
        simp at hne
  · rintro ⟨rfl, h⟩
    exact splitAtLast?_append h

theorem not_mem_of_mem_splitOn {mark : Char} {text part : List Char}
    (h : part ∈ text.splitOn mark) : mark ∉ part := by
  induction text generalizing part with
  | nil =>
      obtain rfl : part = [] := by simpa using h
      exact List.not_mem_nil
  | cons c text ih =>
      rw [List.splitOn, List.splitOnP_cons_eq_if_modifyHead] at h
      split at h
      next =>
        rcases List.mem_cons.mp h with rfl | hrest
        · exact List.not_mem_nil
        · exact ih hrest
      next hc =>
        -- The character joins the first of the parts that the rest of the text is split into.
        cases hparts : text.splitOnP (· == mark) with
        | nil => exact absurd hparts (List.splitOnP_ne_nil _ _)
        | cons first rest =>
            rw [hparts, List.modifyHead_cons] at h
            have hmem : ∀ other ∈ first :: rest, mark ∉ other := by
              intro other hother
              refine ih ?_
              rwa [List.splitOn, hparts]
            rcases List.mem_cons.mp h with rfl | hrest
            · rw [List.mem_cons, not_or]
              refine ⟨?_, hmem first List.mem_cons_self⟩
              rintro rfl
              exact hc (beq_self_eq_true mark)
            · exact hmem part (List.mem_cons_of_mem first hrest)

/-- The parts between the marks are those without a mark that give the text when they are joined. -/
theorem splitOn_eq_iff {mark : Char} {text : List Char} {parts : List (List Char)} :
    text.splitOn mark = parts ↔
      parts ≠ [] ∧ (∀ part ∈ parts, mark ∉ part) ∧ [mark].intercalate parts = text := by
  constructor
  · rintro rfl
    exact ⟨List.splitOn_ne_nil mark text, fun _ => not_mem_of_mem_splitOn,
      List.intercalate_splitOn mark⟩
  · rintro ⟨hne, hmark, rfl⟩
    exact List.splitOn_intercalate mark hmark hne

/-- A text without a blank at either end is as trimmed as can be. -/
theorem trimChars_eq_self {text : List Char} (h : ∀ c ∈ text, isBlank c = false) :
    trimChars text = text := by
  have hfront : text.dropWhile isBlank = text :=
    dropWhile_of_head? fun c hc => h c (List.mem_of_mem_head? hc)
  have hback : text.reverse.dropWhile isBlank = text.reverse :=
    dropWhile_of_head? fun c hc => h c (List.mem_reverse.mp (List.mem_of_mem_head? hc))
  rw [trimChars, hfront, hback, List.reverse_reverse]

/-- Trimming takes away all blanks that have been put around a text. -/
theorem trimChars_append_append {before core after : List Char}
    (hbefore : ∀ c ∈ before, isBlank c = true) (hafter : ∀ c ∈ after, isBlank c = true) :
    trimChars (before ++ core ++ after) = trimChars core := by
  have hreverse : ∀ c ∈ after.reverse, isBlank c = true :=
    fun c hc => hafter c (List.mem_reverse.mp hc)
  have hfront : (before ++ core ++ after).dropWhile isBlank =
      (core ++ after).dropWhile isBlank := by
    rw [List.append_assoc, List.dropWhile_append_of_pos hbefore]
  rw [trimChars, trimChars, hfront, List.dropWhile_append]
  split
  next hempty =>
    rw [List.isEmpty_iff] at hempty
    rw [hempty, dropWhile_isBlank_eq_nil.mpr hafter]
  next => rw [List.reverse_append, List.dropWhile_append_of_pos hreverse]

/-- A text is what is left of it after trimming, with blanks around that. -/
theorem exists_eq_append_trimChars_append (text : List Char) :
    ∃ before after, text = before ++ trimChars text ++ after ∧
      (∀ c ∈ before, isBlank c = true) ∧ ∀ c ∈ after, isBlank c = true := by
  refine ⟨text.takeWhile isBlank,
    ((text.dropWhile isBlank).reverse.takeWhile isBlank).reverse, ?_, ?_, ?_⟩
  · rw [List.append_assoc, trimChars, ← List.reverse_append, List.takeWhile_append_dropWhile,
      List.reverse_reverse, List.takeWhile_append_dropWhile]
  · exact fun c hc => List.mem_takeWhile_imp hc
  · exact fun c hc => List.mem_takeWhile_imp (List.mem_reverse.mp hc)

theorem Utf8.decode?_encode (text : String) : Utf8.decode? (Utf8.encode text) = some text := by
  rw [Utf8.decode?, Utf8.encode, Array.toArray_toList, String.fromUTF8?,
    String.toUTF8_eq_toByteArray, dif_pos text.isValidUTF8]
  rfl

theorem Symbol.ofBytes_encode (text : String) :
    Symbol.ofBytes (Utf8.encode text) = Symbol.ofText text := by
  rw [Symbol.ofBytes, Utf8.decode?_encode]

end FormLetter
