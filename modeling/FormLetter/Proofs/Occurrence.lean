import FormLetter.Placeholder
import Mathlib.Data.List.Forall2
import Mathlib.Data.List.TakeWhile

/-!
# Where tokens stand

A token can be told by its braces alone: its body has none, so no token begins inside another one.
Hence cutting a text from the left loses no token, and the placeholders of a text are the tokens
that stand in it, each at its own position.
-/

namespace FormLetter

namespace Segment

/-- What may stand between the braces of a token. -/
def BraceFree (body : List Char) : Prop :=
  ∀ c ∈ body, c ≠ '{' ∧ c ≠ '}'

theorem isPlain_iff {c : Char} : isPlain c = true ↔ c ≠ '{' ∧ c ≠ '}' := by
  simp [isPlain]

instance (body : List Char) : Decidable (BraceFree body) :=
  decidable_of_iff (body.all isPlain = true)
    (List.all_eq_true.trans (forall₂_congr fun _ _ => isPlain_iff))

theorem length_tokenText (body : List Char) : (tokenText body).length = body.length + 4 := by
  simp [tokenText]

theorem tokenAt?_tokenText_append {body : List Char} (hbody : BraceFree body) (rest : List Char) :
    tokenAt? (tokenText body ++ rest) = some (body, rest) := by
  have hplain : ∀ c ∈ body, isPlain c = true := fun c hc => isPlain_iff.mpr (hbody c hc)
  have htext : tokenText body ++ rest = '{' :: '{' :: (body ++ '}' :: '}' :: rest) := by
    simp [tokenText]
  have hdrop : (body ++ '}' :: '}' :: rest).dropWhile isPlain = '}' :: '}' :: rest := by
    rw [List.dropWhile_append_of_pos hplain]
    rfl
  have htake : (body ++ '}' :: '}' :: rest).takeWhile isPlain = body := by
    rw [List.takeWhile_append_of_pos hplain]
    exact List.append_nil body
  rw [htext, tokenAt?, hdrop, htake]
  rfl

theorem braceFree_of_tokenAt? {text body rest : List Char}
    (h : tokenAt? text = some (body, rest)) : BraceFree body := by
  unfold tokenAt? at h
  split at h
  next inner =>
    split at h
    next =>
      cases h
      intro c hc
      exact isPlain_iff.mp (List.mem_takeWhile_imp hc)
    next => cases h
  next => cases h

theorem tokenAt?_eq_some_iff {text body rest : List Char} :
    tokenAt? text = some (body, rest) ↔ BraceFree body ∧ text = tokenText body ++ rest := by
  constructor
  · intro h
    exact ⟨braceFree_of_tokenAt? h, eq_of_tokenAt? h⟩
  · rintro ⟨hbody, rfl⟩
    exact tokenAt?_tokenText_append hbody rest

/-- A token with the body begins at the position of the text. -/
structure Occurs (text : List Char) (start : Nat) (body : List Char) : Prop where
  braceFree : BraceFree body
  stands : tokenText body <+: text.drop start

theorem occurs_iff_tokenAt? {text body : List Char} {start : Nat} :
    Occurs text start body ↔ ∃ rest, tokenAt? (text.drop start) = some (body, rest) := by
  constructor
  · rintro ⟨hbody, rest, hrest⟩
    exact ⟨rest, tokenAt?_eq_some_iff.mpr ⟨hbody, hrest.symm⟩⟩
  · rintro ⟨rest, hrest⟩
    obtain ⟨hbody, htext⟩ := tokenAt?_eq_some_iff.mp hrest
    exact ⟨hbody, rest, htext.symm⟩

theorem occurs_append_left_iff {text body : List Char} {start : Nat} (before : List Char) :
    Occurs (before ++ text) (before.length + start) body ↔ Occurs text start body := by
  rw [occurs_iff_tokenAt?, occurs_iff_tokenAt?, List.drop_length_add_append]

theorem occurs_cons_succ_iff {text body : List Char} {start : Nat} {c : Char} :
    Occurs (c :: text) (start + 1) body ↔ Occurs text start body := by
  rw [occurs_iff_tokenAt?, occurs_iff_tokenAt?, List.drop_succ_cons]

/-- The position is within the text, and so is the whole token. -/
theorem Occurs.add_length_le {text body : List Char} {start : Nat} (h : Occurs text start body) :
    start + (tokenText body).length ≤ text.length := by
  have hle := h.stands.length_le
  have hpos := length_tokenText body
  rw [List.length_drop] at hle
  omega

theorem Occurs.getElem?_eq {text body : List Char} {start : Nat} (h : Occurs text start body) :
    text[start]? = some '{' ∧ text[start + 1]? = some '{' := by
  obtain ⟨rest, hrest⟩ := h.stands
  have hfirst : (text.drop start)[0]? = some '{' := by rw [← hrest]; rfl
  have hsecond : (text.drop start)[1]? = some '{' := by rw [← hrest]; rfl
  rw [List.getElem?_drop] at hfirst hsecond
  exact ⟨hfirst, hsecond⟩

/-- No token begins inside a token: past the first brace no two open braces follow one another. -/
theorem not_occurs_inside {body inner rest : List Char} {start : Nat} (hbody : BraceFree body)
    (hpos : 0 < start) (hlt : start < (tokenText body).length) :
    ¬Occurs (tokenText body ++ rest) start inner := by
  intro h
  obtain ⟨hfirst, hsecond⟩ := h.getElem?_eq
  -- All that follows the two open braces, the closing ones included, is no open brace.
  have hclosed : ∀ n c, n < body.length + 2 →
      (tokenText body ++ rest)[n + 2]? = some c → c ≠ '{' := by
    intro n c hn hc
    have hlength : n < (body ++ ['}', '}']).length := by simpa using hn
    have hinner : (body ++ ['}', '}'])[n]? = some c :=
      (List.getElem?_append_left hlength).symm.trans hc
    rcases List.mem_append.mp (List.mem_of_getElem? hinner) with hmem | hmem
    · exact (hbody c hmem).1
    · simp at hmem
      simp [hmem]
  rw [length_tokenText] at hlt
  obtain ⟨n, rfl⟩ := Nat.exists_eq_succ_of_ne_zero (Nat.ne_of_gt hpos)
  cases n with
  | zero => exact hclosed 0 '{' (by omega) hsecond rfl
  | succ n => exact hclosed n '{' (by omega) hfirst rfl

theorem occurs_tokenText_append_iff {body inner rest : List Char} {start : Nat}
    (hbody : BraceFree body) :
    Occurs (tokenText body ++ rest) start inner ↔
      (start = 0 ∧ inner = body) ∨
        ∃ later, start = (tokenText body).length + later ∧ Occurs rest later inner := by
  constructor
  · intro h
    rcases Nat.eq_zero_or_pos start with rfl | hpos
    · obtain ⟨other, hother⟩ := occurs_iff_tokenAt?.mp h
      rw [List.drop_zero, tokenAt?_tokenText_append hbody] at hother
      cases hother
      exact Or.inl ⟨rfl, rfl⟩
    · have hle : (tokenText body).length ≤ start :=
        Nat.le_of_not_lt fun hlt => not_occurs_inside hbody hpos hlt h
      obtain ⟨later, rfl⟩ := Nat.exists_eq_add_of_le hle
      exact Or.inr ⟨later, rfl, (occurs_append_left_iff _).mp h⟩
  · rintro (⟨rfl, rfl⟩ | ⟨later, rfl, hlater⟩)
    · exact ⟨hbody, rest, rfl⟩
    · exact (occurs_append_left_iff _).mpr hlater

/-- At most one token begins at a position. -/
theorem Occurs.body_unique {text left right : List Char} {start : Nat}
    (hleft : Occurs text start left) (hright : Occurs text start right) : left = right := by
  obtain ⟨restLeft, hrestLeft⟩ := occurs_iff_tokenAt?.mp hleft
  obtain ⟨restRight, hrestRight⟩ := occurs_iff_tokenAt?.mp hright
  rw [hrestLeft] at hrestRight
  cases hrestRight
  rfl

/-- A token that begins later begins after the end of the earlier one. -/
theorem Occurs.disjoint {text left right : List Char} {i j : Nat} (hleft : Occurs text i left)
    (hright : Occurs text j right) (hlt : i < j) : i + (tokenText left).length ≤ j := by
  obtain ⟨rest, hrest⟩ := hleft.stands
  obtain ⟨k, rfl⟩ := Nat.exists_eq_add_of_lt hlt
  have hshift : Occurs (text.drop i) (k + 1) right := by
    rw [occurs_iff_tokenAt?, List.drop_drop]
    exact occurs_iff_tokenAt?.mp hright
  rw [← hrest] at hshift
  rcases (occurs_tokenText_append_iff hleft.braceFree).mp hshift with ⟨hzero, -⟩ | ⟨later, heq, -⟩
  · omega
  · omega

theorem scan_eq_of_tokenAt?_eq_some {text body rest : List Char}
    (h : tokenAt? text = some (body, rest)) : scan text = .token body :: scan rest := by
  cases text with
  | nil => cases h
  | cons c text =>
      rw [scan]
      split
      next heq =>
        rw [h] at heq
        cases heq
        rfl
      next heq =>
        rw [h] at heq
        cases heq

theorem scan_cons_of_tokenAt?_eq_none {c : Char} {text : List Char}
    (h : tokenAt? (c :: text) = none) : scan (c :: text) = .literal c :: scan text := by
  rw [scan]
  split
  next heq =>
    rw [h] at heq
    cases heq
  next => rfl

/-- The tokens among segments that begin at a position, each with the position at which it begins
itself. -/
def placed (start : Nat) : List Segment → List (Nat × List Char)
  | [] => []
  | .literal _ :: rest => placed (start + 1) rest
  | .token body :: rest => (start, body) :: placed (start + (tokenText body).length) rest

theorem le_of_mem_placed {segments : List Segment} {start : Nat} {place : Nat × List Char}
    (h : place ∈ placed start segments) : start ≤ place.1 := by
  induction segments generalizing start with
  | nil => cases h
  | cons segment rest ih =>
      cases segment with
      | literal c => exact Nat.le_of_succ_le (ih h)
      | token body =>
          rcases List.mem_cons.mp h with rfl | hrest
          · exact Nat.le_refl _
          · exact Nat.le_trans (Nat.le_add_right _ _) (ih hrest)

theorem pairwise_placed (segments : List Segment) (start : Nat) :
    (placed start segments).Pairwise fun earlier later => earlier.1 < later.1 := by
  induction segments generalizing start with
  | nil => exact .nil
  | cons segment rest ih =>
      cases segment with
      | literal c => exact ih (start + 1)
      | token body =>
          refine List.pairwise_cons.mpr ⟨fun place hplace => ?_, ih _⟩
          have hle := le_of_mem_placed hplace
          have hlength := length_tokenText body
          simp only
          omega

/-- Cutting a text from the left finds the tokens that stand in it, and no others. -/
theorem mem_placed_scan_iff {text body : List Char} {start position : Nat} :
    (position, body) ∈ placed start (scan text) ↔
      ∃ offset, position = start + offset ∧ Occurs text offset body := by
  fun_induction scan text generalizing start with
  | case1 =>
      simp only [placed, List.not_mem_nil, false_iff, not_exists, not_and]
      intro offset _ hoccurs
      have hle := hoccurs.add_length_le
      rw [length_tokenText, List.length_nil] at hle
      omega
  | case2 c text inner rest h ih =>
      obtain ⟨hinner, htext⟩ := tokenAt?_eq_some_iff.mp h
      rw [placed, List.mem_cons, ih, htext]
      simp only [occurs_tokenText_append_iff hinner, Prod.mk.injEq]
      constructor
      · rintro (⟨rfl, rfl⟩ | ⟨offset, rfl, hoffset⟩)
        · exact ⟨0, rfl, Or.inl ⟨rfl, rfl⟩⟩
        · exact ⟨(tokenText inner).length + offset, by omega, Or.inr ⟨offset, rfl, hoffset⟩⟩
      · rintro ⟨offset, rfl, ⟨rfl, rfl⟩ | ⟨later, rfl, hlater⟩⟩
        · exact Or.inl ⟨rfl, rfl⟩
        · exact Or.inr ⟨later, by omega, hlater⟩
  | case3 c text h ih =>
      rw [placed, ih]
      constructor
      · rintro ⟨offset, rfl, hoffset⟩
        exact ⟨offset + 1, by omega, occurs_cons_succ_iff.mpr hoffset⟩
      · rintro ⟨offset, rfl, hoffset⟩
        cases offset with
        | zero =>
            obtain ⟨rest, hrest⟩ := occurs_iff_tokenAt?.mp hoffset
            rw [List.drop_zero, h] at hrest
            cases hrest
        | succ offset => exact ⟨offset, by omega, occurs_cons_succ_iff.mp hoffset⟩

end Segment

namespace Placeholder

open Segment

/-- The placeholder says what the token at the place says: the token as the text has it, the name
before the first bar, and the default after that bar, where there is one. -/
structure Reads (text : List Char) (place : Nat × List Char) (p : Placeholder) : Prop where
  token_eq : p.token.toList = (text.drop place.1).take (place.2.length + 4)
  default?_eq_none_iff : p.default? = none ↔ '|' ∉ place.2
  name_of_no_bar : '|' ∉ place.2 → p.name = trim (String.ofList place.2)
  of_bar : ∀ name clause, '|' ∉ name → place.2 = name ++ '|' :: clause →
    p.name = trim (String.ofList name) ∧ p.default? = some (trim (String.ofList clause))

theorem toList_token_ofBody (body : List Char) : (ofBody body).token.toList = tokenText body :=
  String.toList_ofList

theorem trim_ofList (text : List Char) :
    trim (String.ofList text) = String.ofList (trimChars text) := by
  rw [trim, String.toList_ofList]

theorem isNameChar_of_no_bar {name : List Char} (h : '|' ∉ name) :
    ∀ c ∈ name, isNameChar c = true := by
  intro c hc
  rw [isNameChar, bne_iff_ne]
  exact fun heq => h (heq ▸ hc)

theorem name_ofBody_of_no_bar {body : List Char} (h : '|' ∉ body) :
    (ofBody body).name = trim (String.ofList body) := by
  have htake : body.takeWhile isNameChar = body :=
    List.takeWhile_eq_self_iff.mpr (isNameChar_of_no_bar h)
  rw [ofBody, htake, trim_ofList]

theorem default?_ofBody_of_no_bar {body : List Char} (h : '|' ∉ body) :
    (ofBody body).default? = none := by
  have hdrop : body.dropWhile isNameChar = [] :=
    List.dropWhile_eq_nil_iff.mpr (isNameChar_of_no_bar h)
  simp only [ofBody, hdrop]

theorem ofBody_of_bar {name : List Char} (h : '|' ∉ name) (clause : List Char) :
    (ofBody (name ++ '|' :: clause)).name = trim (String.ofList name) ∧
      (ofBody (name ++ '|' :: clause)).default? = some (trim (String.ofList clause)) := by
  have hname := isNameChar_of_no_bar h
  have htake : (name ++ '|' :: clause).takeWhile isNameChar = name := by
    rw [List.takeWhile_append_of_pos hname]
    exact List.append_nil name
  have hdrop : (name ++ '|' :: clause).dropWhile isNameChar = '|' :: clause := by
    rw [List.dropWhile_append_of_pos hname]
    rfl
  rw [trim_ofList, trim_ofList]
  simp only [ofBody, htake, hdrop, and_self]

theorem default?_ofBody_eq_none_iff {body : List Char} :
    (ofBody body).default? = none ↔ '|' ∉ body := by
  refine ⟨fun hnone hbar => ?_, default?_ofBody_of_no_bar⟩
  obtain ⟨name, clause, hbody, hname⟩ := List.eq_append_cons_of_mem hbar
  rw [hbody, (ofBody_of_bar hname clause).2] at hnone
  cases hnone

theorem reads_ofBody {text body : List Char} {position : Nat} (h : Occurs text position body) :
    Reads text (position, body) (ofBody body) where
  token_eq := by
    obtain ⟨rest, hrest⟩ := h.stands
    rw [← hrest, ← length_tokenText, List.take_left, toList_token_ofBody]
  default?_eq_none_iff := default?_ofBody_eq_none_iff
  name_of_no_bar := name_ofBody_of_no_bar
  of_bar name clause hname hbody := by
    subst hbody
    exact ofBody_of_bar hname clause

theorem filterMap_ofSegment? (segments : List Segment) (start : Nat) :
    segments.filterMap ofSegment? = (placed start segments).map fun place => ofBody place.2 := by
  induction segments generalizing start with
  | nil => rfl
  | cons segment rest ih =>
      cases segment with
      | literal c => exact ih (start + 1)
      | token body => exact congrArg (ofBody body :: ·) (ih _)

/-- **Placeholders are the tokens of the text.** Tokens do not overlap, at most one begins at a
position, and the placeholders are, in the order of their positions, the tokens that stand in the
text, each of them once and nothing else. -/
theorem all_lists_occurrences (text : String) :
    (∀ i j left right, Occurs text.toList i left → Occurs text.toList j right → i < j →
      i + (tokenText left).length ≤ j) ∧
    (∀ position left right, Occurs text.toList position left →
      Occurs text.toList position right → left = right) ∧
    ∃ places : List (Nat × List Char),
      (places.Pairwise fun earlier later => earlier.1 < later.1) ∧
      (∀ position body, (position, body) ∈ places ↔ Occurs text.toList position body) ∧
      List.Forall₂ (Reads text.toList) places (all text) := by
  have hplaces : ∀ position body, (position, body) ∈ placed 0 (scan text.toList) ↔
      Occurs text.toList position body := by
    intro position body
    simp [mem_placed_scan_iff]
  refine ⟨fun _ _ _ _ hleft hright => hleft.disjoint hright,
    fun _ _ _ hleft hright => hleft.body_unique hright,
    placed 0 (scan text.toList), pairwise_placed _ _, hplaces, ?_⟩
  rw [all, filterMap_ofSegment? _ 0, List.forall₂_map_right_iff, List.forall₂_same]
  intro place hplace
  exact reads_ofBody ((hplaces place.1 place.2).mp hplace)

/-- Only the inner two of three braces belong to the token, and the default may have bars in it. -/
example : (all "{{{ a }}} {{ b | c | d }}").map (fun p => (p.name, p.default?)) =
    [("a", none), ("b", some "c | d")] := by
  decide +kernel

end Placeholder

end FormLetter
