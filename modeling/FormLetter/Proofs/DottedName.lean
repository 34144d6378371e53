import FormLetter.Placeholder.Name

/-!
# Words of dotted names

A name is read from left to right in one go. What is accepted can be told without reading: cut the
name at every dot, and each part is a word. So no dot stands at an end or next to another one, and
nothing but ASCII is in a name.
-/

namespace FormLetter.Name

def IsAsciiLetter (c : Char) : Prop :=
  ('A' ≤ c ∧ c ≤ 'Z') ∨ ('a' ≤ c ∧ c ≤ 'z')

def IsAsciiDigit (c : Char) : Prop :=
  '0' ≤ c ∧ c ≤ '9'

/-- What may stand in a word after its first character. -/
def IsWordChar (c : Char) : Prop :=
  IsAsciiLetter c ∨ IsAsciiDigit c ∨ c = '_'

/-- A letter or an underscore, and after it letters, digits and underscores. -/
inductive IsWord : List Char → Prop where
  | mk {first : Char} {rest : List Char} (starts : IsAsciiLetter first ∨ first = '_')
      (continues : ∀ c ∈ rest, IsWordChar c) : IsWord (first :: rest)

theorem not_isWord_nil : ¬IsWord [] :=
  fun h => nomatch h

theorem isWord_cons_iff {first : Char} {rest : List Char} :
    IsWord (first :: rest) ↔
      (IsAsciiLetter first ∨ first = '_') ∧ ∀ c ∈ rest, IsWordChar c := by
  constructor
  · rintro ⟨starts, continues⟩
    exact ⟨starts, continues⟩
  · rintro ⟨starts, continues⟩
    exact .mk starts continues

theorem isUpper_iff {c : Char} : c.isUpper = true ↔ 'A' ≤ c ∧ c ≤ 'Z' :=
  decide_eq_true_iff

theorem isLower_iff {c : Char} : c.isLower = true ↔ 'a' ≤ c ∧ c ≤ 'z' := by
  change (decide ('a' ≤ c) && decide (c ≤ 'z')) = true ↔ _
  rw [Bool.and_eq_true, decide_eq_true_iff, decide_eq_true_iff]

theorem isAlpha_iff {c : Char} : c.isAlpha = true ↔ IsAsciiLetter c := by
  change (c.isUpper || c.isLower) = true ↔ _
  rw [Bool.or_eq_true, isUpper_iff, isLower_iff, IsAsciiLetter]

theorem isDigit_iff {c : Char} : c.isDigit = true ↔ IsAsciiDigit c := by
  simp [Char.isDigit, IsAsciiDigit, Char.le_def]

theorem startsWord_iff {c : Char} : startsWord c = true ↔ IsAsciiLetter c ∨ c = '_' := by
  rw [startsWord, Bool.or_eq_true, isAlpha_iff, beq_iff_eq]

theorem continuesWord_iff {c : Char} : continuesWord c = true ↔ IsWordChar c := by
  rw [continuesWord, Bool.or_eq_true, Char.isAlphanum, Bool.or_eq_true, isAlpha_iff, isDigit_iff,
    beq_iff_eq, or_assoc]
  rfl

theorem splitOn_dot_cons (text : List Char) :
    ('.' :: text).splitOn '.' = [] :: text.splitOn '.' := by
  simp [List.splitOn, List.splitOnP_cons_eq_if_modifyHead]

theorem splitOn_cons_of_ne {c : Char} (h : c ≠ '.') (text : List Char) :
    (c :: text).splitOn '.' = (text.splitOn '.').modifyHead (c :: ·) := by
  simp [List.splitOn, List.splitOnP_cons_eq_if_modifyHead, h]

theorem exists_splitOn_eq_cons (text : List Char) :
    ∃ head words, text.splitOn '.' = head :: words :=
  List.exists_cons_of_ne_nil (List.splitOnP_ne_nil _ _)

/-- The first part goes on with a word that has begun, and the other parts are words. -/
def GoesOn : List (List Char) → Prop
  | [] => False
  | head :: words => (∀ c ∈ head, IsWordChar c) ∧ ∀ word ∈ words, IsWord word

theorem accepts_iff (text : List Char) :
    (accepts true text = true ↔ ∀ word ∈ text.splitOn '.', IsWord word) ∧
      (accepts false text = true ↔ GoesOn (text.splitOn '.')) := by
  induction text with
  | nil => simp [accepts, GoesOn, not_isWord_nil]
  | cons c rest ih =>
      obtain ⟨ihStart, ihOn⟩ := ih
      by_cases hdot : c = '.'
      · subst hdot
        rw [splitOn_dot_cons]
        constructor
        · have hstart : startsWord '.' = false := by decide
          simp [accepts, hstart, not_isWord_nil]
        · simp [accepts, GoesOn, ihStart]
      · obtain ⟨head, words, hsplit⟩ := exists_splitOn_eq_cons rest
        rw [hsplit, GoesOn] at ihOn
        rw [splitOn_cons_of_ne hdot, hsplit, List.modifyHead_cons]
        constructor
        · rw [List.forall_mem_cons, isWord_cons_iff, and_assoc, ← ihOn, ← startsWord_iff]
          simp [accepts]
        · rw [GoesOn, List.forall_mem_cons, and_assoc, ← ihOn, ← continuesWord_iff]
          simp [accepts, hdot]

/-- A dotted name is words with dots between them. -/
theorem isDotted_iff {name : String} :
    IsDotted name ↔ ∀ word ∈ name.toList.splitOn '.', IsWord word :=
  (accepts_iff name.toList).1

/-- After a dot, the rest is read as if it stood alone. -/
theorem accepts_of_append_dot {atStart : Bool} {left right : List Char}
    (h : accepts atStart (left ++ '.' :: right) = true) : accepts true right = true := by
  induction left generalizing atStart with
  | nil =>
      cases atStart with
      | true => cases h
      | false => exact h
  | cons c left ih =>
      rw [List.cons_append, accepts] at h
      split at h
      · exact ih (Bool.and_eq_true_iff.mp h).2
      · split at h
        · exact ih h
        · exact ih (Bool.and_eq_true_iff.mp h).2

theorem not_isDotted_dot_append (right : String) : ¬IsDotted ("." ++ right) := by
  intro h
  rw [IsDotted, String.toList_append] at h
  cases h

theorem not_isDotted_append_dot (left : String) : ¬IsDotted (left ++ ".") := by
  intro h
  rw [IsDotted, String.toList_append] at h
  cases accepts_of_append_dot h

theorem not_isDotted_append_dots_append (left right : String) :
    ¬IsDotted (left ++ ".." ++ right) := by
  intro h
  rw [IsDotted, String.toList_append, String.toList_append, List.append_assoc] at h
  cases accepts_of_append_dot h

theorem isWordChar_of_accepts {atStart : Bool} {text : List Char}
    (h : accepts atStart text = true) : ∀ c ∈ text, c = '.' ∨ IsWordChar c := by
  induction text generalizing atStart with
  | nil => simp
  | cons c rest ih =>
      rw [accepts] at h
      rw [List.forall_mem_cons]
      split at h
      · obtain ⟨hstarts, hrest⟩ := Bool.and_eq_true_iff.mp h
        have hchar : IsWordChar c := (startsWord_iff.mp hstarts).imp_right Or.inr
        exact ⟨Or.inr hchar, ih hrest⟩
      · split at h
        next hdot => exact ⟨Or.inl (beq_iff_eq.mp hdot), ih h⟩
        next =>
          obtain ⟨hcontinues, hrest⟩ := Bool.and_eq_true_iff.mp h
          exact ⟨Or.inr (continuesWord_iff.mp hcontinues), ih hrest⟩

end FormLetter.Name
