import FormLetter.Store.Memory

/-!
# Rows of the tables

No two templates have one id, and a write brings in no row but the one that it writes. What is found
under an id after a write is what the write puts there, or else what was found before. A call that
is refused leaves all rows as they were.
-/

namespace FormLetter

namespace TemplateTable

variable {table : TemplateTable} {id : Int}

theorem eq_of_id_eq {left right : Template} (hleft : left ∈ table.rows)
    (hright : right ∈ table.rows) (heq : left.id = right.id) : left = right := by
  obtain ⟨i, hi, rfl⟩ := List.mem_iff_getElem.mp hleft
  obtain ⟨j, hj, rfl⟩ := List.mem_iff_getElem.mp hright
  have hsorted := List.pairwise_iff_getElem.mp table.sorted
  rcases Nat.lt_trichotomy i j with hlt | rfl | hlt
  · have hid := hsorted i j hi hj hlt
    omega
  · rfl
  · have hid := hsorted j i hj hi hlt
    omega

theorem find?_eq_some_iff {template : Template} :
    table.find? id = some template ↔ template ∈ table.rows ∧ template.id = id := by
  constructor
  · intro h
    exact ⟨List.mem_of_find?_eq_some h, by simpa using List.find?_some h⟩
  · rintro ⟨hmem, rfl⟩
    cases hfind : table.find? template.id with
    | none =>
        have hne := List.find?_eq_none.mp hfind template hmem
        simp at hne
    | some other =>
        have hid : other.id = template.id := by simpa using List.find?_some hfind
        rw [eq_of_id_eq (List.mem_of_find?_eq_some hfind) hmem hid]

/-- Rows in descending order of their ids are no more than there are ids. -/
theorem length_le_of_id_le {rows : List Template} {n : Nat}
    (hsorted : rows.Pairwise fun newer older => older.id < newer.id)
    (hid : ∀ row ∈ rows, 1 ≤ row.id ∧ row.id ≤ n) : rows.length ≤ n := by
  induction rows generalizing n with
  | nil => exact Nat.zero_le n
  | cons head rest ih =>
      obtain ⟨hhead, hrest⟩ := List.pairwise_cons.mp hsorted
      obtain ⟨hpos, hle⟩ := hid head List.mem_cons_self
      have hlength : rest.length ≤ (head.id - 1).toNat := by
        apply ih hrest
        intro row hrow
        have hrow_pos := (hid row (List.mem_cons_of_mem _ hrow)).1
        have hrow_lt := hhead row hrow
        omega
      rw [List.length_cons]
      omega

theorem find?_put (template : Template) (rows : List Template) :
    (put template rows).find? (fun row => row.id == id) =
      if template.id = id then some template else rows.find? fun row => row.id == id := by
  induction rows with
  | nil =>
      by_cases heq : template.id = id <;> simp [put, heq]
  | cons head rows ih =>
      rw [put]
      split
      next => by_cases heq : template.id = id <;> simp [heq]
      next hnlt =>
        split
        next hlt =>
          by_cases hhead : head.id = id
          · have hne : template.id ≠ id := by omega
            simp [hhead, hne]
          · simp [hhead, ih]
        next hngt =>
          have hhead : head.id = template.id := by omega
          by_cases heq : template.id = id <;> simp [heq, hhead]

theorem find?_insert (template : Template) :
    (table.insert template).find? id =
      if template.id = id then some template else table.find? id :=
  find?_put template table.rows

theorem find?_create (new : NewTemplate) (now : Timestamp) :
    (table.create new now).2.find? id =
      if table.lastId + 1 = id then some (table.create new now).1 else table.find? id :=
  find?_insert (new.toTemplate (table.lastId + 1) now)

theorem fst_update (patch : TemplatePatch) (now : Timestamp) :
    (table.update id patch now).1 = (table.find? id).map (patch.apply now) := by
  rw [update]
  cases table.find? id <;> rfl

theorem update_of_find?_eq_none (h : table.find? id = none) (patch : TemplatePatch)
    (now : Timestamp) : (table.update id patch now).2 = table := by
  rw [update, h]

theorem lastId_update (patch : TemplatePatch) (now : Timestamp) :
    (table.update id patch now).2.lastId = table.lastId := by
  rw [update]
  cases table.find? id <;> rfl

theorem find?_update (other : Int) (patch : TemplatePatch) (now : Timestamp) :
    (table.update other patch now).2.find? id =
      if other = id then (table.find? id).map (patch.apply now) else table.find? id := by
  rw [update]
  split
  next hnone =>
    by_cases heq : other = id
    · rw [if_pos heq, ← heq, hnone]
      rfl
    · rw [if_neg heq]
  next template hsome =>
    have hid : (patch.apply now template).id = other := (find?_eq_some_iff.mp hsome).2
    rw [find?_insert, hid]
    by_cases heq : other = id
    · rw [if_pos heq, if_pos heq, ← heq, hsome]
      rfl
    · rw [if_neg heq, if_neg heq]

theorem mem_rows_delete {row : Template} :
    row ∈ (table.delete id).2.rows ↔ row ∈ table.rows ∧ row.id ≠ id := by
  rw [delete, List.mem_filter, bne_iff_ne]

theorem find?_delete (other : Int) :
    (table.delete other).2.find? id = if other = id then none else table.find? id := by
  by_cases heq : other = id
  · rw [if_pos heq, find?, List.find?_eq_none]
    intro row hrow hid
    exact (mem_rows_delete.mp hrow).2 ((beq_iff_eq.mp hid).trans heq.symm)
  · rw [if_neg heq, find?, delete, List.find?_filter]
    refine congrArg (table.rows.find? ·) (funext fun row => ?_)
    by_cases hrow : row.id = id
    · simp [hrow, Ne.symm heq]
    · simp [hrow]

/-- Nothing is deleted where nothing is found. -/
theorem delete_of_find?_eq_none (h : table.find? id = none) : (table.delete id).2 = table := by
  have hrows : table.rows.filter (fun row => row.id != id) = table.rows := by
    rw [List.filter_eq_self]
    intro row hrow
    have hne := List.find?_eq_none.mp h row hrow
    simpa using hne
  simp only [delete, hrows]

theorem mem_rows_create {new : NewTemplate} {now : Timestamp} {row : Template}
    (h : row ∈ (table.create new now).2.rows) :
    row = (table.create new now).1 ∨ row ∈ table.rows :=
  mem_put h

theorem mem_rows_update {patch : TemplatePatch} {now : Timestamp} {row : Template}
    (h : row ∈ (table.update id patch now).2.rows) :
    (∃ template ∈ table.rows, row = patch.apply now template) ∨ row ∈ table.rows := by
  rw [update] at h
  split at h
  next => exact Or.inr h
  next template hfind =>
    rcases mem_put h with rfl | hmem
    · exact Or.inl ⟨template, List.mem_of_find?_eq_some hfind, rfl⟩
    · exact Or.inr hmem

end TemplateTable

namespace AccountTable

variable {table : AccountTable} {new : NewAccount} {now : Timestamp} {error : StoreError}

theorem snd_create_of_error (h : (table.create new now).1 = .error error) :
    (table.create new now).2 = table := by
  cases hfind : table.find? new.username with
  | none =>
      rw [create, hfind] at h
      cases h
  | some account =>
      rw [create, hfind]

end AccountTable

/-- A call that is refused has not written: a name that is taken takes no id. -/
theorem Memory.snd_perform_of_error {now : Timestamp} {memory : Memory} {request : StoreCall}
    {error : StoreError} (h : (memory.perform now request).1 = .error error) :
    (memory.perform now request).2 = memory := by
  cases request with
  | createAccount new =>
      have htable : (memory.accounts.create new now).2 = memory.accounts :=
        AccountTable.snd_create_of_error h
      simp only [perform, htable]
  | createTemplate | findTemplate | updateTemplate | deleteTemplate | listTemplates | ping
  | findAccount => cases h

end FormLetter
