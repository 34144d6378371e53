import FormLetter.Proofs.Store.Table
import Mathlib.Data.List.Forall2

/-!
# Changes that compose

Two changes to one template come to one change, in which the later one goes before the earlier one
field by field. All laws of changes follow from that and from one equation: a change takes the rows
one by one, and changes none but the one under its id. Only the time of the last change tells how
often and in what order the changes were made.
-/

namespace FormLetter

/-! ## One template -/

namespace TemplatePatch

/-- One change and then another as a single one, with each field from the later one where it gives
it and else from the earlier one. -/
def andThen (earlier later : TemplatePatch) : TemplatePatch where
  title := later.title.or earlier.title
  description := later.description.or earlier.description
  content := later.content.or earlier.content
  category := later.category.or earlier.category

/-- No field is given by both changes. -/
structure Disjoint (left right : TemplatePatch) : Prop where
  title : left.title = none ∨ right.title = none
  description : left.description = none ∨ right.description = none
  content : left.content = none ∨ right.content = none
  category : left.category = none ∨ right.category = none

/-- What a change made at a time makes of a template: the fields that it gives are as it gives them,
and all others but the time of the last change are kept. -/
structure Turns (patch : TemplatePatch) (now : Timestamp) (before after : Template) : Prop where
  title : after.title = patch.title.getD before.title
  description : after.description = patch.description.or before.description
  content : after.content = patch.content.getD before.content
  category : after.category = patch.category.getD before.category
  id : after.id = before.id
  createdAt : after.createdAt = before.createdAt
  updatedAt : after.updatedAt = now

variable {earlier later : TemplatePatch}

theorem turns_apply (patch : TemplatePatch) (now : Timestamp) (template : Template) :
    patch.Turns now template (patch.apply now template) :=
  ⟨rfl, rfl, rfl, rfl, rfl, rfl, rfl⟩

theorem apply_apply (earlier later : TemplatePatch) (before now : Timestamp) (template : Template) :
    later.apply now (earlier.apply before template) =
      (earlier.andThen later).apply now template := by
  simp only [apply, andThen, Option.getD_or, Option.or_assoc]

theorem andThen_self (patch : TemplatePatch) : patch.andThen patch = patch := by
  simp only [andThen, Option.or_self]

theorem or_comm_of_none {α : Type} {left right : Option α} (h : left = none ∨ right = none) :
    left.or right = right.or left := by
  rcases h with rfl | rfl
  · rw [Option.none_or, Option.or_none]
  · rw [Option.none_or, Option.or_none]

theorem Disjoint.andThen_comm (h : earlier.Disjoint later) :
    earlier.andThen later = later.andThen earlier := by
  simp only [andThen, or_comm_of_none h.title, or_comm_of_none h.description,
    or_comm_of_none h.content, or_comm_of_none h.category]

/-- What a change under an id makes of a template, which may have another id. -/
def applyUnder (patch : TemplatePatch) (id : Int) (now : Timestamp) (template : Template) :
    Template :=
  if template.id = id then patch.apply now template else template

variable {patch other : TemplatePatch} {id : Int} {now moment : Timestamp} {template : Template}

theorem applyUnder_of_eq (h : template.id = id) :
    patch.applyUnder id now template = patch.apply now template :=
  if_pos h

theorem applyUnder_of_ne (h : template.id ≠ id) : patch.applyUnder id now template = template :=
  if_neg h

theorem id_applyUnder : (patch.applyUnder id now template).id = template.id := by
  by_cases heq : template.id = id
  · rw [applyUnder_of_eq heq]
    rfl
  · rw [applyUnder_of_ne heq]

theorem applyUnder_applyUnder :
    later.applyUnder id now (earlier.applyUnder id moment template) =
      (earlier.andThen later).applyUnder id now template := by
  by_cases heq : template.id = id
  · rw [applyUnder_of_eq (id_applyUnder.trans heq), applyUnder_of_eq heq, applyUnder_of_eq heq,
      apply_apply]
  · rw [applyUnder_of_ne heq, applyUnder_of_ne heq, applyUnder_of_ne heq]

theorem applyUnder_comm {otherId : Int} (hne : id ≠ otherId) :
    other.applyUnder otherId moment (patch.applyUnder id now template) =
      patch.applyUnder id now (other.applyUnder otherId moment template) := by
  by_cases heq : template.id = id
  · have hother : template.id ≠ otherId := heq ▸ hne
    rw [applyUnder_of_ne hother, applyUnder_of_ne (id_applyUnder.trans_ne hother)]
  · rw [applyUnder_of_ne heq, applyUnder_of_ne (id_applyUnder.trans_ne heq)]

end TemplatePatch

/-- The same but for the time of the last change. -/
def Template.SameUpToUpdate (left right : Template) : Prop :=
  ∃ time, right = { left with updatedAt := time }

/-- Templates that are the same up to the time of the last change stay so under one change, even
where it is made at two different times. -/
theorem Template.SameUpToUpdate.applyUnder {left right : Template} (h : left.SameUpToUpdate right)
    (patch : TemplatePatch) (id : Int) (now moment : Timestamp) :
    (patch.applyUnder id now left).SameUpToUpdate (patch.applyUnder id moment right) := by
  obtain ⟨time, hright⟩ := h
  have hid : right.id = left.id := by rw [hright]
  by_cases heq : left.id = id
  · rw [TemplatePatch.applyUnder_of_eq heq, TemplatePatch.applyUnder_of_eq (hid.trans heq), hright]
    exact ⟨moment, rfl⟩
  · rw [TemplatePatch.applyUnder_of_ne heq, TemplatePatch.applyUnder_of_ne (hid.trans_ne heq)]
    exact ⟨time, hright⟩

namespace TemplateTable

/-! ## One equation for the rows -/

theorem eq_of_rows_eq {left right : TemplateTable} (hlast : left.lastId = right.lastId)
    (hrows : left.rows = right.rows) : left = right := by
  cases left
  cases right
  cases hlast
  cases hrows
  rfl

variable {table : TemplateTable} {id : Int} {patch : TemplatePatch} {now : Timestamp}

/-- A template that is put where there is one with its id takes the place of that one. -/
theorem put_apply {template : Template} {rows : List Template}
    (hsorted : rows.Pairwise fun newer older => older.id < newer.id) (hmem : template ∈ rows) :
    put (patch.apply now template) rows = rows.map (patch.applyUnder template.id now) := by
  have hid : (patch.apply now template).id = template.id := rfl
  induction rows with
  | nil => cases hmem
  | cons head rest ih =>
      obtain ⟨hhead, hrest⟩ := List.pairwise_cons.mp hsorted
      rw [put, List.map_cons, hid]
      rcases List.mem_cons.mp hmem with rfl | hlater
      · have hothers : ∀ row ∈ rest, patch.applyUnder template.id now row = row := by
          intro row hrow
          have hlt := hhead row hrow
          exact TemplatePatch.applyUnder_of_ne (by omega)
        rw [if_neg (Int.lt_irrefl _), if_neg (Int.lt_irrefl _),
          TemplatePatch.applyUnder_of_eq rfl, List.map_congr_left hothers, List.map_id']
      · have hlt : template.id < head.id := hhead template hlater
        rw [if_neg (by omega), if_pos hlt, TemplatePatch.applyUnder_of_ne (by omega),
          ih hrest hlater]

theorem update_of_forall_ne (h : ∀ row ∈ table.rows, row.id ≠ id) :
    table.update id patch now = (none, table) := by
  have hnone : table.find? id = none := by
    rw [find?, List.find?_eq_none]
    intro row hrow
    simpa using h row hrow
  rw [update, hnone]

theorem fst_update_of_mem {template : Template} (hmem : template ∈ table.rows)
    (hid : template.id = id) :
    (table.update id patch now).1 = some (patch.apply now template) := by
  rw [fst_update, find?_eq_some_iff.mpr ⟨hmem, hid⟩, Option.map_some]

theorem rows_update :
    (table.update id patch now).2.rows = table.rows.map (patch.applyUnder id now) := by
  by_cases hstored : ∃ template ∈ table.rows, template.id = id
  · obtain ⟨template, hmem, rfl⟩ := hstored
    rw [update, find?_eq_some_iff.mpr ⟨hmem, rfl⟩]
    exact put_apply table.sorted hmem
  · have hothers : ∀ row ∈ table.rows, row.id ≠ id := by
      intro row hrow heq
      exact hstored ⟨row, hrow, heq⟩
    have hkept : ∀ row ∈ table.rows, patch.applyUnder id now row = row := by
      intro row hrow
      exact TemplatePatch.applyUnder_of_ne (hothers row hrow)
    rw [update_of_forall_ne hothers, List.map_congr_left hkept, List.map_id']

/-! ## Laws of changes -/

/-- The same rows and the same last id, but for the times of the last changes. -/
structure SameUpToUpdate (left right : TemplateTable) : Prop where
  lastId : left.lastId = right.lastId
  rows : List.Forall₂ Template.SameUpToUpdate left.rows right.rows

/-- Two changes to one template are one change, made when the later one is. -/
theorem update_update (before : Timestamp) (earlier later : TemplatePatch) :
    ((table.update id earlier before).2.update id later now).2 =
      (table.update id (earlier.andThen later) now).2 := by
  apply eq_of_rows_eq
  · rw [lastId_update, lastId_update, lastId_update]
  · rw [rows_update, rows_update, rows_update, List.map_map]
    exact List.map_congr_left fun _ _ => TemplatePatch.applyUnder_applyUnder

/-- Changes to two templates do not meet. -/
theorem update_comm {other : Int} (hne : id ≠ other) (patch patch' : TemplatePatch)
    (now now' : Timestamp) :
    ((table.update id patch now).2.update other patch' now').2 =
      ((table.update other patch' now').2.update id patch now).2 := by
  apply eq_of_rows_eq
  · rw [lastId_update, lastId_update, lastId_update, lastId_update]
  · rw [rows_update, rows_update, rows_update, rows_update, List.map_map, List.map_map]
    exact List.map_congr_left fun _ _ => TemplatePatch.applyUnder_comm hne

namespace SameUpToUpdate

variable {left right : TemplateTable}

theorem update (h : left.SameUpToUpdate right) (moment : Timestamp) :
    (left.update id patch now).2.SameUpToUpdate (right.update id patch moment).2 where
  lastId := by rw [lastId_update, lastId_update, h.lastId]
  rows := by
    rw [rows_update, rows_update, List.forall₂_map_left_iff, List.forall₂_map_right_iff]
    exact h.rows.imp fun _ _ hsame => hsame.applyUnder patch id now moment

theorem refl (table : TemplateTable) : table.SameUpToUpdate table where
  lastId := rfl
  rows := List.forall₂_same.mpr fun row _ => ⟨row.updatedAt, rfl⟩

end SameUpToUpdate

/-- Two changes that give disjoint sets of fields, or that are made under two ids, may be made in
either order. -/
theorem sameUpToUpdate_update_comm {other : Int} {patch' : TemplatePatch}
    (h : patch.Disjoint patch' ∨ id ≠ other) (first second third fourth : Timestamp) :
    ((table.update id patch first).2.update other patch' second).2.SameUpToUpdate
      ((table.update other patch' third).2.update id patch fourth).2 := by
  by_cases heq : id = other
  · subst heq
    have hdisjoint : patch.Disjoint patch' := h.resolve_right fun hne => hne rfl
    rw [update_update, update_update, hdisjoint.andThen_comm]
    exact (SameUpToUpdate.refl table).update fourth
  · rw [update_comm heq]
    exact ((SameUpToUpdate.refl table).update third).update fourth

/-- Any run of changes to one template is one change, made when the last of them is. -/
theorem update_foldl_update (changes : List (Timestamp × TemplatePatch)) (last : TemplatePatch) :
    let changed := changes.foldl (fun table change => (table.update id change.2 change.1).2) table
    (changed.update id last now).2 =
      (table.update id ((changes.map Prod.snd).foldr TemplatePatch.andThen last) now).2 := by
  intro changed
  induction changes generalizing table with
  | nil => rfl
  | cons change rest ih =>
      refine ih.trans ?_
      rw [update_update, List.map_cons, List.foldr_cons]

theorem forall₂_rows_update :
    List.Forall₂ (fun before after =>
        if before.id = id then patch.Turns now before after else after = before)
      table.rows (table.update id patch now).2.rows := by
  rw [rows_update, List.forall₂_map_right_iff, List.forall₂_same]
  intro row _
  by_cases heq : row.id = id
  · rw [if_pos heq, TemplatePatch.applyUnder_of_eq heq]
    exact patch.turns_apply now row
  · rw [if_neg heq, TemplatePatch.applyUnder_of_ne heq]

/-- **Partial changes compose.** Whatever the clock tells at each of the calls, a change after
another leaves what the single change does that takes each field from the later one where it gives
it and from the earlier one where it does not; a change made again leaves what it left before;
changes that give disjoint sets of fields and changes under two ids may be made in either order. All
that differs is the time of the last change. One change keeps the id and the time of creation of the
template under its id, touches no other, and answers with what it left of it. Where there is none,
it answers so and changes nothing at all. -/
theorem changes_compose (table : TemplateTable) (id other : Int) (patch patch' : TemplatePatch)
    (clock : Nat → Timestamp) :
    let changed := (table.update id patch (clock 0)).2
    ((changed.update id patch' (clock 1)).2.SameUpToUpdate
      (table.update id (patch.andThen patch') (clock 2)).2) ∧
    ((changed.update id patch (clock 1)).2.SameUpToUpdate
      (table.update id patch (clock 2)).2) ∧
    (patch.Disjoint patch' ∨ id ≠ other →
      (changed.update other patch' (clock 1)).2.SameUpToUpdate
        ((table.update other patch' (clock 2)).2.update id patch (clock 3)).2) ∧
    (changed.lastId = table.lastId ∧
      List.Forall₂ (fun before after =>
          if before.id = id then patch.Turns (clock 0) before after else after = before)
        table.rows changed.rows) ∧
    (∀ template ∈ table.rows, template.id = id →
      ∃ after ∈ changed.rows, (table.update id patch (clock 0)).1 = some after ∧
        patch.Turns (clock 0) template after) ∧
    ((∀ row ∈ table.rows, row.id ≠ id) → table.update id patch (clock 0) = (none, table)) := by
  intro changed
  refine ⟨?_, ?_, ?_, ⟨lastId_update patch (clock 0), forall₂_rows_update⟩, ?_,
    update_of_forall_ne⟩
  · rw [update_update]
    exact (SameUpToUpdate.refl table).update (clock 2)
  · rw [update_update, patch.andThen_self]
    exact (SameUpToUpdate.refl table).update (clock 2)
  · intro h
    exact sameUpToUpdate_update_comm h _ _ _ _
  · intro template hmem hid
    refine ⟨patch.apply (clock 0) template, ?_, fst_update_of_mem hmem hid,
      patch.turns_apply (clock 0) template⟩
    rw [rows_update]
    exact List.mem_map.mpr ⟨template, hmem, TemplatePatch.applyUnder_of_eq hid⟩

/-- A letter that gets a title and a description, in either order, beside a memo. -/
theorem titled_and_described_in_either_order :
    let letter : NewTemplate :=
      { title := "Letter", description := none, content := .plain "Dear", category := .email }
    let memo : NewTemplate := { letter with title := "Memo" }
    let table := ((empty.create letter ⟨0, 0⟩).2.create memo ⟨1, 0⟩).2
    let retitling : TemplatePatch :=
      { title := some "Invitation", description := none, content := none, category := none }
    let describing : TemplatePatch :=
      { title := none, description := some "To all", content := none, category := none }
    let clock (call : Nat) : Timestamp := ⟨2 + call, 0⟩
    let left := ((table.update 1 retitling (clock 0)).2.update 1 describing (clock 1)).2
    let right := ((table.update 1 describing (clock 2)).2.update 1 retitling (clock 3)).2
    retitling.Disjoint describing ∧ left.SameUpToUpdate right ∧ left.rows ≠ right.rows ∧
      right.rows.map Template.title = ["Memo", "Invitation"] := by
  intro letter memo table retitling describing clock left right
  have hdisjoint : retitling.Disjoint describing :=
    ⟨Or.inr rfl, Or.inl rfl, Or.inl rfl, Or.inl rfl⟩
  obtain ⟨-, -, hcomm, -⟩ := changes_compose table 1 1 retitling describing clock
  exact ⟨hdisjoint, hcomm (Or.inl hdisjoint), by decide +kernel, by decide +kernel⟩

end TemplateTable

end FormLetter
