import FormLetter.Proofs.Service.Effect
import FormLetter.Proofs.Service.Stored
import Mathlib.Control.Monad.Basic

/-!
# Changes and new templates

A change to a stored template comes to the same as a new template in which all is spelled out, the
parts that the change leaves alone as they are stored. What is stored has passed the checks before,
so checking it again makes no difference, and a stored category is found again under its label.
-/

namespace FormLetter

/-- The request for a new template that is as the change would leave the stored one. -/
def UpdateRequest.over (request : UpdateRequest) (template : Template) : CreateRequest where
  title := request.title.getD template.title
  description := request.description.or template.description
  content := request.content.getD template.content
  category := some (request.category.getD template.category.label)

/-- The new template that is as the change leaves the stored one. -/
def TemplatePatch.over (patch : TemplatePatch) (template : Template) : NewTemplate where
  title := patch.title.getD template.title
  description := patch.description.or template.description
  content := patch.content.getD template.content
  category := patch.category.getD template.category

/-- The same in all that is written in a template, whatever their ids and their times. -/
structure Template.Alike (left right : Template) : Prop where
  title : left.title = right.title
  description : left.description = right.description
  content : left.content = right.content
  category : left.category = right.category

theorem TemplatePatch.alike_apply_over (patch : TemplatePatch) (template : Template) (id : Int)
    (now moment : Timestamp) :
    (patch.apply now template).Alike ((patch.over template).toTemplate id moment) where
  title := rfl
  description := rfl
  content := rfl
  category := rfl

namespace Templates

open Service

theorem check_getD {α : Type} {check : α → Except Failure Unit} {kept : α}
    (h : check kept = .ok ()) (given : Option α) :
    check (given.getD kept) = checkPresent check given := by
  cases given with
  | none => exact h
  | some a => rfl

theorem chooseCategory_label (category : Category) :
    chooseCategory (some category.label) = .ok category := by
  cases category <;> decide +kernel

theorem chooseCategory_getD (given : Option String) (kept : Category) :
    chooseCategory (some (given.getD kept.label)) =
      (patchCategory given).map fun category => category.getD kept := by
  cases given with
  | none => exact chooseCategory_label kept
  | some text =>
      rw [Option.getD_some, patchCategory]
      cases chooseCategory (some text) <;> rfl

/-- A request that spells a change out is taken in like the change itself. -/
theorem accept_over {template : Template} (hsound : IsSound template) (request : UpdateRequest) :
    accept (request.over template) =
      (acceptPatch request).map fun patch => patch.over template := by
  obtain ⟨hlength, hblank⟩ := isTitle_iff_checks.mp hsound.title
  have hcontent : checkContent template.content = .ok () :=
    checkContent_eq_ok_iff.mpr (Content.check_eq_ok_iff_isFit.mpr hsound.content)
  rw [acceptPatch_eq, accept]
  simp only [UpdateRequest.over, check_getD hlength, check_getD hblank, check_getD hcontent,
    chooseCategory_getD]
  cases checkPresent checkTitleLength request.title with
  | error failure => rfl
  | ok =>
      cases checkPresent checkTitleNotBlank request.title with
      | error failure => rfl
      | ok =>
          cases checkPresent checkContent request.content with
          | error failure => rfl
          | ok => cases patchCategory request.category <;> rfl

theorem fst_exec_update_of_mem {memory : Memory} {template : Template}
    (hmem : template ∈ memory.templates.rows) (request : UpdateRequest) (now : Timestamp) :
    (exec now (update template.id request) memory).1 =
      (acceptPatch request).map fun patch => patch.apply now template := by
  have hfind := TemplateTable.find?_eq_some_iff.mpr ⟨hmem, rfl⟩
  rw [exec_update]
  cases acceptPatch request with
  | error failure => rfl
  | ok patch =>
      simp only [TemplateTable.fst_update, hfind]
      rfl

theorem find?_snd_exec_update {now : Timestamp} {memory : Memory} {id : Int}
    {request : UpdateRequest} {after : Template}
    (h : (exec now (update id request) memory).1 = .ok after) :
    (exec now (update id request) memory).2.templates.find? id = some after := by
  rw [exec_update] at h ⊢
  cases haccept : acceptPatch request with
  | error failure =>
      rw [haccept] at h
      cases h
  | ok patch =>
      rw [haccept] at h
      simp only at h ⊢
      rw [TemplateTable.find?_update, if_pos rfl, ← TemplateTable.fst_update]
      cases hreply : (memory.templates.update id patch now).1 with
      | none =>
          rw [hreply] at h
          cases h
      | some template =>
          rw [hreply] at h
          cases h
          rfl

/-- **Changing a template is writing it anew.** A change to a stored template succeeds exactly when
a request for a new template does that spells the change out, with the same failure if not and with
the same template if so, but for the id and the time of creation, which the change keeps. What is
answered is what is stored from then on, and a failure leaves the stores as they are. -/
theorem update_agrees_with_create (history : History) {template : Template}
    (hmem : template ∈ (history.after .empty).templates.rows) (request : UpdateRequest)
    (now moment : Timestamp) :
    let memory := history.after .empty
    let updated := (exec now (update template.id request) memory).1
    let left := (exec now (update template.id request) memory).2
    let created := (exec moment (create (request.over template)) memory).1
    ((∃ after, updated = .ok after) ↔ ∃ fresh, created = .ok fresh) ∧
    (∀ failure, updated = .error failure ↔ created = .error failure) ∧
    (∀ failure, updated = .error failure → left = memory) ∧
    ∀ after fresh, updated = .ok after → created = .ok fresh →
      after.Alike fresh ∧ after.id = template.id ∧ after.createdAt = template.createdAt ∧
        left.templates.find? template.id = some after := by
  intro memory updated left created
  have hupdated : updated = (acceptPatch request).map _ := fst_exec_update_of_mem hmem request now
  have hcreated : created = (acceptPatch request).map fun patch =>
      (patch.over template).toTemplate (memory.templates.lastId + 1) moment := by
    have hfst := fst_exec_create moment memory (request.over template)
    rw [accept_over (isSound_of_mem_after hmem)] at hfst
    refine hfst.trans ?_
    cases acceptPatch request <;> rfl
  obtain ⟨hok, herror⟩ := except_agree_of_eq_map hupdated hcreated
  refine ⟨hok, herror, fun failure => allOrNothing_update template.id request now memory failure,
    fun after fresh hafter hfresh => ?_⟩
  have hstored : left.templates.find? template.id = some after := find?_snd_exec_update hafter
  rw [hupdated] at hafter
  rw [hcreated] at hfresh
  cases haccept : acceptPatch request with
  | error failure =>
      rw [haccept] at hafter
      cases hafter
  | ok patch =>
      rw [haccept] at hafter hfresh
      cases hafter
      cases hfresh
      exact ⟨patch.alike_apply_over template _ now moment, rfl, rfl, hstored⟩

/-- A change to the title that takes the category back. -/
theorem retitled_letter_agrees :
    let memory := History.after
      [(⟨0, 0⟩, .create
          { title := "Letter"
            description := some "To all readers"
            content := .plain "Dear {{ name | reader }}"
            category := some "blog" })] .empty
    let letter : Template :=
      { id := 1
        title := "Letter"
        description := some "To all readers"
        content := .plain "Dear {{ name | reader }}"
        category := .blog
        createdAt := ⟨0, 0⟩
        updatedAt := ⟨0, 0⟩ }
    let request : UpdateRequest := { title := some "Invitation", category := some " " }
    letter ∈ memory.templates.rows ∧
      ∃ after fresh, (exec ⟨60, 0⟩ (update letter.id request) memory).1 = .ok after ∧
        (exec ⟨90, 0⟩ (create (request.over letter)) memory).1 = .ok fresh ∧
        after.category = .other ∧ after.Alike fresh ∧ after.id = letter.id ∧
        after.createdAt = letter.createdAt ∧
        (exec ⟨60, 0⟩ (update letter.id request) memory).2.templates.find? letter.id =
          some after := by
  intro memory letter request
  let retitled : Template :=
    { letter with title := "Invitation", category := .other, updatedAt := ⟨60, 0⟩ }
  have hmem : letter ∈ memory.templates.rows := by decide +kernel
  have hupdated : (exec ⟨60, 0⟩ (update letter.id request) memory).1 = .ok retitled := by
    decide +kernel
  obtain ⟨hok, -, -, halike⟩ := update_agrees_with_create _ hmem request ⟨60, 0⟩ ⟨90, 0⟩
  obtain ⟨fresh, hfresh⟩ := hok.mp ⟨retitled, hupdated⟩
  exact ⟨hmem, retitled, fresh, hupdated, hfresh, rfl, halike retitled fresh hupdated hfresh⟩

end Templates

end FormLetter
