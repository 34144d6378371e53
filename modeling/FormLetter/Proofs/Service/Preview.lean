import FormLetter.Proofs.Service.Stored
import Mathlib.Control.Monad.Basic

/-!
# Previews and stored templates

A preview and a request to create a template put the content through one and the same check. Once
the template is stored, no operation but a deletion of it or a change to its content has a hold on
its content. So what a preview shows is what the stored template shows from then on.
-/

namespace FormLetter

/-- The id has been given out, and the content stands under it. -/
structure TemplateTable.Holds (table : TemplateTable) (id : Int) (content : Content) : Prop where
  given : id ≤ table.lastId
  stored : ∃ template, table.find? id = some template ∧ template.content = content

namespace TemplateTable.Holds

variable {table : TemplateTable} {id : Int} {content : Content}

theorem of_create (table : TemplateTable) (new : NewTemplate) (now : Timestamp) :
    (table.create new now).2.Holds (table.create new now).1.id new.content where
  given := Int.le_refl _
  stored := ⟨(table.create new now).1, (find?_create new now).trans (if_pos rfl), rfl⟩

theorem create (h : table.Holds id content) (new : NewTemplate) (now : Timestamp) :
    (table.create new now).2.Holds id content := by
  obtain ⟨hgiven, template, hfind, hcontent⟩ := h
  have hlast : (table.create new now).2.lastId = table.lastId + 1 := rfl
  have hne : table.lastId + 1 ≠ id := by omega
  refine ⟨by omega, template, ?_, hcontent⟩
  rw [find?_create, if_neg hne, hfind]

theorem update (h : table.Holds id content) {other : Int} {patch : TemplatePatch}
    (hspared : other = id → patch.content = none) (now : Timestamp) :
    (table.update other patch now).2.Holds id content := by
  obtain ⟨hgiven, template, hfind, hcontent⟩ := h
  refine ⟨by rw [lastId_update]; exact hgiven, ?_⟩
  by_cases heq : other = id
  · refine ⟨patch.apply now template, ?_, ?_⟩
    · rw [find?_update, if_pos heq, hfind]
      rfl
    · simp [TemplatePatch.apply, hspared heq, hcontent]
  · refine ⟨template, ?_, hcontent⟩
    rw [find?_update, if_neg heq, hfind]

theorem delete (h : table.Holds id content) {other : Int} (hne : other ≠ id) :
    (table.delete other).2.Holds id content := by
  obtain ⟨hgiven, template, hfind, hcontent⟩ := h
  refine ⟨hgiven, template, ?_, hcontent⟩
  rw [find?_delete, if_neg hne, hfind]

end TemplateTable.Holds

namespace Templates

open Service

/-- The operation is not a deletion of the template, and not a change that would get a content
into it. -/
def Operation.SparesContent (id : Int) : Operation → Prop
  | .update other request =>
    other = id → request.content = none ∨ ∃ failure, acceptPatch request = .error failure
  | .delete other => other ≠ id
  | _ => True

theorem holds_leaves {memory : Memory} {id : Int} {content : Content} {operation : Operation}
    (h : memory.templates.Holds id content) (hspares : operation.SparesContent id)
    (now : Timestamp) : (operation.leaves now memory).templates.Holds id content := by
  rcases operation.leaves_cases now memory with heq | ⟨request, new, -, -, heq⟩ |
    ⟨other, request, patch, rfl, haccept, heq⟩ | ⟨other, rfl, heq⟩
  · rw [heq]
    exact h
  · rw [heq]
    exact h.create new now
  · rw [heq]
    refine h.update (fun hid => ?_) now
    obtain ⟨-, -, category, -, rfl⟩ := acceptPatch_eq_ok_iff.mp haccept
    rcases hspares hid with hnone | ⟨failure, hrefused⟩
    · exact hnone
    · rw [haccept] at hrefused
      cases hrefused
  · rw [heq]
    exact h.delete hspares

theorem holds_of_exec_create {memory : Memory} {now : Timestamp} {request : CreateRequest}
    {template : Template} (h : (exec now (create request) memory).1 = .ok template) :
    (exec now (create request) memory).2.templates.Holds template.id request.content := by
  rw [exec_create] at h ⊢
  cases haccept : accept request with
  | error failure =>
      rw [haccept] at h
      cases h
  | ok new =>
      rw [haccept] at h
      cases h
      obtain ⟨-, -, category, -, rfl⟩ := accept_eq_ok_iff.mp haccept
      exact .of_create memory.templates _ now

/-- A stored content stays through every history of operations that spare it. -/
theorem holds_after {memory : Memory} {id : Int} {content : Content} {history : History}
    (h : memory.templates.Holds id content)
    (hspares : ∀ step ∈ history, step.2.SparesContent id) :
    (history.after memory).templates.Holds id content := by
  induction history generalizing memory with
  | nil => exact h
  | cons step rest ih =>
      obtain ⟨hstep, hrest⟩ := List.forall_mem_cons.mp hspares
      exact ih (holds_leaves h hstep step.1) hrest

section Holds

variable {memory : Memory} {id : Int} {content : Content}

theorem exec_render_of_holds (h : memory.templates.Holds id content)
    (hcheck : content.check = .ok ()) (now : Timestamp) (members : List (String × Json.Value)) :
    (exec now (render id { values := some (.object members) }) memory).1 =
      .ok
        { content := content.render (SortedMap.ofList members)
          names := content.variableNames } := by
  obtain ⟨template, hfind, rfl⟩ := h.stored
  obtain ⟨hmem, rfl⟩ := TemplateTable.find?_eq_some_iff.mp hfind
  exact exec_render_of_mem hmem hcheck now members

theorem exec_variableNames_of_holds (h : memory.templates.Holds id content)
    (hcheck : content.check = .ok ()) (now : Timestamp) :
    (exec now (variableNames id) memory).1 = .ok content.variableNames := by
  obtain ⟨template, hfind, rfl⟩ := h.stored
  obtain ⟨hmem, rfl⟩ := TemplateTable.find?_eq_some_iff.mp hfind
  exact exec_variableNames_of_mem hmem hcheck now

end Holds

theorem preview_eq_map_checkContent (content : Content) (members : List (String × Json.Value)) :
    preview { content := content, values := some (.object members) } =
      (checkContent content).map fun _ =>
        { content := content.render (SortedMap.ofList members)
          names := content.variableNames } := by
  change renderContent content _ = _
  rw [renderContent, checkContent, Content.renderChecked]
  cases content.check <;> rfl

theorem preview_eq_ok_iff {content : Content} {members : List (String × Json.Value)}
    {rendering : Rendering} :
    preview { content := content, values := some (.object members) } = .ok rendering ↔
      content.check = .ok () ∧
        rendering =
          { content := content.render (SortedMap.ofList members)
            names := content.variableNames } := by
  rw [preview_eq_map_checkContent, ← checkContent_eq_ok_iff]
  cases checkContent content with
  | error failure => exact iff_of_false (fun h => nomatch h) fun h => nomatch h.1
  | ok => simp [Except.map, eq_comm]

/-- **A preview foretells what is stored.** Where title and category are in order, a content can be
previewed exactly when a template can be created from it, with the same failure if not, and the
template goes on to render and to name its variables as the preview did. -/
theorem preview_agrees_with_stored (memory : Memory) (now : Timestamp) {request : CreateRequest}
    {category : Category} (htitle : IsTitle request.title)
    (hcategory : chooseCategory request.category = .ok category)
    (members : List (String × Json.Value)) :
    let values : Option Json.Value := some (.object members)
    let previewed := preview { content := request.content, values := values }
    let created := exec now (create request) memory
    ((∃ rendering, previewed = .ok rendering) ↔ ∃ template, created.1 = .ok template) ∧
    (∀ failure, previewed = .error failure ↔ created.1 = .error failure) ∧
    ∀ rendering template, previewed = .ok rendering → created.1 = .ok template →
      ∀ later : History, (∀ step ∈ later, step.2.SparesContent template.id) → ∀ moment,
        (exec moment (render template.id { values := values }) (later.after created.2)).1 =
          .ok rendering ∧
        (exec moment (variableNames template.id) (later.after created.2)).1 =
          .ok rendering.names := by
  intro values previewed created
  have hpreviewed : previewed = (checkContent request.content).map _ :=
    preview_eq_map_checkContent request.content members
  have haccept := accept_eq_map_checkContent htitle hcategory
  have hanswered : created.1 = (checkContent request.content).map fun _ =>
      (memory.templates.create
        { title := request.title
          description := request.description
          content := request.content
          category := category } now).1 := by
    refine (fst_exec_create now memory request).trans ?_
    rw [haccept]
    cases checkContent request.content <;> rfl
  obtain ⟨hok, herror⟩ := except_agree_of_eq_map hpreviewed hanswered
  refine ⟨hok, herror, ?_⟩
  intro rendering template hrendering htemplate later hspares moment
  obtain ⟨hfit, rfl⟩ := preview_eq_ok_iff.mp hrendering
  have hholds := holds_after (holds_of_exec_create htemplate) hspares
  exact ⟨exec_render_of_holds hholds hfit moment members,
    exec_variableNames_of_holds hholds hfit moment⟩

/-- An invitation that gets another title, and that a change without a name in its token does not
get into. -/
theorem invitation_renders_as_previewed :
    let invitation : CreateRequest :=
      { title := "Invitation"
        description := none
        content := .plain "Dear {{ name | reader }}"
        category := some " email" }
    let later : History :=
      [(⟨60, 0⟩, .update 1 { title := some "Party" }),
        (⟨120, 0⟩, .update 1 { content := some (.plain "Dear {{ }}") }),
        (⟨180, 0⟩, .delete 2)]
    let values : Option Json.Value := some (.object [("name", .string "Ana")])
    let rendering : Rendering := { content := .plain "Dear Ana", names := ["name"] }
    IsTitle invitation.title ∧ chooseCategory invitation.category = .ok .email ∧
      (∀ step ∈ later, step.2.SparesContent 1) ∧
      preview { content := invitation.content, values := values } = .ok rendering ∧
      (exec ⟨240, 0⟩ (render 1 { values := values })
        (later.after (exec ⟨0, 0⟩ (create invitation) .empty).2)).1 = .ok rendering := by
  intro invitation later values rendering
  let stored : Template :=
    { id := 1
      title := "Invitation"
      description := none
      content := invitation.content
      category := .email
      createdAt := ⟨0, 0⟩
      updatedAt := ⟨0, 0⟩ }
  have htitle : IsTitle invitation.title := ⟨by decide, by decide, by decide⟩
  have hcategory : chooseCategory invitation.category = .ok .email := by decide +kernel
  have hpreviewed : preview { content := invitation.content, values := values } =
      .ok rendering := by decide +kernel
  have hcreated : (exec ⟨0, 0⟩ (create invitation) .empty).1 = .ok stored := by decide +kernel
  have hrefused : acceptPatch { content := some (.plain "Dear {{ }}") } =
      .error (.unfit (.nameless "{{ }}")) := by decide +kernel
  have hspares : ∀ step ∈ later, step.2.SparesContent 1 := by
    intro step hstep
    rcases List.mem_cons.mp hstep with rfl | hstep
    · exact fun _ => Or.inl rfl
    · rcases List.mem_cons.mp hstep with rfl | hstep
      · exact fun _ => Or.inr ⟨_, hrefused⟩
      · cases List.mem_singleton.mp hstep
        exact (by decide : (2 : Int) ≠ 1)
  have hagrees := preview_agrees_with_stored .empty ⟨0, 0⟩ htitle hcategory
    [("name", .string "Ana")]
  exact ⟨htitle, hcategory, hspares, hpreviewed,
    (hagrees.2.2 rendering stored hpreviewed hcreated later hspares ⟨240, 0⟩).1⟩

end Templates

end FormLetter
