import FormLetter.Proofs.Service.Acceptance
import FormLetter.Proofs.Service.History
import FormLetter.Proofs.Store.Table

/-!
# What is stored

Creating and changing are the only ways into the table of templates, and both look at what they
write. So every stored template has a proper title and a fit content, and asking for a stored
template's rendering or for its names never ends in a complaint about its content.
-/

namespace FormLetter

namespace Templates

open Service

/-- A template as it may be stored. -/
structure IsSound (template : Template) : Prop where
  title : IsTitle template.title
  content : template.content.IsFit

theorem IsSound.toTemplate {request : CreateRequest} {new : NewTemplate}
    (h : accept request = .ok new) (id : Int) (now : Timestamp) :
    IsSound (new.toTemplate id now) := by
  obtain ⟨htitle, hcontent, category, -, rfl⟩ := accept_eq_ok_iff.mp h
  exact ⟨htitle, Content.check_eq_ok_iff_isFit.mp hcontent⟩

/-- A change that has been taken in leaves a sound template sound. -/
theorem IsSound.apply {template : Template} (hsound : IsSound template) {request : UpdateRequest}
    {patch : TemplatePatch} (h : acceptPatch request = .ok patch) (now : Timestamp) :
    IsSound (patch.apply now template) := by
  obtain ⟨htitle, hcontent, category, -, rfl⟩ := acceptPatch_eq_ok_iff.mp h
  constructor
  · cases hgiven : request.title with
    | none => simpa [TemplatePatch.apply, hgiven] using hsound.title
    | some title => simpa [TemplatePatch.apply, hgiven] using htitle title hgiven
  · cases hgiven : request.content with
    | none => simpa [TemplatePatch.apply, hgiven] using hsound.content
    | some content =>
        simpa [TemplatePatch.apply, hgiven] using
          Content.check_eq_ok_iff_isFit.mp (hcontent content hgiven)

theorem kept_isSound : Kept fun table => ∀ template ∈ table.rows, IsSound template where
  create now haccept hrows row hrow := by
    rcases TemplateTable.mem_rows_create hrow with rfl | hmem
    · exact .toTemplate haccept _ now
    · exact hrows row hmem
  update id now haccept hrows row hrow := by
    rcases TemplateTable.mem_rows_update hrow with ⟨template, hmem, rfl⟩ | hmem
    · exact (hrows template hmem).apply haccept now
    · exact hrows row hmem
  delete id hrows row hrow := hrows row (TemplateTable.mem_rows_delete.mp hrow).1

theorem isSound_of_mem_after {history : History} {template : Template}
    (h : template ∈ (history.after .empty).templates.rows) : IsSound template :=
  kept_isSound.after history (fun _ hempty => absurd hempty List.not_mem_nil) template h

theorem renderContent_of_check {content : Content} (h : content.check = .ok ())
    (values : Variables) :
    renderContent content values =
      .ok { content := content.render values, names := content.variableNames } := by
  rw [renderContent, Content.renderChecked, h]
  rfl

theorem exec_render_of_mem {memory : Memory} {template : Template}
    (hmem : template ∈ memory.templates.rows) (h : template.content.check = .ok ())
    (now : Timestamp) (members : List (String × Json.Value)) :
    (exec now (render template.id { values := some (.object members) }) memory).1 =
      .ok
        { content := template.content.render (SortedMap.ofList members)
          names := template.content.variableNames } := by
  have hfind := TemplateTable.find?_eq_some_iff.mpr ⟨hmem, rfl⟩
  rw [exec_render, hfind]
  exact renderContent_of_check h _

theorem exec_variableNames_of_mem {memory : Memory} {template : Template}
    (hmem : template ∈ memory.templates.rows) (h : template.content.check = .ok ())
    (now : Timestamp) :
    (exec now (variableNames template.id) memory).1 = .ok template.content.variableNames := by
  have hfind := TemplateTable.find?_eq_some_iff.mpr ⟨hmem, rfl⟩
  have hcontent := checkContent_eq_ok_iff.mpr h
  rw [exec_variableNames, hfind]
  change (checkContent template.content >>= _) = _
  rw [hcontent]
  rfl

theorem eq_missingVariables_of_error {given : Option Json.Value} {failure : Failure}
    (h : requireVariables given = .error failure) : failure = .missingVariables := by
  unfold requireVariables at h
  split at h
  next => cases h
  next =>
    cases h
    rfl

theorem exec_render_ne_unfit {memory : Memory}
    (h : ∀ template ∈ memory.templates.rows, template.content.check = .ok ()) (now : Timestamp)
    (id : Int) (request : RenderRequest) (fault : TextFault) :
    (exec now (render id request) memory).1 ≠ .error (.unfit fault) := by
  intro hexec
  rw [exec_render] at hexec
  cases hvalues : requireVariables request.values with
  | error failure =>
      rw [hvalues] at hexec
      cases hexec
      exact nomatch eq_missingVariables_of_error hvalues
  | ok values =>
      rw [hvalues] at hexec
      cases hfind : memory.templates.find? id with
      | none =>
          rw [hfind] at hexec
          cases hexec
      | some template =>
          have hmem := (TemplateTable.find?_eq_some_iff.mp hfind).1
          rw [hfind] at hexec
          exact nomatch (renderContent_of_check (h template hmem) values).symm.trans hexec

theorem exec_variableNames_ne_unfit {memory : Memory}
    (h : ∀ template ∈ memory.templates.rows, template.content.check = .ok ()) (now : Timestamp)
    (id : Int) (fault : TextFault) :
    (exec now (variableNames id) memory).1 ≠ .error (.unfit fault) := by
  intro hexec
  cases hfind : memory.templates.find? id with
  | none =>
      rw [exec_variableNames, hfind] at hexec
      cases hexec
  | some template =>
      obtain ⟨hmem, rfl⟩ := TemplateTable.find?_eq_some_iff.mp hfind
      rw [exec_variableNames_of_mem hmem (h template hmem)] at hexec
      cases hexec

/-- **What is stored can be rendered.** After every history, the stored templates have proper titles
and fit contents, each of them can be rendered and asked for its names, and no one who asks is told
of a fault in a stored content. -/
theorem stored_isSound_and_renderable (history : History) :
    (∀ template ∈ (history.after .empty).templates.rows,
      IsSound template ∧ template.content.check = .ok () ∧
      ∀ now members,
        (exec now (render template.id { values := some (.object members) })
            (history.after .empty)).1 =
          .ok
            { content := template.content.render (SortedMap.ofList members)
              names := template.content.variableNames } ∧
        (exec now (variableNames template.id) (history.after .empty)).1 =
          .ok template.content.variableNames) ∧
    ∀ now id fault,
      (∀ request, (exec now (render id request) (history.after .empty)).1 ≠
        .error (.unfit fault)) ∧
      (exec now (variableNames id) (history.after .empty)).1 ≠ .error (.unfit fault) := by
  have hcheck : ∀ template ∈ (history.after .empty).templates.rows,
      template.content.check = .ok () :=
    fun template hmem => Content.check_eq_ok_iff_isFit.mpr (isSound_of_mem_after hmem).content
  constructor
  · intro template hmem
    have hok := hcheck template hmem
    exact ⟨isSound_of_mem_after hmem, hok, fun now members =>
      ⟨exec_render_of_mem hmem hok now members, exec_variableNames_of_mem hmem hok now⟩⟩
  · intro now id fault
    exact ⟨fun request => exec_render_ne_unfit hcheck now id request fault,
      exec_variableNames_ne_unfit hcheck now id fault⟩

/-- A letter that was created and then got another title. -/
theorem renamed_letter_renderable :
    let memory := History.after
      [(⟨0, 0⟩, .create
          { title := "Letter"
            description := none
            content := .plain "Dear {{ name | reader }}"
            category := none }),
        (⟨60, 0⟩, .update 1 { title := some "Invitation" })] .empty
    ∃ template ∈ memory.templates.rows, template.title = "Invitation" ∧ IsSound template ∧
      (exec ⟨120, 0⟩ (render template.id { values := some (.object []) }) memory).1 =
        .ok { content := .plain "Dear reader", names := ["name"] } := by
  intro memory
  let letter : Template :=
    { id := 1
      title := "Invitation"
      description := none
      content := .plain "Dear {{ name | reader }}"
      category := .other
      createdAt := ⟨0, 0⟩
      updatedAt := ⟨60, 0⟩ }
  have hmem : letter ∈ memory.templates.rows := by decide +kernel
  obtain ⟨hsound, -, hexec⟩ := (stored_isSound_and_renderable _).1 letter hmem
  exact ⟨letter, hmem, rfl, hsound,
    (hexec ⟨120, 0⟩ []).1.trans (congrArg Except.ok (by decide +kernel))⟩

end Templates

end FormLetter
