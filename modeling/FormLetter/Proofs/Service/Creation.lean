import FormLetter.Proofs.Category
import FormLetter.Proofs.Service.Acceptance
import FormLetter.Proofs.Store.Table

/-!
# New templates

A request for a new template is met exactly when there is nothing to object to in it, and what is
then stored is what was sent, under the category that was asked for. Of several objections the first
is told, in the order of title, content and category.
-/

namespace FormLetter.Templates

open Category Service

/-- What there is to object to in a request: the first that applies of a title of a wrong length, a
blank title, an unfit content and a category that is none. -/
inductive Objection (request : CreateRequest) : Failure → Prop where
  | titleLength (length : ¬(1 ≤ request.title.length ∧ request.title.length ≤ 150)) :
      Objection request (.invalidField "title" "Title must be 1 to 150 characters")
  | titleBlank (length : 1 ≤ request.title.length ∧ request.title.length ≤ 150)
      (blank : IsBlankText request.title) : Objection request (.invalid "Title cannot be blank")
  | content {fault : TextFault} (title : IsTitle request.title)
      (unfit : request.content.check = .error fault) : Objection request (.unfit fault)
  | category {text : String} (title : IsTitle request.title)
      (content : request.content.check = .ok ()) (given : request.category = some text)
      (unknown : ∀ category, ¬AskedFor (some text) category) :
      Objection request (.invalidCategory text Category.allowed)

theorem checkTitleLength_eq_error_iff {title : String} {failure : Failure} :
    checkTitleLength title = .error failure ↔
      ¬(1 ≤ title.length ∧ title.length ≤ 150) ∧
        failure = .invalidField "title" "Title must be 1 to 150 characters" := by
  rw [checkTitleLength, titleLimit]
  split
  next h =>
    refine iff_of_false ?_ fun hnot => hnot.1 h
    intro heq
    cases heq
  next h => rw [Except.error.injEq, eq_comm, and_iff_right h]

theorem checkTitleNotBlank_eq_error_iff {title : String} {failure : Failure} :
    checkTitleNotBlank title = .error failure ↔
      IsBlankText title ∧ failure = .invalid "Title cannot be blank" := by
  rw [checkTitleNotBlank]
  split
  next h => rw [Except.error.injEq, eq_comm, and_iff_right h]
  next h =>
    refine iff_of_false ?_ fun hblank => h hblank.1
    intro heq
    cases heq

theorem checkContent_eq_error_iff {content : Content} {failure : Failure} :
    checkContent content = .error failure ↔
      ∃ fault, content.check = .error fault ∧ failure = .unfit fault :=
  except_mapError_eq_error_iff

theorem accept_eq_error_iff {request : CreateRequest} {failure : Failure} :
    accept request = .error failure ↔ Objection request failure := by
  simp only [accept, except_check_bind_eq_error_iff, except_bind_pure_eq_error_iff,
    checkTitleLength_eq_ok_iff, checkTitleLength_eq_error_iff, checkTitleNotBlank_eq_ok_iff,
    checkTitleNotBlank_eq_error_iff, checkContent_eq_ok_iff, checkContent_eq_error_iff,
    chooseCategory_eq_error_iff, CategoryChoice.ofText_eq_raw_iff]
  constructor
  · rintro (⟨hlength, rfl⟩ | ⟨hlength, ⟨hblank, rfl⟩ | ⟨hnot, ⟨fault, hunfit, rfl⟩ |
      ⟨hcontent, text, ⟨hgiven, hunknown⟩, rfl⟩⟩⟩)
    · exact .titleLength hlength
    · exact .titleBlank hlength hblank
    · exact .content ⟨hlength.1, hlength.2, hnot⟩ hunfit
    · exact .category ⟨hlength.1, hlength.2, hnot⟩ hcontent hgiven (hgiven ▸ hunknown)
  · intro h
    cases h with
    | titleLength hlength => exact Or.inl ⟨hlength, rfl⟩
    | titleBlank hlength hblank => exact Or.inr ⟨hlength, Or.inl ⟨hblank, rfl⟩⟩
    | content htitle hunfit =>
        refine Or.inr ⟨⟨htitle.length_pos, htitle.length_le⟩, Or.inr ⟨htitle.not_blank, ?_⟩⟩
        exact Or.inl ⟨_, hunfit, rfl⟩
    | category htitle hcontent hgiven hunknown =>
        refine Or.inr ⟨⟨htitle.length_pos, htitle.length_le⟩, Or.inr ⟨htitle.not_blank, ?_⟩⟩
        exact Or.inr ⟨hcontent, _, ⟨hgiven, hgiven ▸ hunknown⟩, rfl⟩

theorem exists_accept_eq_ok_iff {request : CreateRequest} :
    (∃ new, accept request = .ok new) ↔
      IsTitle request.title ∧ request.content.check = .ok () ∧
        ∃ category, AskedFor request.category category := by
  simp only [accept_eq_ok_iff, chooseCategory_eq_ok_iff]
  constructor
  · rintro ⟨new, htitle, hcontent, category, hasked, -⟩
    exact ⟨htitle, hcontent, category, hasked⟩
  · rintro ⟨htitle, hcontent, category, hasked⟩
    exact ⟨_, htitle, hcontent, category, hasked, rfl⟩

/-- What a request that is met leaves in the stores. -/
structure StoredAs (request : CreateRequest) (table : TemplateTable) (template : Template) :
    Prop where
  stored : table.find? template.id = some template
  title : template.title = request.title
  description : template.description = request.description
  content : template.content = request.content
  category : AskedFor request.category template.category

theorem storedAs_create {request : CreateRequest} {new : NewTemplate}
    (h : accept request = .ok new) (table : TemplateTable) (now : Timestamp) :
    StoredAs request (table.create new now).2 (table.create new now).1 := by
  obtain ⟨-, -, category, hcategory, rfl⟩ := accept_eq_ok_iff.mp h
  refine ⟨?_, rfl, rfl, rfl, chooseCategory_eq_ok_iff.mp hcategory⟩
  rw [TemplateTable.find?_create]
  exact if_pos rfl

/-- **A request is met or the first objection to it is told.** A template is created exactly when
title, content and category pass, and is then stored as it was sent, under the category that was
asked for. Otherwise the failure is the first objection in the order of the checks, and one to the
category quotes it as it was sent. -/
theorem created_unless_objected (request : CreateRequest) (now : Timestamp) (memory : Memory) :
    let answer := (exec now (create request) memory).1
    let after := (exec now (create request) memory).2
    ((∃ template, answer = .ok template) ↔
      IsTitle request.title ∧ request.content.check = .ok () ∧
        ∃ category, AskedFor request.category category) ∧
    (∀ template, answer = .ok template → StoredAs request after.templates template) ∧
    (∀ failure, answer = .error failure ↔ Objection request failure) ∧
    ∀ value allowed, answer = .error (.invalidCategory value allowed) →
      request.category = some value := by
  intro answer after
  have hanswer : answer = (accept request).map fun new =>
      new.toTemplate (memory.templates.lastId + 1) now := fst_exec_create now memory request
  have hfailed : ∀ failure, answer = .error failure ↔ Objection request failure := by
    intro failure
    rw [hanswer, except_map_eq_error_iff, accept_eq_error_iff]
  refine ⟨?_, fun template htemplate => ?_, hfailed, fun value allowed hvalue => ?_⟩
  · rw [← exists_accept_eq_ok_iff, hanswer]
    simp only [except_map_eq_ok_iff]
    constructor
    · rintro ⟨template, new, haccept, -⟩
      exact ⟨new, haccept⟩
    · rintro ⟨new, haccept⟩
      exact ⟨_, new, haccept, rfl⟩
  · rw [hanswer, except_map_eq_ok_iff] at htemplate
    obtain ⟨new, haccept, rfl⟩ := htemplate
    have hafter : after.templates = (memory.templates.create new now).2 := by
      change (exec now (create request) memory).2.templates = _
      rw [exec_create, haccept]
    rw [hafter]
    exact storedAs_create haccept memory.templates now
  · cases (hfailed _).mp hvalue with
    | category htitle hcontent hgiven hunknown => exact hgiven

/-- A blank title is told before what is wrong with the content and the category. -/
example : accept
    { title := " ", description := none, content := .plain "{{ }}", category := some "Poetry" } =
      .error (.invalid "Title cannot be blank") := by
  decide +kernel

end FormLetter.Templates
