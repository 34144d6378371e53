import FormLetter.Proofs.Fitness
import FormLetter.Proofs.Service.Run

/-!
# What the services take in

A request to create a template is taken in when its title, its content and its category pass, and a
change when what it holds does. Either way nothing gets to the stores that is not a proper title or
a fit content.
-/

namespace FormLetter.Templates

/-- One to 150 characters, not all of them blank. -/
structure IsTitle (title : String) : Prop where
  length_pos : 1 ≤ title.length
  length_le : title.length ≤ 150
  not_blank : ¬IsBlankText title

theorem checkTitleLength_eq_ok_iff {title : String} :
    checkTitleLength title = .ok () ↔ 1 ≤ title.length ∧ title.length ≤ 150 := by
  rw [checkTitleLength, titleLimit]
  split
  next h => exact iff_of_true rfl h
  next h => exact iff_of_false (fun heq => nomatch heq) h

theorem checkTitleNotBlank_eq_ok_iff {title : String} :
    checkTitleNotBlank title = .ok () ↔ ¬IsBlankText title := by
  rw [checkTitleNotBlank, ite_error_eq_ok_iff]
  exact and_iff_left rfl

theorem isTitle_iff_checks {title : String} :
    IsTitle title ↔ checkTitleLength title = .ok () ∧ checkTitleNotBlank title = .ok () := by
  rw [checkTitleLength_eq_ok_iff, checkTitleNotBlank_eq_ok_iff]
  constructor
  · rintro ⟨hpos, hle, hblank⟩
    exact ⟨⟨hpos, hle⟩, hblank⟩
  · rintro ⟨⟨hpos, hle⟩, hblank⟩
    exact ⟨hpos, hle, hblank⟩

theorem checkContent_eq_ok_iff {content : Content} :
    checkContent content = .ok () ↔ content.check = .ok () :=
  except_mapError_eq_ok_iff

theorem checkPresent_eq_ok_iff {α : Type} {check : α → Except Failure Unit} {given : Option α} :
    checkPresent check given = .ok () ↔ ∀ a ∈ given, check a = .ok () := by
  cases given with
  | none => exact iff_of_true rfl fun _ h => nomatch h
  | some a => simp [checkPresent]

theorem accept_eq_ok_iff {request : CreateRequest} {new : NewTemplate} :
    accept request = .ok new ↔
      IsTitle request.title ∧ request.content.check = .ok () ∧
        ∃ category, chooseCategory request.category = .ok category ∧
          new =
            { title := request.title
              description := request.description
              content := request.content
              category := category } := by
  rw [accept, isTitle_iff_checks, ← checkContent_eq_ok_iff]
  simp only [except_bind_eq_ok_iff]
  constructor
  · rintro ⟨_, hlength, _, hblank, _, hcontent, category, hcategory, hnew⟩
    cases hnew
    exact ⟨⟨hlength, hblank⟩, hcontent, category, hcategory, rfl⟩
  · rintro ⟨⟨hlength, hblank⟩, hcontent, category, hcategory, rfl⟩
    exact ⟨(), hlength, (), hblank, (), hcontent, category, hcategory, rfl⟩

/-- With a proper title and a known category it is the content alone that decides. -/
theorem accept_eq_map_checkContent {request : CreateRequest} {category : Category}
    (htitle : IsTitle request.title) (hcategory : chooseCategory request.category = .ok category) :
    accept request = (checkContent request.content).map fun _ =>
      { title := request.title
        description := request.description
        content := request.content
        category := category } := by
  obtain ⟨hlength, hblank⟩ := isTitle_iff_checks.mp htitle
  rw [accept, hlength, hblank, hcategory]
  cases checkContent request.content <;> rfl

/-- The category to change to, where a text for one is given. -/
def patchCategory : Option String → Except Failure (Option Category)
  | none => .ok none
  | some text => (chooseCategory (some text)).map some

theorem acceptPatch_eq (request : UpdateRequest) :
    acceptPatch request = (do
      checkPresent checkTitleLength request.title
      checkPresent checkTitleNotBlank request.title
      checkPresent checkContent request.content
      let category ← patchCategory request.category
      pure
        { title := request.title
          description := request.description
          content := request.content
          category := category }) := by
  obtain ⟨title, description, content, category⟩ := request
  cases category <;> rfl

theorem acceptPatch_eq_ok_iff {request : UpdateRequest} {patch : TemplatePatch} :
    acceptPatch request = .ok patch ↔
      (∀ title ∈ request.title, IsTitle title) ∧
        (∀ content ∈ request.content, content.check = .ok ()) ∧
        ∃ category, patchCategory request.category = .ok category ∧
          patch =
            { title := request.title
              description := request.description
              content := request.content
              category := category } := by
  rw [acceptPatch_eq]
  simp only [except_bind_eq_ok_iff, isTitle_iff_checks, ← checkContent_eq_ok_iff]
  constructor
  · rintro ⟨_, hlength, _, hblank, _, hcontent, category, hchosen, hpatch⟩
    cases hpatch
    have htitle := fun title h => And.intro (checkPresent_eq_ok_iff.mp hlength title h)
      (checkPresent_eq_ok_iff.mp hblank title h)
    exact ⟨htitle, checkPresent_eq_ok_iff.mp hcontent, category, hchosen, rfl⟩
  · rintro ⟨htitle, hcontent, category, hchosen, rfl⟩
    have hlength := checkPresent_eq_ok_iff.mpr fun title h => (htitle title h).1
    have hblank := checkPresent_eq_ok_iff.mpr fun title h => (htitle title h).2
    exact ⟨(), hlength, (), hblank, (), checkPresent_eq_ok_iff.mpr hcontent, category, hchosen, rfl⟩

end FormLetter.Templates
