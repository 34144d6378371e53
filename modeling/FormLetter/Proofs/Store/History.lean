import FormLetter.Proofs.Store.Table
import Mathlib.Algebra.Group.Nat.Defs
import Mathlib.Data.List.Induction

/-!
# The table of templates as a history of calls

All that the table holds can be told from the calls that were made. The n-th creation gives the id
n, and from then on the row under that id is the created template with the last value that an update
gave to each of its parts, until it is deleted. A step lemma says what one call does to the row
under an id that was given out, and an induction over the later calls carries it to the whole
history.
-/

namespace FormLetter

/-- Calls to the stores in the order in which they are made, each with the time at which it is. -/
abbrev CallHistory : Type :=
  List (Timestamp × StoreCall)

/-- The last value that updates give to a part of a template. -/
def lastGiven {α : Type} (part : TemplatePatch → Option α)
    (updates : List (Timestamp × TemplatePatch)) : Option α :=
  (updates.filterMap fun update => part update.2).getLast?

/-- A template as created, with what updates have put in place of its parts since. -/
def NewTemplate.revised (new : NewTemplate) (id : Int) (created : Timestamp)
    (updates : List (Timestamp × TemplatePatch)) : Template where
  id := id
  title := (lastGiven TemplatePatch.title updates).getD new.title
  description := (lastGiven TemplatePatch.description updates).or new.description
  content := (lastGiven TemplatePatch.content updates).getD new.content
  category := (lastGiven TemplatePatch.category updates).getD new.category
  createdAt := created
  updatedAt := (updates.getLast?.map Prod.fst).getD created

theorem lastGiven_append_singleton {α : Type} (part : TemplatePatch → Option α)
    (updates : List (Timestamp × TemplatePatch)) (now : Timestamp) (patch : TemplatePatch) :
    lastGiven part (updates ++ [(now, patch)]) = (part patch).or (lastGiven part updates) := by
  unfold lastGiven
  rw [List.filterMap_append]
  cases hpart : part patch with
  | none => simp [hpart]
  | some value => simp [hpart]

theorem NewTemplate.revised_append_singleton (new : NewTemplate) (id : Int) (created : Timestamp)
    (updates : List (Timestamp × TemplatePatch)) (now : Timestamp) (patch : TemplatePatch) :
    new.revised id created (updates ++ [(now, patch)]) =
      patch.apply now (new.revised id created updates) := by
  simp [revised, TemplatePatch.apply, lastGiven_append_singleton, Option.or_assoc]

namespace Memory

variable {memory : Memory} {id : Int} {template : Template}

theorem lastId_perform (memory : Memory) (now : Timestamp) (call : StoreCall) :
    (memory.perform now call).2.templates.lastId =
      memory.templates.lastId + if call matches .createTemplate _ then 1 else 0 := by
  cases call with
  | createTemplate new => rfl
  | updateTemplate other patch => simp [perform, TemplateTable.lastId_update]
  | findTemplate | deleteTemplate | listTemplates | ping | createAccount | findAccount =>
      simp [perform, TemplateTable.delete]

theorem find?_perform (hgiven : id ≤ memory.templates.lastId) (now : Timestamp)
    (call : StoreCall) :
    (memory.perform now call).2.templates.find? id =
      match call with
      | .updateTemplate other patch =>
        if other = id then (memory.templates.find? id).map (patch.apply now)
        else memory.templates.find? id
      | .deleteTemplate other => if other = id then none else memory.templates.find? id
      | _ => memory.templates.find? id := by
  cases call with
  | createTemplate new =>
      have hne : memory.templates.lastId + 1 ≠ id := by omega
      exact (TemplateTable.find?_create new now).trans (if_neg hne)
  | updateTemplate other patch => exact TemplateTable.find?_update other patch now
  | deleteTemplate other => exact TemplateTable.find?_delete other
  | findTemplate | listTemplates | ping | createAccount | findAccount => rfl

/-- Only a creation brings in a row, and it brings it in under the next id. -/
theorem eq_create_of_find?_perform {now : Timestamp} {call : StoreCall}
    (h : (memory.perform now call).2.templates.find? id = some template) :
    (∃ new, call = .createTemplate new ∧ id = memory.templates.lastId + 1) ∨
      ∃ row, memory.templates.find? id = some row := by
  cases call with
  | createTemplate new =>
      by_cases hid : memory.templates.lastId + 1 = id
      · exact Or.inl ⟨new, rfl, hid.symm⟩
      · have hfind := (TemplateTable.find?_create new now).symm.trans h
        rw [if_neg hid] at hfind
        exact Or.inr ⟨template, hfind⟩
  | updateTemplate other patch =>
      have hfind := (TemplateTable.find?_update other patch now).symm.trans h
      split at hfind
      · obtain ⟨row, hrow, -⟩ := Option.map_eq_some_iff.mp hfind
        exact Or.inr ⟨row, hrow⟩
      · exact Or.inr ⟨template, hfind⟩
  | deleteTemplate other =>
      have hfind := (TemplateTable.find?_delete other).symm.trans h
      split at hfind
      · cases hfind
      · exact Or.inr ⟨template, hfind⟩
  | findTemplate | listTemplates | ping | createAccount | findAccount => exact Or.inr ⟨_, h⟩

end Memory

namespace CallHistory

variable {history later : CallHistory} {id : Int}

def after (history : CallHistory) : Memory :=
  history.foldl (fun memory step => (memory.perform step.1 step.2).2) .empty

def creations (history : CallHistory) : Nat :=
  history.countP fun step => step.2 matches .createTemplate _

def updates (history : CallHistory) (id : Int) : List (Timestamp × TemplatePatch) :=
  history.filterMap fun step =>
    match step.2 with
    | .updateTemplate other patch => if other = id then some (step.1, patch) else none
    | _ => none

def Deletes (history : CallHistory) (id : Int) : Prop :=
  ∃ now, (now, StoreCall.deleteTemplate id) ∈ history

/-- In the history stands the creation that gives the id, with the later calls after it. -/
def Creates (history : CallHistory) (id : Int) (now : Timestamp) (new : NewTemplate)
    (later : CallHistory) : Prop :=
  ∃ before : CallHistory,
    history = before ++ (now, .createTemplate new) :: later ∧ id = before.creations + 1

theorem after_append_singleton (history : CallHistory) (now : Timestamp) (call : StoreCall) :
    after (history ++ [(now, call)]) = (history.after.perform now call).2 := by
  simp [after]

theorem creations_append_singleton (history : CallHistory) (now : Timestamp) (call : StoreCall) :
    creations (history ++ [(now, call)]) =
      history.creations + if call matches .createTemplate _ then 1 else 0 := by
  cases call <;> simp [creations]

theorem lastId_after (history : CallHistory) :
    history.after.templates.lastId = history.creations := by
  induction history using List.reverseRecOn with
  | nil => rfl
  | append_singleton history step ih =>
      obtain ⟨now, call⟩ := step
      rw [after_append_singleton, Memory.lastId_perform, ih, creations_append_singleton]
      split <;> simp

theorem Creates.append_singleton {now : Timestamp} {new : NewTemplate}
    (h : history.Creates id now new later) (step : Timestamp × StoreCall) :
    Creates (history ++ [step]) id now new (later ++ [step]) := by
  obtain ⟨before, rfl, hid⟩ := h
  exact ⟨before, by simp, hid⟩

theorem Creates.le_creations {now : Timestamp} {new : NewTemplate}
    (h : history.Creates id now new later) : 1 ≤ id ∧ id ≤ history.creations := by
  obtain ⟨before, rfl, rfl⟩ := h
  have hcount : creations (before ++ (now, .createTemplate new) :: later) =
      before.creations + (later.creations + 1) := by
    simp [creations]
  omega

theorem deletes_append_singleton (now : Timestamp) (call : StoreCall) :
    Deletes (history ++ [(now, call)]) id ↔ history.Deletes id ∨ call = .deleteTemplate id := by
  unfold Deletes
  constructor
  · rintro ⟨moment, hmem⟩
    rcases List.mem_append.mp hmem with hmem | hmem
    · exact Or.inl ⟨moment, hmem⟩
    · cases List.mem_singleton.mp hmem
      exact Or.inr rfl
  · rintro (⟨moment, hmem⟩ | rfl)
    · exact ⟨moment, List.mem_append_left _ hmem⟩
    · exact ⟨now, List.mem_append_right _ (List.mem_singleton_self _)⟩

theorem updates_append_singleton (history : CallHistory) (id : Int) (now : Timestamp)
    (call : StoreCall) :
    updates (history ++ [(now, call)]) id =
      history.updates id ++
        match call with
        | .updateTemplate other patch => if other = id then [(now, patch)] else []
        | _ => [] := by
  unfold updates
  rw [List.filterMap_append]
  cases call with
  | updateTemplate other patch => by_cases hid : other = id <;> simp [hid]
  | createTemplate | findTemplate | deleteTemplate | listTemplates | ping | createAccount
  | findAccount => simp

theorem exists_creates {template : Template}
    (h : history.after.templates.find? id = some template) :
    ∃ now new later, history.Creates id now new later := by
  induction history using List.reverseRecOn generalizing template with
  | nil => cases h
  | append_singleton history step ih =>
      obtain ⟨now, call⟩ := step
      rw [after_append_singleton] at h
      rcases Memory.eq_create_of_find?_perform h with ⟨new, rfl, hid⟩ | ⟨row, hrow⟩
      · rw [lastId_after] at hid
        exact ⟨now, new, [], history, rfl, hid⟩
      · obtain ⟨created, new, later, hcreates⟩ := ih hrow
        exact ⟨created, new, _, hcreates.append_singleton (now, call)⟩

/-- Later calls have left the created template in its row, as their updates revise it, or no row if
one of them has deleted it. -/
structure ReflectedIn (later : CallHistory) (memory : Memory) (new : NewTemplate) (id : Int)
    (created : Timestamp) : Prop where
  gone : later.Deletes id → memory.templates.find? id = none
  kept : ¬later.Deletes id →
    memory.templates.find? id = some (new.revised id created (later.updates id))

namespace ReflectedIn

variable {memory next : Memory} {new : NewTemplate} {created : Timestamp}

theorem nil (h : memory.templates.find? id = some (new.toTemplate id created)) :
    ReflectedIn [] memory new id created where
  gone := fun ⟨_, hmem⟩ => absurd hmem List.not_mem_nil
  kept := fun _ => h

theorem of_find?_eq (h : later.ReflectedIn memory new id created)
    (heq : next.templates.find? id = memory.templates.find? id) :
    later.ReflectedIn next new id created where
  gone := fun hdeleted => heq.trans (h.gone hdeleted)
  kept := fun hkept => heq.trans (h.kept hkept)

theorem perform (h : later.ReflectedIn memory new id created)
    (hgiven : id ≤ memory.templates.lastId) (now : Timestamp) (call : StoreCall) :
    ReflectedIn (later ++ [(now, call)]) (memory.perform now call).2 new id created := by
  have hstep := Memory.find?_perform hgiven now call
  obtain ⟨hgone, hkept⟩ := h
  constructor <;> rw [hstep, deletes_append_singleton]
  · intro hdeleted
    cases call with
    | updateTemplate other patch =>
        have hnone := hgone (hdeleted.resolve_right nofun)
        simp only [hnone, Option.map_none, ite_self]
    | deleteTemplate other =>
        by_cases hid : other = id
        · exact if_pos hid
        · exact (if_neg hid).trans (hgone (hdeleted.resolve_right (by simpa using hid)))
    | createTemplate | findTemplate | listTemplates | ping | createAccount | findAccount =>
        exact hgone (hdeleted.resolve_right nofun)
  · intro hdeleted
    have hsome := hkept fun hbefore => hdeleted (Or.inl hbefore)
    rw [updates_append_singleton]
    cases call with
    | updateTemplate other patch =>
        by_cases hid : other = id
        · simp only [if_pos hid, NewTemplate.revised_append_singleton, hsome, Option.map_some]
        · simpa only [if_neg hid, List.append_nil] using hsome
    | deleteTemplate other =>
        have hid : other ≠ id := fun heq => hdeleted (Or.inr (congrArg _ heq))
        simpa only [if_neg hid, List.append_nil] using hsome
    | createTemplate | findTemplate | listTemplates | ping | createAccount | findAccount =>
        simpa only [List.append_nil] using hsome

end ReflectedIn

/-- **The row under an id.** From its creation on, the row is the created template as revised by the
later updates, and there is none once it has been deleted. -/
theorem find?_of_creates {now : Timestamp} {new : NewTemplate}
    (h : history.Creates id now new later) :
    (later.Deletes id → history.after.templates.find? id = none) ∧
    (¬later.Deletes id → history.after.templates.find? id =
      some (new.revised id now (later.updates id))) := by
  obtain ⟨before, rfl, rfl⟩ := h
  suffices h : later.ReflectedIn (after (before ++ (now, .createTemplate new) :: later)) new
      (before.creations + 1) now from ⟨h.gone, h.kept⟩
  induction later using List.reverseRecOn with
  | nil =>
      apply ReflectedIn.nil
      rw [after_append_singleton, ← lastId_after]
      exact (TemplateTable.find?_create new now).trans (if_pos rfl)
  | append_singleton later step ih =>
      obtain ⟨moment, call⟩ := step
      -- The id was given out before the next call, so the call does to the row what it does to any
      -- row that may be there.
      have hcreates : Creates (before ++ (now, .createTemplate new) :: later)
          (before.creations + 1) now new later := ⟨before, rfl, rfl⟩
      have hgiven : (before.creations + 1 : Int) ≤
          (after (before ++ (now, .createTemplate new) :: later)).templates.lastId := by
        rw [lastId_after]
        exact hcreates.le_creations.2
      have hreflected := ih.perform hgiven moment call
      rwa [← after_append_singleton, List.append_assoc, List.cons_append] at hreflected

theorem length_rows_after_le (history : CallHistory) :
    history.after.templates.rows.length ≤ history.creations := by
  apply TemplateTable.length_le_of_id_le history.after.templates.sorted
  intro row hrow
  have hfind := TemplateTable.find?_eq_some_iff.mpr ⟨hrow, rfl⟩
  obtain ⟨now, new, later, hcreates⟩ := exists_creates hfind
  exact hcreates.le_creations

def writtenId (history : CallHistory) : StoreCall → Option Int
  | .createTemplate _ => some (history.creations + 1)
  | .updateTemplate id _ | .deleteTemplate id => some id
  | _ => none

theorem find?_perform_of_not_written {call : StoreCall} (h : id ∉ history.writtenId call)
    (now : Timestamp) :
    (history.after.perform now call).2.templates.find? id = history.after.templates.find? id := by
  cases call with
  | createTemplate new =>
      have hne : history.after.templates.lastId + 1 ≠ id := by
        rw [lastId_after]
        intro heq
        exact h (congrArg some heq)
      exact (TemplateTable.find?_create new now).trans (if_neg hne)
  | updateTemplate other patch =>
      have hne : other ≠ id := fun heq => h (congrArg some heq)
      exact (TemplateTable.find?_update other patch now).trans (if_neg hne)
  | deleteTemplate other =>
      have hne : other ≠ id := fun heq => h (congrArg some heq)
      exact (TemplateTable.find?_delete other).trans (if_neg hne)
  | findTemplate | listTemplates | ping | createAccount | findAccount => rfl

/-- **The table reflects its history.** The n-th creation gives the id n. Under an id nothing is
found exactly if it was not given out yet or has been deleted since, and otherwise the created
template is found, with the last value that a later update gave to each part. An update answers with
the row that is found next, a write leaves the rows under other ids alone, and a listing goes
through the live rows from the newest to the oldest. -/
theorem table_reflects_history (history : CallHistory) (hroom : history.creations < 2 ^ 63)
    (now moment : Timestamp) :
    let found (memory : Memory) (id : Int) : Except StoreError (Option Template) :=
      (memory.perform moment (.findTemplate id)).1
    (∀ new, (history.after.perform now (.createTemplate new)).1 =
      .ok (new.revised (history.creations + 1) now [])) ∧
    (∀ id, found history.after id = .ok none ↔
      (¬∃ created new later, history.Creates id created new later) ∨
        ∃ created new later, history.Creates id created new later ∧ later.Deletes id) ∧
    (∀ id created new later, history.Creates id created new later → ¬later.Deletes id →
      found history.after id = .ok (some (new.revised id created (later.updates id)))) ∧
    (∀ id patch, (history.after.perform now (.updateTemplate id patch)).1 =
      found (history.after.perform now (.updateTemplate id patch)).2 id) ∧
    (∀ call id, id ∉ history.writtenId call →
      found (history.after.perform now call).2 id = found history.after id) ∧
    ∃ live : List Template,
      live.Pairwise (fun newer older => older.id < newer.id) ∧
      (∀ template, template ∈ live ↔ found history.after template.id = .ok (some template)) ∧
      ∀ limit offset : Int64, ∃ total : Int64,
        (history.after.perform moment (.listTemplates limit offset)).1 =
          .ok ((live.drop (max offset.toInt 0).toNat).take (max limit.toInt 0).toNat, total) ∧
        total.toInt = live.length := by
  intro found
  have hfound : ∀ memory id, found memory id = .ok (memory.templates.find? id) := fun _ _ => rfl
  refine ⟨fun new => ?_, fun id => ?_, fun id created new later hcreates hkept => ?_,
    fun id patch => ?_, fun call id hid => ?_, history.after.templates.rows,
    history.after.templates.sorted, fun template => ?_, fun limit offset => ?_⟩
  · rw [← lastId_after]
    rfl
  · rw [hfound, Except.ok.injEq]
    constructor
    · intro hnone
      by_cases hgiven : ∃ created new later, history.Creates id created new later
      · obtain ⟨created, new, later, hcreates⟩ := hgiven
        refine Or.inr ⟨created, new, later, hcreates, ?_⟩
        by_cases hdeleted : later.Deletes id
        · exact hdeleted
        · have hthere := (find?_of_creates hcreates).2 hdeleted
          rw [hnone] at hthere
          cases hthere
      · exact Or.inl hgiven
    · rintro (hnever | ⟨created, new, later, hcreates, hdeleted⟩)
      · cases hfind : history.after.templates.find? id with
        | none => rfl
        | some template => exact absurd (exists_creates hfind) hnever
      · exact (find?_of_creates hcreates).1 hdeleted
  · rw [hfound, (find?_of_creates hcreates).2 hkept]
  · have hupdated : (history.after.templates.update id patch now).2.find? id = _ :=
      TemplateTable.find?_update id patch now
    rw [if_pos rfl, ← TemplateTable.fst_update] at hupdated
    exact congrArg Except.ok hupdated.symm
  · rw [hfound, hfound, find?_perform_of_not_written hid]
  · rw [hfound, Except.ok.injEq, TemplateTable.find?_eq_some_iff]
    exact (and_iff_left rfl).symm
  · have hlength := history.length_rows_after_le
    refine ⟨history.after.templates.total, ?_, ?_⟩
    · have hoffset : (max offset.toInt 0).toNat = offset.toInt.toNat := by omega
      have hlimit : (max limit.toInt 0).toNat = limit.toInt.toNat := by omega
      rw [hoffset, hlimit]
      rfl
    · rw [TemplateTable.total, Int64.toInt_ofNat_of_lt (by omega)]

/-- A letter that got another title, and a memo that was deleted before a change to it. -/
theorem letter_and_deleted_memo_reflected :
    let letter : NewTemplate :=
      { title := "Letter", description := none, content := .plain "Dear", category := .email }
    let memo : NewTemplate := { letter with title := "Memo" }
    let retitling : TemplatePatch :=
      { title := some "Invitation", description := none, content := none, category := none }
    let describing : TemplatePatch :=
      { title := none, description := some "To all", content := none, category := none }
    let changes : CallHistory :=
      [(⟨1, 0⟩, .createTemplate memo), (⟨2, 0⟩, .updateTemplate 1 retitling),
        (⟨3, 0⟩, .deleteTemplate 2), (⟨4, 0⟩, .updateTemplate 2 retitling),
        (⟨5, 0⟩, .updateTemplate 1 describing)]
    let history : CallHistory := (⟨0, 0⟩, .createTemplate letter) :: changes
    let found (id : Int) := (history.after.perform ⟨6, 0⟩ (.findTemplate id)).1
    history.creations < 2 ^ 63 ∧
      found 1 = .ok (some
        { id := 1
          title := "Invitation"
          description := some "To all"
          content := .plain "Dear"
          category := .email
          createdAt := ⟨0, 0⟩
          updatedAt := ⟨5, 0⟩ }) ∧
      found 2 = .ok none ∧
      ∃ template, (history.after.perform ⟨6, 0⟩ (.createTemplate memo)).1 = .ok template ∧
        template.id = 3 := by
  intro letter memo retitling describing changes history found
  have hroom : history.creations < 2 ^ 63 := by decide
  obtain ⟨hnext, hnone, hsome, -⟩ := table_reflects_history history hroom ⟨6, 0⟩ ⟨6, 0⟩
  have hletter : history.Creates 1 ⟨0, 0⟩ letter changes := ⟨[], rfl, rfl⟩
  have hmemo : history.Creates 2 ⟨1, 0⟩ memo (changes.drop 1) :=
    ⟨history.take 1, rfl, rfl⟩
  have hdeleted : Deletes (changes.drop 1) 2 := ⟨⟨3, 0⟩, by simp [changes]⟩
  have hkept : ¬changes.Deletes 1 := by
    rintro ⟨now, hmem⟩
    simp [changes] at hmem
  exact ⟨hroom, hsome 1 _ _ _ hletter hkept,
    (hnone 2).mpr (Or.inr ⟨_, _, _, hmemo, hdeleted⟩), _, hnext memo, rfl⟩

end CallHistory

end FormLetter
