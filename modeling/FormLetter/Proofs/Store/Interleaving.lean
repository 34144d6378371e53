import FormLetter.Proofs.Store.History
import FormLetter.Store.Concurrent
import FormLetter.Word

/-!
# Interleaved calls

Between the two steps of a creation other calls may meet an id that has no row yet, and creations
may insert in another order than they took their ids. What carries over every step is therefore said
of the ids that creations own, whether they still hold them or have returned them: each was given
out, and no two creations own the same. A row stands only under the id of an answered creation, and
from then on it is what the later calls under the lock make of it, as in a history of whole calls.
-/

namespace FormLetter

/-- The id that a creation holds or has returned. -/
def CallStage.id? : CallStage → Option Int
  | .holding _ id _ => some id
  | .answered (.createTemplate _) (.ok template) => some template.id
  | _ => none

theorem CallStage.id?_answered {call : StoreCall} (hwhole : ∀ new, call ≠ .createTemplate new)
    (reply : Except StoreError call.Reply) : (answered call reply).id? = none := by
  cases call with
  | createTemplate new => exact absurd rfl (hwhole new)
  | findTemplate | updateTemplate | deleteTemplate | listTemplates | ping | createAccount
  | findAccount => rfl

/-- The calls among the steps that were one step each. -/
def performedIn (events : List StoreEvent) : CallHistory :=
  events.filterMap fun
    | .performed now call => some (now, call)
    | _ => none

theorem performedIn_append (before after : List StoreEvent) :
    performedIn (before ++ after) = performedIn before ++ performedIn after :=
  List.filterMap_append

namespace SharedMemory

variable {calls : List StoreCall} {events : List StoreEvent} {event : StoreEvent}
  {shared next : SharedMemory} {n k : Nat} {new : NewTemplate} {id : Int} {now : Timestamp}
  {call : StoreCall}

section Stages

variable {stages : List CallStage} {old stage : CallStage}

theorem getElem?_set_of_eq_some (h : stages[n]? = some old) (stage : CallStage) (k : Nat) :
    (stages.set n stage)[k]? = if n = k then some stage else stages[k]? := by
  obtain ⟨hlt, -⟩ := List.getElem?_eq_some_iff.mp h
  rw [List.getElem?_set, if_pos hlt]

theorem getElem?_set_of_ne (h : stages[n]? = some old) (hk : stages[k]? = some stage)
    (hne : old ≠ stage) (new : CallStage) : (stages.set n new)[k]? = some stage := by
  rw [getElem?_set_of_eq_some h, if_neg, hk]
  rintro rfl
  rw [h, Option.some.injEq] at hk
  exact hne hk

end Stages

/-- An answer is final. -/
theorem Step.answered {reply : Except StoreError call.Reply} (hstep : shared.Step event next)
    (hk : shared.calls[k]? = some (.answered call reply)) :
    next.calls[k]? = some (.answered call reply) := by
  cases hstep with
  | take now h => exact getElem?_set_of_ne h hk nofun _
  | insert h => exact getElem?_set_of_ne h hk nofun _
  | perform now h hwhole => exact getElem?_set_of_ne h hk nofun _

/-- An answer was there before, or a creation has inserted its row, or a call was performed as one
step. -/
theorem Step.answer_cases {reply : Except StoreError call.Reply} (hstep : shared.Step event next)
    (hk : next.calls[k]? = some (.answered call reply)) :
    shared.calls[k]? = some (.answered call reply) ∨
    (∃ new id now, event = .inserted new id now ∧
      CallStage.answered call reply =
        .answered (.createTemplate new) (.ok (new.toTemplate id now))) ∨
    ∃ now, event = .performed now call ∧ (∀ new, call ≠ .createTemplate new) ∧
      (shared.memory.perform now call).1 = reply := by
  cases hstep with
  | take now h =>
      rw [SharedMemory.take, getElem?_set_of_eq_some h] at hk
      split at hk
      next => cases hk
      next => exact Or.inl hk
  | @insert n new id now h =>
      rw [SharedMemory.insert, getElem?_set_of_eq_some h] at hk
      split at hk
      next => exact Or.inr (Or.inl ⟨new, id, now, rfl, (Option.some.inj hk).symm⟩)
      next => exact Or.inl hk
  | perform now h hwhole =>
      rw [SharedMemory.perform, getElem?_set_of_eq_some h] at hk
      split at hk
      next =>
        cases hk
        exact Or.inr (Or.inr ⟨now, rfl, hwhole, rfl⟩)
      next => exact Or.inl hk

theorem waiting_of_start {stage : CallStage} (h : (start calls).calls[n]? = some stage) :
    ∃ call, stage = .waiting call := by
  rw [start, List.getElem?_map] at h
  obtain ⟨call, -, rfl⟩ := Option.map_eq_some_iff.mp h
  exact ⟨call, rfl⟩

theorem Run.exists_step (h : Run calls (events ++ [event]) next) :
    ∃ shared, Run calls events shared ∧ shared.Step event next := by
  generalize heq : events ++ [event] = all at h
  cases h with
  | start => simp at heq
  | step h hstep =>
      obtain ⟨rfl, hlast⟩ := List.append_inj' heq rfl
      cases hlast
      exact ⟨_, h, hstep⟩

section Ids

/-- The id that the n-th call owns. -/
def owned? (shared : SharedMemory) (n : Nat) : Option Int :=
  shared.calls[n]?.bind CallStage.id?

theorem owned?_eq_id? {stage : CallStage} (h : shared.calls[n]? = some stage) :
    shared.owned? n = stage.id? := by
  rw [owned?, h, Option.bind_some]

theorem owned?_set {old : CallStage} (h : shared.calls[n]? = some old) (memory : Memory)
    (stage : CallStage) (k : Nat) :
    owned? ⟨memory, shared.calls.set n stage⟩ k =
      if n = k then stage.id? else shared.owned? k := by
  rw [owned?, getElem?_set_of_eq_some h]
  split <;> rfl

theorem owned?_set_of_id?_eq {old stage : CallStage} (h : shared.calls[n]? = some old)
    (hid : stage.id? = old.id?) (memory : Memory) (k : Nat) :
    owned? ⟨memory, shared.calls.set n stage⟩ k = shared.owned? k := by
  rw [owned?_set h]
  split
  next heq => rw [hid, ← heq, owned?_eq_id? h]
  next => rfl

/-- The ids of creations have been given out, each to one creation. -/
structure KeepsIdsApart (shared : SharedMemory) : Prop where
  counted : 0 ≤ shared.memory.templates.lastId
  given : ∀ {n id}, shared.owned? n = some id → 1 ≤ id ∧ id ≤ shared.memory.templates.lastId
  apart : ∀ {m n id}, shared.owned? m = some id → shared.owned? n = some id → m = n

theorem KeepsIdsApart.of_eq (h : shared.KeepsIdsApart)
    (hlast : next.memory.templates.lastId = shared.memory.templates.lastId)
    (howned : ∀ n, next.owned? n = shared.owned? n) : next.KeepsIdsApart where
  counted := hlast ▸ h.counted
  given := fun hn => by
    rw [hlast]
    exact h.given ((howned _).symm.trans hn)
  apart := fun hm hn => h.apart ((howned _).symm.trans hm) ((howned _).symm.trans hn)

/-- The id that a creation takes is new to all others. -/
theorem KeepsIdsApart.take (h : shared.KeepsIdsApart)
    (hn : shared.calls[n]? = some (.waiting (.createTemplate new))) (now : Timestamp) :
    (shared.take n new now).KeepsIdsApart := by
  have howned : ∀ k, (shared.take n new now).owned? k =
      if n = k then some (shared.memory.templates.lastId + 1) else shared.owned? k :=
    owned?_set hn _ _
  have hlast : (shared.take n new now).memory.templates.lastId =
      shared.memory.templates.lastId + 1 := rfl
  have hcounted := h.counted
  refine ⟨by omega, fun {k id} hk => ?_, fun {j k id} hj hk => ?_⟩
  · rw [howned] at hk
    split at hk
    next =>
      cases hk
      omega
    next =>
      have hgiven := h.given hk
      omega
  · -- The new id is greater than all that were given out, so no other creation owns it.
    rw [howned] at hj hk
    split at hj
    next heq =>
      cases hj
      split at hk
      next heq' => exact heq.symm.trans heq'
      next =>
        have hgiven := h.given hk
        omega
    next =>
      split at hk
      next =>
        cases hk
        have hgiven := h.given hj
        omega
      next => exact h.apart hj hk

theorem lastId_perform (hwhole : ∀ new, call ≠ .createTemplate new) (n : Nat) (now : Timestamp) :
    (shared.perform n now call).memory.templates.lastId = shared.memory.templates.lastId := by
  have hlast := shared.memory.lastId_perform now call
  cases call with
  | createTemplate new => exact absurd rfl (hwhole new)
  | findTemplate | updateTemplate | deleteTemplate | listTemplates | ping | createAccount
  | findAccount => exact hlast.trans (Int.add_zero _)

theorem KeepsIdsApart.step (h : shared.KeepsIdsApart) (hstep : shared.Step event next) :
    next.KeepsIdsApart := by
  cases hstep with
  | take now hn => exact h.take hn now
  | insert hn =>
      refine h.of_eq rfl (owned?_set_of_id?_eq hn ?_ _)
      rfl
  | perform now hn hwhole =>
      exact h.of_eq (lastId_perform hwhole _ now)
        (owned?_set_of_id?_eq hn (CallStage.id?_answered hwhole _) _)

theorem Run.keepsIdsApart (h : Run calls events shared) : shared.KeepsIdsApart := by
  induction h with
  | start =>
      have hnone : ∀ n, (SharedMemory.start calls).owned? n = none := by
        intro n
        rw [owned?, Option.bind_eq_none_iff]
        intro stage hstage
        obtain ⟨call, rfl⟩ := waiting_of_start hstage
        rfl
      exact
        { counted := Int.le_refl 0
          given := fun hn => nomatch (hnone _).symm.trans hn
          apart := fun hm => nomatch (hnone _).symm.trans hm }
  | step _ hstep ih => exact ih.step hstep

theorem Run.lastId_eq (h : Run calls events shared) :
    shared.memory.templates.lastId = (events.countP fun event => event matches .took _) := by
  induction h with
  | start => rfl
  | step _ hstep ih =>
      rw [List.countP_append, Int.natCast_add, ← ih]
      cases hstep with
      | take now hn => rfl
      | insert hn => exact (Int.add_zero _).symm
      | perform now hn hwhole =>
          exact (lastId_perform hwhole _ now).trans (Int.add_zero _).symm

end Ids

section Rows

/-- A creation that was answered has inserted what it answered. -/
theorem Run.inserted_of_answered (h : Run calls events shared)
    {reply : Except StoreError (StoreCall.createTemplate new).Reply}
    (hn : shared.calls[n]? = some (.answered (.createTemplate new) reply)) :
    ∃ id now, reply = .ok (new.toTemplate id now) ∧ .inserted new id now ∈ events := by
  induction h with
  | start =>
      obtain ⟨call, heq⟩ := waiting_of_start hn
      cases heq
  | step _ hstep ih =>
      rcases hstep.answer_cases hn with hn | ⟨new, id, now, rfl, heq⟩ | ⟨now, -, hwhole, -⟩
      · obtain ⟨id, now, hreply, hmem⟩ := ih hn
        exact ⟨id, now, hreply, List.mem_append_left _ hmem⟩
      · cases heq
        exact ⟨id, now, rfl, List.mem_append_right _ (List.mem_singleton_self _)⟩
      · exact absurd rfl (hwhole new)

theorem Run.answered_of_inserted (h : Run calls events shared)
    (hmem : .inserted new id now ∈ events) :
    ∃ n : Nat, shared.calls[n]? =
      some (.answered (.createTemplate new) (.ok (new.toTemplate id now))) := by
  induction h with
  | start => cases hmem
  | step _ hstep ih =>
      rcases List.mem_append.mp hmem with hmem | hmem
      · obtain ⟨n, hn⟩ := ih hmem
        exact ⟨n, hstep.answered hn⟩
      · cases List.mem_singleton.mp hmem
        cases hstep with
        | @insert n _ _ _ hn =>
            exact ⟨n, (getElem?_set_of_eq_some hn _ n).trans (if_pos rfl)⟩

/-- Only the insertion of a creation brings in a row. -/
theorem Step.eq_inserted_of_find? (hstep : shared.Step event next) {row : Template}
    (hrow : next.memory.templates.find? id = some row) :
    (∃ new now, event = .inserted new id now) ∨
      ∃ row, shared.memory.templates.find? id = some row := by
  cases hstep with
  | take now h => exact Or.inr ⟨row, hrow⟩
  | @insert n new other now h =>
      rw [SharedMemory.insert, TemplateTable.find?_insert] at hrow
      split at hrow
      next heq =>
        cases heq
        exact Or.inl ⟨new, now, rfl⟩
      next => exact Or.inr ⟨row, hrow⟩
  | perform now h hwhole =>
      rcases Memory.eq_create_of_find?_perform hrow with ⟨new, rfl, -⟩ | hbefore
      · exact absurd rfl (hwhole new)
      · exact Or.inr hbefore

theorem Run.exists_inserted (h : Run calls events shared) {row : Template}
    (hrow : shared.memory.templates.find? id = some row) :
    ∃ new now, .inserted new id now ∈ events := by
  induction h generalizing row with
  | start => cases hrow
  | step _ hstep ih =>
      rcases hstep.eq_inserted_of_find? hrow with ⟨new, now, rfl⟩ | ⟨row, hrow⟩
      · exact ⟨new, now, List.mem_append_right _ (List.mem_singleton_self _)⟩
      · obtain ⟨new, now, hmem⟩ := ih hrow
        exact ⟨new, now, List.mem_append_left _ hmem⟩

theorem Run.owned_of_inserted (h : Run calls events shared)
    (hmem : .inserted new id now ∈ events) : ∃ n, shared.owned? n = some id := by
  obtain ⟨n, hn⟩ := h.answered_of_inserted hmem
  exact ⟨n, owned?_eq_id? hn⟩

/-- An id that is held has not been inserted by any creation. -/
theorem Run.not_inserted_of_holding (h : Run calls events shared)
    (hn : shared.calls[n]? = some (.holding new id now)) (other : NewTemplate)
    (moment : Timestamp) : .inserted other id moment ∉ events := by
  intro hmem
  obtain ⟨m, hm⟩ := h.answered_of_inserted hmem
  have hholds : shared.owned? n = some id := owned?_eq_id? hn
  have howns : shared.owned? m = some id := owned?_eq_id? hm
  cases h.keepsIdsApart.apart hholds howns
  cases hn.symm.trans hm

/-- The row of an answered creation is what the later calls under the lock have made of it. -/
theorem Run.reflectedIn {before after : List StoreEvent}
    (h : Run calls (before ++ .inserted new id now :: after) shared) :
    (performedIn after).ReflectedIn shared.memory new id now := by
  induction after using List.reverseRecOn generalizing shared with
  | nil =>
      obtain ⟨earlier, -, hstep⟩ := h.exists_step
      cases hstep with
      | insert hn => exact .nil ((TemplateTable.find?_insert _).trans (if_pos rfl))
  | append_singleton after event ih =>
      rw [← List.cons_append, ← List.append_assoc] at h
      obtain ⟨earlier, hbefore, hstep⟩ := h.exists_step
      have hreflected := ih hbefore
      have hmem : StoreEvent.inserted new id now ∈ before ++ .inserted new id now :: after :=
        List.mem_append_right _ List.mem_cons_self
      rw [performedIn_append]
      cases hstep with
      | take moment hn =>
          rw [show performedIn [_] = [] from rfl, List.append_nil]
          exact hreflected.of_find?_eq rfl
      | @insert n other taken moment hn =>
          -- The id was inserted before, so no creation holds it any more.
          have hne : (other.toTemplate taken moment).id ≠ id := by
            rintro rfl
            exact hbefore.not_inserted_of_holding hn new now hmem
          rw [show performedIn [_] = [] from rfl, List.append_nil]
          exact hreflected.of_find?_eq ((TemplateTable.find?_insert _).trans (if_neg hne))
      | @perform n call moment hn hwhole =>
          obtain ⟨m, hm⟩ := hbefore.owned_of_inserted hmem
          exact hreflected.perform (hbefore.keepsIdsApart.given hm).2 moment call

/-- An update that was answered with a row has revised it under the lock. -/
theorem Run.updated_of_answered (h : Run calls events shared) {patch : TemplatePatch}
    {row : Template}
    (hn : shared.calls[n]? = some (.answered (.updateTemplate id patch) (.ok (some row)))) :
    ∃ before new created after now later,
      events = before ++ .inserted new id created ::
        (after ++ .performed now (.updateTemplate id patch) :: later) ∧
      ¬(performedIn after).Deletes id ∧
      row = new.revised id created ((performedIn after).updates id ++ [(now, patch)]) := by
  induction h with
  | start =>
      obtain ⟨call, heq⟩ := waiting_of_start hn
      cases heq
  | @step events event shared next h hstep ih =>
      rcases hstep.answer_cases hn with hn | ⟨new, other, now, -, heq⟩ | ⟨now, rfl, -, hreply⟩
      · obtain ⟨before, new, created, after, now, later, rfl, hkept, hrow⟩ := ih hn
        exact ⟨before, new, created, after, now, later ++ [event], by simp, hkept, hrow⟩
      · cases heq
      · -- The update has met a row, so the row was inserted and has not been deleted since.
        have hupdate : (shared.memory.templates.update id patch now).1 = some row :=
          Except.ok.inj hreply
        rw [TemplateTable.fst_update] at hupdate
        obtain ⟨old, hold, rfl⟩ := Option.map_eq_some_iff.mp hupdate
        obtain ⟨new, created, hmem⟩ := h.exists_inserted hold
        obtain ⟨before, after, rfl⟩ := List.append_of_mem hmem
        have hreflected := h.reflectedIn
        have hkept : ¬(performedIn after).Deletes id := fun hdeleted =>
          nomatch hold.symm.trans (hreflected.gone hdeleted)
        have hrevised := hold.symm.trans (hreflected.kept hkept)
        refine ⟨before, new, created, after, now, [], by simp, hkept, ?_⟩
        rw [NewTemplate.revised_append_singleton, Option.some.inj hrevised]

end Rows

section Histories

def join (shared : SharedMemory) (call : StoreCall) : SharedMemory :=
  ⟨shared.memory, shared.calls ++ [.waiting call]⟩

theorem getElem?_join {stage : CallStage} (h : shared.calls[n]? = some stage) (more : StoreCall) :
    (shared.join more).calls[n]? = some stage := by
  obtain ⟨hlt, -⟩ := List.getElem?_eq_some_iff.mp h
  exact (List.getElem?_append_left hlt).trans h

theorem set_join {stage : CallStage} (h : shared.calls[n]? = some stage) (more : StoreCall)
    (new : CallStage) :
    (shared.join more).calls.set n new = shared.calls.set n new ++ [.waiting more] := by
  obtain ⟨hlt, -⟩ := List.getElem?_eq_some_iff.mp h
  exact List.set_append_left n new hlt

theorem Step.join (hstep : shared.Step event next) (more : StoreCall) :
    (shared.join more).Step event (next.join more) := by
  cases hstep with
  | @take n new now h =>
      have hjoin : (shared.join more).take n new now = (shared.take n new now).join more :=
        congrArg (SharedMemory.mk _) (set_join h more _)
      exact hjoin ▸ .take now (getElem?_join h more)
  | @insert n new id now h =>
      have hjoin : (shared.join more).insert n new id now =
          (shared.insert n new id now).join more :=
        congrArg (SharedMemory.mk _) (set_join h more _)
      exact hjoin ▸ .insert (getElem?_join h more)
  | @perform n call now h hwhole =>
      have hjoin : (shared.join more).perform n now call = (shared.perform n now call).join more :=
        congrArg (SharedMemory.mk _) (set_join h more _)
      exact hjoin ▸ .perform now (getElem?_join h more) hwhole

theorem Run.join (h : Run calls events shared) (more : StoreCall) :
    Run (calls ++ [more]) events (shared.join more) := by
  induction h with
  | start =>
      have hjoin : SharedMemory.start (calls ++ [more]) = (SharedMemory.start calls).join more :=
        congrArg (SharedMemory.mk _) List.map_append
      exact hjoin ▸ .start
  | step _ hstep ih => exact ih.step (hstep.join more)

/-- **A history of whole calls is one of the interleavings.** -/
theorem exists_run_of_history (history : CallHistory) :
    ∃ events shared, Run (history.map Prod.snd) events shared ∧ shared.memory = history.after := by
  induction history using List.reverseRecOn with
  | nil => exact ⟨[], _, .start, rfl⟩
  | append_singleton history step ih =>
      obtain ⟨now, call⟩ := step
      obtain ⟨events, shared, hrun, hmemory⟩ := ih
      have hrun := hrun.join call
      have hn : (shared.join call).calls[shared.calls.length]? = some (.waiting call) :=
        List.getElem?_concat_length
      rw [List.map_append, CallHistory.after_append_singleton, ← hmemory]
      cases call with
      | createTemplate new =>
          have hholds : ((shared.join (.createTemplate new)).take shared.calls.length new
              now).calls[shared.calls.length]? =
                some (.holding new (shared.memory.templates.lastId + 1) now) :=
            (getElem?_set_of_eq_some hn _ _).trans (if_pos rfl)
          exact ⟨_, _, (hrun.step (.take now hn)).step (.insert hholds), rfl⟩
      | findTemplate | updateTemplate | deleteTemplate | listTemplates | ping | createAccount
      | findAccount =>
          refine ⟨_, _, hrun.step (.perform now hn ?_), rfl⟩
          exact fun _ => nofun

end Histories

/-- **Interleaved calls lose no creation and no update.** No two creations hold or return one id,
and none inserts over a row. Each row stands under its own id, up to the last id that was given out,
and as many were given out as creations have begun; all of them are numbers of 64 bits as long as
these creations are fewer than `2 ^ 63`. A creation that was answered has inserted its row. From
then on the row is there until it is deleted, with what the later updates put in place of its parts
in the order of the lock, and an update that was answered with a row is one of these. -/
theorem no_creation_or_update_is_lost (h : Run calls events shared) :
    let found (id : Int) : Option Template := shared.memory.templates.find? id
    let lastId := shared.memory.templates.lastId
    (∀ m n id, shared.owned? m = some id → shared.owned? n = some id → m = n) ∧
    (∀ new id now next, shared.Step (.inserted new id now) next →
      found id = none ∧
      ∀ other, next.memory.templates.find? other =
        if id = other then some (new.toTemplate id now) else found other) ∧
    (∀ id row, found id = some row → row.id = id ∧ 1 ≤ id ∧ id ≤ lastId) ∧
    lastId = (events.countP fun event => event matches .took _) ∧
    ((events.countP fun event => event matches .took _) < 2 ^ 63 →
      ∀ n id, shared.owned? n = some id → FitsWord id) ∧
    (∀ (n : Nat) new reply, shared.calls[n]? = some (.answered (.createTemplate new) reply) →
      ∃ id now, reply = .ok (new.toTemplate id now) ∧ .inserted new id now ∈ events) ∧
    (∀ before new id now after, events = before ++ .inserted new id now :: after →
      ((performedIn after).Deletes id → found id = none) ∧
      (¬(performedIn after).Deletes id →
        found id = some (new.revised id now ((performedIn after).updates id)))) ∧
    ∀ (n : Nat) id patch row,
      shared.calls[n]? = some (.answered (.updateTemplate id patch) (.ok (some row))) →
      ∃ before new created after now later,
        events = before ++ .inserted new id created ::
          (after ++ .performed now (.updateTemplate id patch) :: later) ∧
        ¬(performedIn after).Deletes id ∧
        row = new.revised id created ((performedIn after).updates id ++ [(now, patch)]) := by
  intro found lastId
  have hids := h.keepsIdsApart
  refine ⟨fun m n id => hids.apart, fun new id now next hstep => ?_, fun id row hrow => ?_,
    h.lastId_eq, fun hroom n id hn => ?_, fun n new reply hn => h.inserted_of_answered hn, ?_,
    fun n id patch row hn => h.updated_of_answered hn⟩
  · cases hstep with
    | insert hn =>
        refine ⟨Option.eq_none_iff_forall_ne_some.mpr fun row hrow => ?_,
          fun other => TemplateTable.find?_insert _⟩
        obtain ⟨other, moment, hmem⟩ := h.exists_inserted hrow
        exact h.not_inserted_of_holding hn other moment hmem
  · obtain ⟨new, now, hmem⟩ := h.exists_inserted hrow
    obtain ⟨n, hn⟩ := h.owned_of_inserted hmem
    exact ⟨(TemplateTable.find?_eq_some_iff.mp hrow).2, hids.given hn⟩
  · have hgiven := hids.given hn
    have hlast := h.lastId_eq
    exact ⟨by omega, by omega⟩
  · rintro before new id now after rfl
    exact ⟨h.reflectedIn.gone, h.reflectedIn.kept⟩

/-- A letter that is inserted after a memo with a later id, and after an update that misses it. -/
theorem letter_overtaken_by_memo :
    let letter : NewTemplate :=
      { title := "Letter", description := none, content := .plain "Dear", category := .email }
    let memo : NewTemplate := { letter with title := "Memo" }
    let retitling : TemplatePatch :=
      { title := some "Invitation", description := none, content := none, category := none }
    let describing : TemplatePatch :=
      { title := none, description := some "To all", content := none, category := none }
    let calls : List StoreCall :=
      [.createTemplate letter, .createTemplate memo, .updateTemplate 1 retitling,
        .updateTemplate 1 describing]
    let before : List StoreEvent :=
      [.took 1, .took 2, .inserted memo 2 ⟨1, 0⟩, .performed ⟨2, 0⟩ (.updateTemplate 1 retitling)]
    let after : List StoreEvent := [.performed ⟨3, 0⟩ (.updateTemplate 1 describing)]
    ∃ shared, Run calls (before ++ .inserted letter 1 ⟨0, 0⟩ :: after) shared ∧
      shared.memory.templates.find? 1 = some
        { id := 1
          title := "Letter"
          description := some "To all"
          content := .plain "Dear"
          category := .email
          createdAt := ⟨0, 0⟩
          updatedAt := ⟨3, 0⟩ } ∧
      shared.memory.templates.find? 2 = some (memo.toTemplate 2 ⟨1, 0⟩) := by
  intro letter memo retitling describing calls before after
  have hstart : Run calls [] (start calls) := .start
  have htaken := (hstart.step (.take (n := 0) ⟨0, 0⟩ rfl)).step (.take (n := 1) ⟨1, 0⟩ rfl)
  have hmemo := (htaken.step (.insert (n := 1) rfl)).step
    (.perform (n := 2) ⟨2, 0⟩ rfl fun _ => nofun)
  have hletter := (hmemo.step (.insert (n := 0) rfl)).step
    (.perform (n := 3) ⟨3, 0⟩ rfl fun _ => nofun)
  obtain ⟨-, -, -, -, -, -, hrows, -⟩ := no_creation_or_update_is_lost hletter
  have hkept : ¬(performedIn after).Deletes 1 := by
    rintro ⟨now, hmem⟩
    simp [performedIn, after] at hmem
  have hkept' : ¬(performedIn (before.drop 3 ++ .inserted letter 1 ⟨0, 0⟩ :: after)).Deletes 2 := by
    rintro ⟨now, hmem⟩
    simp [performedIn, before, after] at hmem
  exact ⟨_, hletter, (hrows before letter 1 ⟨0, 0⟩ after rfl).2 hkept,
    (hrows (before.take 2) memo 2 ⟨1, 0⟩ _ rfl).2 hkept'⟩

end SharedMemory

end FormLetter
