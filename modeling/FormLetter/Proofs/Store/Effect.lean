import FormLetter.Store.Memory

/-!
# What computations leave in the stores

A computation that may fail is put together from smaller ones, and what it leaves in the stores
follows from what they leave. A computation that has only read and then goes on with one that leaves
nothing behind when it fails, leaves nothing behind when it fails either. The other order is not
safe: a failure after a write leaves the write behind.
-/

namespace FormLetter.Program

variable {ε δ α β : Type}

/-- What a computation that may fail gives, and the stores after it. -/
def attempt (now : Timestamp) (computation : ExceptT ε Program α) (memory : Memory) :
    Except ε α × Memory :=
  Program.run now computation.run memory

theorem attempt_bind (now : Timestamp) (computation : ExceptT ε Program α)
    (f : α → ExceptT ε Program β) (memory : Memory) :
    attempt now (computation >>= f) memory =
      match attempt now computation memory with
      | (.ok a, after) => attempt now (f a) after
      | (.error e, after) => (.error e, after) := by
  have hrun := run_bind now computation.run (ExceptT.bindCont f) memory
  rw [attempt, attempt]
  refine hrun.trans ?_
  cases Program.run now computation.run memory with
  | mk result after => cases result <;> rfl

theorem attempt_adapt (now : Timestamp) (f : ε → δ) (computation : ExceptT ε Program α)
    (memory : Memory) :
    attempt now (ExceptT.adapt f computation) memory =
      ((attempt now computation memory).1.mapError f, (attempt now computation memory).2) :=
  run_bind now computation.run _ memory

/-- The stores stay as they are. -/
def ReadsOnly (computation : ExceptT ε Program α) : Prop :=
  ∀ now memory, (attempt now computation memory).2 = memory

/-- The stores stay as they are where the computation fails. -/
def AllOrNothing (computation : ExceptT ε Program α) : Prop :=
  ∀ now memory e, (attempt now computation memory).1 = .error e →
    (attempt now computation memory).2 = memory

/-- What the view shows of the stores stays as it is. -/
def Keeps {β : Type} (view : Memory → β) (computation : ExceptT ε Program α) : Prop :=
  ∀ now memory, view (attempt now computation memory).2 = view memory

/-- Where the computation does not fail, it gives something that meets the condition. -/
def Yields (computation : ExceptT ε Program α) (P : α → Prop) : Prop :=
  ∀ now memory a, (attempt now computation memory).1 = .ok a → P a

section

variable {computation : ExceptT ε Program α} {f : α → ExceptT ε Program β}

theorem readsOnly_done (result : Except ε α) : ReadsOnly (ExceptT.mk (.done result)) :=
  fun _ _ => rfl

theorem readsOnly_pure (a : α) : ReadsOnly (pure a : ExceptT ε Program α) :=
  readsOnly_done (.ok a)

theorem Keeps.bind {γ : Type} {view : Memory → γ} (h : Keeps view computation)
    (hf : ∀ a, Keeps view (f a)) : Keeps view (computation >>= f) := by
  intro now memory
  have hfirst := h now memory
  rw [attempt_bind]
  cases hattempt : attempt now computation memory with
  | mk result after =>
      rw [hattempt] at hfirst
      cases result with
      | ok a => exact (hf a now after).trans hfirst
      | error e => exact hfirst

theorem Keeps.adapt {γ : Type} {view : Memory → γ} (h : Keeps view computation) (g : ε → δ) :
    Keeps view (ExceptT.adapt g computation) := by
  intro now memory
  rw [attempt_adapt]
  exact h now memory

theorem ReadsOnly.keeps {γ : Type} (h : ReadsOnly computation) (view : Memory → γ) :
    Keeps view computation :=
  fun now memory => congrArg view (h now memory)

theorem ReadsOnly.bind (h : ReadsOnly computation) (hf : ∀ a, ReadsOnly (f a)) :
    ReadsOnly (computation >>= f) := by
  have hfirst : Keeps id computation := h.keeps id
  exact hfirst.bind hf

theorem ReadsOnly.adapt (h : ReadsOnly computation) (g : ε → δ) :
    ReadsOnly (ExceptT.adapt g computation) := by
  have hfirst : Keeps id computation := h.keeps id
  exact hfirst.adapt g

theorem ReadsOnly.allOrNothing (h : ReadsOnly computation) : AllOrNothing computation :=
  fun now memory _ _ => h now memory

theorem ReadsOnly.bind_allOrNothing (h : ReadsOnly computation) (hf : ∀ a, AllOrNothing (f a)) :
    AllOrNothing (computation >>= f) := by
  intro now memory e
  have hfirst := h now memory
  rw [attempt_bind]
  cases hattempt : attempt now computation memory with
  | mk result after =>
      rw [hattempt] at hfirst
      cases hfirst
      cases result with
      | ok a => exact hf a now after e
      | error e => exact fun _ => rfl

/-- What is only reckoned from the result cannot fail any more. -/
theorem AllOrNothing.bind_pure (h : AllOrNothing computation) (g : α → β) :
    AllOrNothing (computation >>= fun a => pure (g a)) := by
  intro now memory e
  have hfirst := h now memory
  rw [attempt_bind]
  cases hattempt : attempt now computation memory with
  | mk result after =>
      rw [hattempt] at hfirst
      cases result with
      | ok a => exact fun herror => nomatch herror
      | error e => exact fun _ => hfirst e rfl

theorem AllOrNothing.adapt (h : AllOrNothing computation) (g : ε → δ) :
    AllOrNothing (ExceptT.adapt g computation) := by
  intro now memory e herror
  rw [attempt_adapt] at herror ⊢
  cases hresult : (attempt now computation memory).1 with
  | ok a =>
      rw [hresult] at herror
      cases herror
  | error e => exact h now memory e hresult

theorem yields_pure {P : α → Prop} {a : α} (h : P a) : Yields (pure a : ExceptT ε Program α) P := by
  intro now memory b hb
  cases hb
  exact h

theorem yields_bind {P : β → Prop} (hf : ∀ a, Yields (f a) P) : Yields (computation >>= f) P := by
  intro now memory b
  rw [attempt_bind]
  cases attempt now computation memory with
  | mk result after =>
      cases result with
      | ok a => exact hf a now after b
      | error e => exact fun hok => nomatch hok

end

end FormLetter.Program

namespace FormLetter

theorem Store.run_bind_done {α β : Type} (store : Store) (now : Timestamp) (program : Program α)
    (f : α → β) :
    store.run now (program.bind fun a => .done (f a)) =
      (f (store.run now program).1, (store.run now program).2) := by
  cases store with
  | memory contents =>
      simp only [Store.run, Program.run_bind]
      rfl
  | refusing errors =>
      have hrefused : ∀ n, (program.bind fun a => .done (f a)).runRefused errors n =
          f (program.runRefused errors n) := by
        induction program with
        | done result => exact fun n => rfl
        | call request next ih => exact fun n => ih _ (n + 1)
      simp only [Store.run, hrefused]

end FormLetter
