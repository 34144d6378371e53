import FormLetter.Store.Memory

/-!
# Computations over stores that refuse

A computation comes to its result without a call to the stores, or it makes a first call. Whether it
does cannot depend on what the stores hold, since nothing has been read of them yet. Two
computations are decided alike if they come to one result without a call, or if both call and give
up when the call is refused.
-/

namespace FormLetter

/-- A write ran into a unique constraint whose name may be told. -/
def DatabaseError.TellsDuplicate (error : DatabaseError) : Prop :=
  ∃ constraint text : String, error = .rejected (some "23505") (some ("uq_" ++ constraint)) text

namespace DatabaseError

theorem isTellable_iff {constraint : String} :
    isTellable constraint = true ↔ ∃ rest, constraint = "uq_" ++ rest := by
  rw [isTellable, List.isPrefixOf_iff_prefix]
  constructor
  · rintro ⟨rest, hrest⟩
    refine ⟨String.ofList rest, ?_⟩
    rw [← String.toList_inj, String.toList_append, String.toList_ofList (l := rest)]
    exact hrest.symm
  · rintro ⟨rest, rfl⟩
    rw [String.toList_append]
    exact List.prefix_append _ _

theorem duplicate?_rejected (rest text : String) :
    duplicate? (.rejected (some "23505") (some ("uq_" ++ rest)) text) = some ("uq_" ++ rest) := by
  have hunique : ("23505" == uniqueViolation) = true := by decide
  rw [duplicate?, hunique, isTellable_iff.mpr ⟨rest, rfl⟩]
  rfl

theorem duplicate?_eq_none_iff {error : DatabaseError} :
    error.duplicate? = none ↔ ¬error.TellsDuplicate := by
  constructor
  · rintro hnone ⟨rest, text, rfl⟩
    rw [duplicate?_rejected] at hnone
    cases hnone
  · intro h
    unfold duplicate?
    split
    next code constraint text =>
      refine if_neg fun htold => h ?_
      rw [Bool.and_eq_true, beq_iff_eq, isTellable_iff] at htold
      obtain ⟨rfl, rest, rfl⟩ := htold
      exact ⟨rest, text, rfl⟩
    next => rfl

end DatabaseError

/-- Whatever else a database reports, the code, the constraint and the text stay inside. -/
theorem Failure.answer_database {error : DatabaseError} (h : ¬error.TellsDuplicate) :
    (Failure.database error).answer = .internal := by
  rw [answer, DatabaseError.duplicate?_eq_none_iff.mpr h]

namespace Program

variable {ε δ α β : Type}

/-- The calls that a program makes to the stores in memory, one after the other. -/
def calls (now : Timestamp) : Program α → Memory → List StoreCall
  | .done _, _ => []
  | .call request next, memory =>
    request :: (next (memory.perform now request).1).calls now (memory.perform now request).2

def Asks : Program α → Prop
  | .done _ => False
  | .call _ _ => True

instance : DecidablePred (Asks : Program α → Prop)
  | .done _ => isFalse id
  | .call _ _ => isTrue trivial

theorem calls_eq_nil_iff {now : Timestamp} {program : Program α} {memory : Memory} :
    program.calls now memory = [] ↔ ¬program.Asks := by
  cases program with
  | done result => exact iff_of_true rfl id
  | call request next => exact iff_of_false (List.cons_ne_nil _ _) fun h => h trivial

theorem Asks.bind {program : Program α} (h : program.Asks) (f : α → Program β) :
    (program.bind f).Asks := by
  cases program with
  | done result => exact h.elim
  | call request next => trivial

/-- The first call is made, and if it is refused the computation ends in a failure at once. -/
def GivesUp (failure : DatabaseError → ε) (computation : ExceptT ε Program α) : Prop :=
  ∃ request next, computation.run = .call request next ∧
    ∀ error, next (.error (.database error)) = .done (.error (failure error))

theorem GivesUp.asks {failure : DatabaseError → ε} {computation : ExceptT ε Program α}
    (h : GivesUp failure computation) : computation.run.Asks := by
  obtain ⟨request, next, hrun, -⟩ := h
  rw [hrun]
  trivial

theorem GivesUp.bind {failure : DatabaseError → ε} {computation : ExceptT ε Program α}
    (h : GivesUp failure computation) (f : α → ExceptT ε Program β) :
    GivesUp failure (computation >>= f) := by
  obtain ⟨request, next, hrun, hrefused⟩ := h
  refine ⟨request, fun reply => (next reply).bind (ExceptT.bindCont f), ?_, fun error => ?_⟩
  · exact congrArg (fun program => Program.bind program (ExceptT.bindCont f)) hrun
  · exact congrArg (fun program => Program.bind program (ExceptT.bindCont f)) (hrefused error)

theorem GivesUp.adapt {failure : DatabaseError → ε} {computation : ExceptT ε Program α}
    (h : GivesUp failure computation) (g : ε → δ) :
    GivesUp (g ∘ failure) (ExceptT.adapt g computation) := by
  obtain ⟨request, next, hrun, hrefused⟩ := h
  let finish (program : Program (Except ε α)) : Program (Except δ α) :=
    program.bind fun result => .done (result.mapError g)
  refine ⟨request, fun reply => finish (next reply), ?_, fun error => ?_⟩
  · exact congrArg finish hrun
  · exact congrArg finish (hrefused error)

/-- Both computations come to one result without a call, or both make a call, and the second one
gives up if it is refused. -/
inductive DecidedAlike (failure : DatabaseError → ε) (left right : ExceptT ε Program α) : Prop where
  | decided (result : Except ε α) (left_eq : left = ExceptT.mk (.done result))
      (right_eq : right = ExceptT.mk (.done result))
  | asking (left_asks : left.run.Asks) (right_givesUp : GivesUp failure right)

namespace DecidedAlike

variable {failure : DatabaseError → ε} {left right : ExceptT ε Program α}

theorem done (result : Except ε α) :
    DecidedAlike failure (ExceptT.mk (.done result)) (ExceptT.mk (.done result)) :=
  .decided result rfl rfl

theorem of_givesUp {computation : ExceptT ε Program α} (h : GivesUp failure computation) :
    DecidedAlike failure computation computation :=
  .asking h.asks h

theorem bind {f g : α → ExceptT ε Program β} (h : DecidedAlike failure left right)
    (hfg : ∀ a, DecidedAlike failure (f a) (g a)) :
    DecidedAlike failure (left >>= f) (right >>= g) := by
  cases h with
  | decided result hleft hright =>
      subst hleft hright
      cases result with
      | ok a => exact hfg a
      | error e => exact .done (.error e)
  | asking hleft hright => exact .asking (hleft.bind _) (hright.bind g)

theorem adapt (h : DecidedAlike failure left right) (g : ε → δ) :
    DecidedAlike (g ∘ failure) (ExceptT.adapt g left) (ExceptT.adapt g right) := by
  cases h with
  | decided result hleft hright =>
      subst hleft hright
      exact .done (result.mapError g)
  | asking hleft hright => exact .asking (hleft.bind _) (hright.adapt g)

end DecidedAlike

end Program

end FormLetter
