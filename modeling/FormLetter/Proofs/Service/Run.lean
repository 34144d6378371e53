import FormLetter.Proofs.Except
import FormLetter.Proofs.Store.Effect
import FormLetter.Service.Accounts
import FormLetter.Service.Templates

/-!
# Services over the stores in memory

What each service answers and what it leaves in the stores, without the calls that it makes on the
way.
-/

namespace FormLetter

namespace Service

variable {α β : Type}

/-- The answer of a service and the stores after it. -/
def exec (now : Timestamp) (service : Service α) (memory : Memory) : Except Failure α × Memory :=
  Program.run now (ExceptT.run service) memory

@[simp]
theorem exec_ofExcept (now : Timestamp) (result : Except Failure α) (memory : Memory) :
    exec now (ofExcept result) memory = (result, memory) :=
  rfl

@[simp]
theorem exec_ask (now : Timestamp) (request : StoreCall) (memory : Memory) :
    exec now (ask request) memory =
      ((memory.perform now request).1.mapError StoreError.failure,
        (memory.perform now request).2) := by
  rw [exec, ask, ExceptT.run_mk, Program.run]
  cases memory.perform now request with
  | mk reply after => cases reply <;> rfl

theorem exec_bind (now : Timestamp) (service : Service α) (f : α → Service β) (memory : Memory) :
    exec now (service >>= f) memory =
      match exec now service memory with
      | (.ok a, after) => exec now (f a) after
      | (.error failure, after) => (.error failure, after) := by
  refine (Program.attempt_bind now service f memory).trans ?_
  rw [exec, Program.attempt]
  cases Program.run now service.run memory with
  | mk result after => cases result <;> rfl

theorem exec_bind_ofExcept (now : Timestamp) (result : Except Failure α) (f : α → Service β)
    (memory : Memory) :
    exec now (ofExcept result >>= f) memory =
      match result with
      | .ok a => exec now (f a) memory
      | .error failure => (.error failure, memory) := by
  rw [exec_bind, exec_ofExcept]
  cases result <;> rfl

end Service

namespace Templates

open Service

variable (now : Timestamp) (memory : Memory)

theorem exec_create (request : CreateRequest) :
    exec now (create request) memory =
      match accept request with
      | .ok new =>
        (.ok (memory.templates.create new now).1,
          { memory with templates := (memory.templates.create new now).2 })
      | .error failure => (.error failure, memory) := by
  refine (exec_bind_ofExcept now (accept request) _ memory).trans ?_
  cases accept request <;> rfl

theorem fst_exec_create (request : CreateRequest) :
    (exec now (create request) memory).1 =
      (accept request).map fun new => new.toTemplate (memory.templates.lastId + 1) now := by
  rw [exec_create]
  cases accept request <;> rfl

theorem exec_get (id : Int) :
    exec now (get id) memory = (found id (memory.templates.find? id), memory) := by
  rw [get, exec_bind, exec_ask]
  rfl

theorem exec_list (request : PageRequest) :
    exec now (list request) memory =
      (.ok (request.offset?.bind fun offset =>
        Page.of? (memory.templates.list request.limit offset) memory.templates.total request),
        memory) := by
  rw [list]
  cases request.offset? with
  | none => rfl
  | some offset =>
      simp only
      rw [exec_bind, exec_ask]
      rfl

theorem exec_update (id : Int) (request : UpdateRequest) :
    exec now (update id request) memory =
      match acceptPatch request with
      | .ok patch =>
        (found id (memory.templates.update id patch now).1,
          { memory with templates := (memory.templates.update id patch now).2 })
      | .error failure => (.error failure, memory) := by
  rw [update, exec_bind_ofExcept]
  cases acceptPatch request with
  | error failure => rfl
  | ok patch =>
      simp only
      rw [exec_bind, exec_ask]
      rfl

theorem exec_delete (id : Int) :
    exec now (delete id) memory =
      (removed id (memory.templates.delete id).1,
        { memory with templates := (memory.templates.delete id).2 }) := by
  rw [delete, exec_bind, exec_ask]
  rfl

theorem exec_render (id : Int) (request : RenderRequest) :
    exec now (render id request) memory =
      (do
        let values ← requireVariables request.values
        let template ← found id (memory.templates.find? id)
        renderContent template.content values, memory) := by
  rw [render, exec_bind_ofExcept]
  cases requireVariables request.values with
  | error failure => rfl
  | ok values =>
      simp only
      rw [exec_bind, exec_get]
      cases found id (memory.templates.find? id) <;> rfl

theorem exec_variableNames (id : Int) :
    exec now (variableNames id) memory =
      (do
        let template ← found id (memory.templates.find? id)
        checkContent template.content
        pure template.content.variableNames, memory) := by
  rw [variableNames, exec_bind, exec_get]
  cases found id (memory.templates.find? id) with
  | error failure => rfl
  | ok template =>
      simp only
      rw [exec_bind_ofExcept]
      change _ = (checkContent template.content >>= _, memory)
      cases checkContent template.content <;> rfl

end Templates

namespace Accounts

open Service

variable (derive : Password.Derivation) (now : Timestamp) (memory : Memory)

theorem exec_register (minLength : Nat) (salt : List UInt8) (request : Credentials) :
    exec now (register derive minLength salt request) memory =
      match accept derive minLength salt request with
      | .ok new =>
        (((memory.accounts.create new now).1.mapError StoreError.failure).map Account.profile,
          { memory with accounts := (memory.accounts.create new now).2 })
      | .error failure => (.error failure, memory) := by
  rw [register, exec_bind_ofExcept]
  cases accept derive minLength salt request with
  | error failure => rfl
  | ok new =>
      simp only
      rw [exec_bind, exec_ask, Memory.perform]
      cases (memory.accounts.create new now).1 <;> rfl

theorem exec_login (settings : TokenSettings) (seconds : Int64) (jti : String)
    (request : Credentials) :
    exec now (login derive settings seconds jti request) memory =
      ((open? derive request.password (memory.accounts.find? request.username)).map
        (grant? settings seconds jti), memory) := by
  rw [login, exec_bind, exec_ask, Memory.perform]
  change exec now (Service.ofExcept (open? derive request.password _) >>= _) memory = _
  rw [exec_bind_ofExcept]
  cases open? derive request.password (memory.accounts.find? request.username) <;> rfl

end Accounts

end FormLetter
