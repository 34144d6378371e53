import FormLetter.Proofs.Service.Run
import FormLetter.Proofs.Store.Refusal

/-!
# Services over stores that refuse

A service checks what it can by itself before its first call, and it gives up when that call is
refused. The salt of a password and the identifier of a token come into play only after that.
-/

namespace FormLetter

open Program

namespace Service

theorem decidedAlike_ofExcept {α : Type} (result : Except Failure α) :
    DecidedAlike Failure.database (ofExcept result) (ofExcept result) :=
  .done result

theorem givesUp_ask (request : StoreCall) : GivesUp Failure.database (ask request) :=
  ⟨request, _, rfl, fun _ => rfl⟩

theorem decidedAlike_ask_bind {α : Type} (request : StoreCall)
    (left right : request.Reply → Service α) :
    DecidedAlike Failure.database (ask request >>= left) (ask request >>= right) :=
  .asking ((givesUp_ask request).bind left).asks ((givesUp_ask request).bind right)

end Service

open Service

namespace Templates

theorem create_of_error {request : CreateRequest} {failure : Failure}
    (h : accept request = .error failure) : create request = ofExcept (.error failure) := by
  rw [create, h]
  rfl

theorem update_of_error {request : UpdateRequest} {failure : Failure}
    (h : acceptPatch request = .error failure) (id : Int) :
    update id request = ofExcept (.error failure) := by
  rw [update, h]
  rfl

theorem render_of_error {request : RenderRequest} {failure : Failure}
    (h : requireVariables request.values = .error failure) (id : Int) :
    render id request = ofExcept (.error failure) := by
  rw [render, h]
  rfl

theorem givesUp_get (id : Int) : GivesUp Failure.database (get id) :=
  (givesUp_ask (.findTemplate id)).bind _

theorem decidedAlike_create (request : CreateRequest) :
    DecidedAlike Failure.database (create request) (create request) :=
  (decidedAlike_ofExcept _).bind fun new => .of_givesUp (givesUp_ask (.createTemplate new))

theorem decidedAlike_get (id : Int) : DecidedAlike Failure.database (get id) (get id) :=
  .of_givesUp (givesUp_get id)

theorem decidedAlike_list (request : PageRequest) :
    DecidedAlike Failure.database (list request) (list request) := by
  rw [list]
  cases request.offset? with
  | none => exact .done (.ok none)
  | some offset => exact decidedAlike_ask_bind (.listTemplates request.limit offset) _ _

theorem decidedAlike_update (id : Int) (request : UpdateRequest) :
    DecidedAlike Failure.database (update id request) (update id request) :=
  (decidedAlike_ofExcept _).bind fun patch =>
    decidedAlike_ask_bind (.updateTemplate id patch) _ _

theorem decidedAlike_delete (id : Int) : DecidedAlike Failure.database (delete id) (delete id) :=
  decidedAlike_ask_bind (.deleteTemplate id) _ _

theorem decidedAlike_render (id : Int) (request : RenderRequest) :
    DecidedAlike Failure.database (render id request) (render id request) := by
  refine (decidedAlike_ofExcept _).bind fun values => ?_
  exact (decidedAlike_get id).bind fun template => decidedAlike_ofExcept _

theorem decidedAlike_variableNames (id : Int) :
    DecidedAlike Failure.database (variableNames id) (variableNames id) := by
  refine (decidedAlike_get id).bind fun template => ?_
  exact (decidedAlike_ofExcept _).bind fun _ => decidedAlike_ofExcept (.ok _)

end Templates

namespace Accounts

variable (derive : Password.Derivation)

theorem register_of_error {derive : Password.Derivation} {minLength : Nat} {salt : List UInt8}
    {request : Credentials} {failure : Failure}
    (h : accept derive minLength salt request = .error failure) :
    register derive minLength salt request = ofExcept (.error failure) := by
  rw [register, h]
  rfl

theorem accept_eq (minLength : Nat) (salt : List UInt8) (request : Credentials) :
    accept derive minLength salt request =
      (do checkUsername request.username
          Password.checkStrength minLength request.password).map fun _ =>
        { username := request.username
          passwordHash := Password.hash derive salt request.password } := by
  rw [accept]
  cases checkUsername request.username with
  | error failure => rfl
  | ok _ => cases Password.checkStrength minLength request.password <;> rfl

/-- A registration is turned down or goes on to the stores whatever the salt is. -/
theorem decidedAlike_register (minLength : Nat) (left right : List UInt8)
    (request : Credentials) :
    DecidedAlike Failure.database (register derive minLength left request)
      (register derive minLength right request) := by
  rw [register, register, accept_eq, accept_eq]
  cases (do checkUsername request.username
            Password.checkStrength minLength request.password) with
  | error failure => exact .done (.error failure)
  | ok _ =>
      have hgives : ∀ new : NewAccount, GivesUp Failure.database
          (ask (.createAccount new) >>= fun account => pure account.profile) :=
        fun new => (givesUp_ask (.createAccount new)).bind _
      exact .asking (hgives _).asks (hgives _)

theorem decidedAlike_login (settings : TokenSettings) (seconds : Int64) (left right : String)
    (request : Credentials) :
    DecidedAlike Failure.database (login derive settings seconds left request)
      (login derive settings seconds right request) :=
  decidedAlike_ask_bind (.findAccount request.username) _ _

end Accounts

end FormLetter
