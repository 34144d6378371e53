import FormLetter.Proofs.Service.Run
import FormLetter.Proofs.Store.Table

/-!
# What services leave in the stores

Most services only read. The four that write do it in one call, after all that they check by
themselves. A call that is refused has not written, and what a service can still find amiss in an
answer is that there was nothing to write to.
-/

namespace FormLetter

open Program Service

namespace Service

theorem readsOnly_ofExcept {α : Type} (result : Except Failure α) : ReadsOnly (ofExcept result) :=
  readsOnly_done result

theorem allOrNothing_ask (request : StoreCall) : AllOrNothing (ask request) := by
  intro now memory failure herror
  have hexec := exec_ask now request memory
  have hfailed := (congrArg Prod.fst hexec).symm.trans herror
  cases hreply : (memory.perform now request).1 with
  | ok reply =>
      rw [hreply] at hfailed
      cases hfailed
  | error error => exact (congrArg Prod.snd hexec).trans (Memory.snd_perform_of_error hreply)

/-- A call may be made before the last check, as long as what fails the check is the answer to a
call that has not written. -/
theorem allOrNothing_ask_bind {α : Type} {request : StoreCall}
    {check : request.Reply → Except Failure α}
    (h : ∀ (now : Timestamp) (memory : Memory) reply failure,
      (memory.perform now request).1 = .ok reply → check reply = .error failure →
      (memory.perform now request).2 = memory) :
    AllOrNothing (ask request >>= fun reply => ofExcept (check reply)) := by
  intro now memory failure herror
  have hexec := exec_bind now (ask request) (fun reply => ofExcept (check reply)) memory
  rw [exec_ask] at hexec
  cases hreply : (memory.perform now request).1 with
  | error error =>
      rw [hreply] at hexec
      exact (congrArg Prod.snd hexec).trans (Memory.snd_perform_of_error hreply)
  | ok reply =>
      rw [hreply] at hexec
      have hcheck : check reply = .error failure := (congrArg Prod.fst hexec).symm.trans herror
      exact (congrArg Prod.snd hexec).trans (h now memory reply failure hreply hcheck)

end Service

namespace Templates

theorem readsOnly_healthy {ε : Type} : ReadsOnly (ExceptT.lift (ε := ε) healthy) :=
  fun _ _ => rfl

theorem readsOnly_get (id : Int) : ReadsOnly (get id) :=
  fun now memory => congrArg Prod.snd (exec_get now memory id)

theorem readsOnly_list (request : PageRequest) : ReadsOnly (list request) :=
  fun now memory => congrArg Prod.snd (exec_list now memory request)

theorem readsOnly_render (id : Int) (request : RenderRequest) : ReadsOnly (render id request) :=
  fun now memory => congrArg Prod.snd (exec_render now memory id request)

theorem readsOnly_variableNames (id : Int) : ReadsOnly (variableNames id) :=
  fun now memory => congrArg Prod.snd (exec_variableNames now memory id)

theorem allOrNothing_create (request : CreateRequest) : AllOrNothing (create request) := by
  apply (readsOnly_ofExcept (accept request)).bind_allOrNothing
  intro new
  exact allOrNothing_ask (.createTemplate new)

/-- A change that is taken in fails only for an id that leads nowhere, and then no row is written.
-/
theorem allOrNothing_update (id : Int) (request : UpdateRequest) :
    AllOrNothing (update id request) := by
  apply (readsOnly_ofExcept (acceptPatch request)).bind_allOrNothing
  intro patch
  apply allOrNothing_ask_bind
  intro now memory reply failure hreply hfound
  have hmapped : (memory.templates.update id patch now).1 = reply := Except.ok.inj hreply
  cases reply with
  | some template => cases hfound
  | none =>
      rw [TemplateTable.fst_update, Option.map_eq_none_iff] at hmapped
      have htable := TemplateTable.update_of_find?_eq_none hmapped patch now
      simp only [Memory.perform, htable]

theorem allOrNothing_delete (id : Int) : AllOrNothing (delete id) := by
  apply allOrNothing_ask_bind
  intro now memory reply failure hreply hremoved
  have hfound : (memory.templates.find? id).isSome = reply := Except.ok.inj hreply
  cases reply with
  | true => cases hremoved
  | false =>
      have hnone : memory.templates.find? id = none := by simpa using hfound
      have htable := TemplateTable.delete_of_find?_eq_none hnone
      simp only [Memory.perform, htable]

end Templates

namespace Accounts

variable (derive : Password.Derivation)

theorem readsOnly_login (settings : TokenSettings) (seconds : Int64) (jti : String)
    (request : Credentials) : ReadsOnly (login derive settings seconds jti request) :=
  fun now memory => congrArg Prod.snd (exec_login derive now memory settings seconds jti request)

theorem allOrNothing_register (minLength : Nat) (salt : List UInt8) (request : Credentials) :
    AllOrNothing (register derive minLength salt request) := by
  apply (readsOnly_ofExcept (accept derive minLength salt request)).bind_allOrNothing
  intro new
  exact (allOrNothing_ask (.createAccount new)).bind_pure Account.profile

theorem keeps_templates_register (minLength : Nat) (salt : List UInt8) (request : Credentials) :
    Keeps Memory.templates (register derive minLength salt request) := by
  intro now memory
  have hexec := exec_register derive now memory minLength salt request
  refine congrArg (fun outcome => outcome.2.templates) hexec |>.trans ?_
  cases accept derive minLength salt request <;> rfl

end Accounts

end FormLetter
