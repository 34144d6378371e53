import FormLetter.Proofs.Service.Run

/-!
# Histories of operations

What the template service is asked for, one operation after the other, from the empty stores on.
Only three kinds of operations write to the table of templates, each in one way, so what these three
keep holds in every state that is reached.
-/

namespace FormLetter.Templates

/-- What the template service can be asked for. -/
inductive Operation where
  | create (request : CreateRequest)
  | get (id : Int)
  | list (request : PageRequest)
  | update (id : Int) (request : UpdateRequest)
  | delete (id : Int)
  | render (id : Int) (request : RenderRequest)
  | variableNames (id : Int)
  | preview (request : PreviewRequest)

namespace Operation

def Answer : Operation → Type
  | .create _ => Template
  | .get _ => Template
  | .list _ => Option (Page Template)
  | .update _ _ => Template
  | .delete _ => Unit
  | .render _ _ => Rendering
  | .variableNames _ => List String
  | .preview _ => Rendering

def service : (operation : Operation) → Service operation.Answer
  | .create request => Templates.create request
  | .get id => Templates.get id
  | .list request => Templates.list request
  | .update id request => Templates.update id request
  | .delete id => Templates.delete id
  | .render id request => Templates.render id request
  | .variableNames id => Templates.variableNames id
  | .preview request => Service.ofExcept (Templates.preview request)

/-- The stores after an operation, whether it succeeds or not. -/
def leaves (now : Timestamp) (operation : Operation) (memory : Memory) : Memory :=
  (Service.exec now operation.service memory).2

/-- All that an operation can do to the stores. -/
theorem leaves_cases (now : Timestamp) (operation : Operation) (memory : Memory) :
    operation.leaves now memory = memory ∨
    (∃ request new, operation = .create request ∧ accept request = .ok new ∧
      operation.leaves now memory =
        { memory with templates := (memory.templates.create new now).2 }) ∨
    (∃ id request patch, operation = .update id request ∧ acceptPatch request = .ok patch ∧
      operation.leaves now memory =
        { memory with templates := (memory.templates.update id patch now).2 }) ∨
    ∃ id, operation = .delete id ∧
      operation.leaves now memory =
        { memory with templates := (memory.templates.delete id).2 } := by
  cases operation with
  | create request =>
      have hexec := congrArg Prod.snd (exec_create now memory request)
      cases haccept : accept request with
      | ok new =>
          rw [haccept] at hexec
          exact Or.inr (Or.inl ⟨request, new, rfl, haccept, hexec⟩)
      | error failure =>
          rw [haccept] at hexec
          exact Or.inl hexec
  | get id => exact Or.inl (congrArg Prod.snd (exec_get now memory id))
  | list request => exact Or.inl (congrArg Prod.snd (exec_list now memory request))
  | update id request =>
      have hexec := congrArg Prod.snd (exec_update now memory id request)
      cases haccept : acceptPatch request with
      | ok patch =>
          rw [haccept] at hexec
          exact Or.inr (Or.inr (Or.inl ⟨id, request, patch, rfl, haccept, hexec⟩))
      | error failure =>
          rw [haccept] at hexec
          exact Or.inl hexec
  | delete id =>
      exact Or.inr (Or.inr (Or.inr ⟨id, rfl, congrArg Prod.snd (exec_delete now memory id)⟩))
  | render id request => exact Or.inl (congrArg Prod.snd (exec_render now memory id request))
  | variableNames id => exact Or.inl (congrArg Prod.snd (exec_variableNames now memory id))
  | preview request => exact Or.inl rfl

end Operation

/-- Operations in the order in which they are carried out, each with the time at which it is. -/
abbrev History : Type :=
  List (Timestamp × Operation)

/-- The stores after a history. -/
def History.after (history : History) (memory : Memory) : Memory :=
  history.foldl (fun memory step => step.2.leaves step.1 memory) memory

/-- What the three writes to the table of templates keep. -/
structure Kept (P : TemplateTable → Prop) : Prop where
  create : ∀ {table request new} now, accept request = .ok new → P table →
    P (table.create new now).2
  update : ∀ {table request patch} id now, acceptPatch request = .ok patch → P table →
    P (table.update id patch now).2
  delete : ∀ {table} id, P table → P (table.delete id).2

variable {P : TemplateTable → Prop}

theorem Kept.leaves (hkept : Kept P) (now : Timestamp) (operation : Operation) {memory : Memory}
    (h : P memory.templates) : P (operation.leaves now memory).templates := by
  rcases operation.leaves_cases now memory with heq | ⟨request, new, -, haccept, heq⟩ |
    ⟨id, request, patch, -, haccept, heq⟩ | ⟨id, -, heq⟩
  · rw [heq]
    exact h
  · rw [heq]
    exact hkept.create now haccept h
  · rw [heq]
    exact hkept.update id now haccept h
  · rw [heq]
    exact hkept.delete id h

/-- What the writes keep, every history keeps. -/
theorem Kept.after (hkept : Kept P) (history : History) {memory : Memory}
    (h : P memory.templates) : P (history.after memory).templates := by
  induction history generalizing memory with
  | nil => exact h
  | cons step rest ih => exact ih (hkept.leaves step.1 step.2 h)

end FormLetter.Templates
