/-!
# Results that may be errors

When steps that follow one another succeed, and when results agree that come from one.
-/

namespace FormLetter

/-- A step that succeeds has gone through every step before it. -/
theorem except_bind_eq_ok_iff {ε α β : Type} {result : Except ε α} {f : α → Except ε β} {b : β} :
    (result >>= f) = .ok b ↔ ∃ a, result = .ok a ∧ f a = .ok b := by
  cases result with
  | ok a =>
      constructor
      · intro h
        exact ⟨a, rfl, h⟩
      · rintro ⟨_, ha, h⟩
        cases ha
        exact h
  | error e => exact iff_of_false (fun h => nomatch h) fun ⟨_, h, _⟩ => nomatch h

/-- What comes after a check fails where the check fails, or where it passes and the rest fails. -/
theorem except_check_bind_eq_error_iff {ε β : Type} {check : Except ε Unit} {rest : Except ε β}
    {e : ε} :
    (check >>= fun _ => rest) = .error e ↔
      check = .error e ∨ check = .ok () ∧ rest = .error e := by
  cases check with
  | ok => exact ⟨fun h => Or.inr ⟨rfl, h⟩, fun h => h.elim (fun h => nomatch h) And.right⟩
  | error failure => simp [bind, Except.bind]

theorem except_bind_pure_eq_error_iff {ε α β : Type} {result : Except ε α} {f : α → β} {e : ε} :
    (result >>= fun a => pure (f a)) = .error e ↔ result = .error e := by
  cases result with
  | ok a => exact iff_of_false (fun h => nomatch h) fun h => nomatch h
  | error failure => simp [bind, Except.bind]

theorem except_map_eq_ok_iff {ε α β : Type} {result : Except ε α} {f : α → β} {b : β} :
    result.map f = .ok b ↔ ∃ a, result = .ok a ∧ f a = b := by
  cases result <;> simp [Except.map]

theorem except_map_eq_error_iff {ε α β : Type} {result : Except ε α} {f : α → β} {e : ε} :
    result.map f = .error e ↔ result = .error e := by
  cases result <;> simp [Except.map]

theorem except_mapError_eq_ok_iff {ε δ α : Type} {result : Except ε α} {f : ε → δ} {a : α} :
    result.mapError f = .ok a ↔ result = .ok a := by
  cases result with
  | ok b =>
      change Except.ok b = Except.ok a ↔ Except.ok b = Except.ok a
      rw [Except.ok.injEq, Except.ok.injEq]
  | error e =>
      refine iff_of_false ?_ ?_
      · intro h
        cases h
      · intro h
        cases h

theorem except_mapError_eq_error_iff {ε δ α : Type} {result : Except ε α} {f : ε → δ} {d : δ} :
    result.mapError f = .error d ↔ ∃ e, result = .error e ∧ d = f e := by
  constructor
  · intro h
    cases result with
    | ok a => cases h
    | error e =>
        cases h
        exact ⟨e, rfl, rfl⟩
  · rintro ⟨e, rfl, rfl⟩
    rfl

/-- Where one of several cases always holds and each says what comes of it, nothing comes but of its
own case. -/
theorem except_eq_iff_of_cases {ε α : Type} {result : Except ε α} {P : α → Prop} {Q : ε → Prop}
    (hok : ∀ a, P a → result = .ok a) (herror : ∀ e, Q e → result = .error e)
    (hcases : (∃ a, P a) ∨ ∃ e, Q e) :
    (∀ a, result = .ok a ↔ P a) ∧ ∀ e, result = .error e ↔ Q e := by
  rcases hcases with ⟨b, hb⟩ | ⟨d, hd⟩
  · refine ⟨fun a => ⟨fun h => ?_, hok a⟩, fun e => ⟨fun h => ?_, herror e⟩⟩
    · exact Except.ok.inj ((hok b hb).symm.trans h) ▸ hb
    · exact nomatch (hok b hb).symm.trans h
  · refine ⟨fun a => ⟨fun h => ?_, hok a⟩, fun e => ⟨fun h => ?_, herror e⟩⟩
    · exact nomatch (herror d hd).symm.trans h
    · exact Except.error.inj ((herror d hd).symm.trans h) ▸ hd

/-- Where two results come from one, both succeed or both end in the same failure. -/
theorem except_agree_of_eq_map {ε α β γ : Type} {result : Except ε α} {left : Except ε β}
    {right : Except ε γ} {f : α → β} {g : α → γ} (hleft : left = result.map f)
    (hright : right = result.map g) :
    ((∃ b, left = .ok b) ↔ ∃ c, right = .ok c) ∧ ∀ e, left = .error e ↔ right = .error e := by
  subst hleft hright
  cases result with
  | ok a =>
      refine ⟨iff_of_true ⟨f a, rfl⟩ ⟨g a, rfl⟩, fun e => ?_⟩
      exact iff_of_false (fun h => nomatch h) fun h => nomatch h
  | error failure =>
      refine ⟨iff_of_false (fun ⟨_, h⟩ => nomatch h) (fun ⟨_, h⟩ => nomatch h), fun e => ?_⟩
      simp [Except.map]

end FormLetter
