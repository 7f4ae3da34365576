-- SUMMARY: When a chain of computations that may fail gives a result, and deciding whether two outcomes are equal.

/-!
# Outcomes

A computation that may fail gives a result exactly when its first part does and what
is done with that does too. These laws take such chains apart in both directions.
-/

namespace Except

variable {ε α β γ : Type}

instance decidableEq [DecidableEq ε] [DecidableEq α] : DecidableEq (Except ε α)
  | .error fault, .error fault' => decidable_of_iff (fault = fault') (by simp)
  | .ok a,        .ok a'        => decidable_of_iff (a = a') (by simp)
  | .error _,     .ok _         => isFalse (by simp)
  | .ok _,        .error _      => isFalse (by simp)

@[simp] theorem map_eq_ok_iff {outcome : Except ε α} {f : α → β} {b : β} :
    outcome.map f = .ok b ↔ ∃ a, outcome = .ok a ∧ f a = b := by
  cases outcome with
  | error fault => simp [Except.map]
  | ok a => simp [Except.map]

theorem map_eq_error_iff {outcome : Except ε α} {f : α → β} {fault : ε} :
    outcome.map f = .error fault ↔ outcome = .error fault := by
  cases outcome with
  | error cause => simp [Except.map]
  | ok a => simp [Except.map]

theorem map_map (outcome : Except ε α) (f : α → β) (g : β → γ) :
    (outcome.map f).map g = outcome.map (g ∘ f) := by
  cases outcome <;> rfl

theorem toOption_eq_some_iff {outcome : Except ε α} {a : α} :
    outcome.toOption = some a ↔ outcome = .ok a := by
  cases outcome with
  | error fault => simp [Except.toOption]
  | ok a => simp [Except.toOption]

@[simp] theorem bind_eq_ok_iff {outcome : Except ε α} {f : α → Except ε β} {b : β} :
    outcome.bind f = .ok b ↔ ∃ a, outcome = .ok a ∧ f a = .ok b := by
  cases outcome with
  | error fault => simp [Except.bind]
  | ok a => simp [Except.bind]

theorem bind_eq_error_iff {outcome : Except ε α} {f : α → Except ε β} {fault : ε} :
    outcome.bind f = .error fault ↔
      outcome = .error fault ∨ ∃ a, outcome = .ok a ∧ f a = .error fault := by
  cases outcome with
  | error cause => simp [Except.bind]
  | ok a => simp [Except.bind]

/-- Checks that are made one after the other succeed if each of them does. -/
theorem forM_eq_ok_iff {check : α → Except ε Unit} {items : List α} :
    items.forM check = .ok () ↔ ∀ item ∈ items, check item = .ok () := by
  induction items with
  | nil => simp [List.forM, pure, Except.pure]
  | cons item items ih =>
      have hcons : (item :: items).forM check = (check item).bind (fun _ => items.forM check) := rfl
      rw [hcons, bind_eq_ok_iff, List.forall_mem_cons, ← ih]
      exact ⟨fun ⟨_, hitem, hitems⟩ => ⟨hitem, hitems⟩, fun ⟨hitem, hitems⟩ => ⟨_, hitem, hitems⟩⟩

end Except
