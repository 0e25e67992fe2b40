import PalmyProtocol.Library.Runs

set_option autoImplicit false

namespace Runs

variable {σ η ε ρ α : Type}

structure Projects (step : σ → η → Except ε σ) (Invariant : σ → Prop) (view : σ → ρ)
    (visible : η → Option α) (apply : ρ → α → ρ) : Prop where
  preserved : ∀ s e s', Invariant s → step s e = .ok s' → Invariant s'
  shown : ∀ s e s' a, Invariant s → step s e = .ok s' → visible e = some a →
    view s' = apply (view s) a
  hidden : ∀ s e s', Invariant s → step s e = .ok s' → visible e = none → view s' = view s

namespace Projects

variable {step : σ → η → Except ε σ} {Invariant : σ → Prop} {view : σ → ρ}
  {visible : η → Option α} {apply : ρ → α → ρ} {s t : σ} {events : List η}

theorem run (projects : Projects step Invariant view visible apply) (initial : Invariant s)
    (ran : Runs.run step s events = .ok t) :
    view t = (events.filterMap visible).foldl apply (view s) := by
  induction events generalizing s with
  | nil =>
      cases ran
      rfl
  | cons e rest ih =>
      obtain ⟨middle, first, later⟩ := run_cons_ok.1 ran
      have tail := ih (projects.preserved s e middle initial first) later
      cases seen : visible e with
      | none =>
          rw [List.filterMap_cons_none seen, tail, projects.hidden s e middle initial first seen]
      | some a =>
          rw [List.filterMap_cons_some seen, tail, List.foldl_cons,
            projects.shown s e middle a initial first seen]

end Projects

end Runs
