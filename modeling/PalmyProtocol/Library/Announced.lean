import PalmyProtocol.Library.Traces

set_option autoImplicit false

namespace Runs

open Checked

variable {σ η ε α β : Type}

def Announces (step : σ → η → Except ε σ) (emit : σ → η → σ → List β) (quantity : σ → α)
    (announced : β → Option α) : Prop :=
  ∀ s e s', step s e = .ok s' →
    quantity s = ((emit s e s').findSome? announced).getD (quantity s')

namespace Announces

variable {step : σ → η → Except ε σ} {emit : σ → η → σ → List β} {quantity : σ → α}
  {announced : β → Option α}

theorem run (announces : Announces step emit quantity announced) {s t : σ} {events : List η}
    (ran : Runs.run step s events = .ok t) :
    quantity s = ((trace step emit s events).findSome? announced).getD (quantity t) := by
  induction events generalizing s with
  | nil =>
      cases ran
      rfl
  | cons e rest ih =>
      obtain ⟨s', first, later⟩ := run_cons_ok.1 ran
      have here := announces s e s' first
      rw [trace_cons first, List.findSome?_append]
      cases said : (emit s e s').findSome? announced with
      | none =>
          rw [said, Option.getD_none] at here
          rw [here, Option.none_or]
          exact ih later
      | some value =>
          rw [said, Option.getD_some] at here
          rw [here, Option.some_or, Option.getD_some]

end Announces

end Runs
