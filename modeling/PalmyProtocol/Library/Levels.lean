import PalmyProtocol.Library.Traces
import Mathlib.Logic.Function.Basic

set_option autoImplicit false

-- Levels, one for each key, that steps raise and never lower.
namespace Levels

open Checked Runs

variable {σ η ε κ : Type} [DecidableEq κ] {step : σ → η → Except ε σ} {level : σ → κ → Nat}
  {emit : σ → η → σ → List (κ × Nat)} {Invariant : σ → Prop}

def raised (step : σ → η → Except ε σ) (emit : σ → η → σ → List (κ × Nat)) (s : σ)
    (events : List η) (k : κ) : List Nat :=
  ((trace step emit s events).filter fun item => item.1 = k).map Prod.snd

namespace Rises

variable {s t : σ} {events : List η}

end Rises

end Levels
