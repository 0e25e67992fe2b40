import PalmyProtocol.Library.Traces

set_option autoImplicit false

-- What a step may write, and what therefore reads the same after it.
namespace Footprint

open Checked Runs

variable {σ κ ν : Type} {read : σ → κ → ν} {Scope : κ → Prop} {s t u : σ} {cells more : List κ}

def Writes (read : σ → κ → ν) (Scope : κ → Prop) (cells : List κ) (s t : σ) : Prop :=
  ∀ cell, Scope cell → cell ∉ cells → read t cell = read s cell

theorem Writes.refl (cells : List κ) (s : σ) : Writes read Scope cells s s := fun _ _ _ => rfl

theorem Writes.of_same (same : read t = read s) (cells : List κ) : Writes read Scope cells s t :=
  fun cell _ _ => congrFun same cell

theorem Writes.mono (writes : Writes read Scope cells s t) (sub : cells ⊆ more) :
    Writes read Scope more s t :=
  fun cell inside untouched => writes cell inside fun member => untouched (sub member)

theorem Writes.append (first : Writes read Scope cells s t) (second : Writes read Scope more t u) :
    Writes read Scope (cells ++ more) s u := by
  intro cell inside untouched
  rw [List.mem_append, not_or] at untouched
  rw [second cell inside untouched.2, first cell inside untouched.1]

theorem Writes.trans (first : Writes read Scope cells s t) (second : Writes read Scope cells t u) :
    Writes read Scope cells s u :=
  (first.append second).mono fun _ member => (List.mem_append.1 member).elim id id

theorem Writes.within (writes : Writes read (fun _ => True) cells s t) :
    Writes read Scope cells s t :=
  fun cell _ untouched => writes cell trivial untouched

variable {η ε : Type} {step : σ → η → Except ε σ} {footprint : σ → η → List κ}

theorem run_relates (Invariant : σ → Prop) (Relates : κ → σ → σ → Prop)
    (refl : ∀ key s, Relates key s s)
    (trans : ∀ key s t u, Relates key s t → Relates key t u → Relates key s u)
    (preserved : ∀ s e s', Invariant s → step s e = .ok s' → Invariant s')
    (each : ∀ key s e s', Invariant s → step s e = .ok s' → key ∉ footprint s e → Relates key s s')
    {events : List η} (initial : Invariant s) (ran : run step s events = .ok t) {key : κ}
    (unnamed : key ∉ trace step (fun s e _ => footprint s e) s events) : Relates key s t := by
  induction events generalizing s with
  | nil =>
      cases ran
      exact refl key _
  | cons e rest ih =>
      obtain ⟨s', first, later⟩ := run_cons_ok.1 ran
      rw [trace_cons first, List.mem_append, not_or] at unnamed
      exact trans key s s' t (each key s e s' initial first unnamed.1)
        (ih (preserved s e s' initial first) later unnamed.2)

theorem run_writes (Invariant : σ → Prop)
    (preserved : ∀ s e s', Invariant s → step s e = .ok s' → Invariant s')
    (each : ∀ s e s', Invariant s → step s e = .ok s' →
      Writes read Scope (footprint s e) s s')
    {events : List η} (initial : Invariant s) (ran : run step s events = .ok t) :
    Writes read Scope (trace step (fun s e _ => footprint s e) s events) s t := by
  intro key inside unnamed
  refine run_relates Invariant (fun key s t => Scope key → read t key = read s key)
    (fun _ _ _ => rfl) ?_ preserved ?_ initial ran unnamed inside
  · intro key s t u first second inside
    rw [second inside, first inside]
  · intro key s e s' holds taken unnamed inside
    exact each s e s' holds taken key inside unnamed

end Footprint
