import PalmyProtocol.Library.Checked
import Mathlib.Tactic.Common
import Mathlib.Data.List.Induction

set_option autoImplicit false

namespace Runs

open Checked

variable {σ η ε : Type}

-- A step that fails ends the run: nothing after it happened.
def run (step : σ → η → Except ε σ) : σ → List η → Except ε σ
  | s, [] => .ok s
  | s, e :: rest => step s e >>= fun s' => run step s' rest

variable {step : σ → η → Except ε σ}

@[simp]
theorem run_nil (s : σ) : run step s [] = .ok s := rfl

theorem run_cons_ok {s t : σ} {e : η} {rest : List η} :
    run step s (e :: rest) = .ok t ↔ ∃ s', step s e = .ok s' ∧ run step s' rest = .ok t := by
  simp [run]

theorem run_append (s : σ) (left right : List η) :
    run step s (left ++ right) = run step s left >>= fun s' => run step s' right := by
  induction left generalizing s with
  | nil => rfl
  | cons e rest ih =>
      cases head : step s e with
      | error message => simp [run, head]
      | ok s' => simp [run, head, ih]

theorem run_invariant {Invariant : σ → Prop}
    (preserved : ∀ s e s', Invariant s → step s e = .ok s' → Invariant s')
    {s t : σ} {events : List η} (initial : Invariant s) (ran : run step s events = .ok t) :
    Invariant t := by
  induction events generalizing s with
  | nil =>
      cases ran
      exact initial
  | cons e rest ih =>
      obtain ⟨s', first, later⟩ := run_cons_ok.1 ran
      exact ih (preserved s e s' initial first) later

-- The same induction when every event of the run is known to satisfy a condition.
theorem run_invariant_of (Invariant : σ → Prop) (Allowed : σ → η → Prop)
    (preserved : ∀ s e s', Invariant s → Allowed s e → step s e = .ok s' → Invariant s')
    {s t : σ} {events : List η} (initial : Invariant s)
    (allowed : ∀ before e after s', events = before ++ e :: after →
      run step s before = .ok s' → Allowed s' e)
    (ran : run step s events = .ok t) : Invariant t := by
  induction events generalizing s with
  | nil =>
      cases ran
      exact initial
  | cons e rest ih =>
      obtain ⟨s', first, later⟩ := run_cons_ok.1 ran
      have here : Allowed s e := allowed [] e rest s rfl rfl
      apply ih (preserved s e s' initial here first) _ later
      intro before e' after t' split reached
      apply allowed (e :: before) e' after t' (by simp [split])
      exact run_cons_ok.2 ⟨s', first, reached⟩

theorem run_forget {τ : Type} {step' : τ → η → Except ε τ} (forget : σ → τ)
    (follows : ∀ s e s', step s e = .ok s' → step' (forget s) e = .ok (forget s'))
    {s t : σ} {events : List η} (ran : run step s events = .ok t) :
    run step' (forget s) events = .ok (forget t) := by
  induction events generalizing s with
  | nil =>
      cases ran
      rfl
  | cons e rest ih =>
      obtain ⟨s', first, later⟩ := run_cons_ok.1 ran
      exact run_cons_ok.2 ⟨forget s', follows s e s' first, ih later⟩

theorem run_translate {τ θ : Type} {step' : τ → θ → Except ε τ} (forget : σ → τ)
    (translate : η → θ) (Allowed : σ → η → Prop)
    (follows : ∀ s e s', Allowed s e → step s e = .ok s' →
      step' (forget s) (translate e) = .ok (forget s'))
    {s t : σ} {events : List η}
    (allowed : ∀ before e after s', events = before ++ e :: after →
      run step s before = .ok s' → Allowed s' e)
    (ran : run step s events = .ok t) :
    run step' (forget s) (events.map translate) = .ok (forget t) := by
  induction events generalizing s with
  | nil =>
      cases ran
      rfl
  | cons e rest ih =>
      obtain ⟨s', first, later⟩ := run_cons_ok.1 ran
      refine run_cons_ok.2 ⟨forget s', follows s e s' (allowed [] e rest s rfl rfl) first, ?_⟩
      apply ih _ later
      intro before e' after t' split reached
      apply allowed (e :: before) e' after t' (by simp [split])
      exact run_cons_ok.2 ⟨s', first, reached⟩

theorem run_split {s t : σ} {before rest : List η} {e : η}
    (ran : run step s (before ++ e :: rest) = .ok t) :
    ∃ s' s'', run step s before = .ok s' ∧ step s' e = .ok s'' ∧ run step s'' rest = .ok t := by
  rw [run_append, bind_eq_ok] at ran
  obtain ⟨s', first, later⟩ := ran
  obtain ⟨s'', taken, last⟩ := run_cons_ok.1 later
  exact ⟨s', s'', first, taken, last⟩

theorem run_exact (Invariant Good : σ → Prop) (Allowed : σ → η → Prop)
    (preserved : ∀ s e s', Invariant s → step s e = .ok s' → Invariant s')
    (exact : ∀ s e s', Invariant s → Good s → step s e = .ok s' → (Good s' ↔ Allowed s e))
    {s t : σ} {events : List η} (holds : Invariant s) (initial : Good s)
    (ran : run step s events = .ok t) :
    (∀ before after s', events = before ++ after → run step s before = .ok s' → Good s') ↔
      ∀ before e after s', events = before ++ e :: after → run step s before = .ok s' →
        Allowed s' e := by
  constructor
  · intro good before e after s' split reached
    rw [split] at ran
    obtain ⟨u, u', first, taken, _⟩ := run_split ran
    rw [reached] at first
    cases first
    have here : Good s' := good before (e :: after) s' split reached
    apply (exact s' e u' (run_invariant preserved holds reached) here taken).1
    apply good (before ++ [e]) after u' (by simp [split])
    rw [run_append, reached]
    exact run_cons_ok.2 ⟨u', taken, rfl⟩
  · intro allowed before after s' split reached
    have both := run_invariant_of (fun u => Invariant u ∧ Good u) Allowed
      (fun u e u' both allowed taken => ⟨preserved u e u' both.1 taken,
        (exact u e u' both.1 both.2 taken).2 allowed⟩) ⟨holds, initial⟩
      (fun earlier e later u inner at_u =>
        allowed earlier e (later ++ after) u (by simp [split, inner]) at_u) reached
    exact both.2

theorem run_history {Invariant : List η → σ → Prop} {s t : σ} {events : List η}
    (preserved : ∀ before e u u', run step s before = .ok u → Invariant before u →
      step u e = .ok u' → Invariant (before ++ [e]) u')
    (initial : Invariant [] s) (ran : run step s events = .ok t) : Invariant events t := by
  induction events using List.reverseRecOn generalizing t with
  | nil =>
      cases ran
      exact initial
  | append_singleton before e ih =>
      rw [run_append, bind_eq_ok] at ran
      obtain ⟨u, earlier, last⟩ := ran
      obtain ⟨u', taken, done⟩ := run_cons_ok.1 last
      cases done
      exact preserved before e u _ earlier (ih earlier) taken

theorem foldl_read {β γ : Type} {write : σ → β → σ} (read : σ → γ) (Wrote : β → γ → Prop)
    (each : ∀ s item, read (write s item) = read s ∨ Wrote item (read (write s item)))
    (s : σ) (items : List β) :
    read (items.foldl write s) = read s ∨
      ∃ item ∈ items, Wrote item (read (items.foldl write s)) := by
  induction items generalizing s with
  | nil => exact .inl rfl
  | cons item rest ih =>
      rw [List.foldl_cons]
      rcases ih (write s item) with same | ⟨later, member, wrote⟩
      · rw [same]
        rcases each s item with kept | wrote
        · exact .inl kept
        · exact .inr ⟨item, List.mem_cons_self .., wrote⟩
      · exact .inr ⟨later, List.mem_cons_of_mem _ member, wrote⟩

def Reachable (step : σ → η → Except ε σ) (Initial : σ → Prop) (t : σ) : Prop :=
  ∃ s events, Initial s ∧ run step s events = .ok t

theorem Reachable.invariant {Initial : σ → Prop} {t : σ} (Invariant : σ → Prop)
    (reached : Reachable step Initial t) (initial : ∀ s, Initial s → Invariant s)
    (preserved : ∀ s e s', Invariant s → step s e = .ok s' → Invariant s') : Invariant t := by
  obtain ⟨s, events, start, ran⟩ := reached
  exact run_invariant preserved (initial s start) ran

theorem Reachable.next {Initial : σ → Prop} {s t : σ} {e : η}
    (reached : Reachable step Initial s) (taken : step s e = .ok t) :
    Reachable step Initial t := by
  obtain ⟨s₀, events, start, ran⟩ := reached
  refine ⟨s₀, events ++ [e], start, ?_⟩
  rw [run_append, ran]
  exact run_cons_ok.2 ⟨t, taken, rfl⟩

def cost (step : σ → η → Except ε σ) (weight : σ → η → Nat) : σ → List η → Nat
  | _, [] => 0
  | s, e :: rest =>
      match step s e with
      | .ok s' => weight s e + cost step weight s' rest
      | .error _ => 0

theorem cost_cons {weight : σ → η → Nat} {s s' : σ} {e : η} {rest : List η}
    (first : step s e = .ok s') :
    cost step weight s (e :: rest) = weight s e + cost step weight s' rest := by
  simp [cost, first]

theorem run_account (Invariant : σ → Prop) (Allowed : η → Prop) (credit debit : σ → η → Nat)
    (account : σ → Int)
    (preserved : ∀ s e s', Invariant s → Allowed e → step s e = .ok s' → Invariant s')
    (booked : ∀ s e s', Invariant s → Allowed e → step s e = .ok s' →
      account s' + debit s e ≤ account s + credit s e)
    {s t : σ} {events : List η} (initial : Invariant s) (allowed : ∀ e ∈ events, Allowed e)
    (ran : run step s events = .ok t) :
    account t + cost step debit s events ≤ account s + cost step credit s events := by
  induction events generalizing s with
  | nil =>
      cases ran
      exact Int.le_refl _
  | cons e rest ih =>
      obtain ⟨s', first, later⟩ := run_cons_ok.1 ran
      have here : Allowed e := allowed e (List.mem_cons_self ..)
      have tail := ih (preserved s e s' initial here first)
        (fun e' member => allowed e' (List.mem_cons_of_mem _ member)) later
      have head := booked s e s' initial here first
      rw [cost_cons first, cost_cons first]
      push_cast
      omega

theorem cost_zero (s : σ) (events : List η) : cost step (fun _ _ => 0) s events = 0 := by
  induction events generalizing s with
  | nil => rfl
  | cons e rest ih =>
      cases first : step s e with
      | error message => simp [cost, first]
      | ok s' => rw [cost_cons first, ih, Nat.add_zero]

-- A budget that every step draws its weight from pays for the whole run.
theorem run_budget (Invariant : σ → Prop) (Allowed : η → Prop) (weight : σ → η → Nat)
    (budget : σ → Nat)
    (preserved : ∀ s e s', Invariant s → step s e = .ok s' → Invariant s')
    (drawn : ∀ s e s', Invariant s → Allowed e → step s e = .ok s' →
      budget s' + weight s e ≤ budget s)
    {s t : σ} {events : List η} (initial : Invariant s) (allowed : ∀ e ∈ events, Allowed e)
    (ran : run step s events = .ok t) : budget t + cost step weight s events ≤ budget s := by
  have paid := run_account Invariant Allowed (fun _ _ => 0) weight (fun s => (budget s : Int))
    (fun s e s' holds _ taken => preserved s e s' holds taken)
    (fun s e s' holds here taken => by
      have head := drawn s e s' holds here taken
      omega)
    initial allowed ran
  rw [cost_zero] at paid
  omega

end Runs
