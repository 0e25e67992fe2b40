import PalmyProtocol.Library.Runs
import Mathlib.Data.List.Chain
import Mathlib.Algebra.BigOperators.Group.List.Basic
import Mathlib.Algebra.Order.Field.Basic
import Mathlib.Tactic.Linarith
import Mathlib.Tactic.Ring

set_option autoImplicit false

namespace Runs

open Checked

variable {σ η ε β : Type}

def trace (step : σ → η → Except ε σ) (emit : σ → η → σ → List β) : σ → List η → List β
  | _, [] => []
  | s, e :: rest =>
      match step s e with
      | .ok s' => emit s e s' ++ trace step emit s' rest
      | .error _ => []

variable {step : σ → η → Except ε σ} {emit : σ → η → σ → List β}

theorem trace_cons {s s' : σ} {e : η} {rest : List η} (first : step s e = .ok s') :
    trace step emit s (e :: rest) = emit s e s' ++ trace step emit s' rest := by
  simp [trace, first]

theorem trace_forall (Invariant : σ → Prop) (Fact : β → Prop)
    (preserved : ∀ s e s', Invariant s → step s e = .ok s' → Invariant s')
    (each : ∀ s e s', Invariant s → step s e = .ok s' → ∀ b ∈ emit s e s', Fact b)
    {s t : σ} {events : List η} (initial : Invariant s) (ran : run step s events = .ok t) :
    ∀ b ∈ trace step emit s events, Fact b := by
  induction events generalizing s with
  | nil =>
      intro b member
      cases member
  | cons e rest ih =>
      obtain ⟨s', first, later⟩ := run_cons_ok.1 ran
      rw [trace_cons first]
      intro b member
      rcases List.mem_append.1 member with here | there
      · exact each s e s' initial first b here
      · exact ih (preserved s e s' initial first) later b there

-- What the last item of a trace leaves true of the state, or what was true before the first one.
theorem trace_last (Held : Option β → σ → Prop)
    (kept : ∀ s e s' last, Held last s → step s e = .ok s' →
      Held ((emit s e s').getLast?.or last) s')
    {s t : σ} {events : List η} {last : Option β} (initial : Held last s)
    (ran : run step s events = .ok t) : Held ((trace step emit s events).getLast?.or last) t := by
  induction events generalizing s last with
  | nil =>
      cases ran
      exact initial
  | cons e rest ih =>
      obtain ⟨s', first, later⟩ := run_cons_ok.1 ran
      rw [trace_cons first, List.getLast?_append, Option.or_assoc]
      exact ih (kept s e s' last initial first) later

-- How the items of a trace hang together: `Left b s` is what the emission of `b` leaves true until
-- the next one.
structure Linked (step : σ → η → Except ε σ) (emit : σ → η → σ → List β) (Invariant : σ → Prop)
    (Left : β → σ → Prop) (Link : β → β → Prop) : Prop where
  preserved : ∀ s e s', Invariant s → step s e = .ok s' → Invariant s'
  within : ∀ s e s', Invariant s → step s e = .ok s' → (emit s e s').IsChain Link
  next : ∀ s e s' b b', Invariant s → step s e = .ok s' → Left b s → b' ∈ (emit s e s').head? →
    Link b b'
  leaves : ∀ s e s' b, Invariant s → step s e = .ok s' → b ∈ (emit s e s').getLast? → Left b s'
  kept : ∀ s e s' b, Invariant s → step s e = .ok s' → Left b s → emit s e s' = [] → Left b s'

namespace Linked

variable {Invariant : σ → Prop} {Left : β → σ → Prop} {Link : β → β → Prop}
  {s t : σ} {events : List η}

theorem head (linked : Linked step emit Invariant Left Link) (initial : Invariant s)
    (ran : run step s events = .ok t) {b : β} (left : Left b s) :
    ∀ b' ∈ (trace step emit s events).head?, Link b b' := by
  induction events generalizing s with
  | nil =>
      intro b' member
      cases member
  | cons e rest ih =>
      obtain ⟨s', first, later⟩ := run_cons_ok.1 ran
      rw [trace_cons first]
      cases emitted : emit s e s' with
      | nil =>
          exact ih (linked.preserved s e s' initial first) later
            (linked.kept s e s' b initial first left emitted)
      | cons b' more =>
          have link := linked.next s e s' b b' initial first left (by rw [emitted]; rfl)
          rintro _ ⟨⟩
          exact link

theorem chain (linked : Linked step emit Invariant Left Link) (initial : Invariant s)
    (ran : run step s events = .ok t) : (trace step emit s events).IsChain Link := by
  induction events generalizing s with
  | nil => exact List.isChain_nil
  | cons e rest ih =>
      obtain ⟨s', first, later⟩ := run_cons_ok.1 ran
      have invariant := linked.preserved s e s' initial first
      rw [trace_cons first]
      apply (linked.within s e s' initial first).append (ih invariant later)
      intro b last b' member
      exact linked.head invariant later (linked.leaves s e s' b initial first last) b' member

end Linked

theorem trace_sum (Invariant : σ → Prop) (Allowed : β → Prop) (quantity : σ → Int)
    (weight : β → Int)
    (preserved : ∀ s e s', Invariant s → step s e = .ok s' → Invariant s')
    (moved : ∀ s e s', Invariant s → step s e = .ok s' → (∀ b ∈ emit s e s', Allowed b) →
      quantity s' = quantity s + ((emit s e s').map weight).sum)
    {s t : σ} {events : List η} (initial : Invariant s)
    (allowed : ∀ b ∈ trace step emit s events, Allowed b) (ran : run step s events = .ok t) :
    quantity t = quantity s + ((trace step emit s events).map weight).sum := by
  induction events generalizing s with
  | nil =>
      cases ran
      simp [trace]
  | cons e rest ih =>
      obtain ⟨s', first, later⟩ := run_cons_ok.1 ran
      rw [trace_cons first] at allowed ⊢
      have here := moved s e s' initial first fun b member =>
        allowed b (List.mem_append_left _ member)
      have tail := ih (preserved s e s' initial first)
        (fun b member => allowed b (List.mem_append_right _ member)) later
      rw [tail, here, List.map_append, List.sum_append, Int.add_assoc]

theorem trace_lowers {loss : σ → η → σ → List ℚ} (Invariant : σ → Prop) (Allowed : η → Prop)
    (level : σ → ℚ)
    (preserved : ∀ s e s', Invariant s → Allowed e → step s e = .ok s' → Invariant s')
    (lowered : ∀ s e s', Invariant s → Allowed e → step s e = .ok s' →
      level s ≤ level s' + (loss s e s').sum)
    {s t : σ} {events : List η} (initial : Invariant s) (allowed : ∀ e ∈ events, Allowed e)
    (ran : run step s events = .ok t) : level s ≤ level t + (trace step loss s events).sum := by
  induction events generalizing s with
  | nil =>
      cases ran
      simp [trace]
  | cons e rest ih =>
      obtain ⟨s', first, later⟩ := run_cons_ok.1 ran
      have allowed_first := allowed e List.mem_cons_self
      have here := lowered s e s' initial allowed_first first
      have tail := ih (preserved s e s' initial allowed_first first)
        (fun e' member => allowed e' (List.mem_cons_of_mem e member)) later
      rw [trace_cons first, List.sum_append]
      linarith

theorem sum_near {K : Type*} [Field K] [LinearOrder K] [IsStrictOrderedRing K] {slack : K}
    {weight : β → Int} {ideal : β → K} (near : ∀ b, |(weight b : K) - ideal b| ≤ slack)
    (items : List β) :
    |((items.map weight).sum : K) - (items.map ideal).sum| ≤ items.length * slack := by
  induction items with
  | nil => simp
  | cons b rest ih =>
      have split : (((b :: rest).map weight).sum : K) - ((b :: rest).map ideal).sum =
          (weight b - ideal b) + ((rest.map weight).sum - (rest.map ideal).sum) := by
        simp only [List.map_cons, List.sum_cons]
        push_cast
        ring
      calc |(((b :: rest).map weight).sum : K) - ((b :: rest).map ideal).sum|
          ≤ |weight b - ideal b| + |((rest.map weight).sum : K) - (rest.map ideal).sum| := by
            rw [split]
            exact abs_add_le _ _
        _ ≤ slack + rest.length * slack := add_le_add (near b) ih
        _ = (b :: rest).length * slack := by
            rw [List.length_cons]
            push_cast
            ring

end Runs
