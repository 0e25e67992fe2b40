import Mathlib.Algebra.Ring.Nat
import Mathlib.Logic.Basic
import Mathlib.Tactic.SplitIfs

set_option autoImplicit false

namespace Checked

variable {ε α β : Type}

def require (condition : Prop) [Decidable condition] (message : ε) : Except ε Unit :=
  if condition then .ok () else .error message

@[simp]
theorem bind_eq_ok {x : Except ε α} {f : α → Except ε β} {b : β} :
    x >>= f = .ok b ↔ ∃ a, x = .ok a ∧ f a = .ok b := by
  cases x <;> simp [bind, Except.bind]

@[simp]
theorem pure_eq_ok {a b : α} : (pure a : Except ε α) = .ok b ↔ a = b := by
  simp [pure, Except.pure]

@[simp]
theorem require_eq_ok {condition : Prop} [Decidable condition] {message : ε} {u : Unit} :
    require condition message = .ok u ↔ condition := by
  by_cases holds : condition <;> simp [require, holds]

-- What a computation on given inputs comes to, as one boolean to be evaluated.
def yields (x : Except ε α) (test : α → Bool) : Bool :=
  match x with
  | .ok a => test a
  | .error _ => false

theorem yields_iff {x : Except ε α} {test : α → Bool} :
    yields x test = true ↔ ∃ a, x = .ok a ∧ test a = true := by
  cases x <;> simp [yields]

@[simp]
theorem error_bind {e : ε} {f : α → Except ε β} : (.error e : Except ε α) >>= f = .error e := rfl

@[simp]
theorem ok_bind {a : α} {f : α → Except ε β} : (.ok a : Except ε α) >>= f = f a := rfl

theorem ite_eq_ok {condition : Prop} [Decidable condition] {x y : Except ε α} {a : α} :
    (if condition then x else y) = .ok a ↔
      (condition ∧ x = .ok a) ∨ (¬condition ∧ y = .ok a) := by
  by_cases holds : condition <;> simp [holds]

def FailsWith (Allowed : ε → Prop) (x : Except ε α) : Prop := ∀ e, x = .error e → Allowed e

variable {Allowed : ε → Prop}

theorem FailsWith.mono {Wider : ε → Prop} {x : Except ε α} (fails : FailsWith Allowed x)
    (wider : ∀ e, Allowed e → Wider e) : FailsWith Wider x :=
  fun e failed => wider e (fails e failed)

theorem failsWith_ok (a : α) : FailsWith Allowed (.ok a : Except ε α) := by
  intro e failed
  cases failed

theorem failsWith_pure (a : α) : FailsWith Allowed (pure a : Except ε α) := failsWith_ok a

theorem failsWith_error {e : ε} (allowed : Allowed e) :
    FailsWith Allowed (.error e : Except ε α) := by
  rintro _ ⟨⟩
  exact allowed

theorem failsWith_bind {x : Except ε α} {f : α → Except ε β} (first : FailsWith Allowed x)
    (rest : ∀ a, x = .ok a → FailsWith Allowed (f a)) : FailsWith Allowed (x >>= f) := by
  cases ran : x with
  | error e => exact failsWith_error (first e ran)
  | ok a => exact rest a ran

theorem failsWith_require {condition : Prop} [Decidable condition] {message : ε}
    (allowed : ¬condition → Allowed message) : FailsWith Allowed (require condition message) := by
  unfold require
  split_ifs with holds
  · exact failsWith_ok ()
  · exact failsWith_error (allowed holds)

theorem failsWith_ite {condition : Prop} [Decidable condition] {x y : Except ε α}
    (yes : condition → FailsWith Allowed x) (no : ¬condition → FailsWith Allowed y) :
    FailsWith Allowed (if condition then x else y) := by
  split_ifs with holds
  · exact yes holds
  · exact no holds

theorem foldlM_invariant {f : α → β → Except ε α} (Invariant : α → Prop) {items : List β}
    (preserved : ∀ a item a', item ∈ items → Invariant a → f a item = .ok a' → Invariant a')
    {a a' : α} (initial : Invariant a) (computed : items.foldlM f a = .ok a') : Invariant a' := by
  induction items generalizing a with
  | nil =>
      cases computed
      exact initial
  | cons first rest ih =>
      simp only [List.foldlM_cons, bind_eq_ok] at computed
      obtain ⟨middle, here, later⟩ := computed
      have next := preserved a first middle (List.mem_cons_self ..) initial here
      exact ih (fun b item b' member => preserved b item b' (List.mem_cons_of_mem _ member))
        next later

theorem foldlM_account {f : α → β → Except ε α} (Invariant : α → Prop) (measure : α → Nat)
    (gain loss : β → Nat) {items : List β}
    (step : ∀ a item a', item ∈ items → Invariant a → f a item = .ok a' →
      Invariant a' ∧ measure a' + loss item = measure a + gain item)
    {a a' : α} (initial : Invariant a) (computed : items.foldlM f a = .ok a') :
    measure a' + (items.map loss).sum = measure a + (items.map gain).sum := by
  induction items generalizing a with
  | nil =>
      cases computed
      rfl
  | cons first rest ih =>
      simp only [List.foldlM_cons, bind_eq_ok] at computed
      obtain ⟨middle, here, later⟩ := computed
      obtain ⟨next, moved⟩ := step a first middle (List.mem_cons_self ..) initial here
      have tail := ih (fun b item b' member => step b item b' (List.mem_cons_of_mem _ member))
        next later
      simp only [List.map_cons, List.sum_cons]
      omega

theorem foldlM_marks {f : α → β → Except ε α} (Invariant Mark : α → Prop) (marks : β → Prop)
    {items : List β}
    (step : ∀ a item a', item ∈ items → Invariant a → f a item = .ok a' →
      Invariant a' ∧ (marks item ∨ Mark a → Mark a'))
    {a a' : α} (initial : Invariant a) (computed : items.foldlM f a = .ok a')
    (marked : (∃ item ∈ items, marks item) ∨ Mark a) : Mark a' := by
  induction items generalizing a with
  | nil =>
      cases computed
      rcases marked with ⟨_, member, _⟩ | marked
      · cases member
      · exact marked
  | cons first rest ih =>
      simp only [List.foldlM_cons, bind_eq_ok] at computed
      obtain ⟨middle, here, later⟩ := computed
      obtain ⟨next, brings⟩ := step a first middle (List.mem_cons_self ..) initial here
      refine ih (fun b item b' member => step b item b' (List.mem_cons_of_mem _ member)) next later ?_
      rcases marked with ⟨item, member, marked⟩ | marked
      · rcases List.mem_cons.1 member with rfl | inside
        · exact .inr (brings (.inl marked))
        · exact .inl ⟨item, inside, marked⟩
      · exact .inr (brings (.inr marked))

theorem foldlM_visits {f : α → β → Except ε α} {items : List β} {a b : α}
    (computed : items.foldlM f a = .ok b) {item : β} (member : item ∈ items) :
    ∃ a' a'', f a' item = .ok a'' := by
  induction items generalizing a with
  | nil => cases member
  | cons first rest ih =>
      simp only [List.foldlM_cons, bind_eq_ok] at computed
      obtain ⟨middle, here, later⟩ := computed
      rcases List.mem_cons.1 member with rfl | inside
      · exact ⟨a, middle, here⟩
      · exact ih later inside

theorem foldlM_congr {f g : α → β → Except ε α} {items : List β}
    (same : ∀ item ∈ items, ∀ a, f a item = g a item) (a : α) :
    items.foldlM f a = items.foldlM g a := by
  induction items generalizing a with
  | nil => rfl
  | cons first rest ih =>
      rw [List.foldlM_cons, List.foldlM_cons, same first (List.mem_cons_self ..)]
      exact bind_congr (ih fun item member => same item (List.mem_cons_of_mem _ member))

-- Two loops over the same items in step: where one returns, so does the other.
theorem foldlM_simulates {γ : Type} {f : α → β → Except ε α} {g : γ → β → Except ε γ}
    (Related : α → γ → Prop)
    (step : ∀ item a c a', Related a c → f a item = .ok a' →
      ∃ c', g c item = .ok c' ∧ Related a' c')
    {items : List β} {a a' : α} {c : γ} (related : Related a c)
    (computed : items.foldlM f a = .ok a') :
    ∃ c', items.foldlM g c = .ok c' ∧ Related a' c' := by
  induction items generalizing a c with
  | nil =>
      cases computed
      exact ⟨c, rfl, related⟩
  | cons first rest ih =>
      simp only [List.foldlM_cons, bind_eq_ok] at computed
      obtain ⟨middle, here, later⟩ := computed
      obtain ⟨between, there, met⟩ := step first a c middle related here
      obtain ⟨c', after, finished⟩ := ih met later
      exact ⟨c', by rw [List.foldlM_cons, there, ok_bind, after], finished⟩

theorem foldlM_range_ok {f : α → Nat → Except ε α} (Invariant : Nat → α → Prop) {count : Nat}
    (each : ∀ n < count, ∀ a, Invariant n a → ∃ a', f a n = .ok a' ∧ Invariant (n + 1) a')
    {a : α} (initial : Invariant 0 a) :
    ∃ a', (List.range count).foldlM f a = .ok a' ∧ Invariant count a' := by
  induction count with
  | zero => exact ⟨a, rfl, initial⟩
  | succ n ih =>
      obtain ⟨middle, before, holds⟩ := ih fun i below => each i (Nat.lt_succ_of_lt below)
      obtain ⟨a', last, next⟩ := each n (Nat.lt_succ_self n) middle holds
      refine ⟨a', ?_, next⟩
      rw [List.range_succ, List.foldlM_append, before, ok_bind, List.foldlM_cons, last]
      rfl

end Checked
