import Mathlib.Algebra.GroupWithZero.Nat
import Mathlib.Data.List.Forall2

/-!
# Oversub.Lib.Pointwise

Two lists related element by element (`List.Forall₂`): what a search, a test
or a sum over one says about the other.
-/

namespace Pointwise

variable {α β : Type*} {R : α → β → Prop} {l : List α} {l' : List β}

/-- A search by a property the relation preserves finds related elements. -/
theorem rel_find? {p : α → Bool} {q : β → Bool} (h : List.Forall₂ R l l')
    (hpq : ∀ a b, R a b → q b = p a) : Option.Rel R (l.find? p) (l'.find? q) := by
  induction h with
  | nil => exact .none
  | cons hab _ ih =>
      rw [List.find?_cons, List.find?_cons, hpq _ _ hab]
      split
      · exact .some hab
      · exact ih

theorem any_mono {p : α → Bool} {q : β → Bool} (h : List.Forall₂ R l l')
    (hpq : ∀ a b, R a b → p a = true → q b = true) (hp : l.any p = true) : l'.any q = true := by
  induction h with
  | nil => exact hp
  | cons hab _ ih =>
      rw [List.any_cons, Bool.or_eq_true] at hp ⊢
      exact hp.imp (hpq _ _ hab) ih

/-- Elementwise larger, so larger in total. -/
theorem sum_le_sum {f : α → Nat} {g : β → Nat} (h : List.Forall₂ R l l')
    (hfg : ∀ a b, R a b → g b ≤ f a) : (l'.map g).sum ≤ (l.map f).sum := by
  induction h with
  | nil => exact Nat.le_refl _
  | cons hab _ ih =>
      rw [List.map_cons, List.map_cons, List.sum_cons, List.sum_cons]
      exact Nat.add_le_add (hfg _ _ hab) ih

theorem map_eq_map {γ : Type*} {f : α → γ} {g : β → γ} (h : List.Forall₂ R l l')
    (hfg : ∀ a b, R a b → g b = f a) : l'.map g = l.map f := by
  induction h with
  | nil => rfl
  | cons hab _ ih => rw [List.map_cons, List.map_cons, hfg _ _ hab, ih]

/-- Only related members are compared. -/
theorem map_eq_of_mem {γ : Type*} {f : α → γ} {g : β → γ} (h : List.Forall₂ R l l')
    (hfg : ∀ a ∈ l, ∀ b ∈ l', R a b → f a = g b) : l.map f = l'.map g := by
  induction h with
  | nil => rfl
  | cons hab _ ih =>
      rw [List.map_cons, List.map_cons, hfg _ List.mem_cons_self _ List.mem_cons_self hab,
        ih fun a ha b hb => hfg a (List.mem_cons_of_mem _ ha) b (List.mem_cons_of_mem _ hb)]

/-- What holds of everything on one side holds, translated, of everything on the other. -/
theorem forall_of_forall {P : α → Prop} {Q : β → Prop} (h : List.Forall₂ R l l')
    (hPQ : ∀ a b, R a b → P a → Q b) (hP : ∀ a ∈ l, P a) : ∀ b ∈ l', Q b := by
  induction h with
  | nil => exact fun _ hb => absurd hb List.not_mem_nil
  | cons hab _ ih =>
      rw [List.forall_mem_cons] at hP ⊢
      exact ⟨hPQ _ _ hab hP.1, ih hP.2⟩

end Pointwise
