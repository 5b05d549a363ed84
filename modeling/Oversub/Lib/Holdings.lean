import Mathlib.Algebra.Group.Action.Defs
import Mathlib.Algebra.GroupWithZero.Nat
import Mathlib.Algebra.Order.BigOperators.Group.List
import Mathlib.Algebra.Order.Ring.Nat
import Mathlib.Data.List.Count

/-!
# Oversub.Lib.Holdings

Parties that hold things.  `f` says what a party holds; when one party of a list
becomes another, the things held change by what these two hold.
-/

namespace Holdings

variable {α β : Type} {f : α → List β} {l : List α} {i : Nat} {x y : α}

/-- What is held after one party became another. -/
theorem count_flatMap_set [BEq β] (h : l[i]? = some x) (b : β) :
    ((l.set i y).flatMap f).count b + (f x).count b = (l.flatMap f).count b + (f y).count b := by
  induction l generalizing i with
  | nil => simp at h
  | cons a l ih =>
      cases i with
      | zero =>
          simp only [List.getElem?_cons_zero, Option.some.injEq] at h
          subst h
          simp only [List.set_cons_zero, List.flatMap_cons, List.count_append]
          omega
      | succ i =>
          have hl := ih (h : l[i]? = some x)
          simp only [List.set_cons_succ, List.flatMap_cons, List.count_append]
          omega

/-- How many parties answer a test after one became another. -/
theorem countP_set {p : α → Bool} (h : l[i]? = some x) :
    (l.set i y).countP p + [x].countP p = l.countP p + [y].countP p := by
  induction l generalizing i with
  | nil => simp at h
  | cons a l ih =>
      cases i with
      | zero =>
          simp only [List.getElem?_cons_zero, Option.some.injEq] at h
          subst h
          simp only [List.set_cons_zero, List.countP_cons, List.countP_nil]
          omega
      | succ i =>
          have hl := ih (h : l[i]? = some x)
          simp only [List.set_cons_succ, List.countP_cons, List.countP_nil] at hl ⊢
          omega

/-- Parties of which none weighs more than `n`. -/
theorem sum_map_le {weight : α → Nat} {n : Nat} (h : ∀ a ∈ l, weight a ≤ n) :
    (l.map weight).sum ≤ n * l.length := by
  have hle : ∀ m ∈ l.map weight, m ≤ n := List.forall_mem_map.mpr h
  have hsum := List.sum_le_card_nsmul _ n hle
  rwa [List.length_map, smul_eq_mul, Nat.mul_comm] at hsum

/-- What the parties weigh after one became another. -/
theorem sum_map_set {weight : α → Nat} (h : l[i]? = some x) :
    ((l.set i y).map weight).sum + weight x = (l.map weight).sum + weight y := by
  induction l generalizing i with
  | nil => simp at h
  | cons a l ih =>
      cases i with
      | zero =>
          simp only [List.getElem?_cons_zero, Option.some.injEq] at h
          subst h
          simp only [List.set_cons_zero, List.map_cons, List.sum_cons]
          omega
      | succ i =>
          have hl := ih (h : l[i]? = some x)
          simp only [List.set_cons_succ, List.map_cons, List.sum_cons]
          omega

/-- A property of all parties that the new one has as well. -/
theorem forall_mem_set {P : α → Prop} (hl : ∀ a ∈ l, P a) (hy : P y) : ∀ a ∈ l.set i y, P a := by
  intro a ha
  rcases List.mem_or_eq_of_mem_set ha with ha | rfl
  · exact hl a ha
  · exact hy

/-- Where at most one party answers a test, nothing is held by the others that
only such a party could hold. -/
theorem flatMap_eq_of_countP {p : α → Bool} (hcount : l.countP p ≤ 1) (h : l[i]? = some x) (hx : p x = true)
    (hf : ∀ a ∈ l, p a = false → f a = []) : l.flatMap f = f x := by
  induction l generalizing i with
  | nil => simp at h
  | cons a l ih =>
      rw [List.forall_mem_cons] at hf
      simp only [List.countP_cons] at hcount
      cases i with
      | zero =>
          simp only [List.getElem?_cons_zero, Option.some.injEq] at h
          subst h
          have hrest : l.flatMap f = [] := by
            rw [List.flatMap_eq_nil_iff]
            intro b hb
            refine hf.2 b hb (Bool.not_eq_true _ ▸ fun hpb => ?_)
            have hpos : 0 < l.countP p := List.countP_pos_iff.mpr ⟨b, hb, hpb⟩
            simp only [hx, if_pos] at hcount
            omega
          rw [List.flatMap_cons, hrest, List.append_nil]
      | succ i =>
          have hmem : x ∈ l := List.mem_of_getElem? (h : l[i]? = some x)
          have hpos : 0 < l.countP p := List.countP_pos_iff.mpr ⟨x, hmem, hx⟩
          have hpa : p a = false := by
            by_contra hpa
            simp only [Bool.not_eq_false] at hpa
            simp only [hpa, if_pos] at hcount
            omega
          rw [List.flatMap_cons, hf.1 hpa, List.nil_append]
          exact ih (by omega) h hf.2

end Holdings
