import Mathlib.Data.List.Perm.Basic
import Mathlib.Data.List.Sort

/-!
# Rearrange

What a list and a rearrangement of it agree on: tests, searches whose result
is unique, and the sorted list.

This module depends only on the list library.
-/

namespace Rearrange

variable {α : Type*} {l l' : List α}

theorem any_perm {p : α → Bool} (h : l.Perm l') : l.any p = l'.any p := by
  rw [Bool.eq_iff_iff, List.any_eq_true, List.any_eq_true]
  simp only [h.mem_iff]

/-- A search that at most one element answers. -/
theorem find?_perm {p : α → Bool} (h : l.Perm l')
    (huniq : ∀ a ∈ l, ∀ b ∈ l, p a = true → p b = true → a = b) : l.find? p = l'.find? p := by
  cases hf : l.find? p with
  | none =>
      rw [List.find?_eq_none] at hf
      rw [eq_comm, List.find?_eq_none]
      exact fun a ha => hf a (h.mem_iff.mpr ha)
  | some a =>
      have ha := List.mem_of_find?_eq_some hf
      cases hf' : l'.find? p with
      | none =>
          rw [List.find?_eq_none] at hf'
          exact absurd (List.find?_some hf) (hf' a (h.mem_iff.mp ha))
      | some b =>
          have hb := h.mem_iff.mpr (List.mem_of_find?_eq_some hf')
          rw [huniq a ha b hb (List.find?_some hf) (List.find?_some hf')]

/-- Sorting forgets the order when no two elements are equivalent. -/
theorem insertionSort_perm {r : α → α → Prop} [DecidableRel r] [Std.Total r] [IsTrans α r]
    (h : l.Perm l') (hanti : ∀ a ∈ l, ∀ b ∈ l, r a b → r b a → a = b) :
    l.insertionSort r = l'.insertionSort r := by
  have hl := List.perm_insertionSort r l
  have hl' := List.perm_insertionSort r l'
  have hanti' : ∀ a b, a ∈ l.insertionSort r → b ∈ l'.insertionSort r → r a b → r b a → a = b :=
    fun a b ha hb => hanti a (hl.mem_iff.mp ha) b (h.mem_iff.mpr (hl'.mem_iff.mp hb))
  exact List.Perm.eq_of_pairwise hanti' (List.pairwise_insertionSort r l)
    (List.pairwise_insertionSort r l') (hl.trans (h.trans hl'.symm))

/-- A rearrangement whose elements have the images of the others, one by one. -/
theorem exists_perm_forall₂ {β : Type*} {f : α → β} :
    (∃ m, l.Perm m ∧ List.Forall₂ (fun a b => f a = f b) m l') ↔ (l.map f).Perm (l'.map f) := by
  constructor
  · intro ⟨m, hperm, hm⟩
    have hsame : m.map f = l'.map f := by
      rw [← List.forall₂_eq_eq_eq, List.forall₂_map_left_iff, List.forall₂_map_right_iff]
      exact hm
    rw [← hsame]
    exact hperm.map f
  · intro hperm
    have himage : List.Forall₂ (fun a c => f a = c) l (l.map f) := by
      rw [List.forall₂_map_right_iff]
      exact List.forall₂_same.mpr fun _ _ => rfl
    have hcomp : Relation.Comp (List.Forall₂ fun a c => f a = c) List.Perm l (l'.map f) :=
      ⟨_, himage, hperm⟩
    rw [List.forall₂_comp_perm_eq_perm_comp_forall₂] at hcomp
    obtain ⟨m, hm, himages⟩ := hcomp
    exact ⟨m, hm, List.forall₂_map_right_iff.mp himages⟩

/-- Images of sorted lists, where the images are sorted alike and no two of them
are equivalent. -/
theorem map_insertionSort_eq_iff {β : Type*} {f : α → β} {r : α → α → Prop} {s : β → β → Prop}
    [DecidableRel r] [DecidableRel s] [Std.Total s] [IsTrans β s] (hf : ∀ a b, r a b ↔ s (f a) (f b))
    (hanti : ∀ a ∈ l.map f, ∀ b ∈ l.map f, s a b → s b a → a = b) :
    (l.insertionSort r).map f = (l'.insertionSort r).map f ↔ (l.map f).Perm (l'.map f) := by
  have hmap (l : List α) : (l.insertionSort r).map f = (l.map f).insertionSort s :=
    List.map_insertionSort r s f l fun a _ b _ => hf a b
  constructor
  · intro hsame
    have hl := (List.perm_insertionSort r l).map f
    have hl' := (List.perm_insertionSort r l').map f
    rw [hsame] at hl
    exact hl.symm.trans hl'
  · intro hperm
    rw [hmap, hmap]
    exact insertionSort_perm hperm hanti

end Rearrange
