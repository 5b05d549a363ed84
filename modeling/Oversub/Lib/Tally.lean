import Mathlib.Algebra.GroupWithZero.Nat
import Mathlib.Data.List.AList
import Mathlib.Data.List.Perm.Basic
import Mathlib.Algebra.BigOperators.Group.List.Basic
import Oversub.Lib.EarlyFold

/-!
# Tally

Keyed sums over a list.  `sumWhere p f l` is the total of `f` over the
elements of `l` that satisfy `p`; a `Tally` is a table that collects such
totals per key, one element at a time.

The rules at the end turn the guards of a loop that adds up amounts into one
condition on the totals: a bound that is closed downwards holds along the
whole loop exactly when it holds of the final sum.

This module depends only on the list library.
-/

namespace Tally

open EarlyFold

variable {α β σ κ : Type}

/-! ## Sums over part of a list -/

/-- The total of `f` over the elements of `l` that satisfy `p`. -/
def sumWhere (p : α → Bool) (f : α → Nat) : List α → Nat
  | [] => 0
  | a :: l => (if p a then f a else 0) + sumWhere p f l

section

variable {p q : α → Bool} {f g : α → Nat} {l : List α}

@[simp] theorem sumWhere_nil : sumWhere p f [] = 0 := rfl

theorem sumWhere_cons {a : α} :
    sumWhere p f (a :: l) = (if p a then f a else 0) + sumWhere p f l := rfl

theorem sumWhere_append {l' : List α} :
    sumWhere p f (l ++ l') = sumWhere p f l + sumWhere p f l' := by
  induction l with
  | nil => rw [List.nil_append, sumWhere_nil, Nat.zero_add]
  | cons a l ih => rw [List.cons_append, sumWhere_cons, sumWhere_cons, ih, Nat.add_assoc]

theorem sumWhere_concat {a : α} :
    sumWhere p f (l ++ [a]) = sumWhere p f l + if p a then f a else 0 := by
  rw [sumWhere_append, sumWhere_cons, sumWhere_nil, Nat.add_zero]

theorem sumWhere_perm {l' : List α} (h : l.Perm l') : sumWhere p f l = sumWhere p f l' := by
  induction h with
  | nil => rfl
  | cons a _ ih => rw [sumWhere_cons, sumWhere_cons, ih]
  | swap a b l => rw [sumWhere_cons, sumWhere_cons, sumWhere_cons, sumWhere_cons, Nat.add_left_comm]
  | trans _ _ ih ih' => rw [ih, ih']

theorem sumWhere_congr (hp : ∀ a ∈ l, p a = q a) (hf : ∀ a ∈ l, q a = true → f a = g a) :
    sumWhere p f l = sumWhere q g l := by
  induction l with
  | nil => rfl
  | cons a l ih =>
      obtain ⟨hpa, hp⟩ := List.forall_mem_cons.mp hp
      obtain ⟨hfa, hf⟩ := List.forall_mem_cons.mp hf
      rw [sumWhere_cons, sumWhere_cons, ih hp hf, hpa]
      cases h : q a with
      | true => rw [hfa h]
      | false => rfl

theorem sumWhere_mono (hp : ∀ a ∈ l, p a = true → q a = true)
    (hf : ∀ a ∈ l, p a = true → f a ≤ g a) : sumWhere p f l ≤ sumWhere q g l := by
  induction l with
  | nil => exact Nat.le_refl 0
  | cons a l ih =>
      obtain ⟨hpa, hp⟩ := List.forall_mem_cons.mp hp
      obtain ⟨hfa, hf⟩ := List.forall_mem_cons.mp hf
      rw [sumWhere_cons, sumWhere_cons]
      refine Nat.add_le_add ?_ (ih hp hf)
      cases h : p a with
      | true => rw [if_pos rfl, if_pos (hpa h)]; exact hfa h
      | false => exact Nat.zero_le _

/-- The same with two lists, element by element. -/
theorem sumWhere_forall₂ {R : α → β → Prop} {q : β → Bool} {g : β → Nat} {l' : List β}
    (hl : List.Forall₂ R l l') (h : ∀ a b, R a b → p a = q b ∧ f a ≤ g b) :
    sumWhere p f l ≤ sumWhere q g l' := by
  induction hl with
  | nil => exact Nat.le_refl 0
  | cons hab _ ih =>
      obtain ⟨hp, hf⟩ := h _ _ hab
      rw [sumWhere_cons, sumWhere_cons, hp]
      refine Nat.add_le_add ?_ ih
      split
      · exact hf
      · exact Nat.le_refl 0

theorem le_sumWhere {a : α} (ha : a ∈ l) (hp : p a = true) : f a ≤ sumWhere p f l := by
  induction l with
  | nil => cases ha
  | cons b l ih =>
      rw [sumWhere_cons]
      rcases List.mem_cons.mp ha with rfl | ha
      · rw [if_pos hp]; exact Nat.le_add_right _ _
      · exact Nat.le_trans (ih ha) (Nat.le_add_left _ _)

theorem sumWhere_eq_zero : sumWhere p f l = 0 ↔ ∀ a ∈ l, p a = true → f a = 0 := by
  induction l with
  | nil => simp
  | cons a l ih =>
      rw [sumWhere_cons, Nat.add_eq_zero_iff, ih, List.forall_mem_cons]
      cases h : p a <;> simp

theorem sumWhere_true : sumWhere (fun _ => true) f l = (l.map f).sum := by
  induction l with
  | nil => rfl
  | cons a l ih => rw [sumWhere_cons, if_pos rfl, ih, List.map_cons, List.sum_cons]

theorem sumWhere_false : sumWhere (fun _ => false) f l = 0 :=
  sumWhere_eq_zero.mpr fun _ _ h => by cases h

/-- Splitting a sum by a second condition. -/
theorem sumWhere_split (q : α → Bool) :
    sumWhere p f l = sumWhere (fun a => p a && q a) f l + sumWhere (fun a => p a && !q a) f l := by
  induction l with
  | nil => rfl
  | cons a l ih =>
      rw [sumWhere_cons, sumWhere_cons, sumWhere_cons, ih]
      cases p a <;> cases q a <;> simp <;> omega

theorem sumWhere_add : sumWhere p (fun a => f a + g a) l = sumWhere p f l + sumWhere p g l := by
  induction l with
  | nil => rfl
  | cons a l ih =>
      rw [sumWhere_cons, sumWhere_cons, sumWhere_cons, ih]
      split <;> omega

theorem sumWhere_map {γ : Type} {h : γ → α} {l : List γ} :
    sumWhere p f (l.map h) = sumWhere (fun c => p (h c)) (fun c => f (h c)) l := by
  induction l with
  | nil => rfl
  | cons a l ih => rw [List.map_cons, sumWhere_cons, sumWhere_cons, ih]

/-- Summing the totals of all keys of a list without repetitions is summing
over the elements whose key is in that list. -/
theorem sum_fibers [DecidableEq κ] {key : α → κ} {ks : List κ} (hks : ks.Nodup) :
    (ks.map fun k => sumWhere (fun a => p a && decide (key a = k)) f l).sum =
      sumWhere (fun a => p a && decide (key a ∈ ks)) f l := by
  induction ks with
  | nil => simp [sumWhere_false]
  | cons k ks ih =>
      obtain ⟨hk, hks⟩ := List.nodup_cons.mp hks
      rw [List.map_cons, List.sum_cons, ih hks,
        sumWhere_split (p := fun a => p a && decide (key a ∈ k :: ks)) (fun a => decide (key a = k))]
      congr 1
      · refine sumWhere_congr (fun a _ => ?_) fun _ _ _ => rfl
        by_cases h : key a = k <;> simp [h]
      · refine sumWhere_congr (fun a _ => ?_) fun _ _ _ => rfl
        by_cases h : key a = k
        · simp [h, hk]
        · simp [h]

end

/-! ## Tables of totals -/

/-- A table with one total for each key that occurs. -/
abbrev Table (κ : Type) := AList fun _ : κ => Nat

variable [DecidableEq κ]

/-- The total of a key; a key that does not occur has none. -/
def get (t : Table κ) (k : κ) : Nat := (t.lookup k).getD 0

def add (t : Table κ) (k : κ) (n : Nat) : Table κ := t.insert k (get t k + n)

@[simp] theorem get_empty (k : κ) : get (∅ : Table κ) k = 0 := rfl

theorem get_add (t : Table κ) (k k' : κ) (n : Nat) :
    get (add t k n) k' = get t k' + if k = k' then n else 0 := by
  unfold add get
  by_cases h : k = k'
  · subst h; rw [AList.lookup_insert, if_pos rfl, Option.getD_some]
  · rw [AList.lookup_insert_ne (Ne.symm h), if_neg h, Nat.add_zero]

theorem mem_add {t : Table κ} {k k' : κ} {n : Nat} : k' ∈ add t k n ↔ k' = k ∨ k' ∈ t :=
  AList.mem_insert t

/-- An entry of the table is a key that occurs, with its total. -/
theorem mem_entries {t : Table κ} {k : κ} {n : Nat} :
    (⟨k, n⟩ : Σ _ : κ, Nat) ∈ t.entries ↔ k ∈ t ∧ n = get t k := by
  rw [← AList.mem_lookup_iff, Option.mem_def]
  constructor
  · intro h
    have hk : k ∈ t := by
      rw [← AList.lookup_isSome, h]; rfl
    exact ⟨hk, by rw [get, h]; rfl⟩
  · rintro ⟨hk, rfl⟩
    obtain ⟨m, hm⟩ := Option.isSome_iff_exists.mp (AList.lookup_isSome.mpr hk)
    rw [get, hm, Option.getD_some]

/-- Adding the elements of a list that satisfy `p`, each to the total of its key. -/
def collect (p : α → Bool) (key : α → κ) (f : α → Nat) (t : Table κ) (l : List α) : Table κ :=
  l.foldl (fun t a => if p a then add t (key a) (f a) else t) t

section

variable {p : α → Bool} {key : α → κ} {f : α → Nat}

theorem get_collect {t : Table κ} {l : List α} {k : κ} :
    get (collect p key f t l) k =
      get t k + sumWhere (fun a => p a && decide (key a = k)) f l := by
  induction l generalizing t with
  | nil => rfl
  | cons a l ih =>
      rw [collect, List.foldl_cons, ← collect, ih, sumWhere_cons]
      cases h : p a with
      | true =>
          rw [if_pos rfl, get_add, Bool.true_and]
          simp only [decide_eq_true_eq]
          omega
      | false => simp

theorem collect_concat {t : Table κ} {l : List α} {a : α} :
    collect p key f t (l ++ [a]) =
      if p a then add (collect p key f t l) (key a) (f a) else collect p key f t l := by
  rw [collect, List.foldl_append, List.foldl_cons, List.foldl_nil, ← collect]

theorem mem_collect {t : Table κ} {l : List α} {k : κ} :
    k ∈ collect p key f t l ↔ k ∈ t ∨ ∃ a ∈ l, p a = true ∧ key a = k := by
  induction l generalizing t with
  | nil => simp [collect]
  | cons a l ih =>
      rw [collect, List.foldl_cons, ← collect, ih]
      cases h : p a with
      | true =>
          rw [if_pos rfl, mem_add, @eq_comm _ k]
          simp only [List.mem_cons, exists_eq_or_imp, h, true_and]
          rw [or_left_comm, or_assoc]
      | false => simp [h]

end

/-! ## Guards on running totals -/

section

variable {fits : Nat → Prop} {p : α → Bool} {f : α → Nat} {l : List α}

/-- **Running total**: a downward closed bound holds after every addition
exactly when it holds of the sum. -/
theorem eachPrefix_total (hfits : ∀ {m n : Nat}, m ≤ n → fits n → fits m) (h0 : fits 0) :
    EachPrefix (fun pre a => p a = true → fits (sumWhere p f pre + f a)) l ↔
      fits (sumWhere p f l) := by
  induction l using List.reverseRecOn with
  | nil => simp [h0]
  | append_singleton l a ih =>
      rw [eachPrefix_concat, ih, sumWhere_concat]
      cases h : p a with
      | true =>
          rw [if_pos rfl]
          exact ⟨fun hl => hl.2 rfl, fun hsum => ⟨hfits (Nat.le_add_right _ _) hsum, fun _ => hsum⟩⟩
      | false => simp

/-- The same key by key. -/
theorem eachPrefix_table (hfits : ∀ {m n : Nat}, m ≤ n → fits n → fits m) (h0 : fits 0)
    {key : α → κ} :
    EachPrefix (fun pre a => p a = true →
        fits (sumWhere (fun b => p b && decide (key b = key a)) f pre + f a)) l ↔
      ∀ k, fits (sumWhere (fun a => p a && decide (key a = k)) f l) := by
  have hkey : ∀ k, fits (sumWhere (fun a => p a && decide (key a = k)) f l) ↔
      EachPrefix (fun pre a => (p a && decide (key a = k)) = true →
        fits (sumWhere (fun a => p a && decide (key a = k)) f pre + f a)) l :=
    fun k => (eachPrefix_total hfits h0).symm
  simp only [hkey, Bool.and_eq_true, decide_eq_true_eq, and_imp]
  constructor
  · intro h k pre a post hl hp hk
    exact hk ▸ h pre a post hl hp
  · intro h pre a post hl hp
    exact h (key a) pre a post hl hp rfl

end

end Tally
