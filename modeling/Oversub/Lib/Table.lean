import Mathlib.Data.List.Basic

/-!
# Oversub.Lib.Table

Tables kept as lists of keyed entries.  A lookup finds the first entry of a
key and an update rewrites it, so an entry that repeats a key is never seen.

`Table.get` after each operation is what the operation's proofs need to know;
no lemma asks for the keys to be distinct.
-/

namespace Table

variable {α κ : Type} [DecidableEq κ]

/-- The first entry of a key. -/
def get (key : α → κ) (k : κ) (l : List α) : Option α := l.find? fun a => key a = k

/-- Rewrites the first entry of a key. -/
def modify (key : α → κ) (k : κ) (f : α → α) : List α → List α
  | [] => []
  | a :: l => if key a = k then f a :: l else a :: modify key k f l

section

variable {key : α → κ} {k k' : κ} {f : α → α} {a b : α} {l : List α}

theorem key_of_get (h : get key k l = some a) : key a = k := by
  simpa using List.find?_some h

theorem mem_of_get (h : get key k l = some a) : a ∈ l := List.mem_of_find?_eq_some h

@[simp] theorem get_nil : get key k [] = none := rfl

theorem get_cons : get key k (a :: l) = if key a = k then some a else get key k l := by
  unfold get
  by_cases h : key a = k
  · simp [h]
  · simp [h]

theorem get_eq_none : get key k l = none ↔ k ∉ l.map key := by
  simp [get]

theorem get_isSome : (get key k l).isSome = true ↔ k ∈ l.map key := by
  rw [← not_iff_not, Bool.not_eq_true, Option.isSome_eq_false_iff, Option.isNone_iff_eq_none,
    get_eq_none]

theorem get_append : get key k (l ++ [a]) =
    (get key k l).or (if key a = k then some a else none) := by
  rw [get, List.find?_append]
  congr 1
  by_cases h : key a = k
  · simp [h]
  · simp [h]

/-- An entry appended under a key of its own. -/
theorem get_append_ne (h : key a ≠ k) : get key k (l ++ [a]) = get key k l := by
  rw [get_append, if_neg h, Option.or_none]

theorem get_append_new (h : get key k l = none) (ha : key a = k) :
    get key k (l ++ [a]) = some a := by
  rw [get_append, h, if_pos ha, Option.none_or]

/-- A rewriting of every entry that keeps the keys. -/
theorem get_map (hf : ∀ a, key (f a) = key a) : get key k (l.map f) = (get key k l).map f := by
  induction l with
  | nil => rfl
  | cons a l ih =>
      rw [List.map_cons, get_cons, get_cons, hf, ih]
      split <;> rfl

/-- A lookup in a table that was made from another. -/
theorem get_made {β : Type} {f : β → α} {l : List β} :
    get key k (l.map f) = (get (fun b => key (f b)) k l).map f := by
  rw [get, List.find?_map]
  rfl

section

variable (hf : ∀ a, key a = k → key (f a) = k)
include hf

theorem get_modify : get key k (modify key k f l) = (get key k l).map f := by
  induction l with
  | nil => rfl
  | cons a l ih =>
      by_cases h : key a = k
      · rw [modify, if_pos h, get_cons, get_cons, if_pos (hf a h), if_pos h, Option.map_some]
      · rw [modify, if_neg h, get_cons, get_cons, if_neg h, if_neg h, ih]

theorem get_modify_ne (hk : k' ≠ k) : get key k' (modify key k f l) = get key k' l := by
  induction l with
  | nil => rfl
  | cons a l ih =>
      by_cases h : key a = k
      · rw [modify, if_pos h, get_cons, get_cons, hf a h, h, if_neg hk.symm, if_neg hk.symm]
      · rw [modify, if_neg h, get_cons, get_cons, ih]

theorem modify_modify {f' : α → α} :
    modify key k f' (modify key k f l) = modify key k (fun a => f' (f a)) l := by
  induction l with
  | nil => rfl
  | cons a l ih =>
      by_cases h : key a = k
      · rw [modify, if_pos h, modify, if_pos (hf a h), modify, if_pos h]
      · rw [modify, if_neg h, modify, if_neg h, modify, if_neg h, ih]

theorem map_key_modify : (modify key k f l).map key = l.map key := by
  induction l with
  | nil => rfl
  | cons a l ih =>
      by_cases h : key a = k
      · rw [modify, if_pos h, List.map_cons, List.map_cons, hf a h, h]
      · rw [modify, if_neg h, List.map_cons, List.map_cons, ih]

end

theorem length_modify : (modify key k f l).length = l.length := by
  induction l with
  | nil => rfl
  | cons a l ih =>
      by_cases h : key a = k
      · rw [modify, if_pos h, List.length_cons, List.length_cons]
      · rw [modify, if_neg h, List.length_cons, List.length_cons, ih]

/-- A rewritten table has its old entries and a rewritten one. -/
theorem mem_modify (h : b ∈ modify key k f l) : b ∈ l ∨ ∃ a, get key k l = some a ∧ b = f a := by
  induction l with
  | nil => exact .inl h
  | cons a l ih =>
      by_cases ha : key a = k
      · rw [modify, if_pos ha] at h
        rcases List.mem_cons.mp h with hb | hb
        · exact .inr ⟨a, by rw [get_cons, if_pos ha], hb⟩
        · exact .inl (List.mem_cons_of_mem _ hb)
      · rw [modify, if_neg ha] at h
        rcases List.mem_cons.mp h with hb | hb
        · exact .inl (hb ▸ List.mem_cons_self)
        · rcases ih hb with hl | ⟨c, hc, hb⟩
          · exact .inl (List.mem_cons_of_mem _ hl)
          · exact .inr ⟨c, by rw [get_cons, if_neg ha, hc], hb⟩

/-- A rewriting that leaves the entry it finds as it is. -/
theorem modify_of_get (h : get key k l = some a) (hf : f a = a) : modify key k f l = l := by
  induction l with
  | nil => rfl
  | cons b l ih =>
      by_cases hb : key b = k
      · rw [get_cons, if_pos hb] at h
        rw [modify, if_pos hb, Option.some.inj h, hf]
      · rw [get_cons, if_neg hb] at h
        rw [modify, if_neg hb, ih h]

theorem modify_of_get_none (h : get key k l = none) : modify key k f l = l := by
  induction l with
  | nil => rfl
  | cons a l ih =>
      rw [get_cons] at h
      by_cases ha : key a = k
      · rw [if_pos ha] at h
        cases h
      · rw [if_neg ha] at h
        rw [modify, if_neg ha, ih h]

/-! ## Entries put under their keys -/

/-- Puts an entry under its key, in the place of the one that has it. -/
def put (key : α → κ) (a : α) (l : List α) : List α :=
  match get key (key a) l with
  | some _ => modify key (key a) (fun _ => a) l
  | none => l ++ [a]

theorem get_put : get key (key a) (put key a l) = some a := by
  unfold put
  split
  next b hb => rw [get_modify fun _ _ => rfl, hb, Option.map_some]
  next hnone => exact get_append_new hnone rfl

theorem get_put_ne (h : k ≠ key a) : get key k (put key a l) = get key k l := by
  unfold put
  split
  · exact get_modify_ne (fun _ _ => rfl) h
  · exact get_append_ne h.symm

theorem length_put (h : (get key (key a) l).isSome = true) : (put key a l).length = l.length := by
  unfold put
  obtain ⟨b, hb⟩ := Option.isSome_iff_exists.mp h
  rw [hb]
  exact length_modify

theorem length_put_le : (put key a l).length ≤ l.length + 1 := by
  unfold put
  split
  · rw [length_modify]
    exact Nat.le_succ _
  · simp

theorem mem_keys_put : k ∈ (put key a l).map key ↔ k = key a ∨ k ∈ l.map key := by
  rw [← get_isSome, ← get_isSome]
  by_cases h : k = key a
  · simp [h, get_put]
  · simp [h, get_put_ne]

/-- A table that names each key once still does. -/
theorem nodup_put (h : (l.map key).Nodup) : ((put key a l).map key).Nodup := by
  unfold put
  split
  · rwa [map_key_modify fun _ _ => rfl]
  next hnone =>
    rw [get_eq_none] at hnone
    rw [List.map_append, List.map_singleton, List.nodup_append]
    refine ⟨h, by simp, ?_⟩
    intro k hk k' hk' heq
    rw [List.mem_singleton.mp hk'] at heq
    exact hnone (heq ▸ hk)

end

end Table
