import Mathlib.Data.List.Basic

/-!
# Oversub.Lib.Halving

The halving search of a table for the first entry of which a predicate fails
that holds of a front of the table only.  The loop keeps the place it looks for
between its two ends (`loop_eq`), and the search finds what a scan from the
front would (`search_eq`).
-/

namespace Halving

variable {α : Type*} {below : α → Bool} {l : List α} {a : α} {i first len : Nat}

/-- The search among the `len` entries from `first` on. -/
def loop (below : α → Bool) (l : List α) (first len : Nat) : Nat :=
  if len = 0 then first
  else
    match l[first + len / 2]? with
    | none => first
    | some a =>
        if below a then loop below l (first + len / 2 + 1) (len - len / 2 - 1)
        else loop below l first (len / 2)
termination_by len
decreasing_by all_goals omega

def search (below : α → Bool) (l : List α) : Option α := l[loop below l 0 l.length]?

/-- The predicate holds of a front of the table, and of nothing behind it. -/
def Parted (below : α → Bool) (l : List α) : Prop :=
  l.Pairwise fun a b => below b = true → below a = true

/-- In a parted table an entry's place decides. -/
theorem Parted.below_iff (h : Parted below l) (hi : l[i]? = some a) :
    below a = true ↔ i < (l.takeWhile below).length := by
  induction l generalizing i with
  | nil => simp at hi
  | cons b l ih =>
      obtain ⟨hb, hl⟩ := List.pairwise_cons.mp h
      cases hbelow : below b with
      | true =>
          rw [List.takeWhile_cons_of_pos hbelow, List.length_cons]
          cases i with
          | zero =>
              obtain rfl := Option.some.inj hi
              simp [hbelow]
          | succ i => rw [ih hl hi, Nat.succ_lt_succ_iff]
      | false =>
          rw [List.takeWhile_cons_of_neg (by simp [hbelow])]
          have hnone : below a ≠ true := by
            intro ha
            cases i with
            | zero =>
                obtain rfl := Option.some.inj hi
                simp [hbelow] at ha
            | succ i =>
                have hfront := hb a (List.mem_of_getElem? hi) ha
                simp [hbelow] at hfront
          simp [hnone]

theorem length_takeWhile_le : (l.takeWhile below).length ≤ l.length :=
  (List.takeWhile_prefix below).length_le

/-- The place stays between the ends of the loop, which close in on it. -/
theorem loop_eq (h : Parted below l) (hroom : first + len ≤ l.length)
    (hlow : first ≤ (l.takeWhile below).length) (hhigh : (l.takeWhile below).length ≤ first + len) :
    loop below l first len = (l.takeWhile below).length := by
  fun_induction loop below l first len with
  | case1 first => omega
  | case2 first len hlen hnone =>
      have hout := List.getElem?_eq_none_iff.mp hnone
      omega
  | case3 first len hlen a ha hbelow ih =>
      have hplace := (h.below_iff ha).mp hbelow
      exact ih (by omega) (by omega) (by omega)
  | case4 first len hlen a ha hbelow ih =>
      have hplace := mt (h.below_iff ha).mpr hbelow
      exact ih (by omega) (by omega) (by omega)

/-- **The search** finds the first entry of which the predicate fails. -/
theorem search_eq (h : Parted below l) : search below l = (l.dropWhile below).head? := by
  have hplace : loop below l 0 l.length = (l.takeWhile below).length :=
    loop_eq h (by omega) (Nat.zero_le _) (by simpa using length_takeWhile_le)
  have hsplit : l[(l.takeWhile below).length]? =
      (l.takeWhile below ++ l.dropWhile below)[(l.takeWhile below).length]? := by
    rw [List.takeWhile_append_dropWhile]
  rw [search, hplace, hsplit, List.getElem?_append_right (Nat.le_refl _), Nat.sub_self,
    List.head?_eq_getElem?]

end Halving
